import Mathlib.Data.List.Basic
import Xsoc.Machines.Steps

/-!
# Work in the background

A collector that is polled has its work done by threads. It remembers the channel of one of them, when it last tried to
start one, and what it has been told last; a thread sends one result, or dies without.

* `Collector.poll` : adopt what has arrived, and start a thread when it is time to;
* `World` : the collector and every attempt to start a thread; `step` : a poll, or what a thread does;
* `shown` : the outcome of the latest attempt that has one, which is what a poll returns;
* `Consistent` : the invariant; `Consistent.step` : each step keeps it.
-/

set_option autoImplicit false

namespace Background

open Machines

variable {τ ι : Type}

/-- What `try_recv` finds in the channel. -/
inductive Received (τ : Type)
  | message (value : τ)
  | empty
  | disconnected

/-- What a collector is made with. The clock is compared in units, and `ι` is what a poll is told. -/
structure Policy (τ ι : Type) where
  enabled : Bool
  initial : τ
  stopped : τ
  unstarted : τ
  unit : Nat
  unit_pos : 0 < unit
  delay : ι → Nat

/-- The fields of a collector: the channel of a thread is its number. -/
structure Collector (τ : Type) where
  pending : Option Nat
  lastStarted : Option Nat
  cached : τ

namespace Collector

/-- What has arrived is adopted. -/
def adopt (p : Policy τ ι) (c : Collector τ) (received : Received τ) : Collector τ :=
  match c.pending with
  | none => c
  | some _ =>
    match received with
    | .message value => { c with cached := value, pending := none }
    | .disconnected => { c with cached := p.stopped, pending := none }
    | .empty => c

/-- It is time to start a thread. -/
def due (p : Policy τ ι) (c : Collector τ) (told : ι) (asked : Nat) : Bool :=
  p.enabled && c.pending.isNone && c.lastStarted.all fun t => p.delay told ≤ (asked - t) / p.unit

/-- A thread is started, if the system has one. -/
def start (p : Policy τ ι) (c : Collector τ) (thread : Option Nat) (started : Nat) : Collector τ :=
  match thread with
  | some i => { c with pending := some i, lastStarted := some started }
  | none => { c with cached := p.unstarted, lastStarted := some started }

/-- The clock is read twice, to see whether it is time and after the thread has been started. -/
def poll (p : Policy τ ι) (c : Collector τ) (told : ι) (asked started : Nat) (received : Received τ)
    (thread : Option Nat) : Collector τ :=
  let c := c.adopt p received
  if c.due p told asked then c.start p thread started else c

end Collector

/-! ## The threads -/

inductive Worker (τ : Type)
  | unstarted
  | running
  | sent (value : τ)
  | dead

/-- A try to start a thread: when it was time, what was remembered of it, and for how long the collector had to wait. -/
structure Attempt (τ : Type) where
  asked : Nat
  started : Nat
  delay : Nat
  worker : Worker τ

/-- The collector and all of the tries, the first of them first. -/
structure World (τ : Type) where
  collector : Collector τ
  attempts : List (Attempt τ)
  clock : Nat

def World.new (p : Policy τ ι) (clock : Nat) : World τ := ⟨⟨none, none, p.initial⟩, [], clock⟩

/-- What the channel of a thread holds. -/
def Worker.received : Worker τ → Received τ
  | sent value => .message value
  | running => .empty
  | unstarted | dead => .disconnected

def World.received (w : World τ) : Received τ :=
  match w.collector.pending.bind fun i => w.attempts[i]? with
  | some a => a.worker.received
  | none => .empty

inductive Event (τ ι : Type)
  | poll (told : ι) (asked started : Nat) (spawned : Bool)
  /-- A thread sends its result. -/
  | send (i : Nat) (value : τ)
  /-- A thread ends without. -/
  | die (i : Nat)

def World.poll (p : Policy τ ι) (w : World τ) (told : ι) (asked started : Nat) (spawned : Bool) : World τ :=
  { collector := w.collector.poll p told asked started w.received (if spawned then some w.attempts.length else none)
    attempts :=
      if (w.collector.adopt p w.received).due p told asked then
        w.attempts ++ [⟨asked, started, p.delay told * p.unit, if spawned then .running else .unstarted⟩]
      else w.attempts
    clock := started }

/-- A thread that runs ends in some way. -/
def World.finish (w : World τ) (i : Nat) (worker : Worker τ) : Option (World τ) :=
  match w.attempts[i]? with
  | some ⟨asked, started, delay, .running⟩ =>
    some { w with attempts := w.attempts.set i ⟨asked, started, delay, worker⟩ }
  | _ => none

/-- The clock does not run backwards. -/
def step (p : Policy τ ι) (w : World τ) : Event τ ι → Option (World τ)
  | .poll told asked started spawned =>
    if w.clock ≤ asked ∧ asked ≤ started then some (w.poll p told asked started spawned) else none
  | .send i value => w.finish i (.sent value)
  | .die i => w.finish i .dead

/-! ## What a poll returns -/

def Worker.ended : Worker τ → Bool
  | running => false
  | unstarted | sent _ | dead => true

/-- What there is to show of an attempt. -/
def Worker.outcome (p : Policy τ ι) : Worker τ → Option τ
  | running => none
  | sent value => some value
  | unstarted => some p.unstarted
  | dead => some p.stopped

/-- The outcome of the latest attempt that has one. -/
def shown (p : Policy τ ι) (attempts : List (Attempt τ)) : τ :=
  ((attempts.filterMap fun a => a.worker.outcome p).getLast?).getD p.initial

variable {p : Policy τ ι} {attempts : List (Attempt τ)} {a : Attempt τ}

@[simp] theorem shown_nil : shown p ([] : List (Attempt τ)) = p.initial := rfl

theorem shown_concat (p : Policy τ ι) (attempts : List (Attempt τ)) (a : Attempt τ) :
    shown p (attempts ++ [a]) = (a.worker.outcome p).getD (shown p attempts) := by
  unfold shown
  cases h : a.worker.outcome p with
  | none => simp [h]
  | some value => simp [h]

/-- What the collector knows of the attempts: each of them has ended and the last outcome is adopted, or this holds of
the ones before the last, whose channel the collector has. -/
inductive Knows (p : Policy τ ι) (c : Collector τ) (attempts : List (Attempt τ)) : Prop
  | idle (hpending : c.pending = none) (hended : ∀ a ∈ attempts, a.worker.ended = true)
      (hcached : c.cached = shown p attempts)
  | waiting {before : List (Attempt τ)} {a : Attempt τ} (heq : attempts = before ++ [a])
      (hpending : c.pending = some before.length) (hended : ∀ b ∈ before, b.worker.ended = true)
      (hcached : c.cached = shown p before) (hstarted : a.worker ≠ .unstarted)

/-- What holds between two steps. -/
structure Consistent (p : Policy τ ι) (w : World τ) : Prop where
  knows : Knows p w.collector w.attempts
  last : ∀ a ∈ w.attempts, ∃ t, w.collector.lastStarted = some t ∧ a.started ≤ t
  remembered : ∀ t, w.collector.lastStarted = some t → ∃ a ∈ w.attempts, a.started = t
  past : ∀ a ∈ w.attempts, a.started ≤ w.clock
  spaced : w.attempts.Pairwise fun a b => a.started + b.delay ≤ b.asked
  delays : ∀ a ∈ w.attempts, ∃ told, a.delay = p.delay told * p.unit
  disabled : p.enabled = false → w.attempts = []

theorem consistent_new (p : Policy τ ι) (clock : Nat) : Consistent p (World.new p clock) where
  knows := .idle rfl (fun a ha => by cases ha) rfl
  last := fun a ha => by cases ha
  remembered := fun t ht => by cases ht
  past := fun a ha => by cases ha
  spaced := List.Pairwise.nil
  delays := fun a ha => by cases ha
  disabled := fun _ => rfl

variable {w w' : World τ}

theorem lastStarted_adopt (p : Policy τ ι) (c : Collector τ) (received : Received τ) :
    (c.adopt p received).lastStarted = c.lastStarted := by
  unfold Collector.adopt
  cases c.pending with
  | none => rfl
  | some i => cases received <;> rfl

theorem forall_mem_concat {q : Attempt τ → Prop} (hall : ∀ b ∈ attempts, q b) (ha : q a) : ∀ b ∈ attempts ++ [a], q b :=
  fun b hb => (List.mem_append.mp hb).elim (hall b) fun hb => List.mem_singleton.mp hb ▸ ha

/-- What is there when the channel has been looked at. -/
theorem Knows.adopt (h : Knows p w.collector w.attempts) :
    Knows p (w.collector.adopt p w.received) w.attempts ∧
      (w.collector.adopt p w.received).cached = shown p w.attempts := by
  unfold Collector.adopt
  cases h with
  | idle hpending hended hcached =>
    rw [hpending]
    exact ⟨.idle hpending hended hcached, hcached⟩
  | @waiting before a heq hpending hended hcached hstarted =>
    have hreceived : w.received = a.worker.received := by
      unfold World.received
      rw [hpending, heq, Option.bind_some, List.getElem?_concat_length]
    have hshown : shown p w.attempts = (a.worker.outcome p).getD (shown p before) := by rw [heq, shown_concat]
    have hall : a.worker.ended = true → ∀ b ∈ w.attempts, b.worker.ended = true := by
      intro ha
      rw [heq]
      exact forall_mem_concat hended ha
    rw [hreceived, hpending]
    cases hworker : a.worker with
    | unstarted => exact absurd hworker hstarted
    | running =>
      rw [hworker] at hshown
      exact ⟨.waiting heq hpending hended hcached hstarted, hcached.trans hshown.symm⟩
    | sent value =>
      rw [hworker] at hshown hall
      exact ⟨.idle rfl (hall rfl) hshown.symm, hshown.symm⟩
    | dead =>
      rw [hworker] at hshown hall
      exact ⟨.idle rfl (hall rfl) hshown.symm, hshown.symm⟩

/-- A collector without a channel has adopted everything. -/
theorem Knows.settled {c : Collector τ} (h : Knows p c attempts) (hpending : c.pending = none) :
    (∀ a ∈ attempts, a.worker.ended = true) ∧ c.cached = shown p attempts := by
  cases h with
  | idle _ hended hcached => exact ⟨hended, hcached⟩
  | waiting _ hsome => cases hpending.symm.trans hsome

/-- A poll starts nothing, as it waits for a thread or it is not time; or it is time, and it tries to. -/
theorem poll_cases (p : Policy τ ι) (w : World τ) (told : ι) (asked started : Nat) (spawned : Bool) :
    ((w.collector.adopt p w.received).due p told asked = false ∧
      w.poll p told asked started spawned = ⟨w.collector.adopt p w.received, w.attempts, started⟩) ∨
    (p.enabled = true ∧ (w.collector.adopt p w.received).pending = none ∧
      (∀ t, w.collector.lastStarted = some t → p.delay told ≤ (asked - t) / p.unit) ∧
      w.poll p told asked started spawned =
        ⟨(w.collector.adopt p w.received).start p (if spawned then some w.attempts.length else none) started,
          w.attempts ++ [⟨asked, started, p.delay told * p.unit, if spawned then .running else .unstarted⟩],
            started⟩) := by
  unfold World.poll Collector.poll
  dsimp only
  cases hdue : (w.collector.adopt p w.received).due p told asked with
  | false => exact Or.inl ⟨rfl, rfl⟩
  | true =>
    have htime := hdue
    unfold Collector.due at htime
    rw [Bool.and_eq_true, Bool.and_eq_true, lastStarted_adopt] at htime
    obtain ⟨⟨henabled, hpending⟩, hlast⟩ := htime
    refine Or.inr ⟨henabled, Option.isNone_iff_eq_none.mp hpending, fun t ht => ?_, rfl⟩
    rw [ht, Option.all_some] at hlast
    exact of_decide_eq_true hlast

/-- What a poll leaves, and returns. -/
theorem Knows.poll (h : Knows p w.collector w.attempts) (told : ι) (asked started : Nat) (spawned : Bool) :
    Knows p (w.poll p told asked started spawned).collector (w.poll p told asked started spawned).attempts ∧
      (w.poll p told asked started spawned).collector.cached =
        shown p (w.poll p told asked started spawned).attempts := by
  obtain ⟨hknows, hcached⟩ := h.adopt
  rcases poll_cases p w told asked started spawned with ⟨-, hpoll⟩ | ⟨-, hpending, -, hpoll⟩
  · rw [hpoll]
    exact ⟨hknows, hcached⟩
  · have hended := (hknows.settled hpending).1
    rw [hpoll]
    cases spawned with
    | true =>
      have hshown : shown p (w.attempts ++ [⟨asked, started, p.delay told * p.unit, .running⟩]) = shown p w.attempts :=
        shown_concat p w.attempts _
      exact ⟨.waiting rfl rfl hended hcached (fun hworker => by cases hworker), hcached.trans hshown.symm⟩
    | false =>
      have hshown : shown p (w.attempts ++ [⟨asked, started, p.delay told * p.unit, .unstarted⟩]) = p.unstarted :=
        shown_concat p w.attempts _
      exact ⟨.idle hpending (forall_mem_concat hended rfl) hshown.symm, hshown.symm⟩

/-- The thread that ends is the last one. -/
theorem Knows.finish (h : Knows p w.collector w.attempts) {i : Nat} {worker : Worker τ}
    (hfinish : w.finish i worker = some w') : ∃ before a, w.attempts = before ++ [a] ∧
      w.collector.pending = some before.length ∧ (∀ b ∈ before, b.worker.ended = true) ∧
      w.collector.cached = shown p before ∧ w' = { w with attempts := before ++ [{ a with worker := worker }] } := by
  unfold World.finish at hfinish
  split at hfinish
  · next asked started delay ha =>
    cases hfinish
    have hmem := List.mem_of_getElem? ha
    cases h with
    | idle hpending hended hcached => cases hended _ hmem
    | @waiting before a heq hpending hended hcached hstarted =>
      rw [heq] at ha
      rcases Nat.lt_trichotomy i before.length with hi | rfl | hi
      · cases hended _ (List.mem_of_getElem? ((List.getElem?_append_left hi).symm.trans ha))
      · rw [List.getElem?_concat_length] at ha
        cases ha
        refine ⟨before, _, heq, hpending, hended, hcached, ?_⟩
        rw [heq, List.set_append_right _ _ (Nat.le_refl _), Nat.sub_self, List.set_cons_zero]
      · rw [List.getElem?_eq_none (by rw [List.length_append, List.length_singleton]; omega)] at ha
        cases ha
  · cases hfinish

theorem Consistent.poll (h : Consistent p w) {told : ι} {asked started : Nat} (spawned : Bool)
    (hclock : w.clock ≤ asked)
    (hasked : asked ≤ started) : Consistent p (w.poll p told asked started spawned) := by
  have hknows := (h.knows.poll told asked started spawned).1
  have hpast : ∀ a ∈ w.attempts, a.started ≤ started := fun a ha =>
    Nat.le_trans (h.past a ha) (Nat.le_trans hclock hasked)
  rcases poll_cases p w told asked started spawned with ⟨-, hpoll⟩ | ⟨henabled, -, hwaited, hpoll⟩
  · rw [hpoll] at hknows ⊢
    have hlast := lastStarted_adopt p w.collector w.received
    exact ⟨hknows, fun a ha => by rw [hlast]; exact h.last a ha, fun t ht => h.remembered t (hlast.symm.trans ht),
      hpast,
      h.spaced, h.delays, h.disabled⟩
  · rw [hpoll] at hknows ⊢
    have hlast : ((w.collector.adopt p w.received).start p (if spawned then some w.attempts.length else none)
        started).lastStarted = some started := by
      cases spawned <;> rfl
    refine ⟨hknows, ?_, ?_, forall_mem_concat hpast (Nat.le_refl _), ?_, forall_mem_concat h.delays ⟨told, rfl⟩,
      fun hoff => ?_⟩
    · exact forall_mem_concat (fun a ha => ⟨started, hlast, hpast a ha⟩) ⟨started, hlast, Nat.le_refl _⟩
    · intro t ht
      cases hlast.symm.trans ht
      exact ⟨_, List.mem_append_right _ (List.mem_singleton_self _), rfl⟩
    · refine List.pairwise_append.mpr ⟨h.spaced, List.pairwise_singleton _ _, fun a ha b hb => ?_⟩
      rw [List.mem_singleton.mp hb]
      obtain ⟨t, ht, hle⟩ := h.last a ha
      have hfull : p.delay told * p.unit ≤ asked - t := (Nat.le_div_iff_mul_le p.unit_pos).mp (hwaited t ht)
      obtain ⟨b, hb, hbt⟩ := h.remembered t ht
      have hnow : t ≤ asked := hbt ▸ Nat.le_trans (h.past b hb) hclock
      dsimp only
      omega
    · rw [hoff] at henabled
      cases henabled

/-- A thread ends, and nothing that the collector has is touched. -/
theorem Consistent.finish (h : Consistent p w) {i : Nat} {worker : Worker τ} (hended : worker ≠ .unstarted)
    (hfinish : w.finish i worker = some w') : Consistent p w' := by
  obtain ⟨before, a, heq, hpending, hbefore, hcached, rfl⟩ := h.knows.finish hfinish
  have hlast := h.last
  have hremembered := h.remembered
  have hpast := h.past
  have hspaced := h.spaced
  have hdelays := h.delays
  rw [heq] at hlast hremembered hpast hspaced hdelays
  have ha := List.mem_append_right before (List.mem_singleton_self a)
  have hold : ∀ b ∈ before, b ∈ before ++ [a] := fun b hb => List.mem_append_left [a] hb
  refine ⟨.waiting rfl hpending hbefore hcached hended, ?_, ?_, ?_, ?_, ?_, fun hoff => ?_⟩
  · exact forall_mem_concat (fun b hb => hlast b (hold b hb)) (hlast a ha)
  · intro t ht
    obtain ⟨b, hb, hbt⟩ := hremembered t ht
    rcases List.mem_append.mp hb with hb | hb
    · exact ⟨b, List.mem_append_left _ hb, hbt⟩
    · cases List.mem_singleton.mp hb
      exact ⟨_, List.mem_append_right _ (List.mem_singleton_self _), hbt⟩
  · exact forall_mem_concat (fun b hb => hpast b (hold b hb)) (hpast a ha)
  · obtain ⟨hfirst, -, hcross⟩ := List.pairwise_append.mp hspaced
    refine List.pairwise_append.mpr ⟨hfirst, List.pairwise_singleton _ _, fun b hb c hc => ?_⟩
    rw [List.mem_singleton.mp hc]
    exact hcross b hb a (List.mem_singleton_self a)
  · exact forall_mem_concat (fun b hb => hdelays b (hold b hb)) (hdelays a ha)
  · rw [h.disabled hoff] at heq
    cases before <;> cases heq

theorem Consistent.step (h : Consistent p w) {e : Event τ ι} (hstep : Background.step p w e = some w') :
    Consistent p w' := by
  cases e with
  | poll told asked started spawned =>
    simp only [Background.step] at hstep
    split at hstep
    · next hclock =>
      cases hstep
      exact h.poll spawned hclock.1 hclock.2
    · cases hstep
  | send i value => exact h.finish (fun hworker => by cases hworker) hstep
  | die i => exact h.finish (fun hworker => by cases hworker) hstep

/-! ## Runs -/

theorem consistent_of_run {clock : Nat} {events : List (Event τ ι)}
    (hrun : run (Background.step p) (World.new p clock) events = some w) :
    Consistent p w :=
  inv_of_run (consistent_new p clock) (fun _ _ _ h hstep => h.step hstep) hrun

/-- No two threads run, and the one that does is the last. -/
theorem Knows.single {c : Collector τ} (h : Knows p c attempts) {before after : List (Attempt τ)}
    (heq : attempts = before ++ a :: after) (hrunning : a.worker.ended = false) : after = [] := by
  have hnot : ∀ {l : List (Attempt τ)}, (∀ b ∈ l, b.worker.ended = true) → a ∉ l := fun hended hmem => by
    have ha := hended a hmem
    rw [hrunning] at ha
    cases ha
  cases h with
  | idle _ hended => exact absurd (heq ▸ List.mem_append_right before List.mem_cons_self) (hnot hended)
  | @waiting first last hlast _ hended =>
    cases after using List.reverseRecOn with
    | nil => rfl
    | append_singleton after b =>
      rw [heq, ← List.cons_append, ← List.append_assoc] at hlast
      have hfirst := (List.append_inj' hlast rfl).1
      exact absurd (hfirst ▸ List.mem_append_right before List.mem_cons_self) (hnot hended)

/-- What is not started by a poll waits for a thread, or for its time. -/
theorem Consistent.prompt (h : Consistent p w) (henabled : p.enabled = true) (told : ι) {asked started : Nat}
    (spawned : Bool) (hasked : asked ≤ started) :
    (w.poll p told asked started spawned).collector.pending.isSome = true ∨
      ∃ a ∈ (w.poll p told asked started spawned).attempts,
        asked ≤ a.started ∨ asked < a.started + p.delay told * p.unit := by
  rcases poll_cases p w told asked started spawned with ⟨hdue, hpoll⟩ | ⟨-, -, -, hpoll⟩
  · rw [hpoll]
    unfold Collector.due at hdue
    rw [henabled, Bool.true_and, Bool.and_eq_false_iff, lastStarted_adopt] at hdue
    rcases hdue with hpending | hwaits
    · exact Or.inl (by simpa using hpending)
    · cases hlast : w.collector.lastStarted with
      | none =>
        rw [hlast] at hwaits
        cases hwaits
      | some t =>
        obtain ⟨a, ha, rfl⟩ := h.remembered t hlast
        rw [hlast, Option.all_some, decide_eq_false_iff_not, Nat.le_div_iff_mul_le p.unit_pos] at hwaits
        exact Or.inr ⟨a, ha, Or.inr (by omega)⟩
  · rw [hpoll]
    exact Or.inr ⟨_, List.mem_append_right _ (List.mem_singleton_self _), Or.inl hasked⟩

end Background
