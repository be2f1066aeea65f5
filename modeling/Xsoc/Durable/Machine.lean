import Mathlib.Logic.Function.Basic
import Mathlib.Logic.Relation
import Xsoc.Durable.Program

/-!
# Processes that share a store

Any number of processes run programs over one store. Transactions exclude each other by the lock; every other step
interleaves freely, the single writes of a transaction included, so a read without the lock can see the store
between two writes of another process. A process may crash at any step, which releases its lock and leaves the
writes it made. Requests are sent, and replies of any content arrive at any later time, or never.

`Sound.of_reach` : if every call's program satisfies its `Prog.wp`, then in every reachable world the history is
legal, every outcome returned satisfies the postcondition of its call, and every request sent was allowed.
-/

set_option autoImplicit false

namespace Durable

variable {σ ι q r c α : Type}

/-- A process in the middle of a call. -/
structure Running (σ ι q r c α : Type) where
  call : c
  /-- The history when the call was made. -/
  since : History σ (Author c q r ι)
  transcript : List (q × r)
  prog : Prog σ ι q r α
  /-- The request the program waits at has been sent. -/
  sent : Bool

/-- The process that holds the lock: the writes it has still to make, and what it is after them. -/
structure Holding (σ ι q r c α : Type) where
  pid : Nat
  input : ι
  rest : List σ
  next : Running σ ι q r c α

def Holding.author (k : Holding σ ι q r c α) : Author c q r ι := ⟨k.next.call, k.next.transcript, k.input⟩

/-- What a call returned, and between which histories it ran. -/
structure Outcome (σ ι q r c α : Type) where
  call : c
  since : History σ (Author c q r ι)
  upto : History σ (Author c q r ι)
  transcript : List (q × r)
  value : α

/-- A request that left a process, and the history it left in. -/
structure Sent (σ ι q r c : Type) where
  call : c
  transcript : List (q × r)
  moment : History σ (Author c q r ι)
  request : q

structure World (σ ι q r c α : Type) where
  history : History σ (Author c q r ι)
  procs : Nat → Option (Running σ ι q r c α)
  lock : Option (Holding σ ι q r c α)
  returned : List (Outcome σ ι q r c α)
  sent : List (Sent σ ι q r c)

namespace World

/-- No process is in a call. -/
def idle (h : History σ (Author c q r ι)) : World σ ι q r c α := ⟨h, fun _ => none, none, [], []⟩

def setProc (w : World σ ι q r c α) (i : Nat) (p : Option (Running σ ι q r c α)) : World σ ι q r c α :=
  { w with procs := Function.update w.procs i p }

end World

section Steps

variable (program : c → Prog σ ι q r α) (draw : History σ (Author c q r ι) → ι → Prop)
  (lossy : History σ (Author c q r ι) → Prop)

/-- One step of one process. -/
inductive Step : World σ ι q r c α → World σ ι q r c α → Prop
  | call {w : World σ ι q r c α} (i : Nat) (a : c) (hi : w.procs i = none) :
      Step w (w.setProc i (some ⟨a, w.history, [], program a, false⟩))
  /-- What a transaction writes is settled where it takes the lock: nobody else writes until it is released. -/
  | acquire {w : World σ ι q r c α} {p : Running σ ι q r c α} {ws : ι → σ → List σ}
      {n : ι → σ → Prog σ ι q r α} (i : Nat) (input : ι) (hl : w.lock = none) (hi : w.procs i = some p)
      (hp : p.prog = .locked ws n) (ha : draw w.history input) :
      Step w { w with
        lock := some ⟨i, input, ws input w.history.now, { p with prog := n input w.history.now }⟩ }
  | write {w : World σ ι q r c α} {k : Holding σ ι q r c α} {s : σ} {ss : List σ} (hl : w.lock = some k)
      (hr : k.rest = s :: ss) :
      Step w { w with history := w.history.push ⟨s, k.author⟩, lock := some { k with rest := ss } }
  | release {w : World σ ι q r c α} {k : Holding σ ι q r c α} (hl : w.lock = some k) (hr : k.rest = []) :
      Step w { w.setProc k.pid (some k.next) with lock := none }
  | peek {w : World σ ι q r c α} {p : Running σ ι q r c α} {n : Option σ → Prog σ ι q r α} (i : Nat)
      (o : Option σ) (hi : w.procs i = some p) (hp : p.prog = .peek n)
        (ho : (o = none ∧ lossy w.history) ∨ o = some w.history.now) :
      Step w (w.setProc i (some { p with prog := n o }))
  | emit {w : World σ ι q r c α} {p : Running σ ι q r c α} {m : q} {n : r → Prog σ ι q r α} (i : Nat)
      (hi : w.procs i = some p) (hp : p.prog = .send m n) (hs : p.sent = false) :
      Step w { w.setProc i (some { p with sent := true }) with
        sent := ⟨p.call, p.transcript, w.history, m⟩ :: w.sent }
  | reply {w : World σ ι q r c α} {p : Running σ ι q r c α} {m : q} {n : r → Prog σ ι q r α} (i : Nat) (a : r)
      (hi : w.procs i = some p) (hp : p.prog = .send m n) (hs : p.sent = true) :
      Step w (w.setProc i (some { p with transcript := p.transcript ++ [(m, a)], prog := n a, sent := false }))
  | ret {w : World σ ι q r c α} {p : Running σ ι q r c α} {a : α} (i : Nat) (hi : w.procs i = some p)
      (hp : p.prog = .ret a) :
      Step w { w.setProc i none with
        returned := ⟨p.call, p.since, w.history, p.transcript, a⟩ :: w.returned }
  | crash {w : World σ ι q r c α} (i : Nat) :
      Step w { w.setProc i none with lock := w.lock.filter (fun k => k.pid != i) }

/-- The worlds that runs lead to from an idle one. -/
def Reach (h : History σ (Author c q r ι)) (w : World σ ι q r c α) : Prop :=
  Relation.ReflTransGen (Step program draw lossy) (World.idle h) w

end Steps

/-! ## Soundness -/

/-- The postcondition of each call: of its value and transcript, at the moment it returned, against its start. -/
abbrev Post (σ ι q r c α : Type) : Type :=
  c → History σ (Author c q r ι) → α → List (q × r) → History σ (Author c q r ι) → Prop

/-- A process in a call respects `G` from some moment on, and its call's postcondition follows. -/
def Running.Sound (G : Guarantee σ c q r ι) (Q : Post σ ι q r c α) (h : History σ (Author c q r ι))
    (p : Running σ ι q r c α) : Prop :=
  ∃ k, p.since ≤ k ∧ k ≤ h ∧ p.prog.wp G p.call p.transcript k (Q p.call p.since)

theorem Running.Sound.mono {G : Guarantee σ c q r ι} {Q : Post σ ι q r c α} {h h' : History σ (Author c q r ι)}
    {p : Running σ ι q r c α} (hp : p.Sound G Q h) (hle : h ≤ h') : p.Sound G Q h' := by
  obtain ⟨k, hk, hkh, hw⟩ := hp
  exact ⟨k, hk, hkh.trans hle, hw⟩

structure World.Sound (G : Guarantee σ c q r ι) (Q : Post σ ι q r c α) (w : World σ ι q r c α) : Prop where
  legal : G.Legal w.history
  procs : ∀ i p, w.procs i = some p → p.Sound G Q w.history
  lock : ∀ k, w.lock = some k → Permitted G.permit k.author w.history k.rest ∧
    k.next.Sound G Q (w.history.extend k.author k.rest)
  returned : ∀ o ∈ w.returned, o.upto ≤ w.history ∧
    ∃ k, o.since ≤ k ∧ k ≤ o.upto ∧ Q o.call o.since o.value o.transcript k
  sent : ∀ s ∈ w.sent, s.moment ≤ w.history ∧ G.Legal s.moment ∧ G.emit s.call s.transcript s.moment s.request

variable {program : c → Prog σ ι q r α} {G : Guarantee σ c q r ι} {Q : Post σ ι q r c α}

theorem World.Sound.idle {h : History σ (Author c q r ι)} (hl : G.Legal h) :
    (World.idle h : World σ ι q r c α).Sound G Q where
  legal := hl
  procs := by intro i p hp; cases hp
  lock := by intro k hk; cases hk
  returned := by intro o ho; cases ho
  sent := by intro s hs; cases hs

/-- Replacing one process by a sound one, or by none, keeps the processes sound. -/
theorem procs_setProc {w : World σ ι q r c α} (hw : w.Sound G Q) (i : Nat) {o : Option (Running σ ι q r c α)}
    (ho : ∀ p, o = some p → p.Sound G Q w.history) :
    ∀ j p, (w.setProc i o).procs j = some p → p.Sound G Q w.history := by
  intro j p hj
  by_cases hij : j = i
  · subst hij
    exact ho p (by simpa [World.setProc] using hj)
  · exact hw.procs j p (by simpa [World.setProc, Function.update_of_ne hij] using hj)

theorem step_sound (hprog : ∀ a h, G.Legal h → (program a).wp G a [] h (Q a h)) {w w' : World σ ι q r c α}
    (hw : w.Sound G Q) (hs : Step program G.draw G.lossy w w') : w'.Sound G Q := by
  cases hs with
  | call i a hi =>
    have hnew : ∀ p, some (⟨a, w.history, [], program a, false⟩ : Running σ ι q r c α) = some p →
        p.Sound G Q w.history := by
      rintro p ⟨⟩
      exact ⟨w.history, le_refl _, le_refl _, hprog a w.history hw.legal⟩
    exact ⟨hw.legal, procs_setProc hw i hnew, hw.lock, hw.returned, hw.sent⟩
  | @acquire p ws n i input hl hi hp ha =>
    obtain ⟨k, hsk, hkh, hwp⟩ := hw.procs i p hi
    rw [hp] at hwp
    obtain ⟨hperm, hnext⟩ := hwp w.history hkh hw.legal input ha
    refine ⟨hw.legal, hw.procs, ?_, hw.returned, hw.sent⟩
    rintro _ ⟨⟩
    exact ⟨hperm, _, hsk.trans (hkh.trans (History.le_extend _ _ _)), le_refl _, hnext⟩
  | @write k s ss hl hr =>
    obtain ⟨hperm, hnext⟩ := hw.lock k hl
    rw [hr] at hperm hnext
    have hle : w.history ≤ w.history.push ⟨s, k.author⟩ := History.le_push _ _
    refine ⟨.push hw.legal hperm.1, fun i p hp => (hw.procs i p hp).mono hle, ?_, ?_, ?_⟩
    · rintro _ ⟨⟩
      exact ⟨hperm.2, hnext⟩
    · exact fun o ho => ⟨(hw.returned o ho).1.trans hle, (hw.returned o ho).2⟩
    · exact fun t ht => ⟨(hw.sent t ht).1.trans hle, (hw.sent t ht).2⟩
  | @release k hl hr =>
    have hnext := (hw.lock k hl).2
    rw [hr] at hnext
    refine ⟨hw.legal, procs_setProc hw k.pid ?_, ?_, hw.returned, hw.sent⟩
    · rintro p ⟨⟩; exact hnext
    · intro k' hk'; cases hk'
  | @peek p n i o hi hp ho =>
    obtain ⟨k, hsk, hkh, hwp⟩ := hw.procs i p hi
    rw [hp] at hwp
    have hboth := hwp w.history hkh hw.legal
    have hnew : ∀ p', some { p with prog := n o } = some p' → p'.Sound G Q w.history := by
      rintro p' ⟨⟩
      refine ⟨w.history, hsk.trans hkh, le_refl _, ?_⟩
      rcases ho with ⟨rfl, hlossy⟩ | rfl
      · exact hboth.1 hlossy
      · exact hboth.2
    exact ⟨hw.legal, procs_setProc hw i hnew, hw.lock, hw.returned, hw.sent⟩
  | @emit p m n i hi hp hs =>
    have hsound := hw.procs i p hi
    obtain ⟨k, hsk, hkh, hwp⟩ := hsound
    rw [hp] at hwp
    have hnew : ∀ p', some { p with sent := true } = some p' → p'.Sound G Q w.history := by
      rintro p' ⟨⟩; exact hw.procs i p hi
    refine ⟨hw.legal, procs_setProc hw i hnew, hw.lock, hw.returned, ?_⟩
    intro t ht
    rcases List.mem_cons.mp ht with rfl | ht
    · exact ⟨le_refl _, hw.legal, hwp.1 w.history hkh hw.legal⟩
    · exact hw.sent t ht
  | @reply p m n i a hi hp hs =>
    obtain ⟨k, hsk, hkh, hwp⟩ := hw.procs i p hi
    rw [hp] at hwp
    have hnew : ∀ p', some { p with transcript := p.transcript ++ [(m, a)], prog := n a, sent := false } = some p' →
        p'.Sound G Q w.history := by
      rintro p' ⟨⟩; exact ⟨k, hsk, hkh, hwp.2 a⟩
    exact ⟨hw.legal, procs_setProc hw i hnew, hw.lock, hw.returned, hw.sent⟩
  | @ret p a i hi hp =>
    obtain ⟨k, hsk, hkh, hwp⟩ := hw.procs i p hi
    rw [hp] at hwp
    refine ⟨hw.legal, procs_setProc hw i (by rintro p' ⟨⟩), hw.lock, ?_, hw.sent⟩
    intro o ho
    rcases List.mem_cons.mp ho with rfl | ho
    · exact ⟨le_refl _, k, hsk, hkh, hwp⟩
    · exact hw.returned o ho
  | crash i =>
    refine ⟨hw.legal, procs_setProc hw i (by rintro p' ⟨⟩), ?_, hw.returned, hw.sent⟩
    intro k hk
    exact hw.lock k (Option.eq_some_of_filter_eq_some hk)

/-- Every reachable world is sound, when every call's program satisfies its `Prog.wp` at every legal history. -/
theorem World.Sound.of_reach (hprog : ∀ a h, G.Legal h → (program a).wp G a [] h (Q a h))
    {h : History σ (Author c q r ι)} (hl : G.Legal h) {w : World σ ι q r c α} (hr : Reach program G.draw G.lossy h w) :
    w.Sound G Q := by
  induction hr with
  | refl => exact .idle hl
  | tail _ hs ih => exact step_sound hprog ih hs

/-- A run continues the history it started from. -/
theorem history_le {draw : History σ (Author c q r ι) → ι → Prop} {lossy : History σ (Author c q r ι) → Prop}
    {w w' : World σ ι q r c α} (hrun : Relation.ReflTransGen (Step program draw lossy) w w') :
    w.history ≤ w'.history := by
  induction hrun with
  | refl => exact le_refl _
  | tail _ hs ih =>
    refine ih.trans ?_
    cases hs with
    | write hl hr => exact History.le_push _ _
    | _ => exact le_refl _

end Durable
