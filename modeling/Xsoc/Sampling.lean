import Xsoc.Machines.Pace
import Xsoc.Machines.Steps
import Xsoc.Machines.Streaks
import Xsoc.Collectors.Backoff
import Xsoc.Report.Rendering
import Xsoc.Error

/-!
# The sampling loop

`run_loop` takes a sample whenever one is due and queues it; what is sent is up to the delivery worker. It goes on until
the worker ends, a shutdown is asked for, or its own work fails.

* `Tick`, `Event` : what the loop meets; `step` : what it does then;
* `Ends` : what ends it;
* `samples_keep_pace` : when samples are taken; `sampling_ends_iff` : when the loop ends.
-/

set_option autoImplicit false

namespace Xsoc

namespace Sampling

open Pace Streaks
open Backoff (Instant Duration)

/-- What a sample meets. -/
structure Tick where
  began : Instant
  /-- `verify_logging` -/
  logging : Except Error Unit
  /-- `Spool::pending_count` -/
  pending : Except Error Nat
  /-- `SystemSampler::collect` -/
  collect : Nat → ClientReport
  /-- `Spool::enqueue` -/
  enqueue : ClientReport → Except Error Unit
  /-- `sampling_jitter` -/
  jitter : Except Error Duration
  finished : Instant

/-- How a task has ended, or that it cannot be joined. -/
abbrev Joined := Except String (Except Error Unit)

inductive Event
  | workerEnded (result : Joined)
  /-- The worker is told to stop, and does so in time or not. -/
  | shutdown (result : Option Joined)
  | tick (t : Tick)

/-- The variables of `run_loop`, the reports that were to be queued, and what it returns. -/
structure Loop (σ : Type) where
  deadline : Instant
  reads : σ
  writes : σ
  firstReport : Bool
  offered : List ClientReport
  ended : Option (Except Error Unit)

def scheduleNext (deadline : Instant) (interval : Duration) (now : Instant) : Instant :=
  let anchored := deadline + interval
  if now < anchored then anchored else now + interval

def deliveryWorkerResult : Joined → Except Error Unit
  | .error text => .error (.message ("delivery worker task failed: " ++ text))
  | .ok result => result

def stopDeliveryWorker : Option Joined → Except Error Unit
  | none => .ok ()
  | some result => deliveryWorkerResult result

section

variable {σ : Type} (failures : Counter σ Error) (configured : F64)

/-- `SpoolHealth::record_failure` -/
def recordFailure (s : σ) : Except Error Unit × σ :=
  (withContext "persistent spool failure; exiting for service-manager recovery" (failures.recordFailure s).1,
    (failures.recordFailure s).2)

/-- The length of the queue, or none when it cannot be read. -/
def readPending (pending : Except Error Nat) (s : σ) : Except Error Nat × σ :=
  match pending with
  | .ok count => (.ok count, failures.recordSuccess s)
  | .error _ => ((recordFailure failures s).1.map fun _ => 0, (recordFailure failures s).2)

/-- `SpoolHealth::try_enqueue` -/
def tryEnqueue (result : Except Error Unit) (s : σ) : Except Error Unit × σ :=
  match result with
  | .ok () => (.ok (), failures.recordSuccess s)
  | .error _ => recordFailure failures s

/-- `advertise_first_sampling_cadence` -/
def advertise (firstReport : Bool) (report : ClientReport) : ClientReport :=
  if firstReport then { report with intervalSeconds := configured } else report

namespace Loop

def startingNow (now : Instant) : Loop σ := ⟨now, failures.new, failures.new, true, [], none⟩

def finish (s : Loop σ) (result : Except Error Unit) : Loop σ := { s with ended := some result }

/-- A sample, with what its report is like. -/
def sample (t : Tick) (s : Loop σ) : Loop σ :=
  match t.logging with
  | .error e => s.finish (.error e)
  | .ok () =>
    match readPending failures t.pending s.reads with
    | (.error e, reads) => { s with reads := reads }.finish (.error e)
    | (.ok pending, reads) =>
      let report := advertise configured s.firstReport (t.collect pending)
      let s := { s with reads := reads, firstReport := false, offered := s.offered ++ [report] }
      match tryEnqueue failures (t.enqueue report) s.writes with
      | (.error e, writes) => { s with writes := writes }.finish (.error e)
      | (.ok (), writes) =>
        match t.jitter with
        | .error e => { s with writes := writes }.finish (.error e)
        | .ok interval => { s with writes := writes, deadline := scheduleNext s.deadline interval t.finished }

end Loop

/-- The loop, until it has ended. It sleeps until a sample is due. -/
def step (s : Loop σ) (e : Event) : Option (Loop σ) :=
  if s.ended.isSome then none
  else
    match e with
    | .workerEnded result => some (s.finish (deliveryWorkerResult result))
    | .shutdown result => some (s.finish (stopDeliveryWorker result))
    | .tick t =>
      if s.deadline ≤ t.began ∧ t.began ≤ t.finished then some (Loop.sample failures configured t s) else none

end

/-! ## What the loop has met -/

def tick? : Event → Option Tick
  | .tick t => some t
  | _ => none

def ticks (l : List Event) : List Tick := l.filterMap tick?

def Tick.beat (t : Tick) : Beat := ⟨t.began, t.finished, (t.jitter.toOption).getD 0⟩

def beats (l : List Event) : List Beat := (ticks l).map Tick.beat

section

variable (configured : F64)

/-- What is to be queued. -/
def Tick.report (firstReport : Bool) (t : Tick) : ClientReport :=
  advertise configured firstReport (t.collect (t.pending.toOption.getD 0))

def reports : List Tick → List ClientReport
  | [] => []
  | t :: l => t.report configured true :: l.map (Tick.report configured false)

def reads (l : List Tick) : List Bool := l.map fun t => t.pending.isOk

def writes : List Tick → List Bool
  | [] => []
  | t :: l => (t.enqueue (t.report configured true)).isOk ::
      l.map fun t => (t.enqueue (t.report configured false)).isOk

/-- What ends the loop: besides the worker and a shutdown, a failure of its own, or so many in a row of one kind. -/
def Ends (n : Nat) (before : List Tick) : Event → Prop
  | .workerEnded _ | .shutdown _ => True
  | .tick t => t.logging.isOk = false ∨ n ≤ trailing (reads (before ++ [t])) ∨
      n ≤ trailing (writes configured (before ++ [t])) ∨ t.jitter.isOk = false

end

/-! ## One sample -/

section

variable {σ : Type} {failures : Counter σ Error} {configured : F64} {s s' : Loop σ} {t : Tick} {l : List Tick} {n : Nat}

theorem readPending_snd (pending : Except Error Nat) (c : σ) :
    (readPending failures pending c).2 = failures.record c pending.isOk := by
  cases pending with
  | ok count => rfl
  | error e => rfl

theorem readPending_eq_ok {pending : Except Error Nat} {c : σ} {count : Nat}
    (h : (readPending failures pending c).1 = .ok count) : count = pending.toOption.getD 0 := by
  cases pending with
  | ok count' =>
    cases h
    rfl
  | error e =>
    unfold readPending at h
    cases hresult : (recordFailure failures c).1 with
    | ok u =>
      rw [hresult] at h
      cases h
      rfl
    | error e =>
      rw [hresult] at h
      cases h

theorem recordFailure_error (c : σ) :
    (∃ e, (recordFailure failures c).1 = .error e) ↔ ∃ e, (failures.recordFailure c).1 = .error e := by
  unfold recordFailure
  cases (failures.recordFailure c).1 with
  | ok u => exact ⟨(fun ⟨e, h⟩ => by cases h), fun ⟨e, h⟩ => by cases h⟩
  | error e => exact ⟨fun _ => ⟨e, rfl⟩, fun _ => ⟨_, rfl⟩⟩

theorem readPending_error (pending : Except Error Nat) (c : σ) :
    (∃ e, (readPending failures pending c).1 = .error e) ↔
      pending.isOk = false ∧ ∃ e, (failures.recordFailure c).1 = .error e := by
  cases pending with
  | ok count => exact ⟨(fun ⟨e, h⟩ => by cases h), fun h => by cases h.1⟩
  | error e =>
    rw [← recordFailure_error]
    unfold readPending
    cases (recordFailure failures c).1 with
    | ok u => exact ⟨(fun ⟨e, h⟩ => by cases h), fun ⟨_, e, h⟩ => by cases h⟩
    | error e => exact ⟨fun _ => ⟨rfl, e, rfl⟩, fun _ => ⟨e, rfl⟩⟩

theorem tryEnqueue_snd (result : Except Error Unit) (c : σ) :
    (tryEnqueue failures result c).2 = failures.record c result.isOk := by
  cases result with
  | ok u => rfl
  | error e => rfl

theorem tryEnqueue_error (result : Except Error Unit) (c : σ) :
    (∃ e, (tryEnqueue failures result c).1 = .error e) ↔
      result.isOk = false ∧ ∃ e, (failures.recordFailure c).1 = .error e := by
  cases result with
  | ok u => exact ⟨(fun ⟨e, h⟩ => by cases h), fun h => by cases h.1⟩
  | error e => exact (recordFailure_error c).trans ⟨fun h => ⟨rfl, h⟩, fun h => h.2⟩

/-- What one sample does: either the loop goes on, or it has ended for a reason. -/
theorem sample_cases (t : Tick) (s : Loop σ) (hgoing : s.ended = none) :
    (∃ interval, t.logging = .ok () ∧ t.jitter = .ok interval ∧
      ¬(t.pending.isOk = false ∧ ∃ e, (failures.recordFailure s.reads).1 = .error e) ∧
      ¬((t.enqueue (t.report configured s.firstReport)).isOk = false ∧
        ∃ e, (failures.recordFailure s.writes).1 = .error e) ∧
      Loop.sample failures configured t s =
        ⟨scheduleNext s.deadline interval t.finished, failures.record s.reads t.pending.isOk,
          failures.record s.writes (t.enqueue (t.report configured s.firstReport)).isOk, false,
          s.offered ++ [t.report configured s.firstReport], none⟩) ∨
    ((∃ e, (Loop.sample failures configured t s).ended = some (.error e)) ∧
      (t.logging.isOk = false ∨ (t.pending.isOk = false ∧ ∃ e, (failures.recordFailure s.reads).1 = .error e) ∨
        ((t.enqueue (t.report configured s.firstReport)).isOk = false ∧
          ∃ e, (failures.recordFailure s.writes).1 = .error e) ∨ t.jitter.isOk = false)) := by
  cases hlogging : t.logging with
  | error e => exact Or.inr ⟨⟨e, by unfold Loop.sample; rw [hlogging]; rfl⟩, Or.inl rfl⟩
  | ok u =>
    cases hread : readPending failures t.pending s.reads with
    | mk read reads =>
      have hreads : reads = failures.record s.reads t.pending.isOk := by rw [← readPending_snd, hread]
      cases read with
      | error e =>
        refine Or.inr ⟨⟨e, by unfold Loop.sample; rw [hlogging, hread]; rfl⟩, Or.inr (Or.inl ?_)⟩
        exact (readPending_error _ _).mp ⟨e, by rw [hread]⟩
      | ok pending =>
        have hpending : pending = t.pending.toOption.getD 0 := readPending_eq_ok (c := s.reads) (by rw [hread])
        have hreport : advertise configured s.firstReport (t.collect pending) = t.report configured s.firstReport := by
          rw [hpending]
          rfl
        cases hwrite : tryEnqueue failures (t.enqueue (t.report configured s.firstReport)) s.writes with
        | mk write writes =>
          have hwrites : writes = failures.record s.writes (t.enqueue (t.report configured s.firstReport)).isOk := by
            rw [← tryEnqueue_snd, hwrite]
          have hnot : ¬(t.pending.isOk = false ∧ ∃ e, (failures.recordFailure s.reads).1 = .error e) := by
            rw [← readPending_error, hread]
            rintro ⟨e, h⟩
            cases h
          cases write with
          | error e =>
            refine Or.inr ⟨⟨e, ?_⟩, Or.inr (Or.inr (Or.inl ?_))⟩
            · unfold Loop.sample
              simp only [hlogging, hread, hreport, hwrite]
              rfl
            · exact (tryEnqueue_error _ _).mp ⟨e, by rw [hwrite]⟩
          | ok u =>
            cases hjitter : t.jitter with
            | error e =>
              refine Or.inr ⟨⟨e, ?_⟩, Or.inr (Or.inr (Or.inr rfl))⟩
              unfold Loop.sample
              simp only [hlogging, hread, hreport, hwrite, hjitter]
              rfl
            | ok interval =>
              refine Or.inl ⟨interval, rfl, rfl, hnot, ?_, ?_⟩
              · rw [← tryEnqueue_error, hwrite]
                rintro ⟨e, h⟩
                cases h
              · unfold Loop.sample
                simp only [hlogging, hread, hreport, hwrite, hjitter, hreads, hwrites, hgoing]

/-! ## Every run -/

/-- Where a run is, that goes on. -/
structure Going (failures : Counter σ Error) (configured : F64) (n : Nat) (start : Instant) (l : List Event)
    (s : Loop σ) : Prop where
  deadline : s.deadline = due start (beats l)
  firstReport : s.firstReport = (ticks l).isEmpty
  offered : s.offered = reports configured (ticks l)
  reads : s.reads = failures.after (reads (ticks l))
  fewReads : Below n (Sampling.reads (ticks l))
  writes : s.writes = failures.after (writes configured (ticks l))
  fewWrites : Below n (Sampling.writes configured (ticks l))

theorem ticks_concat (l : List Event) (t : Tick) : ticks (l ++ [.tick t]) = ticks l ++ [t] := by
  simp [ticks, tick?]

theorem reports_concat (l : List Tick) (t : Tick) :
    reports configured (l ++ [t]) = reports configured l ++ [t.report configured l.isEmpty] := by
  cases l with
  | nil => rfl
  | cons u l => simp [reports]

theorem reads_concat (l : List Tick) (t : Tick) : reads (l ++ [t]) = reads l ++ [t.pending.isOk] := by
  simp [reads]

theorem writes_concat (l : List Tick) (t : Tick) :
    writes configured (l ++ [t]) = writes configured l ++ [(t.enqueue (t.report configured l.isEmpty)).isOk] := by
  cases l with
  | nil => rfl
  | cons u l => simp [writes]

theorem beats_concat (l : List Event) (t : Tick) : beats (l ++ [.tick t]) = beats l ++ [t.beat] := by
  simp [beats, ticks_concat]

theorem scheduleNext_eq (deadline : Instant) {interval : Duration} (h : t.jitter = .ok interval) :
    scheduleNext deadline interval t.finished = next deadline t.beat := by
  unfold scheduleNext Pace.next Tick.beat
  rw [h]
  rfl

variable {start : Instant} {events : List Event} {e : Event}

theorem Going.refusesRead (hcounts : failures.GivesUpAt n) (h : Going failures configured n start events s) (t : Tick) :
    (t.pending.isOk = false ∧ ∃ e, (failures.recordFailure s.reads).1 = .error e) ↔
      n ≤ trailing (Sampling.reads (ticks events ++ [t])) := by
  rw [h.reads, hcounts.refuses_iff h.fewReads, reads_concat]

theorem Going.refusesWrite (hcounts : failures.GivesUpAt n)
    (h : Going failures configured n start events s) (t : Tick) :
    ((t.enqueue (t.report configured s.firstReport)).isOk = false ∧
      ∃ e, (failures.recordFailure s.writes).1 = .error e) ↔
        n ≤ trailing (Sampling.writes configured (ticks events ++ [t])) := by
  rw [h.writes, hcounts.refuses_iff h.fewWrites, writes_concat, h.firstReport]

/-- A sample ends the loop for a reason, or the loop goes on. -/
theorem Going.sample (hcounts : failures.GivesUpAt n) (h : Going failures configured n start events s)
    (hgoing : s.ended = none) (t : Tick) :
    ((Loop.sample failures configured t s).ended = none ∧ ¬Ends configured n (ticks events) (.tick t) ∧
        Going failures configured n start (events ++ [.tick t]) (Loop.sample failures configured t s)) ∨
      ((∃ e, (Loop.sample failures configured t s).ended = some (.error e)) ∧
        Ends configured n (ticks events) (.tick t)) := by
  rcases @sample_cases _ failures configured t s hgoing with
    ⟨interval, hlogging, hjitter, hread, hwrite, hsample⟩ | ⟨hended, hreason⟩
  · left
    rw [h.refusesRead hcounts t, Nat.not_le] at hread
    rw [h.refusesWrite hcounts t, Nat.not_le] at hwrite
    refine ⟨by rw [hsample], ?_, ?_⟩
    · rintro (hbad | hbad | hbad | hbad)
      · rw [hlogging] at hbad
        cases hbad
      · omega
      · omega
      · rw [hjitter] at hbad
        cases hbad
    · rw [hsample]
      refine ⟨?_, ?_, ?_, ?_, ?_, ?_, ?_⟩
      · rw [beats_concat, due_append, ← h.deadline]
        exact scheduleNext_eq _ hjitter
      · simp [ticks_concat]
      · rw [ticks_concat, reports_concat, ← h.offered, ← h.firstReport]
      · rw [ticks_concat, reads_concat, Counter.after_concat, ← h.reads]
      · rw [ticks_concat, reads_concat, below_concat, ← reads_concat]
        exact ⟨h.fewReads, hread⟩
      · rw [ticks_concat, writes_concat, Counter.after_concat, ← h.writes, ← h.firstReport]
      · rw [ticks_concat, writes_concat, below_concat, ← writes_concat]
        exact ⟨h.fewWrites, hwrite⟩
  · right
    rw [h.refusesRead hcounts t, h.refusesWrite hcounts t] at hreason
    exact ⟨hended, hreason⟩

theorem step_eq_some (h : step failures configured s e = some s') :
    s.ended = none ∧ ((∃ t, e = .tick t ∧ s.deadline ≤ t.began ∧ t.began ≤ t.finished ∧
        s' = Loop.sample failures configured t s) ∨
      ((∀ t, e ≠ .tick t) ∧ ∃ r, s'.ended = some r)) := by
  unfold step at h
  split at h
  · cases h
  · next hended =>
    refine ⟨Option.not_isSome_iff_eq_none.mp hended, ?_⟩
    cases e with
    | workerEnded r =>
      cases h
      exact Or.inr ⟨(fun t h => by cases h), _, rfl⟩
    | shutdown r =>
      cases h
      exact Or.inr ⟨(fun t h => by cases h), _, rfl⟩
    | tick t =>
      dsimp only at h
      split at h
      · next hdue =>
        cases h
        exact Or.inl ⟨t, rfl, hdue.1, hdue.2, rfl⟩
      · cases h

theorem beats_concat_of_ne (l : List Event) (h : ∀ t, e ≠ .tick t) : beats (l ++ [e]) = beats l := by
  cases e with
  | workerEnded | shutdown => simp [beats, ticks, tick?]
  | tick t => exact absurd rfl (h t)

/-- What holds of every run. -/
def Sampled (failures : Counter σ Error) (configured : F64) (n : Nat) (start : Instant) (events : List Event)
    (s : Loop σ) : Prop :=
  Paced start (beats events) ∧ (s.ended = none → Going failures configured n start events s)

theorem going_new (hpos : 0 < n) : Going failures configured n start [] (Loop.startingNow failures start) where
  deadline := rfl
  firstReport := rfl
  offered := rfl
  reads := rfl
  fewReads before h := by rw [List.prefix_nil.mp h]; exact hpos
  writes := rfl
  fewWrites before h := by rw [List.prefix_nil.mp h]; exact hpos

theorem sampled_of_run (hcounts : failures.GivesUpAt n)
    (hrun : Machines.run (step failures configured) (Loop.startingNow failures start) events = some s) :
    Sampled failures configured n start events s := by
  refine Machines.inv_of_run_of_events (I := Sampled failures configured n start)
    ⟨trivial, fun _ => going_new hcounts.1⟩ (fun l s e s' hs hstep => ?_) hrun
  obtain ⟨hgoing, ⟨t, rfl, hdue, hfinished, rfl⟩ | ⟨hne, r, hr⟩⟩ := step_eq_some hstep
  · have hbefore := hs.2 hgoing
    refine ⟨?_, fun hnone => ?_⟩
    · rw [beats_concat, paced_append]
      exact ⟨hs.1, hbefore.deadline ▸ hdue, hfinished, trivial⟩
    · rcases hbefore.sample hcounts hgoing t with ⟨-, -, h⟩ | ⟨⟨e, he⟩, -⟩
      · exact h
      · rw [he] at hnone
        cases hnone
  · refine ⟨by rw [beats_concat_of_ne l hne]; exact hs.1, fun hnone => ?_⟩
    rw [hr] at hnone
    cases hnone

/-- **The loop ends** exactly when the worker does, when it is told to, or when its own work fails: once where the log
is verified or an interval is chosen, and `n` times in a row where the queue is read, or where it is written. -/
theorem sampling_ends_iff (hcounts : failures.GivesUpAt n)
    (hrun : Machines.run (step failures configured) (Loop.startingNow failures start) events = some s)
    (hstep : step failures configured s e = some s') : (∃ r, s'.ended = some r) ↔
      Ends configured n (ticks events) e := by
  obtain ⟨hgoing, ⟨t, rfl, -, -, rfl⟩ | ⟨hne, hended⟩⟩ := step_eq_some hstep
  · have hbefore := (sampled_of_run hcounts hrun).2 hgoing
    rcases hbefore.sample hcounts hgoing t with ⟨hnone, hnot, -⟩ | ⟨⟨e, he⟩, hends⟩
    · rw [hnone]
      exact ⟨(fun ⟨r, h⟩ => by cases h), fun h => absurd h hnot⟩
    · exact ⟨fun _ => hends, fun _ => ⟨_, he⟩⟩
  · cases e with
    | workerEnded r => exact ⟨fun _ => trivial, fun _ => hended⟩
    | shutdown r => exact ⟨fun _ => trivial, fun _ => hended⟩
    | tick t => exact absurd rfl (hne t)

end

/-! ## A full disk -/

def sampleTick (began took : Nat) (stored : Except Error Unit) : Tick where
  began := began
  logging := .ok ()
  pending := .ok 0
  collect _ := quietReport
  enqueue _ := stored
  jitter := .ok 10
  finished := began + took

def full : Except Error Unit := .error (.message "no space left on device")

def twice : Counter Nat Error := .upTo 2 (.message "too many failures")

/-- A report could not be queued. -/
def fullLoop : Loop Nat := Loop.sample twice ⟨0⟩ (sampleTick 0 1 full) (Loop.startingNow twice 0)

theorem sampling_ends_iff_full :
    ∃ r, (Loop.sample twice ⟨0⟩ (sampleTick 10 1 full) fullLoop).ended = some r := by
  have hcounts : twice.GivesUpAt 2 := Counter.givesUpAt_upTo (by decide) _
  have hrun : Machines.run (step twice ⟨0⟩) (Loop.startingNow twice 0) [.tick (sampleTick 0 1 full)] = some fullLoop :=
    rfl
  have hstep : step twice ⟨0⟩ fullLoop (.tick (sampleTick 10 1 full)) =
      some (Loop.sample twice ⟨0⟩ (sampleTick 10 1 full) fullLoop) := rfl
  exact (sampling_ends_iff hcounts hrun hstep).mpr (Or.inr (Or.inr (Or.inl (by decide))))

end Sampling

end Xsoc
