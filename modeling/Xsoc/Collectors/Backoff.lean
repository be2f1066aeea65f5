import Mathlib.Tactic.NormNum
import Mathlib.Tactic.Ring

/-!
# Driver resources that are opened again

A driver resource is opened when it is first asked for. Where that fails, or where the resource turns out to be broken
later, it is not opened again before a deadline, which is farther away the more often it has failed in a row.

* `RetryingPdhResource`, `getOrTryInit`, `invalidate` : the resource of the performance counters;
* `RetryingInit`, `initializeIfDue` : that of the NVIDIA management library;
* `Event`, `trace` : what happened in a run; `held`, `failures`, `deadline` : what follows from it, without the code;
* `retrying_backs_off` : in every run, the code does what its history asks for;
* `retrying_init_in_lockstep` : the second one opens its driver at the same times as the first one.
-/

set_option autoImplicit false

namespace Xsoc

namespace Backoff

/-! ## Time -/

/-- In nanoseconds. -/
abbrev Instant := Nat

/-- In nanoseconds. -/
abbrev Duration := Nat

def seconds (n : Nat) : Duration := n * 10 ^ 9

/-- `Duration::MAX` -/
def durationMax : Duration := (2 ^ 64 - 1) * 10 ^ 9 + 999999999

/-- `Instant::checked_add`, on a clock that does not go beyond `limit`. -/
def checkedAdd (limit now : Instant) (d : Duration) : Option Instant := if now + d ≤ limit then some (now + d) else none

/-- `Duration::saturating_mul` -/
def saturatingMul (d : Duration) (n : Nat) : Duration := min (d * n) durationMax

/-- `PDH_RETRY_INITIAL` -/
def pdhRetryInitial : Duration := seconds 30

/-- `PDH_RETRY_MAX` -/
def pdhRetryMax : Duration := seconds (15 * 60)

/-- `NVML_INIT_RETRY_INITIAL` -/
def nvmlInitRetryInitial : Duration := seconds 30

/-- `NVML_INIT_RETRY_MAX` -/
def nvmlInitRetryMax : Duration := seconds (15 * 60)

/-! ## The resources -/

structure RetryingPdhResource (τ : Type) where
  value : Option τ
  lastError : Option String
  nextRetryAt : Option Instant
  retryDelay : Duration
  everSucceeded : Bool

structure RetryingInit (τ ε : Type) where
  value : Option τ
  lastError : Option ε
  nextRetryAt : Option Instant
  retryDelay : Duration

section

variable {τ ε : Type} (limit : Instant)

namespace RetryingPdhResource

def new : RetryingPdhResource τ := ⟨none, none, none, pdhRetryInitial, false⟩

def recordFailure (r : RetryingPdhResource τ) (now : Instant) (error : String) : RetryingPdhResource τ :=
  { r with
    lastError := some error
    nextRetryAt := checkedAdd limit now r.retryDelay
    retryDelay := min (saturatingMul r.retryDelay 2) pdhRetryMax }

/-- What `init` returned, if it was called; what the caller gets; and the resource. -/
def getOrTryInit (r : RetryingPdhResource τ) (now : Instant) (init : Except String τ) :
    Option (Except String τ) × Except String τ × RetryingPdhResource τ :=
  match r.value with
  | some value => (none, .ok value, r)
  | none =>
    if r.nextRetryAt.any fun retryAt => now < retryAt then
      (none, .error (r.lastError.getD "PDH initialization is waiting for retry"), r)
    else
      match init with
      | .ok value =>
        (some init, .ok value, { r with
          value := some value
          lastError := none
          nextRetryAt := none
          retryDelay := pdhRetryInitial
          everSucceeded := true })
      | .error error => (some init, .error error, r.recordFailure limit now error)

def invalidate (r : RetryingPdhResource τ) (now : Instant) (error : String) : RetryingPdhResource τ :=
  { r with value := none }.recordFailure limit now error

end RetryingPdhResource

namespace RetryingInit

def new : RetryingInit τ ε := ⟨none, none, none, nvmlInitRetryInitial⟩

/-- What `init` returned, if it was called, and the resource. -/
def initializeIfDue (r : RetryingInit τ ε) (now : Instant) (init : Except ε τ) :
    Option (Except ε τ) × RetryingInit τ ε :=
  match r.value with
  | some _ => (none, r)
  | none =>
    if r.nextRetryAt.any fun retryAt => now < retryAt then (none, r)
    else
      match init with
      | .ok value =>
        (some init, { r with
          value := some value
          lastError := none
          nextRetryAt := none
          retryDelay := nvmlInitRetryInitial })
      | .error error =>
        (some init, { r with
          lastError := some error
          nextRetryAt := checkedAdd limit now r.retryDelay
          retryDelay := min (saturatingMul r.retryDelay 2) nvmlInitRetryMax })

end RetryingInit

end

/-! ## Runs -/

/-- What is asked of a resource, and what `init` returns if it is called. -/
inductive Call (τ : Type)
  | getOrTryInit (now : Instant) (init : Except String τ)
  | invalidate (now : Instant) (error : String)

def Call.now {τ : Type} : Call τ → Instant
  | .getOrTryInit now _ => now
  | .invalidate now _ => now

/-- What happened: what `init` returned, if it was called, and what the caller got. -/
inductive Event (τ : Type)
  | got (now : Instant) (called : Option (Except String τ)) (result : Except String τ)
  | invalidated (now : Instant)

section

variable {τ : Type} (limit : Instant)

def RetryingPdhResource.step (r : RetryingPdhResource τ) : Call τ → Event τ × RetryingPdhResource τ
  | .getOrTryInit now init =>
    let (called, result, r) := r.getOrTryInit limit now init
    (.got now called result, r)
  | .invalidate now error => (.invalidated now, r.invalidate limit now error)

/-- What happens from a resource on, and the resource at the end. -/
def RetryingPdhResource.run (r : RetryingPdhResource τ) : List (Call τ) → List (Event τ) × RetryingPdhResource τ
  | [] => ([], r)
  | call :: calls =>
    let (event, r) := r.step limit call
    let (events, r) := r.run calls
    (event :: events, r)

/-! ## What a history asks for -/

/-- The resource that is open after these events, the last one first. -/
def held : List (Event τ) → Option τ
  | [] => none
  | .got _ (some (.ok value)) _ :: _ => some value
  | .got _ (some (.error _)) _ :: _ => none
  | .got _ none _ :: events => held events
  | .invalidated _ :: _ => none

/-- The failures in a row, since it was opened last: to open it, and of the open one. -/
def failures : List (Event τ) → Nat
  | [] => 0
  | .got _ (some (.ok _)) _ :: _ => 0
  | .got _ (some (.error _)) _ :: events => failures events + 1
  | .got _ none _ :: events => failures events
  | .invalidated _ :: events => failures events + 1

/-- How long a resource is left alone after its `k`-th failure in a row. -/
def delay (k : Nat) : Duration := min (seconds (30 * 2 ^ (k - 1))) (seconds 900)

/-- The time before which it is not opened. -/
def deadline : List (Event τ) → Option Instant
  | [] => none
  | .got _ (some (.ok _)) _ :: _ => none
  | .got now (some (.error _)) _ :: events => some (now + delay (failures events + 1))
  | .got _ none _ :: events => deadline events
  | .invalidated now :: events => some (now + delay (failures events + 1))

/-- What a call does after these events. -/
def Expected (history : List (Event τ)) : Call τ → Event τ → Prop
  | .invalidate now _, event => event = .invalidated now
  | .getOrTryInit now init, event =>
    match held history with
    | some value => event = .got now none (.ok value)
    | none =>
      if (deadline history).any fun d => now < d then ∃ error, event = .got now none (.error error)
      else event = .got now (some init) init

/-! ## The code follows its history -/

/-- The resource is as the history asks for. -/
structure Follows (history : List (Event τ)) (r : RetryingPdhResource τ) : Prop where
  value : r.value = held history
  nextRetryAt : r.nextRetryAt = deadline history
  retryDelay : r.retryDelay = delay (failures history + 1)

theorem delay_one : delay 1 = pdhRetryInitial := by norm_num [delay, pdhRetryInitial, seconds]

theorem delay_le (k : Nat) : delay k ≤ pdhRetryMax := Nat.min_le_right _ _

/-- The delay doubles, up to its bound. -/
theorem delay_succ (k : Nat) : min (saturatingMul (delay (k + 1)) 2) pdhRetryMax = delay (k + 2) := by
  have hdouble : seconds (30 * 2 ^ (k + 1)) = 2 * seconds (30 * 2 ^ k) := by
    unfold seconds
    ring
  have hmax : seconds 900 * 2 ≤ durationMax := by norm_num [seconds, durationMax]
  have hmin : ∀ x m d : Nat, m * 2 ≤ d → min (min (min x m * 2) d) m = min (2 * x) m := by omega
  show min (min (min (seconds (30 * 2 ^ k)) (seconds 900) * 2) durationMax) (seconds 900) =
    min (seconds (30 * 2 ^ (k + 1))) (seconds 900)
  rw [hdouble]
  exact hmin _ _ _ hmax

variable {limit} {history : List (Event τ)} {r : RetryingPdhResource τ}

theorem follows_new : Follows [] (RetryingPdhResource.new : RetryingPdhResource τ) := ⟨rfl, rfl, delay_one.symm⟩

/-- A failure, whichever it is, is the next one in a row. -/
theorem Follows.recordFailure (h : Follows history r) {now : Instant} (hnow : now + pdhRetryMax ≤ limit)
    (error : String) (event : Event τ) (hheld : held (event :: history) = none)
    (hdeadline : deadline (event :: history) = some (now + delay (failures history + 1)))
    (hfailures : failures (event :: history) = failures history + 1) {value : Option τ} (hvalue : value = none) :
    Follows (event :: history) ({ r with value := value }.recordFailure limit now error) := by
  have hfits : now + delay (failures history + 1) ≤ limit :=
    Nat.le_trans (Nat.add_le_add_left (delay_le _) now) hnow
  refine ⟨hvalue.trans hheld.symm, ?_, ?_⟩
  · show checkedAdd limit now r.retryDelay = _
    rw [h.retryDelay, hdeadline, checkedAdd, if_pos hfits]
  · show min (saturatingMul r.retryDelay 2) pdhRetryMax = _
    rw [h.retryDelay, hfailures, delay_succ]

/-- What one call does, and that the resource goes on following its history. -/
theorem Follows.step (h : Follows history r) {call : Call τ} (hnow : call.now + pdhRetryMax ≤ limit) :
    Expected history call (r.step limit call).1 ∧ Follows ((r.step limit call).1 :: history) (r.step limit call).2 := by
  cases call with
  | invalidate now error => exact ⟨rfl, h.recordFailure hnow error (.invalidated now) rfl rfl rfl rfl⟩
  | getOrTryInit now init =>
    unfold RetryingPdhResource.step RetryingPdhResource.getOrTryInit Expected
    dsimp only
    rw [← h.value, ← h.nextRetryAt]
    cases hvalue : r.value with
    | some value => exact ⟨rfl, h.value, h.nextRetryAt, h.retryDelay⟩
    | none =>
      by_cases hwaits : (r.nextRetryAt.any fun retryAt => decide (now < retryAt)) = true
      · simp only [if_pos hwaits]
        exact ⟨⟨_, rfl⟩, h.value, h.nextRetryAt, h.retryDelay⟩
      · simp only [if_neg hwaits]
        cases init with
        | ok value => exact ⟨rfl, rfl, rfl, delay_one.symm⟩
        | error error =>
          have hfailed := h.recordFailure hnow error (.got now (some (.error error)) (.error error)) rfl rfl rfl hvalue
          exact ⟨rfl, hfailed⟩

/-- Along a run, every event is the one its history asks for, and so is the resource at the end. -/
theorem Follows.run {calls : List (Call τ)} (h : Follows history r)
    (hcalls : ∀ call ∈ calls, call.now + pdhRetryMax ≤ limit) :
    Follows ((r.run limit calls).1.reverse ++ history) (r.run limit calls).2 ∧
      ∀ before event after, (r.run limit calls).1 = before ++ event :: after →
        ∃ call, calls[before.length]? = some call ∧ Expected (before.reverse ++ history) call event := by
  induction calls generalizing history r with
  | nil =>
    refine ⟨h, fun before event after heq => ?_⟩
    cases before <;> cases heq
  | cons call calls ih =>
    obtain ⟨hexpected, hstep⟩ := h.step (hcalls call List.mem_cons_self)
    obtain ⟨hfollows, hevents⟩ := ih hstep fun c hc => hcalls c (List.mem_cons_of_mem _ hc)
    refine ⟨?_, fun before event after heq => ?_⟩
    · show Follows (((r.step limit call).1 :: _).reverse ++ history) _
      rw [List.reverse_cons, List.append_assoc]
      exact hfollows
    · cases before with
      | nil =>
        cases heq
        exact ⟨call, rfl, hexpected⟩
      | cons first before =>
        injection heq with hfirst hrest
        subst hfirst
        rw [List.reverse_cons, List.append_assoc]
        exact hevents before event after hrest

/-! ## The second copy -/

/-- What `init` returned, if it was called. -/
def Event.called : Event τ → Option (Except String τ)
  | .got _ called _ => called
  | .invalidated _ => none

variable {ε : Type}

/-- What `init` returned, each time, and the resource at the end. -/
def RetryingInit.run (limit : Instant) (r : RetryingInit τ ε) :
    List (Instant × Except ε τ) → List (Option (Except ε τ)) × RetryingInit τ ε
  | [] => ([], r)
  | (now, init) :: calls =>
    let (called, r) := r.initializeIfDue limit now init
    let (rest, r) := r.run limit calls
    (called :: rest, r)

/-- The same calls of the other resource, which keeps the text of an error. -/
def asked (toString : ε → String) (calls : List (Instant × Except ε τ)) : List (Call τ) :=
  calls.map fun (now, init) => .getOrTryInit now (init.mapError toString)

structure InLockstep (r : RetryingPdhResource τ) (r' : RetryingInit τ ε) : Prop where
  value : r'.value = r.value
  nextRetryAt : r'.nextRetryAt = r.nextRetryAt
  retryDelay : r'.retryDelay = r.retryDelay

theorem InLockstep.step {r' : RetryingInit τ ε} (h : InLockstep r r') (now : Instant) (init : Except ε τ)
    (toString : ε → String) :
    (r.step limit (.getOrTryInit now (init.mapError toString))).1.called =
        (r'.initializeIfDue limit now init).1.map (·.mapError toString) ∧
      InLockstep (r.step limit (.getOrTryInit now (init.mapError toString))).2
        (r'.initializeIfDue limit now init).2 := by
  unfold RetryingPdhResource.step RetryingPdhResource.getOrTryInit RetryingInit.initializeIfDue
  dsimp only
  rw [h.value, h.nextRetryAt]
  cases hvalue : r.value with
  | some value => exact ⟨rfl, h⟩
  | none =>
    by_cases hwaits : (r.nextRetryAt.any fun retryAt => decide (now < retryAt)) = true
    · simp only [if_pos hwaits]
      exact ⟨rfl, h⟩
    · simp only [if_neg hwaits]
      cases init with
      | ok value => exact ⟨rfl, rfl, rfl, rfl⟩
      | error error =>
        refine ⟨rfl, hvalue.symm, ?_, ?_⟩
        · show checkedAdd limit now r'.retryDelay = checkedAdd limit now r.retryDelay
          rw [h.retryDelay]
        · show min (saturatingMul r'.retryDelay 2) nvmlInitRetryMax = min (saturatingMul r.retryDelay 2) pdhRetryMax
          rw [h.retryDelay]
          rfl

theorem InLockstep.run {r' : RetryingInit τ ε} (h : InLockstep r r') (calls : List (Instant × Except ε τ))
    (toString : ε → String) :
    (r.run limit (asked toString calls)).1.map Event.called =
        (r'.run limit calls).1.map (Option.map (·.mapError toString)) ∧
      InLockstep (r.run limit (asked toString calls)).2 (r'.run limit calls).2 := by
  induction calls generalizing r r' with
  | nil => exact ⟨rfl, h⟩
  | cons call calls ih =>
    obtain ⟨hcalled, hstep⟩ := @InLockstep.step _ limit _ _ _ h call.1 call.2 toString
    obtain ⟨hrest, hlast⟩ := ih hstep
    exact ⟨List.cons_eq_cons.mpr ⟨hcalled, hrest⟩, hlast⟩

/-- A run of the first resource does after each history what that asks for: it is opened only while none is held, and
not before the deadline of the last failure in a row. And a run of the second one, which cannot be invalidated, opens it
when the first one would, and holds the same. -/
theorem driver_resources_back_off (limit : Instant) :
    (∀ calls : List (Call τ), (∀ call ∈ calls, call.now + pdhRetryMax ≤ limit) →
      Follows (RetryingPdhResource.new.run limit calls).1.reverse (RetryingPdhResource.new.run limit calls).2 ∧
      ∀ before event after, (RetryingPdhResource.new.run limit calls).1 = before ++ event :: after →
        ∃ call, calls[before.length]? = some call ∧ Expected before.reverse call event) ∧
    ∀ (calls : List (Instant × Except ε τ)) (toString : ε → String),
      (RetryingPdhResource.new.run limit (asked toString calls)).1.map Event.called =
          (RetryingInit.new.run limit calls).1.map (Option.map (·.mapError toString)) ∧
        (RetryingInit.new.run limit calls).2.value =
          (RetryingPdhResource.new.run limit (asked toString calls)).2.value := by
  refine ⟨fun calls hcalls => ?_, fun calls toString => ?_⟩
  · have hrun := follows_new.run hcalls
    simp only [List.append_nil] at hrun
    exact hrun
  · have hrun := @InLockstep.run _ limit .new _ .new ⟨rfl, rfl, rfl⟩ calls toString
    exact ⟨hrun.1, hrun.2.value⟩

end

/-- The driver cannot be opened at first, is not tried again too early, and opens then. -/
def attempts : List (Call Nat) :=
  [.getOrTryInit 0 (.error "no driver"), .getOrTryInit (seconds 10) (.ok 1), .getOrTryInit (seconds 30) (.ok 1)]

theorem driver_resources_back_off_attempts :
    Follows (RetryingPdhResource.new.run (seconds 1000) attempts).1.reverse
        (RetryingPdhResource.new.run (seconds 1000) attempts).2 ∧
      ∃ call, attempts[1]? = some call ∧ Expected [.got 0 (some (.error "no driver")) (.error "no driver")] call
        (.got (seconds 10) none (.error "no driver")) := by
  obtain ⟨hfollows, hevents⟩ := (@driver_resources_back_off Nat String (seconds 1000)).1 attempts (by decide)
  exact ⟨hfollows, hevents [.got 0 (some (.error "no driver")) (.error "no driver")] _
    [.got (seconds 30) (some (.ok 1)) (.ok 1)] rfl⟩

end Backoff

end Xsoc
