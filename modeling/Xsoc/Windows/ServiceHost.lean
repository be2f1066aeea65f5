import Mathlib.Algebra.Order.Ring.Nat
import Xsoc.Machines.Steps

/-!
# The Windows service host

The thread of `service_main`, the callback of the service control manager and the thread that reports the progress of a
stop share the status of the service. A transition holds the lock `TRANSITION`, so it is one step here; only the first
status is published without the lock, and what it stores is stored one atomic at a time.

* `step` : what a thread, or the callback, does next, with how the calls of the system ended; `does_of_step` : all that
  it can be;
* `runtimeFailureCode` : the exit code for an error;
* `Advances` : no status after a later one, but for the first status, which an early stop may overtake;
* `service_lifecycle`, `prompt_lifecycle` : the statuses of a run, and of one in which a stop waits to be accepted;
* `stopped_codes` : why a service says that it has stopped.
-/

set_option autoImplicit false

namespace Xsoc

namespace ServiceHost

open Machines

/-- `SERVICE_STATUS_CURRENT_STATE`. -/
inductive ServiceState
  | startPending
  | running
  | stopPending
  | stopped
  deriving DecidableEq, Repr

structure ServiceStatus where
  currentState : ServiceState
  /-- `SERVICE_ACCEPT_STOP | SERVICE_ACCEPT_SHUTDOWN`, or nothing. -/
  controlsAccepted : Bool
  win32ExitCode : Nat
  serviceSpecificExitCode : Nat
  checkPoint : Nat
  waitHint : Nat
  deriving DecidableEq, Repr

def startWaitHintMs : Nat := 30000

def stopWaitHintMs : Nat := 30000

def serviceFailureRuntime : Nat := 1

def serviceFailurePanic : Nat := 2

def noError : Nat := 0

def errorServiceSpecificError : Nat := 1066

/-! ## Exit codes -/

/-- An error's causes, the outermost first: the text of each, and the code of the system if it is an I/O error that has
one. -/
abbrev ErrorChain := List (String × Option Int)

/-- The exit code that a context stands for. -/
def contextCode : String → Option Nat
  | "service configuration" => some 10
  | "service maintenance lock" => some 11
  | "failed to acquire the exclusive Client delivery session" => some 12
  | "service shutdown handler" => some 13
  | "service authorization state" => some 14
  | "service host identity" => some 15
  | "service status IPC" => some 16
  | "service durable spool" => some 17
  | "service log identity" => some 25
  | "service log policy" => some 26
  | "service log storage" => some 27
  | "service log install" => some 28
  | "service private state preflight" => some 19
  | "protected state directory" => some 20
  | "protected state lock file" => some 21
  | "protected file type validation" => some 22
  | "protected file ACL validation" => some 23
  | "protected maintenance lock file" => some 24
  | _ => none

/-- The last context that stands for a code decides. -/
def contextOf (error : ErrorChain) : Nat :=
  error.foldl (fun code cause => (contextCode cause.1).getD code) serviceFailureRuntime

/-- The first code of the system, if it is one of the bounded ones. -/
def nativeOf (error : ErrorChain) : Option Nat :=
  match error.findSome? Prod.snd with
  | some code => if 1 ≤ code ∧ code ≤ 9999 then some code.toNat else none
  | none => none

def runtimeFailureCode (error : ErrorChain) : Nat :=
  match nativeOf error with
  | some code => contextOf error * 10000 + code
  | none => contextOf error

def unavailableHandle : ErrorChain := [("the Windows service status handle is unavailable", none)]

/-! ## The threads -/

/-- Where the thread of `service_main` is. -/
inductive MainThread
  | registering
  /-- The callback is registered; `STATUS_HANDLE` is not stored. -/
  | registered
  | announcing
  /-- The first status is published, and so many of its five values are stored. -/
  | storing (stored : Nat)
  /-- The configuration, the log and the runtime. -/
  | initializing
  /-- In `execute_config`, before it asks to be reported as running. -/
  | executing
  | serving
  /-- `execute_config` has returned. -/
  | recording
  /-- `report_stopped`, and what the error was if this is not the end. -/
  | reporting (code : Nat)
  /-- In `service_main`, after an error or a panic. -/
  | failed (code : Nat)
  | reportingFailure (code : Nat)
  | gone
  deriving DecidableEq, Repr

structure Host where
  /-- `STATUS_HANDLE` is stored. -/
  statusHandle : Bool
  /-- `CURRENT_STATE`; it is 0 before the first status. -/
  currentState : Option ServiceState
  exitCode : Nat
  serviceExitCode : Nat
  checkpoint : Nat
  waitHint : Nat
  /-- A shutdown is requested. -/
  requested : Bool
  /-- `STARTED` -/
  started : Bool
  /-- The thread that reports progress, with its next checkpoint. -/
  progress : Option Nat
  mainThread : MainThread
  /-- What the service control manager was told, the last status first. -/
  published : List ServiceStatus
  deriving DecidableEq, Repr

def Host.new : Host := ⟨false, none, 0, 0, 0, 0, false, false, none, .registering, []⟩

namespace Host

/-- A status is published, and what it says is stored. -/
def publish (h : Host) (status : ServiceStatus) : Host :=
  { h with
    currentState := some status.currentState
    exitCode := status.win32ExitCode
    serviceExitCode := status.serviceSpecificExitCode
    checkpoint := status.checkPoint
    waitHint := status.waitHint
    published := status :: h.published }

/-- `set_service_status` of a thread that holds the lock; `refused` : how `SetServiceStatus` fails, if it does. -/
def setServiceStatus (h : Host) (refused : Option ErrorChain) (state : ServiceState)
    (serviceExitCode checkpoint waitHint win32ExitCode : Nat) : Except ErrorChain Unit × Host :=
  if h.statusHandle then
    match refused with
    | none => (.ok (), h.publish ⟨state, state = .running, win32ExitCode, serviceExitCode, checkpoint, waitHint⟩)
    | some error => (.error (("failed to report xsoc service status", none) :: error), h)
  else (.error unavailableHandle, h)

def reportStatus (h : Host) (refused : Option ErrorChain) (state : ServiceState)
    (serviceExitCode checkpoint waitHint : Nat) : Except ErrorChain Unit × Host :=
  h.setServiceStatus refused state serviceExitCode checkpoint waitHint noError

/-- `repeat_current_status`; the service control manager refuses a status without a state. -/
def repeatCurrentStatus (h : Host) (refused : Option ErrorChain) : Host :=
  match h.currentState with
  | some state => (h.setServiceStatus refused state h.serviceExitCode h.checkpoint h.waitHint h.exitCode).2
  | none => h

def reportStopped (h : Host) (refused : Option ErrorChain) (serviceExitCode : Nat) : Except ErrorChain Unit × Host :=
  h.setServiceStatus refused .stopped serviceExitCode 0 0
    (if serviceExitCode = 0 then noError else errorServiceSpecificError)

/-- `start_stop_progress_reporter`; `spawned` : whether the system has a thread. -/
def startStopProgressReporter (h : Host) (spawned : Bool) : Host :=
  if h.started then h else { h with started := true, progress := if spawned then some 2 else none }

/-- `report_running`: whether the service goes on. -/
def reportRunning (h : Host) (refused : Option ErrorChain) (spawned : Bool) : Except ErrorChain Bool × Host :=
  if h.requested then
    match h.reportStatus refused .stopPending 0 1 stopWaitHintMs with
    | (.ok (), h) => (.ok false, h.startStopProgressReporter spawned)
    | (.error error, h) => (.error error, h)
  else
    match h.reportStatus refused .running 0 0 0 with
    | (.ok (), h) => (.ok true, h)
    | (.error error, h) => (.error error, h)

end Host

inductive Control
  | stop
  | shutdown
  | interrogate
  | other
  deriving DecidableEq, Repr

def Control.stops : Control → Bool
  | stop | shutdown => true
  | interrogate | other => false

/-- `control_handler_inner` -/
def Host.control (h : Host) (control : Control) (refused : Option ErrorChain) (spawned : Bool) : Host :=
  match control with
  | .stop | .shutdown =>
    if h.currentState = some .stopped then h
    else
      { (h.reportStatus refused .stopPending 0 1 stopWaitHintMs).2 with
        requested := true }.startStopProgressReporter spawned
  | .interrogate => h.repeatCurrentStatus refused
  | .other => h

/-- A turn of the thread that reports progress. -/
def Host.tick (h : Host) (checkpoint : Nat) (refused : Option ErrorChain) : Host :=
  if h.currentState = some .stopPending then
    { (h.reportStatus refused .stopPending 0 checkpoint stopWaitHintMs).2 with
      progress := some (min (checkpoint + 1) (2 ^ 32 - 1)) }
  else { h with progress := none }

/-- What goes on, and how the calls that it makes end. -/
inductive Event
  /-- `RegisterServiceCtrlHandlerExW` -/
  | register (error : Option ErrorChain)
  | storeHandle
  /-- `report_status(SERVICE_START_PENDING, 0, 1, START_WAIT_HINT_MS)`, up to what it stores. -/
  | announce (refused : Option ErrorChain)
  | store
  | prepare (error : Option ErrorChain)
  /-- `execute_config` asks to be reported as running. -/
  | ready (refused : Option ErrorChain) (spawned : Bool)
  /-- `execute_config` returns. -/
  | finish (error : Option ErrorChain)
  /-- The last record of the log. -/
  | record (error : Option ErrorChain)
  /-- `report_stopped` -/
  | report (refused : Option ErrorChain)
  /-- `service_main` looks whether the service has been reported as stopped. -/
  | inspect
  | reportFailure (refused : Option ErrorChain)
  | panic
  | control (control : Control) (refused : Option ErrorChain) (spawned : Bool)
  | tick (refused : Option ErrorChain)
  deriving DecidableEq, Repr

/-- An error that leaves `service_main_inner`. -/
def Host.fail (h : Host) (error : ErrorChain) : Host := { h with mainThread := .failed (runtimeFailureCode error) }

/-- The first status. -/
def startStatus : ServiceStatus := ⟨.startPending, false, noError, 0, 1, startWaitHintMs⟩

/-- One of the stores of the first status. -/
def Host.storeAt (h : Host) : Nat → Host
  | 0 => { h with currentState := some .startPending, mainThread := .storing 1 }
  | 1 => { h with exitCode := startStatus.win32ExitCode, mainThread := .storing 2 }
  | 2 => { h with serviceExitCode := startStatus.serviceSpecificExitCode, mainThread := .storing 3 }
  | 3 => { h with checkpoint := startStatus.checkPoint, mainThread := .storing 4 }
  | _ => { h with waitHint := startStatus.waitHint, mainThread := .initializing }

/-- The thread of `service_main` is within `service_main_inner`. -/
def MainThread.inner : MainThread → Bool
  | failed _ | reportingFailure _ | gone => false
  | _ => true

def step (h : Host) : Event → Option Host
  | .register error =>
    if h.mainThread = .registering then
      some (match error with
        | none => { h with mainThread := .registered }
        | some error => h.fail (("failed to register the xsoc service control handler", none) :: error))
    else none
  | .storeHandle =>
    if h.mainThread = .registered then some { h with statusHandle := true, mainThread := .announcing } else none
  | .announce refused =>
    if h.mainThread = .announcing then
      some (match refused with
        | none => { h with mainThread := .storing 0, published := startStatus :: h.published }
        | some error => h.fail (("failed to report xsoc service status", none) :: error))
    else none
  | .store =>
    match h.mainThread with
    | .storing stored => some (h.storeAt stored)
    | _ => none
  | .prepare error =>
    if h.mainThread = .initializing then
      some (match error with
        | none => { h with mainThread := .executing }
        | some error => h.fail error)
    else none
  | .ready refused spawned =>
    if h.mainThread = .executing then
      some (match h.reportRunning refused spawned with
        | (.ok true, h) => { h with mainThread := .serving }
        | (.ok false, h) => { h with mainThread := .recording }
        | (.error error, h) => { h with mainThread := .reporting (runtimeFailureCode error) })
    else none
  | .finish error =>
    if h.mainThread = .executing ∨ h.mainThread = .serving then
      some (match error with
        | none => { h with mainThread := .recording }
        | some error => { h with mainThread := .reporting (runtimeFailureCode error) })
    else none
  | .record error =>
    if h.mainThread = .recording then
      some (match error with
        | none => { h with mainThread := .reporting 0 }
        | some error => h.fail error)
    else none
  | .report refused =>
    match h.mainThread with
    | .reporting code =>
      some (match h.reportStopped refused code with
        | (.ok (), h) => { h with mainThread := if code = 0 then .gone else .failed code }
        | (.error error, h) => h.fail error)
    | _ => none
  | .inspect =>
    match h.mainThread with
    | .failed code =>
      some { h with mainThread := if h.currentState = some .stopped then .gone else .reportingFailure code }
    | _ => none
  | .reportFailure refused =>
    match h.mainThread with
    | .reportingFailure code => some { (h.reportStopped refused code).2 with mainThread := .gone }
    | _ => none
  | .panic => if h.mainThread.inner then some { h with mainThread := .failed serviceFailurePanic } else none
  | .control control refused spawned =>
    if h.mainThread = .registering then none else some (h.control control refused spawned)
  | .tick refused => h.progress.map fun checkpoint => h.tick checkpoint refused

/-! ## What a step does -/

/-- The errors that an event may leave the thread of `service_main` with. -/
def Event.errors : Event → List ErrorChain
  | register (some error) => [("failed to register the xsoc service control handler", none) :: error]
  | announce (some error) | ready (some error) _ | report (some error) =>
    [("failed to report xsoc service status", none) :: error]
  | prepare (some error) | finish (some error) | record (some error) => [error]
  | _ => []

def runningStatus : ServiceStatus := ⟨.running, true, noError, 0, 0, 0⟩

def stoppingStatus (checkpoint : Nat) : ServiceStatus := ⟨.stopPending, false, noError, 0, checkpoint, stopWaitHintMs⟩

def stoppedStatus (code : Nat) : ServiceStatus :=
  ⟨.stopped, false, if code = 0 then noError else errorServiceSpecificError, code, 0, 0⟩

/-- What the host would repeat. -/
def Host.status (h : Host) (state : ServiceState) : ServiceStatus :=
  ⟨state, state = .running, h.exitCode, h.serviceExitCode, h.checkpoint, h.waitHint⟩

/-- Where the thread of `service_main` goes without a report, or after one that has failed. -/
inductive Goes (h : Host) : Event → MainThread → Prop
  | registered (hm : h.mainThread = .registering) : Goes h (.register none) .registered
  | prepared (hm : h.mainThread = .initializing) : Goes h (.prepare none) .executing
  | finished (hm : h.mainThread = .executing ∨ h.mainThread = .serving) : Goes h (.finish none) .recording
  | recorded (hm : h.mainThread = .recording) : Goes h (.record none) (.reporting 0)
  | gaveUp {e : Event} {error : ErrorChain} (hm : h.mainThread = .executing ∨ h.mainThread = .serving)
      (herror : h.statusHandle = true → error ∈ e.errors) : Goes h e (.reporting (runtimeFailureCode error))
  | broke {e : Event} {error : ErrorChain} (hm : h.mainThread.inner = true) (herror : error ∈ e.errors) :
      Goes h e (.failed (runtimeFailureCode error))
  | unheard {code : Nat} {refused : Option ErrorChain} (hm : h.mainThread = .reporting code)
      (hhandle : h.statusHandle = false) : Goes h (.report refused) (.failed (runtimeFailureCode unavailableHandle))
  | panicked (hm : h.mainThread.inner = true) : Goes h .panic (.failed serviceFailurePanic)
  | wasStopped {code : Nat} (hm : h.mainThread = .failed code) (hcur : h.currentState = some .stopped) :
      Goes h .inspect .gone
  | wasNotStopped {code : Nat} (hm : h.mainThread = .failed code) (hcur : h.currentState ≠ some .stopped) :
      Goes h .inspect (.reportingFailure code)
  | refused {code : Nat} {refused : Option ErrorChain} (hm : h.mainThread = .reportingFailure code)
      (hrefused : h.statusHandle = true → refused ≠ none) : Goes h (.reportFailure refused) .gone

/-- What a step does: where a status is reported, it may also be refused. -/
inductive Does (h : Host) : Event → Host → Prop
  | goes {e : Event} {m : MainThread} (hgoes : Goes h e m) : Does h e { h with mainThread := m }
  | attaches (hm : h.mainThread = .registered) :
      Does h .storeHandle { h with statusHandle := true, mainThread := .announcing }
  | announces (hm : h.mainThread = .announcing) :
      Does h (.announce none) { h with mainThread := .storing 0, published := startStatus :: h.published }
  | stores {stored : Nat} (hm : h.mainThread = .storing stored) : Does h .store (h.storeAt stored)
  | runs {spawned : Bool} (hm : h.mainThread = .executing) (hasked : h.requested = false)
      (hhandle : h.statusHandle = true) :
      Does h (.ready none spawned) { h.publish runningStatus with mainThread := .serving }
  | stops (spawned : Bool) (hm : h.mainThread = .executing) (hasked : h.requested = true)
      (hhandle : h.statusHandle = true) :
      Does h (.ready none spawned)
        { (h.publish (stoppingStatus 1)).startStopProgressReporter spawned with mainThread := .recording }
  | ends (code : Nat) (hm : h.mainThread = .reporting code) :
      Does h (.report none)
        { h.publish (stoppedStatus code) with mainThread := if code = 0 then .gone else .failed code }
  | endsFailed (code : Nat) (hm : h.mainThread = .reportingFailure code) :
      Does h (.reportFailure none) { h.publish (stoppedStatus code) with mainThread := .gone }
  | ignores {control : Control} {refused : Option ErrorChain} {spawned : Bool} :
      Does h (.control control refused spawned) h
  | repeats {state : ServiceState} {spawned : Bool} (hcur : h.currentState = some state) :
      Does h (.control .interrogate none spawned) (h.publish (h.status state))
  | asked {control : Control} {refused : Option ErrorChain} {spawned : Bool} (told : Host)
      (hstops : control.stops = true) (hcur : h.currentState ≠ some .stopped)
      (htold : told = h ∨ told = h.publish (stoppingStatus 1)) :
      Does h (.control control refused spawned) ({ told with requested := true }.startStopProgressReporter spawned)
  | progresses {checkpoint : Nat} {refused : Option ErrorChain} {told : Host} {next : Option Nat}
      (hcur : h.currentState = some .stopPending) (htold : told = h ∨ told = h.publish (stoppingStatus checkpoint)) :
      Does h (.tick refused) { told with progress := next }
  | rests {refused : Option ErrorChain} : Does h (.tick refused) { h with progress := none }

section

variable {h : Host}

@[simp] theorem mainThread_startStopProgressReporter (h : Host) (spawned : Bool) :
    (h.startStopProgressReporter spawned).mainThread = h.mainThread := by
  unfold Host.startStopProgressReporter
  split <;> rfl

@[simp] theorem statusHandle_startStopProgressReporter (h : Host) (spawned : Bool) :
    (h.startStopProgressReporter spawned).statusHandle = h.statusHandle := by
  unfold Host.startStopProgressReporter
  split <;> rfl

@[simp] theorem published_startStopProgressReporter (h : Host) (spawned : Bool) :
    (h.startStopProgressReporter spawned).published = h.published := by
  unfold Host.startStopProgressReporter
  split <;> rfl

theorem setServiceStatus_cases (h : Host) (refused : Option ErrorChain) (state : ServiceState)
    (serviceExitCode checkpoint waitHint win32ExitCode : Nat) :
    (∃ error, h.setServiceStatus refused state serviceExitCode checkpoint waitHint win32ExitCode = (.error error, h) ∧
        (h.statusHandle = false ∧ error = unavailableHandle ∨
          ∃ cause, refused = some cause ∧ error = ("failed to report xsoc service status", none) :: cause)) ∨
      h.setServiceStatus refused state serviceExitCode checkpoint waitHint win32ExitCode =
          (.ok (), h.publish ⟨state, state = .running, win32ExitCode, serviceExitCode, checkpoint, waitHint⟩) ∧
        h.statusHandle = true ∧ refused = none := by
  unfold Host.setServiceStatus
  cases hhandle : h.statusHandle with
  | false => exact Or.inl ⟨_, rfl, Or.inl ⟨rfl, rfl⟩⟩
  | true =>
    cases refused with
    | none => exact Or.inr ⟨rfl, rfl, rfl⟩
    | some error => exact Or.inl ⟨_, rfl, Or.inr ⟨error, rfl, rfl⟩⟩

theorem does_of_ready {refused : Option ErrorChain} {spawned : Bool} {h' : Host}
    (hstep : step h (.ready refused spawned) = some h') : Does h (.ready refused spawned) h' := by
  simp only [step] at hstep
  split at hstep
  · next hm =>
    cases hstep
    have hfails {error : ErrorChain} (herror : h.statusHandle = false ∧ error = unavailableHandle ∨
        ∃ cause, refused = some cause ∧ error = ("failed to report xsoc service status", none) :: cause) :
        Does h (.ready refused spawned) { h with mainThread := .reporting (runtimeFailureCode error) } := by
      refine .goes (.gaveUp (Or.inl hm) fun hhandle => ?_)
      rcases herror with ⟨hnone, -⟩ | ⟨cause, rfl, rfl⟩
      · exact absurd (hhandle.symm.trans hnone) (by decide)
      · exact List.mem_singleton_self _
    unfold Host.reportRunning Host.reportStatus
    cases hasked : h.requested with
    | true =>
      rw [if_pos rfl]
      rcases setServiceStatus_cases h refused .stopPending 0 1 stopWaitHintMs noError with
        ⟨error, heq, herror⟩ | ⟨heq, hhandle, rfl⟩
      · rw [heq]
        exact hfails herror
      · rw [heq]
        exact .stops spawned hm hasked hhandle
    | false =>
      rw [if_neg Bool.false_ne_true]
      rcases setServiceStatus_cases h refused .running 0 0 0 noError with ⟨error, heq, herror⟩ | ⟨heq, hhandle, rfl⟩
      · rw [heq]
        exact hfails herror
      · rw [heq]
        exact .runs hm hasked hhandle
  · cases hstep

theorem does_of_control (control : Control) (refused : Option ErrorChain) (spawned : Bool) :
    Does h (.control control refused spawned) (h.control control refused spawned) := by
  have hstop (hstops : control.stops = true) (hcur : h.currentState ≠ some .stopped) :
      Does h (.control control refused spawned) ({ (h.reportStatus refused .stopPending 0 1 stopWaitHintMs).2 with
        requested := true }.startStopProgressReporter spawned) := by
    refine .asked _ hstops hcur ?_
    rcases setServiceStatus_cases h refused .stopPending 0 1 stopWaitHintMs noError with ⟨error, heq, -⟩ | ⟨heq, -⟩
    · exact Or.inl (congrArg Prod.snd heq)
    · exact Or.inr (congrArg Prod.snd heq)
  unfold Host.control
  cases control with
  | stop | shutdown =>
    dsimp only
    split
    · exact .ignores
    · next hcur => exact hstop rfl hcur
  | interrogate =>
    unfold Host.repeatCurrentStatus
    cases hcur : h.currentState with
    | none => exact .ignores
    | some state =>
      dsimp only
      rcases setServiceStatus_cases h refused state h.serviceExitCode h.checkpoint h.waitHint h.exitCode with
        ⟨error, heq, -⟩ | ⟨heq, -, rfl⟩
      · rw [heq]
        exact .ignores
      · rw [heq]
        exact .repeats hcur
  | other => exact .ignores

theorem does_of_report {refused : Option ErrorChain} {h' : Host} (hstep : step h (.report refused) = some h') :
    Does h (.report refused) h' := by
  simp only [step] at hstep
  split at hstep
  · next code hm =>
    cases hstep
    unfold Host.reportStopped
    rcases setServiceStatus_cases h refused .stopped code 0 0 (if code = 0 then noError else errorServiceSpecificError)
      with ⟨error, heq, ⟨hhandle, rfl⟩ | ⟨cause, rfl, rfl⟩⟩ | ⟨heq, -, rfl⟩
    · rw [heq]
      exact .goes (.unheard hm hhandle)
    · rw [heq]
      exact .goes (.broke (by rw [hm]; rfl) (List.mem_singleton_self _))
    · rw [heq]
      exact .ends code hm
  · cases hstep

theorem does_of_reportFailure {refused : Option ErrorChain} {h' : Host}
    (hstep : step h (.reportFailure refused) = some h') : Does h (.reportFailure refused) h' := by
  simp only [step] at hstep
  split at hstep
  · next code hm =>
    cases hstep
    unfold Host.reportStopped
    rcases setServiceStatus_cases h refused .stopped code 0 0 (if code = 0 then noError else errorServiceSpecificError)
      with ⟨error, heq, herror⟩ | ⟨heq, -, rfl⟩
    · rw [heq]
      refine .goes (.refused hm fun hhandle => ?_)
      rcases herror with ⟨hnone, -⟩ | ⟨cause, rfl, -⟩
      · exact absurd (hhandle.symm.trans hnone) (by decide)
      · exact Option.some_ne_none cause
    · rw [heq]
      exact .endsFailed code hm
  · cases hstep

theorem does_of_tick (checkpoint : Nat) (refused : Option ErrorChain) :
    Does h (.tick refused) (h.tick checkpoint refused) := by
  unfold Host.tick
  split
  · next hcur =>
    refine @Does.progresses h checkpoint refused _ _ hcur ?_
    rcases setServiceStatus_cases h refused .stopPending 0 checkpoint stopWaitHintMs noError with
      ⟨error, heq, -⟩ | ⟨heq, -⟩
    · exact Or.inl (congrArg Prod.snd heq)
    · exact Or.inr (congrArg Prod.snd heq)
  · exact .rests

/-- **Every step is one of these.** -/
theorem does_of_step {e : Event} {h' : Host} (hstep : step h e = some h') : Does h e h' := by
  cases e with
  | ready refused spawned => exact does_of_ready hstep
  | report refused => exact does_of_report hstep
  | reportFailure refused => exact does_of_reportFailure hstep
  | register error =>
    simp only [step] at hstep
    split at hstep
    · next hm =>
      cases hstep
      cases error with
      | none => exact .goes (.registered hm)
      | some error => exact .goes (.broke (by rw [hm]; rfl) (List.mem_singleton_self _))
    · cases hstep
  | storeHandle =>
    simp only [step] at hstep
    split at hstep
    · next hm =>
      cases hstep
      exact .attaches hm
    · cases hstep
  | announce refused =>
    simp only [step] at hstep
    split at hstep
    · next hm =>
      cases hstep
      cases refused with
      | none => exact .announces hm
      | some error => exact .goes (.broke (by rw [hm]; rfl) (List.mem_singleton_self _))
    · cases hstep
  | store =>
    simp only [step] at hstep
    split at hstep
    · next stored hm =>
      cases hstep
      exact .stores hm
    · cases hstep
  | prepare error =>
    simp only [step] at hstep
    split at hstep
    · next hm =>
      cases hstep
      cases error with
      | none => exact .goes (.prepared hm)
      | some error => exact .goes (.broke (by rw [hm]; rfl) (List.mem_singleton_self _))
    · cases hstep
  | finish error =>
    simp only [step] at hstep
    split at hstep
    · next hm =>
      cases hstep
      cases error with
      | none => exact .goes (.finished hm)
      | some error => exact .goes (.gaveUp hm fun _ => List.mem_singleton_self _)
    · cases hstep
  | record error =>
    simp only [step] at hstep
    split at hstep
    · next hm =>
      cases hstep
      cases error with
      | none => exact .goes (.recorded hm)
      | some error => exact .goes (.broke (by rw [hm]; rfl) (List.mem_singleton_self _))
    · cases hstep
  | inspect =>
    simp only [step] at hstep
    split at hstep
    · next code hm =>
      cases hstep
      split
      · next hcur => exact .goes (.wasStopped hm hcur)
      · next hcur => exact .goes (.wasNotStopped hm hcur)
    · cases hstep
  | panic =>
    simp only [step] at hstep
    split at hstep
    · next hm =>
      cases hstep
      exact .goes (.panicked hm)
    · cases hstep
  | control control refused spawned =>
    simp only [step] at hstep
    split at hstep
    · cases hstep
    · cases hstep
      exact does_of_control control refused spawned
  | tick refused =>
    obtain ⟨checkpoint, -, rfl⟩ := Option.map_eq_some_iff.mp hstep
    exact does_of_tick checkpoint refused

end

/-! ## What the service control manager sees -/

def ServiceState.rank : ServiceState → Nat
  | startPending => 1
  | running => 2
  | stopPending => 3
  | stopped => 4

/-- The one state may be reported before the other. A stop that overtakes the first status is `lenient`. -/
def Advances (lenient : Bool) (a b : ServiceState) : Prop :=
  a.rank ≤ b.rank ∨ lenient = true ∧ a = .stopPending ∧ b = .startPending

theorem Advances.refl (lenient : Bool) (a : ServiceState) : Advances lenient a a := Or.inl (Nat.le_refl _)

theorem Advances.to_stopPending {lenient : Bool} {a : ServiceState} (h : a ≠ .stopped) :
    Advances lenient a .stopPending := by
  cases a with
  | stopped => exact absurd rfl h
  | startPending | running | stopPending => exact Or.inl (by decide)

theorem Advances.to_stopped (lenient : Bool) (a : ServiceState) : Advances lenient a .stopped := by
  cases a <;> exact Or.inl (by decide)

/-- The thread of `service_main` has not asked to be reported as running. -/
def MainThread.early : MainThread → Bool
  | registering | registered | announcing | storing _ | initializing | executing => true
  | _ => false

/-- The thread of `service_main` has nothing more to report. -/
def MainThread.ended : MainThread → Bool
  | failed _ | gone => true
  | _ => false

/-- What holds of the host between two steps; a stop that nobody has accepted is `lenient`. -/
structure Consistent (lenient : Bool) (h : Host) : Prop where
  ordered : h.published.Pairwise fun later earlier => Advances lenient earlier.currentState later.currentState
  current : ∀ c, h.currentState = some c → ∀ p ∈ h.published, Advances lenient p.currentState c
  accepts : ∀ p ∈ h.published, p.controlsAccepted = decide (p.currentState = .running)
  early : h.mainThread.early = true → ∀ p ∈ h.published, p.currentState = .startPending ∨ p.currentState = .stopPending
  unstored : h.mainThread.early = true → ∀ c, h.currentState = some c → c = .startPending ∨ c = .stopPending
  progress : h.progress.isSome = true → h.requested = true
  stopping : h.currentState = some .stopPending → h.requested = true
  requested : ∀ p ∈ h.published, p.currentState = .stopPending → h.requested = true
  prompt : lenient = false → h.mainThread.early = true → h.requested = false
  stopped : ∀ p ∈ h.published, p.currentState = .stopped →
    h.currentState = some .stopped ∧ h.mainThread.ended = true ∧ p = h.status .stopped
  repeats : h.currentState = some .stopped → h.status .stopped ∈ h.published

theorem consistent_new (lenient : Bool) : Consistent lenient Host.new where
  ordered := List.Pairwise.nil
  current := fun c hc => by cases hc
  accepts := fun p hp => by cases hp
  early := fun _ p hp => by cases hp
  unstored := fun _ c hc => by cases hc
  progress := fun h => by cases h
  stopping := fun h => by cases h
  requested := fun p hp => by cases hp
  prompt := fun _ _ => rfl
  stopped := fun p hp => by cases hp
  repeats := fun h => by cases h

variable {lenient : Bool} {h : Host}

/-- A status that may follow all of the others is published. -/
theorem Consistent.publish (hc : Consistent lenient h) {status : ServiceStatus}
    (hadvances : ∀ p ∈ h.published, Advances lenient p.currentState status.currentState)
    (haccepts : status.controlsAccepted = decide (status.currentState = .running))
    (hearly : h.mainThread.early = true → status.currentState = .startPending ∨ status.currentState = .stopPending)
    (hrequested : status.currentState = .stopPending → h.requested = true)
    (hended : status.currentState = .stopped → h.mainThread.ended = true)
    (hsame : ∀ p ∈ h.published, p.currentState = .stopped → p = status) : Consistent lenient (h.publish status) := by
  have hstatus : status.currentState = .stopped → status = (h.publish status).status .stopped := by
    intro hstopped
    unfold Host.status Host.publish
    cases status
    simp_all
  refine ⟨?_, ?_, ?_, ?_, ?_, hc.progress, ?_, ?_, hc.prompt, ?_, ?_⟩
  · exact List.pairwise_cons.mpr ⟨hadvances, hc.ordered⟩
  · rintro c ⟨⟩ p hp
    rcases List.mem_cons.mp hp with rfl | hp
    · exact Advances.refl _ _
    · exact hadvances p hp
  · exact List.forall_mem_cons.mpr ⟨haccepts, hc.accepts⟩
  · exact fun he => List.forall_mem_cons.mpr ⟨hearly he, hc.early he⟩
  · rintro he c ⟨⟩
    exact hearly he
  · exact fun hstop => hrequested (Option.some.inj hstop)
  · exact List.forall_mem_cons.mpr ⟨hrequested, hc.requested⟩
  · intro p hp hstopped
    have hlast : status.currentState = .stopped := by
      rcases List.mem_cons.mp hp with rfl | hp
      · exact hstopped
      · rw [← hsame p hp hstopped]
        exact hstopped
    refine ⟨congrArg some hlast, hended hlast, ?_⟩
    rcases List.mem_cons.mp hp with rfl | hp
    · exact hstatus hstopped
    · exact (hsame p hp hstopped).trans (hstatus hlast)
  · intro hstop
    rw [← hstatus (Option.some.inj hstop)]
    exact List.mem_cons_self

theorem Consistent.not_stopped (hc : Consistent lenient h) (hm : h.mainThread.ended = false) :
    ∀ p ∈ h.published, p.currentState ≠ .stopped := by
  intro p hp hstopped
  have hended := (hc.stopped p hp hstopped).2.1
  rw [hm] at hended
  cases hended

theorem Consistent.not_stopped_of_current (hc : Consistent lenient h) (hm : h.currentState ≠ some .stopped) :
    ∀ p ∈ h.published, p.currentState ≠ .stopped :=
  fun p hp hstopped => hm (hc.stopped p hp hstopped).1

/-- The thread of `service_main` goes on. -/
theorem Consistent.goto (hc : Consistent lenient h) {m : MainThread}
    (hearly : m.early = true → h.mainThread.early = true)
    (hended : m.ended = true ∨ ∀ p ∈ h.published, p.currentState ≠ .stopped) :
    Consistent lenient { h with mainThread := m } :=
  ⟨hc.ordered, hc.current, hc.accepts, fun he => hc.early (hearly he), fun he => hc.unstored (hearly he), hc.progress,
    hc.stopping, hc.requested, fun hl he => hc.prompt hl (hearly he),
    fun p hp hstopped => ⟨(hc.stopped p hp hstopped).1,
      hended.elim id fun hnot => absurd hstopped (hnot p hp), (hc.stopped p hp hstopped).2.2⟩, hc.repeats⟩

theorem Consistent.startProgress (hc : Consistent lenient h) (hrequested : h.requested = true) (spawned : Bool) :
    Consistent lenient (h.startStopProgressReporter spawned) := by
  unfold Host.startStopProgressReporter
  split
  · exact hc
  · exact ⟨hc.ordered, hc.current, hc.accepts, hc.early, hc.unstored, fun _ => hrequested, hc.stopping, hc.requested,
      hc.prompt, hc.stopped, hc.repeats⟩

/-- A stop is asked for; one that waits to be accepted is not early. -/
theorem Consistent.request (hc : Consistent lenient h) (hprompt : lenient = false → h.mainThread.early = false) :
    Consistent lenient { h with requested := true } :=
  ⟨hc.ordered, hc.current, hc.accepts, hc.early, hc.unstored, fun _ => rfl, fun _ => rfl, fun _ _ _ => rfl,
    fun hl he => absurd (hprompt hl) (by rw [he]; decide), hc.stopped, hc.repeats⟩

/-- The first status may follow what is published before the service runs. -/
theorem Consistent.to_startPending (hc : Consistent lenient h) (he : h.mainThread.early = true) :
    ∀ p ∈ h.published, Advances lenient p.currentState .startPending := by
  intro p hp
  rcases hc.early he p hp with hs | hs
  · rw [hs]
    exact Advances.refl _ _
  · cases hl : lenient with
    | true => exact Or.inr ⟨rfl, hs, rfl⟩
    | false =>
      have hnot := hc.prompt hl he
      rw [hc.requested p hp hs] at hnot
      cases hnot

theorem MainThread.not_ended_of_early {m : MainThread} (he : m.early = true) : m.ended = false := by
  cases m <;> first | rfl | cases he

theorem Consistent.announce (hc : Consistent lenient h) (he : h.mainThread.early = true) :
    Consistent lenient { h with mainThread := .storing 0, published := startStatus :: h.published } := by
  have hnot := hc.not_stopped (MainThread.not_ended_of_early he)
  refine ⟨?_, ?_, ?_, ?_, fun _ => hc.unstored he, hc.progress, hc.stopping, ?_, fun hl _ => hc.prompt hl he, ?_, ?_⟩
  · exact List.pairwise_cons.mpr ⟨hc.to_startPending he, hc.ordered⟩
  · intro c hcur p hp
    rcases List.mem_cons.mp hp with rfl | hp
    · rcases hc.unstored he c hcur with rfl | rfl <;> exact Or.inl (by decide)
    · exact hc.current c hcur p hp
  · exact List.forall_mem_cons.mpr ⟨rfl, hc.accepts⟩
  · exact fun _ => List.forall_mem_cons.mpr ⟨Or.inl rfl, hc.early he⟩
  · exact List.forall_mem_cons.mpr ⟨(fun hs => by cases hs), hc.requested⟩
  · exact List.forall_mem_cons.mpr ⟨(fun hs => by cases hs), fun p hp hs => absurd hs (hnot p hp)⟩
  · intro hstop
    rcases hc.unstored he _ hstop with hs | hs <;> cases hs

theorem Consistent.storeAt (hc : Consistent lenient h) (he : h.mainThread.early = true) (stored : Nat) :
    Consistent lenient (h.storeAt stored) := by
  have hnot := hc.not_stopped (MainThread.not_ended_of_early he)
  have hcur : h.currentState ≠ some .stopped := by
    intro hstop
    rcases hc.unstored he _ hstop with hs | hs <;> cases hs
  unfold Host.storeAt
  split
  · refine ⟨hc.ordered, ?_, hc.accepts, fun _ => hc.early he, ?_, hc.progress, (fun hs => by cases hs),
      hc.requested, fun hl _ => hc.prompt hl he, fun p hp hs => absurd hs (hnot p hp), (fun hs => by cases hs)⟩
    · rintro c ⟨⟩
      exact hc.to_startPending he
    · rintro _ c ⟨⟩
      exact Or.inl rfl
  all_goals
    exact ⟨hc.ordered, hc.current, hc.accepts, fun _ => hc.early he, fun _ => hc.unstored he, hc.progress, hc.stopping,
      hc.requested, fun hl _ => hc.prompt hl he, fun p hp hs => absurd hs (hnot p hp), fun hs => absurd hs hcur⟩

theorem Consistent.setProgress (hc : Consistent lenient h) {next : Option Nat}
    (hnext : next.isSome = true → h.requested = true) : Consistent lenient { h with progress := next } :=
  ⟨hc.ordered, hc.current, hc.accepts, hc.early, hc.unstored, hnext, hc.stopping, hc.requested, hc.prompt, hc.stopped,
    hc.repeats⟩

/-- A stop that is asked for is reported. -/
theorem Consistent.publishStopping (hc : Consistent lenient h) (hnot : ∀ p ∈ h.published, p.currentState ≠ .stopped)
    (hrequested : h.requested = true) (checkpoint : Nat) :
    Consistent lenient (h.publish (stoppingStatus checkpoint)) :=
  hc.publish (fun p hp => Advances.to_stopPending (hnot p hp)) rfl (fun _ => Or.inr rfl) (fun _ => hrequested)
    (fun hs => by cases hs) (fun p hp hs => absurd hs (hnot p hp))

/-- The end is reported, and the thread of `service_main` has nothing more to report. -/
theorem Consistent.publishStopped (hc : Consistent lenient h) (hm : h.mainThread.ended = false) {m : MainThread}
    (hended : m.ended = true) (hearly : m.early = false) (code : Nat) :
    Consistent lenient { h.publish (stoppedStatus code) with mainThread := m } := by
  have hnot := hc.not_stopped hm
  have hgoto : Consistent lenient { h with mainThread := m } :=
    hc.goto (fun he => by rw [hearly] at he; cases he) (Or.inl hended)
  show Consistent lenient ({ h with mainThread := m }.publish (stoppedStatus code))
  exact hgoto.publish (fun p _ => Advances.to_stopped _ _) rfl (fun he => by rw [hearly] at he; cases he)
    (fun hs => by cases hs) (fun _ => hended) (fun p hp hs => absurd hs (hnot p hp))

/-- The service is reported as running, unless a stop has been asked for. -/
theorem Consistent.publishRunning (hc : Consistent lenient h) (hm : h.mainThread.early = true)
    (hasked : h.requested = false) : Consistent lenient { h.publish runningStatus with mainThread := .serving } := by
  have hnot := hc.not_stopped (MainThread.not_ended_of_early hm)
  have hgoto : Consistent lenient { h with mainThread := .serving } := hc.goto (fun he => by cases he) (Or.inr hnot)
  show Consistent lenient ({ h with mainThread := .serving }.publish runningStatus)
  refine hgoto.publish (fun p hp => ?_) rfl (fun he => by cases he) (fun hs => by cases hs) (fun hs => by cases hs)
    (fun p hp hs => absurd hs (hnot p hp))
  rcases hc.early hm p hp with hs | hs
  · rw [hs]
    exact Or.inl (by decide)
  · exact absurd ((hc.requested p hp hs).symm.trans hasked) (by decide)

/-- The current status is reported again. -/
theorem Consistent.repeat (hc : Consistent lenient h) {state : ServiceState} (hcur : h.currentState = some state) :
    Consistent lenient (h.publish (h.status state)) := by
  refine hc.publish (hc.current state hcur) rfl (fun he => hc.unstored he state hcur) ?_ ?_ ?_
  · rintro rfl
    exact hc.stopping hcur
  · rintro rfl
    exact (hc.stopped _ (hc.repeats hcur) rfl).2.1
  · intro p hp hs
    obtain ⟨hstop, -, hsame⟩ := hc.stopped p hp hs
    cases hcur.symm.trans hstop
    exact hsame

theorem Goes.early {e : Event} {m : MainThread} (hgoes : Goes h e m) (he : m.early = true) :
    h.mainThread.early = true := by
  cases hgoes with
  | registered hm | prepared hm =>
    rw [hm]
    rfl
  | finished | recorded | gaveUp | broke | unheard | panicked | wasStopped | wasNotStopped | refused => cases he

/-- The thread of `service_main` has nothing more to report, or the end has not been reported. -/
theorem Goes.ended {e : Event} {m : MainThread} (hgoes : Goes h e m) :
    m.ended = true ∨ h.mainThread.ended = false ∨ h.currentState ≠ some .stopped := by
  cases hgoes with
  | registered hm | prepared hm | recorded hm => exact Or.inr (Or.inl (by rw [hm]; rfl))
  | finished hm | gaveUp hm => exact Or.inr (Or.inl (by rcases hm with hm | hm <;> rw [hm] <;> rfl))
  | broke | unheard | panicked | wasStopped | refused => exact Or.inl rfl
  | wasNotStopped _ hcur => exact Or.inr (Or.inr hcur)

theorem Consistent.goes (hc : Consistent lenient h) {e : Event} {m : MainThread} (hgoes : Goes h e m) :
    Consistent lenient { h with mainThread := m } := by
  refine hc.goto hgoes.early ?_
  rcases hgoes.ended with hm | hm | hcur
  · exact Or.inl hm
  · exact Or.inr (hc.not_stopped hm)
  · exact Or.inr (hc.not_stopped_of_current hcur)

theorem Consistent.step (hc : Consistent lenient h) {e : Event} {h' : Host}
    (hprompt : lenient = false → ∀ control refused spawned, e = .control control refused spawned →
      control.stops = true → h.mainThread.early = false)
    (hstep : step h e = some h') : Consistent lenient h' := by
  cases does_of_step hstep with
  | goes hgoes => exact hc.goes hgoes
  | attaches hm =>
    have hgoto : Consistent lenient { h with mainThread := .announcing } :=
      hc.goto (fun _ => by rw [hm]; rfl) (Or.inr (hc.not_stopped (by rw [hm]; rfl)))
    exact ⟨hgoto.ordered, hgoto.current, hgoto.accepts, hgoto.early, hgoto.unstored, hgoto.progress, hgoto.stopping,
      hgoto.requested, hgoto.prompt, hgoto.stopped, hgoto.repeats⟩
  | announces hm => exact hc.announce (by rw [hm]; rfl)
  | stores hm => exact hc.storeAt (by rw [hm]; rfl) _
  | runs hm hasked => exact hc.publishRunning (by rw [hm]; rfl) hasked
  | stops spawned hm hasked =>
    have hnot := hc.not_stopped (by rw [hm]; rfl)
    have hstarted := (hc.publishStopping hnot hasked 1).startProgress hasked spawned
    refine hstarted.goto (fun he => by cases he) (Or.inr (hstarted.not_stopped ?_))
    rw [mainThread_startStopProgressReporter]
    exact (congrArg MainThread.ended hm).trans rfl
  | ends code hm => exact hc.publishStopped (by rw [hm]; rfl) (by split <;> rfl) (by split <;> rfl) code
  | endsFailed code hm => exact hc.publishStopped (by rw [hm]; rfl) rfl rfl code
  | ignores => exact hc
  | repeats hcur => exact hc.repeat hcur
  | asked told hstops hcur htold =>
    have hrequest := hc.request fun hl => hprompt hl _ _ _ rfl hstops
    obtain rfl | rfl := htold
    · exact hrequest.startProgress rfl _
    · exact (hrequest.publishStopping (hc.not_stopped_of_current hcur) rfl 1).startProgress rfl _
  | progresses hcur htold =>
    have hrequested := hc.stopping hcur
    obtain rfl | rfl := htold
    · exact hc.setProgress fun _ => hrequested
    · refine (hc.publishStopping (hc.not_stopped_of_current ?_) hrequested _).setProgress fun _ => hrequested
      rw [hcur]
      decide
  | rests => exact hc.setProgress fun hs => by cases hs

/-! ## Runs -/

/-- The service control manager asks a service to stop when it has been told that the service accepts that. -/
def promptStep (h : Host) (e : Event) : Option Host :=
  match e with
  | .control control _ _ => if control.stops && !h.published.any ServiceStatus.controlsAccepted then none else step h e
  | _ => step h e

theorem step_of_promptStep {e : Event} {h' : Host} (hstep : promptStep h e = some h') :
    step h e = some h' ∧ ∀ control refused spawned, e = .control control refused spawned → control.stops = true →
      ∃ p ∈ h.published, p.controlsAccepted = true := by
  unfold promptStep at hstep
  split at hstep
  · next control refused spawned =>
    split at hstep
    · cases hstep
    · next hallowed =>
      refine ⟨hstep, ?_⟩
      rintro _ _ _ ⟨⟩ hstops
      simpa [hstops] using hallowed
  · next hother => exact ⟨hstep, fun control refused spawned he => absurd he (hother control refused spawned)⟩

theorem consistent_of_run {events : List Event} (hrun : Machines.run step Host.new events = some h) :
    Consistent true h :=
  inv_of_run (consistent_new true) (fun _ _ _ hc hstep => hc.step (fun hl => by cases hl) hstep) hrun

theorem consistent_of_prompt_run {events : List Event} (hrun : Machines.run promptStep Host.new events = some h) :
    Consistent false h := by
  refine inv_of_run (consistent_new false) ?_ hrun
  intro g e h' hc hstep
  obtain ⟨hstep, hallowed⟩ := step_of_promptStep hstep
  refine hc.step (fun _ control refused spawned he hstops => ?_) hstep
  obtain ⟨p, hp, haccepted⟩ := hallowed control refused spawned he hstops
  have hrunning : p.currentState = .running := by
    rw [hc.accepts p hp] at haccepted
    exact of_decide_eq_true haccepted
  cases hearly : g.mainThread.early with
  | false => rfl
  | true => rcases hc.early hearly p hp with hs | hs <;> cases hrunning.symm.trans hs

/-! ## After a stop is asked for -/

/-- What happens to the statuses between `g`, where a stop is asked for, and `h`. -/
structure Since (g h : Host) : Prop where
  requested : h.requested = true
  published : ∃ new, h.published = new ++ g.published ∧
    ∀ p ∈ new, p.currentState = .running → g.currentState = some .running
  current : h.currentState = some .running → g.currentState = some .running

variable {g : Host}

theorem Since.refl (hg : g.requested = true) : Since g g := ⟨hg, ⟨[], rfl, fun p hp => by cases hp⟩, id⟩

/-- Nothing is published. -/
theorem Since.quiet (hs : Since g h) {h' : Host} (hrequested : h'.requested = true)
    (hpublished : h'.published = h.published)
    (hcurrent : h'.currentState = h.currentState ∨ h'.currentState = some .startPending) : Since g h' := by
  refine ⟨hrequested, ?_, fun hrunning => ?_⟩
  · rw [hpublished]
    exact hs.published
  · rcases hcurrent with heq | heq
    · exact hs.current (heq ▸ hrunning)
    · cases heq.symm.trans hrunning

theorem Since.publish (hs : Since g h) (status : ServiceStatus)
    (hrunning : status.currentState = .running → h.currentState = some .running) : Since g (h.publish status) := by
  obtain ⟨new, hnew, hold⟩ := hs.published
  refine ⟨hs.requested, ⟨status :: new, congrArg (status :: ·) hnew, ?_⟩, fun hcur => ?_⟩
  · exact List.forall_mem_cons.mpr ⟨fun h => hs.current (hrunning h), hold⟩
  · exact hs.current (hrunning (Option.some.inj hcur))

theorem Since.startProgress (hs : Since g h) (spawned : Bool) : Since g (h.startStopProgressReporter spawned) := by
  unfold Host.startStopProgressReporter
  split
  · exact hs
  · exact hs.quiet hs.requested rfl (Or.inl rfl)

theorem Since.step (hs : Since g h) {e : Event} {h' : Host} (hstep : ServiceHost.step h e = some h') : Since g h' := by
  have hkept {checkpoint : Nat} {told : Host} (htold : told = h ∨ told = h.publish (stoppingStatus checkpoint)) :
      Since g told := by
    obtain rfl | rfl := htold
    · exact hs
    · exact hs.publish _ fun hr => by cases hr
  cases does_of_step hstep with
  | goes | attaches | rests => exact hs.quiet hs.requested rfl (Or.inl rfl)
  | announces =>
    obtain ⟨new, hnew, hold⟩ := hs.published
    refine ⟨hs.requested, ⟨startStatus :: new, congrArg (startStatus :: ·) hnew, ?_⟩, hs.current⟩
    exact List.forall_mem_cons.mpr ⟨(fun h => by cases h), hold⟩
  | stores =>
    unfold Host.storeAt
    split
    · exact hs.quiet hs.requested rfl (Or.inr rfl)
    all_goals exact hs.quiet hs.requested rfl (Or.inl rfl)
  | runs _ hasked => exact absurd (hs.requested.symm.trans hasked) (by decide)
  | stops spawned =>
    have hstarted := (hs.publish (stoppingStatus 1) fun hr => by cases hr).startProgress spawned
    exact hstarted.quiet hstarted.requested rfl (Or.inl rfl)
  | ends code | endsFailed code =>
    have hpublished := hs.publish (stoppedStatus code) fun hr => by cases hr
    exact hpublished.quiet hpublished.requested rfl (Or.inl rfl)
  | ignores => exact hs
  | repeats hcur => exact hs.publish _ fun hr => hcur.trans (congrArg some hr)
  | asked told _ _ htold =>
    have hrequest : Since g { told with requested := true } := (hkept htold).quiet rfl rfl (Or.inl rfl)
    exact hrequest.startProgress _
  | progresses _ htold => exact (hkept htold).quiet (hkept htold).requested rfl (Or.inl rfl)

/-- **The states of the service only go forward**, whatever the threads and the callback do in turn: a stop that comes
before the first status may be reported before it, and nothing else is out of order. When the service has stopped it
says nothing else, and always the same. Once a stop is asked for the service is not reported as running, unless the
report of the stop was refused and the last status is asked for again. -/
theorem service_lifecycle {events : List Event} (hrun : Machines.run step Host.new events = some h) :
    (h.published.Pairwise fun later earlier => Advances true earlier.currentState later.currentState) ∧
      (∀ p ∈ h.published, ∀ q ∈ h.published, p.currentState = .stopped → q.currentState = .stopped → p = q) ∧
      (∀ p ∈ h.published, p.controlsAccepted = true ↔ p.currentState = .running) ∧
      ∀ before after g, events = before ++ after → Machines.run step Host.new before = some g → g.requested = true →
        Since g h := by
  have hc := consistent_of_run hrun
  refine ⟨hc.ordered, ?_, ?_, ?_⟩
  · intro p hp q hq hp' hq'
    exact (hc.stopped p hp hp').2.2.trans (hc.stopped q hq hq').2.2.symm
  · intro p hp
    rw [hc.accepts p hp]
    exact decide_eq_true_iff
  · rintro before after g rfl hg hrequested
    obtain ⟨g', hg', hafter⟩ := run_append_eq_some.mp hrun
    cases hg.symm.trans hg'
    exact inv_of_run (I := Since g) (Since.refl hrequested) (fun _ _ _ hs hstep => hs.step hstep) hafter

/-- A stop comes as soon as the handle is stored. -/
def hastyEvents : List Event :=
  [.register none, .storeHandle, .control .stop none true, .announce none, .store, .store, .store, .store, .store,
    .prepare none, .ready none true, .record none, .report none]

theorem service_lifecycle_hasty : ∃ h, Machines.run step Host.new hastyEvents = some h ∧
    h.published.map ServiceStatus.currentState = [.stopped, .stopPending, .startPending, .stopPending] ∧
    h.published.Pairwise (fun later earlier => Advances true earlier.currentState later.currentState) ∧
    Since ⟨true, some .stopPending, 0, 0, 1, 30000, true, true, some 2, .announcing,
      [⟨.stopPending, false, 0, 0, 1, 30000⟩]⟩
      h :=
  have hrun : Machines.run step Host.new hastyEvents = some _ := rfl
  ⟨_, rfl, rfl, (service_lifecycle hrun).1,
    (service_lifecycle hrun).2.2.2 (hastyEvents.take 3) (hastyEvents.drop 3) _ rfl rfl rfl⟩

/-- **Where a stop waits until the service accepts it**, the states are reported in their order. -/
theorem prompt_lifecycle {events : List Event} (hrun : Machines.run promptStep Host.new events = some h) :
    h.published.Pairwise fun later earlier => earlier.currentState.rank ≤ later.currentState.rank :=
  (consistent_of_prompt_run hrun).ordered.imp fun hadvances => hadvances.resolve_right fun hl => by cases hl.1

/-- A service runs, is stopped, and reports its progress twice. -/
def orderlyEvents : List Event :=
  [.register none, .storeHandle, .announce none, .store, .store, .store, .store, .store, .prepare none,
    .ready none true,
    .control .interrogate none true, .control .shutdown none true, .tick none, .finish none, .record none, .tick none,
    .report none, .tick none]

theorem prompt_lifecycle_orderly : ∃ h, Machines.run promptStep Host.new orderlyEvents = some h ∧
    h.published.map ServiceStatus.checkPoint = [0, 3, 2, 1, 0, 0, 1] ∧
    h.published.Pairwise fun later earlier => earlier.currentState.rank ≤ later.currentState.rank :=
  have hrun : Machines.run promptStep Host.new orderlyEvents = some _ := rfl
  ⟨_, rfl, rfl, prompt_lifecycle hrun⟩

/-! ## Why the service has stopped -/

/-- What a failure in these events would be reported as. -/
def Failed (events : List Event) (code : Nat) : Prop :=
  (code = serviceFailurePanic ∧ .panic ∈ events) ∨
    ∃ e ∈ events, ∃ error ∈ e.errors, code = runtimeFailureCode error

def StopAsked (events : List Event) : Prop :=
  ∃ control refused spawned, .control control refused spawned ∈ events ∧ control.stops = true

/-- What the end of these events would be reported as. -/
def Ended (events : List Event) (code : Nat) : Prop :=
  (code = 0 ∧ (.finish none ∈ events ∨ StopAsked events)) ∨ (code ≠ 0 ∧ Failed events code)

theorem contextCode_bounds {context : String} {code : Nat} (h : contextCode context = some code) :
    10 ≤ code ∧ code ≤ 28 := by
  unfold contextCode at h
  split at h <;> cases h <;> decide

theorem contextOf_bounds (error : ErrorChain) :
    contextOf error = serviceFailureRuntime ∨ 10 ≤ contextOf error ∧ contextOf error ≤ 28 := by
  induction error using List.reverseRecOn with
  | nil => exact Or.inl rfl
  | append_singleton error cause ih =>
    unfold contextOf
    rw [List.foldl_append, List.foldl_cons, List.foldl_nil]
    cases h : contextCode cause.1 with
    | none => exact ih
    | some code => exact Or.inr (contextCode_bounds h)

theorem nativeOf_bounds {error : ErrorChain} {native : Nat} (h : nativeOf error = some native) :
    1 ≤ native ∧ native ≤ 9999 := by
  unfold nativeOf at h
  split at h
  · split at h
    · next hbounds =>
      cases h
      omega
    · cases h
  · cases h

/-- What a code says about the error: what was being done, and how the system failed. -/
def diagnose (code : Nat) : Nat × Option Nat :=
  if code < 10000 then (code, none) else (code / 10000, some (code % 10000))

theorem diagnose_runtimeFailureCode (error : ErrorChain) :
    diagnose (runtimeFailureCode error) = (contextOf error, nativeOf error) := by
  have hcontext : 1 ≤ contextOf error ∧ contextOf error ≤ 28 := by
    rcases contextOf_bounds error with h | h
    · rw [h]
      decide
    · omega
  unfold runtimeFailureCode diagnose
  cases hnative : nativeOf error with
  | none =>
    dsimp only
    rw [if_pos (by omega)]
  | some code =>
    have hbounds := nativeOf_bounds hnative
    dsimp only
    rw [if_neg (by omega)]
    have hdiv : (contextOf error * 10000 + code) / 10000 = contextOf error := by omega
    have hmod : (contextOf error * 10000 + code) % 10000 = code := by omega
    rw [hdiv, hmod]

/-- An error is not taken for an orderly stop or for a panic, and its code is a `u32`. -/
theorem runtimeFailureCode_bounds (error : ErrorChain) :
    runtimeFailureCode error ≠ 0 ∧ runtimeFailureCode error ≠ serviceFailurePanic ∧
      runtimeFailureCode error < 2 ^ 32 := by
  unfold runtimeFailureCode serviceFailurePanic
  have hcontext := contextOf_bounds error
  unfold serviceFailureRuntime at hcontext
  cases hnative : nativeOf error with
  | none =>
    dsimp only
    omega
  | some code =>
    have hbounds := nativeOf_bounds hnative
    dsimp only
    omega

theorem Failed.mono {events more : List Event} {code : Nat} (hsub : events ⊆ more) (h : Failed events code) :
    Failed more code := by
  rcases h with ⟨hcode, hpanic⟩ | ⟨e, he, herror⟩
  · exact Or.inl ⟨hcode, hsub hpanic⟩
  · exact Or.inr ⟨e, hsub he, herror⟩

theorem Failed.ne_zero {events : List Event} {code : Nat} (h : Failed events code) : code ≠ 0 := by
  rcases h with ⟨rfl, -⟩ | ⟨e, -, error, -, rfl⟩
  · decide
  · exact (runtimeFailureCode_bounds error).1

theorem StopAsked.mono {events more : List Event} (hsub : events ⊆ more) (h : StopAsked events) : StopAsked more := by
  obtain ⟨control, refused, spawned, hmem, hstops⟩ := h
  exact ⟨control, refused, spawned, hsub hmem, hstops⟩

theorem Ended.mono {events more : List Event} {code : Nat} (hsub : events ⊆ more) (h : Ended events code) :
    Ended more code := by
  rcases h with ⟨hcode, hfinish | hasked⟩ | ⟨hcode, hfailed⟩
  · exact Or.inl ⟨hcode, Or.inl (hsub hfinish)⟩
  · exact Or.inl ⟨hcode, Or.inr (hasked.mono hsub)⟩
  · exact Or.inr ⟨hcode, hfailed.mono hsub⟩

/-- What the thread of `service_main` is about to report is what has happened. -/
def MainThread.Explained (events : List Event) : MainThread → Prop
  | recording => Ended events 0
  | reporting code => Ended events code
  | failed code | reportingFailure code => Failed events code
  | _ => True

theorem MainThread.Explained.mono {events more : List Event} {m : MainThread} (hsub : events ⊆ more)
    (h : m.Explained events) : m.Explained more := by
  cases m with
  | recording | reporting => exact Ended.mono hsub h
  | failed | reportingFailure => exact Failed.mono hsub h
  | registering | registered | announcing | storing | initializing | executing | serving | gone => trivial

/-- `STATUS_HANDLE` is stored, and the thread of `service_main` may still fail. -/
def MainThread.attached : MainThread → Bool
  | registering | registered | failed _ | reportingFailure _ | gone => false
  | _ => true

def ServiceStatus.Explained (events : List Event) (p : ServiceStatus) : Prop :=
  p.currentState = .stopped → Ended events p.serviceSpecificExitCode ∧
    p.win32ExitCode = if p.serviceSpecificExitCode = 0 then noError else errorServiceSpecificError

/-- What the host says, and is about to say, is what has happened. -/
structure Explained (events : List Event) (h : Host) : Prop where
  thread : h.mainThread.Explained events
  handle : h.mainThread.attached = true → h.statusHandle = true
  requested : h.requested = true → StopAsked events
  statuses : ∀ p ∈ h.published, p.Explained events

variable {events : List Event}

theorem Explained.mono {more : List Event} (hsub : events ⊆ more) (h : Explained events g) : Explained more g :=
  ⟨h.thread.mono hsub, h.handle, fun hr => (h.requested hr).mono hsub,
    fun p hp hs => ⟨(h.statuses p hp hs).1.mono hsub, (h.statuses p hp hs).2⟩⟩

theorem Explained.goto (hx : Explained events h) {m : MainThread} (hm : m.Explained events)
    (hattached : m.attached = true → h.statusHandle = true) : Explained events { h with mainThread := m } :=
  ⟨hm, hattached, hx.requested, hx.statuses⟩

theorem Explained.publish (hx : Explained events h) {status : ServiceStatus} (hstatus : status.Explained events) :
    Explained events (h.publish status) :=
  ⟨hx.thread, hx.handle, hx.requested, List.forall_mem_cons.mpr ⟨hstatus, hx.statuses⟩⟩

theorem Explained.startProgress (hx : Explained events h) (spawned : Bool) :
    Explained events (h.startStopProgressReporter spawned) := by
  unfold Host.startStopProgressReporter
  split
  · exact hx
  · exact ⟨hx.thread, hx.handle, hx.requested, hx.statuses⟩

/-- What is reported at the end is what has happened. -/
theorem Ended.explained {code : Nat} (h : Ended events code) : (stoppedStatus code).Explained events :=
    fun _ => ⟨h, rfl⟩

theorem Failed.ended {code : Nat} (h : Failed events code) : Ended events code := Or.inr ⟨h.ne_zero, h⟩

theorem Explained.goes (hx : Explained events h) {e : Event} (he : e ∈ events) {m : MainThread} (hgoes : Goes h e m) :
    Explained events { h with mainThread := m } := by
  have hthread := hx.thread
  cases hgoes with
  | registered => exact hx.goto trivial fun ha => by cases ha
  | prepared hm => exact hx.goto trivial fun _ => hx.handle (by rw [hm]; rfl)
  | finished hm =>
    exact hx.goto (Or.inl ⟨rfl, Or.inl he⟩) fun _ => hx.handle (by rcases hm with hm | hm <;> rw [hm] <;> rfl)
  | recorded hm =>
    rw [hm] at hthread
    exact hx.goto hthread fun _ => hx.handle (by rw [hm]; rfl)
  | gaveUp hm herror =>
    have hhandle := hx.handle (by rcases hm with hm | hm <;> rw [hm] <;> rfl)
    have hfailed : Failed events (runtimeFailureCode _) := Or.inr ⟨_, he, _, herror hhandle, rfl⟩
    exact hx.goto hfailed.ended fun _ => hhandle
  | broke _ herror => exact hx.goto (Or.inr ⟨_, he, _, herror, rfl⟩) fun ha => by cases ha
  | unheard hm hnone =>
    have hhandle := hx.handle (by rw [hm]; rfl)
    exact absurd (hhandle.symm.trans hnone) (by decide)
  | panicked => exact hx.goto (Or.inl ⟨rfl, he⟩) fun ha => by cases ha
  | wasNotStopped hm =>
    rw [hm] at hthread
    exact hx.goto hthread fun ha => by cases ha
  | wasStopped | refused => exact hx.goto trivial fun ha => by cases ha

theorem Explained.step (hx : Explained events h) (hc : Consistent lenient h) {e : Event} (he : e ∈ events) {h' : Host}
    (hstep : ServiceHost.step h e = some h') : Explained events h' := by
  have hthread := hx.thread
  have hkept {checkpoint : Nat} {told : Host} (htold : told = h ∨ told = h.publish (stoppingStatus checkpoint)) :
      Explained events told := by
    obtain rfl | rfl := htold
    · exact hx
    · exact hx.publish fun hs => by cases hs
  cases does_of_step hstep with
  | goes hgoes => exact hx.goes he hgoes
  | attaches => exact ⟨trivial, fun _ => rfl, hx.requested, hx.statuses⟩
  | announces hm =>
    exact ⟨trivial, fun _ => hx.handle (by rw [hm]; rfl), hx.requested,
      List.forall_mem_cons.mpr ⟨(fun hs => by cases hs), hx.statuses⟩⟩
  | stores hm =>
    have hhandle := hx.handle (by rw [hm]; rfl)
    unfold Host.storeAt
    split <;> exact ⟨trivial, fun _ => hhandle, hx.requested, hx.statuses⟩
  | runs _ _ hhandle =>
    have hpublished : Explained events (h.publish runningStatus) := hx.publish fun hs => by cases hs
    exact hpublished.goto trivial fun _ => hhandle
  | stops _ _ hasked hhandle =>
    have hpublished : Explained events (h.publish (stoppingStatus 1)) := hx.publish fun hs => by cases hs
    refine (hpublished.startProgress _).goto (Or.inl ⟨rfl, Or.inr (hx.requested hasked)⟩) fun _ => ?_
    rw [statusHandle_startStopProgressReporter]
    exact hhandle
  | ends code hm =>
    rw [hm] at hthread
    have hended : Ended events code := hthread
    refine (hx.publish hended.explained).goto ?_ fun ha => ?_
    · split
      · trivial
      · next hcode => exact (hended.resolve_left fun h => hcode h.1).2
    · revert ha
      split <;> exact fun ha => by cases ha
  | endsFailed code hm =>
    rw [hm] at hthread
    have hfailed : Failed events code := hthread
    exact (hx.publish hfailed.ended.explained).goto trivial fun ha => by cases ha
  | ignores => exact hx
  | repeats hcur =>
    refine hx.publish ?_
    rintro ⟨⟩
    exact hx.statuses _ (hc.repeats hcur) rfl
  | asked told hstops _ htold =>
    have hrequest : Explained events { told with requested := true } :=
      ⟨(hkept htold).thread, (hkept htold).handle, fun _ => ⟨_, _, _, he, hstops⟩, (hkept htold).statuses⟩
    exact hrequest.startProgress _
  | progresses _ htold =>
    exact ⟨(hkept htold).thread, (hkept htold).handle, (hkept htold).requested, (hkept htold).statuses⟩
  | rests => exact ⟨hx.thread, hx.handle, hx.requested, hx.statuses⟩

/-- A thread of `service_main` that is over has said so, unless it had no handle to say it with, or was refused. -/
def Told (events : List Event) (h : Host) : Prop :=
  h.mainThread = .gone → h.statusHandle = true → (∀ error, .reportFailure (some error) ∉ events) →
    ∃ p ∈ h.published, p.currentState = .stopped

theorem Told.mono {more : List Event} (hsub : events ⊆ more) (ht : Told events h) : Told more h :=
  fun hover hhandle hnone => ht hover hhandle fun error hmem => hnone error (hsub hmem)

theorem Told.of_ne (hm : h.mainThread ≠ .gone) : Told events h := fun hover => absurd hover hm

/-- The thread of `service_main` stays where it is. -/
theorem Told.stays (ht : Told events h) {h' : Host} (hm : h'.mainThread = h.mainThread)
    (hhandle : h'.statusHandle = h.statusHandle) (hpublished : h.published ⊆ h'.published) : Told events h' := by
  intro hover hattached hnone
  obtain ⟨p, hp, hs⟩ := ht (hm.symm.trans hover) (hhandle.symm.trans hattached) hnone
  exact ⟨p, hpublished hp, hs⟩

theorem Told.step (ht : Told events h) (hc : Consistent lenient h) {e : Event} (he : e ∈ events) {h' : Host}
    (hstep : ServiceHost.step h e = some h') : Told events h' := by
  have hkept {checkpoint : Nat} {told : Host} (htold : told = h ∨ told = h.publish (stoppingStatus checkpoint)) :
      Told events told := by
    obtain rfl | rfl := htold
    · exact ht
    · exact ht.stays rfl rfl (List.subset_cons_self _ _)
  cases does_of_step hstep with
  | goes hgoes =>
    cases hgoes with
    | wasStopped _ hcur => exact fun _ _ _ => ⟨_, hc.repeats hcur, rfl⟩
    | refused _ hrefused =>
      intro _ hhandle hnone
      obtain ⟨error, rfl⟩ := Option.ne_none_iff_exists'.mp (hrefused hhandle)
      exact absurd he (hnone error)
    | registered | prepared | finished | recorded | gaveUp | broke | unheard | panicked | wasNotStopped =>
      exact Told.of_ne (by simp)
  | attaches | announces | runs | stops => exact Told.of_ne (by simp)
  | stores =>
    unfold Host.storeAt
    split <;> exact Told.of_ne (by simp)
  | ends | endsFailed => exact fun _ _ _ => ⟨_, List.mem_cons_self, rfl⟩
  | ignores | rests => exact ht
  | repeats => exact ht.stays rfl rfl (List.subset_cons_self _ _)
  | asked _ _ _ htold =>
    refine (hkept htold).stays (mainThread_startStopProgressReporter _ _)
      (statusHandle_startStopProgressReporter _ _) ?_
    rw [published_startStopProgressReporter]
    exact List.Subset.refl _
  | progresses _ htold => exact (hkept htold).stays rfl rfl (List.Subset.refl _)

/-- **A service says that it has stopped, and why.** The thread of `service_main` does not end without a report, unless
it is refused; and a report can be read: an orderly end, without a code, comes after a stop was asked for or the runtime
returned; a panic has a code of its own; any other code tells what was being done when an error occurred in this run,
and the code of the system for it. -/
theorem stopped_codes (hrun : Machines.run step Host.new events = some h) :
    Told events h ∧ ∀ p ∈ h.published, p.currentState = .stopped →
      (p.win32ExitCode = noError ∧ p.serviceSpecificExitCode = 0 ∧ (.finish none ∈ events ∨ StopAsked events)) ∨
      (p.win32ExitCode = errorServiceSpecificError ∧ p.serviceSpecificExitCode = serviceFailurePanic ∧
        .panic ∈ events) ∨
      (p.win32ExitCode = errorServiceSpecificError ∧ p.serviceSpecificExitCode ≠ 0 ∧
        p.serviceSpecificExitCode ≠ serviceFailurePanic ∧ p.serviceSpecificExitCode < 2 ^ 32 ∧
        ∃ e ∈ events, ∃ error ∈ e.errors,
          diagnose p.serviceSpecificExitCode = (contextOf error, nativeOf error)) := by
  have hx : Consistent true h ∧ Told events h ∧ Explained events h := by
    refine inv_of_run_of_events (I := fun events h => Consistent true h ∧ Told events h ∧ Explained events h)
      ⟨consistent_new true, Told.of_ne (by decide), trivial, (fun ha => by cases ha), (fun hr => by cases hr),
        fun p hp => by cases hp⟩ ?_ hrun
    rintro l g e h' ⟨hc, ht, hx⟩ hstep
    have hsub := List.subset_append_left l [e]
    have he : e ∈ l ++ [e] := List.mem_append_right l (List.mem_singleton_self e)
    exact ⟨hc.step (fun hl => by cases hl) hstep, (ht.mono hsub).step hc he hstep, (hx.mono hsub).step hc he hstep⟩
  refine ⟨hx.2.1, fun p hp hs => ?_⟩
  obtain ⟨hended, hwin32⟩ := hx.2.2.statuses p hp hs
  rcases hended with ⟨hcode, hend⟩ | ⟨hcode, hfailed⟩
  · rw [if_pos hcode] at hwin32
    exact Or.inl ⟨hwin32, hcode, hend⟩
  · rw [if_neg hcode] at hwin32
    rcases hfailed with ⟨hpanic, hmem⟩ | ⟨e, he, error, herror, hfail⟩
    · exact Or.inr (Or.inl ⟨hwin32, hpanic, hmem⟩)
    · obtain ⟨hzero, hpanic, hbound⟩ := runtimeFailureCode_bounds error
      rw [hfail]
      exact Or.inr (Or.inr ⟨hwin32, hzero, hpanic, hbound, e, he, error, herror, diagnose_runtimeFailureCode error⟩)

/-- The private state is refused with code 5 of the system. -/
def refusedEvents : List Event :=
  [.register none, .storeHandle, .announce none, .store, .store, .store, .store, .store,
    .prepare (some [("service private state preflight", none), ("Access is denied. (os error 5)", some 5)]), .inspect,
    .reportFailure none]

/-- What that service has reported in the end. -/
def refusedStatus : ServiceStatus := ⟨.stopped, false, errorServiceSpecificError, 190005, 0, 0⟩

theorem stopped_codes_refused :
    Machines.run step Host.new refusedEvents =
      some ⟨true, some .stopped, errorServiceSpecificError, 190005, 0, 0, false, false,
        none, .gone, [refusedStatus, startStatus]⟩ ∧
      ∃ e ∈ refusedEvents, ∃ error ∈ e.errors,
        diagnose refusedStatus.serviceSpecificExitCode = (contextOf error, nativeOf error) := by
  refine ⟨by decide +kernel, ?_⟩
  have hcodes := (stopped_codes (h := ⟨true, some .stopped, errorServiceSpecificError, 190005, 0, 0, false, false,
    none, .gone, [refusedStatus, startStatus]⟩)
      (show Machines.run step Host.new refusedEvents = some _ by decide +kernel)).2
    refusedStatus List.mem_cons_self rfl
  rcases hcodes with ⟨hwin32, -⟩ | ⟨-, hpanic, -⟩ | ⟨-, -, -, -, herror⟩
  · exact absurd hwin32 (by decide)
  · exact absurd hpanic (by decide)
  · exact herror

end ServiceHost

end Xsoc
