import Xsoc.Setup.Workflow

/-!
# What setup does, and why

A dialogue of `setup` with the outside is all that is known of a run, whatever was answered.

* `Permitted` : when a call may be made: to stop the service, to pair, to change how it starts and to start it;
* `stage`, `stepOf`, `nextStep` : how far setup has come, and the step of an answer or of the next call;
* `Blames` : the step that a failure has to name;
* `inspect_spec` : what is seen first, whatever is answered.
-/

set_option autoImplicit false

namespace Xsoc

open Dialogue

namespace Setup

abbrev Trace := List (Exchange Call Reply)

/-- This was asked, and answered so. -/
def Answered (tr : Trace) (c : Call) (r : Reply c) : Prop := (⟨c, r⟩ : Exchange Call Reply) ∈ tr

def clockReply : Exchange Call Reply → Option Nat
  | ⟨.clock, now⟩ => some now
  | _ => none

/-- What the service manager has said. -/
def serviceReply : Exchange Call Reply → Option (Except Failure Value)
  | ⟨.serviceStatus _, r⟩ => some r
  | ⟨.change _ _, r⟩ => some r
  | ⟨.verifiedStatus _, r⟩ => some r
  | _ => none

/-- What has come of the pairing. -/
def pairReply : Exchange Call Reply → Option (Except Failure Value)
  | ⟨.pair _, r⟩ => some r
  | _ => none

def lastService (tr : Trace) : Option (Except Failure Value) := (tr.filterMap serviceReply).getLast?

def lastClock (tr : Trace) : Option Nat := (tr.filterMap clockReply).getLast?

/-- The service has last been seen, and it was running or not. -/
def LastSeen (tr : Trace) (isRunning : Bool) : Prop :=
  ∃ status, lastService tr = some (.ok status) ∧ running status = isRunning

def reuseQuestion : String := "Reuse this remotely verified binding?"

def recoverQuestion : String := "Server changed. Recover the existing xsoc identity on the requested Server?"

section

variable (validateServerBase : String → Option String) (request : Request)

/-- Why a host is paired, although it may have been paired before. -/
inductive Reason (tr : Trace) : Prop
  /-- It has not been. -/
  | unbound {s : LocalPairingStatus} (h : Answered tr .pairingStatus (.ok s)) (hnone : s.activeReportEndpoint = none)
  /-- The server does not know it any more. -/
  | unauthorized (h : Answered tr .verifyRemoteBinding (.ok .unauthorized))
  /-- A server that cannot be asked did not know it the last time. -/
  | reauthorize {status : Nat} (h : Answered tr .authState (.ok (some .reauthorizationRequired)))
      (hserver : Answered tr .verifyRemoteBinding (.error (.answered (.serverUnavailable status))))
  /-- What is left of the binding cannot be used. -/
  | unusable {timeout : Nat} (h : Answered tr (.openReporter timeout) (.error false))
  | unreadable (h : Answered tr .activeCredentialRevision (.error ()))
  /-- The user does not want to keep it. -/
  | declined {expiresAt : Nat} (h : Answered tr (.ask reuseQuestion true expiresAt) (.ok false))
  /-- It is to go to another server, as the user confirms, or a protected input does. -/
  | moved {s : LocalPairingStatus} {configured server : String} (h : Answered tr .pairingStatus (.ok s))
      (hactive : s.activeReportEndpoint = some configured)
      (hserver : requestedServer validateServerBase request = .ok (some server))
      (hchanged : configured ≠ server ++ clientReportPath)
      (hconfirmed : (∃ expiresAt, Answered tr (.ask recoverQuestion false expiresAt) (.ok true)) ∨
        request.args.has "--input-stdin" = true)

/-- The dialogue goes on, with these in it, in this order, and no pairing. -/
def SeenSince (tr tr' : Trace) (seen : List (Exchange Call Reply)) : Prop :=
  ∃ new, tr' = tr ++ new ∧ (∀ e ∈ new, pairReply e = none) ∧ seen.Sublist new

/-- The end of a dialogue has these in it. -/
def Since (tr : Trace) (seen : List (Exchange Call Reply)) : Prop := ∃ before, SeenSince before tr seen

/-- Since the pairing, the binding has been read back and the registration of the service verified. -/
def Confirmed (tr : Trace) : Prop :=
  ∃ s timeout r, s.activeReportEndpoint.isSome = true ∧
    Since tr [⟨.pairingStatus, .ok s⟩, ⟨.verifiedStatus timeout, .ok r⟩]

/-- And the service starts as it should. -/
def Arranged (tr : Trace) : Prop :=
  ∃ s timeout r args action policy now, s.activeReportEndpoint.isSome = true ∧
    startupPolicyMatches policy (action == "enable") = true ∧
    Since tr [⟨.pairingStatus, .ok s⟩, ⟨.verifiedStatus timeout, .ok r⟩, ⟨.change args action, .ok policy⟩,
      ⟨.utcNow, now⟩]

/-- A call is given the time that is left. -/
def TimeLeft (tr : Trace) (timeout : Nat) : Prop :=
  ∃ first now, tr.head? = some ⟨.clock, first⟩ ∧ lastClock tr = some now ∧ now < first + request.args.timeout ∧
    timeout = first + request.args.timeout - now

/-- The dialogue began with the clock, and setup may take until `expiresAt`. -/
def Started (expiresAt : Nat) (tr : Trace) : Prop :=
  ∃ first, tr.head? = some ⟨.clock, first⟩ ∧ expiresAt = first + request.args.timeout

/-- When a call may be made. -/
def Permitted (tr : Trace) : Call → Prop
  | .serviceStatus timeout | .openReporter timeout | .verifiedStatus timeout | .awaitStatus timeout =>
    TimeLeft request tr timeout
  | .ask _ _ expiresAt => Started request expiresAt tr
  | .change args action =>
    TimeLeft request tr args.timeout ∧
      ((action = "stop" ∧ Reason validateServerBase request tr ∧ LastSeen tr true) ∨
        ((action = "enable" ∨ action = "disable") ∧ Confirmed tr) ∨ (action = "start" ∧ Arranged tr))
  | .pair args =>
    TimeLeft request tr args.timeout ∧ Reason validateServerBase request tr ∧ LastSeen tr false ∧
      (args.words = SetupPairAction.replace.words →
        ∃ id, Answered tr .clientIdentity (.ok id) ∧ args.get "--expected-binding" = some id)
  | _ => True

/-! ## Which step fails -/

/-- How far setup has come. -/
inductive Stage
  | begun
  /-- The service has been looked at, and was running or not. -/
  | looked (isRunning : Bool)
  | known
  | paired
  | registered
  | arranged
  | started

/-- The stage that setup is at by an answer. -/
def reached : Exchange Call Reply → Option Stage
  | ⟨.serviceStatus _, .ok status⟩ => some (.looked (running status))
  | ⟨.authState, _⟩ => some .known
  | ⟨.change _ action, .ok status⟩ =>
    if action = "stop" then some (.looked (running status)) else if action = "start" then some .started else none
  | ⟨.load, _⟩ => some .paired
  | ⟨.verifiedStatus _, _⟩ => some .registered
  | ⟨.utcNow, _⟩ => some .arranged
  | _ => none

def stage (tr : Trace) : Stage := ((tr.filterMap reached).getLast?).getD .begun

/-- The step that an answer is of. Where the local state is known, all that is learned of a binding is of the
pairing. -/
def stepOf (stage : Stage) : Exchange Call Reply → String
  | ⟨.validate, _⟩ => "configuration"
  | ⟨.serviceStatus _, _⟩ =>
    match stage with
    | .begun => "service_inspection"
    | _ => "service_quiesce"
  | ⟨.pairingStatus, _⟩ =>
    match stage with
    | .paired => "pairing"
    | _ => "configuration"
  | ⟨.authState, .error _⟩ => "configuration"
  | ⟨.ask _ _ _, _⟩ =>
    match stage with
    | .paired => "preferences"
    | _ => "pairing"
  | ⟨.change _ action, _⟩ =>
    if action = "stop" then "service_quiesce" else if action = "start" then "service_runtime" else "startup_policy"
  | ⟨.verifiedStatus _, _⟩ => "service_registration"
  | ⟨.awaitStatus _, _⟩ => "connection"
  | ⟨.runtimeStatus, _⟩ =>
    match stage with
    | .started => "connection"
    | _ => "pairing"
  | _ => "pairing"

/-- The step that is next, which needs time. -/
def nextStep : Stage → String
  | .begun => "service_inspection"
  | .known | .looked true => "service_quiesce"
  | .looked false => "pairing"
  | .paired => "service_registration"
  | .registered => "startup_policy"
  | .arranged => "service_runtime"
  | .started => "connection"

/-- The failure that is answered, where setup passes it on. -/
def passedOn : Exchange Call Reply → Option Failure
  | ⟨.serviceStatus _, .error e⟩ => some e
  | ⟨.pairingStatus, .error e⟩ => some e
  | ⟨.authState, .error e⟩ => some e
  | ⟨.ask _ _ _, .error e⟩ => some e
  | ⟨.change _ _, .error e⟩ => some e
  | ⟨.clientIdentity, .error e⟩ => some e
  | ⟨.pair _, .error e⟩ => some e
  | ⟨.load, .error e⟩ => some e
  | ⟨.verifiedStatus _, .error e⟩ => some e
  | ⟨.awaitStatus _, .snapshot (.error e)⟩ => some e
  | _ => none

/-- The transaction that the last call says it has failed with. -/
def told (tr : Trace) : Option String := (tr.getLast?.bind passedOn).bind Failure.transactionId

/-- A binding that is kept is one that has been verified. -/
def Verified (tr : Trace) : Prop :=
  (∃ host, Answered tr .verifyRemoteBinding (.ok (.authorized host))) ∨
    ∃ status, Answered tr .runtimeStatus (.ok status) ∧ isStr "healthy" (status.field "health") = true

/-- The time is over before the next step. What was paired before is not told then. -/
def Late (tr : Trace) (e : Failure) : Prop :=
  ∃ before now first, tr = before ++ [⟨.clock, now⟩] ∧ tr.head? = some ⟨.clock, first⟩ ∧
    first + request.args.timeout ≤ now ∧
    e = ⟨9, "setup_deadline_exceeded", false, none, some (nextStep (stage before)), none⟩

/-- The step that a failure names. -/
inductive Blames (tr : Trace) (e : Failure) : Prop
  /-- That of the last answer. A failure that was answered is passed on. -/
  | answered {before : Trace} {last : Exchange Call Reply} (htrace : tr = before ++ [last])
      (hstep : e.step = some (stepOf (stage before) last))
      (htimely : clockReply last = none ∨ e.code ≠ "setup_deadline_exceeded")
      (hpassed : ∀ f, passedOn last = some f → e.exit = f.exit ∧ e.code = f.code ∧ e.detail = f.detail)
  | late (h : Late request tr e)
  /-- What is asked for does not go with the files, is no server, or does not go with the binding that is kept. -/
  | refused (hstep : e.step = some "configuration")
      (hrefused : request.path ≠ request.defaultConfig ∨ requestedServer validateServerBase request = .error e ∨
        Verified tr ∧ checkReuse validateServerBase request = .error e)

/-- A failure names its step, and the transaction that it is told of. -/
def Blamed (tr : Trace) (e : Failure) : Prop := Blames validateServerBase request tr e ∧ e.transactionId = told tr

end

/-! ## Dialogues that grow -/

variable {validateServerBase : String → Option String} {request : Request} {tr tr' : Trace} {expiresAt : Nat}

theorem Answered.append {c : Call} {r : Reply c} (h : Answered tr c r) (new : Trace) : Answered (tr ++ new) c r :=
  List.mem_append_left new h

theorem answered_last (tr : Trace) (c : Call) (r : Reply c) : Answered (tr ++ [⟨c, r⟩]) c r :=
  List.mem_append_right tr (List.mem_singleton_self _)

theorem Reason.append (h : Reason validateServerBase request tr) (new : Trace) :
    Reason validateServerBase request (tr ++ new) := by
  cases h with
  | unbound h hnone => exact .unbound (h.append new) hnone
  | unauthorized h => exact .unauthorized (h.append new)
  | reauthorize h hserver => exact .reauthorize (h.append new) (hserver.append new)
  | unusable h => exact .unusable (h.append new)
  | unreadable h => exact .unreadable (h.append new)
  | declined h => exact .declined (h.append new)
  | moved h hactive hserver hchanged hconfirmed =>
    refine .moved (h.append new) hactive hserver hchanged (hconfirmed.imp_left ?_)
    rintro ⟨expiresAt, h⟩
    exact ⟨expiresAt, h.append new⟩

theorem Started.append (h : Started request expiresAt tr) (new : Trace) : Started request expiresAt (tr ++ new) := by
  obtain ⟨first, hhead, heq⟩ := h
  refine ⟨first, ?_, heq⟩
  cases tr with
  | nil => cases hhead
  | cons e tr => exact hhead

theorem lastClock_append (tr new : Trace) :
    lastClock (tr ++ new) = (new.filterMap clockReply).getLast?.or (lastClock tr) := by
  unfold lastClock
  rw [List.filterMap_append, List.getLast?_append]

theorem lastService_append (tr new : Trace) :
    lastService (tr ++ new) = (new.filterMap serviceReply).getLast?.or (lastService tr) := by
  unfold lastService
  rw [List.filterMap_append, List.getLast?_append]

/-- The time has just been read. -/
theorem Started.timeLeft (h : Started request expiresAt tr) {now : Nat} (hclock : lastClock tr = some now)
    (hlt : now < expiresAt) : TimeLeft request tr (expiresAt - now) := by
  obtain ⟨first, hhead, rfl⟩ := h
  exact ⟨first, now, hhead, hclock, hlt, rfl⟩

theorem Started.timeLeft_now (h : Started request expiresAt tr) {now : Nat} (hlt : now < expiresAt) :
    TimeLeft request (tr ++ [⟨.clock, now⟩]) (expiresAt - now) :=
  (h.append _).timeLeft (by rw [lastClock_append]; rfl) hlt

/-- The time that is left is that of the last look at the clock. -/
theorem TimeLeft.push {timeout : Nat} (h : TimeLeft request tr timeout) {e : Exchange Call Reply}
    (he : clockReply e = none) : TimeLeft request (tr ++ [e]) timeout := by
  obtain ⟨first, now, hhead, hclock, hlt, heq⟩ := h
  refine ⟨first, now, ?_, ?_, hlt, heq⟩
  · rw [List.head?_append, hhead]
    rfl
  · rw [lastClock_append, List.filterMap_cons_none he]
    exact hclock

theorem Started.late (h : Started request expiresAt tr) {now : Nat} (hle : expiresAt ≤ now) {step : String}
    (hstep : nextStep (stage tr) = step) :
    Late request (tr ++ [⟨.clock, now⟩]) ((fail 9 "setup_deadline_exceeded").atStep step) := by
  obtain ⟨first, hhead, rfl⟩ := h
  refine ⟨tr, now, first, rfl, ?_, hle, ?_⟩
  · rw [List.head?_append, hhead]
    rfl
  · rw [hstep]
    rfl

@[simp] theorem stage_push (tr : Trace) (e : Exchange Call Reply) :
    stage (tr ++ [e]) = (reached e).getD (stage tr) := by
  unfold stage
  rw [List.filterMap_append, List.getLast?_append]
  cases h : reached e with
  | none => simp [h]
  | some stage => simp [h]

@[simp] theorem told_push (tr : Trace) (e : Exchange Call Reply) :
    told (tr ++ [e]) = (passedOn e).bind Failure.transactionId := by
  unfold told
  rw [List.getLast?_concat, Option.bind_some]

theorem clockReply_of_passedOn {e : Exchange Call Reply} {f : Failure} (h : passedOn e = some f) :
    clockReply e = none := by
  obtain ⟨c, r⟩ := e
  cases c with
  | clock => cases h
  | _ => rfl

/-- A failure that is passed on, with its step. -/
theorem blames_passedOn {before : Trace} {last : Exchange Call Reply} {f e : Failure}
    (hpassed : passedOn last = some f) (hstep : e.step = some (stepOf (stage before) last))
    (he : e.exit = f.exit ∧ e.code = f.code ∧ e.detail = f.detail) :
    Blames validateServerBase request (before ++ [last]) e := by
  refine .answered rfl hstep (Or.inl (clockReply_of_passedOn hpassed)) fun f' hf => ?_
  cases hpassed.symm.trans hf
  exact he

/-- An answer that is not as it has to be. -/
theorem blames_answered {before : Trace} {last : Exchange Call Reply} {e : Failure} (hclock : clockReply last = none)
    (hpassed : passedOn last = none) (hstep : e.step = some (stepOf (stage before) last)) :
    Blames validateServerBase request (before ++ [last]) e :=
  .answered rfl hstep (Or.inl hclock) fun f hf => by cases hpassed.symm.trans hf

theorem blamed_passedOn {before : Trace} {last : Exchange Call Reply} {f : Failure} {step : String}
    (hpassed : passedOn last = some f) (hstep : stepOf (stage before) last = step) :
    Blamed validateServerBase request (before ++ [last]) (f.atStep step) := by
  refine ⟨blames_passedOn hpassed (congrArg some hstep.symm) ⟨rfl, rfl, rfl⟩, ?_⟩
  rw [told_push, hpassed]
  rfl

theorem blamed_answered {before : Trace} {last : Exchange Call Reply} {e : Failure} (hclock : clockReply last = none)
    (hpassed : passedOn last = none) (hstep : e.step = some (stepOf (stage before) last))
    (hid : e.transactionId = none) :
    Blamed validateServerBase request (before ++ [last]) e := by
  refine ⟨blames_answered hclock hpassed hstep, ?_⟩
  rw [told_push, hpassed]
  exact hid

theorem Started.blamed (h : Started request expiresAt tr) {now : Nat} (hle : expiresAt ≤ now) {step : String}
    (hstep : nextStep (stage tr) = step) :
    Blamed validateServerBase request (tr ++ [⟨.clock, now⟩]) ((fail 9 "setup_deadline_exceeded").atStep step) :=
  ⟨.late (h.late hle hstep), (told_push tr ⟨.clock, now⟩).symm⟩

/-- The local state is known, and what is wrong with the binding is of the pairing. -/
structure Knows (tr : Trace) : Prop where
  stage : stage tr = .known
  last : ∃ before last, tr = before ++ [last] ∧ stepOf (Setup.stage before) last = "pairing" ∧ passedOn last = none

theorem Knows.push (h : Knows tr) {e : Exchange Call Reply} (hreached : reached e = none)
    (hstep : stepOf .known e = "pairing") (hpassed : passedOn e = none) : Knows (tr ++ [e]) where
  stage := by
    rw [stage_push, hreached]
    exact h.stage
  last := ⟨tr, e, rfl, by rw [h.stage]; exact hstep, hpassed⟩

theorem Knows.told (h : Knows tr) : told tr = none := by
  obtain ⟨before, last, rfl, -, hpassed⟩ := h.last
  rw [told_push, hpassed]
  rfl

/-- A failure of the pairing, without a further call. -/
theorem Knows.blamed (h : Knows tr) {e : Failure} (hstep : e.step = some "pairing")
    (htimely : e.code ≠ "setup_deadline_exceeded") (hid : e.transactionId = none) :
    Blamed validateServerBase request tr e := by
  refine ⟨?_, hid.trans h.told.symm⟩
  obtain ⟨before, last, htrace, hlast, hpassed⟩ := h.last
  exact .answered htrace (hstep.trans (congrArg some hlast.symm)) (Or.inr htimely) fun f hf => by
    cases hpassed.symm.trans hf

theorem SeenSince.here (tr : Trace) : SeenSince tr tr [] :=
  ⟨[], (List.append_nil tr).symm, (fun e he => by cases he), .slnil⟩

variable {seen : List (Exchange Call Reply)} {e : Exchange Call Reply}

theorem SeenSince.skip (h : SeenSince tr tr' seen) (he : pairReply e = none) : SeenSince tr (tr' ++ [e]) seen := by
  obtain ⟨new, rfl, hnone, hseen⟩ := h
  refine ⟨new ++ [e], List.append_assoc _ _ _, ?_, hseen.trans (List.sublist_append_left new [e])⟩
  exact fun f hf => (List.mem_append.mp hf).elim (hnone f) fun hf => List.mem_singleton.mp hf ▸ he

theorem SeenSince.push (h : SeenSince tr tr' seen) (he : pairReply e = none) :
    SeenSince tr (tr' ++ [e]) (seen ++ [e]) := by
  obtain ⟨new, rfl, hnone, hseen⟩ := h
  refine ⟨new ++ [e], List.append_assoc _ _ _, ?_, hseen.append (List.Sublist.refl [e])⟩
  exact fun f hf => (List.mem_append.mp hf).elim (hnone f) fun hf => List.mem_singleton.mp hf ▸ he

/-! ## The rules of the calls -/

variable {permitted : Trace → Call → Prop} {α β : Type} {f : α → Script β} {Q : Except Failure β → Trace → Prop}

theorem wp_atStep_bind {step : String} {x : Except Failure α} (hok : ∀ a, x = .ok a → (f a).wp permitted tr Q)
    (herror : ∀ e, x = .error e → Q (.error (e.atStep step)) tr) : (atStep step x >>= f).wp permitted tr Q := by
  refine (Op.wp_bind _ _ _).mpr ?_
  cases x with
  | ok a => exact hok a rfl
  | error e => exact herror e rfl

theorem wp_committed_bind {pairing : Value} {step : String} {x : Except Failure α}
    (hok : ∀ a, x = .ok a → (f a).wp permitted tr Q)
    (herror : ∀ e, x = .error e → Q (.error (setupFailure pairing step e)) tr) :
    (committed pairing step x >>= f).wp permitted tr Q := by
  refine (Op.wp_bind _ _ _).mpr ?_
  cases x with
  | ok a => exact hok a rfl
  | error e => exact herror e rfl

/-- The time that is left is what the clock says, or it is too late. -/
theorem wp_remaining_bind {step : String} {f : Nat → Script β} (hclock : permitted tr .clock)
    (hok : ∀ now, now < expiresAt → (f (expiresAt - now)).wp permitted (tr ++ [⟨.clock, now⟩]) Q)
    (herror : ∀ now, expiresAt ≤ now → Q (.error ((fail 9 "setup_deadline_exceeded").atStep step))
      (tr ++ [⟨.clock, now⟩])) :
    (remaining expiresAt step >>= f).wp permitted tr Q := by
  refine (Op.wp_bind _ _ _).mpr ?_
  unfold remaining
  refine Op.wp_ask_bind hclock fun now => ?_
  split
  · next hlt => exact hok now hlt
  · next hnot => exact herror now (Nat.not_lt.mp hnot)

/-! ## What is seen first -/

/-- What the state of a binding comes from. -/
def BindingSeen (validateServerBase : String → Option String) (request : Request) (tr : Trace)
    (existing : LocalPairingStatus) : ExistingBindingState → Prop
  | .none => existing.activeReportEndpoint = none
  | .unauthorized => Answered tr .verifyRemoteBinding (.ok .unauthorized) ∨
      (Answered tr .authState (.ok (some .reauthorizationRequired)) ∧
        ∃ status, Answered tr .verifyRemoteBinding (.error (.answered (.serverUnavailable status))))
  | .localOnly =>
    (∃ timeout, Answered tr (.openReporter timeout) (.error false)) ∨ Answered tr .activeCredentialRevision (.error ())
  | .remoteVerified _ => (∃ host, Answered tr .verifyRemoteBinding (.ok (.authorized host))) ∨
      ∃ status, Answered tr .runtimeStatus (.ok status) ∧ isStr "healthy" (status.field "health") = true
  | .remoteFailure (.answered (.serverUnavailable status)) =>
    Answered tr .verifyRemoteBinding (.error (.answered (.serverUnavailable status)))
  | .serverChanged configured requested => existing.activeReportEndpoint = some configured ∧
      ∃ server, requestedServer validateServerBase request = .ok (some server) ∧
        requested = server ++ clientReportPath ∧
        configured ≠ requested
  | .remoteFailure _ | .concurrentlyChanged | .protocolUnsupported _ _ => True

theorem bindingSeen_verdict {existing : LocalPairingStatus} {result : Except BindingFailure RemoteBindingStatus}
    (h : Answered tr .verifyRemoteBinding result) :
    BindingSeen validateServerBase request tr existing (verdict result) := by
  cases result with
  | ok status =>
    cases status with
    | authorized hostId => exact Or.inl ⟨hostId, h⟩
    | unauthorized => exact Or.inl h
    | protocolUnsupported => trivial
  | error failure =>
    cases failure with
    | answered failure => cases failure <;> first | exact h | trivial
    | invalidEndpoint | localCredentialCorrupt | connectionFailed | timeout | tlsValidationFailed | responseTooLarge
    | httpTransportFailed => trivial

theorem bindingRounds_spec (existing : LocalPairingStatus) (n : Nat) (hstarted : Started request expiresAt tr)
    (hknows : Knows tr) :
    (bindingRounds expiresAt n).wp (Permitted validateServerBase request) tr fun x tr' =>
      (∃ new, tr' = tr ++ new) ∧ Knows tr' ∧ ∃ state, x = .ok state ∧
        BindingSeen validateServerBase request tr' existing state := by
  induction n generalizing tr with
  | zero => exact ⟨⟨[], (List.append_nil tr).symm⟩, hknows, _, rfl, trivial⟩
  | succ n ih =>
    unfold bindingRounds
    refine Op.wp_ask_bind trivial fun now => ?_
    have hclock := hknows.push (e := ⟨.clock, now⟩) rfl rfl rfl
    split
    · next hlt =>
      refine Op.wp_ask_bind (hstarted.timeLeft_now hlt) fun reporter => ?_
      have hopened := hclock.push (e := ⟨.openReporter (expiresAt - now), reporter⟩) rfl rfl rfl
      cases reporter with
      | error corrupt =>
        cases corrupt with
        | true => exact ⟨⟨_, List.append_assoc _ _ _⟩, hopened, _, rfl, trivial⟩
        | false => exact ⟨⟨_, List.append_assoc _ _ _⟩, hopened, _, rfl, Or.inl ⟨_, answered_last _ _ _⟩⟩
      | ok revision =>
        refine Op.wp_ask_bind trivial fun result => Op.wp_ask_bind trivial fun active => ?_
        have hasked := (hopened.push (e := ⟨.verifyRemoteBinding, result⟩) rfl rfl rfl).push
          (e := ⟨.activeCredentialRevision, active⟩) rfl rfl rfl
        have hgrown : ∃ new, tr ++ [⟨.clock, now⟩] ++ [⟨.openReporter (expiresAt - now), .ok revision⟩] ++
            [⟨.verifyRemoteBinding, result⟩] ++ [⟨.activeCredentialRevision, active⟩] = tr ++ new :=
          ⟨_, by simp only [List.append_assoc]; rfl⟩
        cases active with
        | error u => exact ⟨hgrown, hasked, _, rfl, Or.inr (answered_last _ _ _)⟩
        | ok current =>
          cases current with
          | none => exact ⟨hgrown, hasked, _, rfl, trivial⟩
          | some current =>
            dsimp only
            split
            · obtain ⟨new, hnew⟩ := hgrown
              rw [hnew] at hasked ⊢
              refine Op.wp_mono (ih (hstarted.append new) hasked) ?_
              rintro x tr' ⟨⟨more, rfl⟩, hx⟩
              exact ⟨⟨_, List.append_assoc _ _ _⟩, hx⟩
            · exact ⟨hgrown, hasked, _, rfl, bindingSeen_verdict ((answered_last _ _ _).append _)⟩
    · exact ⟨⟨_, rfl⟩, hclock, _, rfl, trivial⟩

theorem requestedServerChange_eq_some {existing : LocalPairingStatus} {requested : Option String}
    {state : ExistingBindingState} (h : requestedServerChange existing requested = some state) :
    ∃ configured endpoint, existing.activeReportEndpoint = some configured ∧ requested = some endpoint ∧
      configured ≠ endpoint ∧ state = .serverChanged configured endpoint := by
  unfold requestedServerChange at h
  split at h
  · next configured endpoint hactive =>
    split at h
    · next hne =>
      cases h
      exact ⟨configured, endpoint, hactive, rfl, hne, rfl⟩
    · cases h
  · cases h

/-- The host that is told is one that a healthy service has. -/
theorem serviceVerifiedHost_spec (initialService : Value) (hknows : Knows tr) :
    (serviceVerifiedHost initialService).wp (Permitted validateServerBase request) tr fun x tr' =>
      (∃ new, tr' = tr ++ new) ∧ Knows tr' ∧ ∃ host, x = .ok host ∧ (host.isSome = true →
        ∃ status, Answered tr' .runtimeStatus (.ok status) ∧ isStr "healthy" (status.field "health") = true) := by
  unfold serviceVerifiedHost
  split
  · refine Op.wp_ask_bind trivial fun reply => ?_
    have hasked := hknows.push (e := ⟨.runtimeStatus, reply⟩) rfl rfl rfl
    cases reply with
    | error e => exact ⟨⟨_, rfl⟩, hasked, none, rfl, fun h => by cases h⟩
    | ok status =>
      refine ⟨⟨_, rfl⟩, hasked, _, rfl, fun hsome => ⟨status, answered_last _ _ _, ?_⟩⟩
      by_contra hnot
      rw [if_neg hnot] at hsome
      cases hsome
  · exact ⟨⟨[], (List.append_nil tr).symm⟩, hknows, none, rfl, fun h => by cases h⟩

theorem bindingStateOf_spec {existing : LocalPairingStatus} {server : Option String} {host : Option String}
    (hstarted : Started request expiresAt tr) (hknows : Knows tr)
    (hserver : requestedServer validateServerBase request = .ok server)
    (hhost : host.isSome = true →
      ∃ status, Answered tr .runtimeStatus (.ok status) ∧ isStr "healthy" (status.field "health") = true) :
    (bindingStateOf expiresAt existing (server.map fun server => server ++ clientReportPath) host).wp
      (Permitted validateServerBase request) tr fun x tr' =>
      (∃ new, tr' = tr ++ new) ∧ Knows tr' ∧ ∃ state, x = .ok state ∧
        BindingSeen validateServerBase request tr' existing state := by
  have hstay : ∃ new, tr = tr ++ new := ⟨[], (List.append_nil tr).symm⟩
  unfold bindingStateOf
  cases hchange : requestedServerChange existing (server.map fun server => server ++ clientReportPath) with
  | some change =>
    obtain ⟨configured, endpoint, hactive, hendpoint, hne, rfl⟩ := requestedServerChange_eq_some hchange
    cases server with
    | none => cases hendpoint
    | some server =>
      cases hendpoint
      exact ⟨hstay, hknows, _, rfl, hactive, server, hserver, rfl, hne⟩
  | none =>
    cases host with
    | some hostId => exact ⟨hstay, hknows, _, rfl, Or.inr (hhost rfl)⟩
    | none =>
      dsimp only
      unfold existingBindingState
      split
      · next hnone => exact ⟨hstay, hknows, _, rfl, Option.isNone_iff_eq_none.mp hnone⟩
      · exact bindingRounds_spec existing 3 hstarted hknows

theorem bindingSeen_reauthorized {existing : LocalPairingStatus} {authState : Option CredentialAuthorization}
    {state : ExistingBindingState} (hauth : Answered tr .authState (.ok authState))
    (h : BindingSeen validateServerBase request tr existing state) :
    BindingSeen validateServerBase request tr existing (reauthorized authState state) := by
  unfold reauthorized
  split
  · next status => exact Or.inr ⟨hauth, status, h⟩
  · exact h

theorem requestedServer_error {e : Failure} (h : requestedServer validateServerBase request = .error e) :
    e.step = some "configuration" ∧ e.transactionId = none := by
  unfold requestedServer at h
  split at h
  · cases h
  · split at h
    · cases h
    · cases h
      exact ⟨rfl, rfl⟩

/-- What has been inspected is known. -/
def Inspected (validateServerBase : String → Option String) (request : Request) (tr : Trace) :
    Except Failure Inspection → Prop
  | .ok i => Knows tr ∧ Answered tr .pairingStatus (.ok i.existing) ∧
      BindingSeen validateServerBase request tr i.existing i.bindingState
  | .error e => Blamed validateServerBase request tr e

theorem inspect_spec (hstarted : Started request expiresAt tr) (hbegun : stage tr = .begun) (htold : told tr = none) :
    (inspect validateServerBase request expiresAt).wp (Permitted validateServerBase request) tr fun x tr' =>
      Inspected validateServerBase request tr' x := by
  unfold inspect
  split
  · next hpath => exact ⟨.refused rfl (Or.inl hpath), htold.symm⟩
  refine Op.wp_ask_bind trivial fun valid => ?_
  split
  · exact blamed_answered rfl rfl rfl rfl
  refine Op.wp_ofExcept_bind (fun server hserver => ?_) fun e he => ?_
  swap
  · obtain ⟨hstep, hid⟩ := requestedServer_error he
    exact ⟨.refused hstep (Or.inr (Or.inl he)), hid.trans (told_push tr ⟨.validate, valid⟩).symm⟩
  refine wp_remaining_bind trivial (fun now hlt => ?_) fun now hle =>
    (hstarted.append _).blamed hle (by rw [stage_push, hbegun]; rfl)
  refine Op.wp_ask_bind ((hstarted.append _).timeLeft_now hlt) fun status =>
    wp_atStep_bind (fun initialService hstatus => ?_) fun e he => ?_
  swap
  · subst he
    exact blamed_passedOn rfl (by rw [stage_push, stage_push, hbegun]; rfl)
  subst hstatus
  refine Op.wp_ask_bind trivial fun existing => wp_atStep_bind (fun existing hexisting => ?_) fun e he => ?_
  swap
  · subst he
    exact blamed_passedOn rfl (by rw [stage_push]; rfl)
  refine Op.wp_ask_bind trivial fun authState => wp_atStep_bind (fun authState hauth => ?_) fun e he => ?_
  swap
  · subst he
    exact blamed_passedOn rfl rfl
  subst hexisting hauth
  have hknows (before : Trace) : Knows (before ++ [⟨.authState, .ok authState⟩]) :=
    ⟨by rw [stage_push]; rfl, before, _, rfl, rfl, rfl⟩
  refine Op.wp_bind_of (serviceVerifiedHost_spec initialService (hknows _)) ?_ ?_
  · rintro host tr₁ ⟨⟨new, rfl⟩, hknows, host', heq, hhost⟩
    cases heq
    refine Op.wp_bind_of (bindingStateOf_spec
      ((((((hstarted.append _).append _).append _).append _).append _).append new) hknows hserver hhost) ?_ ?_
    · rintro state tr₂ ⟨⟨more, rfl⟩, hknows, state', heq, hseen⟩
      cases heq
      refine ⟨hknows, (((answered_last _ _ _).append _).append new).append more, ?_⟩
      exact bindingSeen_reauthorized (((answered_last _ _ _).append new).append more) hseen
    · rintro e tr₂ ⟨-, -, state, heq, -⟩
      cases heq
  · rintro e tr₁ ⟨-, -, host, heq, -⟩
    cases heq

end Setup

end Xsoc
