import Xsoc.Pairing.Polling

/-!
# The pairing command

`startOrResumeWithMode` begins a request or resumes the stored one; `activatePendingWithCode` submits the one-time
key for exactly the request the command began.
-/

set_option autoImplicit false

namespace Xsoc

open Durable

section

variable (ext : External)

/-! ## Starting -/

/-- What the poll of an expired request has to report for the command to go on to `prepare_start` again: the request
is over; or to be done: the session to return. -/
def resumeExpired (session : PairingSession) (polled : Except Error (Option PairingProgress)) :
    Except Error (Option PairingSession) :=
  match polled with
  | .ok (some (.waiting current)) =>
    if current.generation = session.generation ∧ current.requestId = session.requestId then .ok (some current)
    else .error .superseded
  | .ok (some (.active generation requestId _ _)) =>
    if generation = session.generation ∧ requestId = session.requestId then .ok (some session)
    else .error .superseded
  | .ok (some (.denied generation requestId _)) =>
    if generation = session.generation ∧ requestId = session.requestId then .ok none else .error .superseded
  | .ok (some (.expired generation requestId _)) =>
    if generation = session.generation ∧ requestId = session.requestId then .ok none else .error .superseded
  | .error e =>
    -- The poll has already committed `Expired` for this exact request.
    if e.endedFor session.requestId then .ok none
    else .error (.context
      "could not establish whether the saved pairing request is active; preserving it" e)
  | .ok _ => .error .superseded

/-- `start_or_resume_with_mode`. -/
def startOrResumeWithMode (config : ClientConfig) (host : HostIdentity) (mode : PairMode) :
    PairingOp PairingSession := do
  validateRequestedMode host mode
  match ← transaction (prepareStart ext config host) with
  | .waiting session => pure session
  | .create state => finishCreateRequest ext config state
  | .checkExpired session => do
    -- The server may have activated the request just before its deadline.
    let resumed ← Op.handle (pollExisting ext config) (fun polled => Op.ofExcept (resumeExpired session polled))
    match resumed with
    | some current => pure current
    | none =>
      match ← transaction (prepareStart ext config host) with
      | .waiting current => pure current
      | .create state => finishCreateRequest ext config state
      | .checkExpired _ => Op.throw .superseded

/-- `start_or_resume`. -/
def startOrResume (config : ClientConfig) (host : HostIdentity) : PairingOp PairingSession :=
  startOrResumeWithMode ext config host .fresh

/-! ## Activation -/

/-- `validate_activation_code`. -/
def validateActivationCode (value : String) : Except Error Unit := do
  check (value ≠ "") (.message "authorization key is required")
  check (byteLen value.toList ≤ 256) (.message "authorization key must not exceed 256 bytes")
  check (value.toList.any (fun c => isWhitespace c || isControl c) = false)
    (.message "authorization key must not contain whitespace or control characters")

/-- What `activate_pending_with_code` finds before it sends anything: the request, or the instance it led to. -/
inductive ActivationTarget
  | pending (p : Pending)
  | committed (instanceId : Uuid)

/-- The first transaction of `activate_pending_with_code`. -/
def activationTarget (generation requestId : Uuid) : StateTx ActivationTarget := do
  let state ← Tx.read (fun d => do
    okOr (.message "the pending pairing request disappeared before activation") (← loadState d.pairing))
  match state with
  | .pending p => do
    Tx.ofExcept (validateStateVersion p.version)
    Tx.ensure (p.generation = generation ∧ p.requestId = requestId) .superseded
    pure (.pending p)
  | .activating j =>
    if j.generation = generation ∧ j.requestId = requestId then pure (.committed j.instanceId)
    else Tx.throw (.message "the pairing request is no longer pending; authorization key was not sent")
  | .active a =>
    if a.generation = generation ∧ a.requestId = requestId then pure (.committed a.instanceId)
    else Tx.throw (.message "the pairing request is no longer pending; authorization key was not sent")
  | _ => Tx.throw (.message "the pairing request is no longer pending; authorization key was not sent")

/-- The last transaction of `activate_pending_with_code`: trust the reply only for the request it was about. -/
def confirmActivation (generation requestId : Uuid) (p : Pending) (activated : Option Uuid) :
    StateTx (Option Uuid) := do
  let current ← Tx.read (fun d => do
    okOr (.message "the pairing state disappeared after activation") (← loadState d.pairing))
  let mismatch : Error :=
    .message "activation instance does not match the concurrently committed pairing state"
  match current with
  | .pending _ => do
    ensurePendingIsCurrent generation requestId p.pairingEndpoint p.reportEndpoint p.pollingSecret
    pure activated
  | .activating j =>
    if j.generation = generation ∧ j.requestId = requestId then do
      Tx.ensure (activated.all (fun id => id = j.instanceId) = true) mismatch
      pure (some j.instanceId)
    else Tx.throw .superseded
  | .active a =>
    if a.generation = generation ∧ a.requestId = requestId then do
      Tx.ensure (activated.all (fun id => id = a.instanceId) = true) mismatch
      pure (some a.instanceId)
    else Tx.throw .superseded
  | _ => Tx.throw .superseded

/-- `activate_pending_with_code`. -/
def activatePendingWithCode (config : ClientConfig) (generation requestId : Uuid) (activationCode : String) :
    PairingOp (Option Uuid) := do
  Op.ofExcept (validateActivationCode activationCode)
  match ← transaction (fun _ => activationTarget generation requestId) with
  | .committed instanceId => pure (some instanceId)
  | .pending p => do
    Op.ofExcept (withContext "stored report endpoint is unsafe"
      (config.validateDurableReportEndpoint ext.url p.reportEndpoint))
    Op.ofExcept (validateActivationUrlRequest ext p.activationUrl p.pairingEndpoint requestId)
    let endpoint ← Op.ofExcept (activationEndpoint ext p.pairingEndpoint)
    buildClient ext config
    let reply ← postBounded (.activate endpoint.href ⟨requestId.toString, activationCode⟩)
      "failed to submit the one-time authorization key"
    let contentType := pairingResponseContentType reply.2
    if reply.2.status = 409 then
      -- Ambiguous: a previous attempt may have been committed and its response lost.
      transaction (fun _ => confirmActivation generation requestId p none)
    else
      match ensurePairingResponse ext reply.2.status contentType reply.2.body [200] .activate with
      | .error e =>
        if e.endedFor requestId then do
          let _ ← markPendingExpired ext p reply.1
          Op.throw e
        else Op.throw e
      | .ok () => do
        let activated ← Op.ofExcept (parsePairingJson ext ext.activateResponse reply.2.body contentType endpoint.href
          "pairing activation response")
        transaction (fun _ => confirmActivation generation requestId p (some activated.instanceId))

end

end Xsoc
