import Xsoc.Pairing.Create

/-!
# Polling a request

`pollExisting` inspects or advances the stored state once: it posts a `Creating` journal, finishes an `Activating`
one, asks the server about a `Pending` one, and reports any other as it is.
-/

set_option autoImplicit false

namespace Xsoc

open Durable

section

variable (ext : External)

/-- What is kept of a request that ended. -/
def Pending.ended (p : Pending) (completedAt : DateTime) : Ended :=
  ⟨.current, p.generation, p.requestId, p.activationUrl, p.reportEndpoint, completedAt⟩

/-- `compare_and_persist_pending` for the request that `p` was loaded as. -/
def replacePending (p : Pending) (next : StoredPairingState) : PairingOp Unit :=
  transaction (fun _ => compareAndPersistPending ext p.generation p.requestId p.pairingEndpoint p.reportEndpoint
    p.pollingSecret next)

/-- `mark_pending_expired`. -/
def markPendingExpired (p : Pending) (now : DateTime) : PairingOp PairingProgress := do
  replacePending ext p (.expired (p.ended now))
  pure (.expired p.generation p.requestId p.activationUrl)

/-- What `poll_existing` does with an accepted reply. -/
def applyPolled (p : Pending) (now : DateTime) (polled : PairingStatusResponse) :
    PairingOp (Option PairingProgress) :=
  match polled.status with
  | .waiting => do
    Op.ensure (polled.instanceId.isNone)
      (.message "waiting pairing response unexpectedly included instance_id")
    pure (some (.waiting p.session))
  | .active => do
    let instanceId ← Op.ofExcept (okOr (.message "active pairing response omitted instance_id") polled.instanceId)
    let progress ← transaction (persistActiveCredentials ext p instanceId)
    pure (some progress)
  | .denied => do
    Op.ensure (polled.instanceId.isNone)
      (.message "denied pairing response unexpectedly included instance_id")
    replacePending ext p (.denied (p.ended now))
    pure (some (.denied p.generation p.requestId p.activationUrl))
  | .expired => do
    Op.ensure (polled.instanceId.isNone)
      (.message "expired pairing response unexpectedly included instance_id")
    replacePending ext p (.expired (p.ended now))
    pure (some (.expired p.generation p.requestId p.activationUrl))

/-- The part of `poll_existing` that asks the server about a `Pending` request. -/
def pollPending (config : ClientConfig) (p : Pending) : PairingOp (Option PairingProgress) := do
  Op.ofExcept (validateStateVersion p.version)
  Op.ofExcept (withContext "stored report endpoint is unsafe"
    (config.validateDurableReportEndpoint ext.url p.reportEndpoint))
  let endpoint ← Op.ofExcept (pairingStatusEndpoint ext p.pairingEndpoint p.requestId)
  buildClient ext config
  let authorization ← Op.ofExcept (pairingAuthorization p.pollingSecret)
  let reply ← postBounded (.status endpoint.href authorization) "failed to poll browser pairing status"
  let contentType := pairingResponseContentType reply.2
  match ensurePairingResponse ext reply.2.status contentType reply.2.body [200] .poll with
  | .error e =>
    if e.endedFor p.requestId then do
      let _ ← markPendingExpired ext p reply.1
      Op.throw e
    else Op.throw e
  | .ok () => do
    let polled ← Op.ofExcept (parsePairingJson ext ext.statusResponse reply.2.body contentType endpoint.href
      "pairing status response")
    applyPolled ext p reply.1 polled

/-- `load_state_for_network`. -/
def loadStateForNetwork : PairingOp (Option StoredPairingState) :=
  transaction (fun _ => Tx.read (fun d => loadState d.pairing))

/-- `poll_existing`. -/
def pollExisting (config : ClientConfig) : PairingOp (Option PairingProgress) := do
  match ← loadStateForNetwork with
  | none => pure none
  | some (.creating c) => do
    let waiting ← finishCreateRequest ext config c
    pure (some (.waiting waiting))
  | some (.activating j) => do
    let progress ← transaction (recoverActivating ext j)
    pure (some progress)
  | some (.pending p) => pollPending ext config p
  | some state => pure (some (progressFromTerminal state))

end

end Xsoc
