import Xsoc.Pairing.Start

/-!
# The local view: status, and the reporter of the bound credential

* `localStatus`, `localProgress` : diagnostics, read without the lock;
* `reporterForActiveBinding` : token, identity and endpoint of one binding, as one snapshot;
* `refreshReporterSnapshot`, `existingReporterForRun`, `reporterSnapshotForCurrentActiveState`,
  `activateReporterSnapshot` : who hands such snapshots out;
* `activeCredentialRevision`, `hasCurrentAuthorizedIdentity` : questions answered under the lock.
-/

set_option autoImplicit false

namespace Xsoc

open Durable

/-! ## Diagnostics -/

section

variable (ext : External)

/-- A read without the lock. -/
def peekFile {α : Type} (context : String) (f : Disk → Except Error α) : PairingOp α :=
  Op.peek (fun
    | none => .error (.context context (.io (.refused .other)))
    | some d => f d)

/-- `load_state` of a reader without the lock. -/
def peekState : PairingOp (Option StoredPairingState) :=
  peekFile "failed to read pairing state pairing-state.json" (fun d => loadState d.pairing)

/-- `local_progress`. -/
def localProgress : PairingOp (Option PairingProgress) := do
  let state ← peekState
  pure (state.map progressFromTerminal)

/-- What `local_status` makes of the binding it read between two readings of the same `Active` journal. -/
def statusOf (a : Active) (binding : Except Error (Option ActiveBinding)) : Except Error LocalPairingStatus := do
  match ← binding with
  | some binding =>
    if binding = a.binding then
      .ok ⟨some (progressFromTerminal (.active a)), some a.binding.reportEndpoint⟩
    else .error activeBindingMismatch
  | none => .error activeBindingMissing

/-- The journal is an `Active` one with this binding. -/
def isActiveWith (state : Option StoredPairingState) (expected : ActiveBinding) : Bool :=
  match state with
  | some (.active a) => a.binding = expected
  | _ => false

/-- The attempts of `local_status`. -/
def localStatusAttempts : Nat → PairingOp LocalPairingStatus
  | 0 => Op.throw (.message "pairing state changed repeatedly while reading local status")
  | attempts + 1 => do
    match ← peekState with
    | some (.active a) => do
      let binding ← Op.handle (peekFile "failed to read active binding active-binding.json"
        (fun d => loadActiveBinding ext.url d.binding)) (fun binding => pure binding)
      let current ← peekState
      if isActiveWith current a.binding = false then localStatusAttempts attempts
      else Op.ofExcept (statusOf a binding)
    | state => pure ⟨state.map progressFromTerminal, none⟩

/-- `local_status`. -/
def localStatus : PairingOp LocalPairingStatus := localStatusAttempts ext 3

/-- `has_current_authorized_identity`, under the lock it takes. -/
def hasCurrentAuthorizedIdentity : StateTx Bool :=
  Tx.read (fun d => do
    let auth ← localAuthStateUnlocked d.authorization
    if isAuthorized auth = false then .ok false
    else
      let state ← loadState d.pairing
      .ok state.isSome)

/-! ## Reporters -/

/-- The transport of one credential. -/
structure Reporter where
  identity : ClientIdentity
  endpoint : String
  token : String
  credentialRevision : Revision
  otlpEndpoint : Option String
  otlpToken : Option String
  deriving DecidableEq

/-- Product identity and endpoint accompany the same locked credential snapshot. -/
structure ReporterSnapshot where
  reporter : Reporter
  host : HostIdentity
  reportEndpoint : String
  deriving DecidableEq

def ReporterSnapshot.credentialRevision (s : ReporterSnapshot) : Revision := s.reporter.credentialRevision

/-- `ReporterSnapshot::apply`: the configuration, the host and the reporter afterwards. -/
def ReporterSnapshot.apply (s : ReporterSnapshot) (config : ClientConfig) : ClientConfig × HostIdentity × Reporter :=
  (applyActiveConfig config s.reportEndpoint, s.host, s.reporter)

/-- `host_details`. -/
def hostDetails (id : String) : HostIdentity :=
  ⟨id, ext.os, ext.osVersion, ext.kernelVersion, ext.arch, ext.clientVersion⟩

/-- `load_host_identity_from`. -/
def loadHostIdentityFrom (f : File (Option String)) : Except Error HostIdentity := do
  let identity ← identityFromState f
  .ok (hostDetails ext identity.instanceId)

/-- `Reporter::with_client_and_credential`. -/
def Reporter.withCredential (config : ClientConfig) (credential : CredentialSnapshot) : Except Error Reporter := do
  check (trim credential.secret.toList ≠ []) (.message "the per-host token is empty")
  let own ← forInstance credential.identity.instanceId
  credential.identity.ensureMatches own
  .ok ⟨credential.identity, config.endpoint, credential.secret, credential.revision, config.otlpEndpoint,
    config.otlpToken⟩

/-- `Reporter::for_existing_credential`. -/
def Reporter.forExistingCredential (config : ClientConfig) (d : Disk) : Except Error (Option Reporter) := do
  match ← HostCredentials.load ext.url d with
  | none => .ok none
  | some credential =>
    ext.buildClient config
    let reporter ← Reporter.withCredential config credential
    .ok (some reporter)

/-- `config_for_active_binding`. -/
def configForActiveBinding (config : ClientConfig) (binding : ActiveBinding) : ClientConfig :=
  applyActiveConfig config binding.reportEndpoint

/-- `reporter_for_active_binding_unlocked`. -/
def reporterForActiveBinding (config : ClientConfig) (d : Disk) (binding : ActiveBinding) :
    Except Error (Option ReporterSnapshot) := do
  let durableHost ← loadHostIdentityFrom ext d.identity
  let durable ← forInstance durableHost.id
  let bound ← forInstance binding.instanceId.toString
  durable.ensureMatches bound
  let reporter ← Reporter.forExistingCredential ext (configForActiveBinding config binding) d
  .ok (reporter.map (fun reporter => ⟨reporter, durableHost, binding.reportEndpoint⟩))

/-- A journal that is active names this binding. -/
def StoredPairingState.consistent (binding : ActiveBinding) : StoredPairingState → Bool
  | .active a => a.binding = binding
  | _ => true

/-- `refresh_reporter_snapshot`, under the lock it takes. -/
def refreshReporterSnapshot (config : ClientConfig) (revision : Revision) (d : Disk) :
    Except Error (Option ReporterSnapshot) := do
  let auth ← localAuthStateUnlocked d.authorization
  if isAuthorized auth = false then .ok none
  else
    match ← loadState d.pairing with
    | none => .ok none
    | some (.activating _) => .ok none
    | some state =>
      let binding ← okOr (.context "authorized credential binding is missing" (corruptPairingState "active-binding"))
        (← loadActiveBinding ext.url d.binding)
      check (state.consistent binding = true) (.context "active credential binding does not match the pairing journal"
        (corruptPairingState "active-binding"))
      if binding.revision = revision then .ok none else reporterForActiveBinding ext config d binding

/-- `reporter_snapshot_for_current_active_state_unlocked`. -/
def reporterSnapshotForCurrentActiveState (config : ClientConfig) (d : Disk) :
    Except Error (Option ReporterSnapshot) := do
  let auth ← localAuthStateUnlocked d.authorization
  if isAuthorized auth = false then .ok none
  else
    match ← loadState d.pairing with
    | some (.active a) =>
      let binding ← loadCurrentActiveBinding ext d.binding a.binding
      reporterForActiveBinding ext config d binding
    | _ => .ok none

/-- The branches of `existing_reporter_for_run` on a journal that is not `Activating`. -/
def existingReporter (config : ClientConfig) (d : Disk) (state : Option StoredPairingState) :
    Except Error (Option ReporterSnapshot) := do
  let auth ← localAuthStateUnlocked d.authorization
  if isAuthorized auth = false then .ok none
  else
    match state with
    | none => .ok none
    | some (.active _) => .ok none
    | some (.activating _) => .ok none
    | some _ =>
      match ← loadActiveBinding ext.url d.binding with
      | some binding => reporterForActiveBinding ext config d binding
      | none => .error activeBindingMissing

/-- `existing_reporter_for_run`, under the lock it takes. -/
def existingReporterForRun (config : ClientConfig) (i : Inputs) : StateTx (Option ReporterSnapshot) := do
  match ← Tx.read (fun d => loadState d.pairing) with
  | some (.activating j) => do
    let _ ← finishActivatingUnlocked ext i j
    Tx.read (reporterSnapshotForCurrentActiveState ext config)
  | state => Tx.read (fun d => existingReporter ext config d state)

/-- `active_credential_revision`, under the lock it takes. -/
def activeCredentialRevision (d : Disk) : Except Error (Option Revision) := do
  let auth ← localAuthStateUnlocked d.authorization
  if isAuthorized auth = false then .ok none
  else
    match ← loadState d.pairing with
    | some (.active a) =>
      let binding ← loadCurrentActiveBinding ext d.binding a.binding
      .ok (some binding.revision)
    | _ => .ok none

/-- `ensure_active_is_current`. -/
def ensureActiveIsCurrent (d : Disk) (generation requestId instanceId : Uuid) (reportEndpoint : String) :
    Except Error ActiveBinding := do
  match ← loadState d.pairing with
  | some (.active a) =>
    if a.generation = generation ∧ a.requestId = requestId ∧ a.instanceId = instanceId ∧
        a.reportEndpoint = reportEndpoint then .ok a.binding
    else .error .superseded
  | _ => .error .superseded

/-- `activate_reporter_snapshot`, under the lock it takes: the snapshot that it applies. -/
def activateReporterSnapshot (config : ClientConfig) (generation requestId instanceId : Uuid)
    (reportEndpoint : String) (d : Disk) : Except Error ReporterSnapshot := do
  let auth ← localAuthStateUnlocked d.authorization
  check (isAuthorized auth = true)
    (.message "current Active pairing state has no current authorized identity state")
  let expected ← ensureActiveIsCurrent d generation requestId instanceId reportEndpoint
  let binding ← loadCurrentActiveBinding ext d.binding expected
  okOr (.message "paired host credential is missing after the Active pairing transaction")
    (← reporterForActiveBinding ext config d binding)

end

end Xsoc
