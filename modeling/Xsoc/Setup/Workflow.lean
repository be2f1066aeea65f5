import Xsoc.Collectors.Document
import Xsoc.Machines.Dialogue
import Xsoc.Pairing.Credentials
import Xsoc.RemoteBinding

/-!
# Setup

`xsoc setup` pairs the host, registers the service, starts it and waits until the server has acknowledged a report. What
it asks of the user, the service manager, the local state and the server are calls here, and any of them may answer
anything.

* `Failure`, `Args`, `Call`, `Reply` : what it is given, and what it asks;
* `inspect`, `decide` : what becomes of a binding that is there already; `quiesce`, `pairHost` : the pairing, with the
  service at rest; `finish` : what follows it;
* `setup` : all of it.
-/

set_option autoImplicit false

namespace Xsoc

open Dialogue

namespace Setup

/-! ## Data -/

/-- A text, or the document that it is the text of, or a text and values by their names: `text;name=value`. -/
inductive Detail
  | text (s : String)
  | json (value : Value)
  | facts (s : String) (values : List (String × Value))

structure Failure where
  exit : Nat
  code : String
  committed : Bool
  transactionId : Option String
  step : Option String
  detail : Option Detail

def fail (exit : Nat) (code : String) : Failure := ⟨exit, code, false, none, none, none⟩

namespace Failure

def atStep (error : Failure) (step : String) : Failure := { error with step := some step }

def withDetail (error : Failure) (detail : Detail) : Failure := { error with detail := some detail }

end Failure

/-- The arguments of a command, and the time that it has, in milliseconds. -/
structure Args where
  words : List String
  options : List (String × String)
  format : String
  timeout : Nat
  deriving DecidableEq

namespace Args

def has (args : Args) (name : String) : Bool := args.options.any fun option => option.1 == name

def get (args : Args) (name : String) : Option String :=
  (args.options.find? fun option => option.1 == name).map Prod.snd

/-- `BTreeMap::insert` -/
def insert (args : Args) (name value : String) : Args :=
  { args with options := (args.options.filter fun option => !(option.1 == name)) ++ [(name, value)] }

end Args

/-- `xsoc::transport::RemoteBindingFailure` -/
inductive BindingFailure
  | invalidEndpoint
  | localCredentialCorrupt
  | connectionFailed
  | timeout
  | tlsValidationFailed
  | responseTooLarge
  | httpTransportFailed
  | answered (failure : RemoteBindingFailure)

namespace BindingFailure

def stableCode : BindingFailure → String
  | invalidEndpoint => "pairing_invalid_endpoint"
  | localCredentialCorrupt => "local_credential_corrupt"
  | connectionFailed => "pairing_connection_failed"
  | timeout => "pairing_connection_timeout"
  | tlsValidationFailed => "pairing_tls_untrusted"
  | responseTooLarge => "pairing_response_too_large"
  | httpTransportFailed => "pairing_http_transport_failed"
  | answered .serverUpgradeRequired => "pairing_server_upgrade_required"
  | answered .reverseProxyMisconfigured => "pairing_reverse_proxy_misconfigured"
  | answered .rateLimited => "pairing_rate_limited"
  | answered (.serverUnavailable _) => "pairing_server_unavailable"
  | answered (.unexpectedRedirect _) => "pairing_unexpected_redirect"
  | answered (.contractMismatch _) => "pairing_server_contract_mismatch"
  | answered .authResponseUntrusted => "pairing_auth_response_untrusted"

/-- The status that the failure is shown with. -/
def status : BindingFailure → Option Nat
  | answered (.serverUnavailable status) => some status
  | answered (.unexpectedRedirect status) => some status
  | answered (.contractMismatch status) => some status
  | _ => none

end BindingFailure

inductive ExistingBindingState
  | none
  | localOnly
  | remoteVerified (hostId : String)
  | unauthorized
  | remoteFailure (failure : BindingFailure)
  | serverChanged (configured requested : String)
  | concurrentlyChanged
  | protocolUnsupported (received : Nat) (supported : List Nat)

inductive SetupPairAction
  | fresh
  | resume
  | replace
  | recover
  deriving DecidableEq, Repr

namespace SetupPairAction

def words : SetupPairAction → List String
  | fresh => ["pair"]
  | resume => ["pair", "resume"]
  | replace => ["pair", "replace"]
  | recover => ["pair", "recover"]

def requiresProtectedInput (action : SetupPairAction) : Bool := action != .resume

end SetupPairAction

/-! ## Calls -/

/-- What `wait_for_acknowledgement` sees next. -/
inductive Awaited
  | snapshot (status : Except Failure Value)
  | timedOut
  | interrupted

inductive Call
  /-- `Instant::now()` -/
  | clock
  /-- `c.validate(ClientCommand::Pair)` -/
  | validate
  | serviceStatus (timeout : Nat)
  /-- `pairing::local_status` -/
  | pairingStatus
  /-- `pairing::local_auth_state` -/
  | authState
  /-- `local_runtime_status` -/
  | runtimeStatus
  /-- `Reporter::new_with_timeout`; an error tells whether the credential is corrupt. -/
  | openReporter (timeout : Nat)
  | verifyRemoteBinding
  | activeCredentialRevision
  /-- `ask_yes_no`, which may take until then. -/
  | ask (question : String) (default : Bool) (expiresAt : Nat)
  | change (args : Args) (action : String)
  /-- `load_host_identity`, as to whether there is one. -/
  | hostIdentity
  /-- `client_identity::load`, the instance. -/
  | clientIdentity
  | pair (args : Args)
  | load
  | verifiedStatus (timeout : Nat)
  /-- `Utc::now().timestamp()` -/
  | utcNow
  /-- What the wait sees next, of all the time that it has. -/
  | awaitStatus (timeout : Nat)

/-- What is answered. -/
abbrev Reply : Call → Type
  | .clock => Nat
  | .validate => Bool
  | .serviceStatus _ => Except Failure Value
  | .pairingStatus => Except Failure LocalPairingStatus
  | .authState => Except Failure (Option CredentialAuthorization)
  | .runtimeStatus => Except Failure Value
  | .openReporter _ => Except Bool Revision
  | .verifyRemoteBinding => Except BindingFailure RemoteBindingStatus
  | .activeCredentialRevision => Except Unit (Option Revision)
  | .ask _ _ _ => Except Failure Bool
  | .change _ _ => Except Failure Value
  | .hostIdentity => Bool
  | .clientIdentity => Except Failure String
  | .pair _ => Except Failure Value
  | .load => Except Failure Unit
  | .verifiedStatus _ => Except Failure Value
  | .utcNow => Int
  | .awaitStatus _ => Awaited

abbrev Script (α : Type) := Op Call Reply Failure α

def ask (c : Call) : Script (Reply c) := Op.ask c

/-- `Value == bool`, and the like. -/
def isBool (b : Bool) (value : Value) : Bool := value.asBool == some b

def isStr (s : String) (value : Value) : Bool := value.asStr == some s

/-- `as_i64` -/
def asI64 : Value → Option Int
  | .number (.posInt n) => if n < 2 ^ 63 then some n else none
  | .number (.negInt n) => some (-n)
  | _ => none

def ofI64 : Int → Value
  | .ofNat n => .number (.posInt n)
  | .negSucc n => .number (.negInt (n + 1))

def running (status : Value) : Bool := isStr "running" (status.field "state")

/-! ## The code -/

/-- `setup_args` -/
def setupArgs (args : Args) (words : List String) (interactive : Bool) : Args :=
  let kept : Args :=
    { args with
      words := words
      options := args.options.filter fun option =>
        ["--format", "--timeout", "--config", "--non-interactive", "--no-color", "--input-stdin", "--server"].contains
          option.1 }
  if interactive then kept.insert "--interactive" "true" else kept

def setupPairAction (bindingState : ExistingBindingState)
    (recoverChangedServer recoverPreservedIdentity resumeExistingTransaction : Bool) : SetupPairAction :=
  match bindingState, recoverChangedServer with
  | .unauthorized, _ | .localOnly, _ | _, true => .recover
  | .remoteVerified _, false => .replace
  | _, false =>
    if resumeExistingTransaction then .resume else if recoverPreservedIdentity then .recover else .fresh

def setupPairArgs (args : Args) (action : SetupPairAction) : Args :=
  setupArgs args action.words
    (action.requiresProtectedInput && !args.has "--input-stdin" && !args.has "--non-interactive")

def setupServiceArgs (args : Args) (timeout : Nat) : Args where
  words := []
  options := args.options.filter fun option =>
    ["--format", "--timeout", "--config", "--non-interactive", "--no-color"].contains option.1
  format := args.format
  timeout := timeout

def preserveSetupCommit (error : Failure) (pairing : Value) : Failure :=
  { error with
    committed := true
    transactionId := error.transactionId.or (pairing.field "transaction_id").asStr }

def setupFailure (pairing : Value) (step : String) (error : Failure) : Failure :=
  (preserveSetupCommit error pairing).atStep step

def startupPolicyMatches (status : Value) (enabled : Bool) : Bool :=
  let observed := (status.field "startup").asStr.getD "unknown"
  if enabled then ["automatic", "enabled", "enabled-runtime"].contains observed
  else ["manual", "disabled"].contains observed

def connectionBlockers (status : Value) (notBefore : Int) : List String :=
  let runtime := status.field "runtime"
  (if isBool true (runtime.field "available") then [] else ["runtime_status_unavailable"]) ++
  (match asI64 (runtime.field "last_ack_at") with
    | none => ["acknowledgement_missing"]
    | some at_ => if at_ < notBefore then ["acknowledgement_stale"] else []) ++
  (if isStr "accepted" (runtime.field "last_delivery_result") then [] else ["delivery_not_accepted"]) ++
  (if (runtime.field "last_http_status").asU64 = some 202 then [] else ["http_status_not_accepted"]) ++
  (if (runtime.field "last_error_code").isNull then [] else ["delivery_error_present"])

def businessHealthBlockers (status : Value) : List String :=
  (if isBool false ((status.field "config").field "restart_required") then []
    else ["configuration_restart_required"]) ++
  (if 0 < (status.field "spool_invalid_batches").asU64.getD 0 then ["spool_contains_invalid_batches"] else []) ++
  (if isStr "configured" (status.field "status") then [] else ["local_status_not_configured"])

def connectionAcknowledged (status : Value) (notBefore : Int) : Bool := (connectionBlockers status notBefore).isEmpty

def connectionEvidence (status : Value) (notBefore : Int) : Value :=
  let runtime := status.field "runtime"
  .object
    [("acknowledgement", .string (if connectionAcknowledged status notBefore then "verified" else "unconfirmed")),
      ("verification_not_before", ofI64 notBefore),
      ("last_ack_at", runtime.field "last_ack_at"),
      ("last_delivery_result", runtime.field "last_delivery_result"),
      ("last_http_status", runtime.field "last_http_status"),
      ("last_error_code", runtime.field "last_error_code"),
      ("runtime_available", runtime.field "available"),
      ("connection_blockers", .array ((connectionBlockers status notBefore).map .string)),
      ("business_health", status.field "health"),
      ("business_health_blockers", .array ((businessHealthBlockers status).map .string))]

/-- `SetupDeadline::remaining` -/
def remaining (expiresAt : Nat) (step : String) : Script Nat := do
  let now ← ask .clock
  if now < expiresAt then pure (expiresAt - now) else Op.throw ((fail 9 "setup_deadline_exceeded").atStep step)

/-- A call that may fail, at a step. -/
def atStep {α : Type} (step : String) (x : Except Failure α) : Script α :=
  Op.ofExcept (x.mapError fun error => error.atStep step)

def requestedServerChange (existing : LocalPairingStatus) (requestedEndpoint : Option String) :
    Option ExistingBindingState :=
  match existing.activeReportEndpoint, requestedEndpoint with
  | some configured, some requested =>
    if configured ≠ requested then some (.serverChanged configured requested) else none
  | _, _ => none

/-- What the server says of the binding. -/
def verdict : Except BindingFailure RemoteBindingStatus → ExistingBindingState
  | .ok (.authorized hostId) => .remoteVerified hostId
  | .ok .unauthorized => .unauthorized
  | .ok (.protocolUnsupported received supported) => .protocolUnsupported received supported
  | .error failure => .remoteFailure failure

/-- The rounds of `existing_binding_state`: a binding that has changed meanwhile is looked at again. -/
def bindingRounds (expiresAt : Nat) : Nat → Script ExistingBindingState
  | 0 => pure .concurrentlyChanged
  | n + 1 => do
    let now ← ask .clock
    if now < expiresAt then
      let reporter : Except Bool Revision ← ask (.openReporter (expiresAt - now))
      match reporter with
      | .error true => pure (.remoteFailure .localCredentialCorrupt)
      | .error false => pure .localOnly
      | .ok revision => do
        let result ← ask .verifyRemoteBinding
        let active : Except Unit (Option Revision) ← ask .activeCredentialRevision
        match active with
        | .ok (some current) => if current ≠ revision then bindingRounds expiresAt n else pure (verdict result)
        | .ok none => pure .concurrentlyChanged
        | .error () => pure .localOnly
    else pure (.remoteFailure .timeout)

def existingBindingState (existing : LocalPairingStatus) (expiresAt : Nat) : Script ExistingBindingState :=
  if existing.activeReportEndpoint.isNone then pure .none else bindingRounds expiresAt 3

/-- The wait ran out; what the status is by then goes with the failure. -/
def unconfirmed (notBefore : Int) : Script Value := do
  let reply : Except Failure Value ← ask .runtimeStatus
  match reply with
  | .ok status => Op.throw ((fail 9 "connection_unconfirmed").withDetail (.json (connectionEvidence status notBefore)))
  | .error _ =>
    Op.throw ((fail 9 "connection_unconfirmed").withDetail (.json (.object
      [("acknowledgement", .string "unconfirmed"), ("verification_not_before", ofI64 notBefore),
        ("connection_blockers", .array [.string "local_status_unavailable"])])))

/-- `wait_for_acknowledgement`, which has the time to look so many times. -/
def waitForAcknowledgement (timeout : Nat) (notBefore : Int) : Nat → Script Value
  | 0 => unconfirmed notBefore
  | n + 1 => do
    let awaited : Awaited ← ask (.awaitStatus timeout)
    match awaited with
    | .snapshot status => do
      let status ← Op.ofExcept status
      if connectionAcknowledged status notBefore then pure status else waitForAcknowledgement timeout notBefore n
    | .timedOut => unconfirmed notBefore
    | .interrupted =>
      Op.throw ((fail 130 "interrupted_connection_wait").withDetail
        (.text "pairing remains committed; rerun status --check to verify later"))

/-- What `setup` is given: the files of the configuration and of the service, the endpoint that is configured, and how
often it may look for an acknowledgement. -/
structure Request where
  args : Args
  path : String
  defaultConfig : String
  endpoint : String
  patience : Nat

namespace Request

def interactive (request : Request) : Bool := !request.args.has "--non-interactive" && !request.args.has "--input-stdin"

end Request

/-- What `setup` has seen before it touches anything. -/
structure Inspection where
  existing : LocalPairingStatus
  bindingState : ExistingBindingState

structure Step where
  step : String
  evidence : Value

structure Completed where
  steps : List Step
  pairing : Value
  service : Value
  verification : Value

section

variable (validateServerBase : String → Option String) (request : Request)

/-- The server that is asked for. -/
def requestedServer : Except Failure (Option String) :=
  match request.args.get "--server" with
  | none => .ok none
  | some server =>
    match validateServerBase server with
    | some server => .ok (some server)
    | none => .error ((fail 2 "invalid_server_origin").atStep "configuration")

/-- The host that a service which runs has verified. -/
def serviceVerifiedHost (initialService : Value) : Script (Option String) :=
  if running initialService then do
    let reply : Except Failure Value ← ask .runtimeStatus
    match reply with
    | .ok status => pure (if isStr "healthy" (status.field "health") then (status.field "host_id").asStr else none)
    | .error _ => pure none
  else pure none

/-- The binding is asked for where neither the server changes nor the service has verified it. -/
def bindingStateOf (expiresAt : Nat) (existing : LocalPairingStatus) (requestedEndpoint : Option String)
    (serviceVerifiedHost : Option String) : Script ExistingBindingState :=
  match requestedServerChange existing requestedEndpoint with
  | some change => pure change
  | none =>
    match serviceVerifiedHost with
    | some hostId => pure (.remoteVerified hostId)
    | none => existingBindingState existing expiresAt

/-- A server that cannot be asked did not know the host the last time. -/
def reauthorized (authState : Option CredentialAuthorization) (bindingState : ExistingBindingState) :
    ExistingBindingState :=
  match authState, bindingState with
  | some .reauthorizationRequired, .remoteFailure (.answered (.serverUnavailable _)) => .unauthorized
  | _, _ => bindingState

/-- `setup`, as far as it only looks. -/
def inspect (expiresAt : Nat) : Script Inspection := do
  if request.path ≠ request.defaultConfig then
    Op.throw ((fail 2 "service_config_mismatch").atStep "configuration")
  else do
    let valid : Bool ← ask .validate
    if valid = false then Op.throw ((fail 2 "invalid_configuration").atStep "configuration")
    else do
      let requestedServer ← Op.ofExcept (requestedServer validateServerBase request)
      let timeout ← remaining expiresAt "service_inspection"
      let status : Except Failure Value ← ask (.serviceStatus timeout)
      let initialService ← atStep "service_inspection" status
      let existing : Except Failure LocalPairingStatus ← ask .pairingStatus
      let existing ← atStep "configuration" existing
      let authState : Except Failure (Option CredentialAuthorization) ← ask .authState
      let authState ← atStep "configuration" authState
      let host ← serviceVerifiedHost initialService
      let bindingState ←
        bindingStateOf expiresAt existing (requestedServer.map fun server => server ++ clientReportPath) host
      pure ⟨existing, reauthorized authState bindingState⟩

/-- A question to the user, at a step. -/
def askYesNo (expiresAt : Nat) (step question : String) (default : Bool) : Script Bool := do
  let answer : Except Failure Bool ← ask (.ask question default expiresAt)
  atStep step answer

/-- Whether the binding is kept, and whether the identity goes to another server. -/
def decide (expiresAt : Nat) (bindingState : ExistingBindingState) : Script (Bool × Bool) :=
  match bindingState with
  | .remoteVerified _ =>
    if request.interactive then do
      let reuse ← askYesNo expiresAt "pairing" "Reuse this remotely verified binding?" true
      pure (reuse, false)
    else pure (true, false)
  | .none | .unauthorized | .localOnly => pure (false, false)
  | .remoteFailure failure =>
    let error := (fail 6 failure.stableCode).atStep "pairing"
    Op.throw { error with detail := failure.status.map fun status => .text s!"http_status={status}" }
  | .serverChanged _ _ => do
    let recover ←
      if request.interactive then
        askYesNo expiresAt "pairing" "Server changed. Recover the existing xsoc identity on the requested Server?" false
      else pure (request.args.has "--input-stdin")
    if recover then pure (false, true)
    else Op.throw ((fail 5 "server_change_confirmation_required").atStep "pairing")
  | .concurrentlyChanged => Op.throw ((fail 6 "pairing_binding_changed_during_check").atStep "pairing")
  | .protocolUnsupported received supported =>
    Op.throw (((fail 10 "pairing_protocol_unsupported").atStep "pairing").withDetail
      (.text s!"client_protocol={received};server_supported={supported}"))

/-- A binding that is kept goes with what is asked for. -/
def checkReuse : Except Failure Unit :=
  if request.args.has "--input-stdin" then
    .error ((fail 5 "active_setup_input_requires_pair_replace").atStep "configuration")
  else
    match request.args.get "--server" with
    | none => .ok ()
    | some server =>
      match validateServerBase server with
      | none => .error ((fail 2 "invalid_server_origin").atStep "configuration")
      | some server =>
        if request.endpoint ≠ server ++ clientReportPath then
          .error ((fail 5 "server_replacement_requires_pair_replace").atStep "configuration")
        else .ok ()

/-- The service is stopped, if it runs. -/
def quiesce (expiresAt : Nat) : Script Unit := do
  let timeout ← remaining expiresAt "service_quiesce"
  let status : Except Failure Value ← ask (.serviceStatus timeout)
  let status ← atStep "service_quiesce" status
  if running status then do
    let timeout ← remaining expiresAt "service_quiesce"
    let stopped : Except Failure Value ← ask (.change (setupServiceArgs request.args timeout) "stop")
    let stopped ← atStep "service_quiesce" stopped
    if running stopped then Op.throw ((fail 11 "service_state_unconfirmed").atStep "service_quiesce") else pure ()
  else pure ()

def resumable : Option PairingProgress → Bool
  | some (.creating _ _) | some (.waiting _) => true
  | _ => false

/-- Whether a transaction that is pending goes on. -/
def resumeExistingTransaction (expiresAt : Nat) (existing : LocalPairingStatus) : Script Bool :=
  if resumable existing.progress && request.interactive && !request.args.has "--input-stdin" &&
      !request.args.has "--interactive" && (request.args.get "--server").isNone then
    askYesNo expiresAt "pairing" "Resume without submitting a new authorization code?" false
  else pure false

def recoverPreservedIdentity : ExistingBindingState → Script Bool
  | .none => ask .hostIdentity
  | _ => pure false

/-- To replace a binding, the arguments say which. -/
def bindingArgs (action : SetupPairAction) (pairArgs : Args) : Script Args :=
  if action = .replace then do
    let binding : Except Failure String ← ask .clientIdentity
    let binding ← atStep "pairing" binding
    pure ((pairArgs.insert "--confirm-replace" "true").insert "--expected-binding" binding)
  else pure pairArgs

/-- The host is paired, with the service at rest. -/
def pairHost (expiresAt : Nat) (i : Inspection) (recoverChangedServer : Bool) : Script Value := do
  quiesce request expiresAt
  let resumeExisting ← resumeExistingTransaction request expiresAt i.existing
  let preserved ← recoverPreservedIdentity i.bindingState
  let action := setupPairAction i.bindingState recoverChangedServer preserved resumeExisting
  let timeout ← remaining expiresAt "pairing"
  let pairArgs ← bindingArgs action { setupPairArgs request.args action with timeout := timeout }
  let paired : Except Failure Value ← ask (.pair pairArgs)
  atStep "pairing" paired

/-- A call that fails after the pairing. -/
def committed {α : Type} (pairing : Value) (step : String) (x : Except Failure α) : Script α :=
  Op.ofExcept (x.mapError (setupFailure pairing step))

def enableAtStartup (expiresAt : Nat) (pairing : Value) : Script Bool :=
  if request.interactive then do
    let answer : Except Failure Bool ← ask (.ask "Enable service at system startup?" true expiresAt)
    committed pairing "preferences" answer
  else pure true

/-- What follows the pairing. -/
def finish (expiresAt : Nat) (pairing : Value) (steps : List Step) : Script Completed := do
  let loaded : Except Failure Unit ← ask .load
  committed pairing "pairing" loaded
  let status : Except Failure LocalPairingStatus ← ask .pairingStatus
  let status ← committed pairing "pairing" status
  if status.activeReportEndpoint.isNone then
    Op.throw (setupFailure pairing "pairing" (fail 11 "pairing_postcondition_unconfirmed"))
  else do
    let steps := steps ++
      [⟨"pairing", .object [("state", .string "active"), ("durable_identity", .bool true)]⟩]
    let enable ← enableAtStartup request expiresAt pairing
    let timeout ← remaining expiresAt "service_registration"
    let registered : Except Failure Value ← ask (.verifiedStatus timeout)
    let registered ← committed pairing "service_registration" registered
    let steps := steps ++ [⟨"service_registration",
      .object [("installed", registered.field "installed"), ("registration_matches", .bool true)]⟩]
    let timeout ← remaining expiresAt "startup_policy"
    let policy : Except Failure Value ←
      ask (.change (setupServiceArgs request.args timeout) (if enable then "enable" else "disable"))
    let policy ← committed pairing "startup_policy" policy
    if startupPolicyMatches policy enable = false then
      Op.throw (setupFailure pairing "startup_policy" (fail 11 "startup_policy_unconfirmed"))
    else do
      let steps := steps ++ [⟨"startup_policy",
        .object [("requested", .string (if enable then "enabled" else "disabled")),
          ("observed", policy.field "startup")]⟩]
      let notBefore : Int ← ask .utcNow
      let timeout ← remaining expiresAt "service_runtime"
      let service : Except Failure Value ← ask (.change (setupServiceArgs request.args timeout) "start")
      let service ← committed pairing "service_runtime" service
      if running service = false then
        Op.throw (setupFailure pairing "service_runtime" (fail 11 "service_state_unconfirmed"))
      else do
        let steps := steps ++ [⟨"service_runtime",
          .object [("requested", .string "running"), ("observed", service.field "state")]⟩]
        let timeout ← remaining expiresAt "connection"
        let verification ←
          (waitForAcknowledgement timeout notBefore request.patience).mapError (setupFailure pairing "connection")
        let steps := steps ++ [⟨"connection", connectionEvidence verification notBefore⟩]
        pure ⟨steps, pairing, service, verification⟩

/-- The value of a pairing that was there already. -/
def alreadyActive : Value := .object [("committed", .bool true), ("already_active", .bool true)]

def checkKept (reuse : Bool) : Script Unit :=
  if reuse then Op.ofExcept (checkReuse validateServerBase request) else pure ()

def pairingOf (expiresAt : Nat) (i : Inspection) (reuse recoverChangedServer : Bool) : Script Value :=
  if reuse then pure alreadyActive else pairHost request expiresAt i recoverChangedServer

def setup : Script Completed := do
  let now ← ask .clock
  let expiresAt := now + request.args.timeout
  let i ← inspect validateServerBase request expiresAt
  let (reuse, recoverChangedServer) ← decide request expiresAt i.bindingState
  checkKept validateServerBase request reuse
  let pairing ← pairingOf request expiresAt i reuse recoverChangedServer
  finish request expiresAt pairing
    [⟨"configuration", .object [("path", .string request.path), ("service_path_matches", .bool true)]⟩]

end

end Setup

end Xsoc
