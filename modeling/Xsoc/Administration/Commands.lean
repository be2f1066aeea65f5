import Xsoc.Setup.Workflow

/-!
# Commands that change a client

`xsoc pair` and `xsoc config init`, `edit` and `apply` change the configuration and the state of pairing of a client,
which the service and other commands use at the same time. What they ask for is a call here.

* `pairingFailure`, `pairingStateFailure` : how a command fails;
* `Call`, `Reply` : what it asks for; `guarded` : the lock that it holds meanwhile;
* `pair` : the pairing; `configInit`, `configEdit`, `configApply` : the changes of the configuration.
-/

set_option autoImplicit false

namespace Xsoc

open Dialogue

namespace Administration

open Setup (Args Failure fail isBool asI64)

/-! ## Failures -/

/-- `{:?}` of an `Option` of a number. -/
def debugOption : Option Nat → String
  | some n => s!"Some({n})"
  | none => "None"

def PairingHttpOperation.debug : PairingHttpOperation → String
  | .create => "Create"
  | .activate => "Activate"
  | .poll => "Poll"

def pairingStateFailure (error : Error) : Option Failure :=
  match error.root with
  | .compatibility (.unsupported artifact detected supported) =>
    some ((fail 4 "pairing_state_incompatible").withDetail
      (.text s!"artifact={artifact};detected={detected};supported={supported};preserved=true"))
  | .compatibility (.corrupt artifact) =>
    some ((fail 4 "pairing_state_incompatible").withDetail
      (.text s!"artifact={artifact};detected=malformed;supported={persistedStateFormat};preserved=true"))
  | _ => none

/-- `pairing_failure`, of an error of the server. -/
def pairingHttpFailure (http : PairingHttpError) : Failure :=
  if http.code = some "unsupported_client_protocol" then
    let received := debugOption http.received
    let supported := http.supported
    (fail 10 "pairing_protocol_unsupported").withDetail
      (.text s!"client_protocol={received};server_supported={supported}")
  else if http.transactionMissing || http.transactionExpired then
    let operation := PairingHttpOperation.debug http.operation
    let status := http.status
    let code := http.code.getD "<missing>"
    let requestId := (http.requestId.map Uuid.toString).getD "<missing>"
    (fail 7 "pairing_expired").withDetail
      (.text s!"operation={operation};http_status={status};server_code={code};request_id={requestId}")
  else if http.status = 401 ∨ http.status = 403 then fail 7 "pairing_authorization_rejected"
  else if http.status = 408 ∨ http.status = 429 ∨ (500 ≤ http.status ∧ http.status ≤ 599) then
    fail 6 "pairing_server_unavailable"
  else if http.status = 404 then fail 10 "pairing_endpoint_not_found"
  else if http.status = 405 then fail 10 "pairing_http_method_rejected"
  else if http.status = 406 ∨ http.status = 426 then fail 10 "pairing_server_upgrade_required"
  else if 400 ≤ http.status ∧ http.status ≤ 499 then fail 2 "pairing_request_rejected"
  else fail 10 "pairing_unexpected_http_status"

def pairingFailure (error : Error) (fallback : Nat) (code : String) : Failure :=
  match pairingStateFailure error with
  | some failure => failure
  | none =>
    match error.http? with
    | some http => pairingHttpFailure http
    | none =>
      if error.io? = some (.refused .permissionDenied) then fail 3 "permission_denied" else fail fallback code

def importantStateError (extra : Option (List (String × Value))) : Failure :=
  (fail 10 "important_state_incompatible").withDetail (.facts "artifact=spool;preserved=true" (extra.getD []))

/-! ## Calls -/

structure PairInput where
  server : String
  authorizationCode : String

/-- An operation that time, or the user, may cut short. -/
inductive Awaited (α : Type)
  | done (a : α)
  | timedOut
  | interrupted

/-- What a configuration that is stored comes from. -/
inductive Basis
  /-- `config init` -/
  | created
  /-- `config edit`, of what was stored; with the state of pairing that it has seen. -/
  | edited (current : ClientConfig) (existing : LocalPairingStatus)
  /-- `config apply`, to what has this revision. -/
  | applied (expected : String)
  /-- `pair`, of what was stored. -/
  | paired (loaded : Option ClientConfig)

inductive Call
  /-- `Instant::now()` -/
  | clock
  /-- `config_exists` -/
  | configExists
  /-- `load(&path)` -/
  | load
  /-- `load`, of the file of a candidate. -/
  | loadFile (path : String)
  | prompt (label : String)
  /-- `stdin_document` -/
  | stdinDocument
  /-- `edit_json`, and what it is read as. -/
  | editJson (current : ClientConfig)
  /-- `validate(ClientCommand::Pair)` -/
  | validate (c : ClientConfig)
  /-- `Guard::acquire` -/
  | acquire (stateDir : PathBuf)
  /-- The guard is dropped. -/
  | release (stateDir : PathBuf)
  | localStatus (c : ClientConfig)
  | localAuthState (c : ClientConfig)
  | queue (c : ClientConfig)
  | loadHostIdentity (c : ClientConfig)
  /-- `client_identity::load`, the instance. -/
  | clientIdentity (c : ClientConfig)
  | archiveIncompatible (c : ClientConfig)
  /-- `start_or_resume_with_mode`, for a host that is known or for a new one. -/
  | start (c : ClientConfig) (host : Option HostIdentity) (mode : PairMode)
  /-- `activate_pending_with_code` -/
  | activate (c : ClientConfig) (generation requestId : Uuid) (code : String)
  /-- `poll_existing` -/
  | poll (c : ClientConfig)
  | sleep (seconds : Nat)
  /-- `commit_active_configuration` -/
  | commitActive (basis : Basis) (c : ClientConfig) (generation requestId instanceId : Uuid) (endpoint : String)
  /-- `persist_durable_config` -/
  | persist (basis : Basis) (c : ClientConfig)

/-- What is answered. -/
abbrev Reply : Call → Type
  | .clock => Nat
  | .configExists => Except Failure Bool
  | .load => Except Failure ClientConfig
  | .loadFile _ => Except Failure ClientConfig
  | .prompt _ => Except Failure String
  | .stdinDocument => Except Failure PairInput
  | .editJson _ => Except Failure ClientConfig
  | .validate _ => Except Failure Unit
  | .acquire _ => Except Failure Unit
  | .release _ => Unit
  | .localStatus _ => Except Error LocalPairingStatus
  | .localAuthState _ => Except Error (Option CredentialAuthorization)
  | .queue _ => Except Failure Value
  | .loadHostIdentity _ => Except Error HostIdentity
  | .clientIdentity _ => Except Failure String
  | .archiveIncompatible _ => Except Error Unit
  | .start _ _ _ => Awaited (Except Error PairingSession)
  | .activate _ _ _ _ => Awaited (Except Error Unit)
  | .poll _ => Awaited (Except Error (Option PairingProgress))
  | .sleep _ => Awaited Unit
  | .commitActive _ _ _ _ _ _ => Except Error Unit
  | .persist _ _ => Except Failure Unit

abbrev Script (α : Type) := Op Call Reply Failure α

def ask (c : Call) : Script (Reply c) := Op.ask c

/-- The guard is held until the end, whatever it is. -/
def guarded {α : Type} (stateDir : PathBuf) (body : Script α) : Script α := do
  let held : Except Failure Unit ← ask (.acquire stateDir)
  Op.ofExcept held
  body.after (Script.call (.release stateDir) fun _ => .ret ())

/-! ## Pairing -/

section

variable (storageError : Error → Failure) (missingOption : String → Failure)
  (validateServerBase : String → Except Failure String) (validateActivationCode : String → Except Failure Unit)

def pairingStateError (error : Error) : Failure := (pairingStateFailure error).getD (storageError error)

/-- `words.get(1) == word` -/
def isMode (args : Args) (word : String) : Bool := args.words[1]? == some word

def require (args : Args) (name : String) : Except Failure String :=
  match args.get name with
  | some value => .ok value
  | none => .error (missingOption name)

def promptServer (args : Args) : Script String :=
  match args.get "--server" with
  | some server => pure server
  | none => do
    let server : Except Failure String ← ask (.prompt "Server origin")
    Op.ofExcept server

def pairInput (args : Args) : Script (Option PairInput) :=
  if isMode args "resume" then pure none
  else if args.has "--input-stdin" then do
    let input : Except Failure PairInput ← ask .stdinDocument
    let input ← Op.ofExcept input
    pure (some input)
  else if args.has "--interactive" then do
    let server ← promptServer args
    let code : Except Failure String ← ask (.prompt "Authorization code (visible)")
    let code ← Op.ofExcept code
    pure (some ⟨server, code⟩)
  else Op.throw (fail 2 "protected_input_required")

/-- The configuration goes to the server of the input. -/
def withInput (args : Args) (c : ClientConfig) : Option PairInput → Except Failure ClientConfig
  | none => .ok c
  | some i => do
    if (args.get "--server").any (· ≠ i.server) then throw (fail 2 "server_input_mismatch")
    let server ← validateServerBase i.server
    validateActivationCode i.authorizationCode
    return { c with endpoint := server ++ clientReportPath,
                    pairingEndpoint := some (server ++ clientPairingRequestsPath) }

def queueEmpty (queue : Value) : Bool :=
  asI64 (queue.field "pending_batches") == some 0 && asI64 (queue.field "quarantined") == some 0

def checkQueueEmpty (c : ClientConfig) : Script Unit := do
  let queue : Except Failure Value ← ask (.queue c)
  let queue ← Op.ofExcept queue
  if queueEmpty queue then pure () else Op.throw (fail 5 "old_binding_queue_not_empty")

def checkedQueue (c : ClientConfig) : Script Unit := do
  let status : Except Failure Value ← ask (.queue c)
  let status ← Op.ofExcept status
  if isBool false (status.field "healthy") then
    Op.throw (importantStateError (some [("pending", status.field "pending_batches"),
      ("quarantined", status.field "quarantined"), ("identity_mismatch", status.field "identity_mismatch")]))
  else pure ()

def incompatible {α : Type} : Except Error α → Bool
  | .error error => (pairingStateFailure error).isSome
  | .ok _ => false

/-- What there is; a state that cannot be read is set aside to recover. -/
def existingPairing (args : Args) (c : ClientConfig) : Script LocalPairingStatus := do
  let pairingStatus : Except Error LocalPairingStatus ← ask (.localStatus c)
  let authorizationStatus : Except Error (Option CredentialAuthorization) ← ask (.localAuthState c)
  if isMode args "recover" && (incompatible pairingStatus || incompatible authorizationStatus) then do
    checkedQueue c
    let host : Except Error HostIdentity ← ask (.loadHostIdentity c)
    let _ ← Op.ofExcept (host.mapError (pairingStateError storageError))
    let archived : Except Error Unit ← ask (.archiveIncompatible c)
    Op.ofExcept (archived.mapError (pairingStateError storageError))
    pure ⟨none, none⟩
  else do
    let _ ← Op.ofExcept (authorizationStatus.mapError (pairingStateError storageError))
    Op.ofExcept (pairingStatus.mapError (pairingStateError storageError))

def checkExisting (args : Args) (existing : LocalPairingStatus) : Except Failure Unit :=
  if isMode args "resume" && existing.progress.isNone then .error (fail 4 "no_pairing_transaction")
  else if existing.activeReportEndpoint.isSome && !isMode args "resume" && !isMode args "replace" &&
      !isMode args "recover" then .error (fail 5 "binding_already_active_use_pair_replace")
  else .ok ()

/-- A binding is replaced when the user has named it, and nothing waits to be sent for it. -/
def confirmReplace (args : Args) (c : ClientConfig) : Script ClientConfig :=
  if isMode args "replace" then
    if args.has "--confirm-replace" then do
      let expected ← Op.ofExcept (require missingOption args "--expected-binding")
      let binding : Except Failure String ← ask (.clientIdentity c)
      let binding ← Op.ofExcept binding
      if expected ≠ binding then Op.throw (fail 2 "binding_confirmation_required")
      else do
        checkQueueEmpty c
        pure { c with replacePendingPairing := true }
    else Op.throw (fail 2 "binding_confirmation_required")
  else pure c

/-- What time or the user cuts short may be resumed. -/
def await {α : Type} (awaited : Awaited α) : Script α :=
  match awaited with
  | .done a => pure a
  | .timedOut => Op.throw (fail 9 "pairing_result_unconfirmed")
  | .interrupted => Op.throw (fail 130 "interrupted_resume_required")

/-- A host that is known is recovered, else it is a new one. -/
def requestedHost (args : Args) (c : ClientConfig) : Script (Option HostIdentity) :=
  if isMode args "recover" then do
    let host : Except Error HostIdentity ← ask (.loadHostIdentity c)
    let host ← Op.ofExcept (host.mapError storageError)
    pure (some host)
  else pure none

def requestedMode (args : Args) : PairMode := if isMode args "recover" then .recoverIdentity else .fresh

/-- The request is authorized. -/
def activateRequest (c : ClientConfig) (session : PairingSession) : Option PairInput → Script Unit
  | none => pure ()
  | some i => do
    let awaited : Awaited (Except Error Unit) ←
      ask (.activate c session.generation session.requestId i.authorizationCode)
    let activated ← await awaited
    Op.ofExcept (activated.mapError fun e => pairingFailure e 9 "activation_result_unconfirmed")

def createRequest (args : Args) (c : ClientConfig) (input : Option PairInput) : Script Unit := do
  let host ← requestedHost storageError args c
  let awaited : Awaited (Except Error PairingSession) ← ask (.start c host (requestedMode args))
  let session ← await awaited
  let session ← Op.ofExcept (session.mapError fun e => pairingFailure e 6 "pairing_create_unconfirmed")
  activateRequest c session input

/-- The configuration of an active binding is committed. -/
def commitActive (basis : Basis) (c : ClientConfig) (generation requestId instanceId : Uuid) (endpoint : String) :
    Script Value := do
  let committed : Except Error Unit ← ask (.commitActive basis c generation requestId instanceId endpoint)
  Op.ofExcept (committed.mapError fun _ =>
    ⟨11, "binding_committed_configuration_unconfirmed", true, some requestId.toString, none, none⟩)
  pure (.object [("committed", .bool true), ("generation", .string generation.toString),
    ("transaction_id", .string requestId.toString), ("instance_id", .string instanceId.toString),
    ("endpoint", .string endpoint)])

/-- The request is polled, so often as there is time for. -/
def pollRequest (basis : Basis) (c : ClientConfig) : Nat → Script Value
  | 0 => Op.throw (fail 9 "pairing_result_unconfirmed")
  | n + 1 => do
    let awaited : Awaited (Except Error (Option PairingProgress)) ← ask (.poll c)
    let progress ← await awaited
    let progress ← Op.ofExcept (progress.mapError fun e => pairingFailure e 6 "pairing_query_unavailable")
    match progress with
    | none => Op.throw (fail 8 "pairing_transaction_missing")
    | some (.active generation requestId instanceId endpoint) =>
      commitActive basis c generation requestId instanceId endpoint
    | some (.waiting session) => do
      let awaited : Awaited Unit ← ask (.sleep session.pollInterval)
      await awaited
      pollRequest basis c n
    | some (.creating _ _) => pollRequest basis c n
    | some (.denied _ _ _) => Op.throw (fail 7 "pairing_rejected")
    | some (.expired _ _ _) => Op.throw (fail 7 "pairing_expired")

def transactionOf : PairingProgress → Uuid
  | .creating generation _ => generation
  | .waiting session => session.requestId
  | .active _ requestId _ _ => requestId
  | .denied _ requestId _ => requestId
  | .expired _ requestId _ => requestId

/-- A failure tells which transaction is pending. -/
def attachTransaction (c : ClientConfig) (error : Failure) : Script Value :=
  if error.transactionId.isNone then do
    let saved : Except Error LocalPairingStatus ← ask (.localStatus c)
    match saved with
    | .ok ⟨some progress, _⟩ => Op.throw { error with transactionId := some (transactionOf progress).toString }
    | _ => Op.throw error
  else Op.throw error

/-- A new binding is not for what an old one has left. -/
def checkNewBinding (args : Args) (c : ClientConfig) : Script Unit :=
  if !isMode args "resume" && !isMode args "recover" then checkQueueEmpty c else pure ()

def beginRequest (args : Args) (c : ClientConfig) (input : Option PairInput) : Script Unit :=
  if isMode args "resume" then pure () else createRequest storageError args c input

/-- To recover, a request that is pending is replaced. -/
def operationConfig (args : Args) (c : ClientConfig) : ClientConfig :=
  if isMode args "recover" then { c with replacePendingPairing := true } else c

/-- What may be cut short. -/
def operation (args : Args) (basis : Basis) (c : ClientConfig) (input : Option PairInput) (patience : Nat) :
    Script Value := do
  beginRequest storageError args c input
  pollRequest basis c patience

/-- What is done under the guard. -/
def pairGuarded (args : Args) (basis : Basis) (c : ClientConfig) (input : Option PairInput)
    (deadline patience : Nat) : Script Value := do
  let existing ← existingPairing storageError args c
  Op.ofExcept (checkExisting args existing)
  let c ← confirmReplace missingOption args c
  checkNewBinding args c
  let now ← ask .clock
  if now < deadline then
    (operation storageError args basis (operationConfig args c) input patience).handle (attachTransaction c)
  else Op.throw (fail 9 "pairing_result_unconfirmed")

/-- `pair`, with the configuration that is stored or a new one. -/
def pair (args : Args) (loaded : Option ClientConfig) (newConfig : ClientConfig) (patience : Nat) : Script Value := do
  let c := loaded.getD newConfig
  let start ← ask .clock
  let valid : Except Failure Unit ← ask (.validate c)
  Op.ofExcept (valid.mapError fun _ => fail 2 "invalid_configuration")
  if isMode args "resume" && (args.has "--input-stdin" || args.has "--interactive" || args.has "--server") then
    Op.throw (fail 2 "resume_uses_existing_transaction")
  else do
    let input ← pairInput args
    let c ← Op.ofExcept (withInput validateServerBase validateActivationCode args c input)
    guarded c.stateDir
      (pairGuarded storageError missingOption args (.paired loaded) c input (start + args.timeout) patience)

def loadOrNew (args : Args) : Script (Option ClientConfig) := do
  let there : Except Failure Bool ← ask .configExists
  let there ← Op.ofExcept there
  if there || args.has "--config" then do
    let loaded : Except Failure ClientConfig ← ask .load
    let loaded ← Op.ofExcept loaded
    pure (some loaded)
  else pure none

def pairCommand (args : Args) (newConfig : ClientConfig) (patience : Nat) : Script Value := do
  let loaded ← loadOrNew args
  pair storageError missingOption validateServerBase validateActivationCode args loaded newConfig patience

end

/-! ## The configuration -/

section

variable (storageError : Error → Failure) (missingOption : String → Failure)
  (validateServerBase : String → Except Failure String) (revisionOf : ClientConfig → Except Failure String)

def load : Script ClientConfig := do
  let loaded : Except Failure ClientConfig ← ask .load
  Op.ofExcept loaded

def validate (c : ClientConfig) : Script Unit := do
  let valid : Except Failure Unit ← ask (.validate c)
  Op.ofExcept valid

def persist (basis : Basis) (c : ClientConfig) : Script Unit := do
  let persisted : Except Failure Unit ← ask (.persist basis c)
  Op.ofExcept persisted

def localStatus (c : ClientConfig) : Script LocalPairingStatus := do
  let status : Except Error LocalPairingStatus ← ask (.localStatus c)
  Op.ofExcept (status.mapError (pairingStateError storageError))

/-- The server of a client that is paired, or about to be, stays. -/
def checkServer (existing : LocalPairingStatus) (current candidate : ClientConfig) : Except Failure Unit :=
  if (existing.activeReportEndpoint.isSome || existing.progress.isSome) &&
      (candidate.endpoint != current.endpoint || candidate.pairingEndpoint != current.pairingEndpoint) then
    .error (fail 5 "server_change_requires_pair_replace")
  else .ok ()

def checkStateDir (current candidate : ClientConfig) : Except Failure Unit :=
  if candidate.stateDir ≠ current.stateDir then .error (fail 2 "state_directory_migration_required") else .ok ()

def committedResult (stored : String) (restart : List (String × Value)) : Value :=
  .object ([("committed", .bool true), ("stored_revision", .string stored)] ++ restart)

def initialConfig (args : Args) (newConfig : ClientConfig) : Script ClientConfig :=
  if args.has "--interactive" then do
    let server : Except Failure String ← ask (.prompt "Server origin")
    let server ← Op.ofExcept server
    let server ← Op.ofExcept (validateServerBase server)
    pure { newConfig with endpoint := server ++ clientReportPath }
  else pure newConfig

def configInit (args : Args) (newConfig : ClientConfig) : Script Value := do
  let there : Except Failure Bool ← ask .configExists
  let there ← Op.ofExcept there
  if there then Op.throw (fail 5 "configuration_already_exists")
  else do
    let c ← initialConfig validateServerBase args newConfig
    validate c
    guarded c.stateDir do
      persist .created c
      let stored ← Op.ofExcept (revisionOf c)
      pure (committedResult stored [])

def configEdit : Script Value := do
  let current ← load
  let before ← Op.ofExcept (revisionOf current)
  let candidate : Except Failure ClientConfig ← ask (.editJson current)
  let candidate ← Op.ofExcept candidate
  validate candidate
  Op.ofExcept (checkStateDir current candidate)
  let existing ← localStatus storageError current
  Op.ofExcept (checkServer existing current candidate)
  guarded current.stateDir do
    let reloaded ← load
    let now ← Op.ofExcept (revisionOf reloaded)
    if now ≠ before then Op.throw (fail 5 "revision_conflict")
    else do
      persist (.edited current existing) candidate
      let stored ← Op.ofExcept (revisionOf candidate)
      pure (committedResult stored [("previous_revision", .string before), ("effective_revision", .null),
        ("restart_required", .bool true)])

def configApply (args : Args) : Script Value := do
  let file ← Op.ofExcept (require missingOption args "--file")
  let candidate : Except Failure ClientConfig ← ask (.loadFile file)
  let candidate ← Op.ofExcept candidate
  validate candidate
  let first ← load
  guarded first.stateDir do
    let current ← load
    Op.ofExcept (checkStateDir current candidate)
    let existing ← localStatus storageError current
    Op.ofExcept (checkServer existing current candidate)
    let before ← Op.ofExcept (revisionOf current)
    let after ← Op.ofExcept (revisionOf candidate)
    let expected ← Op.ofExcept (require missingOption args "--expected-revision")
    if expected ≠ before then Op.throw (fail 5 "revision_conflict")
    else do
      persist (.applied expected) candidate
      pure (committedResult after [("effective_revision", .null), ("restart_required", .bool true)])

end

/-! ## Kinds of calls -/

/-- It changes nothing. -/
def Call.looks : Call → Bool
  | .acquire _ | .release _ | .archiveIncompatible _ | .start _ _ _ | .activate _ _ _ _ | .poll _
  | .commitActive _ _ _ _ _ _ | .persist _ _ => false
  | _ => true

/-- It is no part of a pairing that goes on, and leaves the lock and the configuration. -/
def Call.idle : Call → Bool
  | .acquire _ | .release _ | .start _ _ _ | .activate _ _ _ _ | .poll _ | .commitActive _ _ _ _ _ _ | .persist _ _ =>
    false
  | _ => true

/-- It changes the state of pairing at most. -/
def Call.calm : Call → Bool
  | .acquire _ | .release _ | .commitActive _ _ _ _ _ _ | .persist _ _ => false
  | _ => true

theorem idle_of_looks (c : Call) (h : c.looks = true) : c.idle = true := by
  cases c with
  | acquire | release | start | activate | poll | commitActive | persist => cases h
  | _ => rfl

theorem calm_of_idle (c : Call) (h : c.idle = true) : c.calm = true := by
  cases c with
  | acquire | release | commitActive | persist => cases h
  | _ => rfl

section

variable {storageError : Error → Failure}

theorem only_validate (c : ClientConfig) : (validate c).Only fun c => c.looks = true :=
  Op.only_bind (Op.only_ask rfl) fun _ => Op.only_ofExcept _

theorem only_await {α : Type} {kind : Call → Prop} (awaited : Awaited α) : (await awaited).Only kind := by
  cases awaited with
  | done a => exact Op.only_pure a
  | timedOut => exact Op.only_throw _
  | interrupted => exact Op.only_throw _

theorem only_checkQueueEmpty (c : ClientConfig) : (checkQueueEmpty c).Only fun c => c.looks = true := by
  unfold checkQueueEmpty
  refine Op.only_bind (Op.only_ask rfl) fun _ => Op.only_bind (Op.only_ofExcept _) fun queue => ?_
  split
  · exact Op.only_pure _
  · exact Op.only_throw _

theorem only_promptServer (args : Args) : (promptServer args).Only fun c => c.looks = true := by
  unfold promptServer
  split
  · exact Op.only_pure _
  · exact Op.only_bind (Op.only_ask rfl) fun _ => Op.only_ofExcept _

theorem only_pairInput (args : Args) : (pairInput args).Only fun c => c.looks = true := by
  unfold pairInput
  split
  · exact Op.only_pure _
  · split
    · exact Op.only_bind (Op.only_ask rfl) fun _ => Op.only_bind (Op.only_ofExcept _) fun _ => Op.only_pure _
    · split
      · exact Op.only_bind (only_promptServer args) fun server => Op.only_bind (Op.only_ask rfl) fun _ =>
          Op.only_bind (Op.only_ofExcept _) fun _ => Op.only_pure _
      · exact Op.only_throw _

theorem only_checkedQueue (c : ClientConfig) : (checkedQueue c).Only fun c => c.idle = true := by
  unfold checkedQueue
  refine Op.only_bind (Op.only_ask rfl) fun _ => Op.only_bind (Op.only_ofExcept _) fun status => ?_
  split
  · exact Op.only_throw _
  · exact Op.only_pure _

theorem only_existingPairing (args : Args) (c : ClientConfig) :
    (existingPairing storageError args c).Only fun c => c.idle = true := by
  unfold existingPairing
  refine Op.only_bind (Op.only_ask rfl) fun pairingStatus => Op.only_bind
    (Op.only_ask rfl) fun authorizationStatus => ?_
  split
  · refine Op.only_bind (only_checkedQueue c) fun _ => Op.only_bind (Op.only_ask rfl) fun host => ?_
    refine Op.only_bind (Op.only_ofExcept _) fun _ => Op.only_bind (Op.only_ask rfl) fun archived => ?_
    exact Op.only_bind (Op.only_ofExcept _) fun _ => Op.only_pure _
  · exact Op.only_bind (Op.only_ofExcept _) fun _ => Op.only_ofExcept _

theorem only_activateRequest (c : ClientConfig) (session : PairingSession) (input : Option PairInput) :
    (activateRequest c session input).Only fun c => c.calm = true := by
  cases input with
  | none => exact Op.only_pure _
  | some i => exact Op.only_bind (Op.only_ask rfl) fun _ => Op.only_bind (only_await _) fun _ => Op.only_ofExcept _

theorem only_beginRequest (args : Args) (c : ClientConfig) (input : Option PairInput) :
    (beginRequest storageError args c input).Only fun c => c.calm = true := by
  unfold beginRequest createRequest requestedHost
  split
  · exact Op.only_pure _
  · refine Op.only_bind ?_ fun host => Op.only_bind (Op.only_ask rfl) fun _ => Op.only_bind (only_await _) fun _ =>
      Op.only_bind (Op.only_ofExcept _) fun session => only_activateRequest c session input
    split
    · exact Op.only_bind (Op.only_ask rfl) fun _ => Op.only_bind (Op.only_ofExcept _) fun _ => Op.only_pure _
    · exact Op.only_pure _

end

end Administration

end Xsoc
