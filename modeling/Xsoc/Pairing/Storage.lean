import Xsoc.Durable.Program
import Xsoc.Pairing.State

/-!
# The state directory of pairing, and what the client uses of other crates

`Disk` is the state directory. Its transactions are `StateTx`; `PairingOp` is an operation of the client, which
runs transactions, reads without the lock, and posts requests.

* `External` : the crates and platform services the client calls, as parameters;
* `Inputs` : what one transaction draws (clock, entropy), and the I/O error that may cut it short;
* `loadState`, `loadActiveBinding`, `localAuthStateUnlocked` : the readers of the three documents;
* `persistStateUnlocked`, `persistActiveBindingUnlocked`, `persistAuthStateUnlocked` : their writers.
-/

set_option autoImplicit false

namespace Xsoc

open Durable

/-! ## Requests and replies -/

inductive PairMode
  | fresh
  | recoverIdentity
  deriving DecidableEq, Repr

structure CreatePairingRequest where
  mode : PairMode
  host : HostIdentity
  tokenHash : String
  pollingSecretHash : String
  deriving DecidableEq

structure ActivatePairingRequest where
  requestId : String
  activationCode : String
  deriving DecidableEq

/-- A POST of the client. -/
inductive Request
  | create (endpoint : String) (body : CreatePairingRequest)
  | status (endpoint authorization : String)
  | activate (endpoint : String) (body : ActivatePairingRequest)
  deriving DecidableEq

structure HttpResponse where
  status : Nat
  /-- The `Content-Type` header, where it is text. -/
  contentType : Option String
  body : List UInt8
  deriving DecidableEq

/-- What a POST comes back with, and the clock when it does. -/
structure Reply where
  now : DateTime
  response : Except HttpTransportError HttpResponse

structure CreatePairingResponse where
  requestId : Uuid
  activationUrl : String
  expiresIn : Nat
  pollInterval : Nat
  deriving DecidableEq

inductive PairingStatus
  | waiting
  | active
  | denied
  | expired
  deriving DecidableEq, Repr

structure PairingStatusResponse where
  status : PairingStatus
  instanceId : Option Uuid
  deriving DecidableEq

/-- `ActivatePairingResponse`; its status can only be `active`. -/
structure ActivatePairingResponse where
  instanceId : Uuid
  deriving DecidableEq

/-- `xcsc::error::ErrorEnvelope`, with the details the client looks at. -/
structure ErrorEnvelope where
  code : String
  retryable : Bool
  /-- `details.received`, where it is an unsigned integer. -/
  received : Option Nat
  /-- `details.supported`, where it is an array; its entries that are unsigned integers. -/
  supported : List Nat
  /-- `details.request_id`, where it is a string. -/
  requestId : Option String
  deriving DecidableEq

/-! ## The outside of the client -/

/-- The crates and platform services that pairing calls. A decoder is strict: it accepts a whole body or nothing, and
refuses a UUID that is not in canonical form. -/
structure External where
  url : UrlCrate
  serde : Serde
  sha256 : List UInt8 → List UInt8
  createResponse : List UInt8 → Option CreatePairingResponse
  statusResponse : List UInt8 → Option PairingStatusResponse
  activateResponse : List UInt8 → Option ActivatePairingResponse
  errorEnvelope : List UInt8 → Option ErrorEnvelope
  /-- `build_client`: the TLS files the configuration names are there and well formed. -/
  buildClient : ClientConfig → Except Error Unit
  /-- What `host_details` finds out about the platform. -/
  os : String
  osVersion : Option String
  kernelVersion : Option String
  arch : String
  clientVersion : String

/-- Thirty-two bytes of system entropy. -/
structure Entropy where
  bytes : List UInt8
  size : bytes.length = 32

/-- What a transaction draws while it holds the lock. -/
structure Inputs where
  now : DateTime
  changedAt : DateTime
  completedAt : DateTime
  generation : Uuid
  bearer : Entropy
  polling : Entropy
  archiveId : Uuid
  /-- An I/O error, after some number of writes. -/
  fault : Option (Nat × IoError)

/-- The state directory. -/
structure Disk where
  /-- `host-id`, and its text where it is UTF-8. -/
  identity : File (Option String)
  /-- `client-token`, and its text where it is UTF-8. -/
  credential : File (Option String)
  pairing : File (Document StoredPairingState)
  authorization : File (Document LocalAuthState)
  binding : File (Document ActiveBinding)
  /-- The archived copies: name and bytes, newest first. -/
  archives : List (String × List UInt8)
  deriving DecidableEq

def Disk.empty : Disk := ⟨.absent, .absent, .absent, .absent, .absent, []⟩

abbrev StateTx (α : Type) : Type := Tx Disk Error α

abbrev PairingOp (α : Type) : Type := Op Disk Inputs Request Reply Error α

/-- `lock_state`, and the rest of the block that holds the transaction. -/
def transaction {α : Type} (t : Inputs → StateTx α) : PairingOp α :=
  Op.lock (fun i => (t i).failing (i.fault.map (Prod.map id Error.io)))

/-! ## Reading -/

def validateStateVersion (version : PairingStateVersion) : Except Error Unit :=
  check (version = .current) (.message "pairing state does not belong to the current Client package")

def loadState (f : File (Document StoredPairingState)) : Except Error (Option StoredPairingState) :=
  match f.read with
  | .error .notFound => .ok none
  | .error e => .error (.context "failed to read pairing state pairing-state.json" (.io e))
  | .ok contents => do
    let state ← decodePairingDocument "pairing-state" contents.reading
    validateStateVersion state.version
    check (state.generation.isNil = false) (corruptPairingState "pairing-state")
    .ok (some state)

def validateActiveBinding (url : UrlCrate) (binding : ActiveBinding) : Except Error Unit := do
  validateStateVersion binding.version
  check (binding.generation.isNil = false ∧ binding.requestId.isNil = false ∧ binding.instanceId.isNil = false)
    (.message "active binding contains a nil UUID")
  withContext "active binding report endpoint is unsafe" (validateEndpoint url binding.reportEndpoint)

def loadActiveBinding (url : UrlCrate) (f : File (Document ActiveBinding)) : Except Error (Option ActiveBinding) :=
  match f.read with
  | .error .notFound => .ok none
  | .error e => .error (.context "failed to read active binding active-binding.json" (.io e))
  | .ok contents => do
    let binding ← decodePairingDocument "active-binding" contents.reading
    (validateActiveBinding url binding).mapError (fun _ => corruptPairingState "active-binding")
    .ok (some binding)

/-- `local_auth_state_unlocked`. -/
def localAuthStateUnlocked (f : File (Document LocalAuthState)) : Except Error (Option LocalAuthState) :=
  match f.read with
  | .error .notFound => .ok none
  | .error e => .error (.context "failed to read auth-state.json" (.io e))
  | .ok contents => (decodePairingDocument "authorization-state" contents.reading).map some

/-- The authorization file says `authorized`: the guard `is_none_or(|state| state.status != Authorized)`, negated. -/
def isAuthorized (auth : Option LocalAuthState) : Bool := auth.any (fun a => a.status = .authorized)

/-! ## Writing -/

/-- `StateTransaction::write`. -/
def writeFile (file : StateFile) (value : List Char) (put : Disk → Disk) : StateTx Unit := do
  Tx.ensure (fits file value) (.io .invalidInput)
  Tx.write put

def putPairing (serde : Serde) (state : StoredPairingState) (d : Disk) : Disk :=
  { d with pairing := state.file serde }

def putBinding (binding : ActiveBinding) (d : Disk) : Disk := { d with binding := binding.file }

def putAuth (serde : Serde) (auth : LocalAuthState) (d : Disk) : Disk :=
  { d with authorization := auth.file serde }

def putCredential (token : String) (d : Disk) : Disk :=
  { d with credential := .of token.toList (some (String.ofList (trim token.toList))) }

def putIdentity (instance_ : Uuid) (d : Disk) : Disk :=
  { d with identity := .of instance_.text (some instance_.toString) }

section

variable (ext : External)

/-- `persist_state_unlocked`: serialised into a bounded secret buffer first. -/
def persistStateUnlocked (state : StoredPairingState) : StateTx Unit := do
  Tx.ensure (byteLen (state.render ext.serde) ≤ StateFile.maxBytes .pairing)
    (.message "serialized secret exceeds its byte budget")
  Tx.mapError (.context "failed to persist browser pairing state")
    (writeFile .pairing (state.render ext.serde) (putPairing ext.serde state))

/-- `persist_active_binding_unlocked`. -/
def persistActiveBindingUnlocked (binding : ActiveBinding) : StateTx Unit := do
  Tx.ofExcept (validateActiveBinding ext.url binding)
  Tx.mapError (.context "failed to persist active binding") (writeFile .binding binding.render (putBinding binding))

/-- `persist_auth_state_unlocked`. -/
def persistAuthStateUnlocked (auth : LocalAuthState) : StateTx Unit :=
  Tx.mapError (.context "failed to persist authorization state")
    (writeFile .authorization (auth.render ext.serde) (putAuth ext.serde auth))

/-- The error of a binding that is not the one of the `Active` journal. -/
def activeBindingMismatch : Error :=
  .context "active binding does not match the current Active pairing state" (corruptPairingState "active-binding")

/-- The error of an `Active` journal without a binding. -/
def activeBindingMissing : Error :=
  .context "active binding is missing; pair xsoc again" (corruptPairingState "active-binding")

/-- `load_current_active_binding_unlocked`. -/
def loadCurrentActiveBinding (f : File (Document ActiveBinding)) (expected : ActiveBinding) :
    Except Error ActiveBinding := do
  match ← loadActiveBinding ext.url f with
  | some binding =>
    if binding = expected then .ok binding
    else .error activeBindingMismatch
  | none => .error activeBindingMissing

/-- The comparison of `ensure_pending_is_current`. -/
def isCurrentPending (current : Option StoredPairingState) (generation requestId : Uuid)
    (pairingEndpoint reportEndpoint pollingSecret : String) : Bool :=
  match current with
  | some (.pending p) =>
    p.generation = generation && p.requestId = requestId && p.pairingEndpoint = pairingEndpoint &&
      p.reportEndpoint = reportEndpoint && p.pollingSecret = pollingSecret
  | _ => false

/-- `ensure_pending_is_current`. -/
def ensurePendingIsCurrent (generation requestId : Uuid) (pairingEndpoint reportEndpoint pollingSecret : String) :
    StateTx Unit := do
  let current ← Tx.read (fun d => loadState d.pairing)
  Tx.ensure (isCurrentPending current generation requestId pairingEndpoint reportEndpoint pollingSecret = true)
    .superseded

/-- `compare_and_persist_creating`, under the lock it takes. -/
def compareAndPersistCreating (generation : Uuid) (pairingEndpoint reportEndpoint pollingSecret : String)
    (next : StoredPairingState) : StateTx Unit := do
  match ← Tx.read (fun d => loadState d.pairing) with
  | some (.creating c) =>
    Tx.ensure (c.generation = generation ∧ c.pairingEndpoint = pairingEndpoint ∧
      c.reportEndpoint = reportEndpoint ∧ c.pollingSecret = pollingSecret) .superseded
    persistStateUnlocked ext next
  | _ => Tx.throw .superseded

/-- `compare_and_persist_pending`, under the lock it takes. -/
def compareAndPersistPending (generation requestId : Uuid) (pairingEndpoint reportEndpoint pollingSecret : String)
    (next : StoredPairingState) : StateTx Unit := do
  ensurePendingIsCurrent generation requestId pairingEndpoint reportEndpoint pollingSecret
  persistStateUnlocked ext next

/-! ## Archiving -/

/-- The directory without one of the files that are archived; the identity stays. -/
def Disk.clear (d : Disk) : StateFile → Disk
  | .pairing => { d with pairing := .absent }
  | .authorization => { d with authorization := .absent }
  | .binding => { d with binding := .absent }
  | .credential => { d with credential := .absent }
  | .identity => d

def archiveName (file : StateFile) (archiveId : Uuid) : String :=
  file.name ++ ".incompatible-" ++ String.ofList archiveId.simple

/-- `StateTransaction::archive`: a copy under a fresh name, then the removal of the file. -/
def archiveFile {α : Type} (file : StateFile) (get : Disk → File α) (archiveId : Uuid) : StateTx (Option String) := do
  let name := archiveName file archiveId
  match ← Tx.read (fun d => .ok (get d).read) with
  | .error .notFound => pure none
  | .error e => Tx.throw (.context ("failed to archive incompatible " ++ file.name) (.io e))
  | .ok contents => do
    let taken ← Tx.read (fun d => .ok (d.archives.any (fun a => a.1 == name)))
    Tx.ensure (taken = false) (.context ("failed to archive incompatible " ++ file.name) (.io .alreadyExists))
    Tx.write (fun d => { d with archives := (name, contents.bytes) :: d.archives })
    Tx.write (fun d => d.clear file)
    pure (some name)

/-- `archive_incompatible_account_state`: the journal first, the token last. -/
def archiveIncompatibleAccountState (i : Inputs) : StateTx (List String) := do
  let p ← archiveFile .pairing Disk.pairing i.archiveId
  let a ← archiveFile .authorization Disk.authorization i.archiveId
  let b ← archiveFile .binding Disk.binding i.archiveId
  let c ← archiveFile .credential Disk.credential i.archiveId
  pure ([p, a, b, c].filterMap id)

end

end Xsoc
