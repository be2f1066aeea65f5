import Xsoc.Config
import Xsoc.Json

/-!
# Stored pairing state

The journal of a browser pairing and the records beside it, with the documents they are stored as.

* `StoredPairingState` : the journal, one record a phase; `ActiveBinding`, `LocalAuthState` : the two other documents;
* `Document`, `decodePairingDocument` : what `serde_json` finds in a file, and the version check made on it;
* `StoredPairingState.render`, `ActiveBinding.render`, `LocalAuthState.render` : the texts that are written.
-/

set_option autoImplicit false

namespace Xsoc

/-! ## Times -/

/-- `DateTime<Utc>`: nanoseconds since the epoch. -/
abbrev DateTime : Type := Int

/-- The last second that `chrono` can represent. -/
def DateTime.maxSecond : Int := 8210266876799

/-- `checked_add_signed` of a number of seconds. -/
def DateTime.checkedAddSeconds (t : DateTime) (seconds : Nat) : Option DateTime :=
  if t + seconds * 1000000000 < (DateTime.maxSecond + 1) * 1000000000 then some (t + seconds * 1000000000) else none

/-- The text of a time: printable ASCII, without quotes or backslashes, at most 35 characters. -/
structure Stamp where
  chars : List Char
  plain : ∀ c ∈ chars, Json.plain c = true
  short : chars.length ≤ 35

/-- How the documents render what other crates serialise. -/
structure Serde where
  /-- RFC 3339, as `chrono` writes it. -/
  rfc3339 : DateTime → Stamp
  /-- A time in a message. -/
  display : DateTime → String
  /-- The `host` object of a `Creating` journal, indented. -/
  host : List String → List (Option String) → List Char

/-! ## Records -/

/-- The marker of the stored format; it has one value. -/
inductive PairingStateVersion
  | current
  deriving DecidableEq, Repr

/-- The format that is written and the only one that is read. -/
def persistedStateFormat : String := "1.0.0"

structure HostIdentity where
  id : String
  os : String
  osVersion : Option String
  kernelVersion : Option String
  arch : String
  clientVersion : String
  deriving DecidableEq

/-- The secrets and the request, durable before the first POST. -/
structure Creating where
  version : PairingStateVersion
  generation : Uuid
  pairingEndpoint : String
  reportEndpoint : String
  host : HostIdentity
  bearerSecret : String
  pollingSecret : String
  deriving DecidableEq

/-- The server knows the request. -/
structure Pending where
  version : PairingStateVersion
  generation : Uuid
  requestId : Uuid
  activationUrl : String
  expiresAt : DateTime
  pollInterval : Nat
  pairingEndpoint : String
  reportEndpoint : String
  bearerSecret : String
  pollingSecret : String
  deriving DecidableEq

/-- The commit journal: the token, identity and endpoint it names are being put in place. -/
structure Activating where
  version : PairingStateVersion
  generation : Uuid
  requestId : Uuid
  activationUrl : String
  expiresAt : DateTime
  pollInterval : Nat
  instanceId : Uuid
  pairingEndpoint : String
  reportEndpoint : String
  bearerSecret : String
  deriving DecidableEq

structure Active where
  version : PairingStateVersion
  generation : Uuid
  requestId : Uuid
  activationUrl : String
  instanceId : Uuid
  reportEndpoint : String
  completedAt : DateTime
  deriving DecidableEq

/-- What is kept of a request that the server denied, or that expired. -/
structure Ended where
  version : PairingStateVersion
  generation : Uuid
  requestId : Uuid
  activationUrl : String
  reportEndpoint : String
  completedAt : DateTime
  deriving DecidableEq

inductive StoredPairingState
  | creating (c : Creating)
  | pending (p : Pending)
  | activating (j : Activating)
  | active (a : Active)
  | denied (e : Ended)
  | expired (e : Ended)
  deriving DecidableEq

/-- The binding between the current credential generation and its report endpoint. -/
structure ActiveBinding where
  version : PairingStateVersion
  generation : Uuid
  requestId : Uuid
  instanceId : Uuid
  reportEndpoint : String
  deriving DecidableEq

inductive CredentialAuthorization
  | authorized
  | reauthorizationRequired
  deriving DecidableEq, Repr

structure LocalAuthState where
  version : PairingStateVersion
  status : CredentialAuthorization
  reason : String
  changedAt : DateTime
  deriving DecidableEq

structure PairingSession where
  generation : Uuid
  requestId : Uuid
  activationUrl : String
  expiresAt : DateTime
  pollInterval : Nat
  deriving DecidableEq

inductive PairingProgress
  | creating (generation : Uuid) (reportEndpoint : String)
  | waiting (session : PairingSession)
  | active (generation requestId instanceId : Uuid) (reportEndpoint : String)
  | denied (generation requestId : Uuid) (activationUrl : String)
  | expired (generation requestId : Uuid) (activationUrl : String)
  deriving DecidableEq

structure LocalPairingStatus where
  progress : Option PairingProgress
  activeReportEndpoint : Option String
  deriving DecidableEq

namespace StoredPairingState

def version : StoredPairingState → PairingStateVersion
  | creating c => c.version
  | pending p => p.version
  | activating j => j.version
  | active a => a.version
  | denied e => e.version
  | expired e => e.version

def generation : StoredPairingState → Uuid
  | creating c => c.generation
  | pending p => p.generation
  | activating j => j.generation
  | active a => a.generation
  | denied e => e.generation
  | expired e => e.generation

end StoredPairingState

def Pending.session (p : Pending) : PairingSession :=
  ⟨p.generation, p.requestId, p.activationUrl, p.expiresAt, p.pollInterval⟩

/-- `session_from_activating`. -/
def Activating.session (j : Activating) : PairingSession :=
  ⟨j.generation, j.requestId, j.activationUrl, j.expiresAt, j.pollInterval⟩

/-- `progress_from_terminal`. -/
def progressFromTerminal : StoredPairingState → PairingProgress
  | .creating c => .creating c.generation c.reportEndpoint
  | .pending p => .waiting p.session
  | .activating j => .creating j.generation j.reportEndpoint
  | .active a => .active a.generation a.requestId a.instanceId a.reportEndpoint
  | .denied e => .denied e.generation e.requestId e.activationUrl
  | .expired e => .expired e.generation e.requestId e.activationUrl

/-- `binding_from_active_state`. -/
def Active.binding (a : Active) : ActiveBinding :=
  ⟨a.version, a.generation, a.requestId, a.instanceId, a.reportEndpoint⟩

/-- The binding that the commit of a journal writes. -/
def Activating.binding (j : Activating) : ActiveBinding :=
  ⟨.current, j.generation, j.requestId, j.instanceId, j.reportEndpoint⟩

/-- The `Active` record that ends the commit of a journal. -/
def Activating.active (j : Activating) (completedAt : DateTime) : Active :=
  ⟨.current, j.generation, j.requestId, j.activationUrl, j.instanceId, j.reportEndpoint, completedAt⟩

@[simp] theorem Activating.binding_active (j : Activating) (t : DateTime) : (j.active t).binding = j.binding := rfl

/-! ## Decoding -/

/-- What `serde_json` finds in a file: its `version`, where the file has that header, and the record itself. -/
structure Document (α : Type) where
  /-- `none` without the header, `some none` for a version that is no string. -/
  version : Option (Option String)
  body : Option α
  deriving DecidableEq

variable {α : Type}

/-- The document that a record of the current format is written as. -/
def Document.of (a : α) : Document α := ⟨some (some persistedStateFormat), some a⟩

/-- The characters a foreign version may consist of to be repeated in an error. -/
def isVersionChar (c : Char) : Bool := c.isAlphanum || c = '.' || c = '-' || c = '_'

def decodePairingDocument (artifact : String) (d : Document α) : Except Error α :=
  match d.version with
  | none => .error (corruptPairingState artifact)
  | some none => .error (corruptPairingState artifact)
  | some (some version) =>
    if version ≠ persistedStateFormat then
      let detected :=
        if byteLen version.toList ≤ 64 ∧ version.toList.all isVersionChar then version else "unrecognized"
      .error (.compatibility (.unsupported artifact detected persistedStateFormat))
    else okOr (corruptPairingState artifact) d.body

@[simp] theorem decodePairingDocument_of (artifact : String) (a : α) :
    decodePairingDocument artifact (Document.of a) = .ok a := by
  simp [decodePairingDocument, Document.of]

/-! ## Rendering -/

namespace StoredPairingState

variable (serde : Serde)

/-- The JSON text of a time. -/
def stamp (t : DateTime) : List Char := Json.quote (serde.rfc3339 t).chars

def hostValue (host : HostIdentity) : List Char :=
  serde.host [host.id, host.os, host.arch, host.clientVersion] [host.osVersion, host.kernelVersion]

/-- The fields of a journal, in the order they are declared. -/
def fields : StoredPairingState → List (String × List Char)
  | creating c =>
    [("phase", Json.text "creating"), ("version", Json.text persistedStateFormat),
     ("generation", Json.quote c.generation.text), ("pairing_endpoint", Json.text c.pairingEndpoint),
     ("report_endpoint", Json.text c.reportEndpoint), ("host", hostValue serde c.host),
     ("bearer_secret", Json.text c.bearerSecret), ("polling_secret", Json.text c.pollingSecret)]
  | pending p =>
    [("phase", Json.text "pending"), ("version", Json.text persistedStateFormat),
     ("generation", Json.quote p.generation.text), ("request_id", Json.quote p.requestId.text),
     ("activation_url", Json.text p.activationUrl), ("expires_at", stamp serde p.expiresAt),
     ("poll_interval", Json.number p.pollInterval), ("pairing_endpoint", Json.text p.pairingEndpoint),
     ("report_endpoint", Json.text p.reportEndpoint), ("bearer_secret", Json.text p.bearerSecret),
     ("polling_secret", Json.text p.pollingSecret)]
  | activating j =>
    [("phase", Json.text "activating"), ("version", Json.text persistedStateFormat),
     ("generation", Json.quote j.generation.text), ("request_id", Json.quote j.requestId.text),
     ("activation_url", Json.text j.activationUrl), ("expires_at", stamp serde j.expiresAt),
     ("poll_interval", Json.number j.pollInterval), ("instance_id", Json.quote j.instanceId.text),
     ("pairing_endpoint", Json.text j.pairingEndpoint), ("report_endpoint", Json.text j.reportEndpoint),
     ("bearer_secret", Json.text j.bearerSecret)]
  | active a =>
    [("phase", Json.text "active"), ("version", Json.text persistedStateFormat),
     ("generation", Json.quote a.generation.text), ("request_id", Json.quote a.requestId.text),
     ("activation_url", Json.text a.activationUrl), ("instance_id", Json.quote a.instanceId.text),
     ("report_endpoint", Json.text a.reportEndpoint), ("completed_at", stamp serde a.completedAt)]
  | denied e => ended "denied" e
  | expired e => ended "expired" e
where
  ended (phase : String) (e : Ended) : List (String × List Char) :=
    [("phase", Json.text phase), ("version", Json.text persistedStateFormat),
     ("generation", Json.quote e.generation.text), ("request_id", Json.quote e.requestId.text),
     ("activation_url", Json.text e.activationUrl), ("report_endpoint", Json.text e.reportEndpoint),
     ("completed_at", stamp serde e.completedAt)]

def render (state : StoredPairingState) : List Char := Json.prettyObject (state.fields serde)

/-- The journal file that holds `state`. -/
def file (state : StoredPairingState) : File (Document StoredPairingState) :=
  .of (state.render serde) (.of state)

end StoredPairingState

namespace ActiveBinding

def render (b : ActiveBinding) : List Char :=
  Json.prettyObject
    [("version", Json.text persistedStateFormat), ("generation", Json.quote b.generation.text),
     ("request_id", Json.quote b.requestId.text), ("instance_id", Json.quote b.instanceId.text),
     ("report_endpoint", Json.text b.reportEndpoint)]

def file (b : ActiveBinding) : File (Document ActiveBinding) := .of b.render (.of b)

end ActiveBinding

namespace LocalAuthState

def statusText : CredentialAuthorization → String
  | .authorized => "authorized"
  | .reauthorizationRequired => "reauthorization_required"

def render (serde : Serde) (a : LocalAuthState) : List Char :=
  Json.prettyObject
    [("version", Json.text persistedStateFormat), ("status", Json.text (statusText a.status)),
     ("reason", Json.text a.reason), ("changed_at", StoredPairingState.stamp serde a.changedAt)]

def file (serde : Serde) (a : LocalAuthState) : File (Document LocalAuthState) := .of (a.render serde) (.of a)

end LocalAuthState

end Xsoc
