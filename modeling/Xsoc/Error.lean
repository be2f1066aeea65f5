import Xsoc.StateStore

/-!
# Errors

The errors the client fails with, and how it tells them apart: a context added on the way up keeps the error it
wraps, so a `downcast` looks through contexts.

* `PairingHttpError.transactionEndedFor` : the server's word that one pairing request is over;
* `Error.http`, `Error.io` : the downcasts the client makes.
-/

set_option autoImplicit false

namespace Xsoc

inductive PairingHttpOperation
  | create
  | activate
  | poll
  deriving DecidableEq, Repr

/-- An HTTP rejection, as distinct from a transport failure with an uncertain result. -/
structure PairingHttpError where
  operation : PairingHttpOperation
  status : Nat
  code : Option String
  received : Option Nat
  supported : List Nat
  /-- Present only for a dedicated, well-formed transaction error envelope. -/
  requestId : Option Uuid
  deriving DecidableEq

namespace PairingHttpError

def transactionMissing (e : PairingHttpError) : Bool :=
  (e.operation = .activate || e.operation = .poll) && e.status = 404 &&
    e.code = some "pairing_transaction_not_found" && e.requestId.isSome

def transactionExpired (e : PairingHttpError) : Bool :=
  (e.operation = .activate || e.operation = .poll) && e.status = 410 &&
    e.code = some "pairing_transaction_expired" && e.requestId.isSome

def transactionEndedFor (e : PairingHttpError) (expectedRequestId : Uuid) : Bool :=
  (e.transactionMissing || e.transactionExpired) && e.requestId = some expectedRequestId

end PairingHttpError

inductive PairingStateCompatibilityError
  | unsupported (artifact detected supported : String)
  | corrupt (artifact : String)
  deriving DecidableEq, Repr

inductive IdentityLoadError
  | state (error : IoError)
  | invalid
  deriving DecidableEq, Repr

/-- `HttpTransportError`. -/
inductive HttpTransportError
  | connection
  | timeout
  | tls
  | responseTooLarge
  | transport
  deriving DecidableEq, Repr

/-- `anyhow::Error`: what failed, under the contexts it was given on its way up. -/
inductive Error
  | io (error : IoError)
  | superseded
  | http (error : PairingHttpError)
  | transport (error : HttpTransportError)
  | compatibility (error : PairingStateCompatibilityError)
  | identity (error : IdentityLoadError)
  /-- `LocalCredentialCorrupt`. -/
  | credentialCorrupt
  | message (text : String)
  | context (text : String) (error : Error)
  deriving DecidableEq

namespace Error

/-- `downcast_ref::<PairingHttpError>`. -/
def http? : Error → Option PairingHttpError
  | http error => some error
  | context _ error => error.http?
  | _ => none

/-- `downcast_ref::<io::Error>`. -/
def io? : Error → Option IoError
  | io error => some error
  | context _ error => error.io?
  | _ => none

/-- The error under its contexts. -/
def root : Error → Error
  | context _ error => error.root
  | error => error

/-- The error is the server's word that request `requestId` is over. -/
def endedFor (error : Error) (requestId : Uuid) : Bool :=
  error.http?.any (fun e => e.transactionEndedFor requestId)

end Error

def corruptPairingState (artifact : String) : Error := .compatibility (.corrupt artifact)

variable {α : Type}

theorem Except.bind_eq_ok {ε β : Type} {x : Except ε α} {f : α → Except ε β} {b : β} :
    (x >>= f) = .ok b ↔ ∃ a, x = .ok a ∧ f a = .ok b := by
  cases x <;> simp [bind, Except.bind]

theorem ok_of_isOk {ε : Type} {x : Except ε α} (h : x.isOk = true) : ∃ a, x = .ok a := by
  cases x with
  | ok a => exact ⟨a, rfl⟩
  | error e => cases h

/-- `Context::context`. -/
def withContext (text : String) (x : Except Error α) : Except Error α := x.mapError (.context text)

@[simp] theorem withContext_ok (text : String) (a : α) : withContext text (.ok a : Except Error α) = .ok a := rfl

@[simp] theorem withContext_error (text : String) (e : Error) :
    withContext text (.error e : Except Error α) = .error (.context text e) := rfl

theorem withContext_eq_ok {text : String} {x : Except Error α} {a : α} :
    withContext text x = .ok a ↔ x = .ok a := by
  cases x <;> simp

/-- `io::Error` into `anyhow::Error`. -/
def liftIo (x : Except IoError α) : Except Error α := x.mapError .io

@[simp] theorem liftIo_ok (a : α) : liftIo (.ok a : Except IoError α) = .ok a := rfl

@[simp] theorem liftIo_error (e : IoError) : liftIo (.error e : Except IoError α) = .error (.io e) := rfl

/-- `Option::context`, `Option::ok_or_else`. -/
def okOr (e : Error) : Option α → Except Error α
  | some a => .ok a
  | none => .error e

@[simp] theorem okOr_some (e : Error) (a : α) : okOr e (some a) = .ok a := rfl

@[simp] theorem okOr_none (e : Error) : okOr e (none : Option α) = .error e := rfl

theorem okOr_eq_ok {e : Error} {x : Option α} {a : α} : okOr e x = .ok a ↔ x = some a := by
  cases x <;> simp [okOr]

/-- `ensure!`. -/
def check (p : Prop) [Decidable p] (e : Error) : Except Error Unit := if p then .ok () else .error e

theorem check_eq_ok {p : Prop} [Decidable p] {e : Error} {u : Unit} : check p e = .ok u ↔ p := by
  unfold check
  by_cases hp : p <;> simp [hp]

end Xsoc
