import Xsoc.Text

/-!
# The private state directory

Five files, each with a name and a byte budget. A file is read whole or not at all; it is replaced as a whole by an
atomic write, which refuses a value that is empty once trimmed, or over the budget of its file.

* `File` : what the directory holds under one name, its bytes next to what a decoder finds in them;
* `File.read`, `fits`, `File.of` : the reader and the writer.
-/

set_option autoImplicit false

namespace Xsoc

inductive StateFile
  | identity
  | credential
  | pairing
  | authorization
  | binding
  deriving DecidableEq, Repr

namespace StateFile

def name : StateFile → String
  | identity => "host-id"
  | credential => "client-token"
  | pairing => "pairing-state.json"
  | authorization => "auth-state.json"
  | binding => "active-binding.json"

def maxBytes : StateFile → Nat
  | identity => 128
  | credential => 4096
  | pairing => 64 * 1024
  | authorization => 16 * 1024
  | binding => 16 * 1024

end StateFile

/-- Why the directory refuses a name that it does have: unsafe permissions, a link, over the budget, an I/O error. -/
inductive Refusal
  | permissionDenied
  | invalidData
  | other
  deriving DecidableEq, Repr

/-- `io::ErrorKind`, as far as the client tells kinds apart. -/
inductive IoError
  | notFound
  | invalidInput
  | alreadyExists
  | refused (why : Refusal)
  deriving DecidableEq, Repr

/-- The bytes of a file, and what the decoder of that file finds in them. -/
structure Contents (α : Type) where
  bytes : List UInt8
  reading : α
  deriving DecidableEq

/-- What the directory holds under one name. -/
inductive File (α : Type)
  | absent
  | refused (why : Refusal)
  | holds (contents : Contents α)
  deriving DecidableEq

variable {α : Type}

/-- `StateReader::read`. -/
def File.read : File α → Except IoError (Contents α)
  | .absent => .error .notFound
  | .refused why => .error (.refused why)
  | .holds contents => .ok contents

/-- What `StateTransaction::write` accepts: something is left after trimming, and it is within the budget. -/
def fits (file : StateFile) (value : List Char) : Prop :=
  0 < byteLen (trim value) ∧ byteLen (trim value) ≤ file.maxBytes

instance (file : StateFile) (value : List Char) : Decidable (fits file value) :=
  inferInstanceAs (Decidable (_ ∧ _))

/-- The file that writing `value` leaves: its trimmed bytes, in which a decoder finds `reading`. -/
def File.of (value : List Char) (reading : α) : File α := .holds ⟨utf8 (trim value), reading⟩

@[simp] theorem File.read_absent : (File.absent : File α).read = .error .notFound := rfl

@[simp] theorem File.read_refused (why : Refusal) : (File.refused why : File α).read = .error (.refused why) := rfl

@[simp] theorem File.read_of (value : List Char) (reading : α) :
    (File.of value reading).read = .ok ⟨utf8 (trim value), reading⟩ := rfl

end Xsoc
