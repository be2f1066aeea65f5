import Xsoc.Pairing.Client

/-!
# Identity, token and the credential store

The durable identity and token, and `HostCredentials`: the credential as the delivery library sees it.

* `forInstance`, `identityFromState` : the durable identity, a canonical UUID;
* `validateCurrentToken`, `readSecret` : the token;
* `HostCredentials.binding`, `HostCredentials.load`, `HostCredentials.invalidate` : the credential store.
-/

set_option autoImplicit false

namespace Xsoc

open Durable

/-! ## Identity -/

structure ClientIdentity where
  productId : String
  instanceId : String
  contractId : String
  deriving DecidableEq

def hostReportContract : String := "xsos.client-report.current"

def invalidIdentity : Error := .io (.refused .invalidData)

/-- `client_identity::for_instance`. -/
def forInstance (value : String) : Except Error ClientIdentity := do
  let id ← okOr invalidIdentity (Uuid.parseStr value)
  check (id.toString = value) invalidIdentity
  .ok ⟨"xsos", value, hostReportContract⟩

/-- The identity of an instance. -/
def identityOf (instance_ : Uuid) : ClientIdentity := ⟨"xsos", instance_.toString, hostReportContract⟩

@[simp] theorem forInstance_toString (u : Uuid) : forInstance u.toString = .ok (identityOf u) := by
  simp [forInstance, identityOf, check, bind, Except.bind]

theorem forInstance_eq_ok {value : String} {identity : ClientIdentity} (h : forInstance value = .ok identity) :
    ∃ u : Uuid, value = u.toString ∧ identity = identityOf u := by
  unfold forInstance at h
  obtain ⟨u, -, h⟩ := Except.bind_eq_ok.mp h
  obtain ⟨⟨⟩, hu, h⟩ := Except.bind_eq_ok.mp h
  have hu := check_eq_ok.mp hu
  exact ⟨u, hu.symm, by rw [identityOf, hu]; exact (Except.ok.inj h).symm⟩

/-- `ClientIdentity::ensure_matches`. -/
def ClientIdentity.ensureMatches (a b : ClientIdentity) : Except Error Unit :=
  check (a = b) (.message "client identity does not match")

/-- `client_identity::from_state`. -/
def identityFromState (f : File (Option String)) : Except Error ClientIdentity :=
  match f.read with
  | .error e => .error (.identity (.state e))
  | .ok contents =>
    match contents.reading with
    | none => .error (.identity .invalid)
    | some value => (forInstance (String.ofList (trim value.toList))).mapError (fun _ => .identity .invalid)

/-! ## Token -/

/-- `validate_current_token`. -/
def validateCurrentToken (token : String) : Except Error Unit :=
  check (token.toList.length = 64 ∧ token.toList.all isLowerHex = true) .credentialCorrupt

/-- `transport::read_secret`. -/
def readSecret (f : File (Option String)) : Except Error String :=
  match f.read with
  | .error e => .error (.context "failed to read host token client-token" (.io e))
  | .ok contents =>
    match contents.reading with
    | none => .error (.context "host token is not UTF-8" (.message "Utf8Error"))
    | some token => do
      withContext "host token client-token is corrupt" (validateCurrentToken token)
      .ok token

/-- The commit of an instance leaves an identity file that reads back as that instance. -/
@[simp] theorem identityFromState_of (u : Uuid) :
    identityFromState (.of u.text (some u.toString)) = .ok (identityOf u) := by
  simp only [identityFromState, File.read_of]
  have htrim : String.ofList (trim u.toString.toList) = u.toString := by
    rw [Uuid.toString, String.toList_ofList, Uuid.trim_text]
  rw [htrim, forInstance_toString]
  rfl

theorem trim_of_validateCurrentToken {token : String} (h : validateCurrentToken token = .ok ()) :
    trim token.toList = token.toList := by
  have hall := (check_eq_ok.mp h).2
  rw [List.all_eq_true] at hall
  apply trim_eq_self
  · intro c hc
    exact isWhitespace_of_isLowerHex (hall c (List.mem_of_mem_head? hc))
  · intro c hc
    exact isWhitespace_of_isLowerHex (hall c (List.mem_of_mem_getLast? hc))

theorem byteLen_of_validateCurrentToken {token : String} (h : validateCurrentToken token = .ok ()) :
    byteLen token.toList = 64 := by
  obtain ⟨hlen, hall⟩ := check_eq_ok.mp h
  rw [List.all_eq_true] at hall
  rw [byteLen_eq_length (fun c hc => utf8Size_of_isLowerHex (hall c hc)), hlen]

theorem readSecret_of {token : String} (h : validateCurrentToken token = .ok ()) :
    readSecret (.of token.toList (some (String.ofList (trim token.toList)))) = .ok token := by
  simp only [readSecret, File.read_of, trim_of_validateCurrentToken h, String.ofList_toList, h, withContext_ok]
  rfl

/-- A secret the client draws is a valid token. -/
theorem validateCurrentToken_randomSecret (e : Entropy) : validateCurrentToken (randomSecret e) = .ok () := by
  apply check_eq_ok.mpr
  rw [randomSecret, String.toList_ofList, length_hex, e.size, List.all_eq_true]
  exact ⟨rfl, fun c hc => isLowerHex_of_mem_hex hc⟩

/-! ## The credential store -/

/-- The revision of a credential: the generation and request its binding names. -/
abbrev Revision : Type := Uuid × Uuid

def ActiveBinding.revision (b : ActiveBinding) : Revision := (b.generation, b.requestId)

structure CredentialSnapshot where
  identity : ClientIdentity
  revision : Revision
  secret : String
  deriving DecidableEq

inductive CredentialMutation
  | applied
  | superseded
  deriving DecidableEq, Repr

namespace HostCredentials

variable (url : UrlCrate)

/-- The binding a credential belongs to; none while a commit owns the files. -/
def binding (d : Disk) : Except Error (Option ActiveBinding) := do
  match ← loadState d.pairing with
  | none => .ok none
  | some (.activating _) => .ok none
  | some (.active a) =>
    let binding ← loadActiveBinding url d.binding
    if binding = some a.binding then .ok binding
    else .error (.context "active credential binding does not match the pairing journal"
      (corruptPairingState "active-binding"))
  | some _ => loadActiveBinding url d.binding

def load (d : Disk) : Except Error (Option CredentialSnapshot) := do
  let auth ← localAuthStateUnlocked d.authorization
  if isAuthorized auth = false then .ok none
  else
    let binding ← okOr (.message "authorized credential binding is unavailable") (← binding url d)
    let identity ← identityFromState d.identity
    let expected ← forInstance binding.instanceId.toString
    identity.ensureMatches expected
    match readSecret d.credential with
    | .ok secret => .ok (some ⟨identity, binding.revision, secret⟩)
    | .error e => if e.io? = some .notFound then .ok none else .error e

/-- Withdraw the authorization of revision `expected`, if it is the one bound on disk. -/
def invalidate (ext : External) (expected : Revision) (reason : String) (i : Inputs) :
    StateTx CredentialMutation := do
  match ← Tx.read (binding ext.url) with
  | none => pure .superseded
  | some binding =>
    if binding.revision ≠ expected then pure .superseded
    else do
      let auth ← Tx.read (fun d => localAuthStateUnlocked d.authorization)
      Tx.ofExcept ((okOr (.message "current credential authorization state is missing") auth).map (fun _ => ()))
      persistAuthStateUnlocked ext ⟨.current, .reauthorizationRequired, reason, i.changedAt⟩
      pure .applied

end HostCredentials

/-- `mark_reauth_required_if_current`, under the lock it takes. -/
def markReauthRequiredIfCurrent (ext : External) (revision : Revision) (reason : String) (i : Inputs) :
    StateTx Bool := do
  let mutation ← HostCredentials.invalidate ext revision reason i
  pure (mutation = .applied)

end Xsoc
