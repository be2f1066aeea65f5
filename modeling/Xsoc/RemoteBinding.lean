import Xsoc.Transport

/-!
# Verdicts about a binding

Whether the credential still counts, and whether a pairing request is over, is for the server to say, and it says so
only in bodies that decode strictly.

* `classifyCredentialStatusResponse` : the answer to the question about the credential;
* `mediaType` : what a `Content-Type` declares, for this classifier and for that of pairing;
* `verdicts_from_strict_bodies` : the replies that the three verdicts are made of.
-/

set_option autoImplicit false

namespace Xsoc

open Durable

/-- `CredentialStatusResponse`; its status has one value. -/
structure CredentialStatusResponse where
  protocolVersion : Nat
  hostId : String
  instanceId : String
  deriving DecidableEq

/-- The protocol crate: its version, and the strict decoder of the answer. -/
structure BindingCrates where
  hostPairingProtocolVersion : Nat
  credentialStatus : List UInt8 → Option CredentialStatusResponse

inductive RemoteBindingStatus
  | authorized (hostId : String)
  | unauthorized
  | protocolUnsupported (received : Nat) (supported : List Nat)
  deriving DecidableEq

/-- `RemoteBindingFailure`, where there was an answer. -/
inductive RemoteBindingFailure
  | serverUpgradeRequired
  | reverseProxyMisconfigured
  | rateLimited
  | serverUnavailable (status : Nat)
  | unexpectedRedirect (status : Nat)
  | contractMismatch (status : Nat)
  | authResponseUntrusted
  deriving DecidableEq

section

variable (ext : External) (crates : BindingCrates)

/-- What is left to be said of a status. -/
def statusFailure (status : Nat) : RemoteBindingFailure :=
  if 300 ≤ status ∧ status ≤ 399 then .unexpectedRedirect status
  else if status = 401 then .authResponseUntrusted
  else if status = 404 ∨ status = 405 ∨ status = 426 then .serverUpgradeRequired
  else if status = 421 then .reverseProxyMisconfigured
  else if status = 429 then .rateLimited
  else if 500 ≤ status ∧ status ≤ 599 then .serverUnavailable status
  else .contractMismatch status

/-- The versions of an envelope that refuses the protocol of the client. -/
def refusedProtocol (envelope : Option ErrorEnvelope) : Option RemoteBindingStatus :=
  match envelope.filter fun e => e.code == "unsupported_client_protocol" && !e.retryable with
  | none => none
  | some e =>
    let supported := e.supported.filterMap toU16
    match e.received.bind toU16 with
    | some received => if supported ≠ [] then some (.protocolUnsupported received supported) else none
    | none => none

/-- The verdict of a success, by its body. -/
def credentialVerdict (expectedHostId : String) (status : Nat) :
    Option CredentialStatusResponse → Except RemoteBindingFailure RemoteBindingStatus
  | none => .error (.contractMismatch status)
  | some body =>
    if body.protocolVersion ≠ crates.hostPairingProtocolVersion then
      .ok (.protocolUnsupported crates.hostPairingProtocolVersion [body.protocolVersion])
    else if body.hostId = body.instanceId ∧ body.hostId = expectedHostId then .ok (.authorized body.hostId)
    else .error (.contractMismatch status)

/-- The verdict of any other answer, by its envelope. -/
def refusalVerdict (status : Nat) (envelope : Option ErrorEnvelope) :
    Except RemoteBindingFailure RemoteBindingStatus :=
  if status = 401 ∧ refuses "unauthorized" envelope = true then .ok .unauthorized
  else
    match if status = 400 then refusedProtocol envelope else none with
    | some unsupported => .ok unsupported
    | none => .error (statusFailure status)

def classifyCredentialStatusResponse (expectedHostId : String) (response : HttpResponse) :
    Except RemoteBindingFailure RemoteBindingStatus :=
  if response.status = 200 ∧ response.contentType.any isApplicationJson = true then
    credentialVerdict crates expectedHostId response.status (crates.credentialStatus response.body)
  else refusalVerdict response.status (responseEnvelope ext response)

end

/-! ## Media types -/

/-- The media type that a `Content-Type` declares. -/
def mediaType (contentType : String) : String :=
  String.ofList ((trim (contentType.toList.takeWhile (· ≠ ';'))).map Char.toLower)

theorem isApplicationJson_iff {contentType : String} :
    isApplicationJson contentType = true ↔ mediaType contentType = "application/json" := by
  unfold isApplicationJson toAsciiLowercase mediaType
  rw [beq_iff_eq, String.toList_ofList]

theorem pairingContentType_eq_json_iff {contentType : String} :
    pairingContentTypeForDiagnostics contentType = "application/json" ↔ mediaType contentType = "application/json" := by
  unfold pairingContentTypeForDiagnostics mediaType
  generalize String.ofList ((trim (contentType.toList.takeWhile (· ≠ ';'))).map Char.toLower) = media
  by_cases hkept : media = "application/json" ∨ media = "text/html" ∨ media = "text/plain" ∨
      media = "application/octet-stream"
  · rw [if_pos hkept]
  rw [if_neg hkept]
  by_cases hmissing : media = "<missing>"
  · rw [if_pos hmissing]
  rw [if_neg hmissing]
  -- neither of the two other texts is the media type of JSON
  have hother : media ≠ "application/json" := fun h => hkept (Or.inl h)
  by_cases hjson : startsWith media "application/" ∧ endsWith media "+json"
  · rw [if_pos hjson]
    exact iff_of_false (by decide) hother
  · rw [if_neg hjson]
    exact iff_of_false (by decide) hother

/-- The reply is declared to be JSON. -/
def DeclaredJson (response : HttpResponse) : Prop :=
  ∃ contentType, response.contentType = some contentType ∧ mediaType contentType = "application/json"

theorem any_isApplicationJson_iff {response : HttpResponse} :
    response.contentType.any isApplicationJson = true ↔ DeclaredJson response := by
  unfold DeclaredJson
  cases response.contentType <;> simp [isApplicationJson_iff]

variable {ext : External} {crates : BindingCrates}

/-! ## The credential -/

theorem refuses_responseEnvelope_iff {code : String} {response : HttpResponse} :
    refuses code (responseEnvelope ext response) = true ↔ DeclaredJson response ∧
      ∃ e, ext.errorEnvelope response.body = some e ∧ e.code = code ∧ e.retryable = false := by
  unfold refuses responseEnvelope
  by_cases hjson : response.contentType.any isApplicationJson = true
  · rw [if_pos hjson]
    cases ext.errorEnvelope response.body <;> simp [any_isApplicationJson_iff.mp hjson]
  · rw [if_neg hjson]
    exact iff_of_false (by simp) fun h => hjson (any_isApplicationJson_iff.mpr h.1)

theorem refusedProtocol_eq_some {envelope : Option ErrorEnvelope} {status : RemoteBindingStatus}
    (h : refusedProtocol envelope = some status) :
      ∃ received supported, status = .protocolUnsupported received supported := by
  unfold refusedProtocol at h
  split at h
  · cases h
  · next e _ =>
    cases hreceived : e.received.bind toU16 with
    | none => simp [hreceived] at h
    | some received =>
      by_cases hsupported : e.supported.filterMap toU16 = []
      · simp [hreceived, hsupported] at h
      · simp only [hreceived, ne_eq, hsupported, not_false_eq_true, if_true, Option.some.injEq] at h
        exact ⟨_, _, h.symm⟩

theorem credentialVerdict_eq_authorized {expectedHostId hostId : String} {status : Nat}
    {body : Option CredentialStatusResponse} :
    credentialVerdict crates expectedHostId status body = .ok (.authorized hostId) ↔ hostId = expectedHostId ∧
      body = some ⟨crates.hostPairingProtocolVersion, expectedHostId, expectedHostId⟩ := by
  cases body with
  | none => simp [credentialVerdict]
  | some body =>
    obtain ⟨version, host, inst⟩ := body
    rw [credentialVerdict]
    by_cases hversion : version = crates.hostPairingProtocolVersion
    · rw [if_neg (not_not_intro hversion)]
      by_cases hids : host = inst ∧ host = expectedHostId
      · rw [if_pos hids]
        obtain ⟨rfl, rfl⟩ := hids
        simp [hversion, eq_comm]
      · rw [if_neg hids]
        simp only [reduceCtorEq, false_iff, Option.some.injEq, CredentialStatusResponse.mk.injEq, not_and]
        rintro - - rfl rfl
        exact hids ⟨rfl, rfl⟩
    · rw [if_pos hversion]
      simp [hversion]

theorem credentialVerdict_ne_unauthorized {expectedHostId : String} {status : Nat}
    {body : Option CredentialStatusResponse} :
    credentialVerdict crates expectedHostId status body ≠ .ok .unauthorized := by
  cases body with
  | none => simp [credentialVerdict]
  | some body =>
    rw [credentialVerdict]
    split_ifs <;> simp

/-- An envelope makes the verdict that it is made for, or none. -/
theorem refusalVerdict_eq_ok {status : Nat} {envelope : Option ErrorEnvelope} {verdict : RemoteBindingStatus}
    (h : refusalVerdict status envelope = .ok verdict) :
    (verdict = .unauthorized ∧ status = 401 ∧ refuses "unauthorized" envelope = true) ∨
      ∃ received supported, verdict = .protocolUnsupported received supported := by
  unfold refusalVerdict at h
  by_cases hunauthorized : status = 401 ∧ refuses "unauthorized" envelope = true
  · rw [if_pos hunauthorized] at h
    cases h
    exact .inl ⟨rfl, hunauthorized⟩
  · rw [if_neg hunauthorized] at h
    split at h
    · next unsupported heq =>
      cases h
      split at heq
      · exact .inr (refusedProtocol_eq_some heq)
      · cases heq
    · cases h

theorem classify_authorized_iff {expectedHostId hostId : String} {response : HttpResponse} :
    classifyCredentialStatusResponse ext crates expectedHostId response = .ok (.authorized hostId) ↔
      hostId = expectedHostId ∧ response.status = 200 ∧ DeclaredJson response ∧
        crates.credentialStatus response.body =
          some ⟨crates.hostPairingProtocolVersion, expectedHostId, expectedHostId⟩ := by
  unfold classifyCredentialStatusResponse
  by_cases hok : response.status = 200 ∧ response.contentType.any isApplicationJson = true
  · rw [if_pos hok, credentialVerdict_eq_authorized]
    simp [hok.1, any_isApplicationJson_iff.mp hok.2]
  · rw [if_neg hok]
    constructor
    · intro h
      rcases refusalVerdict_eq_ok h with ⟨h, -⟩ | ⟨received, supported, h⟩
      · cases h
      · cases h
    · rintro ⟨-, hstatus, hjson, -⟩
      exact absurd ⟨hstatus, any_isApplicationJson_iff.mpr hjson⟩ hok

theorem classify_unauthorized_iff {expectedHostId : String} {response : HttpResponse} :
    classifyCredentialStatusResponse ext crates expectedHostId response = .ok .unauthorized ↔
      response.status = 401 ∧ DeclaredJson response ∧
        ∃ e, ext.errorEnvelope response.body = some e ∧ e.code = "unauthorized" ∧ e.retryable = false := by
  unfold classifyCredentialStatusResponse
  by_cases hok : response.status = 200 ∧ response.contentType.any isApplicationJson = true
  · rw [if_pos hok]
    refine iff_of_false credentialVerdict_ne_unauthorized fun h => ?_
    exact absurd (hok.1.symm.trans h.1) (by decide)
  · rw [if_neg hok, ← refuses_responseEnvelope_iff]
    constructor
    · intro h
      rcases refusalVerdict_eq_ok h with ⟨-, h⟩ | ⟨received, supported, h⟩
      · exact h
      · cases h
    · intro h
      rw [refusalVerdict, if_pos h]

/-! ## The transaction -/

/-- An envelope that ends request `requestId`, and the status that goes with its code. -/
def EndsRequest (e : ErrorEnvelope) (status : Nat) (requestId : Uuid) : Prop :=
  e.retryable = false ∧ e.requestId.bind Uuid.parseStr = some requestId ∧
    ((status = 404 ∧ e.code = "pairing_transaction_not_found") ∨
      (status = 410 ∧ e.code = "pairing_transaction_expired"))

theorem transactionEndedFor_iff {status : Nat} {contentType : String} {body : List UInt8}
    {operation : PairingHttpOperation} {requestId : Uuid} :
    (pairingHttpError ext status contentType body operation).transactionEndedFor requestId = true ↔
      (operation = .activate ∨ operation = .poll) ∧ mediaType contentType = "application/json" ∧
        ∃ e, ext.errorEnvelope body = some e ∧ EndsRequest e status requestId := by
  unfold PairingHttpError.transactionEndedFor PairingHttpError.transactionMissing PairingHttpError.transactionExpired
    pairingHttpError
  by_cases hjson : pairingContentTypeForDiagnostics contentType = "application/json"
  swap
  · rw [if_neg hjson]
    exact iff_of_false (by simp) fun h => hjson (pairingContentType_eq_json_iff.mpr h.2.1)
  rw [if_pos hjson]
  cases henvelope : ext.errorEnvelope body with
  | none => simp
  | some e =>
    -- the code decides what the envelope may say; the status must be the one that goes with it
    by_cases hretryable : e.retryable = false
    swap
    · simp [hretryable, EndsRequest, Option.filter]
    have hmedia := pairingContentType_eq_json_iff.mp hjson
    by_cases hmissing : e.code = "pairing_transaction_not_found"
    · cases hparse : e.requestId.bind Uuid.parseStr <;>
        simp [hretryable, hmissing, hparse, hmedia, EndsRequest, Option.filter]
      rw [and_assoc, and_comm (a := status = _)]
    by_cases hexpired : e.code = "pairing_transaction_expired"
    · cases hparse : e.requestId.bind Uuid.parseStr <;>
        simp [hretryable, hexpired, hparse, hmedia, EndsRequest, Option.filter]
      rw [and_assoc, and_comm (a := status = _)]
    · simp [hexpired, hmissing, EndsRequest, Option.filter]

theorem ended_ensurePairingResponse_iff {status : Nat} {contentType : String} {body : List UInt8} {allowed : List Nat}
    {operation : PairingHttpOperation} {requestId : Uuid} :
    (∃ error, ensurePairingResponse ext status contentType body allowed operation = .error error ∧
      error.endedFor requestId = true) ↔
    status ∉ allowed ∧ (operation = .activate ∨ operation = .poll) ∧ mediaType contentType = "application/json" ∧
      ∃ e, ext.errorEnvelope body = some e ∧ EndsRequest e status requestId := by
  unfold ensurePairingResponse
  by_cases hallowed : status ∈ allowed
  · simp [hallowed]
  · rw [if_neg hallowed, ← transactionEndedFor_iff]
    simp [hallowed, Error.endedFor, Error.http?]

/-- The three verdicts are made of replies with their own status and a strict body that says so, and of no others. -/
theorem verdicts_from_strict_bodies (ext : External) (crates : BindingCrates) :
    (∀ (expectedHostId hostId : String) (response : HttpResponse),
      classifyCredentialStatusResponse ext crates expectedHostId response = .ok (.authorized hostId) ↔
        hostId = expectedHostId ∧ response.status = 200 ∧ DeclaredJson response ∧
          crates.credentialStatus response.body =
            some ⟨crates.hostPairingProtocolVersion, expectedHostId, expectedHostId⟩) ∧
    (∀ (expectedHostId : String) (response : HttpResponse),
      classifyCredentialStatusResponse ext crates expectedHostId response = .ok .unauthorized ↔
        response.status = 401 ∧ DeclaredJson response ∧
          ∃ e, ext.errorEnvelope response.body = some e ∧ e.code = "unauthorized" ∧ e.retryable = false) ∧
    (∀ (status : Nat) (contentType : String) (body : List UInt8) (allowed : List Nat)
      (operation : PairingHttpOperation) (requestId : Uuid),
      (∃ error, ensurePairingResponse ext status contentType body allowed operation = .error error ∧
        error.endedFor requestId = true) ↔
      status ∉ allowed ∧ (operation = .activate ∨ operation = .poll) ∧ mediaType contentType = "application/json" ∧
        ∃ e, ext.errorEnvelope body = some e ∧ EndsRequest e status requestId) :=
  ⟨fun _ _ _ => classify_authorized_iff, fun _ _ => classify_unauthorized_iff,
    fun _ _ _ _ _ _ => ended_ensurePairingResponse_iff⟩

end Xsoc
