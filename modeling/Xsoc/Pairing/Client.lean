import Xsoc.Pairing.Storage

/-!
# Talking to the server

The requests of pairing and what is made of the replies: headers, endpoints, activation URLs, error envelopes.

* `ensurePairingResponse` : what a rejection says; `endedFor_ensurePairingResponse` : when it ends a request;
* `parsePairingJson` : the body of an accepted reply;
* `activationEndpoint`, `pairingStatusEndpoint`, `resolveActivationUrl`, `validateActivationUrlRequest` : the URLs.
-/

set_option autoImplicit false

namespace Xsoc

open Durable

section

variable (ext : External)

/-! ## Secrets and headers -/

def randomSecret (e : Entropy) : String := String.ofList (hex e.bytes)

def sha256Hex (secret : String) : String := String.ofList (hex (ext.sha256 (utf8 secret.toList)))

/-- What `HeaderValue::from_str` accepts. -/
def isHeaderChar (c : Char) : Bool := (32 ≤ c.toNat && c.toNat < 127) || c = '\t'

def pairingAuthorization (secret : String) : Except Error String := do
  let value := "Pairing " ++ secret
  check (value.toList.all isHeaderChar = true) (.message "invalid pairing authorization header")
  .ok value

/-- `build_client`, outside a transaction: reading the TLS files may also just fail. -/
def buildClient (config : ClientConfig) : PairingOp Unit :=
  Op.peek (fun
    | none => .error (.context "failed to read TLS identity" (.io (.refused .other)))
    | some _ => ext.buildClient config)

/-- `post_bounded`, under the context of its caller. -/
def postBounded (request : Request) (context : String) : PairingOp (DateTime × HttpResponse) := do
  let reply ← Op.send request
  match reply.response with
  | .ok response => pure (reply.now, response)
  | .error e => Op.throw (.context context (.transport e))

/-! ## Replies -/

def startsWith (s start : String) : Bool := start.toList.isPrefixOf s.toList

def endsWith (s suffix : String) : Bool := suffix.toList.isSuffixOf s.toList

def toAsciiLowercase (s : String) : String := String.ofList (s.toList.map Char.toLower)

def pairingContentTypeForDiagnostics (contentType : String) : String :=
  let mediaType := String.ofList ((trim (contentType.toList.takeWhile (· ≠ ';'))).map Char.toLower)
  if mediaType = "application/json" ∨ mediaType = "text/html" ∨ mediaType = "text/plain" ∨
      mediaType = "application/octet-stream" then mediaType
  else if mediaType = "<missing>" then mediaType
  else if startsWith mediaType "application/" ∧ endsWith mediaType "+json" then "application/*+json"
  else "<unexpected>"

def pairingResponseContentType (response : HttpResponse) : String :=
  pairingContentTypeForDiagnostics (response.contentType.getD "<missing>")

def pairingOriginForDiagnostics (endpoint : String) : String :=
  match (ext.url.parse endpoint).map Url.origin with
  | some origin => if origin = "null" then "<invalid Server origin>" else origin
  | none => "<invalid Server origin>"

def parsePairingJson {α : Type} (decode : List UInt8 → Option α) (body : List UInt8)
    (contentType endpoint responseKind : String) : Except Error α :=
  let invalidResponse : Error := .message ("xsos returned an unexpected or malformed " ++ responseKind ++
    " from Server origin " ++ pairingOriginForDiagnostics ext endpoint ++ " (HTTP 2xx Content-Type: " ++
    pairingContentTypeForDiagnostics contentType ++ "); the configured Server address or port may be wrong. " ++
    "Use the complete xsos management-console origin, including its port")
  if pairingContentTypeForDiagnostics contentType ≠ "application/json" then .error invalidResponse
  else okOr invalidResponse (decode body)

/-- `u16::try_from`. -/
def toU16 (n : Nat) : Option Nat := if n < 65536 then some n else none

/-- The error of a reply whose status is none of those expected. -/
def pairingHttpError (status : Nat) (contentType : String) (body : List UInt8) (operation : PairingHttpOperation) :
    PairingHttpError :=
  let envelope :=
    if pairingContentTypeForDiagnostics contentType = "application/json" then ext.errorEnvelope body else none
  let protocol := envelope.filter (fun e =>
    status = 400 && e.code = "unsupported_client_protocol" && !e.retryable)
  let received := (protocol.bind ErrorEnvelope.received).bind toU16
  let supported := ((protocol.map ErrorEnvelope.supported).getD []).filterMap toU16
  let requestId := ((envelope.filter (fun e =>
    !e.retryable && (e.code = "pairing_transaction_not_found" || e.code = "pairing_transaction_expired"))).bind
      ErrorEnvelope.requestId).bind Uuid.parseStr
  let trustedCode := envelope.bind (fun e =>
    if e.code = "unsupported_client_protocol" ∧ received.isSome ∧ supported ≠ [] then
      some "unsupported_client_protocol"
    else if e.code = "pairing_transaction_not_found" ∧ status = 404 ∧ requestId.isSome ∧ e.retryable = false then
      some "pairing_transaction_not_found"
    else if e.code = "pairing_transaction_expired" ∧ status = 410 ∧ requestId.isSome ∧ e.retryable = false then
      some "pairing_transaction_expired"
    else if e.code = "method_not_allowed" then some "method_not_allowed"
    else if e.code = "unsupported_media_type" then some "unsupported_media_type"
    else none)
  ⟨operation, status, trustedCode, received, supported, requestId⟩

def ensurePairingResponse (status : Nat) (contentType : String) (body : List UInt8) (allowed : List Nat)
    (operation : PairingHttpOperation) : Except Error Unit :=
  if status ∈ allowed then .ok ()
  else .error (.http (pairingHttpError ext status contentType body operation))

/-- A strict, non-retryable error envelope in JSON that says the transaction `requestId` is gone. -/
def EnvelopeEnds (response : HttpResponse) (requestId : Uuid) : Prop :=
  pairingResponseContentType response = "application/json" ∧
    ∃ e, ext.errorEnvelope response.body = some e ∧ e.retryable = false ∧
      e.requestId.bind Uuid.parseStr = some requestId ∧
      ((response.status = 404 ∧ e.code = "pairing_transaction_not_found") ∨
        (response.status = 410 ∧ e.code = "pairing_transaction_expired"))

/-! ## URLs -/

/-- `activation_endpoint`. -/
def activationEndpoint (pairingEndpoint : String) : Except Error Url := do
  withContext "stored pairing endpoint is unsafe" (validatePairingEndpoint ext.url pairingEndpoint)
  let endpoint ← okOr (.context "stored pairing endpoint is not a valid URL" (.message "url::ParseError"))
    (ext.url.parse pairingEndpoint)
  check (endpoint.username = "" ∧ endpoint.password.isNone)
    (.message "stored pairing endpoint unexpectedly contains credentials")
  let base ← okOr (.message "stored pairing endpoint does not end in /pairing-requests")
    (stripSuffix (String.ofList (trimEndMatches (· = '/') endpoint.path.toList)) "/pairing-requests")
  .ok (ext.url.clearFragment (ext.url.clearQuery (ext.url.setPath endpoint (base ++ "/activate"))))

/-- `validate_activation_url_request`. -/
def validateActivationUrlRequest (activationUrl pairingEndpoint : String) (requestId : Uuid) : Except Error Unit := do
  let url ← okOr (.context "stored pairing activation URL is invalid" (.message "url::ParseError"))
    (ext.url.parse activationUrl)
  let pairing ← okOr (.context "stored pairing endpoint is invalid" (.message "url::ParseError"))
    (ext.url.parse pairingEndpoint)
  check (url.username = "" ∧ url.password.isNone ∧ url.query.isNone ∧ url.fragment.isNone ∧
      url.scheme = pairing.scheme ∧
      url.hostStr.map toAsciiLowercase = pairing.hostStr.map toAsciiLowercase ∧
      url.portOrKnownDefault = pairing.portOrKnownDefault ∧
      url.path = browserActivationPathPrefix ++ requestId.toString)
    (.message "stored activation URL does not match the pending pairing request")

/-- `resolve_activation_url`. -/
def resolveActivationUrl (pairingEndpoint activationUrl : String) : Except Error String := do
  let base ← okOr (.context "invalid pairing endpoint URL" (.message "url::ParseError"))
    (ext.url.parse pairingEndpoint)
  let url ← okOr (.context "invalid activation URL returned by xsos" (.message "url::ParseError"))
    (match ext.url.parse activationUrl with
      | some url => some url
      | none => ext.url.join base activationUrl)
  check (url.username = "" ∧ url.password.isNone)
    (.message "xsos returned an activation URL containing credentials")
  check (url.scheme = "https") (.message "xsos returned an activation URL that does not use HTTPS")
  .ok url.href

/-- `pairing_status_endpoint`. -/
def pairingStatusEndpoint (pairingEndpoint : String) (requestId : Uuid) : Except Error Url := do
  withContext "stored pairing endpoint is unsafe" (validatePairingEndpoint ext.url pairingEndpoint)
  let endpoint ← okOr (.context "stored pairing endpoint is not a valid URL" (.message "url::ParseError"))
    (ext.url.parse pairingEndpoint)
  check (endpoint.query.isNone ∧ endpoint.fragment.isNone)
    (.message "stored pairing endpoint must not contain a query or fragment")
  okOr (.message "stored pairing endpoint cannot accept path segments")
    (ext.url.pushSegments endpoint [requestId.toString, "status"])

end

/-! ## What ends a request -/

variable {ext : External}

theorem contentType_json_iff (s : String) :
    pairingContentTypeForDiagnostics (pairingContentTypeForDiagnostics s) = "application/json" ↔
      pairingContentTypeForDiagnostics s = "application/json" := by
  have hjson : pairingContentTypeForDiagnostics "application/json" = "application/json" := by decide +kernel
  constructor
  · intro h
    have hcases : pairingContentTypeForDiagnostics s ∈ ["application/json", "text/html", "text/plain",
        "application/octet-stream", "<missing>", "application/*+json", "<unexpected>"] := by
      unfold pairingContentTypeForDiagnostics
      generalize String.ofList ((trim (s.toList.takeWhile (· ≠ ';'))).map Char.toLower) = m
      by_cases h1 : m = "application/json" ∨ m = "text/html" ∨ m = "text/plain" ∨ m = "application/octet-stream"
      · rw [if_pos h1]
        rcases h1 with rfl | rfl | rfl | rfl <;> decide
      rw [if_neg h1]
      by_cases h2 : m = "<missing>"
      · rw [if_pos h2, h2]; decide
      rw [if_neg h2]
      by_cases h3 : startsWith m "application/" ∧ endsWith m "+json"
      · rw [if_pos h3]; decide
      · rw [if_neg h3]; decide
    simp only [List.mem_cons, List.not_mem_nil, or_false] at hcases
    rcases hcases with hc | hc | hc | hc | hc | hc | hc
    · exact hc
    all_goals
      rw [hc] at h
      exact absurd h (by decide +kernel)
  · intro h
    rw [h, hjson]

/-- A rejection ends request `requestId` exactly when it is such an envelope, in a reply to an activation or a poll. -/
theorem endedFor_ensurePairingResponse {response : HttpResponse} {allowed : List Nat}
    {operation : PairingHttpOperation} {e : Error} {requestId : Uuid}
    (he : ensurePairingResponse ext response.status (pairingResponseContentType response) response.body allowed
      operation = .error e) (hend : e.endedFor requestId = true) :
    EnvelopeEnds ext response requestId ∧ (operation = .activate ∨ operation = .poll) := by
  unfold ensurePairingResponse at he
  split at he
  · cases he
  cases he
  have hct := contentType_json_iff (response.contentType.getD "<missing>")
  simp only [Error.endedFor, Error.http?, Option.any_some, PairingHttpError.transactionEndedFor,
    PairingHttpError.transactionMissing, PairingHttpError.transactionExpired, pairingHttpError, Bool.and_eq_true,
    Bool.or_eq_true, decide_eq_true_eq] at hend
  obtain ⟨hkind, hid⟩ := hend
  have hop : operation = .activate ∨ operation = .poll := by
    rcases hkind with h | h
    · exact h.1.1.1
    · exact h.1.1.1
  refine ⟨?_, hop⟩
  by_cases hjson : pairingContentTypeForDiagnostics (pairingResponseContentType response) = "application/json"
  swap
  · rw [if_neg hjson] at hid; simp at hid
  rw [if_pos hjson] at hid hkind
  refine ⟨hct.mp hjson, ?_⟩
  cases henv : ext.errorEnvelope response.body with
  | none => rw [henv] at hid; simp at hid
  | some env =>
    rw [henv] at hid hkind
    by_cases hstrict : (!env.retryable && (env.code = "pairing_transaction_not_found" ||
        env.code = "pairing_transaction_expired")) = true
    swap
    · simp [Option.filter, hstrict] at hid
    have hid' : env.requestId.bind Uuid.parseStr = some requestId := by
      simpa [Option.filter, hstrict] using hid
    simp only [Bool.and_eq_true, Bool.not_eq_true', Bool.or_eq_true, decide_eq_true_eq] at hstrict
    refine ⟨env, rfl, hstrict.1, hid', ?_⟩
    rcases hkind with h | h
    · have hcode := h.1.2
      have hne : env.code ≠ "pairing_transaction_expired" := by
        intro hc
        simp [hc, h.1.1.2] at hcode
      exact Or.inl ⟨h.1.1.2, hstrict.2.resolve_right hne⟩
    · have hcode := h.1.2
      have hne : env.code ≠ "pairing_transaction_not_found" := by
        intro hc
        simp [hc, h.1.1.2] at hcode
      exact Or.inr ⟨h.1.1.2, hstrict.2.resolve_left hne⟩

theorem parsePairingJson_eq_ok {α : Type} {decode : List UInt8 → Option α} {response : HttpResponse}
    {endpoint kind : String} {a : α}
    (h : parsePairingJson ext decode response.body (pairingResponseContentType response) endpoint kind = .ok a) :
    pairingResponseContentType response = "application/json" ∧ decode response.body = some a := by
  unfold parsePairingJson at h
  by_cases hct : pairingContentTypeForDiagnostics (pairingResponseContentType response) = "application/json"
  · rw [if_neg (not_not_intro hct)] at h
    exact ⟨(contentType_json_iff _).mp hct, okOr_eq_ok.mp h⟩
  · rw [if_pos hct] at h
    cases h

end Xsoc
