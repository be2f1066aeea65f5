import Xsoc.Delivery
import Xsoc.Pairing.Client
import Xsoc.Report.Spool

/-!
# Sending a report

`sendQueuedXsos` is one attempt to deliver a queued report: what it sends, and what it makes of the answer. What
becomes of the record then is up to the adapter of the delivery batch.

* `prepareReportBody` : the bytes of a report, for a queued one those that were queued;
* `classifyXsosResponse`, `validateXsosAck` : the answer, by its status and its strict body;
* `SendAttempt` : an attempt, with or without a request;
* `disposition`, `BatchRuntime` : what becomes of the record, `withdrawal` : and of the credential.
-/

set_option autoImplicit false

namespace Xsoc

open Durable

/-- `ClientReportAck`, with the fields the client compares. -/
structure ClientReportAck where
  hostId : String
  reportId : String
  deriving DecidableEq

/-- The crates that delivery calls. The acknowledgement is decoded strictly: a whole body, or a line and a column. -/
structure DeliveryCrates where
  /-- The display of a `StatusCode`. -/
  statusText : Nat → String
  transportText : HttpTransportError → String
  errorText : Error → String
  ack : List UInt8 → Except (Nat × Nat) ClientReportAck

namespace SendError

def isPermanent : SendError → Bool
  | permanent _ => true
  | unsupportedProtocol _ => true
  | _ => false

end SendError

section

variable (wire : Wire) (ext : External) (crates : DeliveryCrates)

/-! ## The body -/

def invalidReport (reason : String) : SendError := .permanent ("invalid Client report: " ++ reason)

def prepareReportBody (now : DateTime) (report : ClientReport) (queuedBody : Option (List UInt8)) :
    Except SendError (ClientReport × List UInt8) :=
  match queuedBody with
  | some body =>
    if wire.maxBodyBytes < body.length then
      .error (invalidReport "queued body exceeds the report size limit")
    else
      match wire.fromSlice body with
      | none => .error (invalidReport "queued body is malformed")
      | some decoded =>
        if decoded != report then .error (invalidReport "queued body does not match its parsed report")
        else
          match canonicalSpoolReport wire report with
          | .error _ => .error (invalidReport "queued report violates the current contract")
          | .ok (canonical, _) =>
            if canonical != report then .error (invalidReport "queued report is not canonical")
            else .ok (report, body)
  | none => (encodeReportBody wire now report).mapError fun e => invalidReport (crates.errorText e)

/-! ## The answer -/

def isApplicationJson (value : String) : Bool :=
  toAsciiLowercase (String.ofList (trim (value.toList.takeWhile (· ≠ ';')))) == "application/json"

/-- The codes that may be named in a durable diagnostic. -/
def recognizedCodes : List String :=
  ["bad_request", "conflict", "payload_too_large", "unauthorized", "client_host_mismatch",
    "unsupported_client_protocol", "report_future_timestamp"]

def responseDetail (envelope : Option ErrorEnvelope) : String :=
  match envelope with
  | some e => if e.code ∈ recognizedCodes then e.code else "unrecognized error response"
  | none => "unrecognized error response"

/-- The envelope says no to this report for good, with this code. -/
def refuses (code : String) (envelope : Option ErrorEnvelope) : Bool :=
  envelope.any fun e => e.code == code && !e.retryable

/-- The strict error envelope of an answer, where it is declared to be JSON. -/
def responseEnvelope (response : HttpResponse) : Option ErrorEnvelope :=
  if response.contentType.any isApplicationJson then ext.errorEnvelope response.body else none

def isSuccess (status : Nat) : Bool := 200 ≤ status && status < 300

/-- `classify_xsos_response`: an unknown answer never deletes a report and never withdraws a credential. -/
def classifyXsosResponse (response : HttpResponse) : Except SendError Unit :=
  let status := response.status
  let envelope := responseEnvelope ext response
  let message := s!"xsos rejected telemetry with HTTP {crates.statusText status}: {responseDetail envelope}"
  if isSuccess status then .ok ()
  else if status = 400 then
    if refuses "unsupported_client_protocol" envelope then
      .error (.unsupportedProtocol (message ++ "; client/server protocol versions do not match; upgrade both to " ++
        "the same release. Re-pairing will not fix this error"))
    else if refuses "bad_request" envelope then
      .error (.permanent (message ++ s!"; report schema {wire.schemaVersion} was rejected. Check that client and " ++
        "server use the same protocol version; this report will not be retried"))
    else if envelope.any (fun e => e.code == "report_future_timestamp" && e.retryable) then
      .error (.futureTimestamp message)
    else .error (.transient message)
  else if status = 409 then
    if refuses "conflict" envelope then .error (.permanent message) else .error (.transient message)
  else if status = 413 then
    if refuses "payload_too_large" envelope then .error (.permanent message) else .error (.transient message)
  -- the request took the wrong path: the credential is not at fault
  else if status = 421 then
    .error (.transient (message ++ " (this is a deployment configuration problem, not invalid credentials: check " ++
      "whether the reverse proxy forwards X-Forwarded-Proto and X-Forwarded-For)"))
  else if status = 401 then
    if refuses "unauthorized" envelope then .error (.unauthorized message) else .error (.transient message)
  else if status = 403 then
    if refuses "client_host_mismatch" envelope then .error (.permanent message) else .error (.transient message)
  else .error (.transient message)

def validateXsosAck (response : HttpResponse) (report : ClientReport) : Except SendError Unit :=
  let status := crates.statusText response.status
  if response.status ≠ 202 then
    if isSuccess response.status then
      .error (.transient (s!"xsos returned unexpected HTTP {status}; report acknowledgements require " ++
        "HTTP 202 Accepted"))
    else classifyXsosResponse wire ext crates response
  else if response.contentType.any isApplicationJson = false then
    .error (.transient s!"xsos returned HTTP {status} without Content-Type application/json")
  else
    match crates.ack response.body with
    | .error (line, column) =>
      .error (.transient (s!"xsos returned HTTP {status} with an invalid acknowledgement at " ++
        s!"line {line}, column {column}"))
    | .ok ack =>
      if ack.hostId ≠ report.host.id ∨ ack.reportId ≠ report.reportId then
        .error (.transient "xsos acknowledgement identity mismatch")
      else .ok ()

/-! ## An attempt -/

/-- An attempt that failed before its request, or the body of its request and what is made of the answer. -/
inductive SendAttempt
  | unsent (error : SendError)
  | post (body : List UInt8) (answer : Except HttpTransportError HttpResponse → Except SendError Unit)

namespace SendAttempt

/-- The body that is sent. -/
def sent : SendAttempt → Option (List UInt8)
  | unsent _ => none
  | post body _ => some body

def outcome : SendAttempt → Except HttpTransportError HttpResponse → Except SendError Unit
  | unsent e, _ => .error e
  | post _ answer, reply => answer reply

end SendAttempt

/-- `validate_report_identity` -/
def Reporter.validateReportIdentity (reporter : Reporter) (report : ClientReport) : Except Error Unit := do
  let own ← forInstance report.host.id
  reporter.identity.ensureMatches own

/-- `send_xsos_inner` -/
def sendXsosInner (reporter : Reporter) (now : DateTime) (report : ClientReport)
    (queuedBody : Option (List UInt8)) : SendAttempt :=
  match prepareReportBody wire crates now report queuedBody with
  | .error e => .unsent e
  | .ok (bounded, body) =>
    match reporter.validateReportIdentity bounded with
    | .error _ => .unsent .identityMismatch
    | .ok () =>
      if ("Bearer " ++ reporter.token).toList.all isHeaderChar = false then
        .unsent (.transient "invalid host authorization header")
      else
        .post body fun
          | .error e => .error (.transient ("xsos request failed: " ++ crates.transportText e))
          | .ok response => validateXsosAck wire ext crates response bounded

/-- `send_queued_xsos`: the clock is not asked. -/
def sendQueuedXsos (reporter : Reporter) (pending : PendingReport) : SendAttempt :=
  sendXsosInner wire ext crates reporter 0 pending.report (some pending.body)

/-! ## What becomes of the record -/

inductive FailureDisposition
  | discard
  | retain
  | quarantine (reason : QuarantineReason)
  deriving DecidableEq, Repr

/-- `HostDeliveryAdapter::disposition` -/
def disposition (error : SendError) : FailureDisposition :=
  if error = .identityMismatch then .quarantine .identityMismatch
  else if error.isPermanent then .discard
  else .retain

/-- What a batch reports to its adapter about a record. -/
inductive Fate
  | delivered
  | rejected (error : SendError)
  | quarantined (reason : QuarantineReason) (error : SendError)
  | retained (error : SendError)
  deriving DecidableEq

/-- `deliver_batch`, for one record: acknowledged or discarded it is acknowledged to the queue, else it is quarantined
or stays. -/
structure BatchRuntime {σ : Type} (inner : RuntimeSpool σ) where
  settle : (SendError → FailureDisposition) → PendingReport → Except SendError Unit → σ → Fate × σ
  settle_ok : ∀ d p s, settle d p (.ok ()) s = (.delivered, (inner.ack p.recordId s).2)
  settle_discard : ∀ d p e s, d e = .discard → settle d p (.error e) s = (.rejected e, (inner.ack p.recordId s).2)
  settle_quarantine : ∀ d p e s reason, d e = .quarantine reason →
    settle d p (.error e) s = (.quarantined reason e, (inner.quarantine p.recordId reason s).2)
  settle_retain : ∀ d p e s, d e = .retain → settle d p (.error e) s = (.retained e, s)

/-- What `classify_failure` does with the error that a record was retained with, under the lock of the state. -/
def withdrawal (revision : Revision) : Fate → Inputs → StateTx Bool
  | .retained e, i =>
    if e.isUnauthorized then
      markReauthRequiredIfCurrent ext revision ("delivery requires authorization recovery: " ++ e.stableCode) i
    else pure false
  | _, _ => pure false

/-- What the driver is told of a withdrawal. -/
def withdrawalResponse : Except Error Bool → Prog Disk Inputs Request Reply DeliveryResponse
  | .ok false => .ret .retryAfterRecovery
  | .ok true => .ret .authorizationRequired
  | .error _ => .ret .authorizationRequired

/-- `classify_failure` runs it, and nothing else. -/
theorem classifyFailure_eq (revision : Revision) {fate : Fate} {e : SendError} (hfate : fate = .retained e) :
    HostDeliveryDriver.classifyFailure ext revision e =
      if e.isUnauthorized = false then .ret .retry
      else Prog.bind (transaction (withdrawal ext revision fate)) withdrawalResponse := by
  subst hfate
  unfold HostDeliveryDriver.classifyFailure
  by_cases h : e.isUnauthorized = false
  · rw [if_pos h, if_pos h]
  · rw [if_neg h, if_neg h]
    rw [Bool.not_eq_false] at h
    have hsame : withdrawal ext revision (.retained e) =
        markReauthRequiredIfCurrent ext revision ("delivery requires authorization recovery: " ++ e.stableCode) := by
      funext i
      rw [withdrawal, if_pos h]
    rw [hsame]
    refine congrArg (Prog.bind _) (funext fun x => ?_)
    rcases x with e | (_ | _) <;> rfl

end

end Xsoc
