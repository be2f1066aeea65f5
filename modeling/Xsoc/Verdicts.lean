import Xsoc.Driver
import Xsoc.Report.Selfsame
import Xsoc.Transport

/-!
# Verdicts

A queued report is deleted, and a credential withdrawn, only at the word of the server.

* `prepareReportBody_queued` : a record that `oldest` returns is sent as it was queued;
* `Acknowledged`, `Refused` : what the server has to say, and to whom;
* `classify_permanent`, `classify_unauthorized`, `validate_ok` : what the client makes of it;
* `Verdict`, `delivery_verdict` : one attempt, with every answer.
-/

set_option autoImplicit false

namespace Xsoc

open Durable

section

variable (wire : Wire) (ext : External) (crates : DeliveryCrates)

/-! ## What is sent -/

/-- A record that `oldest` returns is prepared as it was queued. -/
theorem prepareReportBody_queued {record : SpoolRecord} {report : ClientReport} (h : ValidRecord wire record report)
    (hlimit : record.payload.length ≤ wire.maxBodyBytes) (now : DateTime) :
    prepareReportBody wire crates now report (some record.payload) = .ok (report, record.payload) := by
  obtain ⟨canonical, body, hcanonical, hequal⟩ := h.canonical
  have hself : (report == report) = true := RightSelf.self hequal
  simp only [prepareReportBody, h.decoded, hcanonical]
  rw [if_neg (Nat.not_lt.mpr hlimit), if_neg (by rw [bne, hself]; exact Bool.false_ne_true),
    if_neg (by rw [bne, hequal]; exact Bool.false_ne_true)]

/-- A reporter carries a well-formed identity. -/
def Reporter.Identified (reporter : Reporter) : Prop :=
  forInstance reporter.identity.instanceId = .ok reporter.identity

theorem validateReportIdentity_eq_ok {reporter : Reporter} (hid : reporter.Identified) (report : ClientReport) :
    reporter.validateReportIdentity report = .ok () ↔ report.host.id = reporter.identity.instanceId := by
  constructor
  · intro h
    obtain ⟨own, hown, hmatch⟩ := Except.bind_eq_ok.mp h
    obtain ⟨u, hvalue, rfl⟩ := forInstance_eq_ok hown
    have hsame : reporter.identity = identityOf u := check_eq_ok.mp hmatch
    rw [hvalue, hsame]
    rfl
  · intro h
    refine Except.bind_eq_ok.mpr ⟨reporter.identity, ?_, check_eq_ok.mpr rfl⟩
    rw [h]
    exact hid

/-! ## What the server says -/

/-- The server has taken the report: HTTP 202, with the strict acknowledgement of just this report. -/
def Acknowledged (report : ClientReport) (reply : Except HttpTransportError HttpResponse) : Prop :=
  ∃ response ack, reply = .ok response ∧ response.status = 202 ∧
    response.contentType.any isApplicationJson = true ∧ crates.ack response.body = .ok ack ∧
    ack.hostId = report.host.id ∧ ack.reportId = report.reportId

/-- The server refuses for good: this status, and a strict envelope with this code that is not retryable. -/
def Refused (status : Nat) (code : String) (reply : Except HttpTransportError HttpResponse) : Prop :=
  ∃ response e, reply = .ok response ∧ response.status = status ∧
    response.contentType.any isApplicationJson = true ∧ ext.errorEnvelope response.body = some e ∧
    e.code = code ∧ e.retryable = false

/-- The refusals that are about the report. -/
def rejections : List (Nat × String) :=
  [(400, "bad_request"), (400, "unsupported_client_protocol"), (409, "conflict"), (413, "payload_too_large"),
    (403, "client_host_mismatch")]

theorem refuses_iff {code : String} {response : HttpResponse} :
    refuses code (responseEnvelope ext response) = true ↔ response.contentType.any isApplicationJson = true ∧
      ∃ e, ext.errorEnvelope response.body = some e ∧ e.code = code ∧ e.retryable = false := by
  unfold responseEnvelope
  by_cases hjson : response.contentType.any isApplicationJson = true
  · rw [if_pos hjson]
    cases ext.errorEnvelope response.body with
    | none => simp [refuses]
    | some e => simp [refuses, hjson]
  · rw [if_neg hjson]
    simp [refuses, hjson]

theorem refused_iff {status : Nat} {code : String} {response : HttpResponse} :
    Refused ext status code (.ok response) ↔
      response.status = status ∧ refuses code (responseEnvelope ext response) = true := by
  rw [refuses_iff]
  constructor
  · rintro ⟨_, e, h, hstatus, hjson, he⟩
    cases h
    exact ⟨hstatus, hjson, e, he⟩
  · rintro ⟨hstatus, hjson, e, he⟩
    exact ⟨response, e, rfl, hstatus, hjson, he⟩

/-! ## What the client makes of it -/

/-- What the answer comes to: an acknowledgement, a refusal of the report or of the credential, or nothing. -/
structure Reads (report : ClientReport) (reply : Except HttpTransportError HttpResponse)
    (outcome : Except SendError Unit) : Prop where
  ok : outcome = .ok () ↔ Acknowledged crates report reply
  permanent : (∃ e, outcome = .error e ∧ e.isPermanent = true) ↔ ∃ v ∈ rejections, Refused ext v.1 v.2 reply
  unauthorized : (∃ e, outcome = .error e ∧ e.isUnauthorized = true) ↔ Refused ext 401 "unauthorized" reply
  mismatch : outcome ≠ .error .identityMismatch

/-- The answer is a refusal of the report, as its status and its envelope say. -/
def refusesReport (status : Nat) (envelope : Option ErrorEnvelope) : Bool :=
  rejections.any fun v => v.1 == status && refuses v.2 envelope

theorem refusesReport_iff {response : HttpResponse} :
    refusesReport response.status (responseEnvelope ext response) = true ↔
      ∃ v ∈ rejections, Refused ext v.1 v.2 (.ok response) := by
  simp only [refusesReport, List.any_eq_true, Bool.and_eq_true, beq_iff_eq, refused_iff]
  exact exists_congr fun v => and_congr_right fun _ => and_congr_left fun _ => eq_comm

/-- Every answer but a success is an error, permanent for a refusal of the report and unauthorized for one of the
credential. -/
theorem classify_error {response : HttpResponse} (hsuccess : isSuccess response.status = false) :
    ∃ e, classifyXsosResponse wire ext crates response = .error e ∧ e ≠ .identityMismatch ∧
      e.isPermanent = refusesReport response.status (responseEnvelope ext response) ∧
      e.isUnauthorized = (response.status == 401 && refuses "unauthorized" (responseEnvelope ext response)) := by
  unfold classifyXsosResponse
  simp only [hsuccess]
  generalize responseEnvelope ext response = envelope
  generalize response.status = status
  rw [if_neg Bool.false_ne_true]
  by_cases h400 : status = 400
  · subst h400
    rw [if_pos rfl]
    cases hprotocol : refuses "unsupported_client_protocol" envelope with
    | true => exact ⟨_, rfl, by simp, by simp [refusesReport, rejections, hprotocol, SendError.isPermanent], rfl⟩
    | false =>
      cases hbad : refuses "bad_request" envelope with
      | true => exact ⟨_, rfl, by simp, by simp [refusesReport, rejections, hbad, SendError.isPermanent], rfl⟩
      | false =>
        have hneither : refusesReport 400 envelope = false := by simp [refusesReport, rejections, hprotocol, hbad]
        rw [if_neg Bool.false_ne_true, if_neg Bool.false_ne_true, hneither]
        split
        · exact ⟨_, rfl, by simp, rfl, rfl⟩
        · exact ⟨_, rfl, by simp, rfl, rfl⟩
  rw [if_neg h400]
  by_cases h409 : status = 409
  · subst h409
    rw [if_pos rfl]
    cases hcode : refuses "conflict" envelope <;>
      exact ⟨_, rfl, by simp, by simp [refusesReport, rejections, hcode, SendError.isPermanent], rfl⟩
  rw [if_neg h409]
  by_cases h413 : status = 413
  · subst h413
    rw [if_pos rfl]
    cases hcode : refuses "payload_too_large" envelope <;>
      exact ⟨_, rfl, by simp, by simp [refusesReport, rejections, hcode, SendError.isPermanent], rfl⟩
  rw [if_neg h413]
  by_cases h421 : status = 421
  · subst h421
    exact ⟨_, if_pos rfl, by simp, rfl, rfl⟩
  rw [if_neg h421]
  by_cases h401 : status = 401
  · subst h401
    rw [if_pos rfl]
    cases hcode : refuses "unauthorized" envelope <;>
      exact ⟨_, rfl, by simp, rfl, by simp [SendError.isUnauthorized]⟩
  rw [if_neg h401]
  have h401 : (status == 401) = false := beq_eq_false_iff_ne.mpr h401
  by_cases h403 : status = 403
  · subst h403
    rw [if_pos rfl]
    cases hcode : refuses "client_host_mismatch" envelope <;>
      exact ⟨_, rfl, by simp, by simp [refusesReport, rejections, hcode, SendError.isPermanent], rfl⟩
  rw [if_neg h403]
  refine ⟨_, rfl, by simp, ?_, by rw [h401]; rfl⟩
  have hother : ∀ n, status ≠ n → (n == status) = false := fun n hn => beq_eq_false_iff_ne.mpr hn.symm
  simp [refusesReport, rejections, hother 400 h400, hother 409 h409, hother 413 h413, hother 403 h403,
    SendError.isPermanent]

/-- Only a success is not classified. -/
theorem classify_reads {response : HttpResponse} (report : ClientReport)
    (hsuccess : isSuccess response.status = false) :
    Reads ext crates report (.ok response) (classifyXsosResponse wire ext crates response) := by
  obtain ⟨e, hclassify, hmismatch, hpermanent, hunauthorized⟩ := classify_error wire ext crates hsuccess
  rw [hclassify]
  refine ⟨iff_of_false (by simp) ?_, ?_, ?_, by simpa using hmismatch⟩
  · rintro ⟨_, ack, h, hstatus, -⟩
    cases h
    rw [hstatus] at hsuccess
    cases hsuccess
  · rw [← refusesReport_iff, ← hpermanent]
    simp
  · rw [refused_iff, ← beq_iff_eq, ← Bool.and_eq_true, ← hunauthorized]
    simp

/-- What comes of an answer that is a success in form only. -/
theorem reads_transient {report : ClientReport} {response : HttpResponse} (text : String)
    (hsuccess : isSuccess response.status = true) (h : ¬ Acknowledged crates report (.ok response)) :
    Reads ext crates report (.ok response) (.error (.transient text)) := by
  have hrefused : ∀ {status : Nat} {code : String}, isSuccess status = false →
      ¬ Refused ext status code (.ok response) := by
    intro status code hstatus hrefused
    rw [← ((refused_iff ext).mp hrefused).1, hsuccess] at hstatus
    cases hstatus
  refine ⟨iff_of_false (by simp) h, iff_of_false (by simp [SendError.isPermanent]) ?_,
    iff_of_false (by simp [SendError.isUnauthorized]) (hrefused rfl), by simp⟩
  rintro ⟨v, hv, hrefusal⟩
  have hfailures : ∀ v ∈ rejections, isSuccess v.1 = false := by decide
  exact hrefused (hfailures v hv) hrefusal

theorem validate_reads (response : HttpResponse) (report : ClientReport) :
    Reads ext crates report (.ok response) (validateXsosAck wire ext crates response report) := by
  unfold validateXsosAck
  simp only
  by_cases haccepted : response.status = 202
  · have hsuccess : isSuccess response.status = true := by rw [haccepted]; rfl
    rw [if_neg (not_not_intro haccepted)]
    by_cases hjson : response.contentType.any isApplicationJson = true
    · rw [if_neg (by rw [hjson]; simp)]
      rcases hack : crates.ack response.body with ⟨line, column⟩ | ack
      · refine reads_transient ext crates _ hsuccess ?_
        rintro ⟨_, ack, h, -, -, hok, -⟩
        cases h
        rw [hack] at hok
        cases hok
      · by_cases hown : ack.hostId ≠ report.host.id ∨ ack.reportId ≠ report.reportId
        · simp only
          rw [if_pos hown]
          refine reads_transient ext crates _ hsuccess ?_
          rintro ⟨_, ack', h, -, -, hok, hhost, hreport⟩
          cases h
          rw [hack] at hok
          cases hok
          exact hown.elim (absurd hhost) (absurd hreport)
        · simp only
          rw [if_neg hown]
          rw [not_or, not_not, not_not] at hown
          have hacknowledged : Acknowledged crates report (.ok response) :=
            ⟨response, ack, rfl, haccepted, hjson, hack, hown⟩
          refine ⟨iff_of_true rfl hacknowledged, iff_of_false (by simp) ?_, iff_of_false (by simp) ?_, by simp⟩
          · rintro ⟨v, hv, hrefusal⟩
            have hfailures : ∀ v ∈ rejections, v.1 ≠ 202 := by decide
            exact hfailures v hv (((refused_iff ext).mp hrefusal).1.symm.trans haccepted)
          · rw [refused_iff, haccepted]
            simp
    · rw [if_pos (by simpa using hjson)]
      refine reads_transient ext crates _ hsuccess ?_
      rintro ⟨_, ack, h, -, hjson', -⟩
      cases h
      exact hjson hjson'
  · rw [if_pos haccepted]
    cases hsuccess : isSuccess response.status with
    | true =>
      rw [if_pos rfl]
      refine reads_transient ext crates _ hsuccess ?_
      rintro ⟨_, ack, h, hstatus, -⟩
      cases h
      exact haccepted hstatus
    | false =>
      rw [if_neg Bool.false_ne_true]
      exact classify_reads wire ext crates report hsuccess

/-- A request without an answer comes to nothing. -/
theorem reads_unanswered (report : ClientReport) (failure : HttpTransportError) (text : String) :
    Reads ext crates report (.error failure) (.error (.transient text)) := by
  have hrefused : ∀ {status : Nat} {code : String}, ¬ Refused ext status code (.error failure) := by
    rintro status code ⟨_, _, h, -⟩
    cases h
  refine ⟨iff_of_false (by simp) ?_, iff_of_false (by simp [SendError.isPermanent]) (fun ⟨v, _, h⟩ => hrefused h),
    iff_of_false (by simp [SendError.isUnauthorized]) hrefused, by simp⟩
  rintro ⟨_, _, h, -⟩
  cases h

/-! ## The credential -/

/-- The revision is the one bound on disk, and the authorization file can be read. -/
def Withdrawable (revision : Revision) (d : Disk) : Prop :=
  ∃ b auth, HostCredentials.binding ext.url d = .ok (some b) ∧ b.revision = revision ∧
    localAuthStateUnlocked d.authorization = .ok (some auth)

/-- The mark of a credential that the server has refused. -/
def reauthorization (i : Inputs) : LocalAuthState :=
  ⟨.current, .reauthorizationRequired, "delivery requires authorization recovery: unauthorized", i.changedAt⟩

/-- A refused credential is marked where it is bound, in one write. -/
theorem run_markReauthRequired {revision : Revision} {d : Disk} (h : Withdrawable ext revision d) (i : Inputs) :
    markReauthRequiredIfCurrent ext revision (reauthorization i).reason i d =
      ([putAuth ext.serde (reauthorization i) d], .ok true) := by
  obtain ⟨b, auth, hbinding, hrevision, hauth⟩ := h
  have hpersist : persistAuthStateUnlocked ext (reauthorization i) d =
      ([putAuth ext.serde (reauthorization i) d], .ok ()) := by
    apply run_persistAuthStateUnlocked
    have hreason : byteLen (Json.text "delivery requires authorization recovery: unauthorized") ≤ 1024 := by
      decide +kernel
    exact hreason
  unfold markReauthRequiredIfCurrent HostCredentials.invalidate
  rw [Tx.run_bind, Tx.run_bind, Tx.run_read, hbinding]
  simp only [if_neg (not_not_intro hrevision), Tx.last_nil]
  rw [Tx.run_bind, Tx.run_read, hauth]
  simp only [Tx.last_nil]
  rw [Tx.run_bind, Tx.run_ofExcept]
  simp only [okOr, Except.map, Tx.last_nil]
  rw [reauthorization] at hpersist ⊢
  rw [Tx.run_bind, hpersist]
  rfl

/-- And nowhere else. -/
theorem run_markReauthRequired_unbound {revision : Revision} {d : Disk} (h : ¬ Withdrawable ext revision d)
    (reason : String)
    (i : Inputs) : (markReauthRequiredIfCurrent ext revision reason i d).1 = [] := by
  unfold markReauthRequiredIfCurrent HostCredentials.invalidate
  rw [Tx.run_bind, Tx.run_bind, Tx.run_read]
  rcases hbinding : HostCredentials.binding ext.url d with e | ⟨_ | b⟩
  · rfl
  · rfl
  · by_cases hrevision : b.revision = revision
    · simp only [if_neg (not_not_intro hrevision), Tx.last_nil]
      rw [Tx.run_bind, Tx.run_read]
      rcases hauth : localAuthStateUnlocked d.authorization with e | ⟨_ | auth⟩
      · rfl
      · rfl
      · exact absurd ⟨b, auth, hbinding, hrevision, hauth⟩ h
    · simp only [if_pos hrevision]
      rfl

/-! ## One attempt -/

variable {σ : Type} {inner : RuntimeSpool σ} (runtime : BatchRuntime inner)

/-- The header of the reporter's token is one. -/
def Reporter.Authenticates (reporter : Reporter) : Prop :=
  ("Bearer " ++ reporter.token).toList.all isHeaderChar = true

/-- What comes of one attempt to deliver a record, from the answer that a request would get: its fate, and the spool. -/
def deliver (reporter : Reporter) (pending : PendingReport) (reply : Except HttpTransportError HttpResponse) (s : σ) :
    Fate × σ :=
  runtime.settle disposition pending ((sendQueuedXsos wire ext crates reporter pending).outcome reply) s

/-- Nothing is deleted and no credential is withdrawn but at the server's word. -/
structure Verdict (inner : RuntimeSpool σ) (reporter : Reporter) (pending : PendingReport)
    (reply : Except HttpTransportError HttpResponse) (sent : Option (List UInt8)) (s : σ)
      (settled : Fate × σ) : Prop where
  /-- What is sent is what was queued, and only for the host of the credential. -/
  sent_iff : ∀ body, sent = some body ↔
    body = pending.body ∧ pending.report.host.id = reporter.identity.instanceId ∧ reporter.Authenticates
  delivered_iff : settled = (.delivered, (inner.ack pending.recordId s).2) ↔
    sent.isSome ∧ Acknowledged crates pending.report reply
  rejected_iff : (∃ e, settled = (.rejected e, (inner.ack pending.recordId s).2)) ↔
    sent.isSome ∧ ∃ v ∈ rejections, Refused ext v.1 v.2 reply
  quarantined_iff : settled = (.quarantined .identityMismatch .identityMismatch,
      (inner.quarantine pending.recordId .identityMismatch s).2) ↔
    pending.report.host.id ≠ reporter.identity.instanceId
  /-- In every other case the record stays. -/
  retained : pending.report.host.id = reporter.identity.instanceId →
    ¬ (sent.isSome ∧ Acknowledged crates pending.report reply) →
    ¬ (sent.isSome ∧ ∃ v ∈ rejections, Refused ext v.1 v.2 reply) → ∃ e, settled = (.retained e, s)
  /-- The credential is marked where it is refused and bound, and the record stays. -/
  withdrawn_iff : ∀ i d, (withdrawal ext reporter.credentialRevision settled.1 i d).1 ≠ [] ↔
    (sent.isSome ∧ Refused ext 401 "unauthorized" reply) ∧ Withdrawable ext reporter.credentialRevision d
  withdrawn : sent.isSome → Refused ext 401 "unauthorized" reply → settled.2 = s ∧
    ∀ i d, Withdrawable ext reporter.credentialRevision d →
      withdrawal ext reporter.credentialRevision settled.1 i d = ([putAuth ext.serde (reauthorization i) d], .ok true)
  /-- Nothing else is done about a record that stays. -/
  classified : ∀ e, settled.1 = .retained e →
    HostDeliveryDriver.classifyFailure ext reporter.credentialRevision e =
      if e.isUnauthorized = false then .ret .retry
      else Prog.bind (transaction (withdrawal ext reporter.credentialRevision settled.1)) withdrawalResponse

theorem disposition_eq_retain {e : SendError} (hmismatch : e ≠ .identityMismatch) (h : e.isPermanent = false) :
    disposition e = .retain := by
  rw [disposition, if_neg hmismatch, h, if_neg Bool.false_ne_true]

theorem disposition_eq_discard {e : SendError} (h : e.isPermanent = true) : disposition e = .discard := by
  have hmismatch : e ≠ .identityMismatch := by
    rintro rfl
    cases h
  rw [disposition, if_neg hmismatch, if_pos h]

/-- A fate that is not a refused credential withdraws nothing. -/
theorem withdrawal_of_authorized {revision : Revision} {fate : Fate}
    (h : ∀ e, fate = .retained e → e.isUnauthorized = false) (i : Inputs) (d : Disk) :
    (withdrawal ext revision fate i d).1 = [] := by
  cases fate with
  | retained e =>
    rw [withdrawal, h e rfl, if_neg Bool.false_ne_true]
    rfl
  | delivered | rejected e | quarantined reason e => rfl

theorem withdrawal_of_unauthorized {revision : Revision} {e : SendError} (h : e.isUnauthorized = true) (i : Inputs) :
    withdrawal ext revision (.retained e) i =
      markReauthRequiredIfCurrent ext revision (reauthorization i).reason i := by
  cases e with
  | unauthorized text => rfl
  | identityMismatch | permanent text | unsupportedProtocol text | transient text | futureTimestamp text => cases h

/-- An attempt without a request. -/
theorem verdict_unsent {reporter : Reporter} {pending : PendingReport}
    (reply : Except HttpTransportError HttpResponse) (s : σ) {e : SendError} (hpermanent : e.isPermanent = false)
    (he : e.isUnauthorized = false)
    (hmismatch : e = .identityMismatch ↔ pending.report.host.id ≠ reporter.identity.instanceId)
    (hunsent : ¬ (pending.report.host.id = reporter.identity.instanceId ∧ reporter.Authenticates)) :
    Verdict ext crates inner reporter pending reply none s (runtime.settle disposition pending (.error e) s) := by
  by_cases heq : e = .identityMismatch
  · have hother := hmismatch.mp heq
    subst heq
    rw [runtime.settle_quarantine disposition pending .identityMismatch s .identityMismatch rfl]
    refine ⟨fun body => iff_of_false (by simp) fun h => hunsent h.2, iff_of_false (by simp) (by simp),
      iff_of_false (by simp) (by simp), iff_of_true rfl hother, fun h => absurd h hother, ?_, by simp,
      fun _ => classifyFailure_eq ext _⟩
    exact fun i d => iff_of_false (not_not_intro (withdrawal_of_authorized ext (by simp) i d)) (by simp)
  · have hsame : pending.report.host.id = reporter.identity.instanceId := by
      by_contra hother
      exact heq (hmismatch.mpr hother)
    rw [runtime.settle_retain disposition pending e s (disposition_eq_retain heq hpermanent)]
    refine ⟨fun body => iff_of_false (by simp) fun h => hunsent h.2, iff_of_false (by simp) (by simp),
      iff_of_false (by simp) (by simp), iff_of_false (by simp) (not_not_intro hsame), fun _ _ _ => ⟨e, rfl⟩, ?_,
      by simp, fun _ => classifyFailure_eq ext _⟩
    refine fun i d => iff_of_false (not_not_intro (withdrawal_of_authorized ext ?_ i d)) (by simp)
    rintro e' heq'
    cases heq'
    exact he

/-- An attempt with a request, and what is made of its answer. -/
theorem verdict_sent {reporter : Reporter} {pending : PendingReport}
    {reply : Except HttpTransportError HttpResponse} (s : σ) {outcome : Except SendError Unit}
    (hreads : Reads ext crates pending.report reply outcome)
    (hsame : pending.report.host.id = reporter.identity.instanceId) (hauthenticates : reporter.Authenticates) :
    Verdict ext crates inner reporter pending reply (some pending.body) s
      (runtime.settle disposition pending outcome s) := by
  have hsent : ∀ body, some pending.body = some body ↔
      body = pending.body ∧ pending.report.host.id = reporter.identity.instanceId ∧ reporter.Authenticates :=
    fun body => ⟨fun h => ⟨(Option.some.inj h).symm, hsame, hauthenticates⟩, fun h => by rw [h.1]⟩
  obtain ⟨hok, hpermanent, hunauthorized, hmismatch⟩ := hreads
  rcases outcome with e | ⟨⟨⟩⟩
  · have hnot : ¬ Acknowledged crates pending.report reply := fun h => by cases hok.mpr h
    have hne : e ≠ .identityMismatch := fun h => hmismatch (by rw [h])
    cases hkind : e.isPermanent with
    | true =>
      have hrejected := hpermanent.mp ⟨e, rfl, hkind⟩
      have hauthorized : e.isUnauthorized = false := by
        cases e with
        | unauthorized text => cases hkind
        | identityMismatch | permanent text | unsupportedProtocol text | transient text | futureTimestamp text => rfl
      have hkept : ¬ Refused ext 401 "unauthorized" reply := by
        intro h
        obtain ⟨e', he', hunauth⟩ := hunauthorized.mpr h
        cases he'
        rw [hauthorized] at hunauth
        cases hunauth
      rw [runtime.settle_discard disposition pending e s (disposition_eq_discard hkind)]
      refine ⟨hsent, iff_of_false (by simp) fun h => hnot h.2, iff_of_true ⟨e, rfl⟩ ⟨rfl, hrejected⟩,
        iff_of_false (by simp) (not_not_intro hsame), fun _ _ h => absurd ⟨rfl, hrejected⟩ h, ?_,
        fun _ h => absurd h hkept, fun _ => classifyFailure_eq ext _⟩
      exact fun i d => iff_of_false (not_not_intro (withdrawal_of_authorized ext (by simp) i d))
        fun h => hkept h.1.2
    | false =>
      have hkept : ¬ ∃ v ∈ rejections, Refused ext v.1 v.2 reply := by
        intro h
        obtain ⟨e', he', hperm⟩ := hpermanent.mpr h
        cases he'
        rw [hkind] at hperm
        cases hperm
      rw [runtime.settle_retain disposition pending e s (disposition_eq_retain hne hkind)]
      refine ⟨hsent, iff_of_false (by simp) fun h => hnot h.2, iff_of_false (by simp) fun h => hkept h.2,
        iff_of_false (by simp) (not_not_intro hsame), fun _ _ _ => ⟨e, rfl⟩, fun i d => ?_, fun _ h => ⟨rfl, ?_⟩,
        fun _ => classifyFailure_eq ext _⟩
      · cases hrefused : e.isUnauthorized with
        | false =>
          refine iff_of_false (not_not_intro (withdrawal_of_authorized ext ?_ i d)) ?_
          · rintro e' heq'
            cases heq'
            exact hrefused
          · rintro ⟨⟨-, h⟩, -⟩
            obtain ⟨e', he', hunauth⟩ := hunauthorized.mpr h
            cases he'
            rw [hrefused] at hunauth
            cases hunauth
        | true =>
          have hrefusal := hunauthorized.mp ⟨e, rfl, hrefused⟩
          rw [withdrawal_of_unauthorized ext hrefused]
          by_cases hbound : Withdrawable ext reporter.credentialRevision d
          · rw [run_markReauthRequired ext hbound]
            exact iff_of_true (by simp) ⟨⟨rfl, hrefusal⟩, hbound⟩
          · rw [run_markReauthRequired_unbound ext hbound]
            exact iff_of_false (by simp) fun h => hbound h.2
      · intro i d hbound
        obtain ⟨e', he', hunauth⟩ := hunauthorized.mpr h
        cases he'
        rw [withdrawal_of_unauthorized ext hunauth, run_markReauthRequired ext hbound]
  · have hacknowledged := hok.mp rfl
    have hnone : ∀ p : SendError → Prop, ¬ ∃ e, (Except.ok () : Except SendError Unit) = .error e ∧ p e := by simp
    have hkept := mt hpermanent.mpr (hnone _)
    have hunrefused := mt hunauthorized.mpr (hnone _)
    rw [runtime.settle_ok]
    refine ⟨hsent, iff_of_true rfl ⟨rfl, hacknowledged⟩, iff_of_false (by simp) fun h => hkept h.2,
      iff_of_false (by simp) (not_not_intro hsame), fun _ h => absurd ⟨rfl, hacknowledged⟩ h, ?_,
      fun _ h => absurd h hunrefused, fun _ => classifyFailure_eq ext _⟩
    exact fun i d => iff_of_false (not_not_intro (withdrawal_of_authorized ext (by simp) i d))
      fun h => hunrefused h.1.2

/-- For every record that `oldest` returns, every credential and every answer. -/
theorem delivery_verdict {reporter : Reporter} {pending : PendingReport} {record : SpoolRecord}
    (hid : reporter.Identified) (hvalid : ValidRecord wire record pending.report)
    (hbody : pending.body = record.payload) (hlimit : record.payload.length ≤ wire.maxBodyBytes)
    (reply : Except HttpTransportError HttpResponse) (s : σ) :
    Verdict ext crates inner reporter pending reply (sendQueuedXsos wire ext crates reporter pending).sent s
      (deliver wire ext crates runtime reporter pending reply s) := by
  have hprepared := prepareReportBody_queued wire crates hvalid hlimit 0
  rw [← hbody] at hprepared
  unfold deliver sendQueuedXsos sendXsosInner
  simp only [hprepared]
  rcases hmatch : reporter.validateReportIdentity pending.report with e | ⟨⟨⟩⟩
  · have hother : pending.report.host.id ≠ reporter.identity.instanceId := by
      intro h
      rw [(validateReportIdentity_eq_ok hid pending.report).mpr h] at hmatch
      cases hmatch
    exact verdict_unsent ext crates runtime reply s rfl rfl (iff_of_true rfl hother) fun h => hother h.1
  · have hsame := (validateReportIdentity_eq_ok hid pending.report).mp hmatch
    simp only
    by_cases hauthenticates : reporter.Authenticates
    · rw [if_neg (by rw [hauthenticates]; simp)]
      refine verdict_sent ext crates runtime s ?_ hsame hauthenticates
      rcases reply with failure | response
      · exact reads_unanswered ext crates pending.report failure _
      · exact validate_reads wire ext crates response pending.report
    · rw [if_pos (Bool.eq_false_iff.mpr hauthenticates)]
      exact verdict_unsent ext crates runtime reply s rfl rfl
        (iff_of_false (by simp) (not_not_intro hsame)) fun h => hauthenticates h.2

end

/-! ## A delivery in memory -/

/-- The acknowledgement of the small report. -/
def quietAck : List UInt8 :=
  Json.bytes ("\x7b\"host_id\":\"123e4567-e89b-42d3-a456-426614174000\"," ++
    "\"report_id\":\"7d444840-9dc0-41d1-b245-5ffdce74fad2\",\"accepted\":true," ++
    "\"received_at\":\"1970-01-01T00:00:00Z\"\x7d")

/-- Crates that know this acknowledgement. -/
def quietCrates : DeliveryCrates where
  statusText n := if n = 202 then "202 Accepted" else toString n
  transportText _ := "HTTP transport failed"
  errorText _ := "error"
  ack body := if body = quietAck then .ok ⟨quietReport.host.id, quietReport.reportId⟩ else .error (1, 1)

def plainRuntime {σ : Type} (inner : RuntimeSpool σ) : BatchRuntime inner where
  settle d p outcome s :=
    match outcome with
    | .ok () => (.delivered, (inner.ack p.recordId s).2)
    | .error e =>
      match d e with
      | .discard => (.rejected e, (inner.ack p.recordId s).2)
      | .quarantine reason => (.quarantined reason e, (inner.quarantine p.recordId reason s).2)
      | .retain => (.retained e, s)
  settle_ok _ _ _ := rfl
  settle_discard d p e s h := by simp only [h]
  settle_quarantine d p e s reason h := by simp only [h]
  settle_retain d p e s h := by simp only [h]

def quietReporter : Reporter where
  identity := ⟨"xsos", quietReport.host.id, hostReportContract⟩
  endpoint := "https://x/api/v1/client-reports"
  token := "0123456789abcdef"
  credentialRevision := (uuidOf 2, uuidOf 7)
  otlpEndpoint := none
  otlpToken := none

def quietRecord : SpoolRecord := ⟨"0", hostReportContract, (Written.json quietReport).getD []⟩

def quietPending : PendingReport := ⟨"0", quietReport, quietRecord.payload⟩

theorem delivery_verdict_quiet :
    Verdict sampleServer quietCrates memorySpool quietReporter quietPending
      (.ok ⟨202, some "application/json", quietAck⟩)
      (sendQueuedXsos (compactWire [quietReport]) sampleServer quietCrates quietReporter quietPending).sent
      ([quietRecord], [])
      (deliver (compactWire [quietReport]) sampleServer quietCrates
        (plainRuntime memorySpool) quietReporter quietPending
        (.ok ⟨202, some "application/json", quietAck⟩) ([quietRecord], [])) := by
  have hexamine : examine (compactWire [quietReport]) quietRecord = some quietPending := by decide +kernel
  have hid : quietReporter.Identified := by
    have h : forInstance quietReporter.identity.instanceId = .ok quietReporter.identity := by decide +kernel
    exact h
  exact delivery_verdict (compactWire [quietReport]) sampleServer quietCrates (plainRuntime memorySpool) hid
    ((examine_eq_some _).mp hexamine).1 rfl (by decide +kernel) _ _

end Xsoc
