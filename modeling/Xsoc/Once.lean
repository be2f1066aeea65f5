import Xsoc.Acceptance
import Xsoc.Verdicts

/-!
# One-shot delivery

`once` takes a sample, delivers what earlier runs have left, and then the sample. Before anything is sent the sample is
queued, so that a later run can go on from there; a shutdown may win at each of the three waits.

* `runOnce` : the run, in so many turns of its loop;
* `Spooled`, `Batches` : what the spool and the delivery of a batch are relied on for;
* `OnceAccount` : what has become of the sample; `one_shot_accounts` : every run ends with such an account.
-/

set_option autoImplicit false

namespace Xsoc

open Bounding Durable

inductive RunOnceOutcome
  | delivered
  | shutdown
  deriving DecidableEq

/-- `BatchOutcome` -/
inductive FlushOutcome
  | drained
  | batchComplete
  | failed (error : SendError)
  deriving DecidableEq

/-- What is done with the sample. -/
inductive OnceEvent
  | enqueue
  | post (body : List UInt8)
  deriving DecidableEq

/-- The store, and what was done so far. -/
structure Once (σ : Type) where
  store : σ
  events : List OnceEvent

/-- What a run meets. Where it waits, `none` says that the shutdown wins. -/
structure Surroundings (σ : Type) where
  /-- `SystemSampler::collect` before it bounds the report, given the length of the queue. -/
  sample : Nat → ClientReport
  sampledAt : DateTime
  /-- The clock, in each turn. -/
  clock : Nat → DateTime
  /-- `flush_spool` in each turn, which a shutdown may cut off. -/
  flush : Nat → σ → Option (Except Error FlushOutcome) × σ
  reply : Option (Except HttpTransportError HttpResponse)
  otlp : Option (Except Error Unit)
  /-- The display of a `SendError`. -/
  display : SendError → String

section

variable (wire : Wire) (ext : External) (crates : DeliveryCrates) {σ : Type} (inner : RuntimeSpool σ)
  (pendingCount : σ → Except Error Nat) (around : Surroundings σ) (reporter : Reporter)

/-- The sample of a run. -/
def collected (pending : Nat) : ClientReport := (boundReport wire around.sampledAt (around.sample pending)).value

/-- `spool.enqueue` -/
def enqueueSample (turn : Nat) (report : ClientReport) (w : Once σ) : Except Error Unit × Once σ :=
  let (result, store) := enqueue wire inner (around.clock turn) report w.store
  (result, ⟨store, w.events ++ [.enqueue]⟩)

/-- The sample is kept, and the run ends. -/
def retainOnceReport (turn : Nat) (report : ClientReport) (result : Except Error RunOnceOutcome) (w : Once σ) :
    Except Error RunOnceOutcome × Once σ :=
  match enqueueSample wire inner around turn report w with
  | (.ok (), w) => (result, w)
  | (.error e, w) => (.error e, w)

/-- `DeliveryQueue::acknowledge`, and then the run ends. -/
def acknowledgeOnce (queued : PendingReport) (result : Except Error RunOnceOutcome) (w : Once σ) :
    Except Error RunOnceOutcome × Once σ :=
  match inner.ack queued.recordId w.store with
  | (.ok (), store) => (result, { w with store := store })
  | (.error e, store) => (.error e, { w with store := store })

/-- What follows the answer to the request, or the shutdown that comes before. -/
def settleOnce (queued : PendingReport) (attempt : SendAttempt) (w : Once σ) : Except Error RunOnceOutcome × Once σ :=
  match around.reply with
  | none => (.ok .shutdown, w)
  | some reply =>
    match attempt.outcome reply with
    | .error error =>
      if error.isPermanent then
        acknowledgeOnce inner queued (.error (.context "report was rejected permanently and was not spooled"
          (.message (around.display error)))) w
      else (.error (.context "report was retained in the local spool" (.message (around.display error))), w)
    | .ok () =>
      acknowledgeOnce inner queued (match around.otlp with
        | none => .ok .shutdown
        -- a failure of the optional export is only logged
        | some _ => .ok .delivered) w

/-- From the queued sample on. -/
def deliverSample (turns : Nat) (report : ClientReport) (w : Once σ) :
    Option (Except Error RunOnceOutcome × Once σ) :=
  match oldest wire inner turns w.store with
  | none => none
  | some (.error e, store) => some (.error e, { w with store := store })
  | some (.ok none, store) =>
    some (.error (.message "current report disappeared from the local spool"), { w with store := store })
  | some (.ok (some queued), store) =>
    if queued.report.reportId ≠ report.reportId then
      some (.error (.message "another report appeared before the current one in the local spool"),
        { w with store := store })
    else
      let attempt := sendQueuedXsos wire ext crates reporter queued
      some (settleOnce inner around queued attempt ⟨store, w.events ++ (attempt.sent.map OnceEvent.post).toList⟩)

/-- The loop over what earlier runs have left, and the delivery of the sample after it. -/
def runOnceFrom (report : ClientReport) : Nat → Nat → Once σ → Option (Except Error RunOnceOutcome × Once σ)
  | 0, _, _ => none
  | turns + 1, turn, w =>
    match pendingCount w.store with
    | .error e => some (.error e, w)
    | .ok pending =>
      if 0 < pending then
        match around.flush turn w.store with
        | (none, store) =>
          some (retainOnceReport wire inner around turn report (.ok .shutdown) { w with store := store })
        | (some (.ok (.failed error)), store) =>
          some (retainOnceReport wire inner around turn report
            (.error (.context "current report was retained while stored reports remain pending"
              (.message (around.display error)))) { w with store := store })
        | (some (.ok _), store) => runOnceFrom report turns (turn + 1) { w with store := store }
        | (some (.error error), store) =>
          some (retainOnceReport wire inner around turn report
            (.error (.context "current report was retained because the local spool could not be flushed" error))
            { w with store := store })
      else
        -- the sample is on disk before the first request
        match enqueueSample wire inner around turn report w with
        | (.error e, w) => some (.error e, w)
        | (.ok (), w) => deliverSample wire ext crates inner around reporter (turns + 2) report w

/-- `run_once`, in so many turns of its loop. -/
def runOnce (turns : Nat) (s : σ) : Option (Except Error RunOnceOutcome × Once σ) :=
  match pendingCount s with
  | .error e => some (.error e, ⟨s, []⟩)
  | .ok pending =>
    runOnceFrom wire ext crates inner pendingCount around reporter (collected wire around pending) turns 0 ⟨s, []⟩

/-! ## What the run relies on -/

/-- The spool counts what is waiting, and adds and takes out one record at a time. -/
structure Spooled extends Fifo inner.queue where
  pendingCount_ok : ∀ {s : σ} {n : Nat}, pendingCount s = .ok n → n = (waiting s).length
  enqueue_ok : ∀ {contract : String} {at' : Int} {bytes : List UInt8} {s : σ},
    (inner.enqueue contract at' bytes s).1 = .ok () →
      (∃ id, waiting (inner.enqueue contract at' bytes s).2 = waiting s ++ [⟨id, contract, bytes⟩]) ∧
        aside (inner.enqueue contract at' bytes s).2 = aside s
  ack_ok : ∀ {s : σ} {record : SpoolRecord} {rest : List SpoolRecord}, waiting s = record :: rest →
    (inner.ack record.recordId s).1 = .ok () → waiting (inner.ack record.recordId s).2 = rest
  ack_error : ∀ {s : σ} {id : String} {e : Error}, (inner.ack id s).1 = .error e →
    waiting (inner.ack id s).2 = waiting s
  ack_aside : ∀ {s : σ} {id : String}, aside (inner.ack id s).2 = aside s

variable {inner pendingCount}

/-- A batch takes records out, also where it is cut off; if it is complete there is one less at least. -/
structure Batches (spooled : Spooled inner pendingCount) (flush : Nat → σ → Option (Except Error FlushOutcome) × σ) :
    Prop where
  removes : ∀ turn s, (spooled.waiting (flush turn s).2).Sublist (spooled.waiting s)
  drained : ∀ {turn s}, (flush turn s).1 = some (.ok .drained) → spooled.waiting (flush turn s).2 = []
  complete : ∀ {turn s}, (flush turn s).1 = some (.ok .batchComplete) → 0 < (spooled.waiting s).length →
    (spooled.waiting (flush turn s).2).length < (spooled.waiting s).length

/-- The store after so many flushes. -/
def afterFlushes (flush : Nat → σ → Option (Except Error FlushOutcome) × σ) (s : σ) : Nat → σ
  | 0 => s
  | turn + 1 => (flush turn (afterFlushes flush s turn)).2

/-- At this time the report is encoded to these bytes, which are read back. -/
structure ReadsBack (now : DateTime) (report bounded : ClientReport) (bytes : List UInt8) : Prop where
  encoded : encodeReportBody wire now report = .ok (bounded, bytes)
  apart : EntriesApart wire (boundValues wire true now report).value
  decoded : wire.fromSlice bytes = some bounded
  version : ∀ version ∈ wire.schemaVersionOf bytes, version = bounded.schemaVersion

/-- The account of a run: the sample was queued once, as `record`, behind what `flushes` batches had left. There it
still is, or it is gone after an answer that settles it. -/
structure OnceAccount (spooled : Spooled inner pendingCount) (report : ClientReport) (s : σ) (flushes : Nat)
    (bounded : ClientReport) (record : SpoolRecord) (w : Once σ) : Prop where
  encoded : ∃ turn, encodeReportBody wire (around.clock turn) report = .ok (bounded, record.payload)
  contract : record.contractId = hostReportContract
  reportId : bounded.reportId = report.reportId
  enqueuedOnce : w.events.count .enqueue = 1
  posted : ∀ body, .post body ∈ w.events → body = record.payload
  backlog : (spooled.waiting (afterFlushes around.flush s flushes)).Sublist (spooled.waiting s)
  queue : spooled.waiting w.store = spooled.waiting (afterFlushes around.flush s flushes) ++ [record] ∨
    (spooled.waiting w.store = spooled.waiting (afterFlushes around.flush s flushes) ∧
      .post record.payload ∈ w.events ∧ ∃ reply, around.reply = some reply ∧
        (Acknowledged crates bounded reply ∨ ∃ v ∈ rejections, Refused ext v.1 v.2 reply))
  aside : spooled.aside w.store = spooled.aside (afterFlushes around.flush s flushes)

/-! ## The sample -/

theorem reportId_boundReport (clamp : Bool) (now : DateTime) (r : ClientReport) :
    (boundReportWithTimePolicy wire clamp now r).value.reportId = r.reportId := by
  have hrest := congrArg ClientReport.reportId (boundReport_trimmed wire clamp now r).rest
  have hvalues : (boundValues wire clamp now r).value.reportId = r.reportId := by
    simp only [boundValues, boundParts, normalizeScalarsAndText, Marked.bind_value, Marked.pure_value]
  exact hrest.trans hvalues

/-- The collectors bound what they find: no name holds a control character. -/
theorem plain_collected (pending : Nat) :
    ∀ c ∈ (collected wire around pending).capabilities, ∀ ch ∈ c.name.toList, isControl ch = false := by
  intro c hc
  exact ((withinContract_boundReport wire true around.sampledAt (around.sample pending)).capabilities.2 c hc).name.plain

variable {wire}

theorem ReadsBack.reportId {now : DateTime} {report bounded : ClientReport} {bytes : List UInt8}
    (h : ReadsBack wire now report bounded bytes) : bounded.reportId = report.reportId := by
  have hbounded := ((encodeReportBodyInner_eq_ok wire).mp h.encoded).2.1
  rw [← hbounded, reportId_boundReport]

theorem ReadsBack.length_le {now : DateTime} {report bounded : ClientReport} {bytes : List UInt8}
    (h : ReadsBack wire now report bounded bytes) : bytes.length ≤ wire.maxBodyBytes :=
  ((encodeReportBodyInner_eq_ok wire).mp h.encoded).2.2.2

theorem ReadsBack.validRecord {now : DateTime} {pending : Nat} {bounded : ClientReport} {record : SpoolRecord}
    (h : ReadsBack wire now (collected wire around pending) bounded record.payload)
    (hcontract : record.contractId = hostReportContract) : ValidRecord wire record bounded := by
  have hcanonical := canonical_of_encoded (plain_collected wire around pending) h.apart h.encoded 0
  have hschema := ((encodeReportBodyInner_eq_ok wire).mp hcanonical.1).1
  exact validRecord_of_encoded hcanonical.1 hcanonical.2 hschema hcontract h.decoded h.version

/-- What is sent is the payload, and the attempt settles the record only if the server says so. -/
structure Honest (report : ClientReport) (payload : List UInt8) (reply : Except HttpTransportError HttpResponse)
    (attempt : SendAttempt) : Prop where
  sent : ∀ body, attempt.sent = some body → body = payload
  settled : (attempt.outcome reply = .ok () ∨ ∃ e, attempt.outcome reply = .error e ∧ e.isPermanent = true) →
    attempt.sent = some payload ∧ (Acknowledged crates report reply ∨ ∃ v ∈ rejections, Refused ext v.1 v.2 reply)

variable {ext crates}

theorem honest_unsent {report : ClientReport} {payload : List UInt8} {reply : Except HttpTransportError HttpResponse}
    {e : SendError} (h : e.isPermanent = false) : Honest ext crates report payload reply (.unsent e) := by
  refine ⟨fun body hbody => (by cases hbody), ?_⟩
  rintro (hok | ⟨e', he, hpermanent⟩)
  · cases hok
  · cases he
    rw [h] at hpermanent
    cases hpermanent

theorem honest_post {report : ClientReport} {payload : List UInt8} {reply : Except HttpTransportError HttpResponse}
    {answer : Except HttpTransportError HttpResponse → Except SendError Unit}
    (h : Reads ext crates report reply (answer reply)) :
    Honest ext crates report payload reply (.post payload answer) := by
  refine ⟨fun body hbody => (Option.some.inj hbody).symm, ?_⟩
  rintro (hok | hpermanent)
  · exact ⟨rfl, .inl (h.ok.mp hok)⟩
  · exact ⟨rfl, .inr (h.permanent.mp hpermanent)⟩

variable (ext crates)

theorem honest_sendQueued {queued : PendingReport} {record : SpoolRecord}
    (hvalid : ValidRecord wire record queued.report)
    (hbody : queued.body = record.payload) (hlimit : record.payload.length ≤ wire.maxBodyBytes)
    (reply : Except HttpTransportError HttpResponse) :
    Honest ext crates queued.report record.payload reply (sendQueuedXsos wire ext crates reporter queued) := by
  have hprepared := prepareReportBody_queued wire crates hvalid hlimit 0
  unfold sendQueuedXsos sendXsosInner
  rw [hbody]
  simp only [hprepared]
  cases reporter.validateReportIdentity queued.report with
  | error e => exact honest_unsent rfl
  | ok =>
    simp only
    by_cases hheader : ("Bearer " ++ reporter.token).toList.all isHeaderChar = false
    · rw [if_pos hheader]
      exact honest_unsent rfl
    · rw [if_neg hheader]
      apply honest_post
      rcases reply with failure | response
      · exact reads_unanswered ext crates queued.report failure _
      · exact validate_reads wire ext crates response queued.report

/-! ## The steps -/

variable (hinner : ∀ contract at' bytes s, (inner.enqueue contract at' bytes s).1 = .ok ())

include hinner

/-- The sample goes to the end of the queue. -/
theorem enqueueSample_eq (spooled : Spooled inner pendingCount) {turn : Nat} {report bounded : ClientReport}
    {bytes : List UInt8} (hencoded : encodeReportBody wire (around.clock turn) report = .ok (bounded, bytes))
    (w : Once σ) : ∃ id store, enqueueSample wire inner around turn report w =
      (.ok (), ⟨store, w.events ++ [.enqueue]⟩) ∧
      spooled.waiting store = spooled.waiting w.store ++ [⟨id, hostReportContract, bytes⟩] ∧
      spooled.aside store = spooled.aside w.store := by
  have hok := hinner hostReportContract (timestampMicros bounded.collectedAt) bytes w.store
  obtain ⟨⟨id, hwaiting⟩, haside⟩ := spooled.enqueue_ok hok
  refine ⟨id, _, ?_, hwaiting, haside⟩
  unfold enqueueSample enqueue
  rw [hencoded]
  simp only
  rw [← hok]

/-- A run that keeps the sample. -/
theorem retainOnceReport_account (spooled : Spooled inner pendingCount) {turn flushes : Nat}
    {report bounded : ClientReport} {bytes : List UInt8} {s : σ} {w : Once σ}
    (hread : ReadsBack wire (around.clock turn) report bounded bytes) (hevents : w.events = [])
    (hstore : spooled.waiting w.store = spooled.waiting (afterFlushes around.flush s flushes))
    (haside : spooled.aside w.store = spooled.aside (afterFlushes around.flush s flushes))
    (hbacklog : (spooled.waiting (afterFlushes around.flush s flushes)).Sublist (spooled.waiting s))
    (result : Except Error RunOnceOutcome) :
    ∃ outcome record w', retainOnceReport wire inner around turn report result w = (outcome, w') ∧
      OnceAccount wire ext crates around spooled report s flushes bounded record w' := by
  obtain ⟨id, store, henqueue, hwaiting, hsame⟩ := enqueueSample_eq around hinner spooled hread.encoded w
  refine ⟨result, ⟨id, hostReportContract, bytes⟩, ⟨store, w.events ++ [.enqueue]⟩, ?_, ?_⟩
  · rw [retainOnceReport, henqueue]
  · refine ⟨⟨turn, hread.encoded⟩, rfl, hread.reportId, by simp [hevents], by simp [hevents], hbacklog, .inl ?_, ?_⟩
    · rw [hwaiting, hstore]
    · rw [hsame, haside]

omit hinner in
/-- With the answer the sample stays, unless the answer settles it and the spool takes it out. -/
theorem settleOnce_account (spooled : Spooled inner pendingCount) {flushes : Nat} {report bounded : ClientReport}
    {record : SpoolRecord} {s : σ} {attempt : SendAttempt} {w : Once σ}
    (hempty : spooled.waiting (afterFlushes around.flush s flushes) = [])
      (hwaiting : spooled.waiting w.store = [record])
    (hattempt : ∀ reply, Honest ext crates bounded record.payload reply attempt)
    (hposted : ∀ body, attempt.sent = some body → .post body ∈ w.events)
    (hkept : OnceAccount wire ext crates around spooled report s flushes bounded record w) :
    ∃ outcome w', settleOnce inner around ⟨record.recordId, bounded, record.payload⟩ attempt w = (outcome, w') ∧
      OnceAccount wire ext crates around spooled report s flushes bounded record w' := by
  -- what the spool makes of an acknowledgement
  have hack (result : Except Error RunOnceOutcome) (reply : Except HttpTransportError HttpResponse)
      (hreply : around.reply = some reply) (hsettled : attempt.outcome reply = .ok () ∨
        ∃ e, attempt.outcome reply = .error e ∧ e.isPermanent = true) :
      ∃ outcome w', acknowledgeOnce inner ⟨record.recordId, bounded, record.payload⟩ result w = (outcome, w') ∧
        OnceAccount wire ext crates around spooled report s flushes bounded record w' := by
    obtain ⟨hsent, hsaid⟩ := (hattempt reply).settled hsettled
    unfold acknowledgeOnce
    simp only
    rcases hresult : inner.ack record.recordId w.store with ⟨⟨e⟩ | ⟨⟨⟩⟩, store⟩
    · have hleft := spooled.ack_error (by rw [hresult])
      have hsame : spooled.aside (inner.ack record.recordId w.store).2 = _ := spooled.ack_aside
      rw [hresult] at hleft hsame
      refine ⟨_, _, rfl, { hkept with queue := .inl ?_, aside := hsame.trans hkept.aside }⟩
      rw [hempty]
      exact hleft.trans hwaiting
    · have htaken := spooled.ack_ok hwaiting (by rw [hresult])
      have hsame : spooled.aside (inner.ack record.recordId w.store).2 = _ := spooled.ack_aside
      rw [hresult] at htaken hsame
      refine ⟨_, _, rfl, { hkept with
        queue := .inr ⟨?_, hposted _ hsent, reply, hreply, hsaid⟩
        aside := hsame.trans hkept.aside }⟩
      rw [hempty]
      exact htaken
  unfold settleOnce
  cases hreply : around.reply with
  | none => exact ⟨_, w, rfl, hkept⟩
  | some reply =>
    simp only
    cases houtcome : attempt.outcome reply with
    | ok => exact hack _ reply hreply (.inl houtcome)
    | error error =>
      simp only
      by_cases hpermanent : error.isPermanent = true
      · rw [if_pos hpermanent]
        exact hack _ reply hreply (.inr ⟨error, houtcome, hpermanent⟩)
      · rw [if_neg hpermanent]
        exact ⟨_, w, rfl, hkept⟩

omit hinner in
/-- From the queued sample on, every step keeps the account. -/
theorem deliverSample_account (spooled : Spooled inner pendingCount) {turns turn flushes pending : Nat}
    {bounded : ClientReport} (record : SpoolRecord) {s : σ} {w : Once σ}
    (hread : ReadsBack wire (around.clock turn) (collected wire around pending) bounded record.payload)
    (hcontract : record.contractId = hostReportContract) (hturns : 1 < turns)
    (hempty : spooled.waiting (afterFlushes around.flush s flushes) = [])
      (hwaiting : spooled.waiting w.store = [record])
    (haside : spooled.aside w.store = spooled.aside (afterFlushes around.flush s flushes))
    (hevents : w.events = [.enqueue]) :
    ∃ outcome w', deliverSample wire ext crates inner around reporter turns (collected wire around pending) w =
      some (outcome, w') ∧
      OnceAccount wire ext crates around spooled (collected wire around pending) s flushes bounded record w' := by
  have hvalid := hread.validRecord around hcontract
  -- the account of a run that leaves the record where it is
  have hkept (store : σ) (posts : List (List UInt8)) (hposts : ∀ body ∈ posts, body = record.payload)
      (hstore : spooled.waiting store = [record])
      (hsame : spooled.aside store = spooled.aside (afterFlushes around.flush s flushes)) :
      OnceAccount wire ext crates around spooled (collected wire around pending) s flushes bounded record
        ⟨store, [.enqueue] ++ posts.map OnceEvent.post⟩ := by
    refine ⟨⟨turn, hread.encoded⟩, hcontract, hread.reportId, ?_, ?_, ?_, .inl ?_, hsame⟩
    · have hnone : (posts.map OnceEvent.post).count .enqueue = 0 := by
        rw [List.count_eq_zero]
        simp
      rw [List.count_append, hnone]
      rfl
    · intro body hbody
      obtain ⟨body', hmem, heq⟩ := List.mem_map.mp (List.mem_of_ne_of_mem (by simp) hbody)
      cases heq
      exact hposts _ hmem
    · rw [hempty]
      exact List.nil_sublist _
    · rw [hempty]
      exact hstore
  have hlength : (spooled.toFifo.waiting w.store).length < turns := by
    rw [hwaiting]
    exact hturns
  obtain ⟨outcome, store, front, rest, hscan, hscanned⟩ := scan_spec spooled.toFifo (examine wire) hlength
  have hfound := oldestFound_of_scanned wire inner hscanned
  -- `oldest` keeps a valid record
  have hfront : front = [] ∧ rest = [record] := by
    have hsplit : [record] = front ++ rest := hwaiting.symm.trans hfound.split
    cases front with
    | nil => exact ⟨rfl, hsplit.symm⟩
    | cons first front =>
      rw [List.cons_append, List.cons.injEq] at hsplit
      exact absurd hvalid (hfound.invalid record (by rw [hsplit.1]; exact List.mem_cons_self) bounded)
  obtain ⟨rfl, rfl⟩ := hfront
  have hstore : spooled.waiting store = [record] := hfound.queued
  have hsame : spooled.aside store = spooled.aside (afterFlushes around.flush s flushes) := by
    rw [← haside]
    exact hfound.quarantined.trans (List.append_nil _)
  have hquiet := hkept store [] (by simp) hstore hsame
  unfold deliverSample
  rw [oldest_eq_scan, hscan]
  rcases outcome with e | ⟨_ | queued⟩
  · exact ⟨_, _, rfl, by rw [hevents]; exact hquiet⟩
  · exact ⟨_, _, rfl, by rw [hevents]; exact hquiet⟩
  · obtain ⟨other, behind, hrest, hqueued, hid, hbody⟩ := hfound.found queued rfl
    cases hrest
    simp only
    by_cases hreport : queued.report.reportId = (collected wire around pending).reportId
    swap
    · rw [if_pos hreport]
      exact ⟨_, _, rfl, by rw [hevents]; exact hquiet⟩
    rw [if_neg (not_not_intro hreport)]
    have hsamebody : queued = ⟨record.recordId, bounded, record.payload⟩ := by
      have hdecoded := Option.some.inj (hqueued.decoded.symm.trans hvalid.decoded)
      obtain ⟨recordId, report, body⟩ := queued
      simp only at hid hbody hdecoded
      rw [hid, hbody, hdecoded]
    subst hsamebody
    have hhonest := honest_sendQueued ext crates reporter hqueued rfl hread.length_le
    have hposts : ∀ body ∈ ((sendQueuedXsos wire ext crates reporter
        ⟨record.recordId, bounded, record.payload⟩).sent).toList, body = record.payload := by
      intro body hmem
      exact (hhonest (.error .connection)).sent body (Option.mem_toList.mp hmem)
    obtain ⟨result, w', hsettle, haccount⟩ :=
      settleOnce_account ext crates around spooled hempty (w := ⟨store, _⟩) hstore
      hhonest (fun body hbody => by simp [hbody]) (hkept store _ hposts hstore hsame)
    refine ⟨result, w', ?_, haccount⟩
    rw [hevents, ← hsettle, Option.toList_map]

/-! ## The run -/

variable (hcount : ∀ s, ∃ n, pendingCount s = .ok n)

include hcount

/-- By induction on the turns: each flush that the run goes on after has taken a record out. -/
theorem runOnceFrom_account (spooled : Spooled inner pendingCount) (batches : Batches spooled around.flush)
    {pending : Nat}
    (hread : ∀ turn, ∃ bounded bytes, ReadsBack wire (around.clock turn) (collected wire around pending) bounded bytes)
    {s : σ} {turns turn : Nat} {w : Once σ} (hturns : (spooled.waiting w.store).length < turns)
    (hstore : w.store = afterFlushes around.flush s turn) (hevents : w.events = [])
    (hbacklog : (spooled.waiting w.store).Sublist (spooled.waiting s)) :
    ∃ outcome w' flushes bounded record,
      runOnceFrom wire ext crates inner pendingCount around reporter (collected wire around pending) turns turn w =
        some (outcome, w') ∧
      OnceAccount wire ext crates around spooled (collected wire around pending) s flushes bounded record w' := by
  induction turns generalizing turn w with
  | zero => cases hturns
  | succ turns ih =>
    obtain ⟨n, hn⟩ := hcount w.store
    have hlength := spooled.pendingCount_ok hn
    obtain ⟨bounded, bytes, hbytes⟩ := hread turn
    unfold runOnceFrom
    rw [hn]
    simp only
    by_cases hpending : 0 < n
    · rw [if_pos hpending]
      have hremoves := batches.removes turn w.store
      have hdrained := @Batches.drained _ _ _ _ _ batches turn w.store
      have hcomplete := @Batches.complete _ _ _ _ _ batches turn w.store
      rcases hflush : around.flush turn w.store with ⟨result, store⟩
      rw [hflush] at hremoves hdrained hcomplete
      have hafter : store = afterFlushes around.flush s (turn + 1) := by
        rw [afterFlushes, ← hstore, hflush]
      have hleft : (spooled.waiting store).Sublist (spooled.waiting s) := hremoves.trans hbacklog
      -- the run ends here, and keeps the sample
      have hretain (result : Except Error RunOnceOutcome) : ∃ outcome record w',
          retainOnceReport wire inner around turn (collected wire around pending) result ⟨store, w.events⟩ =
            (outcome, w') ∧
          OnceAccount wire ext crates around spooled (collected wire around pending) s (turn + 1) bounded record w' :=
        retainOnceReport_account ext crates around hinner spooled (w := ⟨store, w.events⟩) hbytes hevents
          (by rw [hafter]) (by rw [hafter]) (by rw [← hafter]; exact hleft) result
      have hgoes (hfewer : (spooled.waiting store).length < (spooled.waiting w.store).length) :=
        ih (w := ⟨store, w.events⟩) (by simp only; omega) hafter hevents hleft
      rcases result with _ | e | (_ | _ | error)
      · obtain ⟨outcome, record, w', hrun, haccount⟩ := hretain (.ok .shutdown)
        exact ⟨outcome, w', _, bounded, record, congrArg some hrun, haccount⟩
      · obtain ⟨outcome, record, w', hrun, haccount⟩ := hretain _
        exact ⟨outcome, w', _, bounded, record, congrArg some hrun, haccount⟩
      · apply hgoes
        rw [hdrained rfl, List.length_nil]
        omega
      · apply hgoes
        exact hcomplete rfl (by omega)
      · obtain ⟨outcome, record, w', hrun, haccount⟩ := hretain _
        exact ⟨outcome, w', _, bounded, record, congrArg some hrun, haccount⟩
    · rw [if_neg hpending]
      have hempty : spooled.waiting w.store = [] := List.eq_nil_of_length_eq_zero (by omega)
      obtain ⟨id, store, henqueue, hwaiting, hsame⟩ := enqueueSample_eq around hinner spooled hbytes.encoded w
      rw [henqueue]
      simp only
      rw [hempty, List.nil_append] at hwaiting
      obtain ⟨outcome, w', hrun, haccount⟩ := deliverSample_account ext crates around reporter spooled
        ⟨id, hostReportContract, bytes⟩ (w := ⟨store, w.events ++ [.enqueue]⟩) hbytes rfl
        (by omega : 1 < turns + 2) (by rw [← hstore, hempty]) hwaiting (by rw [hsame, hstore]) (by rw [hevents]; rfl)
      exact ⟨outcome, w', turn, bounded, _, hrun, haccount⟩

end

/-- Whatever the queue holds, the batches come to and the server answers, and wherever the shutdown wins: the run ends,
and has its account. -/
theorem one_shot_accounts (wire : Wire) (ext : External) (crates : DeliveryCrates) {σ : Type} {inner : RuntimeSpool σ}
    {pendingCount : σ → Except Error Nat} (around : Surroundings σ) (reporter : Reporter)
    (spooled : Spooled inner pendingCount) (batches : Batches spooled around.flush) (s : σ)
    (hcount : ∀ s, ∃ n, pendingCount s = .ok n)
    (hinner : ∀ contract at' bytes s, (inner.enqueue contract at' bytes s).1 = .ok ())
    (hread : ∀ turn, ∃ bounded bytes, ReadsBack wire (around.clock turn)
      (collected wire around (spooled.waiting s).length) bounded bytes)
    (turns : Nat) (hturns : (spooled.waiting s).length < turns) :
    ∃ outcome w flushes bounded record,
      runOnce wire ext crates inner pendingCount around reporter turns s = some (outcome, w) ∧
      OnceAccount wire ext crates around spooled (collected wire around (spooled.waiting s).length) s flushes bounded
        record w := by
  obtain ⟨n, hn⟩ := hcount s
  have hlength := spooled.pendingCount_ok hn
  unfold runOnce
  rw [hn, hlength]
  exact runOnceFrom_account ext crates around reporter hinner hcount spooled batches hread hturns rfl rfl
    (List.Sublist.refl _)

/-! ## A run in memory -/

/-- What is waiting in memory. -/
def memoryCount (s : List SpoolRecord × List SpoolRecord) : Except Error Nat := .ok s.1.length

def memorySpooled : Spooled memorySpool memoryCount where
  toFifo := memoryFifo
  pendingCount_ok h := (Except.ok.inj h).symm
  enqueue_ok _ := ⟨⟨_, rfl⟩, rfl⟩
  ack_ok := by
    intro s record rest hwaiting _
    have hwaiting : s.1 = record :: rest := hwaiting
    simp [memorySpool, takeOut, memoryFifo, hwaiting]
  ack_error := by
    intro s id e herror
    obtain ⟨_ | ⟨record, rest⟩, aside⟩ := s
    · rfl
    · by_cases hid : record.recordId = id
      · simp [memorySpool, takeOut, hid] at herror
      · simp [memorySpool, takeOut, memoryFifo, hid]
  ack_aside := by
    intro s id
    obtain ⟨_ | ⟨record, rest⟩, aside⟩ := s
    · rfl
    · by_cases hid : record.recordId = id <;> simp [memorySpool, takeOut, memoryFifo, hid]

/-- A quiet sample; each batch delivers one record. -/
def quietSurroundings : Surroundings (List SpoolRecord × List SpoolRecord) where
  sample _ := quietReport
  sampledAt := 0
  clock _ := 0
  flush _ s := (some (.ok .batchComplete), (s.1.tail, s.2))
  reply := some (.ok ⟨202, some "application/json", quietAck⟩)
  otlp := none
  display _ := "error"

theorem one_shot_accounts_quiet :
    ∃ outcome w flushes bounded record,
      runOnce (compactWire [quietReport]) sampleServer quietCrates memorySpool memoryCount quietSurroundings
        quietReporter 4 (mixedQueue, []) = some (outcome, w) ∧
      OnceAccount (compactWire [quietReport]) sampleServer quietCrates quietSurroundings memorySpooled
        (collected (compactWire [quietReport]) quietSurroundings 3) (mixedQueue, []) flushes bounded record w := by
  have hbatches : Batches memorySpooled quietSurroundings.flush := by
    refine ⟨fun _ s => List.tail_sublist s.1, fun h => (by cases h), ?_⟩
    intro _ s _ hpos
    have hpos : 0 < s.1.length := hpos
    show s.1.tail.length < s.1.length
    rw [List.length_tail]
    omega
  have hread : ReadsBack (compactWire [quietReport]) 0 (collected (compactWire [quietReport]) quietSurroundings 3)
      quietReport quietRecord.payload := by
    have hcollected : collected (compactWire [quietReport]) quietSurroundings 3 = quietReport := by decide +kernel
    rw [hcollected]
    exact ⟨by decide +kernel, by decide +kernel, by decide +kernel, by decide +kernel⟩
  exact one_shot_accounts (compactWire [quietReport]) sampleServer quietCrates quietSurroundings quietReporter
    memorySpooled hbatches (mixedQueue, []) (fun s => ⟨_, rfl⟩) (fun _ _ _ _ => rfl) (fun _ => ⟨_, _, hread⟩) 4
    (by decide)

end Xsoc
