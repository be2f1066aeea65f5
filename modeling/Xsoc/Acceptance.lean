import Xsoc.Report.Canonical
import Xsoc.Verdicts

/-!
# What is queued is accepted

* `not_hostile_of_plain` : a capability whose name has no control characters does not become the diagnostic;
* `canonical_of_encoded` : so what `encodeReportBody` returns is encoded to the same report and bytes again;
* `queued_report_accepted` : and the record of it is never quarantined, and is sent as it is.
-/

set_option autoImplicit false

namespace Xsoc

open Bounding Durable

section

variable (wire : Wire)

/-! ## Names -/

theorem byteLen_truncatedCapability : byteLen truncatedCapability.toList = 23 := by decide +kernel

theorem stripControlsAndTruncate_of_plain {maximum : Nat} {s : String} (h : ∀ c ∈ s.toList, isControl c = false) :
    stripControlsAndTruncate maximum s = String.ofList (takeBytes maximum s.toList) := by
  have hfilter : s.toList.filter (fun c => !isControl c) = s.toList :=
    List.filter_eq_self.mpr fun c hc => by rw [h c hc]; rfl
  rw [stripControlsAndTruncate, truncateUtf8, hfilter, String.toList_ofList]

/-- Cutting does not make a name the diagnostic's: another character would have been kept. -/
theorem eq_of_takeBytes {maximum : Nat} {s : String} (hmax : 23 + 4 ≤ maximum)
    (h : takeBytes maximum s.toList = truncatedCapability.toList) : s = truncatedCapability := by
  obtain ⟨rest, hrest⟩ := prefix_takeBytes maximum s.toList
  cases rest with
  | nil =>
    rw [List.append_nil, h] at hrest
    exact String.toList_inj.mp hrest.symm
  | cons c rest =>
    have hlt := takeBytes_maximal hrest.symm
    have hsize := c.utf8Size_le_four
    rw [h, byteLen_truncatedCapability] at hlt
    omega

theorem truncateUtf8_unknown_ne (maximum : Nat) : truncateUtf8 maximum "unknown.capability" ≠ truncatedCapability := by
  intro h
  have hpre : truncatedCapability.toList <+: "unknown.capability".toList := by
    rw [← h, truncateUtf8, String.toList_ofList]
    exact prefix_takeBytes _ _
  revert hpre
  decide +kernel

/-- A name without control characters becomes the diagnostic's only if it is. -/
theorem isMarker_of_plain {c : Capability} (h : ∀ ch ∈ c.name.toList, isControl ch = false)
    (hmarker : (boundCapability wire c).value.isMarker = true) : c.isMarker = true := by
  have hname : (boundRequiredText wire.maxCapabilityNameBytes "unknown.capability" c.name).value =
      truncatedCapability := by
    simpa only [boundCapability, Marked.bind_value, Marked.pure_value, Capability.isMarker, beq_iff_eq] using hmarker
  simp only [boundRequiredText, compared] at hname
  rw [stripControlsAndTruncate_of_plain h] at hname
  split at hname
  · exact absurd hname (truncateUtf8_unknown_ne _)
  · refine beq_iff_eq.mpr (eq_of_takeBytes wire.capabilityName ?_)
    rw [← hname, String.toList_ofList]

theorem not_hostile_of_plain {r : ClientReport}
    (h : ∀ c ∈ r.capabilities, ∀ ch ∈ c.name.toList, isControl ch = false) : ¬ Hostile wire r := by
  rintro ⟨hunmarked, c, hc, hdiagnostic⟩
  rw [alreadyMarked, List.any_eq_false] at hunmarked
  rw [Capability.isDiagnostic, Bool.and_eq_true] at hdiagnostic
  exact hunmarked c hc (isMarker_of_plain wire (h c hc) hdiagnostic.1)

/-! ## What is encoded -/

theorem schemaVersion_boundReport (clamp : Bool) (now : DateTime) (r : ClientReport) :
    (boundReportWithTimePolicy wire clamp now r).value.schemaVersion = r.schemaVersion := by
  have hrest := congrArg ClientReport.schemaVersion (boundReport_trimmed wire clamp now r).rest
  have hvalues : (boundValues wire clamp now r).value.schemaVersion = r.schemaVersion := by
    simp only [boundValues, boundParts, normalizeScalarsAndText, Marked.bind_value, Marked.pure_value]
  exact hrest.trans hvalues

variable {wire}

/-- What was encoded is encoded to itself, whatever the clock, and is within the contract. -/
theorem canonical_of_encoded {now : DateTime} {r b : ClientReport} {bytes : List UInt8}
    (hnames : ∀ c ∈ r.capabilities, ∀ ch ∈ c.name.toList, isControl ch = false)
    (hapart : EntriesApart wire (boundValues wire true now r).value)
    (hencoded : encodeReportBody wire now r = .ok (b, bytes)) (later : DateTime) :
    encodeReportBodyInner wire false later b = .ok (b, bytes) ∧ b.WithinContract wire := by
  obtain ⟨hschema, hbounded, hvec, hlen⟩ := (encodeReportBodyInner_eq_ok wire).mp hencoded
  have hfits : serializedLen wire b ≤ wire.maxBodyBytes := by
    rw [serializedLen, hvec]
    exact hlen
  have hwithin := withinContract_boundReport wire true now r
  have hcanonical : Canonical wire false later (boundReportWithTimePolicy wire true now r).value :=
    canonical_boundReport wire (by simp) hapart (not_hostile_of_plain wire hnames) (hbounded ▸ hfits)
  have hsame := schemaVersion_boundReport wire true now r
  rw [hbounded] at hcanonical hwithin hsame
  refine ⟨(encodeReportBodyInner_eq_ok wire).mpr ⟨hsame.trans hschema, ?_, hvec, hlen⟩, hwithin⟩
  rw [hcanonical.fixed]
  rfl

/-! ## What is queued -/

/-- A record with these bytes is valid, when they are read back. -/
theorem validRecord_of_encoded {record : SpoolRecord} {b : ClientReport}
    (hcanonical : canonicalSpoolReport wire b = .ok (b, record.payload)) (hwithin : b.WithinContract wire)
    (hschema : b.schemaVersion = wire.schemaVersion) (hcontract : record.contractId = hostReportContract)
    (hdecoded : wire.fromSlice record.payload = some b)
    (hversion : ∀ version ∈ wire.schemaVersionOf record.payload, version = b.schemaVersion) :
    ValidRecord wire record b where
  contract := hcontract
  decoded := hdecoded
  schema version h := (hversion version h).trans hschema
  canonical := ⟨b, record.payload, hcanonical, hwithin.beq_self⟩

/-- `oldest` never quarantines a valid record, and returns it when it is the next one. -/
theorem oldest_keeps {σ : Type} {inner : RuntimeSpool σ} (fifo : Fifo inner.queue) {record : SpoolRecord}
    {b : ClientReport} (hvalid : ValidRecord wire record b) {turns : Nat} {s : σ}
    (hturns : (fifo.waiting s).length < turns) :
    ∃ outcome s', oldest wire inner turns s = some (outcome, s') ∧
      (record ∈ fifo.waiting s → record ∈ fifo.waiting s') ∧
      ∀ behind found, fifo.waiting s = record :: behind → outcome = .ok found →
        found = some ⟨record.recordId, b, record.payload⟩ := by
  obtain ⟨outcome, s', front, rest, hscan, hscanned⟩ := scan_spec fifo (examine wire) hturns
  have hexamine : examine wire record = some ⟨record.recordId, b, record.payload⟩ :=
    (examine_eq_some wire).mpr ⟨hvalid, rfl, rfl⟩
  refine ⟨outcome, s', (oldest_eq_scan wire inner turns s).trans hscan, fun hmem => ?_, ?_⟩
  · rw [hscanned.split, List.mem_append] at hmem
    rw [hscanned.waiting]
    refine hmem.resolve_left fun hfront => ?_
    rw [hscanned.useless record hfront] at hexamine
    cases hexamine
  · rintro behind found hhead rfl
    rw [hscanned.find, hhead, List.findSome?_cons, hexamine]

/-- **The producer never produces what the consumer rejects.** What `encodeReportBody` returns is canonical for every
clock, and `enqueue` stores it; when its bytes are read back, `oldest` accepts the record and it is sent as it is. -/
theorem queued_report_accepted (wire : Wire) {now : DateTime} {r b : ClientReport} {bytes : List UInt8}
    (hnames : ∀ c ∈ r.capabilities, ∀ ch ∈ c.name.toList, isControl ch = false)
    (hapart : EntriesApart wire (boundValues wire true now r).value)
    (hencoded : encodeReportBody wire now r = .ok (b, bytes)) :
    canonicalSpoolReport wire b = .ok (b, bytes) ∧
      (∀ later, encodeReportBodyInner wire false later b = .ok (b, bytes)) ∧
      ∀ record : SpoolRecord, record.contractId = hostReportContract → record.payload = bytes →
        wire.fromSlice bytes = some b → (∀ version ∈ wire.schemaVersionOf bytes, version = b.schemaVersion) →
        (∀ (σ : Type) (inner : RuntimeSpool σ) (s : σ), enqueue wire inner now r s =
          inner.enqueue record.contractId (timestampMicros b.collectedAt) record.payload s) ∧
        (∀ (σ : Type) (inner : RuntimeSpool σ) (fifo : Fifo inner.queue) (turns : Nat) (s : σ),
          (fifo.waiting s).length < turns → ∃ outcome s', oldest wire inner turns s = some (outcome, s') ∧
            (record ∈ fifo.waiting s → record ∈ fifo.waiting s') ∧
            ∀ behind found, fifo.waiting s = record :: behind → outcome = .ok found →
              found = some ⟨record.recordId, b, bytes⟩) ∧
        ∀ (crates : DeliveryCrates) (later : DateTime),
          prepareReportBody wire crates later b (some record.payload) = .ok (b, bytes) := by
  have hcanonical := canonical_of_encoded hnames hapart hencoded
  have hspool : canonicalSpoolReport wire b = .ok (b, bytes) := (hcanonical 0).1
  refine ⟨hspool, fun later => (hcanonical later).1, ?_⟩
  rintro record hcontract rfl hdecoded hversion
  obtain ⟨hschema, -, -, hlimit⟩ := (encodeReportBodyInner_eq_ok wire).mp hspool
  have hvalid := validRecord_of_encoded hspool (hcanonical 0).2 hschema hcontract hdecoded hversion
  refine ⟨fun σ inner s => ?_, fun σ inner fifo turns s hturns => oldest_keeps fifo hvalid hturns,
    fun crates later => prepareReportBody_queued wire crates hvalid hlimit later⟩
  rw [enqueue, hencoded, hcontract]

end

theorem queued_report_accepted_quiet :
    prepareReportBody (compactWire [quietReport]) quietCrates 0 quietReport (some quietRecord.payload) =
      .ok (quietReport, quietRecord.payload) := by
  have hencoded : encodeReportBody (compactWire [quietReport]) 0 quietReport =
      .ok (quietReport, quietRecord.payload) := by decide +kernel
  have hdecoded : (compactWire [quietReport]).fromSlice quietRecord.payload = some quietReport := by decide +kernel
  have hversion : ∀ version ∈ (compactWire [quietReport]).schemaVersionOf quietRecord.payload,
      version = quietReport.schemaVersion := by decide +kernel
  exact ((queued_report_accepted (compactWire [quietReport]) (by decide +kernel)
    (by decide +kernel) hencoded).2.2 quietRecord
    rfl rfl hdecoded hversion).2.2 quietCrates 0

end Xsoc
