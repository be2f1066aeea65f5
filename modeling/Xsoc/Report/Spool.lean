import Xsoc.Durable.Queue
import Xsoc.Pairing.Credentials
import Xsoc.Report.Bound
import Xsoc.Report.Rendering

/-!
# The spool

Reports wait on disk until they are delivered. The queue itself is the runtime's: here is what the client puts in and
takes out.

* `enqueue` : the encoded bytes of a report;
* `oldest` : the first record that is a report the client could have queued, others are quarantined on the way;
* `ValidRecord` : what makes a record one, `examine_eq_some` : `oldest` tells them by that;
* `oldest_finds_first` : `oldest` ends, returns the first of them, and has quarantined exactly the records before it.
-/

set_option autoImplicit false

namespace Xsoc

open Durable

inductive QuarantineReason
  | corrupt
  | identityMismatch
  deriving DecidableEq, Repr

/-- A record of the spool. -/
structure SpoolRecord where
  recordId : String
  contractId : String
  payload : List UInt8
  deriving DecidableEq

structure PendingReport where
  recordId : String
  report : ClientReport
  /-- The bytes that were queued before the first attempt. -/
  body : List UInt8
  deriving DecidableEq

/-- `xcsc::runtime::Spool` over a store. -/
structure RuntimeSpool (σ : Type) where
  enqueue : String → Int → List UInt8 → σ → Except Error Unit × σ
  next : σ → Except Error (Option SpoolRecord) × σ
  quarantine : String → QuarantineReason → σ → Except Error Unit × σ
  ack : String → σ → Except Error Unit × σ

section

variable (wire : Wire) {σ : Type} (inner : RuntimeSpool σ)

/-- The queue that `oldest` reads, with what it does to a record it cannot use. -/
def RuntimeSpool.queue : Queue σ SpoolRecord Error where
  next := inner.next
  setAside record := inner.quarantine record.recordId .corrupt

/-- `timestamp_micros` -/
def timestampMicros (t : DateTime) : Int := t / 1000

/-- `Spool::enqueue` -/
def enqueue (now : DateTime) (r : ClientReport) (s : σ) : Except Error Unit × σ :=
  match encodeReportBody wire now r with
  | .error e => (.error e, s)
  | .ok (bounded, bytes) => inner.enqueue hostReportContract (timestampMicros bounded.collectedAt) bytes s

/-- What `oldest` makes of a payload. -/
def parseReport (payload : List UInt8) : Except Error ClientReport :=
  match wire.fromSlice payload with
  | none => .error (.message "xcsc spool payload is not a xsoc report")
  | some report =>
    match canonicalSpoolReport wire report with
    | .error e => .error e
    | .ok (canonical, _) =>
      if canonical == report then .ok report
      else .error (.message "spool payload is not the current canonical xsoc report")

/-- The payload says that it has another schema. -/
def otherSchema (payload : List UInt8) : Bool :=
  (wire.schemaVersionOf payload).any fun version => version != wire.schemaVersion

/-- `Spool::oldest`, in so many turns of its loop. -/
def oldest : Nat → σ → Option (Except Error (Option PendingReport) × σ)
  | 0, _ => none
  | turns + 1, s =>
    match inner.next s with
    | (.error e, s) => some (.error e, s)
    | (.ok none, s) => some (.ok none, s)
    | (.ok (some record), s) =>
      if record.contractId ≠ hostReportContract then
        match inner.quarantine record.recordId .corrupt s with
        | (.error e, s) => some (.error e, s)
        | (.ok (), s) => oldest turns s
      else if otherSchema wire record.payload then
        match inner.quarantine record.recordId .corrupt s with
        | (.error e, s) => some (.error e, s)
        | (.ok (), s) => oldest turns s
      else
        match parseReport wire record.payload with
        | .ok report => some (.ok (some ⟨record.recordId, report, record.payload⟩), s)
        | .error _ =>
          match inner.quarantine record.recordId .corrupt s with
          | (.error e, s) => some (.error e, s)
          | (.ok (), s) => oldest turns s

/-! ## Records -/

/-- The record is under the contract, and its payload decodes to a canonical report of the current schema. -/
structure ValidRecord (record : SpoolRecord) (report : ClientReport) : Prop where
  contract : record.contractId = hostReportContract
  decoded : wire.fromSlice record.payload = some report
  /-- The payload does not say otherwise. -/
  schema : ∀ version ∈ wire.schemaVersionOf record.payload, version = wire.schemaVersion
  canonical : ∃ canonical body, canonicalSpoolReport wire report = .ok (canonical, body) ∧ (canonical == report) = true

/-- A canonical report has the current schema. -/
theorem ValidRecord.schemaVersion {record : SpoolRecord} {report : ClientReport} (h : ValidRecord wire record report) :
    report.schemaVersion = wire.schemaVersion := by
  obtain ⟨canonical, body, hcanonical, -⟩ := h.canonical
  unfold canonicalSpoolReport encodeReportBodyInner at hcanonical
  by_contra hschema
  rw [if_pos hschema] at hcanonical
  cases hcanonical

/-- The three ways of `oldest` to reject a record, and the one to accept it. -/
def examine (record : SpoolRecord) : Option PendingReport :=
  if record.contractId ≠ hostReportContract then none
  else if otherSchema wire record.payload then none
  else match parseReport wire record.payload with
    | .ok report => some ⟨record.recordId, report, record.payload⟩
    | .error _ => none

theorem otherSchema_eq_false {payload : List UInt8} :
    otherSchema wire payload = false ↔ ∀ version ∈ wire.schemaVersionOf payload, version = wire.schemaVersion := by
  unfold otherSchema
  cases wire.schemaVersionOf payload with
  | none => simp
  | some version => simp

theorem parseReport_eq_ok {payload : List UInt8} {report : ClientReport} :
    parseReport wire payload = .ok report ↔ wire.fromSlice payload = some report ∧
      ∃ canonical body, canonicalSpoolReport wire report = .ok (canonical, body) ∧ (canonical == report) = true := by
  unfold parseReport
  cases hdecoded : wire.fromSlice payload with
  | none => simp
  | some decoded =>
    simp only [Option.some.injEq]
    rcases hencoded : canonicalSpoolReport wire decoded with e | ⟨canonical, body⟩
    · simp only [reduceCtorEq, false_iff]
      rintro ⟨rfl, canonical, body, hok, -⟩
      rw [hencoded] at hok
      cases hok
    · simp only
      split
      · next hequal =>
        rw [Except.ok.injEq]
        refine ⟨?_, fun h => h.1⟩
        rintro rfl
        exact ⟨rfl, canonical, body, hencoded, hequal⟩
      · next hequal =>
        simp only [reduceCtorEq, false_iff]
        rintro ⟨rfl, canonical', body', hok, htrue⟩
        rw [hencoded, Except.ok.injEq, Prod.mk.injEq] at hok
        exact hequal (hok.1 ▸ htrue)

theorem examine_eq_some {record : SpoolRecord} {pending : PendingReport} :
    examine wire record = some pending ↔ ValidRecord wire record pending.report ∧
      pending.recordId = record.recordId ∧ pending.body = record.payload := by
  unfold examine
  split
  · next hcontract => exact ⟨fun h => (by cases h), fun h => absurd h.1.contract hcontract⟩
  next hcontract =>
  rw [ne_eq, not_not] at hcontract
  split
  · next hschema =>
    refine ⟨fun h => (by cases h), fun h => ?_⟩
    rw [(otherSchema_eq_false wire).mpr h.1.schema] at hschema
    cases hschema
  next hschema =>
  have hschema := (otherSchema_eq_false wire).mp (Bool.eq_false_iff.mpr hschema)
  constructor
  · intro h
    split at h
    · next report hparsed =>
      obtain ⟨hdecoded, hcanonical⟩ := (parseReport_eq_ok wire).mp hparsed
      cases h
      exact ⟨⟨hcontract, hdecoded, hschema, hcanonical⟩, rfl, rfl⟩
    · cases h
  · rintro ⟨hvalid, hid, hbody⟩
    rw [(parseReport_eq_ok wire).mpr ⟨hvalid.decoded, hvalid.canonical⟩]
    obtain ⟨recordId, report, body⟩ := pending
    simp only at hid hbody
    rw [hid, hbody]

theorem examine_eq_none {record : SpoolRecord} :
    examine wire record = none ↔ ∀ report, ¬ ValidRecord wire record report := by
  rw [Option.eq_none_iff_forall_ne_some]
  constructor
  · intro h report hvalid
    exact h ⟨record.recordId, report, record.payload⟩ ((examine_eq_some wire).mpr ⟨hvalid, rfl, rfl⟩)
  · intro h pending hpending
    exact h pending.report ((examine_eq_some wire).mp hpending).1

/-! ## The oldest report -/

/-- `oldest` is the loop over a queue, with `examine`. -/
theorem oldest_eq_scan (turns : Nat) (s : σ) : oldest wire inner turns s = scan inner.queue (examine wire) turns s := by
  induction turns generalizing s with
  | zero => rfl
  | succ turns ih =>
    unfold oldest scan
    have hnext : inner.queue.next s = inner.next s := rfl
    rw [hnext]
    rcases inner.next s with ⟨⟨e⟩ | ⟨_ | record⟩, t⟩
    · rfl
    · rfl
    · have haside : inner.queue.setAside record t = inner.quarantine record.recordId .corrupt t := rfl
      simp only [haside, examine]
      split
      · rcases inner.quarantine record.recordId .corrupt t with ⟨⟨e⟩ | ⟨⟨⟩⟩, u⟩
        exacts [rfl, ih u]
      split
      · rcases inner.quarantine record.recordId .corrupt t with ⟨⟨e⟩ | ⟨⟨⟩⟩, u⟩
        exacts [rfl, ih u]
      cases parseReport wire record.payload with
      | ok report => rfl
      | error e =>
        rcases inner.quarantine record.recordId .corrupt t with ⟨⟨e⟩ | ⟨⟨⟩⟩, u⟩
        exacts [rfl, ih u]

/-- How `oldest` went: it quarantined `front`, and `rest` is still queued. -/
structure OldestFound (fifo : Fifo inner.queue) (s s' : σ) (outcome : Except Error (Option PendingReport))
    (front rest : List SpoolRecord) : Prop where
  split : fifo.waiting s = front ++ rest
  invalid : ∀ record ∈ front, ∀ report, ¬ ValidRecord wire record report
  quarantined : fifo.aside s' = fifo.aside s ++ front
  queued : fifo.waiting s' = rest
  found : ∀ pending, outcome = .ok (some pending) → ∃ record behind, rest = record :: behind ∧
    ValidRecord wire record pending.report ∧ pending.recordId = record.recordId ∧ pending.body = record.payload
  none_iff : ∀ found, outcome = .ok found →
    (found = none ↔ ∀ record ∈ fifo.waiting s, ∀ report, ¬ ValidRecord wire record report)
  /-- An error is the spool's: the record at which it failed is the next one. -/
  failed : ∀ e, outcome = .error e → (∃ t, (inner.next t).1 = .error e) ∨ ∃ record behind t, rest = record :: behind ∧
    (∀ report, ¬ ValidRecord wire record report) ∧ (inner.quarantine record.recordId .corrupt t).1 = .error e

theorem oldestFound_of_scanned {fifo : Fifo inner.queue} {s s' : σ} {outcome : Except Error (Option PendingReport)}
    {front rest : List SpoolRecord} (h : Scanned fifo (examine wire) s s' outcome front rest) :
    OldestFound wire inner fifo s s' outcome front rest where
  split := h.split
  invalid record hrecord := (examine_eq_none wire).mp (h.useless record hrecord)
  quarantined := h.aside
  queued := h.waiting
  found := by
    rintro pending rfl
    obtain ⟨record, behind, hrest, hexamine⟩ := h.stopped
    exact ⟨record, behind, hrest, (examine_eq_some wire).mp hexamine⟩
  none_iff := by
    rintro found rfl
    rw [h.find, List.findSome?_eq_none_iff]
    exact forall₂_congr fun record _ => examine_eq_none wire
  failed := by
    rintro e rfl
    obtain ⟨t, ht⟩ | ⟨record, behind, t, hrest, hexamine, ht⟩ := h.stopped
    · exact Or.inl ⟨t, ht⟩
    · exact Or.inr ⟨record, behind, t, hrest, (examine_eq_none wire).mp hexamine, ht⟩

/-- Whatever the queue holds, with a turn for each record and one more `oldest` ends. -/
theorem oldest_finds_first (fifo : Fifo inner.queue) (turns : Nat) (s : σ)
    (hturns : (fifo.waiting s).length < turns) :
    ∃ outcome s' front rest, oldest wire inner turns s = some (outcome, s') ∧
      OldestFound wire inner fifo s s' outcome front rest := by
  obtain ⟨outcome, s', front, rest, hscan, hscanned⟩ := scan_spec fifo (examine wire) hturns
  exact ⟨outcome, s', front, rest, (oldest_eq_scan wire inner turns s).trans hscan,
    oldestFound_of_scanned wire inner hscanned⟩

end

/-! ## A spool in memory -/

/-- Takes the record out, when it is the next one. -/
def takeOut (id : String) (aside : SpoolRecord → List SpoolRecord) (s : List SpoolRecord × List SpoolRecord) :
    Except Error Unit × List SpoolRecord × List SpoolRecord :=
  match s.1 with
  | [] => (.error (.message "spool record is not queued"), s)
  | record :: rest =>
    if record.recordId = id then (.ok (), rest, s.2 ++ aside record)
    else (.error (.message "spool record is not queued"), s)

/-- What is queued, and what was quarantined. -/
def memorySpool : RuntimeSpool (List SpoolRecord × List SpoolRecord) where
  enqueue contract _ bytes s := (.ok (), s.1 ++ [⟨toString (s.1.length + s.2.length), contract, bytes⟩], s.2)
  next s := (.ok s.1.head?, s)
  quarantine id _ := takeOut id fun record => [record]
  ack id := takeOut id fun _ => []

def memoryFifo : Fifo memorySpool.queue where
  waiting := Prod.fst
  aside := Prod.snd
  next_ok h := (Except.ok.inj h).symm
  next_waiting _ := rfl
  next_aside _ := rfl
  setAside_ok := by
    intro s record rest hwaiting _
    simp only [RuntimeSpool.queue, memorySpool, takeOut, hwaiting, if_pos]
    exact ⟨trivial, trivial⟩
  setAside_error := by
    intro s record e herror
    simp only [RuntimeSpool.queue, memorySpool, takeOut] at herror ⊢
    split at herror
    · exact ⟨rfl, rfl⟩
    · next head rest hwaiting =>
      split at herror
      · cases herror
      · next hid => exact ⟨by rw [if_neg hid], by rw [if_neg hid]⟩

/-- A foreign record, a malformed one and a report. -/
def mixedQueue : List SpoolRecord :=
  [⟨"0", "example.foreign", []⟩, ⟨"1", hostReportContract, []⟩,
    ⟨"2", hostReportContract, (Written.json quietReport).getD []⟩]

theorem oldest_finds_quietReport :
    ∃ outcome s' front rest, oldest (compactWire [quietReport]) memorySpool 4 (mixedQueue, []) = some (outcome, s') ∧
      OldestFound (compactWire [quietReport]) memorySpool memoryFifo (mixedQueue, []) s' outcome front rest :=
  oldest_finds_first (compactWire [quietReport]) memorySpool memoryFifo 4 (mixedQueue, []) (by decide)

end Xsoc
