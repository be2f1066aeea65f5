import Xsoc.Report.Fit
import Xsoc.Report.Normalize

/-!
# Bounding a report

`boundReportWithTimePolicy` makes a report deterministic and acceptable to the server, and `encodeReportBody` and
`canonicalSpoolReport` are what the client calls.

* `boundValues` : the scalars, texts, hardware and processor;
* `orderCapabilities`, `boundCollections` : the canonical order and the count limits of the collections;
* `mark` : the truncation diagnostic;
* `boundReportWithTimePolicy` : all of it, then `fitBody`.
-/

set_option autoImplicit false

namespace Xsoc

open Bounding

/-! ## The order of capabilities -/

/-- `serialized_key`, as numbers. -/
def serializedKey (json : Option (List UInt8)) : List Nat := (json.getD []).map UInt8.toNat

namespace Capability

/-- The diagnostic first, then by name and source. -/
def group (c : Capability) : Bool ×ₗ List Nat ×ₗ List Nat :=
  toLex (!c.isMarker, toLex (textKey c.name, textKey c.source))

/-- Within a name and source, available first, then by the JSON text. -/
def sortKey (wire : Wire) (c : Capability) : (Bool ×ₗ List Nat ×ₗ List Nat) ×ₗ Bool ×ₗ List Nat :=
  toLex (c.group, toLex (!c.available, serializedKey (wire.capabilityJson c)))

theorem group_eq_iff (c d : Capability) : c.group = d.group ↔ (c.name, c.source) = (d.name, d.source) := by
  rw [group, group, toLex_inj, Prod.mk.injEq, toLex_inj, Prod.mk.injEq, Prod.mk.injEq]
  constructor
  · rintro ⟨-, hname, hsource⟩
    exact ⟨textKey_injective hname, textKey_injective hsource⟩
  · rintro ⟨hname, hsource⟩
    refine ⟨?_, congrArg _ hname, congrArg _ hsource⟩
    rw [isMarker, isMarker, hname]

theorem group_le_of_sortKey_le {wire : Wire} {c d : Capability} (h : c.sortKey wire ≤ d.sortKey wire) :
    c.group ≤ d.group := by
  rw [sortKey, sortKey, Prod.Lex.toLex_le_toLex] at h
  exact h.elim le_of_lt fun h => le_of_eq h.1

theorem sortKey_lt_of_group_lt {wire : Wire} {c d : Capability} (h : c.group < d.group) :
    c.sortKey wire < d.sortKey wire := by
  rw [sortKey, sortKey, Prod.Lex.toLex_lt_toLex]
  exact Or.inl h

/-- The diagnostic comes before everything else. -/
theorem group_lt_of_isMarker {c d : Capability} (hc : c.isMarker = true) (hd : d.isMarker = false) :
    c.group < d.group := by
  rw [group, group, Prod.Lex.toLex_lt_toLex, hc, hd]
  exact Or.inl (show false < true by decide)

end Capability

section

variable (wire : Wire)

/-- `order_capabilities` -/
def orderCapabilities : List Capability → List Capability := sortBy (Capability.sortKey wire)

def boundCapabilities (l : List Capability) : Marked (List Capability) := do
  let l ← arranged (orderCapabilities wire) l
  let l ← resized (dedupAdjacent fun c => (c.name, c.source)) l
  truncate wire.maxCapabilities l

/-- In order, with one entry for each name and source. -/
def Distinct (l : List Capability) : Prop := l.Pairwise fun c d => c.group < d.group

structure CapabilitiesBounded (l : List Capability) : Prop where
  distinct : Distinct l
  length : l.length ≤ wire.maxCapabilities

theorem Distinct.inOrder {l : List Capability} (h : Distinct l) : InOrder (Capability.sortKey wire) l :=
  h.imp fun hlt => le_of_lt (Capability.sortKey_lt_of_group_lt hlt)

/-- Sorted, with one entry for each name and source. -/
theorem sortedCapabilities_settles : Settles
    (fun l => arranged (orderCapabilities wire) l >>= resized (dedupAdjacent fun c => (c.name, c.source))) Distinct
    List.Perm :=
  Settles.sortDedup (Capability.sortKey wire) (fun _ _ => Capability.group_le_of_sortKey_le)
    (fun _ _ h => le_of_lt (Capability.sortKey_lt_of_group_lt h)) Capability.group_eq_iff

theorem boundCapabilities_settles : Settles (boundCapabilities wire) (CapabilitiesBounded wire) List.Perm := by
  have hall := (sortedCapabilities_settles wire).andThen (Settles.truncate wire.maxCapabilities).perm
    (fun l h => by rw [truncate_value]; exact h.sublist (List.take_sublist _ _)) List.Perm.trans
  exact hall.congr fun l => ⟨fun h => ⟨h.1, h.2⟩, fun h => ⟨h.distinct, h.length⟩⟩

theorem boundCapabilities_subset {l : List Capability} {c : Capability} (h : c ∈ (boundCapabilities wire l).value) :
    c ∈ l := by
  simp only [boundCapabilities, Marked.bind_value, truncate_value, resized_value] at h
  exact (mem_sortBy _).mp ((dedupAdjacent_sublist _ _).subset (List.mem_of_mem_take h))

/-! ## The summary metrics -/

def networkKey (n : NetworkSnapshot) : List Nat := serializedKey (wire.networkJson n)
def diskKey (d : DiskSnapshot) : List Nat := serializedKey (wire.diskJson d)
def temperatureKey (t : TemperatureSnapshot) : List Nat := serializedKey (wire.temperatureJson t)
def gpuKey (g : GpuSnapshot) : List Nat := serializedKey (wire.gpuJson g)

def networkMetrics : List (NetworkSnapshot → Option F64) :=
  [fun n => some n.receivedBytesPerSecond, fun n => some n.transmittedBytesPerSecond]

def diskMetrics : List (DiskSnapshot → Option F64) :=
  [fun d => some d.readBytesPerSecond, fun d => some d.writtenBytesPerSecond]

def temperatureMetrics : List (TemperatureSnapshot → Option F64) := [fun t => t.celsius]

def gpuMetrics : List (GpuSnapshot → Option F64) := [fun g => g.utilizationPercent, fun g => g.temperatureCelsius]

def boundCollections (r : ClientReport) : Marked ClientReport := do
  return { r with
    capabilities := ← boundCapabilities wire r.capabilities
    system := { r.system with
      networks := ← truncate wire.maxNetworks (prioritize (networkKey wire) networkMetrics r.system.networks).1
      disks := ← truncate wire.maxDisks (prioritize (diskKey wire) diskMetrics r.system.disks).1
      temperatures := ← truncate wire.maxTemperatures
        (prioritize (temperatureKey wire) temperatureMetrics r.system.temperatures).1
      gpus := ← truncate wire.maxGpus (prioritize (gpuKey wire) gpuMetrics r.system.gpus).1 } }

/-- How many entries lead each collection, no more than there are left of it. -/
def anchors (r bounded : ClientReport) : Minima where
  capabilities := 0
  networks := min (prioritize (networkKey wire) networkMetrics r.system.networks).2 bounded.system.networks.length
  disks := min (prioritize (diskKey wire) diskMetrics r.system.disks).2 bounded.system.disks.length
  temperatures :=
    min (prioritize (temperatureKey wire) temperatureMetrics r.system.temperatures).2 bounded.system.temperatures.length
  gpus := min (prioritize (gpuKey wire) gpuMetrics r.system.gpus).2 bounded.system.gpus.length

/-! ## The pass -/

/-- The hardware, at the time of the report, and the processor. -/
def boundParts (r : ClientReport) : Marked ClientReport := do
  return { r with
    system := { r.system with
      hardware := ← optional (boundHardware wire r.collectedAt) r.system.hardware
      cpu := ← boundCpu wire r.system.cpu } }

def boundValues (clampFutureTimestamp : Bool) (now : DateTime) (r : ClientReport) : Marked ClientReport := do
  let r ← normalizeScalarsAndText wire clampFutureTimestamp now r
  boundParts wire r

/-- The diagnostic of a bounded report. -/
def truncationMarker : Capability :=
  Capability.unavailable truncatedCapability truncatedSource .invalidData truncatedMessage

/-- `u64::MAX` -/
def u64Max : Nat := 2 ^ 64 - 1

def mark (r : ClientReport) : ClientReport :=
  { r with
    capabilities := (orderCapabilities wire (r.capabilities ++ [truncationMarker])).take wire.maxCapabilities
    client := { r.client with collectorErrors := min (r.client.collectorErrors + 1) u64Max } }

def alreadyMarked (r : ClientReport) : Bool := r.capabilities.any Capability.isMarker

/-- The report before its body is fitted, and whether anything was changed. -/
def boundBeforeFitting (clampFutureTimestamp : Bool) (now : DateTime) (r : ClientReport) : Marked ClientReport :=
  let valued := boundValues wire clampFutureTimestamp now r
  let collected := boundCollections wire valued.value
  let changed := valued.changed || collected.changed || tooLong wire collected.value
  ⟨if changed && !alreadyMarked r then mark wire collected.value else collected.value, changed⟩

/-- `bound_report_with_time_policy` -/
def boundReportWithTimePolicy (clampFutureTimestamp : Bool) (now : DateTime) (r : ClientReport) :
    Marked ClientReport :=
  let valued := boundValues wire clampFutureTimestamp now r
  let bounded := boundBeforeFitting wire clampFutureTimestamp now r
  ⟨fitBody wire (anchors wire valued.value bounded.value) bounded.value, bounded.changed⟩

/-- `bound_report` -/
def boundReport (now : DateTime) (r : ClientReport) : Marked ClientReport := boundReportWithTimePolicy wire true now r

/-! ## The bytes -/

def encodeReportBodyInner (clampFutureTimestamp : Bool) (now : DateTime) (r : ClientReport) :
    Except Error (ClientReport × List UInt8) :=
  if r.schemaVersion ≠ wire.schemaVersion then
    .error (.message s!"unsupported Client report schema_version {r.schemaVersion}; expected {wire.schemaVersion}")
  else
    let bounded := (boundReportWithTimePolicy wire clampFutureTimestamp now r).value
    match wire.toVec bounded with
    | .error text => .error (.context "failed to serialize bounded Client report" (.message text))
    | .ok body =>
      if body.length ≤ wire.maxBodyBytes then .ok (bounded, body)
      else .error (.message
        s!"bounded Client report is {body.length} bytes, above the {wire.maxBodyBytes} byte wire limit")

/-- `encode_report_body` -/
def encodeReportBody (now : DateTime) (r : ClientReport) : Except Error (ClientReport × List UInt8) :=
  encodeReportBodyInner wire true now r

/-- `canonical_spool_report`: the clock is not asked. -/
def canonicalSpoolReport (r : ClientReport) : Except Error (ClientReport × List UInt8) :=
  encodeReportBodyInner wire false 0 r

/-- A report is encoded when it has the current schema, and its bounded form is written within the limit. -/
theorem encodeReportBodyInner_eq_ok {clamp : Bool} {now : DateTime} {r b : ClientReport} {bytes : List UInt8} :
    encodeReportBodyInner wire clamp now r = .ok (b, bytes) ↔ r.schemaVersion = wire.schemaVersion ∧
      (boundReportWithTimePolicy wire clamp now r).value = b ∧ wire.toVec b = .ok bytes ∧
      bytes.length ≤ wire.maxBodyBytes := by
  unfold encodeReportBodyInner
  by_cases hschema : r.schemaVersion = wire.schemaVersion
  · rw [if_neg (not_not_intro hschema)]
    generalize (boundReportWithTimePolicy wire clamp now r).value = bounded
    rcases hvec : wire.toVec bounded with text | body
    · simp only [hvec]
      refine iff_of_false (by simp) ?_
      rintro ⟨-, rfl, hok, -⟩
      rw [hvec] at hok
      cases hok
    · simp only [hvec]
      split
      · next hlen =>
        rw [Except.ok.injEq, Prod.mk.injEq]
        constructor
        · rintro ⟨rfl, rfl⟩
          exact ⟨hschema, rfl, hvec, hlen⟩
        · rintro ⟨-, rfl, hok, -⟩
          exact ⟨rfl, Except.ok.inj (hvec.symm.trans hok)⟩
      · next hlen =>
        refine iff_of_false (by simp) ?_
        rintro ⟨-, rfl, hok, hle⟩
        rw [hvec] at hok
        cases hok
        exact hlen hle
  · rw [if_pos hschema]
    exact iff_of_false (by simp) fun h => hschema h.1

end

end Xsoc
