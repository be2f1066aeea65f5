import Xsoc.Report.Pass
import Xsoc.Report.Rendering

/-!
# Bounding does not depend on the order of enumeration

* `Permuted` : a report with its collections enumerated in another order;
* `EntriesApart` : the JSON texts of the bounded entries of a report tell them apart;
* `bound_report_permuted` : two such reports are bounded to one, with one flag and one body.
-/

set_option autoImplicit false

namespace Xsoc

open Bounding

/-- The same report, with its collections enumerated in another order. -/
structure Permuted (r r' : ClientReport) : Prop where
  capabilities : r.capabilities.Perm r'.capabilities
  networks : r.system.networks.Perm r'.system.networks
  disks : r.system.disks.Perm r'.system.disks
  temperatures : r.system.temperatures.Perm r'.system.temperatures
  gpus : r.system.gpus.Perm r'.system.gpus
  rest : { r' with
    capabilities := r.capabilities
    system := { r'.system with
      networks := r.system.networks
      disks := r.system.disks
      temperatures := r.system.temperatures
      gpus := r.system.gpus } } = r

theorem each_perm {α : Type} (f : α → Marked α) {l l' : List α} (h : l.Perm l') :
    (each f l).value.Perm (each f l').value ∧ (each f l).changed = (each f l').changed :=
  ⟨h.map _, h.any_eq⟩

section

variable (wire : Wire)

def capabilityKey (c : Capability) : List Nat := serializedKey (wire.capabilityJson c)

/-- The JSON texts of the entries of a report tell them apart. -/
structure EntriesApart (r : ClientReport) : Prop where
  capabilities : TellsApart (capabilityKey wire) r.capabilities
  networks : TellsApart (networkKey wire) r.system.networks
  disks : TellsApart (diskKey wire) r.system.disks
  temperatures : TellsApart (temperatureKey wire) r.system.temperatures
  gpus : TellsApart (gpuKey wire) r.system.gpus

instance (r : ClientReport) : Decidable (EntriesApart wire r) :=
  decidable_of_iff (TellsApart (capabilityKey wire) r.capabilities ∧ TellsApart (networkKey wire) r.system.networks ∧
      TellsApart (diskKey wire) r.system.disks ∧ TellsApart (temperatureKey wire) r.system.temperatures ∧
      TellsApart (gpuKey wire) r.system.gpus)
    ⟨fun ⟨hc, hn, hd, ht, hg⟩ => ⟨hc, hn, hd, ht, hg⟩, fun ⟨hc, hn, hd, ht, hg⟩ => ⟨hc, hn, hd, ht, hg⟩⟩

theorem tellsApart_sortKey {l : List Capability} (h : TellsApart (capabilityKey wire) l) :
    TellsApart (Capability.sortKey wire) l := by
  intro c hc d hd heq
  rw [Capability.sortKey, Capability.sortKey, toLex_inj, Prod.mk.injEq, toLex_inj, Prod.mk.injEq] at heq
  exact h c hc d hd heq.2.2

theorem normalize_permuted (clamp : Bool) (now : DateTime) {r r' : ClientReport} (h : Permuted r r') :
    Permuted (normalizeScalarsAndText wire clamp now r).value (normalizeScalarsAndText wire clamp now r').value ∧
      (normalizeScalarsAndText wire clamp now r).changed = (normalizeScalarsAndText wire clamp now r').changed := by
  obtain ⟨hc, hn, hd, ht, hg, hrest⟩ := h
  obtain ⟨hc, hcflag⟩ := each_perm (boundCapability wire) hc
  obtain ⟨hn, hnflag⟩ := each_perm (boundNetwork wire) hn
  obtain ⟨hd, hdflag⟩ := each_perm (boundDisk wire) hd
  obtain ⟨ht, htflag⟩ := each_perm (boundTemperature wire) ht
  obtain ⟨hg, hgflag⟩ := each_perm (boundGpu wire) hg
  constructor
  · simp only [normalizeScalarsAndText, Marked.bind_value, Marked.pure_value]
    refine ⟨hc, hn, hd, ht, hg, ?_⟩
    rw [← hrest]
  · simp only [normalizeScalarsAndText, Marked.bind_changed, Marked.pure_changed, hcflag, hnflag, hdflag,
      htflag, hgflag]
    rw [← hrest]

theorem boundParts_permuted {r r' : ClientReport} (h : Permuted r r') :
    Permuted (boundParts wire r).value (boundParts wire r').value ∧
      (boundParts wire r).changed = (boundParts wire r').changed := by
  obtain ⟨hc, hn, hd, ht, hg, hrest⟩ := h
  constructor
  · simp only [boundParts, Marked.bind_value, Marked.pure_value]
    refine ⟨hc, hn, hd, ht, hg, ?_⟩
    rw [← hrest]
  · simp only [boundParts, Marked.bind_changed, Marked.pure_changed]
    rw [← hrest]

theorem boundValues_permuted (clamp : Bool) (now : DateTime) {r r' : ClientReport} (h : Permuted r r') :
    Permuted (boundValues wire clamp now r).value (boundValues wire clamp now r').value ∧
      (boundValues wire clamp now r).changed = (boundValues wire clamp now r').changed := by
  obtain ⟨hnormal, hflag⟩ := normalize_permuted wire clamp now h
  obtain ⟨hparts, hflag'⟩ := boundParts_permuted wire hnormal
  refine ⟨hparts, ?_⟩
  rw [boundValues, boundValues, Marked.bind_changed, Marked.bind_changed, hflag, hflag']

/-- Sorting by the JSON texts forgets the order of enumeration. -/
theorem boundCollections_permuted {v v' : ClientReport} (h : Permuted v v') (hapart : EntriesApart wire v) :
    boundCollections wire v = boundCollections wire v' ∧
      ∀ bounded, anchors wire v bounded = anchors wire v' bounded := by
  obtain ⟨hc, hn, hd, ht, hg, hrest⟩ := h
  have horder : orderCapabilities wire v.capabilities = orderCapabilities wire v'.capabilities :=
    sortBy_congr (tellsApart_sortKey wire hapart.capabilities) hc
  have hcapabilities : boundCapabilities wire v.capabilities = boundCapabilities wire v'.capabilities := by
    rw [boundCapabilities, arranged, horder, boundCapabilities, arranged]
  constructor
  · rw [boundCollections, boundCollections, hcapabilities, prioritize_congr networkMetrics hapart.networks hn,
      prioritize_congr diskMetrics hapart.disks hd,
      prioritize_congr temperatureMetrics hapart.temperatures ht, prioritize_congr gpuMetrics hapart.gpus hg]
    rw [← hrest]
  · intro bounded
    rw [anchors, anchors, prioritize_congr networkMetrics hapart.networks hn,
      prioritize_congr diskMetrics hapart.disks hd, prioritize_congr temperatureMetrics hapart.temperatures ht,
        prioritize_congr gpuMetrics hapart.gpus hg]

/-- However the collections were enumerated, the report is bounded to the same report with the same flag, and encoded
to the same bytes. -/
theorem bound_report_permuted (now : DateTime) {r r' : ClientReport} (h : Permuted r r')
    (hapart : EntriesApart wire (boundValues wire true now r).value) :
    boundReport wire now r = boundReport wire now r' ∧ encodeReportBody wire now r = encodeReportBody wire now r' := by
  obtain ⟨hvalues, hflag⟩ := boundValues_permuted wire true now h
  obtain ⟨hcollections, hanchors⟩ := boundCollections_permuted wire hvalues hapart
  have hmarked : alreadyMarked r = alreadyMarked r' := h.capabilities.any_eq
  have hbefore : boundBeforeFitting wire true now r = boundBeforeFitting wire true now r' := by
    simp only [boundBeforeFitting, hflag, hcollections, hmarked]
  have hbound : boundReport wire now r = boundReport wire now r' := by
    simp only [boundReport, boundReportWithTimePolicy, hbefore, hanchors]
  have hschema : r.schemaVersion = r'.schemaVersion := by rw [← h.rest]
  refine ⟨hbound, ?_⟩
  simp only [boundReport] at hbound
  simp only [encodeReportBody, encodeReportBodyInner, hbound, hschema]

end

/-- The interfaces from last to first. -/
def reversedNetworks (r : ClientReport) : ClientReport :=
  { r with system := { r.system with networks := r.system.networks.reverse } }

theorem permuted_reversedNetworks (r : ClientReport) : Permuted r (reversedNetworks r) :=
  ⟨.rfl, (List.reverse_perm _).symm, .rfl, .rfl, .rfl, rfl⟩

theorem bound_report_reversed_networks :
    boundReport (compactWire []) 0 networkReport = boundReport (compactWire []) 0 (reversedNetworks networkReport) := by
  have hapart : EntriesApart (compactWire []) (boundValues (compactWire []) true 0 networkReport).value := by
    decide +kernel
  exact (bound_report_permuted (compactWire []) 0 (permuted_reversedNetworks networkReport) hapart).1

end Xsoc
