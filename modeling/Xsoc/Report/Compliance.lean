import Xsoc.Report.Pass

/-!
# The flag of bounding a report

* `inCanonicalOrder` : a report with its collections in their canonical order, and nothing else done to it;
* `Compliant` : a report that keeps to the contract, in whatever order its collections are;
* `bound_report_changed_iff` : the flag is raised exactly for the others.
-/

set_option autoImplicit false

namespace Xsoc

open Bounding

/-- The hardware, with its memory modules and devices in order. -/
def HardwareSnapshot.inOrder (h : HardwareSnapshot) : HardwareSnapshot :=
  { h with
    memoryModules := sortBy MemoryModule.sortKey h.memoryModules
    devices := sortBy HardwareDevice.sortKey h.devices }

/-- The report, with its hardware in order. -/
def ClientReport.hardwareInOrder (r : ClientReport) : ClientReport :=
  { r with system := { r.system with hardware := r.system.hardware.map HardwareSnapshot.inOrder } }

section

variable (wire : Wire)

/-- The report, with every collection in its canonical order. -/
def inCanonicalOrder (r : ClientReport) : ClientReport :=
  { r with
    capabilities := orderCapabilities wire r.capabilities
    system := { r.system with
      hardware := r.system.hardware.map HardwareSnapshot.inOrder
      networks := (prioritize (networkKey wire) networkMetrics r.system.networks).1
      disks := (prioritize (diskKey wire) diskMetrics r.system.disks).1
      temperatures := (prioritize (temperatureKey wire) temperatureMetrics r.system.temperatures).1
      gpus := (prioritize (gpuKey wire) gpuMetrics r.system.gpus).1 } }

/-- The report keeps to the contract, but for the order of its collections. -/
structure Compliant (clampFutureTimestamp : Bool) (now : DateTime) (r : ClientReport) : Prop where
  valued : r.hardwareInOrder.Valued wire clampFutureTimestamp now
  capabilities : CapabilitiesBounded wire (orderCapabilities wire r.capabilities)
  networks : r.system.networks.length ≤ wire.maxNetworks
  disks : r.system.disks.length ≤ wire.maxDisks
  temperatures : r.system.temperatures.length ≤ wire.maxTemperatures
  gpus : r.system.gpus.length ≤ wire.maxGpus
  body : serializedLen wire (inCanonicalOrder wire r) ≤ wire.maxBodyBytes

/-! ## Values -/

theorem sortBy_sortBy {α κ : Type} [LinearOrder κ] (key : α → κ) (l : List α) :
    sortBy key (sortBy key l) = sortBy key l := sortBy_eq_self (inOrder_sortBy key l)

theorem truncate_honest {α : Type} {select : List α → List α} (hsub : ∀ l, (select l).Sublist l) {maximum : Nat}
    {l : List α} (hc : (resized select l >>= truncate maximum).changed = false) :
    (resized select l >>= truncate maximum).value = l := by
  rw [Marked.bind_changed, Bool.or_eq_false_iff, resized_value] at hc
  rw [Marked.bind_value, resized_value, ← (Settles.truncate maximum).honest hc.2, resized_honest hsub hc.1]

theorem boundMemoryModules_arranges :
    Arranges (boundMemoryModules wire) (sortBy MemoryModule.sortKey) (MemoryModulesBounded wire) :=
  (boundMemoryModules_settles wire).arranges
    (fun l => resized (dedupAdjacent fun m => (m.source, m.id)) l >>= truncate wire.maxMemoryModules)
    (fun _ => rfl) (boundMemoryModule_settles wire).each (truncate_honest (dedupAdjacent_sublist _)) (sortBy_sortBy _)
    fun h m hm => h.each m ((mem_sortBy _).mpr hm)

theorem boundDevices_arranges :
    Arranges (boundDevices wire) (sortBy HardwareDevice.sortKey) (DevicesBounded wire) :=
  (boundDevices_settles wire).arranges
    (fun l => resized (retainFirst HardwareDevice.identity []) l >>= truncate wire.maxHardwareDevices)
    (fun _ => rfl) (boundHardwareDevice_settles wire).each (truncate_honest (retainFirst_sublist _ _)) (sortBy_sortBy _)
    fun h d hd => h.each d ((mem_sortBy _).mpr hd)

theorem boundCapabilities_arranges :
    Arranges (boundCapabilities wire) (orderCapabilities wire) (CapabilitiesBounded wire) := by
  -- each capability is left as it is
  have hfirst : Settles (fun l : List Capability => pure l) (fun _ => True) Eq :=
    ⟨fun _ => trivial, fun _ => rfl, fun _ => rfl⟩
  exact (boundCapabilities_settles wire).arranges
    (fun l => resized (dedupAdjacent fun c => (c.name, c.source)) l >>= truncate wire.maxCapabilities)
    (fun _ => rfl) hfirst (truncate_honest (dedupAdjacent_sublist _)) (sortBy_sortBy _) fun _ => trivial

theorem boundHardware_arranges (reportTime : DateTime) :
    Arranges (boundHardware wire reportTime) HardwareSnapshot.inOrder (HardwareSnapshot.Bounded wire reportTime) where
  unchanged {h} hc := by
    have hresult := (boundHardware_settles wire reportTime).result h
    have hvalue : (boundHardware wire reportTime h).value = h.inOrder := by
      have hmemory := boundMemoryModules_arranges wire
      have hdevices := boundDevices_arranges wire
      have htime := boundTime_settles reportTime
      simp only [boundHardware, Marked.bind_changed, Marked.pure_changed, Bool.or_eq_false_iff] at hc
      obtain ⟨h1, h2, h3, h4, h5, h6, h7, h8, h9, -⟩ := hc
      simp only [boundHardware, Marked.bind_value, Marked.pure_value, ← htime.optional.honest h1,
        (hmemory.unchanged h2).1, (hdevices.unchanged h3).1, ← htime.honest h4,
        ← (boundCpuHardware_settles wire).honest h5, ← (boundNetworkHardwares_settles wire).honest h6,
        ← (boundPhysicalNetworks_settles wire).honest h7, ← (boundSensors_settles wire).honest h8,
        ← (boundDiskHealths_settles wire reportTime).honest h9]
      rfl
    rw [hvalue] at hresult
    exact ⟨hvalue, hresult⟩
  fixed {h} hb := by
    have htime := boundTime_settles reportTime
    simp only [boundHardware, htime.optional.fixed (x := h.inventoryCollectedAt) hb.inventoryCollectedAt,
      (boundMemoryModules_arranges wire).fixed hb.memoryModules, (boundDevices_arranges wire).fixed hb.devices,
      htime.fixed (x := h.collectedAt) hb.collectedAt, (boundCpuHardware_settles wire).fixed (x := h.cpu) hb.cpu,
      (boundNetworkHardwares_settles wire).fixed (x := h.networks) hb.networks,
      (boundPhysicalNetworks_settles wire).fixed (x := h.physicalNetworks) hb.physicalNetworks,
      (boundSensors_settles wire).fixed (x := h.sensors) hb.sensors,
      (boundDiskHealths_settles wire reportTime).fixed (x := h.diskHealth) hb.diskHealth, Marked.pure_bind]
    rfl

theorem boundValues_arranges (clamp : Bool) (now : DateTime) :
    Arranges (boundValues wire clamp now) ClientReport.hardwareInOrder (ClientReport.Valued wire clamp now) where
  unchanged {r} hc := by
    have hresult := (boundValues_settles wire clamp now).result r
    have hvalue : (boundValues wire clamp now r).value = r.hardwareInOrder := by
      rw [boundValues, Marked.bind_changed, Bool.or_eq_false_iff] at hc
      obtain ⟨hnormal, hparts⟩ := hc
      rw [boundValues, Marked.bind_value]
      rw [← (normalizeScalarsAndText_settles wire clamp now).honest hnormal] at hparts ⊢
      simp only [boundParts, Marked.bind_changed, Marked.pure_changed, Bool.or_eq_false_iff] at hparts
      simp only [boundParts, Marked.bind_value, Marked.pure_value,
        ((boundHardware_arranges wire r.collectedAt).optional.unchanged hparts.1).1,
        ← (boundCpu_settles wire).honest hparts.2.1]
      rfl
    rw [hvalue] at hresult
    exact ⟨hvalue, hresult⟩
  fixed {r} hv := by
    -- what is said of a normal report is not about its hardware
    have hnormal : r.Normal wire clamp now :=
      ⟨hv.normal.intervalSeconds, hv.normal.collectedAt, hv.normal.host, hv.normal.usagePercent, hv.normal.memory,
        hv.normal.networks, hv.normal.disks, hv.normal.temperatures, hv.normal.gpus, hv.normal.capabilities⟩
    have hhardware := (boundHardware_arranges wire r.collectedAt).optional.fixed hv.parts.hardware
    rw [boundValues, (normalizeScalarsAndText_settles wire clamp now).fixed hnormal, Marked.pure_bind]
    simp only [boundParts, hhardware, (boundCpu_settles wire).fixed (x := r.system.cpu) hv.parts.cpu, Marked.pure_bind]
    rfl

/-! ## The flag -/

theorem truncate_prioritize {α : Type} (key : α → List Nat) (metrics : List (α → Option F64)) {maximum : Nat}
    {l : List α} (h : l.length ≤ maximum) :
    truncate maximum (prioritize key metrics l).1 = pure (prioritize key metrics l).1 :=
  (Settles.truncate maximum).fixed ((length_prioritize key metrics l).symm ▸ h)

theorem length_le_of_truncate_prioritize {α : Type} {key : α → List Nat} {metrics : List (α → Option F64)}
    {maximum : Nat} {l : List α} (h : (truncate maximum (prioritize key metrics l).1).changed = false) :
    l.length ≤ maximum := by
  rwa [truncate_changed, decide_eq_false_iff_not, Nat.not_lt, length_prioritize] at h

theorem boundCollections_eq_pure {v : ClientReport} (hcapabilities : CapabilitiesBounded wire
      (orderCapabilities wire v.capabilities)) (hnetworks : v.system.networks.length ≤ wire.maxNetworks)
    (hdisks : v.system.disks.length ≤ wire.maxDisks)
    (htemperatures : v.system.temperatures.length ≤ wire.maxTemperatures)
    (hgpus : v.system.gpus.length ≤ wire.maxGpus) :
    boundCollections wire v = pure { v with
      capabilities := orderCapabilities wire v.capabilities
      system := { v.system with
        networks := (prioritize (networkKey wire) networkMetrics v.system.networks).1
        disks := (prioritize (diskKey wire) diskMetrics v.system.disks).1
        temperatures := (prioritize (temperatureKey wire) temperatureMetrics v.system.temperatures).1
        gpus := (prioritize (gpuKey wire) gpuMetrics v.system.gpus).1 } } := by
  simp only [boundCollections, (boundCapabilities_arranges wire).fixed hcapabilities,
    truncate_prioritize _ _ hnetworks, truncate_prioritize _ _ hdisks, truncate_prioritize _ _ htemperatures,
    truncate_prioritize _ _ hgpus, Marked.pure_bind]

/-- **The flag of bounding a report.** Nothing had to be changed or discarded exactly where the report keeps to the
contract already, but for the order of its collections. -/
theorem bound_report_changed_iff (clamp : Bool) (now : DateTime) (r : ClientReport) :
    (boundReportWithTimePolicy wire clamp now r).changed = false ↔ Compliant wire clamp now r := by
  show ((boundValues wire clamp now r).changed ||
    (boundCollections wire (boundValues wire clamp now r).value).changed ||
    tooLong wire (boundCollections wire (boundValues wire clamp now r).value).value) = false ↔ _
  have hvalues := boundValues_arranges wire clamp now
  constructor
  · intro hflags
    rw [Bool.or_eq_false_iff, Bool.or_eq_false_iff] at hflags
    obtain ⟨⟨hchanged, hcollections⟩, hbody⟩ := hflags
    obtain ⟨hvalue, hvalued⟩ := hvalues.unchanged hchanged
    rw [hvalue] at hcollections hbody
    simp only [boundCollections, Marked.bind_changed, Marked.pure_changed, Bool.or_eq_false_iff] at hcollections
    obtain ⟨hc, hn, hd, ht, hg, -⟩ := hcollections
    have hcapabilities := ((boundCapabilities_arranges wire).unchanged hc).2
    have hnetworks := length_le_of_truncate_prioritize hn
    have hdisks := length_le_of_truncate_prioritize hd
    have htemperatures := length_le_of_truncate_prioritize ht
    have hgpus := length_le_of_truncate_prioritize hg
    rw [boundCollections_eq_pure wire hcapabilities hnetworks hdisks htemperatures hgpus] at hbody
    exact ⟨hvalued, hcapabilities, hnetworks, hdisks, htemperatures, hgpus, (tooLong_eq_false wire).mp hbody⟩
  · rintro ⟨hvalued, hcapabilities, hnetworks, hdisks, htemperatures, hgpus, hbody⟩
    rw [hvalues.fixed hvalued, Marked.pure_value, Marked.pure_changed,
      boundCollections_eq_pure wire (v := r.hardwareInOrder) hcapabilities hnetworks hdisks htemperatures hgpus]
    exact (tooLong_eq_false wire).mpr hbody

instance decidableCompliant (clamp : Bool) (now : DateTime) (r : ClientReport) :
    Decidable (Compliant wire clamp now r) :=
  decidable_of_iff _ (bound_report_changed_iff wire clamp now r)

end

end Xsoc
