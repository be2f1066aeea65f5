import Xsoc.Report.Bound

/-!
# What bounding a report does

The pass of `boundReportWithTimePolicy`, step by step, for the results about it.

* `boundValues_settles` : scalars, texts, hardware and processor are settled;
* `SameValues` : the same report, up to the order inside its hardware;
* `Trimmed` : what the count limits, the diagnostic and the fitting leave of the settled values;
* `boundReport_trimmed` : the result is the settled values, trimmed;
* `marker_first` : a report that was changed starts with the diagnostic.
-/

set_option autoImplicit false

namespace Xsoc

open Bounding

/-! ## Values -/

theorem HardwareSnapshot.Same.refl (h : HardwareSnapshot) : h.Same h := ⟨.rfl, .rfl, rfl⟩

theorem HardwareSnapshot.Same.trans {h i j : HardwareSnapshot} (hi : h.Same i) (hj : i.Same j) : h.Same j where
  memoryModules := hi.memoryModules.trans hj.memoryModules
  devices := hi.devices.trans hj.devices
  rest := (congrArg (fun k : HardwareSnapshot => { k with memoryModules := h.memoryModules, devices := h.devices })
    hj.rest).trans hi.rest

/-- The same report, but for the order inside the hardware. -/
structure SameValues (r r' : ClientReport) : Prop where
  hardware : Option.Rel HardwareSnapshot.Same r.system.hardware r'.system.hardware
  rest : { r' with system := { r'.system with hardware := r.system.hardware } } = r

theorem SameValues.refl (r : ClientReport) : SameValues r r := by
  refine ⟨?_, rfl⟩
  cases r.system.hardware with
  | none => exact .none
  | some h => exact .some (HardwareSnapshot.Same.refl h)

theorem SameValues.trans {r s t : ClientReport} (h : SameValues r s) (h' : SameValues s t) : SameValues r t := by
  constructor
  · have hrs := h.hardware
    have hst := h'.hardware
    cases hr : r.system.hardware <;> cases hs : s.system.hardware <;> cases ht : t.system.hardware <;>
      rw [hr, hs] at hrs <;> rw [hs, ht] at hst <;> cases hrs <;> cases hst
    · exact .none
    · next hrs => exact .some (HardwareSnapshot.Same.trans ‹_› hrs)
  · have hst := congrArg
      (fun u : ClientReport => { u with system := { u.system with hardware := r.system.hardware } }) h'.rest
    exact hst.trans h.rest

section

variable (wire : Wire)

structure PartsBounded (r : ClientReport) : Prop where
  hardware : ∀ h ∈ r.system.hardware, h.Bounded wire r.collectedAt
  cpu : r.system.cpu.Bounded wire

theorem boundParts_settles : Settles (boundParts wire) (PartsBounded wire) SameValues := by
  have hhardware := fun t => (boundHardware_settles wire t).optionalRel
  have hcpu := boundCpu_settles wire
  constructor
  · intro r
    simp only [boundParts, Marked.bind_value, Marked.pure_value]
    constructor <;> dsimp only
    exacts [(hhardware _).result _, hcpu.result _]
  · intro r h
    simp only [boundParts, (hhardware _).fixed h.hardware, hcpu.fixed h.cpu, Marked.pure_bind]
  · intro r h
    simp only [boundParts, Marked.bind_changed, Marked.pure_changed, Bool.or_eq_false_iff] at h
    simp only [boundParts, Marked.bind_value, Marked.pure_value, ← hcpu.honest h.2.1]
    exact ⟨(hhardware _).honest h.1, rfl⟩

/-- What is settled about the values of a report. -/
structure ClientReport.Valued (clampFutureTimestamp : Bool) (now : DateTime) (r : ClientReport) : Prop where
  normal : r.Normal wire clampFutureTimestamp now
  parts : PartsBounded wire r

theorem usagePercent_boundCpu (cpu : CpuSnapshot) : (boundCpu wire cpu).value.usagePercent = cpu.usagePercent := by
  simp only [boundCpu, Marked.bind_value, Marked.pure_value]

theorem boundValues_settles (clamp : Bool) (now : DateTime) :
    Settles (boundValues wire clamp now) (ClientReport.Valued wire clamp now) SameValues := by
  have hnormal : Settles (normalizeScalarsAndText wire clamp now) (ClientReport.Normal wire clamp now) SameValues :=
    (normalizeScalarsAndText_settles wire clamp now).weaken fun h => h ▸ SameValues.refl _
  have hall := hnormal.andThen (boundParts_settles wire) (fun r h => ?_) SameValues.trans
  · exact hall.congr fun r => ⟨fun h => ⟨h.1, h.2⟩, fun h => ⟨h.normal, h.parts⟩⟩
  · simp only [boundParts, Marked.bind_value, Marked.pure_value]
    constructor <;> dsimp only
    exacts [h.intervalSeconds, h.collectedAt, h.host, (usagePercent_boundCpu wire _).symm ▸ h.usagePercent, h.memory,
      h.networks, h.disks, h.temperatures, h.gpus, h.capabilities]

/-! ## Collections -/

/-- The capabilities before they are cut, with the diagnostic where it is due. -/
def fullCapabilities (due : Bool) (v : ClientReport) : List Capability :=
  if due then orderCapabilities wire ((boundCapabilities wire v.capabilities).value ++ [truncationMarker])
  else (boundCapabilities wire v.capabilities).value

/-- What is left of the settled values: each collection in its order, cut short, and the hardware or none; the
diagnostic is counted where it is due. -/
structure Trimmed (due : Bool) (v b : ClientReport) : Prop where
  hardware : b.system.hardware = v.system.hardware ∨ b.system.hardware = none
  networks : ∃ k ≤ wire.maxNetworks,
    b.system.networks = (prioritize (networkKey wire) networkMetrics v.system.networks).1.take k
  disks : ∃ k ≤ wire.maxDisks, b.system.disks = (prioritize (diskKey wire) diskMetrics v.system.disks).1.take k
  temperatures : ∃ k ≤ wire.maxTemperatures,
    b.system.temperatures = (prioritize (temperatureKey wire) temperatureMetrics v.system.temperatures).1.take k
  gpus : ∃ k ≤ wire.maxGpus, b.system.gpus = (prioritize (gpuKey wire) gpuMetrics v.system.gpus).1.take k
  capabilities : ∃ k ≤ wire.maxCapabilities, b.capabilities = (fullCapabilities wire due v).take k
  collectorErrors : b.client.collectorErrors =
    if due then min (v.client.collectorErrors + 1) u64Max else v.client.collectorErrors
  rest : { b with
    capabilities := v.capabilities
    client := { b.client with collectorErrors := v.client.collectorErrors }
    system := { b.system with
      hardware := v.system.hardware
      networks := v.system.networks
      disks := v.system.disks
      temperatures := v.system.temperatures
      gpus := v.system.gpus } } = v

theorem exists_take_of_prefix {α : Type} {l l' : List α} {maximum k : Nat} (hk : k ≤ maximum)
    (h : l' <+: l.take k) : ∃ k ≤ maximum, l' = l.take k := by
  refine ⟨min l'.length k, by omega, ?_⟩
  rw [List.prefix_iff_eq_take, List.take_take] at h
  exact h

/-- What was trimmed may be cut further. -/
theorem Trimmed.cut {due : Bool} {v b c : ClientReport} (h : Trimmed wire due v b) (hcut : Cut b c) :
    Trimmed wire due v c := by
  constructor
  · rw [hcut.hardware]
    exact h.hardware
  · obtain ⟨k, hk, hb⟩ := h.networks
    exact exists_take_of_prefix hk (hb ▸ hcut.networks)
  · obtain ⟨k, hk, hb⟩ := h.disks
    exact exists_take_of_prefix hk (hb ▸ hcut.disks)
  · obtain ⟨k, hk, hb⟩ := h.temperatures
    exact exists_take_of_prefix hk (hb ▸ hcut.temperatures)
  · obtain ⟨k, hk, hb⟩ := h.gpus
    exact exists_take_of_prefix hk (hb ▸ hcut.gpus)
  · obtain ⟨k, hk, hb⟩ := h.capabilities
    exact exists_take_of_prefix hk (hb ▸ hcut.capabilities)
  · rw [hcut.client]
    exact h.collectorErrors
  · have hrest := congrArg (fun u : ClientReport => { u with
      capabilities := v.capabilities
      client := { u.client with collectorErrors := v.client.collectorErrors }
      system := { u.system with
        hardware := v.system.hardware
        networks := v.system.networks
        disks := v.system.disks
        temperatures := v.system.temperatures
        gpus := v.system.gpus } }) hcut.rest
    exact hrest.trans h.rest

theorem Trimmed.withoutHardware {due : Bool} {v b : ClientReport} (h : Trimmed wire due v b) :
    Trimmed wire due v b.withoutHardware :=
  { h with hardware := Or.inr rfl, rest := h.rest }

theorem boundCollections_value (v : ClientReport) : (boundCollections wire v).value = { v with
    capabilities := (boundCapabilities wire v.capabilities).value
    system := { v.system with
      networks := (prioritize (networkKey wire) networkMetrics v.system.networks).1.take wire.maxNetworks
      disks := (prioritize (diskKey wire) diskMetrics v.system.disks).1.take wire.maxDisks
      temperatures :=
        (prioritize (temperatureKey wire) temperatureMetrics v.system.temperatures).1.take wire.maxTemperatures
      gpus := (prioritize (gpuKey wire) gpuMetrics v.system.gpus).1.take wire.maxGpus } } := by
  simp only [boundCollections, Marked.bind_value, Marked.pure_value, truncate_value]

/-- The diagnostic is due when something was changed and no capability had its name. -/
def markDue (clamp : Bool) (now : DateTime) (r : ClientReport) : Bool :=
  (boundBeforeFitting wire clamp now r).changed && !alreadyMarked r

theorem boundBeforeFitting_value (clamp : Bool) (now : DateTime) (r : ClientReport) :
    (boundBeforeFitting wire clamp now r).value =
      if markDue wire clamp now r then mark wire (boundCollections wire (boundValues wire clamp now r).value).value
      else (boundCollections wire (boundValues wire clamp now r).value).value := rfl

/-- The diagnostic is no part of the system. -/
theorem system_boundBeforeFitting (clamp : Bool) (now : DateTime) (r : ClientReport) :
    (boundBeforeFitting wire clamp now r).value.system =
      (boundCollections wire (boundValues wire clamp now r).value).value.system := by
  rw [boundBeforeFitting_value]
  cases markDue wire clamp now r <;> rfl

theorem boundBeforeFitting_trimmed (clamp : Bool) (now : DateTime) (r : ClientReport) :
    Trimmed wire (markDue wire clamp now r) (boundValues wire clamp now r).value
      (boundBeforeFitting wire clamp now r).value := by
  have hcapabilities : (boundCapabilities wire (boundValues wire clamp now r).value.capabilities).value.length ≤
      wire.maxCapabilities := ((boundCapabilities_settles wire).result _).length
  rw [boundBeforeFitting_value, boundCollections_value]
  generalize (boundValues wire clamp now r).value = v at hcapabilities ⊢
  cases markDue wire clamp now r with
  | false =>
    rw [if_neg Bool.false_ne_true]
    exact ⟨Or.inl rfl, ⟨_, Nat.le_refl _, rfl⟩, ⟨_, Nat.le_refl _, rfl⟩, ⟨_, Nat.le_refl _, rfl⟩,
      ⟨_, Nat.le_refl _, rfl⟩, ⟨_, Nat.le_refl _, (List.take_of_length_le hcapabilities).symm⟩, rfl, rfl⟩
  | true =>
    rw [if_pos rfl]
    exact ⟨Or.inl rfl, ⟨_, Nat.le_refl _, rfl⟩, ⟨_, Nat.le_refl _, rfl⟩, ⟨_, Nat.le_refl _, rfl⟩,
      ⟨_, Nat.le_refl _, rfl⟩, ⟨_, Nat.le_refl _, rfl⟩, rfl, rfl⟩

theorem boundReport_trimmed (clamp : Bool) (now : DateTime) (r : ClientReport) :
    Trimmed wire (markDue wire clamp now r) (boundValues wire clamp now r).value
      (boundReportWithTimePolicy wire clamp now r).value := by
  have hbefore := boundBeforeFitting_trimmed wire clamp now r
  unfold boundReportWithTimePolicy
  simp only
  by_cases h : tooLong wire (boundBeforeFitting wire clamp now r).value = true
  · exact hbefore.withoutHardware.cut wire (fitBody_cut wire _ h)
  · rw [fitBody_eq_self wire (Bool.eq_false_iff.mpr h)]
    exact hbefore

/-! ## The diagnostic in front -/

/-- The list starts with the truncation diagnostic. -/
def StartsMarked (l : List Capability) : Prop := ∃ c rest, l = c :: rest ∧ c.isMarker = true

theorem capabilityMinimum_eq_one {r : ClientReport} : capabilityMinimum r = 1 ↔ StartsMarked r.capabilities := by
  unfold capabilityMinimum StartsMarked
  cases r.capabilities with
  | nil => simp
  | cons c l => by_cases hc : c.isMarker = true <;> simp [hc]

theorem StartsMarked.prefix_of {l l' : List Capability} (h : StartsMarked l) (hpre : l' <+: l)
    (hlen : 1 ≤ l'.length) : StartsMarked l' := by
  obtain ⟨c, rest, rfl, hc⟩ := h
  cases l' with
  | nil => cases hlen
  | cons d l' => exact ⟨d, l', rfl, (List.cons_prefix_cons.mp hpre).1 ▸ hc⟩

/-- In order the diagnostic comes first. -/
theorem startsMarked_of_inOrder {l : List Capability} (hl : InOrder (Capability.sortKey wire) l)
    (hex : ∃ c ∈ l, c.isMarker = true) : StartsMarked l := by
  obtain ⟨m, hm, hmark⟩ := hex
  cases l with
  | nil => cases hm
  | cons c rest =>
    refine ⟨c, rest, rfl, ?_⟩
    by_contra hc
    rw [Bool.not_eq_true] at hc
    have hle : c.sortKey wire ≤ m.sortKey wire := by
      rcases List.mem_cons.mp hm with rfl | hm
      · exact le_rfl
      · exact (List.pairwise_cons.mp hl).1 m hm
    exact absurd (Capability.sortKey_lt_of_group_lt (Capability.group_lt_of_isMarker hmark hc)) (not_lt.mpr hle)

theorem startsMarked_take {l : List Capability} (h : StartsMarked l) {k : Nat} (hk : 1 ≤ k) :
    StartsMarked (l.take k) := by
  have hstart : l.take k <+: l := List.take_prefix k l
  refine h.prefix_of hstart ?_
  obtain ⟨c, rest, rfl, -⟩ := h
  rw [List.length_take, List.length_cons]
  omega

theorem startsMarked_boundCapabilities {l : List Capability} (h : ∃ c ∈ l, c.isMarker = true) :
    StartsMarked (boundCapabilities wire l).value := by
  obtain ⟨m, hm, hmark⟩ := h
  have hsorted := startsMarked_of_inOrder wire (inOrder_sortBy (Capability.sortKey wire) l)
    ⟨m, (mem_sortBy _).mpr hm, hmark⟩
  simp only [boundCapabilities, Marked.bind_value, truncate_value, resized_value]
  refine startsMarked_take ?_ wire.capabilities
  obtain ⟨c, rest, hl, hc⟩ := hsorted
  show StartsMarked (dedupAdjacent _ (sortBy (Capability.sortKey wire) l))
  rw [hl]
  exact ⟨c, _, rfl, hc⟩

theorem isMarker_truncationMarker : truncationMarker.isMarker = true := by decide

theorem truncationMarker_bounded : truncationMarker.Bounded wire := by
  have hname := wire.capabilityName
  have hsource := wire.capabilitySource
  have hmessage := wire.capabilityMessage
  refine ⟨⟨⟨?_, by decide +kernel⟩, by decide +kernel⟩, ⟨⟨?_, by decide +kernel⟩, by decide +kernel⟩, ?_⟩
  · exact Nat.le_trans (by decide +kernel : byteLen truncationMarker.name.toList ≤ 23 + 4) hname
  · exact Nat.le_trans (by decide +kernel : byteLen truncationMarker.source.toList ≤ 4) hsource
  · rintro s hs
    obtain rfl : truncatedMessage = s := Option.some.inj hs
    refine ⟨⟨?_, by decide +kernel⟩, by decide +kernel⟩
    exact Nat.le_trans (by decide +kernel : byteLen truncatedMessage.toList ≤ 72) hmessage

/-- The diagnostic's name is left as it is. -/
theorem isMarker_boundCapability {c : Capability} (hc : c.isMarker = true) :
    (boundCapability wire c).value.isMarker = true := by
  have hname : c.name = truncationMarker.name := beq_iff_eq.mp hc
  have hsettles : Settles (boundRequiredText wire.maxCapabilityNameBytes "unknown.capability") _ Eq :=
    boundRequiredText_settles (.ofString (by decide) (by decide)) (by have := wire.capabilityName; omega)
  simp only [boundCapability, Marked.bind_value, Marked.pure_value, Capability.isMarker]
  rw [hname, hsettles.fixed (truncationMarker_bounded wire).name]
  exact isMarker_truncationMarker

theorem capabilities_boundValues (clamp : Bool) (now : DateTime) (r : ClientReport) :
    (boundValues wire clamp now r).value.capabilities = r.capabilities.map fun c => (boundCapability wire c).value := by
  simp only [boundValues, boundParts, normalizeScalarsAndText, Marked.bind_value, Marked.pure_value, each_value]

/-- Before the body is fitted, the capabilities are cut at their number only. -/
theorem capabilities_boundBeforeFitting (clamp : Bool) (now : DateTime) (r : ClientReport) :
    (boundBeforeFitting wire clamp now r).value.capabilities =
      (fullCapabilities wire (markDue wire clamp now r) (boundValues wire clamp now r).value).take
        wire.maxCapabilities := by
  have hlen := ((boundCapabilities_settles wire).result (boundValues wire clamp now r).value.capabilities).length
  rw [boundBeforeFitting_value, boundCollections_value, fullCapabilities]
  cases markDue wire clamp now r with
  | true => rfl
  | false => exact (List.take_of_length_le hlen).symm

/-- A report that was changed starts with the diagnostic before it is fitted. -/
theorem startsMarked_beforeFitting {clamp : Bool} {now : DateTime} {r : ClientReport}
    (hc : (boundBeforeFitting wire clamp now r).changed = true) :
    StartsMarked (boundBeforeFitting wire clamp now r).value.capabilities := by
  rw [capabilities_boundBeforeFitting]
  refine startsMarked_take ?_ wire.capabilities
  unfold fullCapabilities
  cases hdue : markDue wire clamp now r with
  | true =>
    rw [if_pos rfl]
    refine startsMarked_of_inOrder wire (inOrder_sortBy _ _) ⟨truncationMarker, ?_, isMarker_truncationMarker⟩
    exact (mem_sortBy _).mpr (List.mem_append_right _ List.mem_cons_self)
  | false =>
    rw [if_neg Bool.false_ne_true]
    rw [markDue, hc, Bool.true_and, Bool.not_eq_false', alreadyMarked, List.any_eq_true] at hdue
    obtain ⟨c, hcmem, hcmark⟩ := hdue
    refine startsMarked_boundCapabilities wire ⟨_, ?_, isMarker_boundCapability wire hcmark⟩
    rw [capabilities_boundValues]
    exact List.mem_map_of_mem hcmem

/-- And it still does when its body has been fitted. -/
theorem startsMarked_boundReport {clamp : Bool} {now : DateTime} {r : ClientReport}
    (hc : (boundReportWithTimePolicy wire clamp now r).changed = true) :
    StartsMarked (boundReportWithTimePolicy wire clamp now r).value.capabilities := by
  have hflag : (boundBeforeFitting wire clamp now r).changed = true := hc
  have hbefore := startsMarked_beforeFitting wire hflag
  obtain ⟨hpre, hlen⟩ := fitBody_capabilities wire
    (anchors wire (boundValues wire clamp now r).value (boundBeforeFitting wire clamp now r).value)
    (boundBeforeFitting wire clamp now r).value
  rw [capabilityMinimum_eq_one.mpr hbefore] at hlen
  exact hbefore.prefix_of hpre hlen

/-! ## Nothing changed -/

/-- The same report, up to the order of its collections. -/
structure Reordered (r r' : ClientReport) : Prop where
  capabilities : r.capabilities.Perm r'.capabilities
  networks : r.system.networks.Perm r'.system.networks
  disks : r.system.disks.Perm r'.system.disks
  temperatures : r.system.temperatures.Perm r'.system.temperatures
  gpus : r.system.gpus.Perm r'.system.gpus
  hardware : Option.Rel HardwareSnapshot.Same r.system.hardware r'.system.hardware
  rest : { r' with
    capabilities := r.capabilities
    system := { r'.system with
      hardware := r.system.hardware
      networks := r.system.networks
      disks := r.system.disks
      temperatures := r.system.temperatures
      gpus := r.system.gpus } } = r

theorem take_prioritize_perm {α : Type} {key : α → List Nat} {metrics : List (α → Option F64)} {l : List α}
    {maximum : Nat} (h : (truncate maximum (prioritize key metrics l).1).changed = false) :
    l.Perm ((prioritize key metrics l).1.take maximum) := by
  have hsame := (Settles.truncate maximum).honest h
  rw [truncate_value] at hsame
  rw [← hsame]
  exact (prioritize_perm key metrics l).symm

theorem boundCollections_honest {v : ClientReport} (h : (boundCollections wire v).changed = false) :
    Reordered v (boundCollections wire v).value := by
  simp only [boundCollections, Marked.bind_changed, Marked.pure_changed, Bool.or_eq_false_iff] at h
  obtain ⟨hc, hn, hd, ht, hg, -⟩ := h
  rw [boundCollections_value]
  exact ⟨(boundCapabilities_settles wire).honest hc, take_prioritize_perm hn, take_prioritize_perm hd,
    take_prioritize_perm ht, take_prioritize_perm hg, (SameValues.refl v).hardware, rfl⟩

/-- No flag was raised: the report is the same but for the order of its collections. -/
theorem reordered_of_unchanged {clamp : Bool} {now : DateTime} {r : ClientReport}
    (hc : (boundReportWithTimePolicy wire clamp now r).changed = false) :
    Reordered r (boundReportWithTimePolicy wire clamp now r).value := by
  have hflags : ((boundValues wire clamp now r).changed || (boundCollections wire
      (boundValues wire clamp now r).value).changed || tooLong wire (boundCollections wire
      (boundValues wire clamp now r).value).value) = false := hc
  rw [Bool.or_eq_false_iff, Bool.or_eq_false_iff] at hflags
  obtain ⟨⟨hvalues, hcollections⟩, hfits⟩ := hflags
  have hsame := (boundValues_settles wire clamp now).honest hvalues
  have horder := boundCollections_honest wire hcollections
  have hbefore : (boundBeforeFitting wire clamp now r).value =
      (boundCollections wire (boundValues wire clamp now r).value).value := by
    have hflag : (boundBeforeFitting wire clamp now r).changed = false := hc
    have hdue : markDue wire clamp now r = false := by rw [markDue, hflag, Bool.false_and]
    rw [boundBeforeFitting_value, hdue, if_neg Bool.false_ne_true]
  rw [boundReportWithTimePolicy, hbefore, fitBody_eq_self wire hfits]
  generalize (boundValues wire clamp now r).value = v at hsame horder
  obtain ⟨hhardware, hrest⟩ := hsame
  rw [← hrest]
  rw [boundCollections_value] at horder ⊢
  exact ⟨horder.capabilities, horder.networks, horder.disks, horder.temperatures, horder.gpus,
    by simpa using hhardware, rfl⟩

end

end Xsoc
