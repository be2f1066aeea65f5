import Xsoc.Report.Enumeration
import Xsoc.Report.Postcondition
import Xsoc.Report.Rendering

/-!
# Bounding a bounded report

* `Canonical` : the reports that bounding leaves alone (`Canonical.fixed`);
* `Hostile` : a report in which a capability gets the diagnostic's name and source only by being bounded;
* `canonical_boundReport` : a bounded report that fits is canonical, unless it came from a hostile one;
* `bound_report_idempotent_iff` : so bounding is idempotent on reports that are not hostile, and is not on hostile
  ones that keep all their capabilities.
-/

set_option autoImplicit false

namespace Xsoc

open Bounding

section

variable (wire : Wire)

/-- A collection in its canonical order and within its limit. -/
structure Ranked {α : Type} (key : α → List Nat) (metrics : List (α → Option F64)) (maximum : Nat) (l : List α) :
    Prop where
  prioritized : Prioritized key metrics l
  apart : TellsApart key l
  length : l.length ≤ maximum

theorem Ranked.truncate_prioritize {α : Type} {key : α → List Nat} {metrics : List (α → Option F64)} {maximum : Nat}
    {l : List α} (h : Ranked key metrics maximum l) :
    truncate maximum (prioritize key metrics l).1 = pure l := by
  rw [h.prioritized.prioritize_eq h.apart, (Settles.truncate maximum).fixed h.length]

/-- A report that bounding leaves alone. -/
structure Canonical (clampFutureTimestamp : Bool) (now : DateTime) (r : ClientReport) : Prop where
  valued : r.Valued wire clampFutureTimestamp now
  capabilities : CapabilitiesBounded wire r.capabilities
  networks : Ranked (networkKey wire) networkMetrics wire.maxNetworks r.system.networks
  disks : Ranked (diskKey wire) diskMetrics wire.maxDisks r.system.disks
  temperatures : Ranked (temperatureKey wire) temperatureMetrics wire.maxTemperatures r.system.temperatures
  gpus : Ranked (gpuKey wire) gpuMetrics wire.maxGpus r.system.gpus
  fits : serializedLen wire r ≤ wire.maxBodyBytes

theorem Canonical.boundCollections {clamp : Bool} {now : DateTime} {r : ClientReport} (h : Canonical wire clamp now r) :
    boundCollections wire r = pure r := by
  simp only [Xsoc.boundCollections, (boundCapabilities_settles wire).fixed h.capabilities,
    h.networks.truncate_prioritize, h.disks.truncate_prioritize, h.temperatures.truncate_prioritize,
    h.gpus.truncate_prioritize, Marked.pure_bind]

theorem Canonical.fixed {clamp : Bool} {now : DateTime} {r : ClientReport} (h : Canonical wire clamp now r) :
    boundReportWithTimePolicy wire clamp now r = pure r := by
  have hfits := (tooLong_eq_false wire).mpr h.fits
  have hbefore : boundBeforeFitting wire clamp now r = pure r := by
    simp only [boundBeforeFitting, (boundValues_settles wire clamp now).fixed h.valued, Marked.pure_value,
      Marked.pure_changed, h.boundCollections wire, hfits, Bool.or_self, Bool.false_and, Bool.false_eq_true, if_false]
    rfl
  simp only [boundReportWithTimePolicy, hbefore, Marked.pure_value, Marked.pure_changed, fitBody_eq_self wire hfits]
  rfl

/-! ## Hostile capabilities -/

/-- The name and the source of the truncation diagnostic. -/
def Capability.isDiagnostic (c : Capability) : Bool := c.isMarker && c.source == truncatedSource

/-- No capability has the diagnostic's name, but one gets it, with the diagnostic's source, by being bounded. -/
def Hostile (r : ClientReport) : Prop :=
  alreadyMarked r = false ∧ ∃ c ∈ r.capabilities, (boundCapability wire c).value.isDiagnostic = true

theorem isDiagnostic_iff_group {c : Capability} : c.isDiagnostic = true ↔ c.group = truncationMarker.group := by
  rw [Capability.group_eq_iff, Prod.mk.injEq, Capability.isDiagnostic, Bool.and_eq_true,
    Capability.isMarker, beq_iff_eq,
    beq_iff_eq]
  rfl

theorem InOrder.distinct {l : List Capability} (h : InOrder (Capability.sortKey wire) l)
    (hnodup : (l.map Capability.group).Nodup) : Distinct l := by
  rw [List.Nodup, List.pairwise_map] at hnodup
  exact h.imp₂ (fun c d hle hne => lt_of_le_of_ne (Capability.group_le_of_sortKey_le hle) hne) hnodup

theorem Distinct.nodup {l : List Capability} (h : Distinct l) : (l.map Capability.group).Nodup := by
  rw [List.Nodup, List.pairwise_map]
  exact h.imp fun hlt => ne_of_lt hlt

/-- The diagnostic is added to capabilities that do not have it. -/
theorem distinct_fullCapabilities {due : Bool} {v : ClientReport}
    (h : due = true → ∀ c ∈ v.capabilities, c.isDiagnostic = false) : Distinct (fullCapabilities wire due v) := by
  have hold := ((boundCapabilities_settles wire).result v.capabilities).distinct
  unfold fullCapabilities
  cases due with
  | false => exact hold
  | true =>
    rw [if_pos rfl]
    refine InOrder.distinct wire (inOrder_sortBy _ _) ?_
    rw [orderCapabilities, ((sortBy_perm _ _).map _).nodup_iff, List.map_append, List.nodup_append]
    refine ⟨hold.nodup, List.nodup_singleton _, ?_⟩
    rintro a ha b hb rfl
    obtain ⟨c, hc, rfl⟩ := List.mem_map.mp ha
    have hdiagnostic := isDiagnostic_iff_group.mpr (List.mem_singleton.mp hb)
    rw [h rfl c (boundCapabilities_subset wire hc)] at hdiagnostic
    cases hdiagnostic

theorem not_isDiagnostic_of_not_hostile {clamp : Bool} {now : DateTime} {r : ClientReport} (h : ¬ Hostile wire r)
    (hdue : markDue wire clamp now r = true) :
    ∀ c ∈ (boundValues wire clamp now r).value.capabilities, c.isDiagnostic = false := by
  rw [markDue, Bool.and_eq_true, Bool.not_eq_true'] at hdue
  rw [capabilities_boundValues]
  intro c hc
  obtain ⟨d, hd, rfl⟩ := List.mem_map.mp hc
  by_contra hdiagnostic
  exact h ⟨hdue.2, d, hd, by simpa using hdiagnostic⟩

/-! ## What is bounded is canonical -/

theorem ranked_take_prioritize {α : Type} {key : α → List Nat} {metrics : List (α → Option F64)} {l l' : List α}
    {maximum : Nat} (hapart : TellsApart key l) (h : ∃ k ≤ maximum, l' = (prioritize key metrics l).1.take k) :
    Ranked key metrics maximum l' := by
  obtain ⟨k, hk, rfl⟩ := h
  have hapart' : TellsApart key (prioritize key metrics l).1 :=
    hapart.of_subset fun x hx => (mem_prioritize key metrics).mp hx
  exact ⟨(prioritized_prioritize hapart).take hapart' k, hapart'.of_subset fun x hx => List.mem_of_mem_take hx,
    (List.length_take_le _ _).trans hk⟩

/-- A bounded report that fits is canonical, for the same clock and every later one. -/
theorem canonical_boundReport {clamp clamp' : Bool} {now later : DateTime} {r : ClientReport}
    (hclock : clamp' = true → clamp = true ∧ now ≤ later)
    (hapart : EntriesApart wire (boundValues wire clamp now r).value) (hhostile : ¬ Hostile wire r)
    (hfits : serializedLen wire (boundReportWithTimePolicy wire clamp now r).value ≤ wire.maxBodyBytes) :
    Canonical wire clamp' later (boundReportWithTimePolicy wire clamp now r).value := by
  have htrimmed := boundReport_trimmed wire clamp now r
  have hvalued := (boundValues_settles wire clamp now).result r
  have hdistinct := distinct_fullCapabilities wire (v := (boundValues wire clamp now r).value)
    (not_isDiagnostic_of_not_hostile wire hhostile)
  generalize (boundReportWithTimePolicy wire clamp now r).value = b at htrimmed hfits ⊢
  generalize (boundValues wire clamp now r).value = v at htrimmed hvalued hapart hdistinct
  generalize markDue wire clamp now r = due at htrimmed hdistinct
  obtain ⟨hhardware, hnetworks, hdisks, htemperatures, hgpus, ⟨k, hk, hcapabilities⟩, -, hrest⟩ := htrimmed
  obtain ⟨hnormal, hparts⟩ := hvalued
  have hinterval : b.intervalSeconds = v.intervalSeconds := by rw [← hrest]
  have hhost : b.host = v.host := by rw [← hrest]
  have hcpu : b.system.cpu = v.system.cpu := by rw [← hrest]
  have hmemory : b.system.memory = v.system.memory := by rw [← hrest]
  have htime : b.collectedAt = v.collectedAt := by rw [← hrest]
  refine ⟨⟨⟨hinterval ▸ hnormal.intervalSeconds, ?_, hhost ▸ hnormal.host, hcpu ▸ hnormal.usagePercent,
    hmemory ▸ hnormal.memory, (atMost_take_prioritize hnormal.networks hnetworks).each,
    (atMost_take_prioritize hnormal.disks hdisks).each,
    (atMost_take_prioritize hnormal.temperatures htemperatures).each,
    (atMost_take_prioritize hnormal.gpus hgpus).each, ?_⟩, ?_, hcpu ▸ hparts.cpu⟩, ?_,
    ranked_take_prioritize hapart.networks hnetworks, ranked_take_prioritize hapart.disks hdisks,
    ranked_take_prioritize hapart.temperatures htemperatures, ranked_take_prioritize hapart.gpus hgpus, hfits⟩
  · intro hclamp
    obtain ⟨hclamped, hle⟩ := hclock hclamp
    have hnow : v.collectedAt - now ≤ clockTolerance := hnormal.collectedAt hclamped
    rw [htime]
    exact (Int.sub_le_sub_left hle v.collectedAt).trans hnow
  · intro c hc
    rw [hcapabilities] at hc
    exact bounded_fullCapabilities wire hnormal.capabilities c (List.mem_of_mem_take hc)
  · intro h hh
    rcases hhardware with heq | hnone
    · exact htime ▸ hparts.hardware h (heq ▸ hh)
    · rw [hnone] at hh
      cases hh
  · rw [hcapabilities]
    exact ⟨hdistinct.sublist (List.take_sublist _ _), (List.length_take_le _ _).trans hk⟩

/-! ## The diagnostic is counted once -/

theorem collectorErrors_boundValues (clamp : Bool) (now : DateTime) (r : ClientReport) :
    (boundValues wire clamp now r).value.client.collectorErrors = r.client.collectorErrors := by
  simp only [boundValues, boundParts, normalizeScalarsAndText, Marked.bind_value, Marked.pure_value]

theorem alreadyMarked_of_startsMarked {r : ClientReport} (h : StartsMarked r.capabilities) :
    alreadyMarked r = true := by
  obtain ⟨c, rest, hcapabilities, hc⟩ := h
  rw [alreadyMarked, hcapabilities, List.any_cons, hc, Bool.true_or]

/-- A report that has the diagnostic keeps it, and a report that was changed gets it. -/
theorem alreadyMarked_boundReport {now : DateTime} {r : ClientReport}
    (h : alreadyMarked r = true ∨ (boundReport wire now r).changed = true) :
    alreadyMarked (boundReport wire now r).value = true := by
  cases hchanged : (boundReport wire now r).changed with
  | true => exact alreadyMarked_of_startsMarked (startsMarked_boundReport wire hchanged)
  | false =>
    rw [hchanged, or_iff_left Bool.false_ne_true] at h
    have hreordered : Reordered r (boundReport wire now r).value := reordered_of_unchanged wire hchanged
    rw [alreadyMarked, ← hreordered.capabilities.any_eq]
    exact h

/-- What a run has counted: nothing yet, or the diagnostic is there. -/
def CountedOnce (errors : Nat) (r : ClientReport) : Prop :=
  r.client.collectorErrors ≤ errors ∨ alreadyMarked r = true ∧ r.client.collectorErrors ≤ errors + 1

theorem CountedOnce.boundReport {errors : Nat} {r : ClientReport} (h : CountedOnce errors r) (now : DateTime) :
    CountedOnce errors (boundReport wire now r).value := by
  have herrors : (Xsoc.boundReport wire now r).value.client.collectorErrors = _ :=
    (boundReport_trimmed wire true now r).collectorErrors
  rw [collectorErrors_boundValues] at herrors
  cases hdue : markDue wire true now r with
  | false =>
    rw [hdue, if_neg Bool.false_ne_true] at herrors
    refine h.imp (fun hle => herrors.trans_le hle) fun ⟨hmarked, hle⟩ => ?_
    exact ⟨alreadyMarked_boundReport wire (Or.inl hmarked), herrors.trans_le hle⟩
  | true =>
    rw [hdue, if_pos rfl] at herrors
    rw [markDue, Bool.and_eq_true, Bool.not_eq_true'] at hdue
    obtain hle | ⟨hmarked, -⟩ := h
    · exact Or.inr ⟨alreadyMarked_boundReport wire (Or.inr hdue.1),
        herrors.trans_le ((Nat.min_le_left _ _).trans (Nat.succ_le_succ hle))⟩
    · rw [hmarked] at hdue
      cases hdue.2

theorem collectorErrors_foldl_boundReport (clocks : List DateTime) (r : ClientReport) :
    (clocks.foldl (fun r now => (boundReport wire now r).value) r).client.collectorErrors ≤
      r.client.collectorErrors + 1 := by
  have hcounted : CountedOnce r.client.collectorErrors
      (clocks.foldl (fun r now => (boundReport wire now r).value) r) :=
    List.foldlRecOn clocks _ (Or.inl le_rfl) fun _ h now _ => h.boundReport wire now
  exact hcounted.elim (fun h => h.trans (Nat.le_succ _)) And.right

/-! ## Idempotence -/

/-- What the documentation of `bound_report` promises: a report that fits is not changed again, and the diagnostic and
its count are added once. -/
structure Idempotent (now : DateTime) (r : ClientReport) : Prop where
  again : serializedLen wire (boundReport wire now r).value ≤ wire.maxBodyBytes → ∀ later, now ≤ later →
    boundReport wire later (boundReport wire now r).value = ⟨(boundReport wire now r).value, false⟩
  diagnostic : ((boundReport wire now r).value.capabilities.filter Capability.isDiagnostic).length ≤ 1
  errors : ∀ clocks : List DateTime,
    (clocks.foldl (fun r now => (boundReport wire now r).value) r).client.collectorErrors ≤ r.client.collectorErrors + 1

theorem Distinct.length_isDiagnostic {l : List Capability} (h : Distinct l) :
    (l.filter Capability.isDiagnostic).length ≤ 1 := by
  by_contra hlen
  have hpair : 1 < (l.filter Capability.isDiagnostic).length := Nat.lt_of_not_le hlen
  have hlt := List.pairwise_iff_getElem.mp (h.sublist List.filter_sublist) 0 1 (by omega) hpair Nat.zero_lt_one
  have hdiagnostic : ∀ i (hi : i < (l.filter Capability.isDiagnostic).length),
      (l.filter Capability.isDiagnostic)[i].group = truncationMarker.group := fun i hi =>
    isDiagnostic_iff_group.mp (List.mem_filter.mp (List.getElem_mem hi)).2
  rw [hdiagnostic, hdiagnostic] at hlt
  exact lt_irrefl _ hlt

theorem idempotent_of_not_hostile {now : DateTime} {r : ClientReport}
    (hapart : EntriesApart wire (boundValues wire true now r).value) (h : ¬ Hostile wire r) :
    Idempotent wire now r := by
  refine ⟨fun hfits later hlater => ?_, ?_, fun clocks => collectorErrors_foldl_boundReport wire clocks r⟩
  · exact (canonical_boundReport wire (fun _ => ⟨rfl, hlater⟩) hapart h hfits).fixed
  · obtain ⟨k, -, hcapabilities⟩ := (boundReport_trimmed wire true now r).capabilities
    rw [boundReport, hcapabilities]
    have hdistinct : Distinct (fullCapabilities wire (markDue wire true now r) (boundValues wire true now r).value) :=
      distinct_fullCapabilities wire (not_isDiagnostic_of_not_hostile wire h)
    exact Distinct.length_isDiagnostic (hdistinct.sublist (List.take_sublist _ _))

/-- Few enough capabilities are not cut. -/
theorem boundCapabilities_value {l : List Capability} (h : l.length ≤ wire.maxCapabilities) :
    (boundCapabilities wire l).value = dedupAdjacent (fun c => (c.name, c.source)) (orderCapabilities wire l) := by
  have hlength : (dedupAdjacent (fun c : Capability => (c.name, c.source)) (orderCapabilities wire l)).length ≤
      wire.maxCapabilities := by
    refine (dedupAdjacent_sublist _ _).length_le.trans ?_
    rw [orderCapabilities, length_sortBy]
    exact h
  simp only [boundCapabilities, Marked.bind_value, truncate_value, resized_value]
  exact List.take_of_length_le hlength

/-- The diagnostic of a hostile report is there before the diagnostic is due. -/
theorem exists_isDiagnostic {l : List Capability} (hcount : l.length ≤ wire.maxCapabilities) {c : Capability}
    (hc : c ∈ l) (hdiagnostic : c.isDiagnostic = true) :
    ∃ d ∈ (boundCapabilities wire l).value, d.isDiagnostic = true := by
  rw [boundCapabilities_value wire hcount]
  have hmem : c ∈ orderCapabilities wire l := (mem_sortBy _).mpr hc
  have hkept : ∃ d ∈ dedupAdjacent (fun c : Capability => (c.name, c.source)) (orderCapabilities wire l),
      (d.name, d.source) = (c.name, c.source) := exists_mem_dedupAdjacent hmem
  obtain ⟨d, hd, hkey⟩ := hkept
  refine ⟨d, hd, ?_⟩
  rw [isDiagnostic_iff_group, (Capability.group_eq_iff _ _).mpr hkey]
  exact isDiagnostic_iff_group.mp hdiagnostic

theorem markDue_of_hostile {clamp : Bool} {now : DateTime} {r : ClientReport} (h : Hostile wire r) :
    markDue wire clamp now r = true := by
  obtain ⟨hunmarked, c, hc, hdiagnostic⟩ := h
  rw [markDue, hunmarked, Bool.not_false, Bool.and_true]
  by_contra hunchanged
  rw [Bool.not_eq_true] at hunchanged
  have hflags : ((boundValues wire clamp now r).changed || (boundCollections wire
      (boundValues wire clamp now r).value).changed || tooLong wire (boundCollections wire
      (boundValues wire clamp now r).value).value) = false := hunchanged
  rw [Bool.or_eq_false_iff, Bool.or_eq_false_iff] at hflags
  -- nothing was changed, so the capability had the name before
  have hsame : (boundValues wire clamp now r).value.capabilities = r.capabilities := by
    have hrest := congrArg ClientReport.capabilities ((boundValues_settles wire clamp now).honest hflags.1.1).rest
    exact hrest
  have hmem : (boundCapability wire c).value ∈ r.capabilities := by
    rw [← hsame, capabilities_boundValues]
    exact List.mem_map_of_mem hc
  rw [Capability.isDiagnostic, Bool.and_eq_true] at hdiagnostic
  rw [alreadyMarked, List.any_eq_false] at hunmarked
  exact hunmarked _ hmem hdiagnostic.1

/-- A hostile capability is a second diagnostic, where no capability is cut. -/
theorem not_idempotent_of_hostile {now : DateTime} {r : ClientReport}
    (hcount : r.capabilities.length < wire.maxCapabilities)
    (hfits : tooLong wire (boundBeforeFitting wire true now r).value = false) (h : Hostile wire r) :
    ¬ Idempotent wire now r := by
  intro hidempotent
  have hdiagnostic := hidempotent.diagnostic
  have hlength : (boundValues wire true now r).value.capabilities.length < wire.maxCapabilities := by
    rw [capabilities_boundValues, List.length_map]
    exact hcount
  obtain ⟨c, hc, hcd⟩ := h.2
  have hmem : (boundCapability wire c).value ∈ (boundValues wire true now r).value.capabilities := by
    rw [capabilities_boundValues]
    exact List.mem_map_of_mem hc
  obtain ⟨d, hd, hdd⟩ := exists_isDiagnostic wire hlength.le hmem hcd
  rw [boundReport, boundReportWithTimePolicy, fitBody_eq_self wire hfits, boundBeforeFitting_value,
    markDue_of_hostile wire h, if_pos rfl, mark, boundCollections_value] at hdiagnostic
  simp only at hdiagnostic
  generalize (boundValues wire true now r).value.capabilities = l at hlength hd hdiagnostic
  -- the one it came with, and the one it was given
  have htwo : 2 ≤ ((boundCapabilities wire l).value ++ [truncationMarker]).countP Capability.isDiagnostic := by
    have hone : 1 ≤ (boundCapabilities wire l).value.countP Capability.isDiagnostic :=
      List.countP_pos_iff.mpr ⟨d, hd, hdd⟩
    rw [List.countP_append, List.countP_singleton, if_pos (by decide)]
    exact Nat.succ_le_succ hone
  have hkept : ((boundCapabilities wire l).value ++ [truncationMarker]).length ≤ wire.maxCapabilities := by
    have hbounded : (boundCapabilities wire l).value.length ≤ l.length := by
      rw [boundCapabilities_value wire hlength.le]
      refine (dedupAdjacent_sublist _ _).length_le.trans ?_
      rw [orderCapabilities, length_sortBy]
    rw [List.length_append, List.length_singleton]
    omega
  rw [orderCapabilities, List.take_of_length_le (by rw [length_sortBy]; exact hkept), ← List.countP_eq_length_filter,
    (sortBy_perm _ _).countP_eq] at hdiagnostic
  omega

/-- Bounding is idempotent on every report that is not hostile. On a hostile one that is within the limits it is
not. -/
theorem bound_report_idempotent_iff (now : DateTime) (r : ClientReport)
    (hapart : EntriesApart wire (boundValues wire true now r).value) :
    (¬ Hostile wire r → Idempotent wire now r) ∧
      (r.capabilities.length < wire.maxCapabilities →
        serializedLen wire (boundBeforeFitting wire true now r).value ≤ wire.maxBodyBytes →
        (Idempotent wire now r ↔ ¬ Hostile wire r)) := by
  refine ⟨idempotent_of_not_hostile wire hapart, fun hcount hfits => ⟨fun hidempotent hhostile => ?_,
    idempotent_of_not_hostile wire hapart⟩⟩
  exact not_idempotent_of_hostile wire hcount ((tooLong_eq_false wire).mpr hfits) hhostile hidempotent

end

/-- A capability with a control character in its name. -/
def capabilityNamed (name source : String) : ClientReport :=
  { quietReport with capabilities := [Capability.ofAvailable name source] }

theorem bound_report_idempotent_control : Idempotent (compactWire []) 0 (capabilityNamed "system\ncpu" "native") :=
  (bound_report_idempotent_iff (compactWire []) 0 (capabilityNamed "system\ncpu" "native")
    (by decide +kernel)).1 (fun h => absurd h.2 (by decide +kernel))

/-- The control character goes, and the capability is the diagnostic. -/
theorem bound_report_repeats_diagnostic :
    ¬ Idempotent (compactWire []) 0 (capabilityNamed "client.report.truncated\n" "xsoc") :=
  not_idempotent_of_hostile (compactWire []) (by decide) (by decide +kernel)
    ⟨by decide +kernel, _, List.mem_singleton.mpr rfl, by decide +kernel⟩

end Xsoc
