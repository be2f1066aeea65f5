import Xsoc.Report.Pass

/-!
# What a bounded report satisfies

* `ClientReport.WithinContract` : every text, number, count and time of a report is within the contract;
* `bound_report_within_contract` : so is every report that was bounded, whatever it was before;
* `bound_report_accounts` : a report that was changed starts with the diagnostic, any other is the same up to order.
-/

set_option autoImplicit false

namespace Xsoc

open Bounding

section

variable (wire : Wire)

/-- The body is within the limit, or nothing that could go is left beside the diagnostic. -/
def BodyBounded (r : ClientReport) : Prop :=
  serializedLen wire r ≤ wire.maxBodyBytes ∨
    r.system.hardware = none ∧ r.system.networks = [] ∧ r.system.disks = [] ∧ r.system.temperatures = [] ∧
      r.system.gpus = [] ∧ ∃ c, r.capabilities = [c] ∧ c.name = truncatedCapability

structure ClientReport.WithinContract (r : ClientReport) : Prop where
  intervalSeconds : IntervalBounded wire r.intervalSeconds
  host : r.host.Bounded wire
  usagePercent : r.system.cpu.usagePercent.Percent
  cpu : r.system.cpu.Bounded wire
  memory : r.system.memory.Bounded
  capabilities : AtMost wire.maxCapabilities (Capability.Bounded wire) r.capabilities
  networks : AtMost wire.maxNetworks (NetworkSnapshot.Bounded wire) r.system.networks
  disks : AtMost wire.maxDisks (DiskSnapshot.Bounded wire) r.system.disks
  temperatures : AtMost wire.maxTemperatures (TemperatureSnapshot.Bounded wire) r.system.temperatures
  gpus : AtMost wire.maxGpus (GpuSnapshot.Bounded wire) r.system.gpus
  hardware : ∀ h ∈ r.system.hardware, h.Bounded wire r.collectedAt ∧
    (h.memoryModules.map fun m => (m.source, m.id)).Nodup
  body : BodyBounded wire r

theorem nodup_of_distinct {l : List MemoryModule} (h : l.Pairwise fun m n => m.sortKey < n.sortKey) :
    (l.map fun m => (m.source, m.id)).Nodup := by
  rw [List.Nodup, List.pairwise_map]
  exact h.imp fun {m n} hlt heq => absurd ((MemoryModule.sortKey_eq_iff m n).mpr heq) (ne_of_lt hlt)

theorem atMost_take_prioritize {α : Type} {key : α → List Nat} {metrics : List (α → Option F64)} {l l' : List α}
    {maximum : Nat} {ok : α → Prop} (hok : ∀ x ∈ l, ok x)
    (h : ∃ k ≤ maximum, l' = (prioritize key metrics l).1.take k) : AtMost maximum ok l' := by
  obtain ⟨k, hk, rfl⟩ := h
  refine ⟨(List.length_take_le _ _).trans hk, fun x hx => hok x ?_⟩
  exact (mem_prioritize key metrics).mp (List.mem_of_mem_take hx)

theorem bounded_fullCapabilities {due : Bool} {v : ClientReport} (hv : ∀ c ∈ v.capabilities, c.Bounded wire) :
    ∀ c ∈ fullCapabilities wire due v, c.Bounded wire := by
  intro c hc
  have hold : ∀ d ∈ (boundCapabilities wire v.capabilities).value, d.Bounded wire :=
    fun d hd => hv d (boundCapabilities_subset wire hd)
  unfold fullCapabilities at hc
  cases due with
  | false => exact hold c hc
  | true =>
    rw [if_pos rfl, orderCapabilities, mem_sortBy, List.mem_append, List.mem_singleton] at hc
    rcases hc with hc | rfl
    · exact hold c hc
    · exact truncationMarker_bounded wire

/-- A report that still does not fit was changed. -/
theorem changed_of_tooLong {clamp : Bool} {now : DateTime} {r : ClientReport}
    (h : tooLong wire (boundReportWithTimePolicy wire clamp now r).value = true) :
    (boundReportWithTimePolicy wire clamp now r).changed = true := by
  by_contra hc
  rw [Bool.not_eq_true] at hc
  have hflag : (boundBeforeFitting wire clamp now r).changed = false := hc
  have hdue : markDue wire clamp now r = false := by rw [markDue, hflag, Bool.false_and]
  have hflags : ((boundValues wire clamp now r).changed || (boundCollections wire
      (boundValues wire clamp now r).value).changed || tooLong wire (boundCollections wire
      (boundValues wire clamp now r).value).value) = false := hc
  have hbefore : tooLong wire (boundBeforeFitting wire clamp now r).value = false := by
    rw [boundBeforeFitting_value, hdue, if_neg Bool.false_ne_true]
    exact (Bool.or_eq_false_iff.mp hflags).2
  simp only [boundReportWithTimePolicy] at h
  rw [fitBody_eq_self wire hbefore, hbefore] at h
  cases h

theorem bodyBounded_boundReport (clamp : Bool) (now : DateTime) (r : ClientReport) :
    BodyBounded wire (boundReportWithTimePolicy wire clamp now r).value := by
  by_cases hlong : tooLong wire (boundReportWithTimePolicy wire clamp now r).value = true
  · have hchanged := changed_of_tooLong wire hlong
    have hbefore : StartsMarked (boundBeforeFitting wire clamp now r).value.capabilities :=
      startsMarked_beforeFitting wire hchanged
    have hafter := startsMarked_boundReport wire hchanged
    have hends := fitBody_ends wire
      (anchors wire (boundValues wire clamp now r).value (boundBeforeFitting wire clamp now r).value)
      (boundBeforeFitting wire clamp now r).value
    rw [capabilityMinimum_eq_one.mpr hbefore] at hends
    rcases hends with hfits | ⟨hbare, hhardware⟩
    · exact absurd hlong (by rw [boundReportWithTimePolicy, hfits]; exact Bool.false_ne_true)
    · obtain ⟨c, rest, hcapabilities, hc⟩ := hafter
      have hlen : (c :: rest).length ≤ 1 := hcapabilities ▸ hbare.capabilities
      obtain rfl : rest = [] := List.length_eq_zero_iff.mp (by simpa using hlen)
      exact Or.inr ⟨hhardware, hbare.networks, hbare.disks, hbare.temperatures, hbare.gpus, c, hcapabilities,
        beq_iff_eq.mp hc⟩
  · exact Or.inl ((tooLong_eq_false wire).mp (Bool.eq_false_iff.mpr hlong))

theorem withinContract_boundReport (clamp : Bool) (now : DateTime) (r : ClientReport) :
    (boundReportWithTimePolicy wire clamp now r).value.WithinContract wire := by
  have htrimmed := boundReport_trimmed wire clamp now r
  have hvalued := (boundValues_settles wire clamp now).result r
  have hbody := bodyBounded_boundReport wire clamp now r
  generalize (boundReportWithTimePolicy wire clamp now r).value = b at htrimmed hbody ⊢
  generalize (boundValues wire clamp now r).value = v at htrimmed hvalued
  obtain ⟨hhardware, hnetworks, hdisks, htemperatures, hgpus, hcapabilities, -, hrest⟩ := htrimmed
  obtain ⟨hnormal, hparts⟩ := hvalued
  have hinterval : b.intervalSeconds = v.intervalSeconds := by rw [← hrest]
  have hhost : b.host = v.host := by rw [← hrest]
  have hcpu : b.system.cpu = v.system.cpu := by rw [← hrest]
  have hmemory : b.system.memory = v.system.memory := by rw [← hrest]
  have htime : b.collectedAt = v.collectedAt := by rw [← hrest]
  refine ⟨hinterval ▸ hnormal.intervalSeconds, hhost ▸ hnormal.host, hcpu ▸ hnormal.usagePercent,
    hcpu ▸ hparts.cpu, hmemory ▸ hnormal.memory, ?_, atMost_take_prioritize hnormal.networks hnetworks,
    atMost_take_prioritize hnormal.disks hdisks, atMost_take_prioritize hnormal.temperatures htemperatures,
    atMost_take_prioritize hnormal.gpus hgpus, ?_, hbody⟩
  · obtain ⟨k, hk, hb⟩ := hcapabilities
    refine ⟨hb ▸ (List.length_take_le _ _).trans hk, fun c hc => ?_⟩
    rw [hb] at hc
    exact bounded_fullCapabilities wire hnormal.capabilities c (List.mem_of_mem_take hc)
  · intro h hh
    rcases hhardware with heq | hnone
    · have hbounded := hparts.hardware h (heq ▸ hh)
      exact ⟨htime ▸ hbounded, nodup_of_distinct hbounded.memoryModules.distinct⟩
    · rw [hnone] at hh
      cases hh

/-- Bounding makes every report one that the contract admits, and cuts texts between characters only. -/
theorem bound_report_within_contract (now : DateTime) (r : ClientReport) :
    (boundReport wire now r).value.WithinContract wire ∧
      ∀ maximum s, (truncateUtf8 maximum s).toList <+: s.toList ∧
        ∀ c rest, s.toList = (truncateUtf8 maximum s).toList ++ c :: rest →
          maximum < byteLen (truncateUtf8 maximum s).toList + c.utf8Size := by
  refine ⟨withinContract_boundReport wire true now r, fun maximum s => ?_⟩
  rw [truncateUtf8, String.toList_ofList]
  exact ⟨prefix_takeBytes _ _, fun c rest h => takeBytes_maximal h⟩

/-- What bounding changes it tells: without its flag only the order of the collections may differ, and with it the
report starts with the truncation diagnostic. -/
theorem bound_report_accounts (now : DateTime) (r : ClientReport) :
    ((boundReport wire now r).changed = false → Reordered r (boundReport wire now r).value) ∧
      ((boundReport wire now r).changed = true →
        ∃ c rest, (boundReport wire now r).value.capabilities = c :: rest ∧ c.name = truncatedCapability) := by
  refine ⟨reordered_of_unchanged wire, fun hc => ?_⟩
  obtain ⟨c, rest, hcapabilities, hmark⟩ := startsMarked_boundReport wire hc
  exact ⟨c, rest, hcapabilities, beq_iff_eq.mp hmark⟩

end

end Xsoc
