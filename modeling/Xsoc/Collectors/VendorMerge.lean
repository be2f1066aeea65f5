import Mathlib.Data.List.Induction
import Xsoc.Collectors.GpuMerge
import Xsoc.Report.Normalize

/-!
# The readings of the vendor libraries

After the merge of Windows adapters, the readings of the AMD and Intel libraries enrich the entries they are of. Each
number that a reading has takes the place of what the entry had, the two numbers of the memory one by one.

* `Reading`, `merge`, `collect` : the code;
* `merge_cases` : a reading enriches the first entry of its GPU, or stands alone, or is dropped;
* `ReadingOf` : the providers' readings of the GPU of an entry; `FromOne` : overfull memory is what one of them has
  read;
* `Mixes` : the reading brings one number, which does not fit the other one that the entry had;
* `vendor_merge_iff` : the memory of the entries is from one provider as long as no reading mixes.
-/

set_option autoImplicit false

namespace Xsoc

namespace VendorMerge

open GpuMerge

/-! ## The code -/

structure Failure where
  kind : CapabilityErrorKind
  message : String

structure Reading where
  gpu : GpuSnapshot
  sensors : List HardwareSensor
  temperatures : List TemperatureSnapshot

structure VendorResult where
  readings : List Reading
  failure : Option Failure

/-- `Sample`: how long ago it was taken, in nanoseconds, and what AMD and Intel had. -/
structure Sample where
  elapsed : Nat
  amd : VendorResult
  intel : VendorResult

/-- `enrich!`, and the source. -/
def enrich (base extra : GpuSnapshot) : GpuSnapshot :=
  { base with
    utilizationPercent := extra.utilizationPercent.or base.utilizationPercent
    memoryTotalBytes := extra.memoryTotalBytes.or base.memoryTotalBytes
    memoryUsedBytes := extra.memoryUsedBytes.or base.memoryUsedBytes
    temperatureCelsius := extra.temperatureCelsius.or base.temperatureCelsius
    powerWatts := extra.powerWatts.or base.powerWatts
    coreClockMhz := extra.coreClockMhz.or base.coreClockMhz
    memoryClockMhz := extra.memoryClockMhz.or base.memoryClockMhz
    source := "windows-dxgi-pdh+" ++ extra.source }

/-- Of one GPU: the identifier and the vendor. -/
def SameGpu (g extra : GpuSnapshot) : Prop := g.id = extra.id ∧ g.vendor = extra.vendor

instance (g extra : GpuSnapshot) : Decidable (SameGpu g extra) := inferInstanceAs (Decidable (_ ∧ _))

/-- The entries, with the first one of the GPU enriched, if there is one. -/
def enrichFirst (extra : GpuSnapshot) : List GpuSnapshot → Option (List GpuSnapshot)
  | [] => none
  | base :: gpus => if SameGpu base extra then some (enrich base extra :: gpus) else
    (enrichFirst extra gpus).map (base :: ·)

/-- An entry of its own. Without an identifier of Windows it may be an adapter that is listed already. -/
def standalone (extra : GpuSnapshot) : GpuSnapshot :=
  if extra.source = "amd-adlx-no-luid" then
    { extra with utilizationPercent := none, memoryTotalBytes := none, memoryUsedBytes := none }
  else extra

def merge (maxGpus : Nat) (gpus : List GpuSnapshot) (reading : Reading) : List GpuSnapshot :=
  match enrichFirst reading.gpu gpus with
  | some gpus => gpus
  | none => if gpus.length < maxGpus then gpus ++ [standalone reading.gpu] else gpus

/-- What a round of the collection adds. -/
structure Collected where
  gpus : List GpuSnapshot
  capabilities : List Capability
  sensors : List HardwareSensor
  temperatures : List TemperatureSnapshot

/-- The turn of a vendor. -/
def collectVendor (maxGpus : Nat) (c : Collected) (name source : String) (isPresent : Bool)
    (result : Option VendorResult) : Collected :=
  if !isPresent then
    { c with capabilities := c.capabilities ++
        [Capability.unavailable name source .notPresent "no matching Windows display adapter"] }
  else
    match result with
    | none =>
      { c with capabilities := c.capabilities ++ [Capability.unavailable name source .transient
          "vendor readings are pending or expired; generic Windows telemetry remains available"] }
    | some result =>
      { gpus := result.readings.foldl (merge maxGpus) c.gpus
        sensors := c.sensors ++ result.readings.flatMap Reading.sensors
        temperatures := c.temperatures ++ result.readings.flatMap Reading.temperatures
        capabilities := c.capabilities ++ [
          match result.failure with
          | some failure => Capability.unavailable name source failure.kind failure.message
          | none =>
            if result.readings.isEmpty then
              Capability.unavailable name source .notPresent "SDK enumerated no readable matching GPU"
            else Capability.ofAvailable name source] }

/-- `VendorWorker::collect` -/
def collect (maxGpus : Nat) (gpus : List GpuSnapshot) (cached : Option Sample) : Collected :=
  let unknownAdapter := gpus.isEmpty || gpus.any fun g => g.vendor == "unknown"
  let amd := unknownAdapter || gpus.any fun g => g.vendor == "amd"
  let intel := unknownAdapter || gpus.any fun g => g.vendor == "intel"
  let sample := cached.filter fun sample => sample.elapsed ≤ 120 * 10 ^ 9
  let c := collectVendor maxGpus ⟨gpus, [], [], []⟩ "gpu.amd.vendor" "amd-adlx" amd (sample.map Sample.amd)
  collectVendor maxGpus c "gpu.intel.vendor" "intel-igcl" intel (sample.map Sample.intel)

/-- The Windows part of `GpuRuntime::collect`, on a machine that has vendor libraries. -/
def collectWindows (maxGpus : Nat) (gpus generic : List GpuSnapshot) (nvmlLuids : List (Option String))
    (cached : Option Sample) : Collected :=
  collect maxGpus (mergeWindows maxGpus gpus generic nvmlLuids).1 cached

/-! ## A reading at a time -/

theorem enrichFirst_cases (extra : GpuSnapshot) (gpus : List GpuSnapshot) :
    (∃ before base after, gpus = before ++ base :: after ∧ SameGpu base extra ∧ (∀ g ∈ before, ¬ SameGpu g extra) ∧
      enrichFirst extra gpus = some (before ++ enrich base extra :: after)) ∨
    (∀ g ∈ gpus, ¬ SameGpu g extra) ∧ enrichFirst extra gpus = none := by
  induction gpus with
  | nil => exact Or.inr ⟨fun g hg => (by cases hg), rfl⟩
  | cons base gpus ih =>
    by_cases h : SameGpu base extra
    · exact Or.inl ⟨[], base, gpus, rfl, h, fun g hg => (by cases hg), if_pos h⟩
    have hrest : enrichFirst extra (base :: gpus) = (enrichFirst extra gpus).map (base :: ·) := if_neg h
    rw [hrest]
    obtain ⟨before, found, after, rfl, hsame, hbefore, hfirst⟩ | ⟨hnone, hfirst⟩ := ih
    · refine Or.inl ⟨base :: before, found, after, rfl, hsame, ?_, by rw [hfirst]; rfl⟩
      intro g hg
      rcases List.mem_cons.mp hg with rfl | hg
      · exact h
      · exact hbefore g hg
    · refine Or.inr ⟨?_, by rw [hfirst]; rfl⟩
      intro g hg
      rcases List.mem_cons.mp hg with rfl | hg
      · exact h
      · exact hnone g hg

/-- A reading enriches the first entry of its GPU. Where there is none it stands alone, or it is dropped. -/
theorem merge_cases (maxGpus : Nat) (gpus : List GpuSnapshot) (reading : Reading) :
    (∃ before base after, gpus = before ++ base :: after ∧ SameGpu base reading.gpu ∧
      (∀ g ∈ before, ¬ SameGpu g reading.gpu) ∧
      merge maxGpus gpus reading = before ++ enrich base reading.gpu :: after) ∨
    (∀ g ∈ gpus, ¬ SameGpu g reading.gpu) ∧
      (merge maxGpus gpus reading = gpus ++ [standalone reading.gpu] ∨ merge maxGpus gpus reading = gpus) := by
  unfold merge
  obtain ⟨before, base, after, hgpus, hsame, hbefore, hfirst⟩ | ⟨hnone, hfirst⟩ := enrichFirst_cases reading.gpu gpus
  · exact Or.inl ⟨before, base, after, hgpus, hsame, hbefore, by rw [hfirst]⟩
  · refine Or.inr ⟨hnone, ?_⟩
    rw [hfirst]
    show (if gpus.length < maxGpus then gpus ++ [standalone reading.gpu] else gpus) = _ ∨ _
    split
    · exact Or.inl rfl
    · exact Or.inr rfl

/-! ## Where the memory is from -/

/-- The entry, or the reading, has more memory in use than it has. -/
def Overfull (g : GpuSnapshot) : Prop := overfull g.memoryUsedBytes g.memoryTotalBytes = true

section

variable (maxGpus : Nat) (gpus generic : List GpuSnapshot) (nvmlLuids : List (Option String))

/-- The readings of the GPU of an entry: those that name it, and a DXGI reading that was merged into its NVML entry. -/
def ReadingOf (readings : List Reading) (entry g : GpuSnapshot) : Prop :=
  (g ∈ gpus ++ generic ++ readings.map Reading.gpu ∧ SameGpu g entry) ∨
  ∃ (i : Nat) (base : GpuSnapshot), gpus[i]? = some base ∧ SameGpu base entry ∧ g ∈ generic ∧
    fate nvmlLuids gpus.length generic g = .merged i

/-- Overfull memory of an entry is what a single provider has read. -/
def FromOne (readings : List Reading) (entry : GpuSnapshot) : Prop :=
  Overfull entry → ∃ g, ReadingOf gpus generic nvmlLuids readings entry g ∧ Overfull g

/-- The entries after these vendor readings. -/
def entriesAfter (readings : List Reading) : List GpuSnapshot :=
  readings.foldl (merge maxGpus) (mergeWindows maxGpus gpus generic nvmlLuids).1

/-- The next reading brings one of the two numbers of the memory, which does not fit the other one that the entry has.
No reading of the GPU had such memory. -/
def Mixes (readings : List Reading) (next : GpuSnapshot) : Prop :=
  ∃ base, (entriesAfter maxGpus gpus generic nvmlLuids readings).find? (fun g => decide (SameGpu g next)) = some base ∧
    (next.memoryTotalBytes = none ∧ overfull next.memoryUsedBytes base.memoryTotalBytes = true ∨
      next.memoryUsedBytes = none ∧ overfull base.memoryUsedBytes next.memoryTotalBytes = true) ∧
    ∀ g, ReadingOf gpus generic nvmlLuids readings base g → ¬ Overfull g

variable {maxGpus gpus generic nvmlLuids}

theorem SameGpu.symm {g extra : GpuSnapshot} (h : SameGpu g extra) : SameGpu extra g := ⟨h.1.symm, h.2.symm⟩

theorem ReadingOf.more {readings : List Reading} {entry g : GpuSnapshot}
    (h : ReadingOf gpus generic nvmlLuids readings entry g) (next : Reading) :
    ReadingOf gpus generic nvmlLuids (readings ++ [next]) entry g := by
  obtain ⟨hg, hsame⟩ | h := h
  · refine Or.inl ⟨?_, hsame⟩
    rw [List.map_append, ← List.append_assoc]
    exact List.mem_append_left _ hg
  · exact Or.inr h

theorem FromOne.more {readings : List Reading} {entry : GpuSnapshot}
    (h : FromOne gpus generic nvmlLuids readings entry) (next : Reading) :
    FromOne gpus generic nvmlLuids (readings ++ [next]) entry := by
  intro hover
  obtain ⟨g, hg, hfull⟩ := h hover
  exact ⟨g, hg.more next, hfull⟩

theorem readingOf_next {readings : List Reading} {next : Reading} {entry : GpuSnapshot}
    (h : SameGpu next.gpu entry) : ReadingOf gpus generic nvmlLuids (readings ++ [next]) entry next.gpu := by
  refine Or.inl ⟨?_, h⟩
  rw [List.map_append, ← List.append_assoc]
  exact List.mem_append_right _ (List.mem_singleton_self _)

/-- An entry of another state of the GPU has the same readings. -/
theorem ReadingOf.congr {readings : List Reading} {entry entry' g : GpuSnapshot}
    (h : ReadingOf gpus generic nvmlLuids readings entry g) (hsame : SameGpu entry entry') :
    ReadingOf gpus generic nvmlLuids readings entry' g := by
  obtain ⟨hg, hof⟩ | ⟨i, base, hbase, hof, hrest⟩ := h
  · exact Or.inl ⟨hg, hof.1.trans hsame.1, hof.2.trans hsame.2⟩
  · exact Or.inr ⟨i, base, hbase, ⟨hof.1.trans hsame.1, hof.2.trans hsame.2⟩, hrest⟩

/-- The merge of Windows adapters mixes nothing. -/
theorem fromOne_mergeWindows : ∀ entry ∈ (mergeWindows maxGpus gpus generic nvmlLuids).1,
    FromOne gpus generic nvmlLuids [] entry := by
  intro entry hentry hover
  have haccount := accounted_mergeWindows maxGpus gpus generic nvmlLuids
  obtain ⟨i, hi⟩ := List.mem_iff_getElem?.mp hentry
  have hof {g : GpuSnapshot} (hg : g ∈ gpus ++ generic) (hsame : SameGpu g entry) :
      ReadingOf gpus generic nvmlLuids [] entry g :=
    Or.inl ⟨List.mem_append_left _ hg, hsame⟩
  cases hbase : gpus[i]? with
  | some base =>
    have hmem : base ∈ gpus ++ generic := List.mem_append_left _ (List.mem_of_getElem? hbase)
    by_cases hmerged : ∃ gpu ∈ generic, fate nvmlLuids gpus.length generic gpu = .merged i
    · obtain ⟨gpu, hgpu, hfate⟩ := hmerged
      obtain ⟨base', hbase', hentry'⟩ := haccount.supplemented gpu hgpu i hfate
      cases hbase.symm.trans hbase'
      cases hi.symm.trans hentry'
      have hkeeps := keeps_supplement base gpu
      obtain ⟨hused, htotal⟩ := overfull_supplement hover
      refine ⟨base, hof hmem ⟨hkeeps.id.symm, hkeeps.vendor.symm⟩, ?_⟩
      rwa [Overfull, hused, htotal] at hover
    · have hsame := haccount.untouched i base hbase fun gpu hgpu hfate => hmerged ⟨gpu, hgpu, hfate⟩
      cases hi.symm.trans hsame
      exact ⟨entry, hof hmem ⟨rfl, rfl⟩, hover⟩
  | none =>
    have hlen : gpus.length ≤ i := List.getElem?_eq_none_iff.mp hbase
    have hdrop : entry ∈ (mergeWindows maxGpus gpus generic nvmlLuids).1.drop gpus.length := by
      refine List.mem_iff_getElem?.mpr ⟨i - gpus.length, ?_⟩
      rw [List.getElem?_drop, Nat.add_sub_cancel' hlen, hi]
    rw [haccount.appended] at hdrop
    have hgeneric := (List.mem_filter.mp (List.mem_of_mem_take hdrop)).1
    exact ⟨entry, hof (List.mem_append_right _ hgeneric) ⟨rfl, rfl⟩, hover⟩

theorem overfull_standalone {extra : GpuSnapshot} (h : Overfull (standalone extra)) : Overfull extra := by
  unfold standalone at h
  split at h
  · cases h
  · exact h

theorem sameGpu_standalone (extra : GpuSnapshot) : SameGpu extra (standalone extra) := by
  unfold standalone
  split <;> exact ⟨rfl, rfl⟩

/-- Overfull memory of an enriched entry is that of the reading, or that of the entry, or it is mixed. -/
theorem overfull_enrich {base extra : GpuSnapshot} (h : Overfull (enrich base extra)) :
    Overfull extra ∨ Overfull base ∨
      extra.memoryTotalBytes = none ∧ overfull extra.memoryUsedBytes base.memoryTotalBytes = true ∨
      extra.memoryUsedBytes = none ∧ overfull base.memoryUsedBytes extra.memoryTotalBytes = true := by
  have h : overfull (extra.memoryUsedBytes.or base.memoryUsedBytes)
      (extra.memoryTotalBytes.or base.memoryTotalBytes) = true := h
  unfold Overfull
  cases hused : extra.memoryUsedBytes with
  | none =>
    cases htotal : extra.memoryTotalBytes with
    | none =>
      rw [hused, htotal] at h
      exact Or.inr (Or.inl h)
    | some total =>
      rw [hused, htotal] at h
      exact Or.inr (Or.inr (Or.inr ⟨rfl, h⟩))
  | some used =>
    cases htotal : extra.memoryTotalBytes with
    | none =>
      rw [hused, htotal] at h
      exact Or.inr (Or.inr (Or.inl ⟨rfl, h⟩))
    | some total =>
      rw [hused, htotal] at h
      exact Or.inl h

theorem find?_first {before after : List GpuSnapshot} {base extra : GpuSnapshot} (hsame : SameGpu base extra)
    (hbefore : ∀ g ∈ before, ¬ SameGpu g extra) :
    (before ++ base :: after).find? (fun g => decide (SameGpu g extra)) = some base := by
  have hnone : before.find? (fun g => decide (SameGpu g extra)) = none :=
    List.find?_eq_none.mpr fun g hg => by simpa using hbefore g hg
  rw [List.find?_append, hnone, Option.none_or, List.find?_cons, decide_eq_true hsame]

/-- A reading that does not mix leaves the memory of every entry as one provider has read it. -/
theorem fromOne_merge {readings : List Reading} {next : Reading}
    (h : ∀ entry ∈ entriesAfter maxGpus gpus generic nvmlLuids readings, FromOne gpus generic nvmlLuids readings entry)
    (hmixes : ¬ Mixes maxGpus gpus generic nvmlLuids readings next.gpu) :
    ∀ entry ∈ merge maxGpus (entriesAfter maxGpus gpus generic nvmlLuids readings) next,
      FromOne gpus generic nvmlLuids (readings ++ [next]) entry := by
  obtain ⟨before, base, after, hsplit, hsame, hbefore, hmerge⟩ | ⟨hnone, hmerge⟩ :=
    merge_cases maxGpus (entriesAfter maxGpus gpus generic nvmlLuids readings) next
  · rw [hmerge]
    intro entry hentry
    have hold : entry ∈ before ++ after → FromOne gpus generic nvmlLuids (readings ++ [next]) entry := by
      intro hin
      refine (h entry ?_).more next
      rw [hsplit]
      rcases List.mem_append.mp hin with hin | hin
      · exact List.mem_append_left _ hin
      · exact List.mem_append_right _ (List.mem_cons_of_mem _ hin)
    rcases List.mem_append.mp hentry with hin | hin
    · exact hold (List.mem_append_left _ hin)
    rcases List.mem_cons.mp hin with rfl | hin
    · intro hover
      obtain hover | hover | hmix := overfull_enrich hover
      · exact ⟨next.gpu, readingOf_next hsame.symm, hover⟩
      · have hbase : base ∈ entriesAfter maxGpus gpus generic nvmlLuids readings := by rw [hsplit]; simp
        obtain ⟨g, hg, hfull⟩ := h base hbase hover
        exact ⟨g, (hg.congr ⟨rfl, rfl⟩).more next, hfull⟩
      · by_contra hnot
        refine hmixes ⟨base, by rw [hsplit]; exact find?_first hsame hbefore, hmix, fun g hg hfull => hnot ?_⟩
        exact ⟨g, (hg.congr ⟨rfl, rfl⟩).more next, hfull⟩
    · exact hold (List.mem_append_right _ hin)
  · intro entry hentry
    rcases hmerge with hmerge | hmerge
    · rw [hmerge, List.mem_append, List.mem_singleton] at hentry
      rcases hentry with hentry | rfl
      · exact (h entry hentry).more next
      · intro hover
        exact ⟨next.gpu, readingOf_next (sameGpu_standalone _), overfull_standalone hover⟩
    · rw [hmerge] at hentry
      exact (h entry hentry).more next

theorem overfull_none_left (total : Option Nat) : overfull none total = false := rfl

theorem overfull_none_right (used : Option Nat) : overfull used none = false := by cases used <;> rfl

theorem overfull_enrich_of_mix {base extra : GpuSnapshot}
    (h : extra.memoryTotalBytes = none ∧ overfull extra.memoryUsedBytes base.memoryTotalBytes = true ∨
      extra.memoryUsedBytes = none ∧ overfull base.memoryUsedBytes extra.memoryTotalBytes = true) :
    Overfull (enrich base extra) := by
  show overfull (extra.memoryUsedBytes.or base.memoryUsedBytes)
    (extra.memoryTotalBytes.or base.memoryTotalBytes) = true
  obtain ⟨hnone, hover⟩ | ⟨hnone, hover⟩ := h
  · cases hused : extra.memoryUsedBytes with
    | none =>
      rw [hused, overfull_none_left] at hover
      cases hover
    | some used =>
      rw [hused] at hover
      rwa [hnone]
  · cases htotal : extra.memoryTotalBytes with
    | none =>
      rw [htotal, overfull_none_right] at hover
      cases hover
    | some total =>
      rw [htotal] at hover
      rwa [hnone]

theorem not_overfull_of_mix {base extra : GpuSnapshot}
    (h : extra.memoryTotalBytes = none ∧ overfull extra.memoryUsedBytes base.memoryTotalBytes = true ∨
      extra.memoryUsedBytes = none ∧ overfull base.memoryUsedBytes extra.memoryTotalBytes = true) :
    ¬ Overfull extra := by
  unfold Overfull
  obtain ⟨hnone, -⟩ | ⟨hnone, -⟩ := h
  · rw [hnone, overfull_none_right]
    exact Bool.false_ne_true
  · rw [hnone, overfull_none_left]
    exact Bool.false_ne_true

/-- A reading that mixes leaves memory that no provider has read. -/
theorem not_fromOne_of_mixes {readings : List Reading} {next : Reading}
    (h : Mixes maxGpus gpus generic nvmlLuids readings next.gpu) :
    ∃ entry ∈ merge maxGpus (entriesAfter maxGpus gpus generic nvmlLuids readings) next,
      ¬ FromOne gpus generic nvmlLuids (readings ++ [next]) entry := by
  obtain ⟨base, hfind, hmix, hnone⟩ := h
  obtain ⟨before, base', after, hsplit, hsame, hbefore, hmerge⟩ | ⟨hother, -⟩ :=
    merge_cases maxGpus (entriesAfter maxGpus gpus generic nvmlLuids readings) next
  · rw [hsplit, find?_first hsame hbefore] at hfind
    cases hfind
    refine ⟨enrich base next.gpu, by rw [hmerge]; simp, fun hone => ?_⟩
    obtain ⟨g, hg, hfull⟩ := hone (overfull_enrich_of_mix hmix)
    obtain ⟨hg, hof⟩ | hg := hg
    · rw [List.map_append, ← List.append_assoc, List.mem_append] at hg
      rcases hg with hg | hg
      · exact hnone g (Or.inl ⟨hg, hof⟩) hfull
      · rw [List.map_singleton, List.mem_singleton] at hg
        subst hg
        exact not_overfull_of_mix hmix hfull
    · exact hnone g (Or.inr hg) hfull
  · have hin := List.mem_of_find?_eq_some hfind
    have hsame := List.find?_some hfind
    exact absurd (by simpa using hsame) (hother base hin)

theorem entriesAfter_append (readings : List Reading) (next : Reading) :
    entriesAfter maxGpus gpus generic nvmlLuids (readings ++ [next]) =
      merge maxGpus (entriesAfter maxGpus gpus generic nvmlLuids readings) next := by
  rw [entriesAfter, List.foldl_append]
  rfl

end

/-! ## Runs of readings -/

/-- After any number of the vendor readings, overfull memory of an entry is what a single provider has read of its GPU,
if and only if none of these readings mixes: brings one of the two numbers, which does not fit the other one. -/
theorem vendor_merge_iff (maxGpus : Nat) (gpus generic : List GpuSnapshot) (nvmlLuids : List (Option String))
    (readings : List Reading) :
    (∀ before after, readings = before ++ after → ∀ entry ∈ entriesAfter maxGpus gpus generic nvmlLuids before,
      FromOne gpus generic nvmlLuids before entry) ↔
    ∀ before next after, readings = before ++ next :: after →
      ¬ Mixes maxGpus gpus generic nvmlLuids before next.gpu := by
  constructor
  · intro h before next after hreadings hmixes
    obtain ⟨entry, hentry, hnot⟩ := not_fromOne_of_mixes hmixes
    rw [← entriesAfter_append] at hentry
    exact hnot (h (before ++ [next]) after (by rw [hreadings, List.append_assoc]; rfl) entry hentry)
  · intro h before
    induction before using List.reverseRecOn with
    | nil => exact fun _ _ => fromOne_mergeWindows
    | append_singleton before next ih =>
      intro after hreadings
      rw [List.append_assoc] at hreadings
      rw [entriesAfter_append]
      exact fromOne_merge (ih _ hreadings) (h before next after hreadings)

/-- The entries of a collection are those after the readings of the vendors that are there. -/
theorem collectWindows_gpus (maxGpus : Nat) (gpus generic : List GpuSnapshot) (nvmlLuids : List (Option String))
    (cached : Option Sample) : ∃ readings : List Reading,
    (collectWindows maxGpus gpus generic nvmlLuids cached).gpus =
      entriesAfter maxGpus gpus generic nvmlLuids readings := by
  have hvendor (c : Collected) (name source : String) (isPresent : Bool) (result : Option VendorResult) :
      ∃ readings : List Reading, (collectVendor maxGpus c name source isPresent result).gpus =
        readings.foldl (merge maxGpus) c.gpus := by
    unfold collectVendor
    cases isPresent with
    | false => exact ⟨[], rfl⟩
    | true =>
      cases result with
      | none => exact ⟨[], rfl⟩
      | some result => exact ⟨result.readings, rfl⟩
  unfold collectWindows collect entriesAfter
  obtain ⟨intel, hintel⟩ := hvendor _ "gpu.intel.vendor" "intel-igcl" _ _
  obtain ⟨amd, hamd⟩ := hvendor
    ⟨(mergeWindows maxGpus gpus generic nvmlLuids).1, [], [], []⟩ "gpu.amd.vendor" "amd-adlx" _ _
  exact ⟨amd ++ intel, by rw [List.foldl_append]; exact hintel.trans (by rw [hamd])⟩

/-- An adapter with these numbers. -/
def sampleGpu (total used : Option Nat) (source : String) : GpuSnapshot :=
  ⟨"luid_00000000_00000001", "amd", "GPU", none, total, used, none, none, none, none, none, none, source⟩

def dxgiReading : GpuSnapshot := sampleGpu (some 1000) (some 900) "windows-dxgi-pdh"

def amdReading : Reading := ⟨sampleGpu (some 800) none "amd-adlx", [], []⟩

def mixedEntry : GpuSnapshot := sampleGpu (some 800) (some 900) "windows-dxgi-pdh+amd-adlx"

/-- DXGI has read both numbers, and the vendor library only a smaller total. The report then has that total for the
memory in use too. -/
theorem smaller_total_overfills :
    (collectWindows 32 [] [dxgiReading] [] (some ⟨0, ⟨[amdReading], none⟩, ⟨[], none⟩⟩)).gpus = [mixedEntry] ∧
    entriesAfter 32 [] [dxgiReading] [] [amdReading] = [mixedEntry] ∧
    ¬ FromOne [] [dxgiReading] [] [amdReading] mixedEntry ∧
    ∀ wire, (boundGpu wire mixedEntry).value.memoryUsedBytes = some 800 := by
  refine ⟨by decide, by decide, fun hone => ?_, fun wire => rfl⟩
  obtain ⟨g, ⟨hg, -⟩ | ⟨i, base, hbase, -⟩, hfull⟩ := hone rfl
  · have hg : g = dxgiReading ∨ g = amdReading.gpu := by simpa using hg
    rcases hg with rfl | rfl <;> cases hfull
  · cases hbase

end VendorMerge

end Xsoc
