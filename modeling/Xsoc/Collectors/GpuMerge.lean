import Xsoc.Collectors.Producer
import Xsoc.Report.Records
import Xsoc.Text

/-!
# The merge of Windows adapters

On Windows a graphics adapter may be read twice, through NVML and through DXGI. A locally unique identifier ties the
two readings together; without one neither the count nor the model of the adapters does.

* `isLuid` : a canonical identifier;
* `supplementMemory`, `supplement` : what a DXGI reading adds to an NVML entry;
* `mergeWindows` : the merge;
* `Fate`, `fate` : what becomes of a DXGI reading;
* `merge_windows_accounts` : the merge gives each reading its fate, and nothing else changes.
-/

set_option autoImplicit false

namespace Xsoc

/-- `is_ascii_hexdigit` -/
def isAsciiHexdigit (c : Char) : Bool :=
  ('0' ≤ c && c ≤ '9') || ('a' ≤ c && c ≤ 'f') || ('A' ≤ c && c ≤ 'F')

def isLuid (id : String) : Bool :=
  if "luid_".toList.isPrefixOf id.toList then
    let value := id.toList.drop 5
    let high := value.takeWhile (· ≠ '_')
    match value.dropWhile (· ≠ '_') with
    | [] => false
    | _ :: low => [high, low].all fun part => byteLen part == 8 && part.all isAsciiHexdigit
  else false

namespace GpuMerge

/-- The memory is used beyond its size. -/
def overfull (used total : Option Nat) : Bool :=
  match used, total with
  | some used, some total => total < used
  | _, _ => false

/-- `supplement_memory`, with the entry. -/
def supplementMemory (primary fallback : GpuSnapshot) : Bool × GpuSnapshot :=
  let fillsUsed := primary.memoryUsedBytes.isNone && fallback.memoryUsedBytes.isSome
  let fillsTotal := primary.memoryTotalBytes.isNone && fallback.memoryTotalBytes.isSome
  if !fillsUsed && !fillsTotal then (true, primary)
  else
    let total := primary.memoryTotalBytes.or fallback.memoryTotalBytes
    let used := primary.memoryUsedBytes.or fallback.memoryUsedBytes
    let differentCapacity := fillsUsed && primary.memoryTotalBytes.isSome &&
      primary.memoryTotalBytes != fallback.memoryTotalBytes
    if differentCapacity || overfull used total then (false, primary)
    else (true, { primary with memoryTotalBytes := total, memoryUsedBytes := used })

/-- What a proven reading adds to an entry, and whether its memory could be used. -/
def supplement (primary gpu : GpuSnapshot) : Bool × GpuSnapshot :=
  let (compatible, primary) := supplementMemory primary gpu
  (compatible, { primary with
    utilizationPercent := primary.utilizationPercent.or gpu.utilizationPercent
    temperatureCelsius := primary.temperatureCelsius.or gpu.temperatureCelsius
    powerWatts := primary.powerWatts.or gpu.powerWatts
    coreClockMhz := primary.coreClockMhz.or gpu.coreClockMhz
    memoryClockMhz := primary.memoryClockMhz.or gpu.memoryClockMhz
    pcieRxBytesPerSecond := primary.pcieRxBytesPerSecond.or gpu.pcieRxBytesPerSecond
    pcieTxBytesPerSecond := primary.pcieTxBytesPerSecond.or gpu.pcieTxBytesPerSecond
    source := "nvml+windows-dxgi-pdh" })

/-- The state of the loop of `merge_windows`. -/
structure Merging where
  gpus : List GpuSnapshot
  withheld : Nat
  incompatibleMemory : Nat

/-- Every NVML device has a proven identifier of its own. -/
def allIdentified (nvmlLuids : List (Option String)) (nvmlCount : Nat) : Bool :=
  nvmlLuids.length == nvmlCount && nvmlLuids.all fun luid =>
    luid.any isLuid && (nvmlLuids.filter fun candidate => candidate == luid).length == 1

/-- The indices of the NVML entries with the identifier of a reading. -/
def matchesOf (nvmlLuids : List (Option String)) (nvmlCount : Nat) (gpu : GpuSnapshot) : List Nat :=
  ((nvmlLuids.take nvmlCount).zipIdx.filter fun (candidate, _) => candidate == some gpu.id).map Prod.snd

def uniqueGeneric (generic : List GpuSnapshot) (gpu : GpuSnapshot) : Bool :=
  (generic.filter fun candidate => candidate.vendor == "nvidia" && candidate.id == gpu.id).length == 1

section

variable (maxGpus nvmlCount : Nat) (generic : List GpuSnapshot) (nvmlLuids : List (Option String))

/-- The turn of the loop for a reading. -/
def mergeOne (m : Merging) (gpu : GpuSnapshot) : Merging :=
  if gpu.vendor != "nvidia" || nvmlCount == 0 then { m with gpus := pushBounded m.gpus gpu maxGpus }
  else
    let found := matchesOf nvmlLuids nvmlCount gpu
    if isLuid gpu.id && found.length == 1 && uniqueGeneric generic gpu then
      match found.head?.bind fun index => (m.gpus[index]?).map fun primary => (index, supplement primary gpu) with
      | some (index, compatible, primary) =>
        { gpus := m.gpus.set index primary
          withheld := m.withheld
          incompatibleMemory := if compatible then m.incompatibleMemory else m.incompatibleMemory + 1 }
      -- an index of a match is one of an NVML entry
      | none => m
    else if allIdentified nvmlLuids nvmlCount && isLuid gpu.id && found.isEmpty && uniqueGeneric generic gpu then
      { m with gpus := pushBounded m.gpus gpu maxGpus }
    else { m with withheld := m.withheld + 1 }

/-- The capability that says what is missing. -/
def mergeDiagnostic (withheld incompatibleMemory : Nat) : Option Capability :=
  if 0 < withheld || 0 < incompatibleMemory then
    some (Capability.unavailable (if 0 < withheld then "gpu.nvidia.identity" else "gpu.nvidia.memory")
      "cuda-driver/dxgi" .transient
      (s!"Skipped {withheld} DXGI NVIDIA readings with uncertain identity and {incompatibleMemory} incompatible " ++
        "memory supplements; NVML readings and proven compatible fields are retained"))
  else none

end

/-- `merge_windows` -/
def mergeWindows (maxGpus : Nat) (gpus generic : List GpuSnapshot) (nvmlLuids : List (Option String)) :
    List GpuSnapshot × Option Capability :=
  let m := generic.foldl (mergeOne maxGpus gpus.length generic nvmlLuids) ⟨gpus, 0, 0⟩
  (m.gpus, mergeDiagnostic m.withheld m.incompatibleMemory)

/-! ## The fate of a reading -/

/-- NVML entry `i` has the identifier of the reading. -/
def Matches (nvmlLuids : List (Option String)) (nvmlCount : Nat) (gpu : GpuSnapshot) (i : Nat) : Prop :=
  i < nvmlCount ∧ nvmlLuids[i]? = some (some gpu.id)

/-- Its identifier is canonical, that of entry `i` and no other, and that of no other reading. -/
structure Proven (nvmlLuids : List (Option String)) (nvmlCount : Nat) (generic : List GpuSnapshot) (gpu : GpuSnapshot)
    (i : Nat) : Prop where
  canonical : isLuid gpu.id = true
  found : Matches nvmlLuids nvmlCount gpu i
  sole : ∀ j, Matches nvmlLuids nvmlCount gpu j → j = i
  once : generic.countP (fun candidate => candidate.vendor == "nvidia" && candidate.id == gpu.id) = 1

/-- All NVML entries have identifiers, canonical and different ones. -/
structure AllIdentified (nvmlLuids : List (Option String)) (nvmlCount : Nat) : Prop where
  complete : nvmlLuids.length = nvmlCount
  canonical : ∀ luid ∈ nvmlLuids, ∃ id, luid = some id ∧ isLuid id = true
  distinct : nvmlLuids.Nodup

/-- The reading is of a further adapter. -/
structure Further (nvmlLuids : List (Option String)) (nvmlCount : Nat) (generic : List GpuSnapshot)
    (gpu : GpuSnapshot) : Prop where
  identified : AllIdentified nvmlLuids nvmlCount
  canonical : isLuid gpu.id = true
  unmatched : ∀ i, ¬ Matches nvmlLuids nvmlCount gpu i
  once : generic.countP (fun candidate => candidate.vendor == "nvidia" && candidate.id == gpu.id) = 1

/-- Appended as it is, merged into an NVML entry, or counted only. -/
inductive Fate
  | appended
  | merged (i : Nat)
  | withheld
  deriving DecidableEq

section

variable (nvmlLuids : List (Option String)) (nvmlCount : Nat) (generic : List GpuSnapshot)

/-- The fate of a reading. -/
def fate (gpu : GpuSnapshot) : Fate :=
  if gpu.vendor ≠ "nvidia" ∨ nvmlCount = 0 then .appended
  else
    match isLuid gpu.id && uniqueGeneric generic gpu, matchesOf nvmlLuids nvmlCount gpu with
    | true, [i] => .merged i
    | true, [] => if allIdentified nvmlLuids nvmlCount then .appended else .withheld
    | _, _ => .withheld

variable {nvmlLuids nvmlCount generic}

theorem mem_matchesOf {gpu : GpuSnapshot} {i : Nat} :
    i ∈ matchesOf nvmlLuids nvmlCount gpu ↔ Matches nvmlLuids nvmlCount gpu i := by
  unfold matchesOf Matches
  rw [List.mem_map]
  constructor
  · rintro ⟨⟨candidate, j⟩, hmem, rfl⟩
    obtain ⟨hin, hid⟩ := List.mem_filter.mp hmem
    have hget := List.mem_zipIdx_iff_getElem?.mp hin
    simp only [beq_iff_eq] at hid
    subst hid
    rw [List.getElem?_take] at hget
    split at hget
    · next hlt => exact ⟨hlt, hget⟩
    · cases hget
  · rintro ⟨hlt, hget⟩
    refine ⟨(some gpu.id, i), List.mem_filter.mpr ⟨List.mem_zipIdx_iff_getElem?.mpr ?_, by simp⟩, rfl⟩
    rw [List.getElem?_take_of_lt hlt]
    exact hget

theorem nodup_matchesOf (gpu : GpuSnapshot) : (matchesOf nvmlLuids nvmlCount gpu).Nodup := by
  unfold matchesOf
  have hnodup : ((nvmlLuids.take nvmlCount).zipIdx.map Prod.snd).Nodup := by
    rw [List.zipIdx_map_snd]
    exact List.nodup_range'
  exact hnodup.sublist (List.filter_sublist.map _)

theorem matchesOf_eq_nil {gpu : GpuSnapshot} :
    matchesOf nvmlLuids nvmlCount gpu = [] ↔ ∀ i, ¬ Matches nvmlLuids nvmlCount gpu i := by
  rw [List.eq_nil_iff_forall_not_mem]
  exact forall_congr' fun i => not_congr mem_matchesOf

theorem matchesOf_eq_singleton {gpu : GpuSnapshot} {i : Nat} :
    matchesOf nvmlLuids nvmlCount gpu = [i] ↔
      Matches nvmlLuids nvmlCount gpu i ∧ ∀ j, Matches nvmlLuids nvmlCount gpu j → j = i := by
  constructor
  · intro h
    refine ⟨mem_matchesOf.mp (h ▸ List.mem_singleton_self i), fun j hj => ?_⟩
    exact List.mem_singleton.mp (h ▸ mem_matchesOf.mpr hj)
  · rintro ⟨hi, hsole⟩
    have hmem := mem_matchesOf.mpr hi
    apply List.perm_singleton.mp
    rw [List.perm_ext_iff_of_nodup (nodup_matchesOf gpu) (List.nodup_singleton i)]
    intro j
    rw [List.mem_singleton]
    exact ⟨fun hj => hsole j (mem_matchesOf.mp hj), fun hj => hj ▸ hmem⟩

theorem uniqueGeneric_iff {gpu : GpuSnapshot} :
    uniqueGeneric generic gpu = true ↔
      generic.countP (fun candidate => candidate.vendor == "nvidia" && candidate.id == gpu.id) = 1 := by
  rw [uniqueGeneric, beq_iff_eq, List.countP_eq_length_filter]

theorem allIdentified_iff : allIdentified nvmlLuids nvmlCount = true ↔ AllIdentified nvmlLuids nvmlCount := by
  have hcanonical (luid : Option String) : luid.any isLuid = true ↔ ∃ id, luid = some id ∧ isLuid id = true := by
    cases luid <;> simp
  have hdistinct : (∀ luid ∈ nvmlLuids, (nvmlLuids.filter fun candidate => candidate == luid).length = 1) ↔
      nvmlLuids.Nodup := by
    rw [List.nodup_iff_count_eq_one]
    simp only [List.count, List.countP_eq_length_filter]
  unfold allIdentified
  simp only [Bool.and_eq_true, beq_iff_eq, List.all_eq_true, hcanonical]
  constructor
  · rintro ⟨hlength, hall⟩
    exact ⟨hlength, fun luid hluid => (hall luid hluid).1, hdistinct.mp fun luid hluid => (hall luid hluid).2⟩
  · rintro ⟨hlength, hcanon, hnodup⟩
    exact ⟨hlength, fun luid hluid => ⟨hcanon luid hluid, hdistinct.mpr hnodup luid hluid⟩⟩

/-- An NVIDIA reading is merged into the entry it is proven to be of, and only then. -/
theorem fate_eq_merged {gpu : GpuSnapshot} {i : Nat} :
    fate nvmlLuids nvmlCount generic gpu = .merged i ↔
      gpu.vendor = "nvidia" ∧ nvmlCount ≠ 0 ∧ Proven nvmlLuids nvmlCount generic gpu i := by
  unfold fate
  split
  · next h =>
    refine ⟨fun hfate => (by cases hfate), fun ⟨hvendor, hcount, _⟩ => ?_⟩
    rcases h with h | h
    · exact absurd hvendor h
    · exact absurd h hcount
  next h =>
  rw [not_or, not_not] at h
  split
  · next j hproven hfound =>
    rw [Bool.and_eq_true, uniqueGeneric_iff] at hproven
    obtain ⟨hmatch, hsole⟩ := matchesOf_eq_singleton.mp hfound
    constructor
    · intro hfate
      cases hfate
      exact ⟨h.1, h.2, hproven.1, hmatch, hsole, hproven.2⟩
    · rintro ⟨-, -, h'⟩
      rw [hsole i h'.found]
  · next hproven hfound =>
    refine ⟨fun hfate => ?_, fun ⟨_, _, h'⟩ => absurd h'.found (matchesOf_eq_nil.mp hfound i)⟩
    split at hfate <;> cases hfate
  · next hnot hnil =>
    refine ⟨fun hfate => (by cases hfate), fun ⟨_, _, h'⟩ => ?_⟩
    have hfound := matchesOf_eq_singleton.mpr ⟨h'.found, h'.sole⟩
    exact absurd hfound (hnot i (by rw [h'.canonical, uniqueGeneric_iff.mpr h'.once]; rfl))

/-- It is appended where it is of a further adapter, and only then. -/
theorem fate_eq_appended {gpu : GpuSnapshot} :
    fate nvmlLuids nvmlCount generic gpu = .appended ↔
      gpu.vendor ≠ "nvidia" ∨ nvmlCount = 0 ∨ Further nvmlLuids nvmlCount generic gpu := by
  unfold fate
  split
  · next h => exact ⟨fun _ => h.imp_right Or.inl, fun _ => rfl⟩
  next h =>
  rw [not_or, not_not] at h
  have hrest : (gpu.vendor ≠ "nvidia" ∨ nvmlCount = 0 ∨ Further nvmlLuids nvmlCount generic gpu) ↔
      Further nvmlLuids nvmlCount generic gpu := by
    simp [h.1, h.2]
  rw [hrest]
  split
  · next j hproven hfound =>
    refine ⟨fun hfate => (by cases hfate), fun h' => ?_⟩
    exact absurd (matchesOf_eq_singleton.mp hfound).1 (h'.unmatched j)
  · next hproven hfound =>
    rw [Bool.and_eq_true, uniqueGeneric_iff] at hproven
    split
    · next hall =>
      exact ⟨fun _ => ⟨allIdentified_iff.mp hall, hproven.1, matchesOf_eq_nil.mp hfound, hproven.2⟩, fun _ => rfl⟩
    · next hall => exact ⟨fun hfate => (by cases hfate), fun h' => absurd (allIdentified_iff.mpr h'.identified) hall⟩
  · next hnot hnil =>
    refine ⟨fun hfate => (by cases hfate), fun h' => ?_⟩
    exact absurd (matchesOf_eq_nil.mpr h'.unmatched)
      (hnil (by rw [h'.canonical, uniqueGeneric_iff.mpr h'.once]; rfl))

end

/-! ## What is supplied -/

/-- The entry is the old one, with all that it knew. -/
structure Keeps (base entry : GpuSnapshot) : Prop where
  id : entry.id = base.id
  vendor : entry.vendor = base.vendor
  name : entry.name = base.name
  utilizationPercent : ∀ v, base.utilizationPercent = some v → entry.utilizationPercent = some v
  memoryTotalBytes : ∀ v, base.memoryTotalBytes = some v → entry.memoryTotalBytes = some v
  memoryUsedBytes : ∀ v, base.memoryUsedBytes = some v → entry.memoryUsedBytes = some v
  temperatureCelsius : ∀ v, base.temperatureCelsius = some v → entry.temperatureCelsius = some v
  powerWatts : ∀ v, base.powerWatts = some v → entry.powerWatts = some v
  coreClockMhz : ∀ v, base.coreClockMhz = some v → entry.coreClockMhz = some v
  memoryClockMhz : ∀ v, base.memoryClockMhz = some v → entry.memoryClockMhz = some v
  pcieRxBytesPerSecond : ∀ v, base.pcieRxBytesPerSecond = some v → entry.pcieRxBytesPerSecond = some v
  pcieTxBytesPerSecond : ∀ v, base.pcieTxBytesPerSecond = some v → entry.pcieTxBytesPerSecond = some v

theorem Keeps.refl (g : GpuSnapshot) : Keeps g g := by
  constructor
  all_goals first | rfl | exact fun _ h => h

/-- The memory is left alone, or supplied as a pair that fits. -/
theorem supplementMemory_cases (primary fallback : GpuSnapshot) :
    (supplementMemory primary fallback).2 = primary ∨ ∃ used total,
      (supplementMemory primary fallback).2 = { primary with memoryTotalBytes := total, memoryUsedBytes := used } ∧
      overfull used total = false ∧ (∀ v, primary.memoryUsedBytes = some v → used = some v) ∧
      ∀ v, primary.memoryTotalBytes = some v → total = some v := by
  unfold supplementMemory
  simp only
  split
  · exact Or.inl rfl
  split
  · exact Or.inl rfl
  · next hfits =>
    rw [Bool.or_eq_true, not_or, Bool.not_eq_true, Bool.not_eq_true] at hfits
    refine Or.inr ⟨_, _, rfl, hfits.2, ?_, ?_⟩
    · intro v hv
      rw [hv]
      rfl
    · intro v hv
      rw [hv]
      rfl

theorem keeps_supplement (primary gpu : GpuSnapshot) : Keeps primary (supplement primary gpu).2 := by
  have hor {α : Type} {x y : Option α} (v : α) (h : x = some v) : x.or y = some v := by rw [h, Option.some_or]
  obtain hsame | ⟨used, total, hset, -, hused, htotal⟩ := supplementMemory_cases primary gpu
  · unfold supplement
    simp only [hsame]
    exact ⟨rfl, rfl, rfl, hor, fun _ h => h, fun _ h => h, hor, hor, hor, hor, hor, hor⟩
  · unfold supplement
    simp only [hset]
    exact ⟨rfl, rfl, rfl, hor, htotal, hused, hor, hor, hor, hor, hor, hor⟩

/-- A supplement never makes an entry overfull. -/
theorem overfull_supplement {primary gpu : GpuSnapshot}
    (h : overfull (supplement primary gpu).2.memoryUsedBytes (supplement primary gpu).2.memoryTotalBytes = true) :
    (supplement primary gpu).2.memoryUsedBytes = primary.memoryUsedBytes ∧
      (supplement primary gpu).2.memoryTotalBytes = primary.memoryTotalBytes := by
  obtain hsame | ⟨used, total, hset, hfits, -, -⟩ := supplementMemory_cases primary gpu
  · unfold supplement
    simp only [hsame, and_self]
  · unfold supplement at h
    simp only [hset, hfits] at h
    cases h

/-! ## The loop -/

section

variable (maxGpus : Nat) (gpus generic : List GpuSnapshot) (nvmlLuids : List (Option String))

/-- The reading is merged, but its memory could not be. -/
def incompatible (gpu : GpuSnapshot) : Bool :=
  match fate nvmlLuids gpus.length generic gpu with
  | .merged i => (gpus[i]?).any fun primary => !(supplementMemory primary gpu).1
  | _ => false

/-- Entry `i` after some of the readings. -/
def entryAfter (done : List GpuSnapshot) (i : Nat) (base : GpuSnapshot) : GpuSnapshot :=
  match done.find? fun gpu => decide (fate nvmlLuids gpus.length generic gpu = .merged i) with
  | some gpu => (supplement base gpu).2
  | none => base

/-- The state of the loop after some of the readings. -/
structure MergedSoFar (done : List GpuSnapshot) (m : Merging) : Prop where
  length : gpus.length ≤ m.gpus.length
  entries : ∀ i base, gpus[i]? = some base → m.gpus[i]? = some (entryAfter gpus generic nvmlLuids done i base)
  appended : m.gpus.drop gpus.length =
    (done.filter fun gpu => decide (fate nvmlLuids gpus.length generic gpu = .appended)).take
      (producerCollectionLimit maxGpus - gpus.length)
  withheld : m.withheld = done.countP fun gpu => decide (fate nvmlLuids gpus.length generic gpu = .withheld)
  incompatible : m.incompatibleMemory = done.countP (incompatible gpus generic nvmlLuids)

variable {maxGpus gpus generic nvmlLuids}

theorem mergeOne_appended {n : Nat} {gpu : GpuSnapshot} (h : fate nvmlLuids n generic gpu = .appended) (m : Merging) :
    mergeOne maxGpus n generic nvmlLuids m gpu = { m with gpus := pushBounded m.gpus gpu maxGpus } := by
  unfold mergeOne
  obtain hplain | hplain | hfurther := fate_eq_appended.mp h
  · rw [if_pos (by simp [hplain])]
  · rw [if_pos (by simp [hplain])]
  · split
    · rfl
    · have hnil := matchesOf_eq_nil.mpr hfurther.unmatched
      simp [hnil, allIdentified_iff.mpr hfurther.identified, hfurther.canonical,
        uniqueGeneric_iff.mpr hfurther.once]

theorem mergeOne_merged {n i : Nat} {gpu primary : GpuSnapshot} {m : Merging}
    (h : fate nvmlLuids n generic gpu = .merged i) (hget : m.gpus[i]? = some primary) :
    mergeOne maxGpus n generic nvmlLuids m gpu =
      { gpus := m.gpus.set i (supplement primary gpu).2
        withheld := m.withheld
        incompatibleMemory :=
          if (supplementMemory primary gpu).1 then m.incompatibleMemory else m.incompatibleMemory + 1 } := by
  obtain ⟨hvendor, hcount, hproven⟩ := fate_eq_merged.mp h
  unfold mergeOne
  rw [if_neg (by simp [hvendor, hcount])]
  have hfound := matchesOf_eq_singleton.mpr ⟨hproven.found, hproven.sole⟩
  simp [hfound, hproven.canonical, uniqueGeneric_iff.mpr hproven.once, hget, supplement]

theorem mergeOne_withheld {n : Nat} {gpu : GpuSnapshot} (h : fate nvmlLuids n generic gpu = .withheld) (m : Merging) :
    mergeOne maxGpus n generic nvmlLuids m gpu = { m with withheld := m.withheld + 1 } := by
  have hmerged (i : Nat) : fate nvmlLuids n generic gpu ≠ .merged i := by simp [h]
  have happended : fate nvmlLuids n generic gpu ≠ .appended := by simp [h]
  rw [ne_eq, fate_eq_appended, not_or, not_or, not_not] at happended
  obtain ⟨hvendor, hcount, hfurther⟩ := happended
  unfold mergeOne
  rw [if_neg (by simp [hvendor, hcount])]
  simp only
  rw [if_neg, if_neg]
  · intro hall
    simp only [Bool.and_eq_true, List.isEmpty_iff] at hall
    obtain ⟨⟨⟨hidentified, hcanonical⟩, hnil⟩, honce⟩ := hall
    exact hfurther ⟨allIdentified_iff.mp hidentified, hcanonical, matchesOf_eq_nil.mp hnil,
      uniqueGeneric_iff.mp honce⟩
  · intro hall
    simp only [Bool.and_eq_true, beq_iff_eq] at hall
    obtain ⟨⟨hcanonical, hlength⟩, honce⟩ := hall
    obtain ⟨i, hfound⟩ := List.length_eq_one_iff.mp hlength
    obtain ⟨hmatch, hsole⟩ := matchesOf_eq_singleton.mp hfound
    exact hmerged i (fate_eq_merged.mpr ⟨hvendor, hcount, hcanonical, hmatch, hsole, uniqueGeneric_iff.mp honce⟩)

/-- No two readings are merged into one entry. -/
theorem not_merged_twice {n i : Nat} {done rest : List GpuSnapshot} {gpu other : GpuSnapshot}
    (hgeneric : generic = done ++ gpu :: rest) (h : fate nvmlLuids n generic gpu = .merged i) (hother : other ∈ done) :
    fate nvmlLuids n generic other ≠ .merged i := by
  intro h'
  obtain ⟨hvendor, -, hproven⟩ := fate_eq_merged.mp h
  obtain ⟨hvendor', -, hproven'⟩ := fate_eq_merged.mp h'
  have hid : other.id = gpu.id := by
    have hsame := hproven'.found.2.symm.trans hproven.found.2
    exact Option.some.inj (Option.some.inj hsame)
  have honce := hproven.once
  rw [hgeneric, List.countP_append, List.countP_cons_of_pos (by simp [hvendor])] at honce
  have hpos : 0 < done.countP fun candidate => candidate.vendor == "nvidia" && candidate.id == gpu.id :=
    List.countP_pos_iff.mpr ⟨other, hother, by simp [hvendor', hid]⟩
  omega

theorem entryAfter_append {done : List GpuSnapshot} {gpu : GpuSnapshot} {i : Nat}
    (h : fate nvmlLuids gpus.length generic gpu ≠ .merged i) (base : GpuSnapshot) :
    entryAfter gpus generic nvmlLuids (done ++ [gpu]) i base = entryAfter gpus generic nvmlLuids done i base := by
  unfold entryAfter
  rw [List.find?_append, List.find?_singleton, decide_eq_false h]
  cases done.find? fun gpu => decide (fate nvmlLuids gpus.length generic gpu = .merged i) <;> rfl

theorem MergedSoFar.step {done rest : List GpuSnapshot} {gpu : GpuSnapshot} {m : Merging}
    (hgeneric : generic = done ++ gpu :: rest) (h : MergedSoFar maxGpus gpus generic nvmlLuids done m) :
    MergedSoFar maxGpus gpus generic nvmlLuids (done ++ [gpu])
      (mergeOne maxGpus gpus.length generic nvmlLuids m gpu) := by
  cases hfate : fate nvmlLuids gpus.length generic gpu with
  | appended =>
    rw [mergeOne_appended hfate]
    refine ⟨h.length.trans (length_le_pushBounded _ _ _), fun i base hbase => ?_, ?_, ?_, ?_⟩
    · rw [entryAfter_append (by simp [hfate]), ← h.entries i base hbase]
      exact getElem?_pushBounded (lt_of_lt_of_le (List.getElem?_eq_some_iff.mp hbase).1 h.length)
    · rw [List.filter_append, List.filter_singleton, decide_eq_true hfate]
      exact drop_pushBounded h.length h.appended
    · rw [List.countP_append, List.countP_singleton, hfate]
      exact h.withheld
    · rw [List.countP_append, List.countP_singleton, GpuMerge.incompatible, hfate]
      exact h.incompatible
  | merged i =>
    obtain ⟨-, -, hproven⟩ := fate_eq_merged.mp hfate
    have hlt : i < gpus.length := hproven.found.1
    have hbase := List.getElem?_eq_getElem hlt
    -- the entry is still as it was: no reading before this one was merged into it
    have hfirst : done.find? (fun gpu => decide (fate nvmlLuids gpus.length generic gpu = .merged i)) = none := by
      rw [List.find?_eq_none]
      intro other hother
      simpa using not_merged_twice hgeneric hfate hother
    have hentry : m.gpus[i]? = some gpus[i] := by
      rw [h.entries i gpus[i] hbase, entryAfter, hfirst]
    rw [mergeOne_merged hfate hentry]
    refine ⟨by simpa using h.length, fun j base hj => ?_, ?_, ?_, ?_⟩
    · by_cases hij : i = j
      · subst hij
        rw [hbase, Option.some.injEq] at hj
        rw [List.getElem?_set_self (lt_of_lt_of_le hproven.found.1 h.length), entryAfter, List.find?_append, hfirst,
          List.find?_singleton, decide_eq_true hfate, ← hj]
        rfl
      · rw [entryAfter_append (by rw [hfate]; simpa using hij), List.getElem?_set_ne hij]
        exact h.entries j base hj
    · rw [List.drop_set_of_lt hproven.found.1, List.filter_append, List.filter_singleton, hfate]
      simpa using h.appended
    · rw [List.countP_append, List.countP_singleton, hfate]
      exact h.withheld
    · rw [List.countP_append, List.countP_singleton, GpuMerge.incompatible, hfate, ← h.incompatible]
      simp only [hbase, Option.any_some, Bool.not_eq_eq_eq_not, Bool.not_true]
      cases (supplementMemory gpus[i] gpu).1 <;> rfl
  | withheld =>
    rw [mergeOne_withheld hfate]
    refine ⟨h.length, fun i base hbase => ?_, ?_, ?_, ?_⟩
    · rw [entryAfter_append (by simp [hfate])]
      exact h.entries i base hbase
    · rw [List.filter_append, List.filter_singleton, hfate]
      simpa using h.appended
    · rw [List.countP_append, List.countP_singleton, hfate, ← h.withheld]
      rfl
    · rw [List.countP_append, List.countP_singleton, GpuMerge.incompatible, hfate]
      exact h.incompatible

theorem MergedSoFar.run {done rest : List GpuSnapshot} {m : Merging} (hgeneric : generic = done ++ rest)
    (h : MergedSoFar maxGpus gpus generic nvmlLuids done m) :
    MergedSoFar maxGpus gpus generic nvmlLuids generic
      (rest.foldl (mergeOne maxGpus gpus.length generic nvmlLuids) m) := by
  induction rest generalizing done m with
  | nil => rwa [hgeneric, List.append_nil, ← hgeneric] at *
  | cons gpu rest ih =>
    have hnext : generic = (done ++ [gpu]) ++ rest := by rw [List.append_assoc]; exact hgeneric
    exact ih hnext (h.step hgeneric)

theorem mergedSoFar_mergeWindows :
    MergedSoFar maxGpus gpus generic nvmlLuids generic
      (generic.foldl (mergeOne maxGpus gpus.length generic nvmlLuids) ⟨gpus, 0, 0⟩) := by
  apply @MergedSoFar.run _ _ _ _ [] _ _ rfl
  exact ⟨le_refl _, fun i base hbase => hbase, by simp, rfl, rfl⟩

end

/-! ## The account -/

/-- Each reading has had its fate, and nothing else has changed. -/
structure Accounted (maxGpus : Nat) (gpus generic : List GpuSnapshot) (nvmlLuids : List (Option String))
    (merged : List GpuSnapshot) (diagnostic : Option Capability) : Prop where
  /-- The NVML entries come first, in their order, with all that they knew. -/
  kept : ∀ (i : Nat) (base : GpuSnapshot), gpus[i]? = some base → ∃ entry, merged[i]? = some entry ∧ Keeps base entry
  supplemented : ∀ gpu ∈ generic, ∀ i, fate nvmlLuids gpus.length generic gpu = .merged i →
    ∃ base, gpus[i]? = some base ∧ merged[i]? = some (supplement base gpu).2
  untouched : ∀ (i : Nat) (base : GpuSnapshot), gpus[i]? = some base →
    (∀ gpu ∈ generic, fate nvmlLuids gpus.length generic gpu ≠ .merged i) → merged[i]? = some base
  /-- The others follow in their order, up to the limit of a collector. -/
  appended : merged.drop gpus.length =
    (generic.filter fun gpu => decide (fate nvmlLuids gpus.length generic gpu = .appended)).take
      (producerCollectionLimit maxGpus - gpus.length)
  /-- An entry that is overfull has its memory from one input that is. -/
  memory : ∀ entry ∈ merged, overfull entry.memoryUsedBytes entry.memoryTotalBytes = true →
    ∃ input ∈ gpus ++ generic, input.memoryUsedBytes = entry.memoryUsedBytes ∧
      input.memoryTotalBytes = entry.memoryTotalBytes
  counted : diagnostic =
    mergeDiagnostic (generic.countP fun gpu => decide (fate nvmlLuids gpus.length generic gpu = .withheld))
      (generic.countP (incompatible gpus generic nvmlLuids))
  diagnosed : diagnostic.isSome = true ↔
    (∃ gpu ∈ generic, fate nvmlLuids gpus.length generic gpu = .withheld) ∨
      ∃ gpu ∈ generic, ∃ (i : Nat) (base : GpuSnapshot), fate nvmlLuids gpus.length generic gpu = .merged i ∧
        gpus[i]? = some base ∧
        (supplementMemory base gpu).1 = false

theorem incompatible_iff {gpus generic : List GpuSnapshot} {nvmlLuids : List (Option String)} {gpu : GpuSnapshot} :
    incompatible gpus generic nvmlLuids gpu = true ↔ ∃ (i : Nat) (base : GpuSnapshot),
      fate nvmlLuids gpus.length generic gpu = .merged i ∧ gpus[i]? = some base ∧
        (supplementMemory base gpu).1 = false := by
  unfold incompatible
  cases fate nvmlLuids gpus.length generic gpu with
  | appended => simp
  | withheld => simp
  | merged i => cases hget : gpus[i]? <;> simp [hget]

theorem accounted_mergeWindows (maxGpus : Nat) (gpus generic : List GpuSnapshot) (nvmlLuids : List (Option String)) :
    Accounted maxGpus gpus generic nvmlLuids (mergeWindows maxGpus gpus generic nvmlLuids).1
      (mergeWindows maxGpus gpus generic nvmlLuids).2 := by
  have hrun : MergedSoFar maxGpus gpus generic nvmlLuids generic _ := mergedSoFar_mergeWindows
  have hentries (i : Nat) (base : GpuSnapshot) (hbase : gpus[i]? = some base) :
      (mergeWindows maxGpus gpus generic nvmlLuids).1[i]? = some (entryAfter gpus generic nvmlLuids generic i base) :=
    hrun.entries i base hbase
  have hkept (i : Nat) (base : GpuSnapshot) (hbase : gpus[i]? = some base) :
      Keeps base (entryAfter gpus generic nvmlLuids generic i base) := by
    unfold entryAfter
    split
    · exact keeps_supplement _ _
    · exact Keeps.refl _
  refine ⟨fun i base hbase => ⟨_, hentries i base hbase, hkept i base hbase⟩, ?_, ?_, hrun.appended, ?_, ?_, ?_⟩
  · intro gpu hgpu i hfate
    obtain ⟨-, -, hproven⟩ := fate_eq_merged.mp hfate
    have hlt : i < gpus.length := hproven.found.1
    have hbase := List.getElem?_eq_getElem hlt
    refine ⟨gpus[i], hbase, ?_⟩
    rw [hentries i _ hbase, entryAfter]
    -- what is found first is the reading itself: it is the only one
    split
    · next other hother =>
      have hmem := List.mem_of_find?_eq_some hother
      have hother : fate nvmlLuids gpus.length generic other = .merged i := by
        simpa using List.find?_some hother
      obtain ⟨before, after, hsplit⟩ := List.append_of_mem hgpu
      rw [hsplit, List.mem_append, List.mem_cons] at hmem
      rcases hmem with hmem | rfl | hmem
      · exact absurd hother (not_merged_twice hsplit hfate hmem)
      · rfl
      · obtain ⟨middle, after', rfl⟩ := List.append_of_mem hmem
        exact absurd hfate (@not_merged_twice _ _ _ _ (before ++ gpu :: middle) after' _ _
          (by rw [hsplit, List.append_assoc]; rfl) hother (by simp))
    · next hnone => exact absurd hfate (by simpa using List.find?_eq_none.mp hnone gpu hgpu)
  · intro i base hbase hnone
    have hfind : generic.find? (fun gpu => decide (fate nvmlLuids gpus.length generic gpu = .merged i)) = none := by
      rw [List.find?_eq_none]
      intro gpu hgpu
      simpa using hnone gpu hgpu
    rw [hentries i base hbase, entryAfter, hfind]
  · intro entry hentry hover
    obtain ⟨i, hi, rfl⟩ := List.getElem_of_mem hentry
    by_cases hfront : i < gpus.length
    · have hbase := List.getElem?_eq_getElem hfront
      have hget := hentries i _ hbase
      rw [List.getElem?_eq_getElem hi, Option.some.injEq] at hget
      refine ⟨gpus[i], List.mem_append_left _ (List.getElem_mem hfront), ?_⟩
      rw [hget] at hover ⊢
      unfold entryAfter at hover ⊢
      split at hover
      · obtain ⟨hused, htotal⟩ := overfull_supplement hover
        exact ⟨hused.symm, htotal.symm⟩
      · exact ⟨rfl, rfl⟩
    · have hmem : (mergeWindows maxGpus gpus generic nvmlLuids).1[i] ∈
          (mergeWindows maxGpus gpus generic nvmlLuids).1.drop gpus.length := by
        rw [List.mem_iff_getElem]
        refine ⟨i - gpus.length, by rw [List.length_drop]; omega, ?_⟩
        rw [List.getElem_drop]
        congr 1
        omega
      rw [show (mergeWindows maxGpus gpus generic nvmlLuids).1.drop gpus.length = _ from hrun.appended] at hmem
      exact ⟨_, List.mem_append_right _ (List.mem_filter.mp (List.mem_of_mem_take hmem)).1, rfl, rfl⟩
  · show mergeDiagnostic _ _ = _
    rw [hrun.withheld, hrun.incompatible]
  · show (mergeDiagnostic _ _).isSome = true ↔ _
    rw [hrun.withheld, hrun.incompatible, mergeDiagnostic]
    simp only [← incompatible_iff]
    simp [List.countP_pos_iff]

end GpuMerge

end Xsoc
