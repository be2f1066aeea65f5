import Xsoc.Report.Records
import Mathlib.Data.Rat.Floor

/-!
# Fitting the body of a report

`fitBody` cuts a report down until its JSON text is within the limit: first the hardware goes, then the collections
shrink by a common ratio down to their minima, then their last entries go one by one.

* `nearestDouble` : rounding to an `f64`, for the ratio;
* `Cut r r'` : `r'` is `r` with its collections cut short, all else as it was;
* `fitBody_cut`, `fitBody_fits_or_bare` : what fitting does, and how it ends;
* `shrinkLoop_minima`, `fitBody_keeps` : what it does not touch before everything else is gone.
-/

set_option autoImplicit false

namespace Xsoc

/-! ## The ratio -/

/-- The `f64` nearest to a positive number, ties to even. The numbers here are far from the ends of its range. -/
def nearestDouble (q : ℚ) : ℚ :=
  if q ≤ 0 then 0
  else
    let scale (e : ℤ) : ℚ := if 0 ≤ e then 2 ^ e.toNat else 1 / 2 ^ (-e).toNat
    let e : ℤ := (Nat.log2 q.num.toNat : ℤ) - Nat.log2 q.den
    let e := if q < scale e then e - 1 else e
    let unit := scale (e - 52)
    let n := ⌊q / unit⌋
    let rest := q / unit - n
    (if rest < 1 / 2 ∨ rest = 1 / 2 ∧ n % 2 = 0 then (n : ℚ) else n + 1) * unit

/-- `0.97` and `0.99`. -/
def double097 : ℚ := 4368491638549381 / 2 ^ 52
def double099 : ℚ := 4458563631096791 / 2 ^ 52

/-- `usize::MAX` -/
def usizeMax : Nat := 2 ^ 64 - 1

section

variable (wire : Wire)

def serializedLen (r : ClientReport) : Nat :=
  match wire.toVec r with
  | .ok body => body.length
  | .error _ => usizeMax

/-- The body is longer than the limit. -/
def tooLong (r : ClientReport) : Bool := wire.maxBodyBytes < serializedLen wire r

theorem tooLong_eq_false {r : ClientReport} : tooLong wire r = false ↔ serializedLen wire r ≤ wire.maxBodyBytes := by
  rw [tooLong, decide_eq_false_iff_not, Nat.not_lt]

/-- Some margin is left for rounding and punctuation. -/
def shrinkRatio (r : ClientReport) : ℚ :=
  let current := max (serializedLen wire r) 1
  min (nearestDouble (nearestDouble (nearestDouble wire.maxBodyBytes / nearestDouble current) * double097)) double099

/-! ## Shrinking -/

/-- How much of each collection stays. -/
structure Minima where
  capabilities : Nat
  networks : Nat
  disks : Nat
  temperatures : Nat
  gpus : Nat
  deriving DecidableEq, Repr

def shrink {α : Type} (values : List α) (minimum : Nat) (ratio : ℚ) : List α :=
  if values.length ≤ minimum then values
  else
    let target := max ⌊nearestDouble (nearestDouble values.length * ratio)⌋.toNat minimum
    let target := if values.length ≤ target then values.length - 1 else target
    values.take target

def shrinkCollections (minima : Minima) (ratio : ℚ) (r : ClientReport) : ClientReport :=
  { r with
    capabilities := shrink r.capabilities minima.capabilities ratio
    system := { r.system with
      networks := shrink r.system.networks minima.networks ratio
      disks := shrink r.system.disks minima.disks ratio
      temperatures := shrink r.system.temperatures minima.temperatures ratio
      gpus := shrink r.system.gpus minima.gpus ratio } }

/-- How many entries may still go. -/
def removable (minima : Minima) (r : ClientReport) : Nat :=
  (r.capabilities.length - minima.capabilities) + (r.system.networks.length - minima.networks) +
    (r.system.disks.length - minima.disks) + (r.system.temperatures.length - minima.temperatures) +
    (r.system.gpus.length - minima.gpus)

theorem length_shrink_le {α : Type} (values : List α) (minimum : Nat) (ratio : ℚ) :
    (shrink values minimum ratio).length ≤ values.length := by
  unfold shrink
  split
  · exact Nat.le_refl _
  · exact List.length_take_le' _ _

theorem minimum_le_shrink {α : Type} {values : List α} {minimum : Nat} (h : minimum ≤ values.length) (ratio : ℚ) :
    minimum ≤ (shrink values minimum ratio).length := by
  unfold shrink
  split
  · exact h
  · simp only [List.length_take]
    split <;> omega

theorem length_shrink_lt {α : Type} {values : List α} {minimum : Nat} (h : minimum < values.length) (ratio : ℚ) :
    (shrink values minimum ratio).length < values.length := by
  unfold shrink
  rw [if_neg (by omega)]
  simp only [List.length_take]
  split <;> omega

theorem prefix_shrink {α : Type} (values : List α) (minimum : Nat) (ratio : ℚ) :
    shrink values minimum ratio <+: values := by
  unfold shrink
  split
  · exact List.prefix_rfl
  · exact List.take_prefix _ _

/-- How many entries there are. -/
def ClientReport.entries (r : ClientReport) : Nat :=
  r.capabilities.length + r.system.networks.length + r.system.disks.length + r.system.temperatures.length +
    r.system.gpus.length

theorem entries_shrinkCollections {minima : Minima} {r : ClientReport} (h : removable minima r ≠ 0) (ratio : ℚ) :
    (shrinkCollections minima ratio r).entries < r.entries := by
  have hc := length_shrink_le r.capabilities minima.capabilities ratio
  have hn := length_shrink_le r.system.networks minima.networks ratio
  have hd := length_shrink_le r.system.disks minima.disks ratio
  have ht := length_shrink_le r.system.temperatures minima.temperatures ratio
  have hg := length_shrink_le r.system.gpus minima.gpus ratio
  simp only [ClientReport.entries, shrinkCollections]
  -- one of the five collections has something to give
  by_cases hc' : minima.capabilities < r.capabilities.length
  · have := length_shrink_lt hc' ratio
    omega
  by_cases hn' : minima.networks < r.system.networks.length
  · have := length_shrink_lt hn' ratio
    omega
  by_cases hd' : minima.disks < r.system.disks.length
  · have := length_shrink_lt hd' ratio
    omega
  by_cases ht' : minima.temperatures < r.system.temperatures.length
  · have := length_shrink_lt ht' ratio
    omega
  by_cases hg' : minima.gpus < r.system.gpus.length
  · have := length_shrink_lt hg' ratio
    omega
  simp only [removable] at h
  omega

/-- The loop that shrinks the collections together, as long as the body is too long and something may go. -/
def shrinkLoop (minima : Minima) (r : ClientReport) : ClientReport :=
  if _h : tooLong wire r = true ∧ removable minima r ≠ 0 then
    shrinkLoop minima (shrinkCollections minima (shrinkRatio wire r) r)
  else r
termination_by r.entries
decreasing_by exact entries_shrinkCollections _h.2 _

/-- Temperatures go first, then disks, networks and GPUs, then capabilities down to the minimum. -/
def removeLastOptional (capabilityMinimum : Nat) (r : ClientReport) : Option ClientReport :=
  if r.system.temperatures ≠ [] then
    some { r with system := { r.system with temperatures := r.system.temperatures.dropLast } }
  else if r.system.disks ≠ [] then some { r with system := { r.system with disks := r.system.disks.dropLast } }
  else if r.system.networks ≠ [] then
    some { r with system := { r.system with networks := r.system.networks.dropLast } }
  else if r.system.gpus ≠ [] then some { r with system := { r.system with gpus := r.system.gpus.dropLast } }
  else if capabilityMinimum < r.capabilities.length then some { r with capabilities := r.capabilities.dropLast }
  else none

theorem entries_removeLastOptional {capabilityMinimum : Nat} {r r' : ClientReport}
    (h : removeLastOptional capabilityMinimum r = some r') : r'.entries < r.entries := by
  unfold removeLastOptional at h
  simp only [← List.length_pos_iff_ne_nil] at h
  split_ifs at h <;>
  · obtain rfl := Option.some.inj h
    simp only [ClientReport.entries, List.length_dropLast]
    omega

/-- Nothing is left but the capabilities that have to stay. -/
structure Bare (capabilityMinimum : Nat) (r : ClientReport) : Prop where
  capabilities : r.capabilities.length ≤ capabilityMinimum
  networks : r.system.networks = []
  disks : r.system.disks = []
  temperatures : r.system.temperatures = []
  gpus : r.system.gpus = []

theorem bare_of_removeLastOptional {capabilityMinimum : Nat} {r : ClientReport}
    (h : removeLastOptional capabilityMinimum r = none) : Bare capabilityMinimum r := by
  unfold removeLastOptional at h
  split_ifs at h with ht hd hn hg hc
  exact ⟨Nat.not_lt.mp hc, not_not.mp hn, not_not.mp hd, not_not.mp ht, not_not.mp hg⟩

/-- The loop that removes entries one by one. -/
def removeLoop (capabilityMinimum : Nat) (r : ClientReport) : ClientReport :=
  if tooLong wire r = true then
    match _h : removeLastOptional capabilityMinimum r with
    | some r' => removeLoop capabilityMinimum r'
    | none => r
  else r
termination_by r.entries
decreasing_by exact entries_removeLastOptional _h

def Capability.isMarker (c : Capability) : Bool := c.name == truncatedCapability

/-- The first capability is the diagnostic: it stays. -/
def capabilityMinimum (r : ClientReport) : Nat := if r.capabilities.head?.any Capability.isMarker then 1 else 0

/-- `fit_body`; the minimum of the capabilities is its own. -/
def fitBody (minima : Minima) (r : ClientReport) : ClientReport :=
  let r := if tooLong wire r then { r with system := { r.system with hardware := none } } else r
  let minimum := capabilityMinimum r
  removeLoop wire minimum (shrinkLoop wire { minima with capabilities := minimum } r)

/-! ## What fitting does -/

/-- The collections are cut short; everything else is as it was. -/
structure Cut (r r' : ClientReport) : Prop where
  capabilities : r'.capabilities <+: r.capabilities
  networks : r'.system.networks <+: r.system.networks
  disks : r'.system.disks <+: r.system.disks
  temperatures : r'.system.temperatures <+: r.system.temperatures
  gpus : r'.system.gpus <+: r.system.gpus
  rest : { r' with
    capabilities := r.capabilities
    system := { r'.system with
      networks := r.system.networks
      disks := r.system.disks
      temperatures := r.system.temperatures
      gpus := r.system.gpus } } = r

theorem Cut.refl (r : ClientReport) : Cut r r :=
  ⟨List.prefix_rfl, List.prefix_rfl, List.prefix_rfl, List.prefix_rfl, List.prefix_rfl, rfl⟩

theorem Cut.trans {r s t : ClientReport} (h : Cut r s) (h' : Cut s t) : Cut r t where
  capabilities := h'.capabilities.trans h.capabilities
  networks := h'.networks.trans h.networks
  disks := h'.disks.trans h.disks
  temperatures := h'.temperatures.trans h.temperatures
  gpus := h'.gpus.trans h.gpus
  rest := by
    have hst := congrArg (fun u : ClientReport => { u with
      capabilities := r.capabilities
      system := { u.system with
        networks := r.system.networks
        disks := r.system.disks
        temperatures := r.system.temperatures
        gpus := r.system.gpus } }) h'.rest
    exact hst.trans h.rest

theorem Cut.hardware {r r' : ClientReport} (h : Cut r r') : r'.system.hardware = r.system.hardware := by
  have := congrArg (fun u : ClientReport => u.system.hardware) h.rest
  exact this

theorem Cut.client {r r' : ClientReport} (h : Cut r r') : r'.client = r.client := by
  have := congrArg (fun u : ClientReport => u.client) h.rest
  exact this

theorem shrinkCollections_cut (minima : Minima) (ratio : ℚ) (r : ClientReport) :
    Cut r (shrinkCollections minima ratio r) :=
  ⟨prefix_shrink _ _ _, prefix_shrink _ _ _, prefix_shrink _ _ _, prefix_shrink _ _ _, prefix_shrink _ _ _, rfl⟩

theorem removeLastOptional_cut {capabilityMinimum : Nat} {r r' : ClientReport}
    (h : removeLastOptional capabilityMinimum r = some r') : Cut r r' := by
  unfold removeLastOptional at h
  split_ifs at h <;> obtain rfl := Option.some.inj h
  · exact { Cut.refl r with temperatures := List.dropLast_prefix _ }
  · exact { Cut.refl r with disks := List.dropLast_prefix _ }
  · exact { Cut.refl r with networks := List.dropLast_prefix _ }
  · exact { Cut.refl r with gpus := List.dropLast_prefix _ }
  · exact { Cut.refl r with capabilities := List.dropLast_prefix _ }

/-- No collection is shorter than its minimum. -/
structure AtLeast (minima : Minima) (r : ClientReport) : Prop where
  capabilities : minima.capabilities ≤ r.capabilities.length
  networks : minima.networks ≤ r.system.networks.length
  disks : minima.disks ≤ r.system.disks.length
  temperatures : minima.temperatures ≤ r.system.temperatures.length
  gpus : minima.gpus ≤ r.system.gpus.length

theorem AtLeast.shrinkCollections {minima : Minima} {r : ClientReport} (h : AtLeast minima r) (ratio : ℚ) :
    AtLeast minima (shrinkCollections minima ratio r) :=
  ⟨minimum_le_shrink h.capabilities _, minimum_le_shrink h.networks _, minimum_le_shrink h.disks _,
    minimum_le_shrink h.temperatures _, minimum_le_shrink h.gpus _⟩

theorem shrinkLoop_cut (minima : Minima) (r : ClientReport) : Cut r (shrinkLoop wire minima r) := by
  induction r using shrinkLoop.induct wire minima with
  | case1 r h ih =>
    rw [shrinkLoop, dif_pos h]
    exact (shrinkCollections_cut minima _ r).trans ih
  | case2 r h =>
    rw [shrinkLoop, dif_neg h]
    exact Cut.refl r

/-- The loop ends where the body fits, or where every collection is at its minimum. -/
theorem shrinkLoop_ends (minima : Minima) (r : ClientReport) :
    tooLong wire (shrinkLoop wire minima r) = false ∨ removable minima (shrinkLoop wire minima r) = 0 := by
  induction r using shrinkLoop.induct wire minima with
  | case1 r h ih => rwa [shrinkLoop, dif_pos h]
  | case2 r h =>
    rw [shrinkLoop, dif_neg h]
    rcases not_and_or.mp h with h | h
    · exact Or.inl (Bool.eq_false_iff.mpr h)
    · exact Or.inr (not_not.mp h)

theorem shrinkLoop_minima {minima : Minima} {r : ClientReport} (hr : AtLeast minima r) :
    AtLeast minima (shrinkLoop wire minima r) := by
  induction r using shrinkLoop.induct wire minima with
  | case1 r h ih =>
    rw [shrinkLoop, dif_pos h]
    exact ih (hr.shrinkCollections _)
  | case2 r h => rwa [shrinkLoop, dif_neg h]

theorem shrinkLoop_capabilities {minima : Minima} {r : ClientReport}
    (hr : minima.capabilities ≤ r.capabilities.length) :
    minima.capabilities ≤ (shrinkLoop wire minima r).capabilities.length := by
  induction r using shrinkLoop.induct wire minima with
  | case1 r h ih =>
    rw [shrinkLoop, dif_pos h]
    exact ih (minimum_le_shrink hr _)
  | case2 r h => rwa [shrinkLoop, dif_neg h]

theorem removeLoop_eq_self {minimum : Nat} {r : ClientReport} (h : tooLong wire r = false) :
    removeLoop wire minimum r = r := by
  rw [removeLoop, h, if_neg Bool.false_ne_true]

theorem removeLoop_cut (minimum : Nat) (r : ClientReport) : Cut r (removeLoop wire minimum r) := by
  induction r using removeLoop.induct wire minimum with
  | case1 r h r' hr ih =>
    rw [removeLoop, if_pos h]
    split
    · next s hs =>
      obtain rfl := Option.some.inj (hr.symm.trans hs)
      exact (removeLastOptional_cut hr).trans ih
    · exact Cut.refl r
  | case2 r h hr =>
    rw [removeLoop, if_pos h]
    split
    · next s hs => rw [hr] at hs; cases hs
    · exact Cut.refl r
  | case3 r h =>
    rw [removeLoop, if_neg h]
    exact Cut.refl r

theorem removeLoop_ends (minimum : Nat) (r : ClientReport) :
    tooLong wire (removeLoop wire minimum r) = false ∨ Bare minimum (removeLoop wire minimum r) := by
  induction r using removeLoop.induct wire minimum with
  | case1 r h r' hr ih =>
    rw [removeLoop, if_pos h]
    split
    · next s hs =>
      obtain rfl := Option.some.inj (hr.symm.trans hs)
      exact ih
    · next hs => rw [hr] at hs; cases hs
  | case2 r h hr =>
    rw [removeLoop, if_pos h]
    split
    · next s hs => rw [hr] at hs; cases hs
    · exact Or.inr (bare_of_removeLastOptional hr)
  | case3 r h =>
    rw [removeLoop, if_neg h]
    exact Or.inl (Bool.eq_false_iff.mpr h)

theorem removeLastOptional_capabilities {minimum : Nat} {r r' : ClientReport} (hr : minimum ≤ r.capabilities.length)
    (h : removeLastOptional minimum r = some r') : minimum ≤ r'.capabilities.length := by
  unfold removeLastOptional at h
  split_ifs at h <;> obtain rfl := Option.some.inj h
  any_goals exact hr
  rw [List.length_dropLast]
  omega

theorem removeLoop_capabilities {minimum : Nat} {r : ClientReport} (hr : minimum ≤ r.capabilities.length) :
    minimum ≤ (removeLoop wire minimum r).capabilities.length := by
  induction r using removeLoop.induct wire minimum with
  | case1 r h r' hr' ih =>
    rw [removeLoop, if_pos h]
    split
    · next s hs =>
      obtain rfl := Option.some.inj (hr'.symm.trans hs)
      exact ih (removeLastOptional_capabilities hr hr')
    · exact hr
  | case2 r h hr' =>
    rw [removeLoop, if_pos h]
    split
    · next s hs => rw [hr'] at hs; cases hs
    · exact hr
  | case3 r h => rwa [removeLoop, if_neg h]

/-- The report without its hardware. -/
def ClientReport.withoutHardware (r : ClientReport) : ClientReport :=
  { r with system := { r.system with hardware := none } }

/-- The minima that `fit_body` works with. -/
def Minima.withMarker (minima : Minima) (r : ClientReport) : Minima :=
  { minima with capabilities := capabilityMinimum r }

/-- A report that fits is not touched. -/
theorem fitBody_eq_self {minima : Minima} {r : ClientReport} (h : tooLong wire r = false) :
    fitBody wire minima r = r := by
  simp only [fitBody, h, Bool.false_eq_true, if_false]
  rw [shrinkLoop, dif_neg (by simp [h]), removeLoop_eq_self wire h]

theorem fitBody_eq_loops (minima : Minima) {r : ClientReport} (h : tooLong wire r = true) :
    fitBody wire minima r = removeLoop wire (capabilityMinimum r)
      (shrinkLoop wire (minima.withMarker r) r.withoutHardware) := by
  simp only [fitBody, h, if_true]
  rfl

/-- A report that does not fit loses its hardware, and its collections are cut short. -/
theorem fitBody_cut (minima : Minima) {r : ClientReport} (h : tooLong wire r = true) :
    Cut r.withoutHardware (fitBody wire minima r) := by
  rw [fitBody_eq_loops wire minima h]
  exact (shrinkLoop_cut wire _ _).trans (removeLoop_cut wire _ _)

theorem capabilityMinimum_le (r : ClientReport) : capabilityMinimum r ≤ r.capabilities.length := by
  unfold capabilityMinimum
  cases r.capabilities with
  | nil => simp
  | cons c l => simp only [List.length_cons]; split <;> omega

/-- The diagnostic stays where it stands. -/
theorem fitBody_capabilities (minima : Minima) (r : ClientReport) :
    (fitBody wire minima r).capabilities <+: r.capabilities ∧
      capabilityMinimum r ≤ (fitBody wire minima r).capabilities.length := by
  by_cases h : tooLong wire r = true
  · refine ⟨(fitBody_cut wire minima h).capabilities, ?_⟩
    rw [fitBody_eq_loops wire minima h]
    have hminimum : (minima.withMarker r).capabilities ≤ r.withoutHardware.capabilities.length :=
      capabilityMinimum_le r
    exact removeLoop_capabilities wire (shrinkLoop_capabilities wire hminimum)
  · rw [fitBody_eq_self wire (Bool.eq_false_iff.mpr h)]
    exact ⟨List.prefix_rfl, capabilityMinimum_le r⟩

/-- In the end the body fits, or nothing that could go is left. -/
theorem fitBody_ends (minima : Minima) (r : ClientReport) :
    tooLong wire (fitBody wire minima r) = false ∨
      Bare (capabilityMinimum r) (fitBody wire minima r) ∧ (fitBody wire minima r).system.hardware = none := by
  by_cases h : tooLong wire r = true
  · have hcut := fitBody_cut wire minima h
    rw [fitBody_eq_loops wire minima h] at hcut ⊢
    exact (removeLoop_ends wire _ _).imp id fun hbare => ⟨hbare, hcut.hardware⟩
  · rw [Bool.not_eq_true] at h
    exact Or.inl (by rw [fitBody_eq_self wire h, h])

/-- The report cut down to its minima, without its hardware. -/
def restricted (minima : Minima) (r : ClientReport) : ClientReport :=
  { r with
    capabilities := r.capabilities.take minima.capabilities
    system := { r.system with
      hardware := none
      networks := r.system.networks.take minima.networks
      disks := r.system.disks.take minima.disks
      temperatures := r.system.temperatures.take minima.temperatures
      gpus := r.system.gpus.take minima.gpus } }

/-- Cut down as far as it may be, a report is the restricted one. -/
theorem eq_restricted {minima : Minima} {r r' : ClientReport} (hcut : Cut r.withoutHardware r')
    (hleast : AtLeast minima r') (hnone : removable minima r' = 0) : r' = restricted minima r := by
  simp only [removable] at hnone
  have hcapabilities : r'.capabilities = r.capabilities.take minima.capabilities := by
    rw [show minima.capabilities = r'.capabilities.length from by have := hleast.capabilities; omega]
    exact List.prefix_iff_eq_take.mp hcut.capabilities
  have hnetworks : r'.system.networks = r.system.networks.take minima.networks := by
    rw [show minima.networks = r'.system.networks.length from by have := hleast.networks; omega]
    exact List.prefix_iff_eq_take.mp hcut.networks
  have hdisks : r'.system.disks = r.system.disks.take minima.disks := by
    rw [show minima.disks = r'.system.disks.length from by have := hleast.disks; omega]
    exact List.prefix_iff_eq_take.mp hcut.disks
  have htemperatures : r'.system.temperatures = r.system.temperatures.take minima.temperatures := by
    rw [show minima.temperatures = r'.system.temperatures.length from by have := hleast.temperatures; omega]
    exact List.prefix_iff_eq_take.mp hcut.temperatures
  have hgpus : r'.system.gpus = r.system.gpus.take minima.gpus := by
    rw [show minima.gpus = r'.system.gpus.length from by have := hleast.gpus; omega]
    exact List.prefix_iff_eq_take.mp hcut.gpus
  have hrest := congrArg (restricted minima) hcut.rest
  rw [show restricted minima r.withoutHardware = restricted minima r from rfl] at hrest
  rw [← hrest]
  simp only [restricted, ClientReport.withoutHardware, ← hcapabilities, ← hnetworks, ← hdisks, ← htemperatures, ← hgpus]
  have hhardware : r'.system.hardware = none := hcut.hardware
  rw [← hhardware]

/-- Where the restricted report fits, no collection goes below its minimum, and the body fits. -/
theorem fitBody_keeps {minima : Minima} {r : ClientReport} (hleast : AtLeast (minima.withMarker r) r)
    (hfits : tooLong wire (restricted (minima.withMarker r) r) = false) :
    tooLong wire (fitBody wire minima r) = false ∧ AtLeast (minima.withMarker r) (fitBody wire minima r) := by
  by_cases h : tooLong wire r = true
  · have hwithout : AtLeast (minima.withMarker r) r.withoutHardware :=
      ⟨hleast.capabilities, hleast.networks, hleast.disks, hleast.temperatures, hleast.gpus⟩
    have hloop : tooLong wire (shrinkLoop wire (minima.withMarker r) r.withoutHardware) = false := by
      refine (shrinkLoop_ends wire _ _).elim id fun hzero => ?_
      rwa [eq_restricted (shrinkLoop_cut wire _ _) (shrinkLoop_minima wire hwithout) hzero]
    have heq : fitBody wire minima r = shrinkLoop wire (minima.withMarker r) r.withoutHardware := by
      rw [fitBody_eq_loops wire minima h, removeLoop_eq_self wire hloop]
    rw [heq]
    exact ⟨hloop, shrinkLoop_minima wire hwithout⟩
  · rw [Bool.not_eq_true] at h
    rw [fitBody_eq_self wire h]
    exact ⟨h, hleast⟩

end

end Xsoc
