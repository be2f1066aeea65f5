import Xsoc.Maintenance.Budget

/-!
# The buffer of a counter array

Windows says how many bytes an array of counters needs, and how many items it has. The buffer is allocated in whole
items; then Windows says how much of it was used.

* `planPdhBuffer` : the allocation; `validatePdhResult` : how many items may be read;
* `PdhBufferLayout.Covers`, `Readable` : what they promise of the memory; `covers`, `readable` : that it holds;
* `items_le_slots` : so no item is read that was not allocated.

A `usize` has 64 bits, so that each `u32` is one.
-/

set_option autoImplicit false

namespace Xsoc

namespace Pdh

open Maintenance

def maxPdhArrayBytes : Nat := 4 * 1024 * 1024

def maxPdhArrayItems : Nat := 4096

def require (p : Prop) [Decidable p] (e : String) : Except String Unit := if p then .ok () else .error e

/-- `ok_or_else` -/
def okOrElse {α : Type} (e : String) : Option α → Except String α
  | some a => .ok a
  | none => .error e

theorem require_eq_ok {p : Prop} [Decidable p] {e : String} {u : Unit} : require p e = .ok u ↔ p := by
  unfold require
  by_cases h : p <;> simp [h]

theorem okOrElse_eq_ok {α : Type} {e : String} {x : Option α} {a : α} : okOrElse e x = .ok a ↔ x = some a := by
  cases x <;> simp [okOrElse]

structure PdhBufferLayout where
  slots : Nat
  capacityBytes : Nat
  deriving DecidableEq

/-- `plan_pdh_buffer`; the subtraction is not checked. -/
def planPdhBuffer (requiredBytes itemCount : UInt32) (itemSize : UInt64) : Except String PdhBufferLayout := do
  require (itemSize ≠ 0) "PDH item type has zero size"
  let requiredBytes := requiredBytes.toNat
  require (requiredBytes ≠ 0) "PDH returned a zero-sized array buffer"
  require (requiredBytes ≤ maxPdhArrayBytes)
    s!"PDH requested {requiredBytes} array bytes, exceeding the {maxPdhArrayBytes} byte limit"
  let itemCount := itemCount.toNat
  require (itemCount ≤ maxPdhArrayItems)
    s!"PDH returned {itemCount} array items, exceeding the {maxPdhArrayItems} item limit"
  let minimumItemBytes ← okOrElse "PDH item array size overflowed" (checkedMul itemCount itemSize.toNat)
  require (minimumItemBytes ≤ requiredBytes)
    s!"PDH byte count {requiredBytes} cannot contain {itemCount} array items"
  let rounded ← okOrElse "PDH buffer rounding overflowed" (checkedAdd requiredBytes (itemSize - 1).toNat)
  let slots := rounded / itemSize.toNat
  let capacityBytes ← okOrElse "PDH buffer capacity overflowed" (checkedMul slots itemSize.toNat)
  require (capacityBytes ≤ maxPdhArrayBytes)
    s!"PDH aligned buffer requires {capacityBytes} bytes, exceeding the {maxPdhArrayBytes} byte limit"
  require (capacityBytes < 2 ^ 32) "PDH buffer capacity exceeds the API's u32 range"
  return ⟨slots, capacityBytes⟩

def validatePdhResult (capacityBytes : UInt64) (usedBytes itemCount : UInt32) (itemSize : UInt64) :
    Except String Nat := do
  require (itemSize ≠ 0) "PDH item type has zero size"
  let capacityBytes := capacityBytes.toNat
  require (capacityBytes ≤ maxPdhArrayBytes) "PDH buffer capacity exceeds the configured resource limit"
  let usedBytes := usedBytes.toNat
  require (usedBytes ≤ capacityBytes) s!"PDH reported {usedBytes} used bytes for a {capacityBytes} byte buffer"
  let itemCount := itemCount.toNat
  require (itemCount ≤ maxPdhArrayItems)
    s!"PDH returned {itemCount} array items, exceeding the {maxPdhArrayItems} item limit"
  let minimumItemBytes ← okOrElse "PDH item array size overflowed" (checkedMul itemCount itemSize.toNat)
  require (minimumItemBytes ≤ usedBytes) s!"PDH used byte count {usedBytes} cannot contain {itemCount} array items"
  return itemCount

/-! ## What they promise -/

/-- The layout holds the bytes that are required, in whole items, with no more than it must. -/
structure PdhBufferLayout.Covers (layout : PdhBufferLayout) (requiredBytes itemCount : UInt32) (itemSize : UInt64) :
    Prop where
  whole : layout.slots * itemSize.toNat = layout.capacityBytes
  holds : requiredBytes.toNat ≤ layout.capacityBytes
  least : layout.capacityBytes < requiredBytes.toNat + itemSize.toNat
  items : itemCount.toNat * itemSize.toNat ≤ requiredBytes.toNat
  within : layout.capacityBytes ≤ maxPdhArrayBytes
  fits : layout.capacityBytes < 2 ^ 32
  /-- The subtraction does not wrap, and neither does what the checks let through. -/
  predecessor : (itemSize - 1).toNat + 1 = itemSize.toNat
  sum : requiredBytes.toNat + (itemSize - 1).toNat < usizeLimit
  products : itemCount.toNat * itemSize.toNat < usizeLimit ∧ layout.slots * itemSize.toNat < usizeLimit

/-- So many items are in the bytes that were used, and these are in the buffer. -/
structure Readable (capacityBytes : UInt64) (usedBytes : UInt32) (itemSize : UInt64) (n : Nat) : Prop where
  used : n * itemSize.toNat ≤ usedBytes.toNat
  within : usedBytes.toNat ≤ capacityBytes.toNat
  product : n * itemSize.toNat < usizeLimit

theorem toNat_sub_one {n : UInt64} (h : n ≠ 0) : (n - 1).toNat + 1 = n.toNat := by
  have hpos : 0 < n.toNat := Nat.pos_of_ne_zero fun hzero => h (UInt64.toNat_inj.mp hzero)
  have hle : (1 : UInt64) ≤ n := by
    rw [UInt64.le_iff_toNat_le]
    exact hpos
  rw [UInt64.toNat_sub_of_le _ _ hle]
  exact Nat.sub_add_cancel hpos

theorem covers {requiredBytes itemCount : UInt32} {itemSize : UInt64} {layout : PdhBufferLayout}
    (h : planPdhBuffer requiredBytes itemCount itemSize = .ok layout) :
    layout.Covers requiredBytes itemCount itemSize := by
  simp only [planPdhBuffer, Except.bind_eq_ok, require_eq_ok, okOrElse_eq_ok, checkedMul_eq_some,
    checkedAdd_eq_some, pure,
    Except.pure, Except.ok.injEq, exists_const] at h
  obtain ⟨hsize, -, -, -, minimum, ⟨rfl, hminimum⟩, hitems, rounded, ⟨rfl, hrounded⟩, capacity,
      ⟨rfl, hcapacity⟩, hwithin,
    hfits, rfl⟩ := h
  have hpredecessor := toNat_sub_one hsize
  have hround := roundUp_spec (n := requiredBytes.toNat) (show 0 < itemSize.toNat by omega)
  rw [show itemSize.toNat - 1 = (itemSize - 1).toNat by omega] at hround
  exact {
    whole := rfl
    holds := hround.1
    least := hround.2
    items := hitems
    within := hwithin
    fits := hfits
    predecessor := hpredecessor
    sum := hrounded
    products := ⟨hminimum, hcapacity⟩ }

theorem readable {capacityBytes itemSize : UInt64} {usedBytes itemCount : UInt32} {n : Nat}
    (h : validatePdhResult capacityBytes usedBytes itemCount itemSize = .ok n) :
    n = itemCount.toNat ∧ Readable capacityBytes usedBytes itemSize n := by
  simp only [validatePdhResult, Except.bind_eq_ok, require_eq_ok, okOrElse_eq_ok, checkedMul_eq_some, pure, Except.pure,
    Except.ok.injEq, exists_const] at h
  obtain ⟨-, -, hused, -, minimum, ⟨rfl, hminimum⟩, hitems, rfl⟩ := h
  exact ⟨rfl, hitems, hused, hminimum⟩

/-- No more items are read than were allocated. -/
theorem items_le_slots {requiredBytes itemCount usedBytes itemCount' : UInt32} {itemSize : UInt64}
    {layout : PdhBufferLayout} {n : Nat} (h : planPdhBuffer requiredBytes itemCount itemSize = .ok layout)
    (hn : validatePdhResult (.ofNat layout.capacityBytes) usedBytes itemCount' itemSize = .ok n) :
      n ≤ layout.slots := by
  have hlayout := covers h
  obtain ⟨-, hread⟩ := readable hn
  have hcapacity : (UInt64.ofNat layout.capacityBytes).toNat = layout.capacityBytes :=
    UInt64.toNat_ofNat_of_lt (Nat.lt_trans hlayout.fits (by decide))
  have hpredecessor := hlayout.predecessor
  apply Nat.le_of_mul_le_mul_right _ (show 0 < itemSize.toNat by omega)
  calc n * itemSize.toNat ≤ usedBytes.toNat := hread.used
    _ ≤ layout.capacityBytes := hcapacity ▸ hread.within
    _ = layout.slots * itemSize.toNat := hlayout.whole.symm

example : (planPdhBuffer 25 1 24).toOption = some ⟨2, 48⟩ ∧ (validatePdhResult 48 48 2 24).toOption = some 2 := by
  decide

end Pdh

end Xsoc
