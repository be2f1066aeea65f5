import Xsoc.Collectors.PdhBuffer

/-!
# The buffer of a rename

A rename by handle is asked for in a structure whose last field is the name, which goes on behind it. The structure is
put in whole words, and the plan is checked again before it is used.

* `checkedRenameBufferPlan` : the plan; `checkedRenameStorageBytes` : the check, with the bytes of the words;
* `RenameBufferPlan.Holds` : the words hold the header, the name and what ends it; `plan_holds` : so they do;
* `storage_of_plan` : of a plan, the check looks only at whether the structure itself fits in;
* `native_buffers_safe` : this, and what the buffer of a counter array promises.
-/

set_option autoImplicit false

namespace Xsoc

namespace Maintenance

structure RenameBufferPlan where
  fileNameBytes : Nat
  bufferBytes : Nat
  storageWords : Nat
  deriving DecidableEq

/-- `u32::try_from`, with the context of its error. -/
def dword (text : String) (n : Nat) : Except Error Nat :=
  if n < 2 ^ 32 then .ok n
  else .error (.context text (.message "number too large to fit in target type"))

theorem dword_eq_ok {text : String} {n m : Nat} : dword text n = .ok m ↔ n < 2 ^ 32 ∧ n = m := by
  unfold dword
  split
  · next h => exact ⟨fun hok => ⟨h, Except.ok.inj hok⟩, fun hok => by rw [hok.2]⟩
  · next h => exact ⟨fun hok => (by cases hok), fun hok => absurd hok.1 h⟩

def checkedRenameBufferPlan (fileNameUtf16Units headerBytes storageWordBytes hardLimit : UInt64) :
    Except Error RenameBufferPlan := do
  check (0 < fileNameUtf16Units.toNat) (.message "rename destination must not be empty")
  check (0 < storageWordBytes.toNat) (.message "rename buffer storage alignment must not be zero")
  let fileNameBytes ← okOr (.message "rename destination UTF-16 byte count overflowed")
    (checkedMul fileNameUtf16Units.toNat 2)
  let bufferBytes ← okOr (.message "rename information buffer size overflowed")
    ((checkedAdd headerBytes.toNat fileNameBytes).bind (checkedAdd · 2))
  check (bufferBytes ≤ hardLimit.toNat)
    (.message s!"rename information exceeds the {hardLimit.toNat}-byte hard limit")
  let rounded ← okOr (.message "rename information storage size overflowed")
    (checkedAdd bufferBytes (storageWordBytes - 1).toNat)
  let fileNameBytes ← dword "rename destination byte count does not fit in a DWORD" fileNameBytes
  let bufferBytes ← dword "rename information buffer size does not fit in a DWORD" bufferBytes
  return ⟨fileNameBytes, bufferBytes, rounded / storageWordBytes.toNat⟩

def checkedRenameStorageBytes (plan : RenameBufferPlan) (storageWordBytes rustStructBytes fileNameOffset : UInt64) :
    Except Error Nat := do
  let allocatedBytes ← okOr (.message "rename information allocation size overflowed")
    (checkedMul plan.storageWords storageWordBytes.toNat)
  let populatedBytes ← okOr (.message "rename information populated size overflowed")
    ((checkedAdd fileNameOffset.toNat plan.fileNameBytes).bind (checkedAdd · 2))
  let populated ← dword "rename information populated size does not fit in a DWORD" populatedBytes
  check (populated = plan.bufferBytes) (.message "rename information plan is internally inconsistent")
  check (rustStructBytes.toNat ≤ allocatedBytes)
    (.message "rename information allocation is smaller than FILE_RENAME_INFO")
  check (populatedBytes ≤ allocatedBytes)
    (.message "rename information allocation is smaller than its flexible filename tail")
  return allocatedBytes

/-! ## What a plan holds -/

/-- The words of the plan hold the header, the name and the unit that ends it, and no operation wraps. -/
structure RenameBufferPlan.Holds (plan : RenameBufferPlan)
    (fileNameUtf16Units headerBytes storageWordBytes hardLimit : UInt64) : Prop where
  name : plan.fileNameBytes = fileNameUtf16Units.toNat * 2
  buffer : plan.bufferBytes = headerBytes.toNat + fileNameUtf16Units.toNat * 2 + 2
  within : plan.bufferBytes ≤ hardLimit.toNat
  fits : plan.bufferBytes < 2 ^ 32
  words : plan.bufferBytes ≤ plan.storageWords * storageWordBytes.toNat
  least : plan.storageWords * storageWordBytes.toNat < plan.bufferBytes + storageWordBytes.toNat
  predecessor : (storageWordBytes - 1).toNat + 1 = storageWordBytes.toNat
  sum : plan.bufferBytes + (storageWordBytes - 1).toNat < usizeLimit
  product : plan.storageWords * storageWordBytes.toNat < usizeLimit

section

variable {fileNameUtf16Units headerBytes storageWordBytes hardLimit : UInt64} {plan : RenameBufferPlan}

theorem plan_holds (h : checkedRenameBufferPlan fileNameUtf16Units headerBytes storageWordBytes hardLimit = .ok plan) :
    plan.Holds fileNameUtf16Units headerBytes storageWordBytes hardLimit := by
  simp only [checkedRenameBufferPlan, Except.bind_eq_ok, check_eq_ok, okOr_eq_ok, Option.bind_eq_some_iff,
    checkedMul_eq_some, checkedAdd_eq_some, dword_eq_ok, pure, Except.pure, Except.ok.injEq, exists_const] at h
  obtain ⟨-, hword, name, ⟨rfl, -⟩, buffer, ⟨front, ⟨rfl, -⟩, rfl, -⟩, hwithin, rounded, ⟨rfl, hrounded⟩,
      name, ⟨-, rfl⟩,
    buffer, ⟨hfits, rfl⟩, rfl⟩ := h
  have hpredecessor : (storageWordBytes - 1).toNat + 1 = storageWordBytes.toNat := by
    apply Pdh.toNat_sub_one
    rintro rfl
    exact absurd hword (by decide)
  have hround := roundUp_spec (n := headerBytes.toNat + fileNameUtf16Units.toNat * 2 + 2) hword
  rw [show storageWordBytes.toNat - 1 = (storageWordBytes - 1).toNat by omega] at hround
  exact {
    name := rfl
    buffer := rfl
    within := hwithin
    fits := hfits
    words := hround.1
    least := hround.2
    predecessor := hpredecessor
    sum := hrounded
    product := by
      have hleast := hround.2
      dsimp only
      omega }

/-- The check of a plan comes down to the size of the structure. -/
theorem storage_of_plan (h : plan.Holds fileNameUtf16Units headerBytes storageWordBytes hardLimit)
    (rustStructBytes : UInt64) :
    checkedRenameStorageBytes plan storageWordBytes rustStructBytes headerBytes =
      if rustStructBytes.toNat ≤ plan.storageWords * storageWordBytes.toNat then
        .ok (plan.storageWords * storageWordBytes.toNat)
      else .error (.message "rename information allocation is smaller than FILE_RENAME_INFO") := by
  have hproduct : checkedMul plan.storageWords storageWordBytes.toNat =
      some (plan.storageWords * storageWordBytes.toNat) := checkedMul_eq_some.mpr ⟨rfl, h.product⟩
  have hlimit : (2 : Nat) ^ 32 < usizeLimit := by decide
  have hpopulated : ((checkedAdd headerBytes.toNat plan.fileNameBytes).bind (checkedAdd · 2)) =
      some plan.bufferBytes := by
    have hbuffer := h.buffer
    have hname := h.name
    have hfits := h.fits
    refine Option.bind_eq_some_iff.mpr
      ⟨headerBytes.toNat + plan.fileNameBytes, checkedAdd_eq_some.mpr ⟨rfl, by omega⟩, ?_⟩
    exact checkedAdd_eq_some.mpr ⟨by omega, by omega⟩
  have hdword : dword "rename information populated size does not fit in a DWORD" plan.bufferBytes =
      .ok plan.bufferBytes := dword_eq_ok.mpr ⟨h.fits, rfl⟩
  by_cases hstruct : rustStructBytes.toNat ≤ plan.storageWords * storageWordBytes.toNat
  · simp only [checkedRenameStorageBytes, hproduct, hpopulated, okOr_some, hdword, check, hstruct, h.words,
      if_true, bind,
      Except.bind, pure, Except.pure]
  · simp only [checkedRenameStorageBytes, hproduct, hpopulated, okOr_some, hdword, check, hstruct, if_true, if_false,
      bind, Except.bind]

end

/-- The buffer of a counter array holds what is required and what may be read of it; the buffer of a rename holds the
header, the name, what ends it and the structure, and its plan is never found inconsistent. -/
theorem native_buffers_safe :
    (∀ (requiredBytes itemCount : UInt32) (itemSize : UInt64) (layout : Pdh.PdhBufferLayout),
      Pdh.planPdhBuffer requiredBytes itemCount itemSize = .ok layout →
        layout.Covers requiredBytes itemCount itemSize) ∧
    (∀ (capacityBytes : UInt64) (usedBytes itemCount : UInt32) (itemSize : UInt64) (n : Nat),
      Pdh.validatePdhResult capacityBytes usedBytes itemCount itemSize = .ok n →
        n = itemCount.toNat ∧ Pdh.Readable capacityBytes usedBytes itemSize n) ∧
    (∀ (requiredBytes itemCount usedBytes itemCount' : UInt32) (itemSize : UInt64) (layout : Pdh.PdhBufferLayout)
      (n : Nat), Pdh.planPdhBuffer requiredBytes itemCount itemSize = .ok layout →
        Pdh.validatePdhResult (.ofNat layout.capacityBytes) usedBytes itemCount' itemSize = .ok n → n ≤ layout.slots) ∧
    ∀ (fileNameUtf16Units headerBytes storageWordBytes hardLimit rustStructBytes : UInt64) (plan : RenameBufferPlan),
      checkedRenameBufferPlan fileNameUtf16Units headerBytes storageWordBytes hardLimit = .ok plan →
        plan.Holds fileNameUtf16Units headerBytes storageWordBytes hardLimit ∧
        (∀ allocatedBytes,
          checkedRenameStorageBytes plan storageWordBytes rustStructBytes headerBytes = .ok allocatedBytes →
            allocatedBytes = plan.storageWords * storageWordBytes.toNat ∧
            headerBytes.toNat + fileNameUtf16Units.toNat * 2 + 2 ≤ allocatedBytes ∧
            rustStructBytes.toNat ≤ allocatedBytes) ∧
        checkedRenameStorageBytes plan storageWordBytes rustStructBytes headerBytes ≠
          .error (.message "rename information plan is internally inconsistent") := by
  refine ⟨fun _ _ _ _ h => Pdh.covers h, fun _ _ _ _ _ h => Pdh.readable h,
    fun _ _ _ _ _ _ _ h hn => Pdh.items_le_slots h hn, ?_⟩
  intro fileNameUtf16Units headerBytes storageWordBytes hardLimit rustStructBytes plan h
  have hholds := plan_holds h
  rw [storage_of_plan hholds]
  refine ⟨hholds, ?_, ?_⟩
  · intro allocatedBytes hallocated
    split at hallocated
    · next hstruct =>
      cases hallocated
      exact ⟨rfl, hholds.buffer ▸ hholds.words, hstruct⟩
    · cases hallocated
  · split
    · exact fun heq => by cases heq
    · simp

example : (checkedRenameBufferPlan 4 20 8 64).toOption = some ⟨8, 30, 4⟩ ∧
    (checkedRenameStorageBytes ⟨8, 30, 4⟩ 8 24 20).toOption = some 32 := by decide

end Maintenance

end Xsoc
