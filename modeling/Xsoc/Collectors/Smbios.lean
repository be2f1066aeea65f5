import Mathlib.Data.Nat.Bitwise
import Xsoc.Collectors.Inventory
import Xsoc.Collectors.Numerals
import Xsoc.Report.Rendering

/-!
# The memory modules of SMBIOS

A table of structures, one behind the other. Each has a formatted area, which says how long it is, and a set of strings,
each with a zero behind it, and one more behind the last one. Type 17 is a memory device, type 127 the end of the table.

* `parse` : the code, where a read out of bounds is an error; `parse_reads_in_bounds` : there is none;
* `Structure`, `encode` : a well-formed structure, and its bytes; `Structure.memoryModule` : the module it describes;
* `step_encode`, `step_cut` : the turn of the loop for a structure, and for one that is cut off;
* `loop_table` : a run over the structures before the end of the table;
* `smbios_decodes` : the code finds the modules that the structures describe, and stops on every input.
-/

set_option autoImplicit false

namespace Xsoc

open Bounding

namespace Smbios

/-! ## Reading bytes -/

/-- An index that is out of bounds. -/
inductive Panic
  | outOfBounds

/-- `bytes[i]` -/
def index (bytes : List UInt8) (i : Nat) : Except Panic UInt8 := (bytes[i]?).elim (.error .outOfBounds) .ok

/-- `&bytes[start..]` -/
def tailFrom (bytes : List UInt8) (start : Nat) : Except Panic (List UInt8) :=
  if start ≤ bytes.length then .ok (bytes.drop start) else .error .outOfBounds

/-- `&bytes[..stop]` -/
def upTo (bytes : List UInt8) (stop : Nat) : Except Panic (List UInt8) :=
  if stop ≤ bytes.length then .ok (bytes.take stop) else .error .outOfBounds

/-- `bytes.get(start..start + length)` -/
def get (bytes : List UInt8) (start length : Nat) : Option (List UInt8) :=
  if start + length ≤ bytes.length then some ((bytes.drop start).take length) else none

def word (record : List UInt8) (offset : Nat) : Option Nat := (get record offset 2).map fromLeBytes

def dword (record : List UInt8) (offset : Nat) : Option Nat := (get record offset 4).map fromLeBytes

def speed (record : List UInt8) (offset extended : Nat) : Option F64 :=
  match word record offset with
  | none => none
  | some 0 => none
  | some 0xffff => ((dword record extended).filter fun v => decide (0 < v ∧ v ≤ 0x7fffffff)).map F64.ofNat
  | some value => some (F64.ofNat value)

/-- `windows(2).position(|w| w == [0, 0])` -/
def doubleNul : List UInt8 → Option Nat
  | a :: b :: rest => if a = 0 ∧ b = 0 then some 0 else (doubleNul (b :: rest)).map (· + 1)
  | _ => none

/-! ## The code -/

/-- `form_factor` -/
def formFactor : Nat → Option String
  | 3 => some "SIMM"
  | 4 => some "SIP"
  | 5 => some "Chip"
  | 6 => some "DIP"
  | 7 => some "ZIP"
  | 8 => some "Proprietary Card"
  | 9 => some "DIMM"
  | 10 => some "TSOP"
  | 11 => some "Row of chips"
  | 12 => some "RIMM"
  | 13 => some "SO-DIMM"
  | 14 => some "SRIMM"
  | 15 => some "FB-DIMM"
  | 16 => some "Die"
  | 17 => some "CAMM"
  | _ => none

/-- `smbios:{:04x}` -/
def moduleId (handle : Nat) : String := String.ofList ("smbios:".toList ++ paddedHex 4 handle)

section

variable (limits : Limits)

/-- The string that the byte at an offset refers to, by its number from one on. -/
def string (record : List UInt8) (strings : List (List UInt8)) (offset : Nat) : Option String := do
  let number ← record[offset]?
  let index ← if number.toNat = 0 then none else some (number.toNat - 1)
  let bytes ← strings[index]?
  NativeInventory.firmwareText limits (fromUtf8Lossy bytes)

/-- `capacity_bytes` -/
def capacityBytes (record : List UInt8) : Option Nat :=
  match word record 0x0c with
  | none => none
  | some 0xffff => none
  | some 0x7fff =>
    ((dword record 0x1c).filter fun v => decide (v &&& 0x80000000 = 0 ∧ 0 < v)).map fun v => v * 1024 * 1024
  | some v => if v &&& 0x8000 ≠ 0 then some ((v &&& 0x7fff) * 1024) else some (v * 1024 * 1024)

/-- The module of a record. -/
def decode (record : List UInt8) (strings : List (List UInt8)) : Except Panic MemoryModule := do
  let memoryType ← index record 0x12
  let formFactorByte ← index record 0x0e
  return {
    id := moduleId ((word record 2).getD 0)
    locator := string limits record strings 0x10
    model := string limits record strings 0x1a
    vendor := string limits record strings 0x17
    memoryType := NativeInventory.memoryType memoryType.toNat
    moduleVersion := string limits record strings 0x2b
    formFactor := formFactor formFactorByte.toNat
    capacityBytes := capacityBytes record
    speedMtS := speed record 0x15 0x54
    configuredSpeedMtS := speed record 0x20 0x58
    reportedSpeed := none
    source := "linux-smbios" }

/-- What a turn of the loop leaves: an end of it, or how far the cursor moves. -/
inductive Turn
  | stop (modules : List MemoryModule) (failure : Option CapabilityErrorKind)
  | next (modules : List MemoryModule) (failure : Option CapabilityErrorKind) (length : Nat)

/-- `word(record, 0x0c) != Some(0) && record[0x12] != 0x1f` -/
def populated (record : List UInt8) : Except Panic Bool :=
  if word record 0x0c ≠ some 0 then (index record 0x12).map fun b => decide (b ≠ 0x1f) else .ok false

/-- The turn for a complete record of type 17. -/
def memoryDevice (record tail : List UInt8) (stop : Nat) (modules : List MemoryModule)
    (failure : Option CapabilityErrorKind) : Except Panic Turn := do
  let next := record.length + stop + 2
  if record.length < 0x15 then return .next modules (some .invalidData) next
  else if ← populated record then
    let strings := (← upTo tail stop).splitOn 0
    let modules := modules ++ [← decode limits record strings]
    if modules.length = limits.maxMemoryModules then return .stop modules failure
    else return .next modules failure next
  else return .next modules failure next

/-- A turn of the loop, with the bytes from the cursor on. -/
def step (bytes : List UInt8) (modules : List MemoryModule) (failure : Option CapabilityErrorKind) :
    Except Panic Turn := do
  match get bytes 0 4 with
  | none => return .stop modules (some .invalidData)
  | some header =>
    let length := (← index header 1).toNat
    if length < 4 then return .stop modules (some .invalidData)
    else
      match get bytes 0 length with
      | none => return .stop modules (some .invalidData)
      | some record =>
        let tail ← tailFrom bytes length
        match doubleNul tail with
        | none => return .stop modules (some .invalidData)
        | some stop =>
          let kind ← index header 0
          if kind = 127 then return .stop modules failure
          else if kind = 17 then memoryDevice limits record tail stop modules failure
          else return .next modules failure (length + stop + 2)

/-! ## In bounds -/

variable {limits}

theorem index_of_get {bytes : List UInt8} {i : Nat} {b : UInt8} (h : bytes[i]? = some b) : index bytes i = .ok b := by
  rw [index, h]
  rfl

theorem exists_index {bytes : List UInt8} {i : Nat} (h : i < bytes.length) :
    ∃ b, bytes[i]? = some b ∧ index bytes i = .ok b :=
  ⟨bytes[i], List.getElem?_eq_getElem h, index_of_get (List.getElem?_eq_getElem h)⟩

theorem exists_decode {record : List UInt8} (strings : List (List UInt8)) (h : 0x15 ≤ record.length) :
    ∃ m, decode limits record strings = .ok m := by
  obtain ⟨memoryType, -, htype⟩ := @exists_index record 0x12 (by omega)
  obtain ⟨formFactor, -, hform⟩ := @exists_index record 0x0e (by omega)
  unfold decode
  rw [htype, hform]
  exact ⟨_, rfl⟩

theorem exists_populated {record : List UInt8} (h : 0x15 ≤ record.length) : ∃ b, populated record = .ok b := by
  obtain ⟨memoryType, -, htype⟩ := @exists_index record 0x12 (by omega)
  unfold populated
  split
  · rw [htype]
    exact ⟨_, rfl⟩
  · exact ⟨_, rfl⟩

/-- The first two zeros next to each other are within the bytes. -/
theorem doubleNul_le {bytes : List UInt8} {stop : Nat} (h : doubleNul bytes = some stop) : stop + 2 ≤ bytes.length := by
  induction bytes using doubleNul.induct generalizing stop with
  | case1 a b rest hzero =>
    rw [doubleNul, if_pos hzero] at h
    cases h
    simp
  | case2 a b rest hzero ih =>
    rw [doubleNul, if_neg hzero] at h
    obtain ⟨k, hk, rfl⟩ := Option.map_eq_some_iff.mp h
    have hle := ih hk
    simp only [List.length_cons] at hle ⊢
    omega
  | case3 bytes hshort =>
    rw [doubleNul] at h
    · cases h
    · exact hshort

/-- A turn for a memory device reads in bounds, and does not move the cursor less than the record is long. -/
theorem exists_memoryDevice {record tail : List UInt8} {stop : Nat} (hstop : doubleNul tail = some stop)
    (modules : List MemoryModule) (failure : Option CapabilityErrorKind) :
    ∃ turn, memoryDevice limits record tail stop modules failure = .ok turn ∧
      ∀ modules' failure' length, turn = .next modules' failure' length → length = record.length + stop + 2 := by
  unfold memoryDevice
  split
  · exact ⟨_, rfl, fun modules' failure' length h => by cases h; rfl⟩
  next hlong =>
  obtain ⟨b, hb⟩ := @exists_populated record (by omega)
  obtain ⟨m, hm⟩ := @exists_decode limits record ((tail.take stop).splitOn 0) (by omega)
  have htail : upTo tail stop = .ok (tail.take stop) := if_pos (by have := doubleNul_le hstop; omega)
  cases b with
  | false =>
    rw [hb]
    exact ⟨_, rfl, fun modules' failure' length h => by cases h; rfl⟩
  | true =>
    rw [hb]
    simp only [bind, Except.bind, htail, hm, if_true]
    split
    · exact ⟨_, rfl, fun modules' failure' length h => by cases h⟩
    · exact ⟨_, rfl, fun modules' failure' length h => by cases h; rfl⟩

/-- The bytes begin with a complete structure: its formatted area, as long as it says, and what ends its strings. -/
structure Complete (bytes : List UInt8) (kind : UInt8) (record tail : List UInt8) (stop : Nat) : Prop where
  split : bytes = record ++ tail
  header : 4 ≤ record.length
  kind : record[0]? = some kind
  length : record[1]?.map UInt8.toNat = some record.length
  stop : doubleNul tail = some stop

theorem get_zero {bytes : List UInt8} {n : Nat} (h : n ≤ bytes.length) : get bytes 0 n = some (bytes.take n) := by
  rw [get, if_pos (by omega), List.drop_zero]

theorem get_zero_none {bytes : List UInt8} {n : Nat} (h : bytes.length < n) : get bytes 0 n = none := by
  rw [get, if_neg (by omega)]

theorem step_complete {bytes record tail : List UInt8} {kind : UInt8} {stop : Nat}
    (h : Complete bytes kind record tail stop) (modules : List MemoryModule) (failure : Option CapabilityErrorKind) :
    step limits bytes modules failure =
      if kind = 127 then .ok (.stop modules failure)
      else if kind = 17 then memoryDevice limits record tail stop modules failure
      else .ok (.next modules failure (record.length + stop + 2)) := by
  obtain ⟨rfl, hheader, hkind, hlength, hstop⟩ := h
  obtain ⟨b, hb, hlen⟩ := Option.map_eq_some_iff.mp hlength
  have htake : (record ++ tail).take 4 = record.take 4 := List.take_append_of_le_length hheader
  have hone : index (record.take 4) 1 = .ok b := index_of_get (by rw [List.getElem?_take_of_lt (by omega), hb])
  have hzero : index (record.take 4) 0 = .ok kind := index_of_get (by rw [List.getElem?_take_of_lt (by omega), hkind])
  have hrecord : get (record ++ tail) 0 record.length = some record := by
    rw [get_zero (by simp), List.take_left']
    rfl
  have htail : tailFrom (record ++ tail) record.length = .ok tail := by
    rw [tailFrom, if_pos (by simp), List.drop_left']
    rfl
  unfold step
  rw [get_zero (by simp; omega), htake]
  simp only [hone, bind, Except.bind, hlen, if_neg (show ¬ record.length < 4 by omega), hrecord, htail, hstop, hzero]
  rfl

theorem step_incomplete {bytes : List UInt8} (h : ∀ kind record tail stop, ¬ Complete bytes kind record tail stop)
    (modules : List MemoryModule) (failure : Option CapabilityErrorKind) :
    step limits bytes modules failure = .ok (.stop modules (some .invalidData)) := by
  unfold step
  by_cases hheader : bytes.length < 4
  · rw [get_zero_none hheader]
    rfl
  rw [get_zero (by omega)]
  obtain ⟨b, hb, hone⟩ := @exists_index (bytes.take 4) 1 (by rw [List.length_take]; omega)
  obtain ⟨kind, hkind, hzero⟩ := @exists_index (bytes.take 4) 0 (by rw [List.length_take]; omega)
  rw [List.getElem?_take_of_lt (by omega)] at hb hkind
  simp only [hone, bind, Except.bind]
  split
  · rfl
  next hfour =>
  by_cases hlong : bytes.length < b.toNat
  · rw [get_zero_none hlong]
    rfl
  rw [get_zero (by omega)]
  simp only [tailFrom, if_pos (show b.toNat ≤ bytes.length by omega)]
  cases hstop : doubleNul (bytes.drop b.toNat) with
  | none => rfl
  | some stop =>
    have hlen : (bytes.take b.toNat).length = b.toNat := by rw [List.length_take]; omega
    refine absurd ⟨(List.take_append_drop b.toNat bytes).symm, by omega, ?_, ?_, hstop⟩
      (h kind (bytes.take b.toNat) (bytes.drop b.toNat) stop)
    · rw [List.getElem?_take_of_lt (by omega), hkind]
    · rw [List.getElem?_take_of_lt (by omega), hb, hlen]
      rfl

/-- Every turn reads in bounds; where the loop goes on, the cursor has moved. -/
theorem exists_step (bytes : List UInt8) (modules : List MemoryModule) (failure : Option CapabilityErrorKind) :
    ∃ turn, step limits bytes modules failure = .ok turn ∧
      ∀ modules' failure' length, turn = .next modules' failure' length → 0 < length := by
  by_cases h : ∃ kind record tail stop, Complete bytes kind record tail stop
  · obtain ⟨kind, record, tail, stop, hcomplete⟩ := h
    rw [step_complete hcomplete]
    split
    · exact ⟨_, rfl, fun modules' failure' length h => by cases h⟩
    split
    · obtain ⟨turn, hturn, hnext⟩ := exists_memoryDevice hcomplete.stop modules failure
      refine ⟨turn, hturn, fun modules' failure' length h => ?_⟩
      have hlength := hnext modules' failure' length h
      omega
    · exact ⟨_, rfl, fun modules' failure' length h => by cases h; omega⟩
  · have hnone : ∀ kind record tail stop, ¬ Complete bytes kind record tail stop :=
      fun kind record tail stop hcomplete => h ⟨kind, record, tail, stop, hcomplete⟩
    exact ⟨_, step_incomplete hnone modules failure, fun modules' failure' length h => by cases h⟩

theorem step_moves {bytes : List UInt8} {modules modules' : List MemoryModule}
    {failure failure' : Option CapabilityErrorKind} {length : Nat}
    (h : step limits bytes modules failure = .ok (.next modules' failure' length)) : 0 < length := by
  obtain ⟨turn, hturn, hnext⟩ := @exists_step limits bytes modules failure
  rw [h] at hturn
  exact hnext modules' failure' length (Except.ok.inj hturn).symm

/-! ## The loop -/

variable (limits)

/-- The loop, with the bytes from the cursor on. -/
def loop (bytes : List UInt8) (modules : List MemoryModule) (failure : Option CapabilityErrorKind) :
    Except Panic (List MemoryModule × Option CapabilityErrorKind) :=
  match bytes with
  | [] => .ok (modules, failure)
  | b :: rest =>
    match _h : step limits (b :: rest) modules failure with
    | .error panic => .error panic
    | .ok (.stop modules failure) => .ok (modules, failure)
    | .ok (.next modules failure length) => loop ((b :: rest).drop length) modules failure
termination_by bytes.length
decreasing_by
  have hpos := step_moves _h
  rw [List.length_drop, List.length_cons]
  omega

/-- `parse` -/
def parse (bytes : List UInt8) : Except Panic (List MemoryModule × Option CapabilityErrorKind) := do
  let (modules, failure) ← loop limits bytes [] none
  return (dedupAdjacent MemoryModule.id (sortBy (fun m => textKey m.id) modules), failure)

variable {limits}

theorem loop_stop {bytes : List UInt8} {modules modules' : List MemoryModule}
    {failure failure' : Option CapabilityErrorKind} (hbytes : bytes ≠ [])
    (h : step limits bytes modules failure = .ok (.stop modules' failure')) :
    loop limits bytes modules failure = .ok (modules', failure') := by
  cases bytes with
  | nil => exact absurd rfl hbytes
  | cons b rest =>
    rw [loop]
    split
    · next panic hstep => rw [h] at hstep; cases hstep
    · next hstep => rw [h] at hstep; cases hstep; rfl
    · next hstep => rw [h] at hstep; cases hstep

theorem loop_next {bytes : List UInt8} {modules modules' : List MemoryModule}
    {failure failure' : Option CapabilityErrorKind} {length : Nat} (hbytes : bytes ≠ [])
    (h : step limits bytes modules failure = .ok (.next modules' failure' length)) :
    loop limits bytes modules failure = loop limits (bytes.drop length) modules' failure' := by
  cases bytes with
  | nil => exact absurd rfl hbytes
  | cons b rest =>
    rw [loop]
    split
    · next panic hstep => rw [h] at hstep; cases hstep
    · next hstep => rw [h] at hstep; cases hstep
    · next hstep => rw [h] at hstep; cases hstep; rfl

theorem exists_loop (bytes : List UInt8) (modules : List MemoryModule) (failure : Option CapabilityErrorKind) :
    ∃ result, loop limits bytes modules failure = .ok result := by
  induction hn : bytes.length using Nat.strong_induction_on generalizing bytes modules failure with
  | _ n ih =>
    subst hn
    by_cases hbytes : bytes = []
    · subst hbytes
      exact ⟨(modules, failure), by rw [loop]⟩
    obtain ⟨turn, hturn, hmoves⟩ := @exists_step limits bytes modules failure
    cases turn with
    | stop modules' failure' => exact ⟨_, loop_stop hbytes hturn⟩
    | next modules' failure' length =>
      rw [loop_next hbytes hturn]
      refine ih _ ?_ _ modules' failure' rfl
      have hpos := hmoves modules' failure' length rfl
      have hlen : 0 < bytes.length := List.length_pos_iff.mpr hbytes
      rw [List.length_drop]
      omega

/-- No read of the code is out of bounds. -/
theorem exists_parse (bytes : List UInt8) : ∃ result, parse limits bytes = .ok result := by
  obtain ⟨result, hresult⟩ := @exists_loop limits bytes [] none
  unfold parse
  rw [hresult]
  exact ⟨_, rfl⟩

end

/-! ## Structures -/

/-- A well-formed structure: its formatted area is as long as a byte can say, and as long as its type asks for, and its
strings are none that the set could not hold. -/
structure Structure where
  kind : UInt8
  handle : UInt16
  /-- The formatted area behind type, length and handle. -/
  body : List UInt8
  strings : List (List UInt8)
  fits : body.length + 4 ≤ 255
  complete : kind = 17 → 0x15 ≤ body.length + 4
  named : ∀ s ∈ strings, s ≠ [] ∧ 0 ∉ s

/-- Each string with a zero behind it, and one more. -/
def stringTail : List (List UInt8) → List UInt8
  | [] => [0]
  | s :: strings => s ++ 0 :: stringTail strings

/-- A set without strings is two zeros. -/
def stringSet (strings : List (List UInt8)) : List UInt8 := if strings = [] then [0, 0] else stringTail strings

namespace Structure

def record (s : Structure) : List UInt8 :=
  s.kind :: UInt8.ofNat (s.body.length + 4) :: UInt8.ofNat (s.handle.toNat % 256) ::
    UInt8.ofNat (s.handle.toNat / 256) :: s.body

def encode (s : Structure) : List UInt8 := s.record ++ stringSet s.strings

/-- The memory device is there, and not of a type that is none. -/
def Populated (s : Structure) : Prop := s.kind = 17 ∧ word s.record 0x0c ≠ some 0 ∧ s.record[0x12]? ≠ some 0x1f

theorem length_record (s : Structure) : s.record.length = s.body.length + 4 := rfl

instance (s : Structure) : Decidable s.Populated := inferInstanceAs (Decidable (_ ∧ _ ∧ _))

end Structure

/-- A table of structures. -/
def table (structures : List Structure) : List UInt8 := structures.flatMap Structure.encode

section

variable (limits : Limits)

namespace Structure

/-- The string that the byte at an offset refers to: none by a zero, or by a number that the set does not have. -/
def string (s : Structure) (offset : Nat) : Option String := do
  let number ← s.record[offset]?
  let bytes ← if number = 0 then none else s.strings[number.toNat - 1]?
  NativeInventory.firmwareText limits (fromUtf8Lossy bytes)

/-- The size of the module. The highest bit of the word tells kilobytes from megabytes; two of its values stand for an
unknown size and for the extended size, whose highest bit is reserved. -/
def capacity (s : Structure) : Option Nat := do
  let size ← word s.record 0x0c
  if size = 0xffff then none
  else if size = 0x7fff then
    let extended ← dword s.record 0x1c
    if 0 < extended ∧ extended < 2 ^ 31 then some (extended * 2 ^ 20) else none
  else if 2 ^ 15 ≤ size then some ((size - 2 ^ 15) * 2 ^ 10)
  else some (size * 2 ^ 20)

/-- The module that the structure describes. -/
def memoryModule (s : Structure) : MemoryModule where
  id := moduleId s.handle.toNat
  locator := s.string limits 0x10
  model := s.string limits 0x1a
  vendor := s.string limits 0x17
  memoryType := s.record[0x12]?.bind fun b => NativeInventory.memoryType b.toNat
  moduleVersion := s.string limits 0x2b
  formFactor := s.record[0x0e]?.bind fun b => formFactor b.toNat
  capacityBytes := s.capacity
  speedMtS := speed s.record 0x15 0x54
  configuredSpeedMtS := speed s.record 0x20 0x58
  reportedSpeed := none
  source := "linux-smbios"

end Structure

end

/-! ## The strings of a structure -/

theorem doubleNul_cons_of_ne {a : UInt8} (ha : a ≠ 0) (bytes : List UInt8) :
    doubleNul (a :: bytes) = (doubleNul bytes).map (· + 1) := by
  cases bytes with
  | nil => rfl
  | cons b rest => rw [doubleNul, if_neg fun h => ha h.1]

theorem doubleNul_append_zero {s : List UInt8} (hs : 0 ∉ s) (rest : List UInt8) :
    doubleNul (s ++ 0 :: 0 :: rest) = some s.length := by
  induction s with
  | nil => rfl
  | cons a s ih =>
    rw [List.mem_cons, not_or] at hs
    rw [List.cons_append, doubleNul_cons_of_ne (Ne.symm hs.1), ih hs.2]
    rfl

theorem doubleNul_append_ne {s : List UInt8} (hs : 0 ∉ s) {b : UInt8} (hb : b ≠ 0) (rest : List UInt8) :
    doubleNul (s ++ 0 :: b :: rest) = (doubleNul (b :: rest)).map (· + (s.length + 1)) := by
  induction s with
  | nil => rw [List.nil_append, doubleNul, if_neg fun h => hb h.2]; rfl
  | cons a s ih =>
    rw [List.mem_cons, not_or] at hs
    rw [List.cons_append, doubleNul_cons_of_ne (Ne.symm hs.1), ih hs.2, Option.map_map]
    rfl

/-- Before the first two zeros next to each other there are no others. -/
theorem doubleNul_take {bytes : List UInt8} {stop m : Nat} (h : doubleNul bytes = some stop) (hm : m < stop + 2) :
    doubleNul (bytes.take m) = none := by
  induction bytes using doubleNul.induct generalizing stop m with
  | case1 a b rest hzero =>
    rw [doubleNul, if_pos hzero] at h
    cases h
    obtain rfl | rfl : m = 0 ∨ m = 1 := by omega
    · rfl
    · rfl
  | case2 a b rest hzero ih =>
    rw [doubleNul, if_neg hzero] at h
    obtain ⟨k, hk, rfl⟩ := Option.map_eq_some_iff.mp h
    match m with
    | 0 => rfl
    | 1 => rfl
    | m + 2 =>
      have hrest := @ih k (m + 1) hk (by omega)
      rw [List.take_succ_cons] at hrest
      rw [List.take_succ_cons, List.take_succ_cons, doubleNul, if_neg hzero, hrest]
      rfl
  | case3 bytes hshort =>
    rw [doubleNul] at h
    · cases h
    · exact hshort

/-- The strings of a set that has some, up to the two zeros behind them. -/
theorem stringTail_spec {strings : List (List UInt8)} (hsome : strings ≠ []) (hnamed : ∀ s ∈ strings, s ≠ [] ∧ 0 ∉ s)
    (rest : List UInt8) : ∃ stop, doubleNul (stringTail strings ++ rest) = some stop ∧
      stop + 2 = (stringTail strings).length ∧ (stringTail strings).take stop = [0].intercalate strings := by
  induction strings with
  | nil => exact absurd rfl hsome
  | cons s strings ih =>
    obtain ⟨hne, hfree⟩ := hnamed s List.mem_cons_self
    cases strings with
    | nil =>
      refine ⟨s.length, ?_, by simp [stringTail], by simp [stringTail]⟩
      show doubleNul ((s ++ [0, 0]) ++ rest) = _
      rw [List.append_assoc]
      exact doubleNul_append_zero hfree rest
    | cons t strings =>
      obtain ⟨stop, hstop, hlen, htake⟩ := ih (by simp) fun u hu => hnamed u (List.mem_cons_of_mem s hu)
      obtain ⟨hne', hfree'⟩ := hnamed t (by simp)
      obtain ⟨b, t', rfl⟩ := List.exists_cons_of_ne_nil hne'
      have hb : b ≠ 0 := by
        rintro rfl
        exact hfree' List.mem_cons_self
      refine ⟨stop + (s.length + 1), ?_, ?_, ?_⟩
      · show doubleNul ((s ++ 0 :: stringTail ((b :: t') :: strings)) ++ rest) = _
        rw [List.append_assoc, List.cons_append]
        show doubleNul (s ++ 0 :: b :: _) = _
        rw [doubleNul_append_ne hfree hb]
        show (doubleNul (stringTail ((b :: t') :: strings) ++ rest)).map _ = _
        rw [hstop]
        rfl
      · show _ = (s ++ 0 :: stringTail ((b :: t') :: strings)).length
        rw [List.length_append, List.length_cons, ← hlen]
        omega
      · show (s ++ 0 :: stringTail ((b :: t') :: strings)).take _ = _
        rw [List.take_append, List.take_of_length_le (by omega),
          show stop + (s.length + 1) - s.length = stop + 1 by omega,
          List.take_succ_cons, htake, List.intercalate_cons_cons]
        simp

/-- What the code makes of the strings: for a set without strings an empty one. -/
def splitStrings (strings : List (List UInt8)) : List (List UInt8) := if strings = [] then [[]] else strings

theorem stringSet_spec {strings : List (List UInt8)} (hnamed : ∀ s ∈ strings, s ≠ [] ∧ 0 ∉ s) (rest : List UInt8) :
    ∃ stop, doubleNul (stringSet strings ++ rest) = some stop ∧ stop + 2 = (stringSet strings).length ∧
      ((stringSet strings ++ rest).take stop).splitOn 0 = splitStrings strings := by
  unfold stringSet splitStrings
  by_cases h : strings = []
  · rw [if_pos h, if_pos h]
    exact ⟨0, rfl, rfl, rfl⟩
  · rw [if_neg h, if_neg h]
    obtain ⟨stop, hstop, hlen, htake⟩ := stringTail_spec h hnamed rest
    refine ⟨stop, hstop, hlen, ?_⟩
    rw [List.take_append_of_le_length (by omega), htake]
    exact List.splitOn_intercalate 0 (fun s hs => (hnamed s hs).2) h

/-! ## A structure at a time -/

theorem word_lt {record : List UInt8} {offset v : Nat} (h : word record offset = some v) : v < 2 ^ 16 := by
  obtain ⟨bytes, hget, rfl⟩ := Option.map_eq_some_iff.mp h
  unfold get at hget
  split at hget
  · cases hget
    have hlt := fromLeBytes_lt ((record.drop offset).take 2)
    rw [List.length_take, List.length_drop, Nat.min_eq_left (by omega)] at hlt
    exact hlt
  · cases hget

theorem dword_lt {record : List UInt8} {offset v : Nat} (h : dword record offset = some v) : v < 2 ^ 32 := by
  obtain ⟨bytes, hget, rfl⟩ := Option.map_eq_some_iff.mp h
  unfold get at hget
  split at hget
  · cases hget
    have hlt := fromLeBytes_lt ((record.drop offset).take 4)
    rw [List.length_take, List.length_drop, Nat.min_eq_left (by omega)] at hlt
    exact hlt
  · cases hget

/-- The highest bit of a number that has one more. -/
theorem and_highest {v n : Nat} (h : v < 2 ^ (n + 1)) : v &&& 2 ^ n ≠ 0 ↔ 2 ^ n ≤ v := by
  rw [Nat.and_two_pow, Nat.testBit_eq_decide_div_mod_eq]
  have hpow : 2 ^ (n + 1) = 2 * 2 ^ n := by rw [Nat.pow_succ, Nat.mul_comm]
  have hpos : 0 < 2 ^ n := Nat.two_pow_pos n
  by_cases hle : 2 ^ n ≤ v
  · have hdiv : v / 2 ^ n = 1 := by
      rw [Nat.div_eq_iff hpos]
      omega
    simp [hdiv, hle]
  · rw [Nat.div_eq_of_lt (by omega)]
    simp only [Nat.zero_mod, zero_ne_one, decide_false, Bool.toNat_false, Nat.zero_mul, ne_eq, not_true_eq_false, hle]

section

variable {limits : Limits}

theorem capacityBytes_record (s : Structure) : capacityBytes s.record = s.capacity := by
  unfold capacityBytes Structure.capacity
  cases hsize : word s.record 0x0c with
  | none => rfl
  | some v =>
    have hlt := word_lt hsize
    simp only [Option.bind_eq_bind, Option.bind_some]
    by_cases hunknown : v = 0xffff
    · subst hunknown
      rfl
    by_cases hextended : v = 0x7fff
    · subst hextended
      rw [if_neg hunknown, if_pos rfl]
      cases hdword : dword s.record 0x1c with
      | none => rfl
      | some w =>
        have hw := dword_lt hdword
        have hbit : w &&& 0x80000000 = 0 ↔ w < 2 ^ 31 := by
          rw [← not_iff_not, not_lt]
          exact and_highest hw
        have hfilter : (some w).filter (fun v => decide (v &&& 0x80000000 = 0 ∧ 0 < v)) =
            if 0 < w ∧ w < 2 ^ 31 then some w else none := by
          simp [Option.filter, hbit, and_comm]
        show ((some w).filter fun v => decide (v &&& 0x80000000 = 0 ∧ 0 < v)).map (fun v => v * 1024 * 1024) =
          if 0 < w ∧ w < 2 ^ 31 then some (w * 2 ^ 20) else none
        rw [hfilter]
        split
        · rw [Option.map_some, Nat.mul_assoc]
          rfl
        · rfl
    rw [if_neg hunknown, if_neg hextended]
    have hbit : v &&& 0x8000 ≠ 0 ↔ 2 ^ 15 ≤ v := and_highest hlt
    by_cases hlarge : 2 ^ 15 ≤ v
    · have hrest : v &&& 0x7fff = v - 2 ^ 15 := by
        rw [show 0x7fff = 2 ^ 15 - 1 from rfl, Nat.and_two_pow_sub_one_eq_mod]
        omega
      rw [if_pos hlarge]
      split
      · next h => cases h
      · next h => cases h; exact absurd rfl hunknown
      · next h => cases h; exact absurd rfl hextended
      · next w hw1 hw2 h =>
        cases h
        rw [if_pos (hbit.mpr hlarge), hrest]
        rfl
    · rw [if_neg hlarge]
      split
      · next h => cases h
      · next h => cases h; exact absurd rfl hunknown
      · next h => cases h; exact absurd rfl hextended
      · next w hw1 hw2 h =>
        cases h
        rw [if_neg fun hbits => hlarge (hbit.mp hbits), Nat.mul_assoc]
        rfl

theorem firmwareText_empty : NativeInventory.firmwareText limits (fromUtf8Lossy []) = none := by
  simp [NativeInventory.firmwareText, Hardware.text, fromUtf8Lossy, utf8Chars, trim, trimEndMatches, truncateUtf8,
    takeBytes]

theorem string_record (s : Structure) (offset : Nat) :
    string limits s.record (splitStrings s.strings) offset = s.string limits offset := by
  unfold string Structure.string
  cases s.record[offset]? with
  | none => rfl
  | some number =>
    simp only [Option.bind_eq_bind, Option.bind_some]
    by_cases hzero : number = 0
    · subst hzero
      rfl
    have hne : number.toNat ≠ 0 := fun h => hzero (UInt8.toNat_inj.mp h)
    rw [if_neg hne, if_neg hzero, splitStrings]
    split
    · next hnone =>
      rw [hnone]
      cases hindex : number.toNat - 1 with
      | zero => exact firmwareText_empty
      | succ k => rfl
    · rfl

theorem word_handle (s : Structure) : word s.record 2 = some s.handle.toNat := by
  have hlt := s.handle.toNat_lt
  have hlow : (UInt8.ofNat (s.handle.toNat % 256)).toNat = s.handle.toNat % 256 := by
    rw [UInt8.toNat_ofNat']
    omega
  have hhigh : (UInt8.ofNat (s.handle.toNat / 256)).toNat = s.handle.toNat / 256 := by
    rw [UInt8.toNat_ofNat']
    omega
  have hget : get s.record 2 2 = some [UInt8.ofNat (s.handle.toNat % 256), UInt8.ofNat (s.handle.toNat / 256)] := by
    rw [get, if_pos (by rw [s.length_record]; omega)]
    rfl
  rw [word, hget, Option.map_some, fromLeBytes]
  simp only [List.map_cons, List.map_nil, Nat.ofDigits_cons, Nat.ofDigits_nil, hlow, hhigh]
  congr 1
  omega

theorem decode_record {s : Structure} (h : 0x15 ≤ s.record.length) :
    decode limits s.record (splitStrings s.strings) = .ok (s.memoryModule limits) := by
  obtain ⟨memoryType, hmemory, htype⟩ := @exists_index s.record 0x12 (by omega)
  obtain ⟨form, hform, hformIndex⟩ := @exists_index s.record 0x0e (by omega)
  unfold decode
  simp only [htype, hformIndex, string_record, capacityBytes_record, word_handle, Structure.memoryModule,
    hmemory, hform,
    Option.bind_some, Option.getD_some]
  rfl

theorem populated_record {s : Structure} (hkind : s.kind = 17) (h : 0x15 ≤ s.record.length) :
    populated s.record = .ok (decide s.Populated) := by
  obtain ⟨memoryType, hmemory, htype⟩ := @exists_index s.record 0x12 (by omega)
  unfold populated
  by_cases hsize : word s.record 0x0c ≠ some 0
  · rw [if_pos hsize, htype]
    simp [Structure.Populated, hkind, hsize, hmemory, Except.map]
  · rw [if_neg hsize]
    simp [Structure.Populated, hsize]

/-- A complete structure is one, whatever comes behind it. -/
theorem complete_encode (s : Structure) (rest : List UInt8) :
    ∃ stop, Complete (s.encode ++ rest) s.kind s.record (stringSet s.strings ++ rest) stop ∧
      s.record.length + stop + 2 = s.encode.length ∧
      ((stringSet s.strings ++ rest).take stop).splitOn 0 = splitStrings s.strings := by
  obtain ⟨stop, hstop, hlen, hsplit⟩ := stringSet_spec s.named rest
  have hfits := s.fits
  refine ⟨stop,
    ⟨by rw [Structure.encode, List.append_assoc], by rw [s.length_record]; omega, rfl, ?_, hstop⟩, ?_, hsplit⟩
  · show some (UInt8.ofNat (s.body.length + 4)).toNat = some (s.body.length + 4)
    rw [UInt8.toNat_ofNat', Nat.mod_eq_of_lt (by omega)]
  · rw [Structure.encode, List.length_append]
    omega

/-- The turn for a structure that does not end the table: its module is found, if it has one, and the cursor moves
behind it. -/
theorem step_encode {s : Structure} (hkind : s.kind ≠ 127) (rest : List UInt8) {modules : List MemoryModule}
    (failure : Option CapabilityErrorKind) (hroom : s.Populated → modules.length + 1 ≠ limits.maxMemoryModules) :
    step limits (s.encode ++ rest) modules failure =
      .ok (.next (if s.Populated then modules ++ [s.memoryModule limits] else modules) failure s.encode.length) := by
  obtain ⟨stop, hcomplete, hlen, hsplit⟩ := complete_encode s rest
  rw [step_complete hcomplete, if_neg hkind]
  by_cases hdevice : s.kind = 17
  · have hlong : 0x15 ≤ s.record.length := s.complete hdevice
    have htail : upTo (stringSet s.strings ++ rest) stop = .ok ((stringSet s.strings ++ rest).take stop) :=
      if_pos (by have := doubleNul_le hcomplete.stop; omega)
    rw [if_pos hdevice, memoryDevice, if_neg (by omega), populated_record hdevice hlong, hlen]
    by_cases hpopulated : s.Populated
    · have hmodules : (modules ++ [s.memoryModule limits]).length ≠ limits.maxMemoryModules := by
        rw [List.length_append, List.length_singleton]
        exact hroom hpopulated
      rw [if_pos hpopulated, decide_eq_true hpopulated]
      simp only [bind, Except.bind, htail, hsplit, decode_record hlong, if_true, if_neg hmodules]
      rfl
    · rw [if_neg hpopulated, decide_eq_false hpopulated]
      rfl
  · have hpopulated : ¬ s.Populated := fun h => hdevice h.1
    rw [if_neg hdevice, if_neg hpopulated, hlen]

/-- The turn for the end of the table. -/
theorem step_end {s : Structure} (hkind : s.kind = 127) (rest : List UInt8) (modules : List MemoryModule)
    (failure : Option CapabilityErrorKind) :
      step limits (s.encode ++ rest) modules failure = .ok (.stop modules failure) := by
  obtain ⟨stop, hcomplete, -, -⟩ := complete_encode s rest
  rw [step_complete hcomplete, if_pos hkind]

/-- A structure that is cut off is not complete. -/
theorem not_complete_cut (s : Structure) {m : Nat} (hm : m < s.encode.length) (kind : UInt8) (record tail : List UInt8)
    (stop : Nat) : ¬ Complete (s.encode.take m) kind record tail stop := by
  rintro ⟨hsplit, hheader, -, hlength, hstop⟩
  have hfits := s.fits
  have hbytes : (s.encode.take m).length = record.length + tail.length := by rw [hsplit, List.length_append]
  rw [List.length_take, Nat.min_eq_left hm.le] at hbytes
  -- the second byte says how long the record is
  have hsecond : (s.encode.take m)[1]? = record[1]? := by
    rw [hsplit, List.getElem?_append_left (by omega)]
  have hrecord : record.length = s.record.length := by
    rw [← hsecond, List.getElem?_take_of_lt (by omega)] at hlength
    have hone : s.encode[1]? = some (UInt8.ofNat (s.body.length + 4)) := rfl
    rw [hone, Option.map_some, UInt8.toNat_ofNat', Nat.mod_eq_of_lt (by omega)] at hlength
    exact (Option.some.inj hlength).symm
  have htail : tail = (stringSet s.strings).take (m - s.record.length) := by
    have hdrop := congrArg (List.drop s.record.length) hsplit
    rw [← hrecord, List.drop_left' rfl, hrecord, List.drop_take, Structure.encode, List.drop_left' rfl] at hdrop
    exact hdrop.symm
  obtain ⟨end', hend, hlen, -⟩ := stringSet_spec s.named []
  rw [List.append_nil] at hend
  have hnone := doubleNul_take hend (show m - s.record.length < end' + 2 by
    rw [Structure.encode, List.length_append] at hm
    omega)
  rw [htail, hnone] at hstop
  cases hstop

/-! ## Tables -/

/-- The memory devices of a table that are there. -/
def found (structures : List Structure) : List Structure := structures.filter fun s => decide s.Populated

theorem encode_ne_nil (s : Structure) (rest : List UInt8) : s.encode ++ rest ≠ [] := by
  rw [Structure.encode, Structure.record]
  exact List.cons_ne_nil _ _

/-- A run over structures that do not end the table finds the modules they describe. -/
theorem loop_table {structures : List Structure} (hkind : ∀ s ∈ structures, s.kind ≠ 127) (rest : List UInt8)
    {modules : List MemoryModule} (failure : Option CapabilityErrorKind)
    (hroom : modules.length + (found structures).length < limits.maxMemoryModules) :
    loop limits (table structures ++ rest) modules failure =
      loop limits rest (modules ++ (found structures).map (Structure.memoryModule limits)) failure := by
  induction structures generalizing modules with
  | nil =>
    show loop limits rest modules failure = loop limits rest (modules ++ []) failure
    rw [List.append_nil]
  | cons s structures ih =>
    have hbytes : table (s :: structures) ++ rest = s.encode ++ (table structures ++ rest) := by
      rw [table, List.flatMap_cons, List.append_assoc]
      rfl
    have hrest := fun t ht => hkind t (List.mem_cons_of_mem s ht)
    rw [hbytes]
    by_cases hpopulated : s.Populated
    · have hfound : found (s :: structures) = s :: found structures :=
        List.filter_cons_of_pos (decide_eq_true hpopulated)
      rw [hfound, List.length_cons] at hroom
      rw [loop_next (encode_ne_nil s _) (step_encode (hkind s List.mem_cons_self) _ failure fun _ => by omega),
        List.drop_left' rfl, if_pos hpopulated,
          ih hrest (by rw [List.length_append, List.length_singleton]; omega), hfound,
        List.map_cons, List.append_assoc, List.singleton_append]
    · have hfound : found (s :: structures) = found structures :=
        List.filter_cons_of_neg (by simpa using hpopulated)
      rw [hfound] at hroom
      rw [loop_next (encode_ne_nil s _)
        (step_encode (hkind s List.mem_cons_self) _ failure fun h => absurd h hpopulated),
        List.drop_left' rfl, if_neg hpopulated, ih hrest hroom, hfound]

/-- The structures before the end of the table. -/
def beforeEnd (structures : List Structure) : List Structure := structures.takeWhile fun s => decide (s.kind ≠ 127)

theorem kind_of_mem_beforeEnd {structures : List Structure} {s : Structure} (h : s ∈ beforeEnd structures) :
    s.kind ≠ 127 := by
  simpa using List.mem_takeWhile_imp h

/-- The loop finds what is before the end of the table, whether there is an end or not. -/
theorem loop_whole {structures : List Structure}
    (hroom : (found (beforeEnd structures)).length < limits.maxMemoryModules) :
    loop limits (table structures) [] none =
      .ok ((found (beforeEnd structures)).map (Structure.memoryModule limits), none) := by
  have hsplit : structures = beforeEnd structures ++ structures.dropWhile fun s => decide (s.kind ≠ 127) :=
    List.takeWhile_append_dropWhile.symm
  have hbytes : table structures =
      table (beforeEnd structures) ++ table (structures.dropWhile fun s => decide (s.kind ≠ 127)) := by
    conv_lhs => rw [hsplit]
    exact List.flatMap_append
  rw [hbytes, loop_table (fun s hs => kind_of_mem_beforeEnd hs) _ none (by simpa using hroom), List.nil_append]
  cases hrest : structures.dropWhile fun s => decide (s.kind ≠ 127) with
  | nil =>
    show loop limits [] _ none = _
    rw [loop]
  | cons s rest =>
    have hkind : s.kind = 127 := by
      have hhead := List.head?_dropWhile_not (fun s => decide (s.kind ≠ 127)) structures
      rw [hrest] at hhead
      simpa using hhead
    show loop limits (s.encode ++ table rest) _ none = _
    exact loop_stop (encode_ne_nil s _) (step_end hkind _ _ _)

theorem take_table {before after : List Structure} {s : Structure} {n : Nat} (hafter : (table before).length < n)
    (hcut : n < (table before).length + s.encode.length) :
    (table (before ++ s :: after)).take n = table before ++ s.encode.take (n - (table before).length) := by
  have hbytes : table (before ++ s :: after) = table before ++ (s.encode ++ table after) := by
    rw [table, List.flatMap_append, List.flatMap_cons]
    rfl
  rw [hbytes, List.take_append, List.take_of_length_le hafter.le, List.take_append_of_le_length (by omega)]

/-- A table that is cut off inside a structure is bad data, and the structures before it are found. -/
theorem loop_cut {before : List Structure} (s : Structure) {m : Nat} (hkind : ∀ t ∈ before, t.kind ≠ 127)
    (hroom : (found before).length < limits.maxMemoryModules) (hpos : 0 < m) (hm : m < s.encode.length) :
    loop limits (table before ++ s.encode.take m) [] none =
      .ok ((found before).map (Structure.memoryModule limits), some .invalidData) := by
  rw [loop_table hkind _ none (by simpa using hroom), List.nil_append]
  refine loop_stop ?_ (step_incomplete (not_complete_cut s hm) _ none)
  intro hnil
  have hlen := congrArg List.length hnil
  rw [List.length_take, List.length_nil] at hlen
  omega

/-! ## The order of the modules -/

theorem toList_moduleId (handle : Nat) : (moduleId handle).toList = "smbios:".toList ++ paddedHex 4 handle :=
  String.toList_ofList

theorem textKey_moduleId (handle : Nat) :
    textKey (moduleId handle) = ("smbios:".toList ++ paddedHex 4 handle).map Char.toNat := by
  have hmark : ∀ c ∈ "smbios:".toList, c.utf8Size = 1 := by decide
  rw [textKey, toList_moduleId]
  apply utf8_toNat
  intro c hc
  rcases List.mem_append.mp hc with hc | hc
  · exact hmark c hc
  · exact utf8Size_of_isLowerHex (isLowerHex_paddedHex hc)

theorem textKey_moduleId_le {m n : Nat} (hm : m < 2 ^ 16) (hn : n < 2 ^ 16) :
    textKey (moduleId m) ≤ textKey (moduleId n) ↔ m ≤ n := by
  have hlt {m n : Nat} (hn : n < 2 ^ 16) (h : m < n) : textKey (moduleId m) < textKey (moduleId n) := by
    rw [textKey_moduleId, textKey_moduleId, List.map_append, List.map_append]
    exact List.append_left_lt (lt_paddedHex h hn)
  constructor
  · intro h
    by_contra hnot
    exact absurd (hlt hm (by omega)) h.not_gt
  · intro h
    rcases Nat.lt_or_eq_of_le h with h | rfl
    · exact (hlt hn h).le
    · exact le_refl _

/-- Where no handle is there twice, the modules are sorted as the handles of their structures, and none is left out. -/
theorem sorted_modules {structures : List Structure} (hdistinct : (structures.map Structure.handle).Nodup) :
    dedupAdjacent MemoryModule.id (sortBy (fun m => textKey m.id) (structures.map (Structure.memoryModule limits))) =
      (sortBy (fun s => s.handle.toNat) structures).map (Structure.memoryModule limits) := by
  have hsort : sortBy (fun m => textKey m.id) (structures.map (Structure.memoryModule limits)) =
      (sortBy (fun s => s.handle.toNat) structures).map (Structure.memoryModule limits) := by
    refine (List.map_insertionSort _ _ _ _ ?_).symm
    intro a _ b _
    exact (textKey_moduleId_le a.handle.toNat_lt b.handle.toNat_lt).symm
  rw [hsort]
  apply dedupAdjacent_eq_self
  rw [List.pairwise_map]
  have hhandles : (sortBy (fun s => s.handle.toNat) structures).Pairwise fun a b => a.handle ≠ b.handle := by
    have hnodup := ((sortBy_perm (fun s : Structure => s.handle.toNat) structures).map
      Structure.handle).nodup_iff.mpr hdistinct
    rwa [List.Nodup, List.pairwise_map] at hnodup
  refine hhandles.imp fun {a b} hne hid => hne ?_
  have hkey := congrArg textKey hid
  have hle := (textKey_moduleId_le a.handle.toNat_lt b.handle.toNat_lt).mp hkey.le
  have hge := (textKey_moduleId_le b.handle.toNat_lt a.handle.toNat_lt).mp hkey.ge
  exact UInt16.toNat_inj.mp (Nat.le_antisymm hle hge)

end

/-- For the table of any well-formed structures, the code finds the modules that the memory devices before the end of
the table describe, in the order of their handles, and no failure. Where the table is cut off inside a structure before
the end, it finds the modules before that structure, and bad data. It stops on every input, and never reads out of
bounds. -/
theorem smbios_decodes (limits : Limits) :
    (∀ structures, ((found (beforeEnd structures)).map Structure.handle).Nodup →
      (found (beforeEnd structures)).length < limits.maxMemoryModules →
      parse limits (table structures) = .ok ((sortBy (fun s => s.handle.toNat) (found (beforeEnd structures))).map
        (Structure.memoryModule limits), none)) ∧
    (∀ before s after n, (∀ t ∈ before, t.kind ≠ 127) → ((found before).map Structure.handle).Nodup →
      (found before).length < limits.maxMemoryModules → (table before).length < n →
      n < (table before).length + s.encode.length →
      parse limits ((table (before ++ s :: after)).take n) =
        .ok ((sortBy (fun s => s.handle.toNat) (found before)).map (Structure.memoryModule limits),
          some .invalidData)) ∧
    ∀ bytes, ∃ modules failure, parse limits bytes = .ok (modules, failure) := by
  refine ⟨fun structures hdistinct hroom => ?_, fun before s after n hkind hdistinct hroom hafter hcut => ?_, ?_⟩
  · unfold parse
    rw [loop_whole hroom, ← sorted_modules hdistinct]
    rfl
  · unfold parse
    rw [take_table hafter hcut, loop_cut s hkind hroom (by omega) (by omega), ← sorted_modules hdistinct]
    rfl
  · intro bytes
    obtain ⟨⟨modules, failure⟩, hparse⟩ := @exists_parse limits bytes
    exact ⟨modules, failure, hparse⟩

/-- A module of 16 GiB in a slot that has a name. -/
def slot (handle : UInt16) : Structure where
  kind := 17
  handle := handle
  body := [0, 0, 0, 0, 64, 0, 64, 0, 0, 64, 9, 0, 1, 0, 26, 0, 0]
  strings := [utf8 "DIMM A".toList]
  fits := by decide
  complete := fun _ => by decide
  named := by decide

def tableEnd : Structure where
  kind := 127
  handle := 9
  body := []
  strings := []
  fits := by decide
  complete := fun h => by cases h
  named := fun _ h => by cases h

/-- Two modules, and a table that is cut off in the second one. -/
theorem smbios_decodes_slots :
    parse roomyLimits (table [slot 2, slot 1, tableEnd]) =
        .ok ((sortBy (fun s => s.handle.toNat) (found (beforeEnd [slot 2, slot 1, tableEnd]))).map
          (Structure.memoryModule roomyLimits), none) ∧
      parse roomyLimits ((table ([slot 2] ++ slot 1 :: [tableEnd])).take 40) =
        .ok ((sortBy (fun s => s.handle.toNat) (found [slot 2])).map (Structure.memoryModule roomyLimits),
          some .invalidData) := by
  obtain ⟨hwhole, hcut, -⟩ := smbios_decodes roomyLimits
  exact ⟨hwhole _ (by decide) (by decide),
    hcut [slot 2] (slot 1) [tableEnd] 40 (by decide) (by decide) (by decide) (by decide) (by decide)⟩

end Smbios

end Xsoc
