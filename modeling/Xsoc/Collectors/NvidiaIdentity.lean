import Mathlib.Data.List.Induction
import Mathlib.Logic.Function.Basic
import Xsoc.Collectors.GpuMerge
import Xsoc.Collectors.Numerals

/-!
# The identifiers of NVIDIA devices

The driver names a device by a UUID and by a locally unique identifier. The two are taken for one device only where
neither of them is named twice.

* `identities`, `lookup` : the code; `Luid` : a locally unique identifier, as the driver writes it;
* `luidId`, `dxgiId` : the same identifier, as the vendor libraries and as DXGI spell it;
* `tally_eq_some_one`, `collect_eq_some` : the counts and the map that the code builds;
* `luidId_injective` : what is spelled alike is the same identifier;
* `nvidia_identities_exact` : the identities are the unambiguous pairs, in the spelling of the others.
-/

set_option autoImplicit false

namespace Xsoc

namespace NvidiaIdentity

/-! ## The code -/

/-- Eight bytes: the low part, and the high part. -/
structure Luid where
  bytes : List UInt8
  size : bytes.length = 8
  deriving DecidableEq

namespace Luid

def zero : Luid := ⟨List.replicate 8 0, rfl⟩

def low (luid : Luid) : UInt32 := UInt32.ofNat (fromLeBytes (luid.bytes.take 4))

def high (luid : Luid) : UInt32 := UInt32.ofNat (fromLeBytes (luid.bytes.drop 4))

end Luid

/-- `luid_{high:08x}_{low:08x}` -/
def luidText (high low : UInt32) : String :=
  String.ofList ("luid_".toList ++ (paddedHex 8 high.toNat ++ '_' :: paddedHex 8 low.toNat))

/-- `luid_id`: the parts as Windows has them. -/
def luidId (low : UInt32) (high : Int32) : String := luidText high.toUInt32 low

/-- The identifier of a DXGI adapter. -/
def dxgiId (low : UInt32) (high : Int32) : String :=
  let luid := (high.toUInt32, low)
  luidText luid.1 luid.2

section

variable {κ ν : Type} [DecidableEq κ]

/-- How often each key was counted. -/
def tally (keys : List κ) : κ → Option Nat :=
  keys.foldl (fun counts key => Function.update counts key (some ((counts key).getD 0 + 1))) fun _ => none

/-- The map of these pairs: of two with one key, the later one. -/
def collect (pairs : List (κ × ν)) : κ → Option ν :=
  pairs.foldl (fun map pair => Function.update map pair.1 (some pair.2)) fun _ => none

end

/-- The readings that name a device. -/
def usable (readings : List (Uuid × Luid)) : List (Uuid × Luid) :=
  readings.filter fun (uuid, luid) => !uuid.isNil && luid != Luid.zero

def identities (readings : List (Uuid × Luid)) : Uuid → Option String :=
  let readings := usable readings
  let uuidCounts := tally (readings.map Prod.fst)
  let luidCounts := tally (readings.map Prod.snd)
  collect ((readings.filter fun (uuid, luid) => uuidCounts uuid == some 1 && luidCounts luid == some 1).map
    fun (uuid, luid) => (uuid, luidText luid.high luid.low))

/-- `lookup`: an NVML device has its UUID behind this mark. -/
def lookup (identities : Uuid → Option String) (nvmlId : String) : Option String :=
  if "GPU-".toList.isPrefixOf nvmlId.toList then (Uuid.parse (nvmlId.toList.drop 4)).bind identities else none

/-! ## The counts and the map -/

section

variable {κ ν α : Type} [DecidableEq κ]

theorem tally_eq (keys : List κ) (key : κ) :
    tally keys key = if keys.count key = 0 then none else some (keys.count key) := by
  unfold tally
  induction keys using List.reverseRecOn with
  | nil => rfl
  | append_singleton keys k ih =>
    rw [List.foldl_append, List.foldl_cons, List.foldl_nil, Function.update_apply, List.count_append,
      List.count_singleton]
    by_cases h : key = k
    · subst h
      rw [if_pos rfl, ih]
      by_cases hzero : keys.count key = 0 <;> simp [hzero]
    · rw [if_neg h, ih, beq_false_of_ne (Ne.symm h)]
      rfl

theorem tally_eq_some_one {keys : List κ} {key : κ} : tally keys key = some 1 ↔ keys.count key = 1 := by
  rw [tally_eq]
  by_cases h : keys.count key = 0 <;> simp [h]

theorem mem_of_collect {pairs : List (κ × ν)} {key : κ} {value : ν} (h : collect pairs key = some value) :
    (key, value) ∈ pairs := by
  unfold collect at h
  induction pairs using List.reverseRecOn with
  | nil => cases h
  | append_singleton pairs pair ih =>
    rw [List.foldl_append, List.foldl_cons, List.foldl_nil, Function.update_apply] at h
    by_cases hkey : key = pair.1
    · rw [if_pos hkey] at h
      cases h
      rw [hkey]
      exact List.mem_append_right _ (List.mem_singleton_self _)
    · rw [if_neg hkey] at h
      exact List.mem_append_left _ (ih h)

theorem collect_of_mem {pairs : List (κ × ν)} {key : κ} {value : ν} (h : (key, value) ∈ pairs) :
    ∃ value, collect pairs key = some value := by
  unfold collect
  induction pairs using List.reverseRecOn with
  | nil => cases h
  | append_singleton pairs pair ih =>
    rw [List.foldl_append, List.foldl_cons, List.foldl_nil, Function.update_apply]
    by_cases hkey : key = pair.1
    · exact ⟨pair.2, if_pos hkey⟩
    · rw [if_neg hkey]
      rcases List.mem_append.mp h with h | h
      · exact ih h
      · exact absurd (congrArg Prod.fst (List.mem_singleton.mp h)) hkey

/-- Of two elements of a list with one key, which is counted once, both are the same. -/
theorem eq_of_count_eq_one {xs : List α} {f : α → κ} {x y : α} (hx : x ∈ xs) (hy : y ∈ xs) (hf : f y = f x)
    (hcount : (xs.map f).count (f x) = 1) : y = x := by
  obtain ⟨before, after, rfl⟩ := List.append_of_mem hx
  rw [List.map_append, List.map_cons, List.count_append, List.count_cons_self] at hcount
  have hbefore : f x ∉ before.map f := List.count_eq_zero.mp (by omega)
  have hafter : f x ∉ after.map f := List.count_eq_zero.mp (by omega)
  rcases List.mem_append.mp hy with hy | hy
  · exact absurd (hf ▸ List.mem_map_of_mem hy) hbefore
  · rcases List.mem_cons.mp hy with rfl | hy
    · rfl
    · exact absurd (hf ▸ List.mem_map_of_mem hy) hafter

/-- A map whose keys are counted once has just the pairs that it was made from. -/
theorem collect_eq_some {pairs : List (κ × ν)} {key : κ} {value : ν}
    (hcount : ∀ pair ∈ pairs, (pairs.map Prod.fst).count pair.1 = 1) :
    collect pairs key = some value ↔ (key, value) ∈ pairs := by
  constructor
  · exact mem_of_collect
  · intro h
    obtain ⟨other, hother⟩ := collect_of_mem h
    have hsame : ((key, other) : κ × ν) = (key, value) :=
      eq_of_count_eq_one h (mem_of_collect hother) rfl (hcount _ h)
    rw [hother, (Prod.mk.inj hsame).2]

end

/-! ## The spelling of an identifier -/

theorem lt_width (n : UInt32) : n.toNat < 16 ^ 8 := n.toNat_lt

theorem luidText_injective {high low high' low' : UInt32} (h : luidText high low = luidText high' low') :
    high = high' ∧ low = low' := by
  have hlist := String.ofList_injective h
  have htail := List.append_cancel_left hlist
  have hlen : (paddedHex 8 high.toNat).length = (paddedHex 8 high'.toNat).length := by
    rw [length_paddedHex (by omega) (lt_width high), length_paddedHex (by omega) (lt_width high')]
  obtain ⟨hhigh, hlow⟩ := List.append_inj htail hlen
  exact ⟨UInt32.toNat_inj.mp (paddedHex_injective hhigh),
    UInt32.toNat_inj.mp (paddedHex_injective (List.cons.inj hlow).2)⟩

/-- The same text is the same identifier. -/
theorem luidId_injective {low low' : UInt32} {high high' : Int32} (h : luidId low high = luidId low' high') :
    low = low' ∧ high = high' := by
  obtain ⟨hhigh, hlow⟩ := luidText_injective h
  refine ⟨hlow, ?_⟩
  rw [← Int32.toInt32_toUInt32 high, hhigh, Int32.toInt32_toUInt32]

theorem Luid.ext_parts {luid luid' : Luid} (hlow : luid.low = luid'.low) (hhigh : luid.high = luid'.high) :
    luid = luid' := by
  have hpart {as bs : List UInt8} (ha : as.length = 4) (hb : bs.length = 4)
      (h : UInt32.ofNat (fromLeBytes as) = UInt32.ofNat (fromLeBytes bs)) : as = bs := by
    have hlt (cs : List UInt8) (hc : cs.length = 4) : fromLeBytes cs < 2 ^ 32 := by
      have hbound := fromLeBytes_lt cs
      rwa [hc] at hbound
    have hnat := congrArg UInt32.toNat h
    rw [UInt32.toNat_ofNat', UInt32.toNat_ofNat', Nat.mod_eq_of_lt (hlt as ha), Nat.mod_eq_of_lt (hlt bs hb)] at hnat
    exact fromLeBytes_injective (ha.trans hb.symm) hnat
  obtain ⟨bytes, size⟩ := luid
  obtain ⟨bytes', size'⟩ := luid'
  have htake : bytes.take 4 = bytes'.take 4 := hpart (by simp [size]) (by simp [size']) hlow
  have hdrop : bytes.drop 4 = bytes'.drop 4 := hpart (by simp [size]) (by simp [size']) hhigh
  rw [Luid.mk.injEq, ← List.take_append_drop 4 bytes, htake, hdrop, List.take_append_drop]

theorem isAsciiHexdigit_of_isLowerHex {c : Char} (h : isLowerHex c = true) : isAsciiHexdigit c = true := by
  rw [isAsciiHexdigit, Bool.or_eq_true]
  exact Or.inl h

theorem not_separator {c : Char} (h : isLowerHex c = true) : decide (c ≠ '_') = true := by
  rw [decide_eq_true_eq]
  rintro rfl
  cases h

theorem toList_luidText (high low : UInt32) :
    (luidText high low).toList = "luid_".toList ++ (paddedHex 8 high.toNat ++ '_' :: paddedHex 8 low.toNat) :=
  String.toList_ofList

theorem isLuid_luidText (high low : UInt32) : isLuid (luidText high low) = true := by
  have hhex (n : UInt32) {c : Char} (hc : c ∈ paddedHex 8 n.toNat) : isLowerHex c = true := isLowerHex_paddedHex hc
  have htake : (paddedHex 8 high.toNat ++ '_' :: paddedHex 8 low.toNat).takeWhile (· ≠ '_') =
      paddedHex 8 high.toNat := by
    rw [List.takeWhile_append_of_pos fun c hc => not_separator (hhex high hc)]
    simp
  have hdrop : (paddedHex 8 high.toNat ++ '_' :: paddedHex 8 low.toNat).dropWhile (· ≠ '_') =
      '_' :: paddedHex 8 low.toNat := by
    rw [List.dropWhile_append_of_pos fun c hc => not_separator (hhex high hc)]
    simp
  have hpart (n : UInt32) :
      (byteLen (paddedHex 8 n.toNat) == 8 && (paddedHex 8 n.toNat).all isAsciiHexdigit) = true := by
    rw [byteLen_eq_length fun c hc => utf8Size_of_isLowerHex (hhex n hc), length_paddedHex (by omega) (lt_width n),
      Bool.and_eq_true, List.all_eq_true]
    exact ⟨rfl, fun c hc => isAsciiHexdigit_of_isLowerHex (hhex n hc)⟩
  have hinitial : "luid_".toList.isPrefixOf (luidText high low).toList = true := by
    rw [toList_luidText, List.isPrefixOf_iff_prefix]
    exact List.prefix_append _ _
  have hvalue : (luidText high low).toList.drop 5 = paddedHex 8 high.toNat ++ '_' :: paddedHex 8 low.toNat := by
    rw [toList_luidText]
    exact List.drop_left' (by simp)
  unfold isLuid
  rw [if_pos hinitial]
  simp only [hvalue, htake, hdrop, List.all_cons, List.all_nil, hpart, Bool.and_self]

/-! ## The identities -/

/-- A pair that the driver names, and names once: its UUID and its identifier belong to no other usable reading. -/
structure Unambiguous (readings : List (Uuid × Luid)) (uuid : Uuid) (luid : Luid) : Prop where
  named : (uuid, luid) ∈ readings
  notNil : uuid.isNil = false
  notZero : luid ≠ Luid.zero
  uuidOnce : ((usable readings).map Prod.fst).count uuid = 1
  luidOnce : ((usable readings).map Prod.snd).count luid = 1

theorem mem_usable {readings : List (Uuid × Luid)} {uuid : Uuid} {luid : Luid} :
    (uuid, luid) ∈ usable readings ↔ (uuid, luid) ∈ readings ∧ uuid.isNil = false ∧ luid ≠ Luid.zero := by
  simp [usable, List.mem_filter]

theorem identities_eq_some {readings : List (Uuid × Luid)} {uuid : Uuid} {id : String} :
    identities readings uuid = some id ↔
      ∃ luid, Unambiguous readings uuid luid ∧ id = luidText luid.high luid.low := by
  let kept := (usable readings).filter fun (uuid, luid) =>
    tally ((usable readings).map Prod.fst) uuid == some 1 && tally ((usable readings).map Prod.snd) luid == some 1
  let pairs := kept.map fun (uuid, luid) => (uuid, luidText luid.high luid.low)
  have hmem (u : Uuid) (l : Luid) : (u, l) ∈ kept ↔ Unambiguous readings u l := by
    simp only [kept, List.mem_filter, Bool.and_eq_true, beq_iff_eq, tally_eq_some_one, mem_usable]
    exact ⟨fun ⟨⟨h1, h2, h3⟩, h4, h5⟩ => ⟨h1, h2, h3, h4, h5⟩, fun ⟨h1, h2, h3, h4, h5⟩ => ⟨⟨h1, h2, h3⟩, h4, h5⟩⟩
  have hkeys : pairs.map Prod.fst = kept.map Prod.fst := by
    rw [List.map_map]
    rfl
  have hcount : ∀ pair ∈ pairs, (pairs.map Prod.fst).count pair.1 = 1 := by
    intro pair hpair
    obtain ⟨⟨u, l⟩, hin, rfl⟩ := List.mem_map.mp hpair
    have hone := ((hmem u l).mp hin).uuidOnce
    have hle : (kept.map Prod.fst).count u ≤ ((usable readings).map Prod.fst).count u :=
      (List.filter_sublist.map Prod.fst).count_le u
    have hpos : 0 < (kept.map Prod.fst).count u := List.count_pos_iff.mpr (List.mem_map.mpr ⟨(u, l), hin, rfl⟩)
    rw [hkeys]
    show (kept.map Prod.fst).count u = 1
    omega
  show collect pairs uuid = some id ↔ _
  rw [collect_eq_some hcount, List.mem_map]
  constructor
  · rintro ⟨⟨u, l⟩, hin, heq⟩
    cases heq
    exact ⟨l, (hmem _ l).mp hin, rfl⟩
  · rintro ⟨l, hpair, rfl⟩
    exact ⟨(uuid, l), (hmem uuid l).mpr hpair, rfl⟩

theorem Unambiguous.perm {readings other : List (Uuid × Luid)} {uuid : Uuid} {luid : Luid}
    (h : Unambiguous readings uuid luid) (hperm : readings.Perm other) : Unambiguous other uuid luid := by
  have husable : (usable readings).Perm (usable other) := hperm.filter _
  exact ⟨hperm.mem_iff.mp h.named, h.notNil, h.notZero, (husable.map Prod.fst).count_eq uuid ▸ h.uuidOnce,
    (husable.map Prod.snd).count_eq luid ▸ h.luidOnce⟩

/-- Two devices never share an identifier. -/
theorem identities_injective {readings : List (Uuid × Luid)} {uuid uuid' : Uuid} {id : String}
    (h : identities readings uuid = some id) (h' : identities readings uuid' = some id) : uuid = uuid' := by
  obtain ⟨luid, hpair, rfl⟩ := identities_eq_some.mp h
  obtain ⟨luid', hpair', htext⟩ := identities_eq_some.mp h'
  obtain ⟨hhigh, hlow⟩ := luidText_injective htext
  cases Luid.ext_parts hlow hhigh
  have hsame : ((uuid, luid) : Uuid × Luid) = (uuid', luid) :=
    @eq_of_count_eq_one _ _ _ _ Prod.snd _ _ (mem_usable.mpr ⟨hpair'.named, hpair'.notNil, hpair'.notZero⟩)
      (mem_usable.mpr ⟨hpair.named, hpair.notNil, hpair.notZero⟩) rfl hpair'.luidOnce
  exact (Prod.mk.inj hsame).1

theorem lookup_toString (identities : Uuid → Option String) (uuid : Uuid) :
    lookup identities ("GPU-" ++ uuid.toString) = identities uuid := by
  have hlist : ("GPU-" ++ uuid.toString).toList = "GPU-".toList ++ uuid.text := by
    rw [String.toList_append]
    exact congrArg ("GPU-".toList ++ ·) String.toList_ofList
  have hdrop : ("GPU-".toList ++ uuid.text).drop 4 = uuid.text := List.drop_left' (by simp)
  rw [lookup, hlist, if_pos (List.isPrefixOf_iff_prefix.mpr (List.prefix_append _ _)), hdrop, Uuid.parse_text]
  rfl

/-- The identities are the pairs of the readings that name a device, where neither part belongs to another such reading.
They do not depend on the order of the readings, and no two devices share an identifier. An identifier is canonical, is
spelled as the vendor libraries and DXGI spell it, and two identifiers of one spelling are the same. -/
theorem nvidia_identities_exact (readings : List (Uuid × Luid)) :
    (∀ uuid id, identities readings uuid = some id ↔ ∃ luid, Unambiguous readings uuid luid ∧
      id = luidId luid.low luid.high.toInt32) ∧
    (∀ uuid uuid' id, identities readings uuid = some id → identities readings uuid' = some id → uuid = uuid') ∧
    (∀ other, readings.Perm other → identities other = identities readings) ∧
    (∀ uuid id, identities readings uuid = some id → isLuid id = true) ∧
    (∀ uuid, lookup (identities readings) ("GPU-" ++ uuid.toString) = identities readings uuid) ∧
    (∀ luid luid' : Luid, luidId luid.low luid.high.toInt32 = luidId luid'.low luid'.high.toInt32 ↔ luid = luid') ∧
    (∀ low low' high high', luidId low high = dxgiId low' high' ↔ low = low' ∧ high = high') := by
  have hid (luid : Luid) : luidId luid.low luid.high.toInt32 = luidText luid.high luid.low := rfl
  refine ⟨fun uuid id => identities_eq_some, fun uuid uuid' id => identities_injective, ?_, ?_,
    fun uuid => lookup_toString _ uuid, ?_, ?_⟩
  · intro other hperm
    funext uuid
    apply Option.ext
    intro id
    rw [identities_eq_some, identities_eq_some]
    exact ⟨fun ⟨luid, h, htext⟩ => ⟨luid, h.perm hperm.symm, htext⟩, fun ⟨luid, h, htext⟩ =>
      ⟨luid, h.perm hperm, htext⟩⟩
  · intro uuid id h
    obtain ⟨luid, -, rfl⟩ := identities_eq_some.mp h
    exact isLuid_luidText luid.high luid.low
  · intro luid luid'
    constructor
    · intro h
      rw [hid, hid] at h
      obtain ⟨hhigh, hlow⟩ := luidText_injective h
      exact Luid.ext_parts hlow hhigh
    · rintro rfl
      rfl
  · intro low low' high high'
    constructor
    · exact luidId_injective
    · rintro ⟨rfl, rfl⟩
      rfl

end NvidiaIdentity

end Xsoc
