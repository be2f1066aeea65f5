import Xsoc.Bounding.Marked
import Xsoc.Text
import Mathlib.Data.List.TakeWhile
import Mathlib.Order.Basic

/-!
# Values of a report: numbers and texts

* `F64` : an `f64` by its bits, with the comparisons of IEEE 754 and the order of `total_cmp`;
* `boundPercent`, `boundNonnegative`, `boundOptionalRange`, `cleanNumber` : the numbers;
* `truncateUtf8`, `stripControlsAndTruncate` : the texts, cut on a character boundary;
* `boundRequiredText`, `boundDescriptiveText`, `boundOptionalText`, `boundOptionalNonemptyText` : what is done with
  them;
* `F64.Percent`, `Text.Within`, `Text.Required` and the like : what each of them settles.
-/

set_option autoImplicit false

namespace Xsoc

open Bounding

/-! ## Numbers -/

/-- `f64`: a sign, an exponent of eleven bits and a mantissa of fifty-two. -/
structure F64 where
  bits : UInt64
  deriving DecidableEq, Repr

namespace F64

def zero : F64 := ⟨0⟩
def negZero : F64 := ⟨0x8000000000000000⟩
def hundred : F64 := ⟨0x4059000000000000⟩
def thousand : F64 := ⟨0x408F400000000000⟩
/-- `255.0` -/
def maxByte : F64 := ⟨0x406FE00000000000⟩
/-- `-273.15` -/
def absoluteZero : F64 := ⟨0xC071126666666666⟩
/-- `10_000_000.0` -/
def tenMillion : F64 := ⟨0x416312D000000000⟩
/-- `1_000_000_000.0` -/
def billion : F64 := ⟨0x41CDCD6500000000⟩
/-- `f64::MAX` -/
def max : F64 := ⟨0x7FEFFFFFFFFFFFFF⟩
/-- `f64::MIN_POSITIVE` -/
def minPositive : F64 := ⟨0x0010000000000000⟩

def magnitude (x : F64) : Nat := x.bits.toNat % 2 ^ 63

def isNegative (x : F64) : Bool := 2 ^ 63 ≤ x.bits.toNat

def isNan (x : F64) : Bool := 0x7FF0000000000000 < x.magnitude

/-- `is_finite`: neither an infinity nor a NaN. -/
def isFinite (x : F64) : Bool := x.magnitude < 0x7FF0000000000000

/-- The numbers in their order; the two zeros are one. -/
def order (x : F64) : Int := if x.isNegative then -(x.magnitude : Int) else x.magnitude

/-- `<`; false when a side is no number. -/
def lt (x y : F64) : Bool := !x.isNan && !y.isNan && x.order < y.order

/-- `<=` -/
def le (x y : F64) : Bool := !x.isNan && !y.isNan && x.order ≤ y.order

/-- `==` -/
def same (x y : F64) : Bool := !x.isNan && !y.isNan && x.order == y.order

/-- The key of `total_cmp`: it tells all bit patterns apart. -/
def totalKey (x : F64) : Int := if x.isNegative then -(x.magnitude : Int) - 1 else x.magnitude

theorem totalKey_injective {x y : F64} (h : x.totalKey = y.totalKey) : x = y := by
  have hx := x.bits.toNat_lt
  have hy := y.bits.toNat_lt
  have hbits : x.bits.toNat = y.bits.toNat := by
    simp only [totalKey, isNegative, magnitude, decide_eq_true_eq] at h
    split at h <;> split at h <;> omega
  cases x
  cases y
  exact congrArg F64.mk (UInt64.toNat_inj.mp hbits)

/-- The order of `total_cmp`. -/
instance : LinearOrder F64 := LinearOrder.lift' totalKey fun _ _ => totalKey_injective

/-- `clamp` -/
def clamp (x min max : F64) : F64 :=
  let x := if x.lt min then min else x
  if max.lt x then max else x

/-- `max(0.0)` of a finite number. Of the two zeros either may be returned: `keeps` says which. -/
def maxZero (keeps : Bool) (x : F64) : F64 :=
  if x.lt zero then zero else if x = negZero ∧ keeps = false then zero else x

/-- A finite number within bounds. -/
structure Within (min max x : F64) : Prop where
  finite : x.isFinite = true
  lower : min.le x = true
  upper : x.le max = true

theorem not_isNan_of_isFinite {x : F64} (h : x.isFinite = true) : x.isNan = false := by
  simp only [isFinite, isNan, decide_eq_true_eq, decide_eq_false_iff_not] at h ⊢
  omega

theorem lt_eq_false {x y : F64} (hx : x.isFinite = true) (hy : y.isFinite = true) : x.lt y = false ↔ y.le x = true := by
  simp [lt, le, not_isNan_of_isFinite hx, not_isNan_of_isFinite hy]

theorem same_self {x : F64} (h : x.isFinite = true) : x.same x = true := by
  simp [same, not_isNan_of_isFinite h]

theorem le_refl {x : F64} (h : x.isFinite = true) : x.le x = true := by
  simp [le, not_isNan_of_isFinite h]

theorem within_clamp {x min max : F64} (hx : x.isFinite = true) (hmin : min.isFinite = true)
    (hmax : max.isFinite = true) (hle : min.le max = true) : Within min max (x.clamp min max) := by
  unfold clamp
  simp only
  by_cases hlow : x.lt min = true
  · rw [if_pos hlow, if_neg (by simpa using (lt_eq_false hmax hmin).mpr hle)]
    exact ⟨hmin, le_refl hmin, hle⟩
  · rw [if_neg hlow]
    rw [Bool.not_eq_true, lt_eq_false hx hmin] at hlow
    by_cases hhigh : max.lt x = true
    · rw [if_pos hhigh]
      exact ⟨hmax, hle, le_refl hmax⟩
    · rw [if_neg hhigh]
      rw [Bool.not_eq_true, lt_eq_false hmax hx] at hhigh
      exact ⟨hx, hlow, hhigh⟩

theorem clamp_eq_self {x min max : F64} (hmin : min.isFinite = true) (hmax : max.isFinite = true)
    (h : Within min max x) : x.clamp min max = x := by
  unfold clamp
  simp only
  rw [(lt_eq_false h.finite hmin).mpr h.lower, if_neg Bool.false_ne_true,
    (lt_eq_false hmax h.finite).mpr h.upper, if_neg Bool.false_ne_true]

end F64

/-- `replace_f64` of a clamped number; a number that is not finite gets a fixed value. -/
def boundPercent : F64 → Marked F64 :=
  compared fun x => if x.isFinite then x.clamp F64.zero F64.hundred else F64.zero

def boundNonnegative (keepsNegativeZero : Bool) : F64 → Marked F64 :=
  compared fun x => if x.isFinite then x.maxZero keepsNegativeZero else F64.zero

def boundOptionalRange (minimum maximum : F64) : Option F64 → Marked (Option F64) :=
  reset (fun o => o.any fun x => !x.isFinite || !(minimum.le x && x.le maximum)) none

def boundOptionalNonnegative : Option F64 → Marked (Option F64) := boundOptionalRange F64.zero F64.max

def cleanNumber (min max : F64) : Option F64 → Marked (Option F64) :=
  reset (fun o => o.any fun x => !x.isFinite || x.lt min || max.lt x) none

namespace F64

def Percent (x : F64) : Prop := Within zero hundred x

/-- A number that `bound_nonnegative` leaves alone: of the two zeros only one may be. -/
structure Nonnegative (keepsNegativeZero : Bool) (x : F64) : Prop where
  finite : x.isFinite = true
  lower : zero.le x = true
  zeros : x.maxZero keepsNegativeZero = x

end F64

theorem boundPercent_settles : Settles boundPercent F64.Percent Eq := by
  refine Settles.compared (fun x => ?_) (fun {x} h => ?_)
  · split
    · next hx => exact F64.within_clamp hx (by decide) (by decide) (by decide)
    · exact ⟨by decide, by decide, by decide⟩
  · rw [if_pos h.finite, F64.clamp_eq_self (by decide) (by decide) h]

theorem boundNonnegative_settles (keeps : Bool) :
    Settles (boundNonnegative keeps) (F64.Nonnegative keeps) Eq := by
  have hzero : F64.Nonnegative keeps F64.zero := ⟨by decide, by decide, by cases keeps <;> decide⟩
  refine Settles.compared (fun x => ?_) (fun {x} h => ?_)
  · by_cases hx : x.isFinite = true
    · rw [if_pos hx]
      unfold F64.maxZero
      by_cases hlow : x.lt F64.zero = true
      · rw [if_pos hlow]
        exact hzero
      · rw [if_neg hlow]
        by_cases hneg : x = F64.negZero ∧ keeps = false
        · rw [if_pos hneg]
          exact hzero
        · rw [if_neg hneg]
          have hle := (F64.lt_eq_false hx (by decide)).mp (Bool.not_eq_true _ ▸ hlow)
          exact ⟨hx, hle, by rw [F64.maxZero, if_neg hlow, if_neg hneg]⟩
    · rw [if_neg hx]
      exact hzero
  · rw [if_pos h.finite, h.zeros]

theorem boundOptionalRange_settles (minimum maximum : F64) :
    Settles (boundOptionalRange minimum maximum) (fun o => ∀ x ∈ o, F64.Within minimum maximum x) Eq := by
  refine (Settles.reset rfl).congr fun o => ?_
  cases o with
  | none => simp
  | some x =>
    simp only [Option.any_some, Bool.or_eq_false_iff, Bool.not_eq_false', Bool.and_eq_true, Option.mem_def,
      Option.some.injEq, forall_eq']
    exact ⟨fun h => ⟨h.1, h.2.1, h.2.2⟩, fun h => ⟨h.finite, h.lower, h.upper⟩⟩

theorem cleanNumber_settles {min max : F64} (hmin : min.isFinite = true) (hmax : max.isFinite = true) :
    Settles (cleanNumber min max) (fun o => ∀ x ∈ o, F64.Within min max x) Eq := by
  refine (Settles.reset rfl).congr fun o => ?_
  cases o with
  | none => simp
  | some x =>
    simp only [Option.any_some, Bool.or_eq_false_iff, Bool.not_eq_false', Option.mem_def, Option.some.injEq,
      forall_eq']
    constructor
    · rintro ⟨⟨hx, hlow⟩, hhigh⟩
      exact ⟨hx, (F64.lt_eq_false hx hmin).mp hlow, (F64.lt_eq_false hmax hx).mp hhigh⟩
    · rintro h
      exact ⟨⟨h.finite, (F64.lt_eq_false h.finite hmin).mpr h.lower⟩, (F64.lt_eq_false hmax h.finite).mpr h.upper⟩

/-! ## Texts -/

/-- As many characters as fit within so many bytes. -/
def takeBytes : Nat → List Char → List Char
  | _, [] => []
  | n, c :: cs => if c.utf8Size ≤ n then c :: takeBytes (n - c.utf8Size) cs else []

/-- `truncate_utf8`: the end goes down to a character boundary. -/
def truncateUtf8 (maximum : Nat) (s : String) : String := String.ofList (takeBytes maximum s.toList)

def stripControlsAndTruncate (maximum : Nat) (s : String) : String :=
  truncateUtf8 maximum (String.ofList (s.toList.filter fun c => !isControl c))

/-- `trim().is_empty()` -/
def isBlank (s : String) : Bool := (trim s.toList).isEmpty

/-- The bytes of a text, by which texts are ordered. -/
def textKey (s : String) : List Nat := (utf8 s.toList).map UInt8.toNat

theorem textKey_injective {s t : String} (h : textKey s = textKey t) : s = t := by
  have hbytes : utf8 s.toList = utf8 t.toList :=
    List.map_injective_iff.mpr (fun _ _ => UInt8.toNat_inj.mp) h
  apply String.toByteArray_inj.mp
  rw [← String.utf8Encode_toList, ← String.utf8Encode_toList]
  exact congrArg List.toByteArray hbytes

def boundRequiredText (maximum : Nat) (fallback : String) : String → Marked String :=
  compared fun s =>
    let s := stripControlsAndTruncate maximum s
    if isBlank s then truncateUtf8 maximum fallback else s

def boundDescriptiveText (maximum : Nat) : String → Marked String := compared (stripControlsAndTruncate maximum)

def boundOptionalText (maximum : Nat) : Option String → Marked (Option String) :=
  optional (boundDescriptiveText maximum)

def boundOptionalNonemptyText (maximum : Nat) : Option String → Marked (Option String) :=
  compared fun o => o.bind fun s =>
    let s := stripControlsAndTruncate maximum s
    if isBlank s then none else some s

namespace Text

/-- Within the byte limit, and free of control characters. -/
structure Within (maximum : Nat) (s : String) : Prop where
  size : byteLen s.toList ≤ maximum
  plain : ∀ c ∈ s.toList, isControl c = false

/-- A text that must say something. -/
structure Required (maximum : Nat) (s : String) : Prop extends Within maximum s where
  nonblank : isBlank s = false

/-- What may stand in for a blank text: it starts with a visible character of one byte. -/
structure Fallback (s : String) : Prop where
  plain : ∀ c ∈ s.toList, isControl c = false
  starts : ∃ c cs, s.toList = c :: cs ∧ c.utf8Size = 1 ∧ isWhitespace c = false

end Text

theorem byteLen_takeBytes_le (n : Nat) (cs : List Char) : byteLen (takeBytes n cs) ≤ n := by
  induction cs generalizing n with
  | nil => simp [takeBytes]
  | cons c cs ih =>
    unfold takeBytes
    split
    · have := ih (n - c.utf8Size)
      rw [byteLen_cons]
      omega
    · simp

theorem prefix_takeBytes (n : Nat) (cs : List Char) : takeBytes n cs <+: cs := by
  induction cs generalizing n with
  | nil => exact List.prefix_rfl
  | cons c cs ih =>
    unfold takeBytes
    split
    · exact (List.prefix_cons_inj c).mpr (ih _)
    · exact List.nil_prefix

theorem takeBytes_eq_self {n : Nat} {cs : List Char} (h : byteLen cs ≤ n) : takeBytes n cs = cs := by
  induction cs generalizing n with
  | nil => rfl
  | cons c cs ih =>
    rw [byteLen_cons] at h
    rw [takeBytes, if_pos (by omega), ih (by omega)]

/-- No character more would fit. -/
theorem takeBytes_maximal {n : Nat} {cs : List Char} {c : Char} {rest : List Char}
    (h : cs = takeBytes n cs ++ c :: rest) : n < byteLen (takeBytes n cs) + c.utf8Size := by
  induction cs generalizing n with
  | nil => simp [takeBytes] at h
  | cons d ds ih =>
    unfold takeBytes at h ⊢
    split
    · next hd =>
      rw [if_pos hd, List.cons_append, List.cons.injEq] at h
      have := ih h.2
      rw [byteLen_cons]
      omega
    · next hd =>
      rw [if_neg hd, List.nil_append, List.cons.injEq] at h
      rw [← h.1, byteLen_nil]
      omega

theorem isBlank_ofList {cs : List Char} : isBlank (String.ofList cs) = true ↔ ∀ c ∈ cs, isWhitespace c = true := by
  rw [isBlank, String.toList_ofList, List.isEmpty_iff, trim, trimEndMatches, List.reverse_eq_nil_iff,
    List.dropWhile_eq_nil_iff]
  constructor
  · intro h c hc
    by_contra hw
    have hne : cs.dropWhile isWhitespace ≠ [] := fun hnil => hw (List.dropWhile_eq_nil_iff.mp hnil c hc)
    obtain ⟨d, hd, hdw⟩ : ∃ d ∈ cs.dropWhile isWhitespace, isWhitespace d = false := by
      cases hdrop : cs.dropWhile isWhitespace with
      | nil => exact absurd hdrop hne
      | cons d ds =>
        refine ⟨d, List.mem_cons_self, ?_⟩
        have := List.head?_dropWhile_not isWhitespace cs
        rw [hdrop] at this
        simpa using this
    rw [h d (List.mem_reverse.mpr hd)] at hdw
    cases hdw
  · intro h c hc
    exact h c ((List.dropWhile_sublist _).subset (List.mem_reverse.mp hc))

theorem within_stripControlsAndTruncate (maximum : Nat) (s : String) :
    Text.Within maximum (stripControlsAndTruncate maximum s) := by
  unfold stripControlsAndTruncate truncateUtf8
  constructor
  · rw [String.toList_ofList]
    exact byteLen_takeBytes_le _ _
  · intro c hc
    rw [String.toList_ofList, String.toList_ofList] at hc
    have := (List.mem_filter.mp ((prefix_takeBytes _ _).subset hc)).2
    simpa using this

theorem stripControlsAndTruncate_eq_self {maximum : Nat} {s : String} (h : Text.Within maximum s) :
    stripControlsAndTruncate maximum s = s := by
  have hfilter : s.toList.filter (fun c => !isControl c) = s.toList :=
    List.filter_eq_self.mpr fun c hc => by rw [h.plain c hc]; rfl
  rw [stripControlsAndTruncate, truncateUtf8, hfilter, String.toList_ofList, takeBytes_eq_self h.size,
    String.ofList_toList]

theorem Text.Fallback.required {fallback : String} (h : Text.Fallback fallback) {maximum : Nat} (hmax : 1 ≤ maximum) :
    Text.Required maximum (truncateUtf8 maximum fallback) := by
  refine ⟨⟨?_, ?_⟩, ?_⟩
  · rw [truncateUtf8, String.toList_ofList]
    exact byteLen_takeBytes_le _ _
  · intro c hc
    rw [truncateUtf8, String.toList_ofList] at hc
    exact h.plain c ((prefix_takeBytes _ _).subset hc)
  · obtain ⟨c, cs, hs, hsize, hc⟩ := h.starts
    rw [Bool.eq_false_iff, truncateUtf8, ne_eq, isBlank_ofList, hs, takeBytes, if_pos (by omega)]
    intro hall
    rw [hall c List.mem_cons_self] at hc
    cases hc

theorem boundRequiredText_settles {maximum : Nat} {fallback : String} (hfall : Text.Fallback fallback)
    (hmax : 1 ≤ maximum) : Settles (boundRequiredText maximum fallback) (Text.Required maximum) Eq := by
  refine Settles.compared (fun s => ?_) (fun {s} h => ?_)
  · simp only
    split
    · exact hfall.required hmax
    · next hs => exact ⟨within_stripControlsAndTruncate maximum s, Bool.eq_false_iff.mpr hs⟩
  · simp only
    rw [stripControlsAndTruncate_eq_self h.toWithin, h.nonblank, if_neg Bool.false_ne_true]

theorem boundDescriptiveText_settles (maximum : Nat) :
    Settles (boundDescriptiveText maximum) (Text.Within maximum) Eq :=
  Settles.compared (within_stripControlsAndTruncate maximum) stripControlsAndTruncate_eq_self

theorem boundOptionalText_settles (maximum : Nat) :
    Settles (boundOptionalText maximum) (fun o => ∀ s ∈ o, Text.Within maximum s) Eq :=
  Settles.optional (boundDescriptiveText_settles maximum)

theorem boundOptionalNonemptyText_settles (maximum : Nat) :
    Settles (boundOptionalNonemptyText maximum) (fun o => ∀ s ∈ o, Text.Required maximum s) Eq := by
  refine Settles.compared (fun o => ?_) (fun {o} h => ?_)
  · cases o with
    | none => simp
    | some s =>
      simp only [Option.bind_some]
      split
      · simp
      · next hs =>
        rintro t ht
        obtain rfl := Option.some.inj ht
        exact ⟨within_stripControlsAndTruncate maximum s, Bool.eq_false_iff.mpr hs⟩
  · cases o with
    | none => rfl
    | some s =>
      have hs := h s rfl
      simp only [Option.bind_some]
      rw [stripControlsAndTruncate_eq_self hs.toWithin, hs.nonblank, if_neg Bool.false_ne_true]

end Xsoc
