import Mathlib.Data.Nat.Digits.Lemmas
import Xsoc.Report.Values
import Xsoc.Text

/-!
# Numbers in bytes and in texts

* `fromLeBytes` : the number in some bytes, the lowest one first;
* `paddedHex` : the lowercase hex digits of a number, with zeros in front of them up to a width;
* `fromLeBytes_injective`, `paddedHex_injective` : what is spelled alike is alike;
* `lt_paddedHex` : the digits of numbers are in the order of the numbers;
* `F64.ofNat`, `F64.div` : the floating-point number next to a whole number, and to a quotient;
* `fromUtf8Lossy` : the text in some bytes, with a mark for what is no text.
-/

set_option autoImplicit false

namespace Xsoc

/-- `from_le_bytes` -/
def fromLeBytes (bytes : List UInt8) : Nat := Nat.ofDigits 256 (bytes.map UInt8.toNat)

theorem fromLeBytes_lt (bytes : List UInt8) : fromLeBytes bytes < 256 ^ bytes.length := by
  have hdigit : ∀ d ∈ bytes.map UInt8.toNat, d < 256 := by
    intro d hd
    obtain ⟨b, -, rfl⟩ := List.mem_map.mp hd
    exact b.toNat_lt
  have hlt := Nat.ofDigits_lt_base_pow_length (by omega) hdigit
  rwa [List.length_map] at hlt

theorem fromLeBytes_injective {as bs : List UInt8} (hlen : as.length = bs.length)
    (h : fromLeBytes as = fromLeBytes bs) : as = bs := by
  have hdigit (cs : List UInt8) : ∀ d ∈ cs.map UInt8.toNat, d < 256 := by
    intro d hd
    obtain ⟨b, -, rfl⟩ := List.mem_map.mp hd
    exact b.toNat_lt
  have hmap := Nat.ofDigits_inj_of_len_eq (by omega) (by simp [hlen]) (hdigit as) (hdigit bs) h
  exact List.map_injective_iff.mpr (fun a b hab => UInt8.toNat_inj.mp hab) hmap

/-- `{:0width x}` -/
def paddedHex (width n : Nat) : List Char := List.leftpad width '0' (Nat.toDigits 16 n)

/-- The number that hex digits stand for. -/
def hexNumber (cs : List Char) : Nat := cs.foldl (fun n c => 16 * n + ((hexValue c).map UInt8.toNat).getD 0) 0

theorem digitChar_hex : ∀ d : Fin 16,
    ((hexValue (Nat.digitChar d)).map UInt8.toNat).getD 0 = d ∧ isLowerHex (Nat.digitChar d) = true := by
  decide

theorem hexNumber_toDigits (n : Nat) : hexNumber (Nat.toDigits 16 n) = n := by
  induction n using Nat.strong_induction_on with
  | _ n ih =>
    by_cases h : n < 16
    · have hdigit := (digitChar_hex ⟨n, h⟩).1
      rw [Nat.toDigits_of_lt_base h]
      simpa [hexNumber] using hdigit
    · have hdigit := (digitChar_hex ⟨n % 16, Nat.mod_lt _ (by omega)⟩).1
      have hrec := ih (n / 16) (by omega)
      unfold hexNumber at hrec ⊢
      rw [Nat.toDigits_of_base_le (by omega) (by omega), List.foldl_append, hrec, List.foldl_cons, List.foldl_nil,
        hdigit]
      exact Nat.div_add_mod n 16

theorem isLowerHex_toDigits (n : Nat) : ∀ c ∈ Nat.toDigits 16 n, isLowerHex c = true := by
  induction n using Nat.strong_induction_on with
  | _ n ih =>
    intro c hc
    by_cases h : n < 16
    · rw [Nat.toDigits_of_lt_base h, List.mem_singleton] at hc
      rw [hc]
      exact (digitChar_hex ⟨n, h⟩).2
    · rw [Nat.toDigits_of_base_le (by omega) (by omega), List.mem_append, List.mem_singleton] at hc
      rcases hc with hc | rfl
      · exact ih (n / 16) (by omega) c hc
      · exact (digitChar_hex ⟨n % 16, Nat.mod_lt _ (by omega)⟩).2

/-- Zeros in front of a number do not change it. -/
theorem hexNumber_paddedHex (width n : Nat) : hexNumber (paddedHex width n) = n := by
  have hzeros (k : Nat) (cs : List Char) : hexNumber (List.replicate k '0' ++ cs) = hexNumber cs := by
    induction k with
    | zero => rfl
    | succ k ih => exact ih
  rw [paddedHex, List.leftpad, hzeros, hexNumber_toDigits]

theorem paddedHex_injective {width m n : Nat} (h : paddedHex width m = paddedHex width n) : m = n := by
  rw [← hexNumber_paddedHex width m, h, hexNumber_paddedHex]

theorem length_paddedHex {width n : Nat} (hwidth : 0 < width) (h : n < 16 ^ width) :
    (paddedHex width n).length = width := by
  have hle : (Nat.toDigits 16 n).length ≤ width := (Nat.length_toDigits_le_iff (by omega) hwidth).mpr h
  rw [paddedHex, List.leftpad, List.length_append, List.length_replicate]
  omega

theorem isLowerHex_paddedHex {width n : Nat} {c : Char} (hc : c ∈ paddedHex width n) : isLowerHex c = true := by
  rw [paddedHex, List.leftpad, List.mem_append] at hc
  rcases hc with hc | hc
  · rw [List.eq_of_mem_replicate hc]
    decide
  · exact isLowerHex_toDigits n c hc

/-! ## The order of digits -/

theorem paddedHex_succ {width n : Nat} (hwidth : 0 < width) (h : n < 16 ^ (width + 1)) :
    paddedHex (width + 1) n = paddedHex width (n / 16) ++ [Nat.digitChar (n % 16)] := by
  unfold paddedHex List.leftpad
  by_cases hn : n < 16
  · have hzero : Nat.toDigits 16 0 = ['0'] := rfl
    rw [Nat.toDigits_of_lt_base hn, Nat.div_eq_of_lt hn, hzero, Nat.mod_eq_of_lt hn]
    obtain ⟨w, rfl⟩ : ∃ w, width = w + 1 := ⟨width - 1, by omega⟩
    simp [List.replicate_succ']
  · rw [Nat.toDigits_of_base_le (by omega) (by omega), List.length_append, List.length_singleton, List.append_assoc]
    congr 2
    omega

theorem digitChar_lt : ∀ d e : Fin 16, d < e → (Nat.digitChar d).toNat < (Nat.digitChar e).toNat := by
  decide

/-- Lists of one length that are in order stay so, whatever comes behind them. -/
theorem append_lt_append {as bs xs ys : List Nat} (hlen : as.length = bs.length) (h : as < bs) :
    as ++ xs < bs ++ ys := by
  induction as generalizing bs with
  | nil =>
    cases bs with
    | nil => exact absurd h (lt_irrefl _)
    | cons b bs => cases hlen
  | cons a as ih =>
    cases bs with
    | nil => cases hlen
    | cons b bs =>
      rw [List.cons_append, List.cons_append]
      rcases List.cons_lt_cons_iff.mp h with hhead | ⟨rfl, htail⟩
      · exact List.cons_lt_cons_iff.mpr (Or.inl hhead)
      · exact List.cons_lt_cons_iff.mpr (Or.inr ⟨rfl, ih (Nat.succ.inj hlen) htail⟩)

theorem lt_paddedHex {width m n : Nat} (hlt : m < n) (hn : n < 16 ^ width) :
    (paddedHex width m).map Char.toNat < (paddedHex width n).map Char.toNat := by
  induction width generalizing m n with
  | zero =>
    rw [Nat.pow_zero] at hn
    omega
  | succ width ih =>
    have hdigit {d e : Nat} (he : e < 16) (hde : d < e) :
        [Nat.digitChar d].map Char.toNat < [Nat.digitChar e].map Char.toNat :=
      List.cons_lt_cons_iff.mpr (Or.inl (digitChar_lt ⟨d, by omega⟩ ⟨e, he⟩ hde))
    by_cases hwidth : width = 0
    · subst hwidth
      have hone {k : Nat} (hk : k < 16) : paddedHex 1 k = [Nat.digitChar k] := by
        rw [paddedHex, Nat.toDigits_of_lt_base hk]
        rfl
      rw [hone (by omega), hone (by omega)]
      exact hdigit (by omega) hlt
    have hpow : 16 ^ (width + 1) = 16 * 16 ^ width := by rw [Nat.pow_succ, Nat.mul_comm]
    have hn' : n / 16 < 16 ^ width := Nat.div_lt_of_lt_mul (hpow ▸ hn)
    have hm' : m / 16 < 16 ^ width := lt_of_le_of_lt (Nat.div_le_div_right hlt.le) hn'
    rw [paddedHex_succ (by omega) (hlt.trans hn), paddedHex_succ (by omega) hn, List.map_append, List.map_append]
    by_cases heq : m / 16 = n / 16
    · rw [heq]
      exact List.append_left_lt (hdigit (Nat.mod_lt _ (by omega)) (by omega))
    · apply append_lt_append
      · rw [List.length_map, List.length_map, length_paddedHex (by omega) hm', length_paddedHex (by omega) hn']
      · exact ih (by omega) hn'

/-- A text of one-byte characters is the numbers of its characters. -/
theorem utf8_toNat {cs : List Char} (h : ∀ c ∈ cs, c.utf8Size = 1) : (utf8 cs).map UInt8.toNat = cs.map Char.toNat := by
  induction cs with
  | nil => rfl
  | cons c cs ih =>
    have hc := h c List.mem_cons_self
    have hle : c.toNat ≤ 127 := by
      have hval := Char.utf8Size_eq_one_iff.mp hc
      rwa [UInt32.le_iff_toNat_le] at hval
    have hbyte : c.val.toUInt8.toNat = c.toNat := by
      rw [UInt32.toNat_toUInt8]
      exact Nat.mod_eq_of_lt (show c.toNat < 256 by omega)
    have hcons : utf8 (c :: cs) = String.utf8EncodeChar c ++ utf8 cs := rfl
    rw [hcons, String.utf8EncodeChar_eq_singleton hc, List.map_append, ih fun d hd => h d (List.mem_cons_of_mem c hd),
      List.map_singleton, hbyte]
    rfl

/-! ## Floating-point numbers -/

/-- The quotient, rounded to the nearest whole number, and to an even one where two are as near. -/
def roundHalfEven (n d : Nat) : Nat :=
  if d < 2 * (n % d) ∨ 2 * (n % d) = d ∧ n / d % 2 = 1 then n / d + 1 else n / d

/-- `as f64` -/
def F64.ofNat (n : Nat) : F64 :=
  if n = 0 then F64.zero
  else
    let e := Nat.log2 n
    -- the leading one of the mantissa adds one to the exponent
    let mantissa := if e ≤ 52 then n * 2 ^ (52 - e) else roundHalfEven n (2 ^ (e - 52))
    ⟨UInt64.ofNat ((e + 1022) * 2 ^ 52 + mantissa)⟩

example : F64.ofNat 100 = F64.hundred := by decide

/-- The mantissa, with the leading one where it has one. -/
def F64.mantissa (x : F64) : Nat :=
  if x.magnitude < 2 ^ 52 then x.magnitude else x.magnitude % 2 ^ 52 + 2 ^ 52

/-- The exponent, from that of the smallest numbers on. -/
def F64.exponent (x : F64) : Nat := x.magnitude / 2 ^ 52 - 1

/-- The number with this sign next to a quotient of whole numbers. -/
def F64.ofQuotient (negative : Bool) (n d : Nat) : F64 :=
  let exponent := Nat.log2 (n * 2 ^ 1074 / d) - 52
  let magnitude := min (exponent * 2 ^ 52 + roundHalfEven (n * 2 ^ 1074) (d * 2 ^ exponent)) 0x7FF0000000000000
  ⟨UInt64.ofNat (magnitude + if negative then 2 ^ 63 else 0)⟩

/-- `x / y` -/
def F64.div (x y : F64) : F64 :=
  let negative := x.isNegative != y.isNegative
  let signed (magnitude : Nat) : F64 := ⟨UInt64.ofNat (magnitude + if negative then 2 ^ 63 else 0)⟩
  if x.isNan then x
  else if y.isNan then y
  else if x.isFinite then
    if !y.isFinite then signed 0
    else if y.magnitude ≠ 0 then F64.ofQuotient negative (x.mantissa * 2 ^ x.exponent) (y.mantissa * 2 ^ y.exponent)
    else signed (if x.magnitude = 0 then 0x7FF8000000000000 else 0x7FF0000000000000)
  else signed (if y.isFinite then 0x7FF0000000000000 else 0x7FF8000000000000)

-- a tenth
example : (F64.ofNat 10).div F64.hundred = ⟨0x3FB999999999999A⟩ := by decide +kernel

/-- `x * y` -/
def F64.mul (x y : F64) : F64 :=
  let negative := x.isNegative != y.isNegative
  let signed (magnitude : Nat) : F64 := ⟨UInt64.ofNat (magnitude + if negative then 2 ^ 63 else 0)⟩
  if x.isNan then x
  else if y.isNan then y
  else if x.isFinite && y.isFinite then
    F64.ofQuotient negative (x.mantissa * 2 ^ x.exponent * (y.mantissa * 2 ^ y.exponent)) (2 ^ 1074 * 2 ^ 1074)
  else signed (if x.magnitude = 0 ∨ y.magnitude = 0 then 0x7FF8000000000000 else 0x7FF0000000000000)

example : (F64.ofNat 3).mul ⟨0x3FB999999999999A⟩ = ⟨0x3FD3333333333334⟩ := by decide +kernel

/-- `as u64`, of what is not negative: the whole part. -/
def F64.floor (x : F64) : Nat := x.mantissa * 2 ^ x.exponent / 2 ^ 1074

/-! ## Bytes that may be no text -/

/-- How many bytes the first byte of a character asks for; zero where no character starts with it. -/
def utf8Width (b : UInt8) : Nat :=
  if b < 0x80 then 1 else if 0xC2 ≤ b ∧ b ≤ 0xDF then 2 else if 0xE0 ≤ b ∧ b ≤ 0xEF then 3
  else if 0xF0 ≤ b ∧ b ≤ 0xF4 then 4 else 0

/-- The bytes that may come second. -/
def utf8Second (b c : UInt8) : Bool :=
  if b = 0xE0 then 0xA0 ≤ c && c ≤ 0xBF else if b = 0xED then 0x80 ≤ c && c ≤ 0x9F
  else if b = 0xF0 then 0x90 ≤ c && c ≤ 0xBF else if b = 0xF4 then 0x80 ≤ c && c ≤ 0x8F else 0x80 ≤ c && c ≤ 0xBF

/-- The first character, and how many bytes it takes. Where there is none, the mark takes the place of the bytes that
could have started one. -/
def utf8Next (b : UInt8) (rest : List UInt8) : Char × Nat :=
  let width := utf8Width b
  let follow := rest.take (width - 1)
  let good := match follow with
    | [] => 0
    | c :: cs => if utf8Second b c then 1 + (cs.takeWhile fun d => 0x80 ≤ d && d ≤ 0xBF).length else 0
  if width ≠ 0 ∧ good = width - 1 then
    let lead := if width = 1 then b.toNat else b.toNat % 2 ^ (7 - width)
    (Char.ofNat (follow.foldl (fun n c => 64 * n + c.toNat % 64) lead), width)
  else ('\uFFFD', 1 + good)

def utf8Chars : Nat → List UInt8 → List Char
  | fuel + 1, b :: rest =>
    let (c, n) := utf8Next b rest
    c :: utf8Chars fuel ((b :: rest).drop n)
  | _, _ => []

/-- `String::from_utf8_lossy` -/
def fromUtf8Lossy (bytes : List UInt8) : String := String.ofList (utf8Chars bytes.length bytes)

example : fromUtf8Lossy [0x44, 0xE2, 0x82, 0xAC, 0xE2, 0x82, 0x41, 0xFF] = "D€\uFFFDA\uFFFD" := by decide

end Xsoc
