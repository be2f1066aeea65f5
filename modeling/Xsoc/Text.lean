import Mathlib.Algebra.Order.Ring.Nat
import Mathlib.Data.Fintype.Basic

/-!
# Text: hex, UUIDs, trimming, UTF-8

The texts the client writes and reads, as the standard library and the `uuid` crate define them: lowercase hex,
the canonical form of a UUID and the forms its parser accepts, `str::trim`, and the bytes of a text.
-/

set_option autoImplicit false

namespace Xsoc

/-- What holds of the members of a list is decided for these, and not for all characters. -/
instance (priority := 2000) decidableMembers {α : Type} {p : α → Prop} [DecidablePred p] (l : List α) :
    Decidable (∀ a ∈ l, p a) :=
  List.decidableBAll p l

/-! ## Bytes and trimming -/

/-- The UTF-8 bytes of a text. -/
def utf8 (cs : List Char) : List UInt8 := cs.flatMap String.utf8EncodeChar

def byteLen (cs : List Char) : Nat := (cs.map Char.utf8Size).sum

theorem length_utf8 (cs : List Char) : (utf8 cs).length = byteLen cs := by
  simp [utf8, byteLen, List.length_flatMap]

@[simp] theorem byteLen_nil : byteLen [] = 0 := rfl

@[simp] theorem byteLen_cons (c : Char) (cs : List Char) : byteLen (c :: cs) = c.utf8Size + byteLen cs := by
  simp [byteLen]

@[simp] theorem byteLen_append (as bs : List Char) : byteLen (as ++ bs) = byteLen as + byteLen bs := by
  simp [byteLen]

theorem utf8_append (as bs : List Char) : utf8 (as ++ bs) = utf8 as ++ utf8 bs := List.flatMap_append

theorem utf8_injective {as bs : List Char} (h : utf8 as = utf8 bs) : as = bs := by
  apply String.ofList_injective
  apply String.toByteArray_inj.mp
  show (as.flatMap String.utf8EncodeChar).toByteArray = (bs.flatMap String.utf8EncodeChar).toByteArray
  rw [show as.flatMap String.utf8EncodeChar = bs.flatMap String.utf8EncodeChar from h]

theorem byteLen_eq_length {cs : List Char} (h : ∀ c ∈ cs, c.utf8Size = 1) : byteLen cs = cs.length := by
  induction cs with
  | nil => rfl
  | cons c cs ih =>
    rw [byteLen_cons, h c List.mem_cons_self, ih (fun d hd => h d (List.mem_cons_of_mem c hd)), List.length_cons]
    omega

theorem length_le_byteLen (cs : List Char) : cs.length ≤ byteLen cs := by
  induction cs with
  | nil => simp
  | cons c cs ih =>
    have hc := c.utf8Size_pos
    simp only [List.length_cons, byteLen_cons]
    omega

/-- `char::is_whitespace`: the Unicode `White_Space` property. -/
def isWhitespace (c : Char) : Bool :=
  let n := c.toNat
  (9 ≤ n && n ≤ 13) || n == 0x20 || n == 0x85 || n == 0xA0 || n == 0x1680 || (0x2000 ≤ n && n ≤ 0x200A) ||
    n == 0x2028 || n == 0x2029 || n == 0x202F || n == 0x205F || n == 0x3000

/-- `char::is_control`. -/
def isControl (c : Char) : Bool := c.toNat < 32 || (127 ≤ c.toNat && c.toNat < 160)

/-- `str::trim_end_matches`. -/
def trimEndMatches (p : Char → Bool) (cs : List Char) : List Char := (cs.reverse.dropWhile p).reverse

/-- `str::trim`. -/
def trim (cs : List Char) : List Char := trimEndMatches isWhitespace (cs.dropWhile isWhitespace)

/-- A text with no white space at either end is its own `trim`. -/
theorem trim_eq_self {cs : List Char} (hhead : ∀ c ∈ cs.head?, isWhitespace c = false)
    (hlast : ∀ c ∈ cs.getLast?, isWhitespace c = false) : trim cs = cs := by
  have hdrop : ∀ {ds : List Char}, (∀ c ∈ ds.head?, isWhitespace c = false) → ds.dropWhile isWhitespace = ds := by
    intro ds hd
    cases ds with
    | nil => rfl
    | cons d ds => rw [List.dropWhile_cons, hd d rfl]; rfl
  unfold trim trimEndMatches
  rw [hdrop hhead, hdrop (by rwa [List.head?_reverse]), List.reverse_reverse]

/-! ## Hex -/

/-- `DIGITS[n]`. -/
def hexDigit (n : UInt8) : Char :=
  ['0', '1', '2', '3', '4', '5', '6', '7', '8', '9', 'a', 'b', 'c', 'd', 'e', 'f'].getD n.toNat '0'

def hex (bytes : List UInt8) : List Char :=
  bytes.flatMap (fun (b : UInt8) => [hexDigit (b >>> 4), hexDigit (b &&& 0x0f)])

def isLowerHex (c : Char) : Bool := ('0' ≤ c && c ≤ '9') || ('a' ≤ c && c ≤ 'f')

/-- The value of a hex digit of either case. -/
def hexValue (c : Char) : Option UInt8 :=
  if '0' ≤ c ∧ c ≤ '9' then some (UInt8.ofNat (c.toNat - 48))
  else if 'a' ≤ c ∧ c ≤ 'f' then some (UInt8.ofNat (c.toNat - 87))
  else if 'A' ≤ c ∧ c ≤ 'F' then some (UInt8.ofNat (c.toNat - 55))
  else none

/-- The bytes of an even number of hex digits. -/
def unhex : List Char → Option (List UInt8)
  | [] => some []
  | [_] => none
  | a :: b :: cs => do
    let hi ← hexValue a
    let lo ← hexValue b
    let rest ← unhex cs
    some ((hi <<< 4 ||| lo) :: rest)

theorem length_hex (bytes : List UInt8) : (hex bytes).length = 2 * bytes.length := by
  induction bytes with
  | nil => rfl
  | cons b bs ih => simp only [hex, List.flatMap_cons, List.length_append, List.length_cons] at ih ⊢; simp; omega

theorem hexDigit_byte : ∀ n : Fin 256,
    hexValue (hexDigit (UInt8.ofFin n >>> 4)) = some (UInt8.ofFin n >>> 4) ∧
    hexValue (hexDigit (UInt8.ofFin n &&& 0x0f)) = some (UInt8.ofFin n &&& 0x0f) ∧
    (UInt8.ofFin n >>> 4) <<< 4 ||| (UInt8.ofFin n &&& 0x0f) = UInt8.ofFin n ∧
    isLowerHex (hexDigit (UInt8.ofFin n >>> 4)) = true ∧ isLowerHex (hexDigit (UInt8.ofFin n &&& 0x0f)) = true := by
  decide +kernel

theorem unhex_hex (bytes : List UInt8) : unhex (hex bytes) = some bytes := by
  induction bytes with
  | nil => rfl
  | cons b bs ih =>
    obtain ⟨hhi, hlo, hb, -, -⟩ := hexDigit_byte b.toFin
    simp only [UInt8.ofFin_toFin] at hhi hlo hb
    change unhex (hexDigit (b >>> 4) :: hexDigit (b &&& 0x0f) :: hex bs) = some (b :: bs)
    simp [unhex, hhi, hlo, ih, hb]

theorem isLowerHex_of_mem_hex {bytes : List UInt8} {c : Char} (hc : c ∈ hex bytes) : isLowerHex c = true := by
  simp only [hex, List.mem_flatMap, List.mem_cons, List.not_mem_nil, or_false] at hc
  obtain ⟨b, -, hc⟩ := hc
  obtain ⟨-, -, -, hhi, hlo⟩ := hexDigit_byte b.toFin
  simp only [UInt8.ofFin_toFin] at hhi hlo
  rcases hc with rfl | rfl
  · exact hhi
  · exact hlo

theorem isWhitespace_of_isLowerHex {c : Char} (hc : isLowerHex c = true) : isWhitespace c = false := by
  simp only [isLowerHex, Bool.or_eq_true, Bool.and_eq_true, decide_eq_true_eq, Char.le_def,
    UInt32.le_iff_toNat_le] at hc
  change ((48 ≤ c.toNat ∧ c.toNat ≤ 57) ∨ (97 ≤ c.toNat ∧ c.toNat ≤ 102)) at hc
  simp only [isWhitespace, Bool.or_eq_false_iff, Bool.and_eq_false_iff, decide_eq_false_iff_not, beq_eq_false_iff_ne]
  omega

theorem utf8Size_of_isLowerHex {c : Char} (hc : isLowerHex c = true) : c.utf8Size = 1 := by
  simp only [isLowerHex, Bool.or_eq_true, Bool.and_eq_true, decide_eq_true_eq, Char.le_def,
    UInt32.le_iff_toNat_le] at hc
  change ((48 ≤ c.toNat ∧ c.toNat ≤ 57) ∨ (97 ≤ c.toNat ∧ c.toNat ≤ 102)) at hc
  have hle : c.val ≤ 127 := by
    rw [UInt32.le_iff_toNat_le]
    change c.toNat ≤ 127
    omega
  exact Char.utf8Size_eq_one_iff.mpr hle

/-! ## UUIDs -/

/-- A UUID: sixteen bytes. -/
structure Uuid where
  bytes : List UInt8
  size : bytes.length = 16
  deriving DecidableEq

namespace Uuid

def nil : Uuid := ⟨List.replicate 16 0, rfl⟩

def isNil (u : Uuid) : Bool := u.bytes.all (· == 0)

/-- Thirty-two lowercase hex digits. -/
def simple (u : Uuid) : List Char := hex u.bytes

/-- `8-4-4-4-12`. -/
def hyphenate (cs : List Char) : List Char :=
  cs.take 8 ++ '-' :: ((cs.drop 8).take 4 ++ '-' :: ((cs.drop 12).take 4 ++ '-' :: ((cs.drop 16).take 4 ++
    '-' :: cs.drop 20)))

/-- The digits of `8-4-4-4-12`, when the four hyphens stand where they belong. -/
def unhyphenate (cs : List Char) : Option (List Char) :=
  if cs[8]? = some '-' ∧ cs[13]? = some '-' ∧ cs[18]? = some '-' ∧ cs[23]? = some '-' then
    some (cs.take 8 ++ (cs.drop 9).take 4 ++ (cs.drop 14).take 4 ++ (cs.drop 19).take 4 ++ cs.drop 24)
  else none

/-- `Uuid::to_string`: the canonical lowercase hyphenated form. -/
def text (u : Uuid) : List Char := hyphenate u.simple

def toString (u : Uuid) : String := String.ofList u.text

def ofDigits (cs : List Char) : Option Uuid :=
  match unhex cs with
  | some bytes => if h : bytes.length = 16 then some ⟨bytes, h⟩ else none
  | none => none

/-- The simple, hyphenated, braced and URN forms, with digits of either case. -/
def parse (cs : List Char) : Option Uuid :=
  if cs.length = 32 then ofDigits cs
  else if cs.length = 36 then (unhyphenate cs).bind ofDigits
  else if cs.length = 38 ∧ cs.head? = some '{' ∧ cs.getLast? = some '}' then
    (unhyphenate (cs.drop 1).dropLast).bind ofDigits
  else if cs.length = 45 ∧ cs.take 9 = "urn:uuid:".toList then (unhyphenate (cs.drop 9)).bind ofDigits
  else none

/-- `Uuid::parse_str`. -/
def parseStr (s : String) : Option Uuid := parse s.toList

theorem length_simple (u : Uuid) : u.simple.length = 32 := by
  rw [simple, length_hex, u.size]

theorem length_hyphenate {cs : List Char} (h : cs.length = 32) : (hyphenate cs).length = 36 := by
  simp [hyphenate, h]

@[simp] theorem length_text (u : Uuid) : u.text.length = 36 := length_hyphenate u.length_simple

theorem unhyphenate_hyphenate {cs : List Char} (h : cs.length = 32) : unhyphenate (hyphenate cs) = some cs := by
  have hsplit : cs = cs.take 8 ++ ((cs.drop 8).take 4 ++ ((cs.drop 12).take 4 ++ ((cs.drop 16).take 4 ++
      cs.drop 20))) := by
    have h16 := List.take_append_drop 4 (cs.drop 16)
    have h12 := List.take_append_drop 4 (cs.drop 12)
    have h8 := List.take_append_drop 4 (cs.drop 8)
    simp only [List.drop_drop] at h16 h12 h8
    rw [h16, h12, h8, List.take_append_drop]
  have hlen : (cs.take 8).length = 8 ∧ ((cs.drop 8).take 4).length = 4 ∧ ((cs.drop 12).take 4).length = 4 ∧
      ((cs.drop 16).take 4).length = 4 := by simp [h]
  unfold hyphenate
  generalize cs.take 8 = a at hsplit hlen
  generalize (cs.drop 8).take 4 = b at hsplit hlen
  generalize (cs.drop 12).take 4 = c at hsplit hlen
  generalize (cs.drop 16).take 4 = d at hsplit hlen
  generalize cs.drop 20 = e at hsplit hlen
  obtain ⟨ha, hb, hc, hd⟩ := hlen
  simp [unhyphenate, hsplit, List.getElem?_append, List.drop_append, List.drop_eq_nil_of_le, ha, hb,
    hc, hd]

theorem ofDigits_simple (u : Uuid) : ofDigits u.simple = some u := by
  simp [ofDigits, simple, unhex_hex, u.size]

theorem parse_text (u : Uuid) : parse u.text = some u := by
  simp [parse, text, unhyphenate_hyphenate u.length_simple, length_hyphenate u.length_simple,
    ofDigits_simple]

@[simp] theorem parseStr_toString (u : Uuid) : parseStr u.toString = some u := by
  simp [parseStr, toString, parse_text]

theorem toString_injective {u v : Uuid} (h : u.toString = v.toString) : u = v := by
  have hu := parseStr_toString u
  rw [h, parseStr_toString] at hu
  exact (Option.some.inj hu).symm

theorem plain_of_mem_text {u : Uuid} {c : Char} (hc : c ∈ u.text) : isLowerHex c = true ∨ c = '-' := by
  simp only [text, hyphenate, List.mem_append, List.mem_cons] at hc
  rcases hc with hc | rfl | hc | rfl | hc | rfl | hc | rfl | hc
  any_goals exact Or.inr rfl
  all_goals left; apply @isLowerHex_of_mem_hex u.bytes
  · exact List.mem_of_mem_take hc
  all_goals
    first
    | exact List.mem_of_mem_drop (List.mem_of_mem_take hc)
    | exact List.mem_of_mem_drop hc

theorem isWhitespace_of_mem_text {u : Uuid} {c : Char} (hc : c ∈ u.text) : isWhitespace c = false := by
  rcases plain_of_mem_text hc with hc | rfl
  · exact isWhitespace_of_isLowerHex hc
  · decide

@[simp] theorem trim_text (u : Uuid) : trim u.text = u.text :=
  trim_eq_self (fun _ hc => isWhitespace_of_mem_text (List.mem_of_mem_head? hc))
    (fun _ hc => isWhitespace_of_mem_text (List.mem_of_mem_getLast? hc))

@[simp] theorem byteLen_text (u : Uuid) : byteLen u.text = 36 := by
  have hsize : ∀ c ∈ u.text, c.utf8Size = 1 := by
    intro c hc
    rcases plain_of_mem_text hc with hc | rfl
    · exact utf8Size_of_isLowerHex hc
    · decide
  rw [byteLen_eq_length hsize, length_text]

end Uuid

end Xsoc
