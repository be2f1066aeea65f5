import Xsoc.Text

/-!
# JSON documents as they are written

`serde_json`'s pretty form of the flat objects the client stores: one `"key": value` line per field, two blanks of
indentation. Only the sizes matter to the model: every state file has a byte budget.

* `byteLen_prettyObject` : the size of a document is what its fields add up to;
* `le_byteLen_quote` : escaping never shortens a text;
* `quote_append_inj` : a text without control characters can be read back.
-/

set_option autoImplicit false

namespace Xsoc
namespace Json

/-- `\u00xx`. -/
def unicodeEscape (c : Char) : List Char :=
  '\\' :: 'u' :: '0' :: '0' :: hex [UInt8.ofNat c.toNat]

/-- One character of a JSON string. -/
def escapeChar (c : Char) : List Char :=
  if c = '"' then ['\\', '"']
  else if c = '\\' then ['\\', '\\']
  else if c.toNat = 8 then ['\\', 'b']
  else if c.toNat = 9 then ['\\', 't']
  else if c.toNat = 10 then ['\\', 'n']
  else if c.toNat = 12 then ['\\', 'f']
  else if c.toNat = 13 then ['\\', 'r']
  else if c.toNat < 32 then unicodeEscape c
  else [c]

/-- A JSON string. -/
def quote (cs : List Char) : List Char := '"' :: (cs.flatMap escapeChar ++ ['"'])

def text (s : String) : List Char := quote s.toList

def number (n : Nat) : List Char := (Nat.repr n).toList

/-- `  "key": value`. -/
def field (kv : String × List Char) : List Char :=
  "  \"".toList ++ kv.1.toList ++ "\": ".toList ++ kv.2

/-- The fields, one a line, a comma after each but the last. -/
def fieldLines : List (String × List Char) → List Char
  | [] => []
  | [kv] => field kv
  | kv :: kvs => field kv ++ ",\n".toList ++ fieldLines kvs

/-- `serde_json::to_string_pretty` of an object with at least one field. -/
def prettyObject (fields : List (String × List Char)) : List Char :=
  "\x7b\n".toList ++ fieldLines fields ++ "\n\x7d".toList

/-! ## Sizes -/

/-- What one field adds to the size of a document: indentation, quotes, colon, comma and line break included. -/
def fieldSize (kv : String × List Char) : Nat := byteLen kv.1.toList + byteLen kv.2 + 8

theorem byteLen_field (kv : String × List Char) : byteLen (field kv) + 2 = fieldSize kv := by
  simp only [field, byteLen_append, fieldSize]
  have h1 : byteLen "  \"".toList = 3 := by decide
  have h2 : byteLen "\": ".toList = 3 := by decide
  omega

theorem byteLen_fieldLines (kv : String × List Char) (kvs : List (String × List Char)) :
    byteLen (fieldLines (kv :: kvs)) + 2 = ((kv :: kvs).map fieldSize).sum := by
  induction kvs generalizing kv with
  | nil => simpa [fieldLines] using byteLen_field kv
  | cons kv' kvs ih =>
    have hsep : byteLen ",\n".toList = 2 := by decide
    have hkv := byteLen_field kv
    have hrest := ih kv'
    rw [List.map_cons, List.sum_cons, ← hrest]
    simp only [fieldLines, byteLen_append]
    omega

/-- A document is as long as its fields add up to, and two more. -/
theorem byteLen_prettyObject (kv : String × List Char) (kvs : List (String × List Char)) :
    byteLen (prettyObject (kv :: kvs)) = ((kv :: kvs).map fieldSize).sum + 2 := by
  have hopen : byteLen "\x7b\n".toList = 2 := by decide
  have hclose : byteLen "\n\x7d".toList = 2 := by decide
  have hlines := byteLen_fieldLines kv kvs
  simp only [prettyObject, byteLen_append]
  omega

theorem le_byteLen_escapeChar (c : Char) : c.utf8Size ≤ byteLen (escapeChar c) := by
  have hascii : c.toNat < 128 → c.utf8Size = 1 := by
    intro hc
    have hle : c.val ≤ 127 := by
      rw [UInt32.le_iff_toNat_le]
      change c.toNat ≤ 127
      omega
    exact Char.utf8Size_eq_one_iff.mpr hle
  unfold escapeChar
  split
  · subst_vars; decide
  split
  · subst_vars; decide
  split
  · rw [hascii (by omega)]; decide
  split
  · rw [hascii (by omega)]; decide
  split
  · rw [hascii (by omega)]; decide
  split
  · rw [hascii (by omega)]; decide
  split
  · rw [hascii (by omega)]; decide
  split
  · rw [hascii (by omega)]
    simp only [unicodeEscape, byteLen_cons]
    have := Char.utf8Size_pos '\\'
    omega
  · simp

theorem le_byteLen_quote (cs : List Char) : byteLen cs + 2 ≤ byteLen (quote cs) := by
  have hq : ('"' : Char).utf8Size = 1 := by decide
  have hbody : byteLen cs ≤ byteLen (cs.flatMap escapeChar) := by
    induction cs with
    | nil => simp
    | cons c cs ih =>
      have hc := le_byteLen_escapeChar c
      rw [List.flatMap_cons, byteLen_append, byteLen_cons]
      omega
  simp only [quote, byteLen_cons, byteLen_append, byteLen_nil, hq]
  omega

/-- A character that JSON writes as itself, in one byte. -/
def plain (c : Char) : Bool := 32 ≤ c.toNat && c.toNat < 127 && c != '"' && c != '\\'

theorem escapeChar_of_plain {c : Char} (hc : plain c = true) : escapeChar c = [c] := by
  simp only [plain, Bool.and_eq_true, decide_eq_true_eq, bne_iff_ne, ne_eq] at hc
  obtain ⟨⟨⟨hlo, -⟩, hquote⟩, hback⟩ := hc
  unfold escapeChar
  rw [if_neg hquote, if_neg hback, if_neg (by omega), if_neg (by omega), if_neg (by omega), if_neg (by omega),
    if_neg (by omega), if_neg (by omega)]

theorem utf8Size_of_plain {c : Char} (hc : plain c = true) : c.utf8Size = 1 := by
  simp only [plain, Bool.and_eq_true, decide_eq_true_eq] at hc
  have hle : c.val ≤ 127 := by
    rw [UInt32.le_iff_toNat_le]
    change c.toNat ≤ 127
    omega
  exact Char.utf8Size_eq_one_iff.mpr hle

theorem byteLen_quote_of_plain {cs : List Char} (h : ∀ c ∈ cs, plain c = true) :
    byteLen (quote cs) = cs.length + 2 := by
  have hbody : cs.flatMap escapeChar = cs := by
    induction cs with
    | nil => rfl
    | cons c cs ih =>
      rw [List.flatMap_cons, escapeChar_of_plain (h c List.mem_cons_self),
        ih (fun d hd => h d (List.mem_cons_of_mem c hd))]
      rfl
  have hq : ('"' : Char).utf8Size = 1 := by decide
  have hlen : byteLen cs = cs.length := byteLen_eq_length (fun c hc => utf8Size_of_plain (h c hc))
  rw [quote, hbody]
  simp only [byteLen_cons, byteLen_append, byteLen_nil, hq, hlen]
  omega

/-- A document starts and ends with a brace, so trimming leaves it as it is. -/
@[simp] theorem trim_prettyObject (fields : List (String × List Char)) :
    trim (prettyObject fields) = prettyObject fields := by
  apply trim_eq_self
  · intro c hc
    have : c = '\x7b' := by simpa [prettyObject] using hc.symm
    rw [this]; decide
  · intro c hc
    have hlast : (prettyObject fields).getLast? = some '\x7d' := by
      rw [prettyObject, List.getLast?_append]
      rfl
    rw [hlast] at hc
    rw [← Option.some.inj hc]; decide

theorem length_prettyObject_pos (fields : List (String × List Char)) : 0 < byteLen (prettyObject fields) := by
  have hopen : byteLen "\x7b\n".toList = 2 := by decide
  simp only [prettyObject, byteLen_append]
  omega

/-! ## Reading a text back -/

theorem escapeChar_of_printable {c : Char} (hc : 32 ≤ c.toNat) :
    escapeChar c = if c = '"' ∨ c = '\\' then ['\\', c] else [c] := by
  unfold escapeChar
  by_cases hquote : c = '"'
  · rw [if_pos hquote, if_pos (Or.inl hquote), hquote]
  by_cases hback : c = '\\'
  · rw [if_neg hquote, if_pos hback, if_pos (Or.inr hback), hback]
  rw [if_neg hquote, if_neg hback, if_neg (by omega), if_neg (by omega), if_neg (by omega), if_neg (by omega),
    if_neg (by omega), if_neg (by omega), if_neg (by tauto)]

theorem escapeChar_append_inj {c d : Char} {xs ys : List Char} (hc : 32 ≤ c.toNat) (hd : 32 ≤ d.toNat)
    (h : escapeChar c ++ xs = escapeChar d ++ ys) : c = d ∧ xs = ys := by
  rw [escapeChar_of_printable hc, escapeChar_of_printable hd] at h
  by_cases hspecial : c = '"' ∨ c = '\\' <;> by_cases hspecial' : d = '"' ∨ d = '\\'
  · rw [if_pos hspecial, if_pos hspecial'] at h
    simpa using h
  · rw [if_pos hspecial, if_neg hspecial'] at h
    exact absurd (Or.inr (List.cons.inj h).1.symm) hspecial'
  · rw [if_neg hspecial, if_pos hspecial'] at h
    exact absurd (Or.inr (List.cons.inj h).1) hspecial
  · rw [if_neg hspecial, if_neg hspecial'] at h
    simpa using h

/-- The quotation mark that ends a text is not the start of a character in it. -/
theorem escapeChar_append_ne_quote {c : Char} {xs ys : List Char} (hc : 32 ≤ c.toNat) :
    escapeChar c ++ xs ≠ '"' :: ys := by
  rw [escapeChar_of_printable hc]
  by_cases hspecial : c = '"' ∨ c = '\\'
  · rw [if_pos hspecial]
    intro h
    exact absurd (List.cons.inj h).1 (by decide)
  · rw [if_neg hspecial]
    intro h
    exact hspecial (Or.inl (List.cons.inj h).1)

/-- What follows a string tells where it ended. -/
theorem quote_append_inj {as bs xs ys : List Char} (has : ∀ c ∈ as, 32 ≤ c.toNat) (hbs : ∀ c ∈ bs, 32 ≤ c.toNat)
    (h : quote as ++ xs = quote bs ++ ys) : as = bs ∧ xs = ys := by
  have hbody : as.flatMap escapeChar ++ '"' :: xs = bs.flatMap escapeChar ++ '"' :: ys := by
    simpa [quote] using h
  clear h
  induction as generalizing bs with
  | nil =>
    cases bs with
    | nil => exact ⟨rfl, (List.cons.inj hbody).2⟩
    | cons d bs =>
      rw [List.flatMap_cons, List.append_assoc] at hbody
      exact absurd hbody.symm (escapeChar_append_ne_quote (hbs d List.mem_cons_self))
  | cons c as ih =>
    cases bs with
    | nil =>
      rw [List.flatMap_cons, List.append_assoc] at hbody
      exact absurd hbody (escapeChar_append_ne_quote (has c List.mem_cons_self))
    | cons d bs =>
      rw [List.flatMap_cons, List.flatMap_cons, List.append_assoc, List.append_assoc] at hbody
      obtain ⟨rfl, hrest⟩ := escapeChar_append_inj (has c List.mem_cons_self) (hbs d List.mem_cons_self) hbody
      obtain ⟨rfl, hxs⟩ := ih (fun e he => has e (List.mem_cons_of_mem c he))
        (fun e he => hbs e (List.mem_cons_of_mem c he)) hrest
      exact ⟨rfl, hxs⟩

end Json
end Xsoc
