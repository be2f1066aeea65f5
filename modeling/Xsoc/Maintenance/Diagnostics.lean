import Xsoc.Text

/-!
# The bounded payload of a diagnostic

The tool writes the error of a command into a payload of bounded size. The text comes in fragments, as the formatting
machinery cuts it; of a fragment that does not fit, the payload takes as many characters as do.

* `BoundedDiagnosticPayload`, `writeStr` : the payload; `maintenanceDiagnosticPayload` : its use;
* `fits`, `filled` : the characters that fit, of one fragment and of a run of fragments;
* `writes_bytes` : the payload holds just these;
* `Resumes` : a fragment is taken up again after an earlier one was cut;
* `payload_prefix_iff` : the payload is a prefix of the text exactly where that does not happen.
-/

set_option autoImplicit false

namespace Xsoc

namespace Maintenance

/-! ## The payload -/

structure BoundedDiagnosticPayload where
  bytes : List UInt8
  maxBytes : Nat
  truncated : Bool
  deriving DecidableEq

/-- `str::is_char_boundary` -/
def isCharBoundary : List Char → Nat → Bool
  | _, 0 => true
  | [], _ + 1 => false
  | c :: cs, n + 1 => c.utf8Size ≤ n + 1 && isCharBoundary cs (n + 1 - c.utf8Size)

/-- The loop that looks for the last boundary up to `accepted`. -/
def floorCharBoundary (value : List Char) : Nat → Nat
  | 0 => 0
  | accepted + 1 => if isCharBoundary value (accepted + 1) then accepted + 1 else floorCharBoundary value accepted

namespace BoundedDiagnosticPayload

def new (maxBytes : Nat) : BoundedDiagnosticPayload := ⟨[], maxBytes, false⟩

def writeStr (p : BoundedDiagnosticPayload) (value : List Char) : BoundedDiagnosticPayload :=
  let remaining := p.maxBytes - p.bytes.length
  if remaining = 0 then { p with truncated := p.truncated || !value.isEmpty }
  else
    let accepted := floorCharBoundary value (min (byteLen value) remaining)
    { p with
      bytes := p.bytes ++ (utf8 value).take accepted
      truncated := p.truncated || accepted != byteLen value }

/-- `write!`, with the fragments that it cuts its text into. -/
def writes (p : BoundedDiagnosticPayload) (fragments : List (List Char)) : BoundedDiagnosticPayload :=
  fragments.foldl writeStr p

end BoundedDiagnosticPayload

/-- `MAINTENANCE_DIAGNOSTIC_MAX_BYTES` -/
def maintenanceDiagnosticMaxBytes : Nat := 64 * 1024

/-- An error as it is displayed: the whole chain of its causes, the innermost one, and the outermost context. -/
structure DiagnosticError where
  chain : List (List Char)
  rootCause : List (List Char)
  outer : List (List Char)

/-- `maintenance_diagnostic_payload` -/
def maintenanceDiagnosticPayload (version command : String) (error : DiagnosticError) : List UInt8 :=
  let header := [("format=" ++ "xsoc-maintenance-diagnostic-v1" ++ "\nversion=" ++ version ++ "\ncommand=").toList,
    command.toList]
  let payload := (BoundedDiagnosticPayload.new maintenanceDiagnosticMaxBytes).writes
    (header ++ ["\nerror-chain=".toList] ++ error.chain ++ ["\n".toList])
  if !payload.truncated then payload.bytes
  else
    let payload := (BoundedDiagnosticPayload.new (maintenanceDiagnosticMaxBytes - 1)).writes
      (header ++ ["\nerror-chain=[truncated]\ntruncated=true\nleaf-cause=".toList] ++ error.rootCause ++
        ["\nouter-context=".toList] ++ error.outer)
    payload.bytes ++ utf8 "\n".toList

/-! ## The characters that fit -/

/-- The first characters, as many as fit into so many bytes. -/
def fits : Nat → List Char → List Char
  | _, [] => []
  | room, c :: cs => if c.utf8Size ≤ room then c :: fits (room - c.utf8Size) cs else []

theorem fits_initial (room : Nat) (cs : List Char) : fits room cs <+: cs := by
  induction cs generalizing room with
  | nil => exact List.prefix_rfl
  | cons c cs ih =>
    unfold fits
    split
    · exact (List.prefix_cons_inj c).mpr (ih _)
    · exact List.nil_prefix

theorem byteLen_fits_le (room : Nat) (cs : List Char) : byteLen (fits room cs) ≤ room := by
  induction cs generalizing room with
  | nil => exact Nat.zero_le _
  | cons c cs ih =>
    unfold fits
    split
    · have := ih (room - c.utf8Size)
      rw [byteLen_cons]
      omega
    · exact Nat.zero_le _

theorem fits_eq_self {room : Nat} {cs : List Char} (h : byteLen cs ≤ room) : fits room cs = cs := by
  induction cs generalizing room with
  | nil => rfl
  | cons c cs ih =>
    rw [byteLen_cons] at h
    rw [fits, if_pos (by omega), ih (by omega)]

theorem fits_zero (cs : List Char) : fits 0 cs = [] := by
  cases cs with
  | nil => rfl
  | cons c cs => rw [fits, if_neg (Nat.not_le.mpr c.utf8Size_pos)]

/-- What does not fit begins with a character that has more bytes than there is room left. -/
theorem fits_cut {room : Nat} {cs : List Char} (h : room < byteLen cs) :
    ∃ c rest, cs = fits room cs ++ c :: rest ∧ room - byteLen (fits room cs) < c.utf8Size := by
  induction cs generalizing room with
  | nil => exact absurd h (Nat.not_lt_zero _)
  | cons c cs ih =>
    rw [byteLen_cons] at h
    unfold fits
    split
    · obtain ⟨d, rest, hcs, hd⟩ := @ih (room - c.utf8Size) (by omega)
      refine ⟨d, rest, by rw [List.cons_append, ← hcs], ?_⟩
      rw [byteLen_cons]
      omega
    · exact ⟨c, cs, rfl, by rw [byteLen_nil]; omega⟩

/-- The first character decides whether anything fits. -/
theorem fits_eq_nil {room : Nat} {cs : List Char} : fits room cs = [] ↔ ∀ c ∈ cs.head?, room < c.utf8Size := by
  cases cs with
  | nil => simp [fits]
  | cons c cs =>
    rw [fits]
    split <;> simp <;> omega

theorem isCharBoundary_iff {cs : List Char} {n : Nat} : isCharBoundary cs n = true ↔ byteLen (fits n cs) = n := by
  induction cs generalizing n with
  | nil => cases n <;> simp [isCharBoundary, fits]
  | cons c cs ih =>
    cases n with
    | zero => simp [isCharBoundary, fits_zero]
    | succ n =>
      have hpos := c.utf8Size_pos
      rw [isCharBoundary, Bool.and_eq_true, decide_eq_true_iff, ih, fits]
      split
      · rw [byteLen_cons]
        omega
      · rw [byteLen_nil]
        omega

theorem fits_succ {n : Nat} {cs : List Char} (h : byteLen (fits (n + 1) cs) ≤ n) : fits (n + 1) cs = fits n cs := by
  induction cs generalizing n with
  | nil => rfl
  | cons c cs ih =>
    have hpos := c.utf8Size_pos
    unfold fits at h ⊢
    split at h
    · next hle =>
      rw [byteLen_cons] at h
      have hn : n + 1 - c.utf8Size = n - c.utf8Size + 1 := by omega
      rw [if_pos hle, if_pos (by omega), hn, ih (by rw [← hn]; omega)]
    · next hlt => rw [if_neg hlt, if_neg (by omega)]

theorem floorCharBoundary_eq (cs : List Char) (n : Nat) : floorCharBoundary cs n = byteLen (fits n cs) := by
  induction n with
  | zero => rw [floorCharBoundary, fits_zero, byteLen_nil]
  | succ n ih =>
    rw [floorCharBoundary]
    have hle := byteLen_fits_le (n + 1) cs
    split
    · next h => exact (isCharBoundary_iff.mp h).symm
    · next h =>
      have hne : byteLen (fits (n + 1) cs) ≠ n + 1 := fun heq => h (isCharBoundary_iff.mpr heq)
      rw [ih, fits_succ (by omega)]

theorem fits_min (room : Nat) (cs : List Char) : fits (min (byteLen cs) room) cs = fits room cs := by
  rcases Nat.le_total (byteLen cs) room with h | h
  · rw [Nat.min_eq_left h, fits_eq_self (Nat.le_refl _), fits_eq_self h]
  · rw [Nat.min_eq_right h]

/-! ## What a payload holds -/

/-- What is held after a further fragment, in so many bytes. -/
def fill (maxBytes : Nat) (held fragment : List Char) : List Char := held ++ fits (maxBytes - byteLen held) fragment

/-- The characters that a payload holds after these fragments. -/
def filled (maxBytes : Nat) (held : List Char) (fragments : List (List Char)) : List Char :=
  fragments.foldl (fill maxBytes) held

theorem take_utf8 {as bs : List Char} (h : as <+: bs) : (utf8 bs).take (byteLen as) = utf8 as := by
  obtain ⟨rest, rfl⟩ := h
  rw [utf8_append, ← length_utf8, List.take_left]

/-- The payload holds these characters of this text, and knows whether they are all. -/
structure Holds (p : BoundedDiagnosticPayload) (held text : List Char) : Prop where
  bytes : p.bytes = utf8 held
  bounded : byteLen held ≤ p.maxBytes
  total : byteLen held ≤ byteLen text
  truncated : p.truncated = true ↔ byteLen held < byteLen text

theorem Holds.writeStr {p : BoundedDiagnosticPayload} {held text : List Char} (h : Holds p held text)
    (fragment : List Char) :
    Holds (p.writeStr fragment) (fill p.maxBytes held fragment) (text ++ fragment) ∧
      (p.writeStr fragment).maxBytes = p.maxBytes := by
  obtain ⟨hbytes, hbounded, htotal, htruncated⟩ := h
  have hroom := byteLen_fits_le (p.maxBytes - byteLen held) fragment
  have hfits : byteLen (fits (p.maxBytes - byteLen held) fragment) ≤ byteLen fragment := by
    obtain ⟨rest, hrest⟩ := fits_initial (p.maxBytes - byteLen held) fragment
    conv_rhs => rw [← hrest, byteLen_append]
    exact Nat.le_add_right _ _
  unfold BoundedDiagnosticPayload.writeStr fill
  rw [hbytes, length_utf8]
  by_cases hfull : p.maxBytes - byteLen held = 0
  · simp only [if_pos hfull]
    refine ⟨⟨?_, ?_, ?_, ?_⟩, trivial⟩
    · rw [hfull, fits_zero, List.append_nil]
    · rw [hfull, fits_zero, List.append_nil]
      exact hbounded
    · rw [byteLen_append, byteLen_append]
      omega
    · have hempty : fragment.isEmpty = false ↔ 0 < byteLen fragment := by
        cases fragment with
        | nil => simp
        | cons c cs => exact iff_of_true rfl (Nat.lt_of_lt_of_le c.utf8Size_pos (Nat.le_add_right _ _))
      rw [hfull, fits_zero, List.append_nil, byteLen_append, Bool.or_eq_true, htruncated, Bool.not_eq_true', hempty]
      omega
  · simp only [if_neg hfull]
    rw [floorCharBoundary_eq, fits_min, take_utf8 (fits_initial _ _)]
    refine ⟨⟨(utf8_append _ _).symm, ?_, ?_, ?_⟩, trivial⟩
    · rw [byteLen_append]
      show _ ≤ p.maxBytes
      omega
    · rw [byteLen_append, byteLen_append]
      omega
    · rw [byteLen_append, byteLen_append, Bool.or_eq_true, htruncated, bne_iff_ne]
      omega

theorem Holds.writes {p : BoundedDiagnosticPayload} {held text : List Char} (h : Holds p held text)
    (fragments : List (List Char)) :
    Holds (p.writes fragments) (filled p.maxBytes held fragments) (text ++ fragments.flatten) ∧
      (p.writes fragments).maxBytes = p.maxBytes := by
  induction fragments generalizing p held text with
  | nil => exact ⟨by rwa [List.flatten_nil, List.append_nil], rfl⟩
  | cons fragment fragments ih =>
    obtain ⟨hheld, hmax⟩ := h.writeStr fragment
    obtain ⟨hrest, hmax'⟩ := ih hheld
    rw [hmax, List.append_assoc] at hrest
    exact ⟨hrest, hmax'.trans hmax⟩

/-- A payload holds the characters that fit, of each fragment in turn, and no others. -/
theorem writes_holds (maxBytes : Nat) (fragments : List (List Char)) :
    Holds ((BoundedDiagnosticPayload.new maxBytes).writes fragments) (filled maxBytes [] fragments) fragments.flatten ∧
      ((BoundedDiagnosticPayload.new maxBytes).writes fragments).maxBytes = maxBytes :=
  Holds.writes (p := .new maxBytes)
    ⟨rfl, Nat.zero_le _, Nat.le_refl _, by simp [BoundedDiagnosticPayload.new]⟩ fragments

/-- Whatever the error is, what is written about it is bounded. -/
theorem maintenanceDiagnosticPayload_le (version command : String) (error : DiagnosticError) :
    (maintenanceDiagnosticPayload version command error).length ≤ maintenanceDiagnosticMaxBytes := by
  have hle : ∀ maxBytes fragments, ((BoundedDiagnosticPayload.new maxBytes).writes fragments).bytes.length ≤
      maxBytes := by
    intro maxBytes fragments
    obtain ⟨hholds, hmax⟩ := writes_holds maxBytes fragments
    rw [hholds.bytes, length_utf8]
    exact Nat.le_trans hholds.bounded (Nat.le_of_eq hmax)
  unfold maintenanceDiagnosticPayload
  dsimp only
  split
  · exact hle _ _
  · rw [List.length_append]
    have hnewline : (utf8 "\n".toList).length = 1 := rfl
    have := hle (maintenanceDiagnosticMaxBytes - 1)
    have hmax : 1 ≤ maintenanceDiagnosticMaxBytes := by decide
    exact Nat.le_trans (Nat.add_le_add (this _) (Nat.le_of_eq hnewline)) (Nat.le_of_eq (Nat.sub_add_cancel hmax))

/-! ## When that is a prefix -/

section

variable {maxBytes : Nat} {held : List Char} {fragments : List (List Char)}

theorem prefix_filled : held <+: filled maxBytes held fragments := by
  induction fragments generalizing held with
  | nil => exact List.prefix_rfl
  | cons fragment fragments ih => exact (List.prefix_append held _).trans ih

theorem filled_of_le (h : byteLen held + byteLen fragments.flatten ≤ maxBytes) :
    filled maxBytes held fragments = held ++ fragments.flatten := by
  induction fragments generalizing held with
  | nil => rw [List.flatten_nil, List.append_nil]; rfl
  | cons fragment fragments ih =>
    rw [List.flatten_cons, byteLen_append] at h
    show filled maxBytes (fill maxBytes held fragment) fragments = _
    rw [fill, fits_eq_self (by omega), ih (by rw [byteLen_append]; omega), List.flatten_cons, List.append_assoc]

/-- Where no fragment begins with a character that fits, nothing is taken. -/
theorem filled_eq_self (h : ∀ later ∈ fragments, ∀ c ∈ later.head?, maxBytes - byteLen held < c.utf8Size) :
    filled maxBytes held fragments = held := by
  induction fragments with
  | nil => rfl
  | cons fragment fragments ih =>
    show filled maxBytes (fill maxBytes held fragment) fragments = _
    rw [fill, fits_eq_nil.mpr (h fragment List.mem_cons_self), List.append_nil]
    exact ih fun later hlater => h later (List.mem_cons_of_mem _ hlater)

/-- Where one does, the next character that is taken is one that fits. -/
theorem filled_resumes {later : List Char} (hlater : later ∈ fragments) {c : Char} (hc : c ∈ later.head?)
    (hfits : c.utf8Size ≤ maxBytes - byteLen held) :
    ∃ d rest, filled maxBytes held fragments = held ++ d :: rest ∧ d.utf8Size ≤ maxBytes - byteLen held := by
  induction fragments with
  | nil => cases hlater
  | cons fragment fragments ih =>
    show ∃ d rest, filled maxBytes (fill maxBytes held fragment) fragments = _ ∧ _
    unfold fill
    cases htaken : fits (maxBytes - byteLen held) fragment with
    | nil =>
      rw [List.append_nil]
      rcases List.mem_cons.mp hlater with rfl | hlater
      · exact absurd hfits (Nat.not_le.mpr (fits_eq_nil.mp htaken c hc))
      · exact ih hlater
    | cons d taken =>
      obtain ⟨rest, hrest⟩ := @prefix_filled maxBytes (held ++ d :: taken) fragments
      refine ⟨d, taken ++ rest, by rw [← hrest, List.append_assoc, List.cons_append], ?_⟩
      have hle := byteLen_fits_le (maxBytes - byteLen held) fragment
      rw [htaken, byteLen_cons] at hle
      omega

end

/-- A fragment is cut, the first one that does not fit, and a later one begins with a character for which the cut has
left room. -/
def Resumes (maxBytes : Nat) (fragments : List (List Char)) : Prop :=
  ∃ before cut after, fragments = before ++ cut :: after ∧ byteLen before.flatten ≤ maxBytes ∧
    maxBytes < byteLen before.flatten + byteLen cut ∧
    ∃ later ∈ after, ∃ c ∈ later.head?, c.utf8Size ≤
      maxBytes - byteLen (before.flatten ++ fits (maxBytes - byteLen before.flatten) cut)

theorem exists_cut {maxBytes : Nat} {fragments : List (List Char)} (h : maxBytes < byteLen fragments.flatten) :
    ∃ before cut after, fragments = before ++ cut :: after ∧ byteLen before.flatten ≤ maxBytes ∧
      maxBytes < byteLen before.flatten + byteLen cut := by
  induction fragments generalizing maxBytes with
  | nil => exact absurd h (Nat.not_lt_zero _)
  | cons fragment fragments ih =>
    rw [List.flatten_cons, byteLen_append] at h
    by_cases hcut : maxBytes < byteLen fragment
    · exact ⟨[], fragment, fragments, rfl, Nat.zero_le _, by simpa using hcut⟩
    · obtain ⟨before, cut, after, rfl, hbefore, hafter⟩ := @ih (maxBytes - byteLen fragment) (by omega)
      refine ⟨fragment :: before, cut, after, rfl, ?_, ?_⟩
      · rw [List.flatten_cons, byteLen_append]
        omega
      · rw [List.flatten_cons, byteLen_append]
        omega

/-- What is held after the cut, which is where the text goes on with a character that does not fit. -/
theorem filled_cut {maxBytes : Nat} {before after : List (List Char)} {cut : List Char}
    (hbefore : byteLen before.flatten ≤ maxBytes) :
    filled maxBytes [] (before ++ cut :: after) =
      filled maxBytes (before.flatten ++ fits (maxBytes - byteLen before.flatten) cut) after := by
  have hfilled := @filled_of_le maxBytes [] before (by simpa using hbefore)
  unfold filled at hfilled ⊢
  rw [List.foldl_append, hfilled]
  rfl

/-- The payload is a prefix of the text, cut between characters, that is no longer than the limit and says whether it is
the whole text, exactly where no fragment is taken up again after an earlier one was cut. -/
theorem payload_prefix_iff (maxBytes : Nat) (fragments : List (List Char)) :
    ((∃ held, held <+: fragments.flatten ∧
        ((BoundedDiagnosticPayload.new maxBytes).writes fragments).bytes = utf8 held) ∧
      ((BoundedDiagnosticPayload.new maxBytes).writes fragments).bytes.length ≤ maxBytes ∧
      (((BoundedDiagnosticPayload.new maxBytes).writes fragments).truncated = true ↔
        ((BoundedDiagnosticPayload.new maxBytes).writes fragments).bytes.length < (utf8 fragments.flatten).length)) ↔
      ¬ Resumes maxBytes fragments := by
  obtain ⟨⟨hbytes, hbounded, -, htruncated⟩, hmax⟩ := writes_holds maxBytes fragments
  rw [hmax] at hbounded
  rw [hbytes, length_utf8, length_utf8, and_iff_left ⟨hbounded, htruncated⟩]
  constructor
  · rintro ⟨held, hinitial, hheld⟩ ⟨before, cut, after, rfl, hbefore, hcut, later, hlater, c, hc, hfits⟩
    rw [← utf8_injective hheld, filled_cut hbefore] at hinitial
    obtain ⟨d, rest, hresumed, hd⟩ := filled_resumes hlater hc hfits
    obtain ⟨e, rest', hrest', he⟩ := @fits_cut (maxBytes - byteLen before.flatten) cut (by omega)
    have htext : (before ++ cut :: after).flatten =
        (before.flatten ++ fits (maxBytes - byteLen before.flatten) cut) ++ (e :: rest' ++ after.flatten) := by
      conv_lhs => rw [List.flatten_append, List.flatten_cons, hrest']
      simp only [List.append_assoc, List.cons_append]
    rw [hresumed, htext, List.prefix_append_right_inj, List.cons_append, List.cons_prefix_cons] at hinitial
    rw [hinitial.1, byteLen_append] at hd
    omega
  · intro hresumes
    refine ⟨_, ?_, rfl⟩
    rcases Nat.lt_or_ge maxBytes (byteLen fragments.flatten) with hgt | hle
    · obtain ⟨before, cut, after, rfl, hbefore, hcut⟩ := exists_cut hgt
      rw [filled_cut hbefore, filled_eq_self, List.flatten_append, List.flatten_cons]
      · exact (List.prefix_append_right_inj _).mpr ((fits_initial _ _).trans (List.prefix_append _ _))
      · intro later hlater c hc
        by_contra hfits
        exact hresumes ⟨before, cut, after, rfl, hbefore, hcut, later, hlater, c, hc, Nat.not_lt.mp hfits⟩
    · rw [filled_of_le (by simpa using hle), List.nil_append]

/-- Three bytes, a character of two bytes where one is left, and then one that fits. -/
theorem payload_resumes : ¬ ∀ (maxBytes : Nat) (fragments : List (List Char)),
    (∃ held, held <+: fragments.flatten ∧
        ((BoundedDiagnosticPayload.new maxBytes).writes fragments).bytes = utf8 held) ∧
      ((BoundedDiagnosticPayload.new maxBytes).writes fragments).bytes.length ≤ maxBytes ∧
      (((BoundedDiagnosticPayload.new maxBytes).writes fragments).truncated = true ↔
        ((BoundedDiagnosticPayload.new maxBytes).writes fragments).bytes.length < (utf8 fragments.flatten).length) := by
  intro h
  obtain ⟨⟨held, hinitial, hheld⟩, -⟩ := h 3 [['a', 'b'], ['é'], ['c']]
  have hbytes : ((BoundedDiagnosticPayload.new 3).writes [['a', 'b'], ['é'], ['c']]).bytes = utf8 ['a', 'b', 'c'] := by
    decide
  have hsame := utf8_injective (hbytes.symm.trans hheld)
  subst hsame
  revert hinitial
  decide

end Maintenance

end Xsoc
