import Mathlib.Data.List.Basic

/-!
# Cutting a text

* `splitOnce` : at the first occurrence of a pattern;
* `replaceAll` : each occurrence of a pattern, from left to right;
* `append_mark_eq` : where a mark can be in one text.

What holds no character a pattern starts with is passed over: `splitOnce_of_free`, `replaceAll_append_of_free`.
-/

set_option autoImplicit false

namespace Bounding

variable {α : Type} [DecidableEq α]

/-- What is before the first occurrence of the pattern and what is after it. -/
def splitOnce (pattern : List α) : List α → Option (List α × List α)
  | [] => none
  | c :: cs =>
    if pattern.isPrefixOf (c :: cs) then some ([], (c :: cs).drop pattern.length)
    else (splitOnce pattern cs).map fun (before, after) => (c :: before, after)

/-- The replacement, where the next `skip` characters are of an occurrence. -/
def replaceFrom (pattern replacement : List α) : Nat → List α → List α
  | _, [] => []
  | 0, c :: cs =>
    if pattern.isPrefixOf (c :: cs) then replacement ++ replaceFrom pattern replacement (pattern.length - 1) cs
    else c :: replaceFrom pattern replacement 0 cs
  | skip + 1, _ :: cs => replaceFrom pattern replacement skip cs

/-- Each occurrence of the pattern, replaced. -/
def replaceAll (pattern replacement cs : List α) : List α := replaceFrom pattern replacement 0 cs

theorem splitOnce_singleton_of_free {c : α} {before : List α} (after : List α) (h : c ∉ before) :
    splitOnce [c] (before ++ c :: after) = some (before, after) := by
  induction before with
  | nil => simp [splitOnce]
  | cons d before ih =>
    rw [List.mem_cons, not_or] at h
    simp [splitOnce, h.1, ih h.2]

theorem splitOnce_singleton_eq_none {c : α} {cs : List α} (h : c ∉ cs) : splitOnce [c] cs = none := by
  induction cs with
  | nil => rfl
  | cons d cs ih =>
    rw [List.mem_cons, not_or] at h
    simp [splitOnce, h.1, ih h.2]

/-- No occurrence starts in what is free of the first character. -/
theorem replaceAll_append_of_free {c : α} {pattern replacement before : List α} (after : List α) (h : c ∉ before) :
    replaceAll (c :: pattern) replacement (before ++ after) =
      before ++ replaceAll (c :: pattern) replacement after := by
  unfold replaceAll
  induction before with
  | nil => rfl
  | cons d before ih =>
    rw [List.mem_cons, not_or] at h
    rw [List.cons_append, replaceFrom, if_neg (by simp [h.1]), ih h.2, List.cons_append]

/-- The occurrence at the start. -/
theorem replaceAll_pattern_append (c : α) (pattern replacement after : List α) :
    replaceAll (c :: pattern) replacement (c :: pattern ++ after) =
      replacement ++ replaceAll (c :: pattern) replacement after := by
  have hskip (skipped : List α) : replaceFrom (c :: pattern) replacement skipped.length (skipped ++ after) =
      replaceFrom (c :: pattern) replacement 0 after := by
    induction skipped with
    | nil => rfl
    | cons d skipped ih => exact ih
  unfold replaceAll
  rw [List.cons_append, replaceFrom, if_pos (by simp), List.length_cons, Nat.add_sub_cancel, hskip]

theorem replaceAll_cons_of_not_prefix {pattern replacement cs : List α} {c : α}
    (h : ¬ pattern <+: c :: cs) :
    replaceAll pattern replacement (c :: cs) = c :: replaceAll pattern replacement cs := by
  unfold replaceAll
  rw [replaceFrom, if_neg (by simpa using h)]

omit [DecidableEq α] in
/-- An occurrence ends before what is not in the pattern. -/
theorem prefix_of_prefix_append_cons {pattern cs rest : List α} {d : α} (hd : d ∉ pattern)
    (h : pattern <+: cs ++ d :: rest) : pattern <+: cs := by
  by_cases hlength : pattern.length ≤ cs.length
  · exact List.prefix_of_prefix_length_le h (List.prefix_append _ _) hlength
  · have hinitial : cs ++ [d] <+: pattern := by
      apply @List.prefix_of_prefix_length_le _ _ _ (cs ++ d :: rest) _ h
      · rw [List.length_append, List.length_singleton]
        omega
      · exact ⟨rest, by rw [List.append_assoc]; rfl⟩
    exact absurd (hinitial.subset (by simp)) hd

omit [DecidableEq α] in
/-- Two ways to have a mark in one text: the same way, or the mark is there twice. The mark starts with what it has
once. -/
theorem append_mark_eq {c : α} {mark as bs cs ds : List α} (hc : c ∉ mark)
    (h : as ++ c :: mark ++ bs = cs ++ c :: mark ++ ds) :
    as = cs ∧ bs = ds ∨ (∃ between, as = cs ++ c :: mark ++ between ∧ ds = between ++ c :: mark ++ bs) ∨
      ∃ between, cs = as ++ c :: mark ++ between ∧ bs = between ++ c :: mark ++ ds := by
  have hlonger {as bs cs ds z : List α} (has : as = cs ++ z) (hz : c :: mark ++ ds = z ++ (c :: mark ++ bs)) :
      as = cs ∧ bs = ds ∨ ∃ between, as = cs ++ c :: mark ++ between ∧ ds = between ++ c :: mark ++ bs := by
    rcases List.append_eq_append_iff.mp hz with ⟨between, rfl, hds⟩ | ⟨w, hmark, hw⟩
    · exact Or.inr ⟨between, by rw [has, List.append_assoc], by rw [hds, List.append_assoc]⟩
    · cases z with
      | nil => exact Or.inl ⟨by rw [has, List.append_nil], (List.append_cancel_left hz).symm⟩
      | cons e z =>
        obtain ⟨rfl, hrest⟩ := List.cons.inj hmark
        cases w with
        | nil =>
          have hsame : mark = z := hrest.trans (List.append_nil z)
          refine Or.inr ⟨[], ?_, ?_⟩
          · rw [has, ← hsame, List.append_nil]
          · exact hw.symm
        | cons e' w =>
          obtain ⟨rfl, -⟩ := List.cons.inj hw
          -- the mark would start again inside of itself
          exact absurd (hrest ▸ List.mem_append_right _ List.mem_cons_self) hc
  rw [List.append_assoc, List.append_assoc] at h
  rcases List.append_eq_append_iff.mp h with ⟨z, hcs, hz⟩ | ⟨z, has, hz⟩
  · rcases hlonger hcs hz with ⟨rfl, rfl⟩ | hbetween
    · exact Or.inl ⟨rfl, rfl⟩
    · exact Or.inr (Or.inr hbetween)
  · rcases hlonger has hz with hsame | hbetween
    · exact Or.inl hsame
    · exact Or.inr (Or.inl hbetween)

end Bounding
