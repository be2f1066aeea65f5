import Xsoc.Bounding.Ranked
import Mathlib.Data.List.FinRange

/-!
# Listings

Lists of keys that are compared as sets: each is sorted, neighbours are compared, and then the two lists.

* `windows` : a test of all neighbours; on a sorted list it tells whether the keys are distinct (`windows_distinct`);
* `zipAll` : a test of all pairs of two lists; it compares their keys (`zipAll_keys`), and on lists with the same keys
  what has one key (`zipAll_agree`);
* `sortedIndices` : the indices of a list, sorted by what they lead to;
* `InOrder.map_eq_iff` : on sorted lists of distinct keys, to compare them is to compare them as sets;
* `mem_take_iff_countP_lt` : what a cut leaves of a list in strict order, `sortBy_concat` : an element added to one.
-/

set_option autoImplicit false

namespace Bounding

universe u v w

variable {α : Type u} {β : Type w} {κ : Type v}

/-- `windows(2).all(test)` -/
def windows (test : α → α → Bool) : List α → Bool
  | [] => true
  | [_] => true
  | x :: y :: l => test x y && windows test (y :: l)

theorem windows_iff {test : α → α → Bool} {l : List α} :
    windows test l = true ↔ l.IsChain fun x y => test x y = true := by
  induction l using windows.induct with
  | case1 => simp [windows]
  | case2 x => simp [windows]
  | case3 x y l ih => rw [windows, Bool.and_eq_true, List.isChain_cons_cons, ih]

/-- `zip(..).all(test)` -/
def zipAll (test : α → β → Bool) (l : List α) (l' : List β) : Bool := (l.zip l').all fun (x, y) => test x y

/-- Two lists are of one length with equal keys all along. -/
theorem zipAll_keys [DecidableEq κ] {key : α → κ} {key' : β → κ} {l : List α} {l' : List β} :
    (l.length = l'.length ∧ zipAll (fun x y => decide (key x = key' y)) l l' = true) ↔ l.map key = l'.map key' := by
  induction l generalizing l' with
  | nil => cases l' <;> simp [zipAll]
  | cons x l ih =>
    cases l' with
    | nil => simp
    | cons y l' =>
      rw [List.map_cons, List.map_cons, List.cons.injEq, ← ih]
      simp only [List.length_cons, Nat.add_right_cancel_iff, zipAll, List.zip_cons_cons, List.all_cons,
        Bool.and_eq_true, decide_eq_true_eq]
      tauto

/-- Along lists with the same distinct keys, what is compared is what has the same key. -/
theorem zipAll_agree {γ : Type u} [DecidableEq γ] {key : α → κ} {key' : β → κ} {f : α → γ} {g : β → γ} {l : List α}
    {l' : List β} (hkeys : l.map key = l'.map key') (hdistinct : (l.map key).Nodup) :
    zipAll (fun x y => decide (f x = g y)) l l' = true ↔ ∀ x ∈ l, ∀ y ∈ l', key x = key' y → f x = g y := by
  induction l generalizing l' with
  | nil => simp [zipAll]
  | cons x l ih =>
    cases l' with
    | nil => cases hkeys
    | cons y l' =>
      obtain ⟨hkey, hkeys⟩ := List.cons.inj hkeys
      obtain ⟨hnot, hdistinct⟩ := List.nodup_cons.mp hdistinct
      have hnot' : key' y ∉ l'.map key' := by rwa [← hkey, ← hkeys]
      have htail : zipAll (fun x y => decide (f x = g y)) (x :: l) (y :: l') = true ↔
          f x = g y ∧ zipAll (fun x y => decide (f x = g y)) l l' = true := by
        simp [zipAll]
      rw [htail, ih hkeys hdistinct]
      constructor
      · rintro ⟨hhead, htail⟩ u hu v hv huv
        rcases List.mem_cons.mp hu with rfl | hu
        · rcases List.mem_cons.mp hv with rfl | hv
          · exact hhead
          · exact absurd (List.mem_map.mpr ⟨v, hv, huv.symm.trans hkey⟩) hnot'
        · rcases List.mem_cons.mp hv with rfl | hv
          · exact absurd (List.mem_map.mpr ⟨u, hu, huv.trans hkey.symm⟩) hnot
          · exact htail u hu v hv huv
      · intro hall
        exact ⟨hall x List.mem_cons_self y List.mem_cons_self hkey,
          fun u hu v hv => hall u (List.mem_cons_of_mem x hu) v (List.mem_cons_of_mem y hv)⟩

section

variable [LinearOrder κ]

theorem inOrder_map {key : α → κ} {l : List α} : (l.map key).Pairwise (· ≤ ·) ↔ InOrder key l := List.pairwise_map

/-- In order, keys that differ from the next one differ from all. -/
theorem windows_distinct {key : α → κ} {dec : ∀ x y, Decidable (key x ≠ key y)} {l : List α} (h : InOrder key l) :
    windows (fun x y => decide (key x ≠ key y)) l = true ↔ (l.map key).Nodup := by
  rw [windows_iff]
  constructor
  · intro hchain
    have hstrict : l.IsChain fun x y => key x < key y := by
      have hle : l.IsChain fun x y => key x ≤ key y := h.isChain
      exact List.isChain_iff_getElem.mpr fun i hi => lt_of_le_of_ne (List.isChain_iff_getElem.mp hle i hi)
        (of_decide_eq_true (List.isChain_iff_getElem.mp hchain i hi))
    have htrans : IsTrans α fun x y => key x < key y := ⟨fun _ _ _ => lt_trans⟩
    exact List.pairwise_map.mpr (hstrict.pairwise.imp ne_of_lt)
  · intro hnodup
    exact ((List.pairwise_map.mp hnodup).imp fun h => decide_eq_true h).isChain

/-- Distinct keys in order are the same list where they are the same set. -/
theorem InOrder.map_eq_iff {key : α → κ} {key' : β → κ} {l : List α} {l' : List β} (h : InOrder key l)
    (h' : InOrder key' l') (hdistinct : (l.map key).Nodup) (hdistinct' : (l'.map key').Nodup) :
    l.map key = l'.map key' ↔ ∀ k, k ∈ l.map key ↔ k ∈ l'.map key' := by
  constructor
  · intro heq k
    rw [heq]
  · intro hsame
    have hperm : (l.map key).Perm (l'.map key') := (List.perm_ext_iff_of_nodup hdistinct hdistinct').mpr hsame
    exact hperm.eq_of_pairwise (fun x y _ _ => le_antisymm) (inOrder_map.mpr h) (inOrder_map.mpr h')

/-! ## Sorted indices -/

/-- The indices of a list, in the order of the keys of its elements. -/
def sortedIndices (key : α → κ) (l : List α) : List (Fin l.length) :=
  sortBy (fun i : Fin l.length => key l[i]) (List.finRange l.length)

theorem mem_sortedIndices (key : α → κ) {l : List α} (i : Fin l.length) : i ∈ sortedIndices key l :=
  (mem_sortBy _).mpr (List.mem_finRange i)

theorem nodup_sortedIndices (key : α → κ) (l : List α) : (sortedIndices key l).Nodup :=
  (sortBy_perm _ _).nodup_iff.mpr (List.nodup_finRange l.length)

theorem sortedIndices_perm (key : α → κ) (l : List α) : (sortedIndices key l).Perm (List.finRange l.length) :=
  sortBy_perm _ _

theorem inOrder_sortedIndices (key : α → κ) (l : List α) :
    InOrder (fun i : Fin l.length => key l[i]) (sortedIndices key l) :=
  inOrder_sortBy _ _

/-- What the indices lead to is the list, rearranged. -/
theorem map_sortedIndices_perm {γ : Type w} (key : α → κ) (l : List α) (f : α → γ) :
    ((sortedIndices key l).map fun i : Fin l.length => f l[i]).Perm (l.map f) := by
  have hget : (List.finRange l.length).map (fun i : Fin l.length => f l[i]) = l.map f := by
    rw [← List.ofFn_eq_map]
    apply List.ext_getElem <;> simp
  rw [← hget]
  exact (sortedIndices_perm key l).map _

end

/-! ## Sorted lists that are cut -/

section

variable [LinearOrder κ]

theorem exists_le_mem_dedupFrom {μ : Type w} [DecidableEq μ] {key : α → κ} {group : α → μ} {last : α}
    {l : List α} (h : InOrder key (last :: l)) {y : α} (hy : y ∈ last :: l) :
    ∃ x ∈ last :: dedupFrom group last l, group x = group y ∧ key x ≤ key y := by
  induction l generalizing last with
  | nil => exact ⟨y, hy, rfl, le_refl _⟩
  | cons z l ih =>
    obtain ⟨hlast, hrest⟩ := List.pairwise_cons.mp h
    unfold dedupFrom
    by_cases heq : group z = group last
    · rw [if_pos heq]
      rcases List.mem_cons.mp hy with rfl | hy
      · exact ⟨y, List.mem_cons_self, rfl, le_refl _⟩
      rcases List.mem_cons.mp hy with rfl | hy
      · exact ⟨last, List.mem_cons_self, heq.symm, hlast y List.mem_cons_self⟩
      · exact ih (List.pairwise_cons.mpr ⟨fun x hx => hlast x (List.mem_cons_of_mem z hx),
          (List.pairwise_cons.mp hrest).2⟩) (List.mem_cons_of_mem last hy)
    · rw [if_neg heq]
      rcases List.mem_cons.mp hy with rfl | hy
      · exact ⟨y, List.mem_cons_self, rfl, le_refl _⟩
      · obtain ⟨x, hx, hsame, hle⟩ := ih hrest hy
        exact ⟨x, List.mem_cons_of_mem last hx, hsame, hle⟩

/-- Of each group the first element stays, and it has the least key. -/
theorem exists_le_mem_dedupAdjacent {μ : Type w} [DecidableEq μ] {key : α → κ} {group : α → μ} {l : List α}
    (h : InOrder key l) {y : α} (hy : y ∈ l) : ∃ x ∈ dedupAdjacent group l, group x = group y ∧ key x ≤ key y := by
  cases l with
  | nil => cases hy
  | cons z l => exact exists_le_mem_dedupFrom h hy

/-- Among the first `k` of a strictly ordered list is what has fewer than `k` elements before it. -/
theorem mem_take_iff_countP_lt {coarse : α → κ} {l : List α} (h : l.Pairwise fun x y => coarse x < coarse y) {x : α}
    (hx : x ∈ l) {k : Nat} : x ∈ l.take k ↔ (l.countP fun y => coarse y < coarse x) < k := by
  induction l generalizing k with
  | nil => cases hx
  | cons z l ih =>
    obtain ⟨hz, hl⟩ := List.pairwise_cons.mp h
    cases k with
    | zero => simp
    | succ k =>
      rw [List.take_succ_cons, List.mem_cons]
      rcases List.mem_cons.mp hx with rfl | hx
      · have hnone : l.countP (fun y => coarse y < coarse x) = 0 := by
          rw [List.countP_eq_zero]
          intro y hy
          simpa using le_of_lt (hz y hy)
        rw [List.countP_cons_of_neg (by simp), hnone]
        simp
      · have hlt := hz x hx
        rw [List.countP_cons_of_pos (by simpa using hlt), ih hl hx, or_iff_right (by rintro rfl; exact lt_irrefl _ hlt)]
        omega

/-- An element that is added to a list in order goes behind those that are no greater. -/
theorem sortBy_concat {key : α → κ} {l : List α} (h : InOrder key l) (m : α) : ∃ before after, l = before ++ after ∧
    sortBy key (l ++ [m]) = before ++ m :: after ∧ ∀ x ∈ before, key x ≤ key m := by
  induction l with
  | nil => exact ⟨[], [], rfl, rfl, by simp⟩
  | cons x l ih =>
    obtain ⟨hx, hl⟩ := List.pairwise_cons.mp h
    obtain ⟨before, after, rfl, hsort, hbefore⟩ := ih hl
    have hinsert : sortBy key (x :: (before ++ after) ++ [m]) =
        (before ++ m :: after).orderedInsert (fun x y => key x ≤ key y) x := by
      rw [← hsort]
      rfl
    rw [hinsert]
    cases before with
    | cons y before =>
      have hxy : key x ≤ key y := hx y List.mem_cons_self
      refine ⟨x :: y :: before, after, rfl, List.orderedInsert_cons_of_le _ _ hxy, ?_⟩
      exact List.forall_mem_cons.mpr ⟨hxy.trans (hbefore y List.mem_cons_self), hbefore⟩
    | nil =>
      by_cases hxm : key x ≤ key m
      · exact ⟨[x], after, rfl, List.orderedInsert_cons_of_le _ _ hxm, by simpa using hxm⟩
      · refine ⟨[], x :: after, rfl, ?_, by simp⟩
        show (m :: after).orderedInsert (fun x y => key x ≤ key y) x = m :: x :: after
        rw [List.orderedInsert_cons, if_neg hxm]
        -- behind the new element it stands before all that follow
        cases after with
        | nil => rfl
        | cons z after =>
          have hxz : key x ≤ key z := hx z List.mem_cons_self
          rw [List.orderedInsert_cons, if_pos hxz]

/-- What does not meet a condition takes no room among what does. -/
theorem filter_take_insert {p : α → Bool} {m : α} (hm : p m = false) {before after : List α}
    (hbefore : ∀ x ∈ before, p x = false)
    (k : Nat) : ((before ++ m :: after).take k).filter p = ((before ++ after).take (k - 1)).filter p := by
  have hnone : ∀ n, (before.take n).filter p = [] := fun n => List.filter_eq_nil_iff.mpr fun x hx =>
    by rw [hbefore x (List.mem_of_mem_take hx)]; exact Bool.false_ne_true
  rw [List.take_append, List.take_append, List.filter_append, List.filter_append, hnone, hnone]
  cases hk : k - before.length with
  | zero => rw [show k - 1 - before.length = 0 by omega, List.take_zero, List.take_zero]
  | succ n =>
    rw [show k - 1 - before.length = n by omega, List.take_succ_cons, List.filter_cons_of_neg (by simp [hm])]

end

/-- A rearrangement of what a function gives is what it gives of a rearrangement. -/
theorem exists_map_of_perm_map {α : Type u} {γ : Type w} {f : α → γ} {l : List γ} {m : List α}
    (h : l.Perm (m.map f)) : ∃ m' : List α, m'.Perm m ∧ l = m'.map f := by
  induction l generalizing m with
  | nil =>
    rw [List.nil_perm, List.map_eq_nil_iff] at h
    exact ⟨[], by rw [h], rfl⟩
  | cons a l ih =>
    obtain ⟨b, hb, rfl⟩ := List.mem_map.mp (h.subset List.mem_cons_self)
    obtain ⟨before, after, rfl⟩ := List.append_of_mem hb
    have hrest : l.Perm ((before ++ after).map f) := by
      rw [List.map_append, List.map_cons] at h
      rw [List.map_append]
      exact (h.trans List.perm_middle).cons_inv
    obtain ⟨m', hperm, rfl⟩ := ih hrest
    exact ⟨b :: m', (hperm.cons b).trans List.perm_middle.symm, rfl⟩

end Bounding
