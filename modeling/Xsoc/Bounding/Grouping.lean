import Mathlib.Data.List.Induction
import Xsoc.Bounding.Ranked

/-!
# Grouping

Pairs of a key and a value, one after the other, are gathered by their key: the first pair of a key starts a group, and
each later one adds to it.

* `addTo`, `group` : the groups, in the order of their first pairs;
* `keys_group`, `mem_group` : there is one group for each key, with the values of that key in their order;
* `values_group_perm` : the groups hold the values of all pairs.
-/

set_option autoImplicit false

namespace Bounding

universe u v

variable {κ : Type u} {α : Type v} [DecidableEq κ]

/-- The groups, with one more value. -/
def addTo (key : κ) (x : α) : List (κ × List α) → List (κ × List α)
  | [] => [(key, [x])]
  | (k, xs) :: groups => if k = key then (k, xs ++ [x]) :: groups else (k, xs) :: addTo key x groups

def group (pairs : List (κ × α)) : List (κ × List α) :=
  pairs.foldl (fun groups pair => addTo pair.1 pair.2 groups) []

theorem group_concat (pairs : List (κ × α)) (key : κ) (x : α) :
    group (pairs ++ [(key, x)]) = addTo key x (group pairs) := by
  rw [group, List.foldl_append]
  rfl

theorem keys_addTo (key : κ) (x : α) (groups : List (κ × List α)) :
    (addTo key x groups).map Prod.fst = insertNew (groups.map Prod.fst) (some key) := by
  induction groups with
  | nil => rfl
  | cons g groups ih =>
    unfold addTo
    by_cases h : g.1 = key
    · rw [if_pos h, insertNew_of_mem (by simp [h])]
      rfl
    · rw [if_neg h, List.map_cons, ih]
      by_cases hmem : key ∈ groups.map Prod.fst
      · have hmem' : key ∈ (g :: groups).map Prod.fst := List.mem_cons_of_mem g.1 hmem
        rw [insertNew_of_mem hmem, insertNew_of_mem hmem']
        rfl
      · have hnot : key ∉ (g :: groups).map Prod.fst := by
          rw [List.map_cons, List.mem_cons, not_or]
          exact ⟨fun heq => h heq.symm, hmem⟩
        rw [insertNew_of_not_mem hmem, insertNew_of_not_mem hnot]
        rfl

/-- The keys of the groups are those of the pairs, each at its first place. -/
theorem keys_group (pairs : List (κ × α)) :
    (group pairs).map Prod.fst = collect (pairs.map fun pair => some pair.1) := by
  induction pairs using List.reverseRecOn with
  | nil => rfl
  | append_singleton pairs pair ih =>
    rw [group_concat, keys_addTo, ih, List.map_append, collect, collect, List.foldl_append]
    rfl

theorem nodup_keys_group (pairs : List (κ × α)) : ((group pairs).map Prod.fst).Nodup :=
  keys_group pairs ▸ nodup_collect _

/-- A value is added to the group of its key, or starts that group. -/
theorem mem_addTo {key k : κ} {x : α} {ys : List α} {groups : List (κ × List α)}
    (hnodup : (groups.map Prod.fst).Nodup) :
    (k, ys) ∈ addTo key x groups ↔ k ≠ key ∧ (k, ys) ∈ groups ∨
      k = key ∧ ((∃ xs, (key, xs) ∈ groups ∧ ys = xs ++ [x]) ∨ key ∉ groups.map Prod.fst ∧ ys = [x]) := by
  induction groups with
  | nil => simp [addTo]
  | cons g groups ih =>
    obtain ⟨k', xs⟩ := g
    rw [List.map_cons, List.nodup_cons] at hnodup
    unfold addTo
    by_cases h : k' = key
    · subst h
      have hout (zs : List α) : (k', zs) ∉ groups := fun hz => hnodup.1 (List.mem_map.mpr ⟨(k', zs), hz, rfl⟩)
      rw [if_pos rfl, List.mem_cons, Prod.mk.injEq]
      constructor
      · rintro (⟨rfl, rfl⟩ | hmem)
        · exact Or.inr ⟨rfl, Or.inl ⟨xs, List.mem_cons_self, rfl⟩⟩
        · refine Or.inl ⟨?_, List.mem_cons_of_mem _ hmem⟩
          rintro rfl
          exact hout ys hmem
      · rintro (⟨hne, hmem⟩ | ⟨rfl, ⟨zs, hmem, rfl⟩ | ⟨hnot, -⟩⟩)
        · rcases List.mem_cons.mp hmem with heq | hmem
          · exact absurd (Prod.mk.inj heq).1 hne
          · exact Or.inr hmem
        · rcases List.mem_cons.mp hmem with heq | hmem
          · exact Or.inl ⟨rfl, by rw [(Prod.mk.inj heq).2]⟩
          · exact absurd hmem (hout zs)
        · exact absurd List.mem_cons_self hnot
    · rw [if_neg h, List.mem_cons, ih hnodup.2, List.mem_cons, List.map_cons, List.mem_cons, not_or]
      have hkey (zs : List α) : (key, zs) ∈ (k', xs) :: groups ↔ (key, zs) ∈ groups := by
        rw [List.mem_cons, Prod.mk.injEq]
        exact ⟨fun hz => hz.resolve_left fun heq => h heq.1.symm, Or.inr⟩
      have hne : key ≠ k' := fun heq => h heq.symm
      simp only [hkey, hne, ne_eq, not_false_eq_true, true_and]
      constructor
      · rintro (heq | ⟨hk, hmem⟩ | hadd)
        · refine Or.inl ⟨?_, Or.inl heq⟩
          rw [(Prod.mk.inj heq).1]
          exact h
        · exact Or.inl ⟨hk, Or.inr hmem⟩
        · exact Or.inr hadd
      · rintro (⟨hk, heq | hmem⟩ | hadd)
        · exact Or.inl heq
        · exact Or.inr (Or.inl ⟨hk, hmem⟩)
        · exact Or.inr (Or.inr hadd)

/-- The values of a key. -/
def valuesOf (key : κ) (pairs : List (κ × α)) : List α := (pairs.filter fun pair => decide (pair.1 = key)).map Prod.snd

/-- The groups are the values of each key that there is. -/
theorem mem_group {pairs : List (κ × α)} {key : κ} {xs : List α} :
    (key, xs) ∈ group pairs ↔ xs ≠ [] ∧ xs = valuesOf key pairs := by
  induction pairs using List.reverseRecOn generalizing key xs with
  | nil => simp [group, valuesOf]
  | append_singleton pairs pair ih =>
    obtain ⟨k, x⟩ := pair
    rw [group_concat, mem_addTo (nodup_keys_group pairs)]
    by_cases h : key = k
    · subst h
      have hvalues : valuesOf key (pairs ++ [(key, x)]) = valuesOf key pairs ++ [x] := by
        simp [valuesOf, List.filter_append]
      have hkeys : key ∈ (group pairs).map Prod.fst ↔ valuesOf key pairs ≠ [] := by
        rw [List.mem_map]
        constructor
        · rintro ⟨⟨k, zs⟩, hmem, rfl⟩
          obtain ⟨hne, rfl⟩ := ih.mp hmem
          exact hne
        · exact fun hne => ⟨(key, valuesOf key pairs), ih.mpr ⟨hne, rfl⟩, rfl⟩
      rw [hvalues, hkeys, not_ne_iff]
      constructor
      · rintro (⟨hne, -⟩ | ⟨-, ⟨zs, hmem, rfl⟩ | ⟨hnone, rfl⟩⟩)
        · exact absurd rfl hne
        · rw [(ih.mp hmem).2]
          exact ⟨by simp, rfl⟩
        · rw [hnone]
          exact ⟨by simp, rfl⟩
      · rintro ⟨-, rfl⟩
        refine Or.inr ⟨rfl, ?_⟩
        by_cases hnone : valuesOf key pairs = []
        · exact Or.inr ⟨hnone, by rw [hnone, List.nil_append]⟩
        · exact Or.inl ⟨valuesOf key pairs, ih.mpr ⟨hnone, rfl⟩, rfl⟩
    · have hvalues : valuesOf key (pairs ++ [(k, x)]) = valuesOf key pairs := by
        simp [valuesOf, List.filter_append, show ¬ k = key from fun heq => h heq.symm]
      rw [hvalues, ih]
      simp [h]

theorem values_addTo_perm (key : κ) (x : α) (groups : List (κ × List α)) :
    ((addTo key x groups).flatMap Prod.snd).Perm (groups.flatMap Prod.snd ++ [x]) := by
  induction groups with
  | nil => exact List.Perm.refl _
  | cons g groups ih =>
    unfold addTo
    by_cases h : g.1 = key
    · rw [if_pos h, List.flatMap_cons, List.flatMap_cons, List.append_assoc, List.append_assoc]
      exact (List.perm_append_comm).append_left g.2
    · rw [if_neg h, List.flatMap_cons, List.flatMap_cons, List.append_assoc]
      exact ih.append_left g.2

/-- No value is lost, and none is there twice. -/
theorem values_group_perm (pairs : List (κ × α)) : ((group pairs).flatMap Prod.snd).Perm (pairs.map Prod.snd) := by
  induction pairs using List.reverseRecOn with
  | nil => exact List.Perm.refl _
  | append_singleton pairs pair ih =>
    rw [group_concat, List.map_append]
    exact (values_addTo_perm pair.1 pair.2 _).trans (ih.append_right _)

end Bounding
