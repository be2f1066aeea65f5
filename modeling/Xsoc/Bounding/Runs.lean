import Xsoc.Bounding.Ranked
import Mathlib.Data.List.Induction

/-!
# Runs of equal neighbours

What is left of a list when of equal neighbours only the first one is kept: one element of each run.

* `dedupAdjacent_concat` : a further element stays, unless the last one has its key;
* `nodup_take_dedupAdjacent` : the keys that are left are distinct, as far as no key comes back after another one;
* `sortBy_filter` : the sort keeps the order of the elements of one key;
* `InOrder.split` : a sorted list is what is below a key, what has the key, and what is above it;
* `nodup_runs_sortBy` : sorted by one key and with the runs of a finer one shortened, a list may still have a finer key
  twice: where it comes back among the elements of one key;
* `InRuns` : no element comes back after another one.
-/

set_option autoImplicit false

namespace Bounding

universe u v

variable {α : Type u} {κ : Type v}

section

variable [DecidableEq κ] {key : α → κ}

theorem dedupFrom_concat (last : α) (l : List α) (x : α) :
    dedupFrom key last (l ++ [x]) =
      if key (l.getLast?.getD last) = key x then dedupFrom key last l else dedupFrom key last l ++ [x] := by
  induction l generalizing last with
  | nil =>
    show (if key x = key last then [] else [x]) = if key last = key x then [] else [x]
    simp only [eq_comm]
  | cons y l ih =>
    rw [List.cons_append, dedupFrom, dedupFrom, List.getLast?_cons, Option.getD_some, ih last, ih y]
    by_cases h : key y = key last
    · have hend : key (l.getLast?.getD last) = key (l.getLast?.getD y) := by
        cases l.getLast? with
        | none => exact h.symm
        | some z => rfl
      rw [if_pos h, if_pos h, hend]
    · rw [if_neg h, if_neg h]
      split <;> rfl

/-- A further element is left, unless the last one has its key. -/
theorem dedupAdjacent_concat (l : List α) (x : α) :
    dedupAdjacent key (l ++ [x]) =
      if l.getLast?.map key = some (key x) then dedupAdjacent key l else dedupAdjacent key l ++ [x] := by
  cases l with
  | nil => rfl
  | cons y l =>
    show y :: dedupFrom key y (l ++ [x]) = _
    rw [dedupFrom_concat, List.getLast?_cons, Option.map_some]
    by_cases h : key (l.getLast?.getD y) = key x
    · rw [if_pos h, if_pos (congrArg some h)]
      rfl
    · rw [if_neg h, if_neg fun heq => h (Option.some.inj heq)]
      rfl

theorem dedupAdjacent_initial (l l' : List α) : dedupAdjacent key l <+: dedupAdjacent key (l ++ l') := by
  induction l' using List.reverseRecOn with
  | nil =>
    rewrite [List.append_nil]
    exact List.prefix_rfl
  | append_singleton l' x ih =>
    rw [← List.append_assoc, dedupAdjacent_concat]
    split
    · exact ih
    · exact ih.trans (List.prefix_append _ _)

/-- The keys of the first runs are distinct if and only if no key comes back after another one, other than behind these
runs. -/
theorem nodup_take_dedupAdjacent (l : List α) (n : Nat) :
    (((dedupAdjacent key l).take n).map key).Nodup ↔
      ∀ before x after, l = before ++ x :: after → key x ∈ before.map key →
        before.getLast?.map key ≠ some (key x) → n ≤ (dedupAdjacent key before).length := by
  constructor
  · intro h before x after hl hback hlast
    by_contra hlt
    have hmem : key x ∈ (dedupAdjacent key before).map key := by
      obtain ⟨y, hy, hkey⟩ := List.mem_map.mp hback
      obtain ⟨z, hz, hzy⟩ := @exists_mem_dedupAdjacent _ _ _ key _ _ hy
      exact List.mem_map.mpr ⟨z, hz, hzy.trans hkey⟩
    have hinitial : dedupAdjacent key before ++ [x] <+: dedupAdjacent key l := by
      have hpre := @dedupAdjacent_initial _ _ _ key (before ++ [x]) after
      rwa [dedupAdjacent_concat, if_neg hlast, List.append_assoc, List.singleton_append, ← hl] at hpre
    have htake : dedupAdjacent key before ++ [x] <+: (dedupAdjacent key l).take n :=
      (List.prefix_take_iff).mpr ⟨hinitial, by rw [List.length_append, List.length_singleton]; omega⟩
    have hnodup := h.sublist (htake.sublist.map key)
    rw [List.map_append, List.map_singleton, List.nodup_append] at hnodup
    exact hnodup.2.2 _ hmem _ (List.mem_singleton_self _) rfl
  · intro h
    induction l using List.reverseRecOn with
    | nil => simp [dedupAdjacent]
    | append_singleton l x ih =>
      have hl := ih fun before y after hsplit => h before y (after ++ [x]) (by rw [hsplit, List.append_assoc]; rfl)
      rw [dedupAdjacent_concat]
      split
      · exact hl
      next hlast =>
      by_cases hn : n ≤ (dedupAdjacent key l).length
      · rwa [List.take_append_of_le_length hn]
      have hfresh : key x ∉ l.map key := fun hback => hn (h l x [] rfl hback hlast)
      rw [List.take_of_length_le (by omega)] at hl
      rw [List.take_of_length_le (by rw [List.length_append, List.length_singleton]; omega), List.map_append,
        List.map_singleton, List.nodup_append]
      refine ⟨hl, List.nodup_singleton _, ?_⟩
      intro k hk k' hk' heq
      rw [List.mem_singleton.mp hk'] at heq
      obtain ⟨y, hy, hkey⟩ := List.mem_map.mp hk
      exact hfresh (List.mem_map.mpr ⟨y, (dedupAdjacent_sublist key l).subset hy, hkey.trans heq⟩)

theorem dedupAdjacent_map {β : Type u} {key' : β → κ} {f : α → β} (h : ∀ x, key' (f x) = key x) (l : List α) :
    dedupAdjacent key' (l.map f) = (dedupAdjacent key l).map f := by
  have hfrom (last : α) (l : List α) : dedupFrom key' (f last) (l.map f) = (dedupFrom key last l).map f := by
    induction l generalizing last with
    | nil => rfl
    | cons x l ih =>
      rw [List.map_cons, dedupFrom, dedupFrom, h, h, ih, ih]
      split <;> rfl
  cases l with
  | nil => rfl
  | cons x l => exact congrArg (f x :: ·) (hfrom x l)

/-- Two lists with no key in common have no run in common. -/
theorem dedupAdjacent_append {l l' : List α} (h : ∀ x ∈ l, ∀ y ∈ l', key x ≠ key y) :
    dedupAdjacent key (l ++ l') = dedupAdjacent key l ++ dedupAdjacent key l' := by
  induction l' using List.reverseRecOn with
  | nil => rw [List.append_nil, dedupAdjacent, List.append_nil]
  | append_singleton l' x ih =>
    have hrest := ih fun y hy z hz => h y hy z (List.mem_append_left _ hz)
    rw [← List.append_assoc, dedupAdjacent_concat, dedupAdjacent_concat, hrest]
    cases hl' : l'.getLast? with
    | some y =>
      rw [List.getLast?_append, hl', Option.some_or]
      split
      · rfl
      · rw [List.append_assoc]
    | none =>
      rw [List.getLast?_eq_none_iff] at hl'
      subst hl'
      have hlast : l.getLast?.map key ≠ some (key x) := by
        intro heq
        obtain ⟨y, hy, hkey⟩ := Option.map_eq_some_iff.mp heq
        exact h y (List.mem_of_getLast? hy) x (by simp) hkey
      rw [List.append_nil, if_neg hlast, if_neg (by simp)]
      simp [dedupAdjacent]

end

/-! ## Lists in runs -/

/-- No element comes back after another one. -/
def InRuns (l : List α) : Prop :=
  ∀ before x after, l = before ++ x :: after → x ∈ before → before.getLast? = some x

theorem InRuns.of_forall_eq {l : List α} {y : α} (h : ∀ x ∈ l, x = y) : InRuns l := by
  rintro before x after rfl hmem
  obtain ⟨z, hz⟩ : ∃ z, before.getLast? = some z := ⟨_, List.getLast?_eq_some_getLast (List.ne_nil_of_mem hmem)⟩
  have hzy : z = y := h z (List.mem_append_left _ (List.mem_of_getLast? hz))
  have hxy : x = y := h x (List.mem_append_left _ hmem)
  rw [hz, hzy, hxy]

/-- Where an element comes back in a list that continues with other elements in runs, it does so before these. -/
theorem comesBack_append {named rest before after : List α} {x : α} (hrest : InRuns rest)
    (hdisjoint : named.Disjoint rest) (hsplit : named ++ rest = before ++ x :: after) (hmem : x ∈ before)
    (hlast : before.getLast? ≠ some x) : ∃ after', named = before ++ x :: after' := by
  rcases List.append_eq_append_iff.mp hsplit with ⟨between, rfl, hrest'⟩ | ⟨behind, hnamed, hbehind⟩
  · -- `x` would be in the rest, behind what is between
    have hx : x ∈ rest := hrest' ▸ List.mem_append_right _ List.mem_cons_self
    have hbetween : x ∈ between := (List.mem_append.mp hmem).resolve_left fun h => hdisjoint h hx
    have hend := hrest between x after hrest' hbetween
    rw [List.getLast?_append, hend] at hlast
    exact absurd rfl hlast
  · cases behind with
    | nil =>
      have hx : x ∈ rest := by
        rw [← List.nil_append rest, ← hbehind]
        exact List.mem_cons_self
      have hx' : x ∈ named := by rwa [hnamed, List.append_nil]
      exact absurd hx (hdisjoint hx')
    | cons y behind =>
      obtain ⟨rfl, -⟩ := List.cons.inj hbehind
      exact ⟨behind, hnamed⟩

theorem InRuns.append {l l' : List α} (h : InRuns l) (h' : InRuns l') (hdisjoint : l.Disjoint l') :
    InRuns (l ++ l') := by
  intro before x after hsplit hmem
  by_contra hlast
  obtain ⟨after', hl⟩ := comesBack_append h' hdisjoint hsplit hmem hlast
  exact hlast (h before x after' hl hmem)

/-! ## Sorted lists -/

section

variable [LinearOrder κ] {key : α → κ}

theorem sortBy_map {β : Type u} {key' : β → κ} {f : α → β} (h : ∀ x, key' (f x) = key x) (l : List α) :
    sortBy key' (l.map f) = (sortBy key l).map f := by
  refine (List.map_insertionSort _ _ f l fun x _ y _ => ?_).symm
  rw [h, h]

/-- The sort is stable. -/
theorem sortBy_filter (l : List α) (k : κ) :
    (sortBy key l).filter (fun x => decide (key x = k)) = l.filter fun x => decide (key x = k) := by
  have hinsert (x : α) (l : List α) :
      (l.orderedInsert (fun x y => key x ≤ key y) x).filter (fun x => decide (key x = k)) =
        (x :: l).filter fun x => decide (key x = k) := by
    induction l with
    | nil => rfl
    | cons y l ih =>
      by_cases hle : key x ≤ key y
      · rw [List.orderedInsert, if_pos hle]
      · have hne : key x = k → key y ≠ k := by
          rintro rfl heq
          exact hle heq.ge
        rw [List.orderedInsert, if_neg hle, List.filter_cons, ih, List.filter_cons, List.filter_cons, List.filter_cons]
        by_cases hx : key x = k
        · simp [hx, hne hx]
        · simp [hx]
  induction l with
  | nil => rfl
  | cons x l ih =>
    show (List.orderedInsert _ x (sortBy key l)).filter _ = _
    rw [hinsert, List.filter_cons, List.filter_cons, ih]

/-- A sorted list is what is below a key, what has the key, and what is above it. -/
theorem InOrder.split {l : List α} (h : InOrder key l) (k : κ) :
    l = (l.filter fun x => decide (key x < k)) ++ ((l.filter fun x => decide (key x = k)) ++
      l.filter fun x => decide (k < key x)) := by
  induction l with
  | nil => rfl
  | cons x l ih =>
    rw [InOrder, List.pairwise_cons] at h
    have hl := ih h.2
    rcases lt_trichotomy (key x) k with hx | hx | hx
    · rw [List.filter_cons_of_pos (by simpa using hx), List.filter_cons_of_neg (by simpa using hx.ne),
        List.filter_cons_of_neg (by simpa using hx.le), List.cons_append, ← hl]
    · have hbelow : l.filter (fun y => decide (key y < k)) = [] := by
        rw [List.filter_eq_nil_iff]
        intro y hy
        simpa [hx] using h.1 y hy
      rw [hbelow] at hl
      rw [List.filter_cons_of_neg (by simp [hx]), hbelow, List.filter_cons_of_pos (by simpa using hx),
        List.filter_cons_of_neg (by simp [hx]), List.nil_append, List.cons_append, ← List.nil_append (_ ++ _), ← hl]
    · have hbelow : l.filter (fun y => decide (key y < k)) = [] := by
        rw [List.filter_eq_nil_iff]
        intro y hy
        simpa using (hx.trans_le (h.1 y hy)).le
      have hat : l.filter (fun y => decide (key y = k)) = [] := by
        rw [List.filter_eq_nil_iff]
        intro y hy
        simpa using (hx.trans_le (h.1 y hy)).ne'
      rw [hbelow, hat] at hl
      rw [List.filter_cons_of_neg (by simpa using hx.le), List.filter_cons_of_neg (by simpa using hx.ne'), hbelow, hat,
        List.filter_cons_of_pos (by simpa using hx), List.nil_append, List.nil_append]
      exact congrArg (x :: ·) hl

end

section

variable {μ : Type v} [LinearOrder κ] [DecidableEq μ] (key : α → κ) (kind : α → μ)

/-- The key of an element, and its kind. -/
def keyed (x : α) : κ × μ := (key x, kind x)

/-- How many runs there are below a key. -/
def runsBelow (l : List α) (k : κ) : Nat :=
  (dedupAdjacent (keyed key kind) ((sortBy key l).filter fun x => decide (key x < k))).length

/-- Among the elements of key `k`, the kind of `x` comes back: it is that of an earlier one, and not of the last one. -/
structure ComesBack (l : List α) (k : κ) (before : List α) (x : α) (after : List α) : Prop where
  split : (l.filter fun x => decide (key x = k)) = before ++ x :: after
  earlier : kind x ∈ before.map kind
  last : before.getLast?.map kind ≠ some (kind x)

variable {key kind}

theorem length_dedup_above {below before : List α} {k : κ} (hbelow : ∀ x ∈ below, key x < k)
    (hbefore : ∀ x ∈ before, key x = k) :
    (dedupAdjacent (keyed key kind) (below ++ before)).length =
      (dedupAdjacent (keyed key kind) below).length + (dedupAdjacent (keyed key kind) before).length := by
  rw [dedupAdjacent_append, List.length_append]
  intro x hx y hy heq
  have hkey : key x = key y := congrArg Prod.fst heq
  exact absurd (hkey.trans (hbefore y hy)) (hbelow x hx).ne

/-- The elements that are left have distinct keys and kinds if and only if no kind comes back among the elements of one
key, other than behind the last run that is left. -/
theorem nodup_runs_sortBy (l : List α) (n : Nat) :
    (((dedupAdjacent (keyed key kind) (sortBy key l)).take n).map (keyed key kind)).Nodup ↔
      ∀ k before x after, ComesBack key kind l k before x after →
        n ≤ runsBelow key kind l k + (dedupAdjacent (keyed key kind) before).length := by
  rw [nodup_take_dedupAdjacent]
  constructor
  · intro h k before x after hback
    have hsplit := (inOrder_sortBy key l).split k
    rw [sortBy_filter, hback.split] at hsplit
    have hbefore : ∀ y ∈ before ++ x :: after, key y = k := by
      rw [← hback.split]
      intro y hy
      simpa using (List.mem_filter.mp hy).2
    have hx : key x = k := hbefore x (by simp)
    have hbelow : ∀ y ∈ (sortBy key l).filter (fun x => decide (key x < k)), key y < k := by
      intro y hy
      simpa using (List.mem_filter.mp hy).2
    have hn := h (((sortBy key l).filter fun x => decide (key x < k)) ++ before) x
      (after ++ (sortBy key l).filter fun x => decide (k < key x)) (hsplit.trans (by simp)) ?_ ?_
    · rwa [length_dedup_above hbelow fun y hy => hbefore y (List.mem_append_left _ hy)] at hn
    · obtain ⟨y, hy, hkind⟩ := List.mem_map.mp hback.earlier
      refine List.mem_map.mpr ⟨y, List.mem_append_right _ hy, ?_⟩
      rw [keyed, keyed, hkind, hbefore y (List.mem_append_left _ hy), hx]
    · obtain ⟨y, hy⟩ : ∃ y, before.getLast? = some y := by
        cases hlast : before.getLast? with
        | some y => exact ⟨y, rfl⟩
        | none =>
          have hearlier := hback.earlier
          rw [List.getLast?_eq_none_iff.mp hlast] at hearlier
          cases hearlier
      have hkind := hback.last
      rw [hy, Option.map_some] at hkind
      rw [List.getLast?_append, hy, Option.some_or, Option.map_some]
      intro heq
      exact hkind (congrArg some (congrArg Prod.snd (Option.some.inj heq)))
  · intro h before x after hs hearlier hlast
    have hsorted : InOrder key (before ++ x :: after) := hs ▸ inOrder_sortBy key l
    rw [InOrder, List.pairwise_append, List.pairwise_cons] at hsorted
    obtain ⟨hbefore, ⟨hafter, -⟩, hcross⟩ := hsorted
    have hle : ∀ y ∈ before, key y ≤ key x := fun y hy => hcross y hy x List.mem_cons_self
    have habove : before.filter (fun y => decide (key x < key y)) = [] := by
      rw [List.filter_eq_nil_iff]
      intro y hy
      simpa using hle y hy
    have hsplit := InOrder.split hbefore (key x)
    rw [habove, List.append_nil] at hsplit
    have hbelow : (sortBy key l).filter (fun y => decide (key y < key x)) =
        before.filter fun y => decide (key y < key x) := by
      have hnone : (x :: after).filter (fun y => decide (key y < key x)) = [] := by
        rw [List.filter_eq_nil_iff]
        intro y hy
        rcases List.mem_cons.mp hy with rfl | hy
        · simp
        · simpa using hafter y hy
      rw [hs, List.filter_append, hnone, List.append_nil]
    have hgroup : (l.filter fun y => decide (key y = key x)) =
        before.filter (fun y => decide (key y = key x)) ++ x :: after.filter fun y => decide (key y = key x) := by
      rw [← sortBy_filter, hs, List.filter_append, List.filter_cons_of_pos (by simp)]
    obtain ⟨y, hy, hkeyed⟩ := List.mem_map.mp hearlier
    have hy' : y ∈ before.filter fun y => decide (key y = key x) :=
      List.mem_filter.mpr ⟨hy, decide_eq_true (congrArg Prod.fst hkeyed)⟩
    have hn := h (key x) _ x _ ⟨hgroup, List.mem_map.mpr ⟨y, hy', congrArg Prod.snd hkeyed⟩, ?_⟩
    · rw [runsBelow, hbelow] at hn
      rw [hsplit, length_dedup_above]
      · exact hn
      · intro z hz
        simpa using (List.mem_filter.mp hz).2
      · intro z hz
        simpa using (List.mem_filter.mp hz).2
    · intro hkind
      obtain ⟨z, hz, hzkind⟩ := Option.map_eq_some_iff.mp hkind
      have hzkey : key z = key x := by simpa using (List.mem_filter.mp (List.mem_of_getLast? hz)).2
      refine hlast ?_
      rw [hsplit, List.getLast?_append, hz, Option.some_or, Option.map_some, keyed, keyed, hzkey, hzkind]

end

end Bounding
