import Xsoc.Bounding.Marked
import Mathlib.Data.List.Lex
import Mathlib.Data.List.MinMax
import Mathlib.Data.List.Perm.Basic

/-!
# Ranked lists

Lists in a canonical order, with the elements that attain the maximum of some metric in front.

* `sortBy key` : the stable sort; where keys tell the elements apart it depends on the elements only (`sortBy_congr`);
* `maxByLast` : the last of the greatest elements;
* `prioritize key metrics` : the sort, then for each metric the index of its last maximum, these elements first;
* `Prioritized` : the lists that `prioritize` leaves alone; it makes one of every list (`prioritized_prioritize`), each
  prefix of one is one again (`Prioritized.take`), and it is a fixed point (`Prioritized.prioritize_eq`);
* `peak_of_sublist_prefix` : what keeps the leading elements keeps the maximum of every metric.
-/

set_option autoImplicit false

namespace Bounding

universe u v w

variable {α : Type u} {κ : Type v} {ν : Type w} [LinearOrder κ]

/-! ## Sorting by a key -/

/-- The keys of the elements of a list tell them apart. -/
def TellsApart (key : α → κ) (l : List α) : Prop := ∀ x ∈ l, ∀ y ∈ l, key x = key y → x = y

omit [LinearOrder κ] in
instance [DecidableEq α] [DecidableEq κ] (key : α → κ) (l : List α) : Decidable (TellsApart key l) :=
  inferInstanceAs (Decidable (∀ x ∈ l, ∀ y ∈ l, key x = key y → x = y))

omit [LinearOrder κ] in
theorem TellsApart.of_subset {key : α → κ} {l l' : List α} (h : TellsApart key l) (hsub : ∀ x ∈ l', x ∈ l) :
    TellsApart key l' :=
  fun x hx y hy => h x (hsub x hx) y (hsub y hy)

/-- The list is in the order of its keys. -/
def InOrder (key : α → κ) (l : List α) : Prop := l.Pairwise fun x y => key x ≤ key y

/-- The stable sort by a key. -/
def sortBy (key : α → κ) (l : List α) : List α := l.insertionSort fun x y => key x ≤ key y

section

variable (key : α → κ)

instance total_key : Std.Total fun x y : α => key x ≤ key y := ⟨fun x y => le_total (key x) (key y)⟩

instance trans_key : IsTrans α fun x y : α => key x ≤ key y := ⟨fun _ _ _ => le_trans⟩

theorem sortBy_perm (l : List α) : (sortBy key l).Perm l := List.perm_insertionSort _ l

@[simp] theorem mem_sortBy {l : List α} {x : α} : x ∈ sortBy key l ↔ x ∈ l := (sortBy_perm key l).mem_iff

@[simp] theorem length_sortBy (l : List α) : (sortBy key l).length = l.length := (sortBy_perm key l).length_eq

theorem inOrder_sortBy (l : List α) : InOrder key (sortBy key l) := List.pairwise_insertionSort _ l

theorem sortBy_eq_self {key : α → κ} {l : List α} (h : InOrder key l) : sortBy key l = l :=
  List.Pairwise.insertionSort_eq h

/-- Two arrangements of the same elements, both in order, are one list. -/
theorem InOrder.eq_of_perm {key : α → κ} {l l' : List α} (h : InOrder key l) (h' : InOrder key l')
    (hapart : TellsApart key l) (hperm : l.Perm l') : l = l' :=
  hperm.eq_of_pairwise
    (fun x y hx hy hxy hyx => hapart x hx y (hperm.mem_iff.mpr hy) (le_antisymm hxy hyx)) h h'

theorem sortBy_congr {key : α → κ} {l l' : List α} (hapart : TellsApart key l) (hperm : l.Perm l') :
    sortBy key l = sortBy key l' := by
  have hsorted : (sortBy key l).Perm (sortBy key l') :=
    (sortBy_perm key l).trans (hperm.trans (sortBy_perm key l').symm)
  exact (inOrder_sortBy key l).eq_of_perm (inOrder_sortBy key l')
    (hapart.of_subset fun x hx => (mem_sortBy key).mp hx) hsorted

theorem Settles.sortBy : Settles (Bounding.arranged (Bounding.sortBy key)) (InOrder key) List.Perm :=
  Settles.arranged (sortBy_perm key) (inOrder_sortBy key) sortBy_eq_self

/-- Sorted, then one element of each group: the groups are strictly in order. The sort may tell elements of a group
apart. -/
theorem Settles.sortDedup {γ : Type w} [LinearOrder γ] {μ : Type w} [DecidableEq μ] {coarse : α → γ} {group : α → μ}
    (hmono : ∀ x y, key x ≤ key y → coarse x ≤ coarse y) (hstrict : ∀ x y, coarse x < coarse y → key x ≤ key y)
    (h : ∀ x y, coarse x = coarse y ↔ group x = group y) :
    Settles (fun l => Bounding.arranged (Bounding.sortBy key) l >>= Bounding.resized (dedupAdjacent group))
      (fun l => l.Pairwise fun x y => coarse x < coarse y) List.Perm where
  result l := by
    rw [Marked.bind_value, resized_value, ← dedupAdjacent_congr h]
    exact pairwise_lt_dedupAdjacent ((inOrder_sortBy key l).imp fun {x y} => hmono x y)
  fixed {l} hl := by
    have hsorted : Bounding.sortBy key l = l := sortBy_eq_self (hl.imp fun {x y} => hstrict x y)
    have hdistinct : dedupAdjacent group l = l := by
      rw [← dedupAdjacent_congr h]
      exact dedupAdjacent_eq_self (hl.imp ne_of_lt)
    rw [Bounding.arranged, Marked.pure_bind, hsorted]
    exact Marked.eq_pure hdistinct (by simp [Bounding.resized, hdistinct])
  honest {l} hc := by
    rw [Marked.bind_changed, Bool.or_eq_false_iff] at hc
    have hsame : (dedupAdjacent group (Bounding.sortBy key l)) = Bounding.sortBy key l :=
      (dedupAdjacent_sublist group _).eq_of_length (by simpa [Bounding.resized, Bounding.arranged] using hc.2)
    rw [Marked.bind_value, resized_value]
    show l.Perm (dedupAdjacent group (Bounding.sortBy key l))
    rw [hsame]
    exact (sortBy_perm key l).symm

end

/-! ## The last maximum -/

section

variable [LinearOrder ν]

/-- `max_by`: of several greatest elements, the last one. -/
def maxByLast (rank : α → ν) : List α → Option α
  | [] => none
  | x :: l =>
    match maxByLast rank l with
    | none => some x
    | some y => if rank y < rank x then some x else some y

theorem maxByLast_eq_none {rank : α → ν} {l : List α} : maxByLast rank l = none ↔ l = [] := by
  cases l with
  | nil => simp [maxByLast]
  | cons x l =>
    simp only [maxByLast, reduceCtorEq, iff_false]
    cases maxByLast rank l with
    | none => simp
    | some y => simp only; split <;> simp

/-- What stands before the maximum is no greater, and what stands after it is smaller. -/
theorem maxByLast_spec {rank : α → ν} {l : List α} {x : α} (h : maxByLast rank l = some x) :
    ∃ before after, l = before ++ x :: after ∧ (∀ y ∈ before, rank y ≤ rank x) ∧ ∀ y ∈ after, rank y < rank x := by
  induction l generalizing x with
  | nil => cases h
  | cons a l ih =>
    unfold maxByLast at h
    cases hl : maxByLast rank l with
    | none =>
      rw [hl] at h
      obtain rfl := maxByLast_eq_none.mp hl
      obtain rfl := Option.some.inj h
      exact ⟨[], [], rfl, fun _ hy => absurd hy List.not_mem_nil, fun _ hy => absurd hy List.not_mem_nil⟩
    | some b =>
      obtain ⟨before, after, rfl, hbefore, hafter⟩ := ih hl
      rw [hl] at h
      simp only at h
      split at h
      · next hlt =>
        obtain rfl := Option.some.inj h
        refine ⟨[], before ++ b :: after, rfl, fun _ hy => absurd hy List.not_mem_nil, ?_⟩
        intro y hy
        rcases List.mem_append.mp hy with hy | hy
        · exact lt_of_le_of_lt (hbefore y hy) hlt
        · rcases List.mem_cons.mp hy with rfl | hy
          · exact hlt
          · exact (hafter y hy).trans hlt
      · next hle =>
        obtain rfl := Option.some.inj h
        refine ⟨a :: before, after, rfl, ?_, hafter⟩
        intro y hy
        rcases List.mem_cons.mp hy with rfl | hy
        · exact not_lt.mp hle
        · exact hbefore y hy

end

/-! ## Collecting distinct findings -/

/-- A finding is added unless it is there already. -/
def insertNew {β : Type v} [DecidableEq β] (found : List β) : Option β → List β
  | none => found
  | some x => if x ∈ found then found else found ++ [x]

def collect {β : Type v} [DecidableEq β] (findings : List (Option β)) : List β := findings.foldl insertNew []

section

variable {β : Type v} [DecidableEq β]

@[simp] theorem insertNew_none (found : List β) : insertNew found none = found := rfl

theorem insertNew_of_mem {found : List β} {x : β} (h : x ∈ found) : insertNew found (some x) = found := if_pos h

theorem insertNew_of_not_mem {found : List β} {x : β} (h : x ∉ found) : insertNew found (some x) = found ++ [x] :=
  if_neg h

theorem prefix_insertNew (found : List β) (o : Option β) : found <+: insertNew found o := by
  cases o with
  | none => exact List.prefix_rfl
  | some x =>
    by_cases hx : x ∈ found
    · rewrite [insertNew_of_mem hx]
      exact List.prefix_rfl
    · rw [insertNew_of_not_mem hx]
      exact List.prefix_append found [x]

theorem prefix_foldl_insertNew (found : List β) (findings : List (Option β)) :
    found <+: findings.foldl insertNew found := by
  induction findings generalizing found with
  | nil => exact List.prefix_rfl
  | cons o findings ih => exact (prefix_insertNew found o).trans (ih (insertNew found o))

theorem nodup_insertNew {found : List β} (h : found.Nodup) (o : Option β) : (insertNew found o).Nodup := by
  cases o with
  | none => exact h
  | some x =>
    by_cases hx : x ∈ found
    · rwa [insertNew_of_mem hx]
    · rw [insertNew_of_not_mem hx, List.nodup_append]
      refine ⟨h, List.nodup_singleton x, ?_⟩
      rintro y hy z hz rfl
      exact hx (List.mem_singleton.mp hz ▸ hy)

theorem nodup_foldl_insertNew {found : List β} (h : found.Nodup) (findings : List (Option β)) :
    (findings.foldl insertNew found).Nodup := by
  induction findings generalizing found with
  | nil => exact h
  | cons o findings ih => exact ih (nodup_insertNew h o)

theorem nodup_collect (findings : List (Option β)) : (collect findings).Nodup :=
  nodup_foldl_insertNew List.nodup_nil findings

theorem mem_insertNew {found : List β} {o : Option β} {x : β} :
    x ∈ insertNew found o ↔ x ∈ found ∨ o = some x := by
  cases o with
  | none => simp [insertNew]
  | some y =>
    by_cases hy : y ∈ found
    · rw [insertNew_of_mem hy]
      refine ⟨Or.inl, ?_⟩
      rintro (hx | hx)
      · exact hx
      · exact Option.some.inj hx ▸ hy
    · rw [insertNew_of_not_mem hy, List.mem_append, List.mem_singleton, Option.some.injEq, eq_comm (a := y)]

theorem mem_foldl_insertNew {found : List β} {findings : List (Option β)} {x : β} :
    x ∈ findings.foldl insertNew found ↔ x ∈ found ∨ some x ∈ findings := by
  induction findings generalizing found with
  | nil => simp
  | cons o findings ih =>
    rw [List.foldl_cons, ih, mem_insertNew, List.mem_cons, or_assoc, eq_comm (a := o)]

theorem mem_collect {findings : List (Option β)} {x : β} : x ∈ collect findings ↔ some x ∈ findings := by
  rw [collect, mem_foldl_insertNew]
  simp

theorem length_collect_le (findings : List (Option β)) : (collect findings).length ≤ findings.length := by
  have key : ∀ found : List β, (findings.foldl insertNew found).length ≤ found.length + findings.length := by
    induction findings with
    | nil => exact fun found => le_rfl
    | cons o findings ih =>
      intro found
      have hstep : (insertNew found o).length ≤ found.length + 1 := by
        cases o with
        | none => exact Nat.le_succ _
        | some x =>
          by_cases hx : x ∈ found
          · rw [insertNew_of_mem hx]
            exact Nat.le_succ _
          · rw [insertNew_of_not_mem hx, List.length_append, List.length_singleton]
      have := ih (insertNew found o)
      rw [List.foldl_cons, List.length_cons]
      omega
  simpa [collect] using key []

/-- Findings renamed by a function that tells them apart. -/
theorem collect_map {γ : Type w} [DecidableEq γ] {f : β → γ} {findings : List (Option β)}
    (hinj : ∀ x y, some x ∈ findings → some y ∈ findings → f x = f y → x = y) :
    collect (findings.map (Option.map f)) = (collect findings).map f := by
  have key : ∀ (later : List (Option β)) (found : List β), (∀ o ∈ later, o ∈ findings) →
      (∀ x ∈ found, some x ∈ findings) →
      (later.map (Option.map f)).foldl insertNew (found.map f) = (later.foldl insertNew found).map f := by
    intro later
    induction later with
    | nil => exact fun _ _ _ => rfl
    | cons o later ih =>
      intro found hlater hfound
      have hstep : insertNew (found.map f) (o.map f) = (insertNew found o).map f := by
        cases o with
        | none => rfl
        | some x =>
          have hmem : f x ∈ found.map f ↔ x ∈ found := by
            constructor
            · intro h
              obtain ⟨y, hy, heq⟩ := List.mem_map.mp h
              exact hinj y x (hfound y hy) (hlater _ List.mem_cons_self) heq ▸ hy
            · exact List.mem_map_of_mem
          simp only [Option.map_some, insertNew, hmem]
          split <;> simp
      rw [List.map_cons, List.foldl_cons, List.foldl_cons, hstep]
      apply ih _ (fun o' ho' => hlater o' (List.mem_cons_of_mem o ho'))
      intro x hx
      rcases mem_insertNew.mp hx with hx | rfl
      · exact hfound x hx
      · exact hlater _ List.mem_cons_self
  exact key findings [] (fun _ h => h) (fun _ h => absurd h List.not_mem_nil)

omit [DecidableEq β] in
/-- A prefix cut where the whole is cut. -/
theorem take_eq_of_prefix_le {found all : List β} {k : Nat} (h : found <+: all) (hk : k ≤ found.length) :
    all.take k = found.take k := by
  rw [List.prefix_iff_eq_take.mp h, List.take_take, Nat.min_eq_left hk]

/-- One finding, where of all that is collected the first `k` are kept: if it is among these it is found again, and
if some are cut off nothing else is found. -/
theorem insertNew_take {found all : List β} {k : Nat} {x : β} {o : Option β}
    (hnext : insertNew found (some x) <+: all) (hfound : x ∈ all.take k → o = some x)
    (hcut : k < all.length → ∀ y, o = some y → y ∈ all.take k) :
    insertNew (found.take k) o = (insertNew found (some x)).take k := by
  have hpre : found <+: all := (prefix_insertNew found (some x)).trans hnext
  have hmem : x ∈ insertNew found (some x) := mem_insertNew.mpr (Or.inr rfl)
  by_cases hx : x ∈ all.take k
  · rw [hfound hx]
    by_cases hin : x ∈ found
    · rcases Nat.le_total k found.length with hle | hle
      · rw [insertNew_of_mem hin, insertNew_of_mem (take_eq_of_prefix_le hpre hle ▸ hx)]
      · rw [insertNew_of_mem hin, List.take_of_length_le hle, insertNew_of_mem hin]
    · have hk : found.length < k := by
        by_contra hle
        exact hin (List.mem_of_mem_take (take_eq_of_prefix_le hpre (Nat.not_lt.mp hle) ▸ hx))
      rw [List.take_of_length_le (Nat.le_of_lt hk), insertNew_of_not_mem hin,
        List.take_of_length_le (by rw [List.length_append, List.length_singleton]; omega)]
  · have hle : k ≤ found.length := by
      by_contra hlt
      have hlen : (insertNew found (some x)).length ≤ k := by
        by_cases hin : x ∈ found
        · rw [insertNew_of_mem hin]
          omega
        · rw [insertNew_of_not_mem hin, List.length_append, List.length_singleton]
          omega
      rw [List.prefix_iff_eq_take.mp hnext] at hmem
      exact hx (List.take_subset_take_left _ hlen hmem)
    have hk : k < all.length := by
      by_contra hall
      exact hx ((List.take_of_length_le (Nat.not_lt.mp hall)).symm ▸ hnext.subset hmem)
    have hright : (insertNew found (some x)).take k = found.take k := by
      by_cases hin : x ∈ found
      · rw [insertNew_of_mem hin]
      · rw [insertNew_of_not_mem hin, List.take_append_of_le_length hle]
    rw [hright]
    cases o with
    | none => rw [insertNew_none]
    | some y => exact insertNew_of_mem (take_eq_of_prefix_le hpre hle ▸ hcut hk y rfl)

/-- What is collected from findings that are cut down to the first `k` distinct ones. -/
theorem collect_take {μ : Type w} {f g : μ → Option β} {ms : List μ} {k : Nat}
    (hfound : ∀ m ∈ ms, ∀ x, f m = some x → x ∈ (collect (ms.map f)).take k → g m = some x)
    (hnone : ∀ m ∈ ms, f m = none → g m = none)
    (hcut : k < (collect (ms.map f)).length → ∀ m ∈ ms, ∀ y, g m = some y → y ∈ (collect (ms.map f)).take k) :
    collect (ms.map g) = (collect (ms.map f)).take k := by
  have key : ∀ (later : List μ) (found : List β), (∀ m ∈ later, m ∈ ms) →
      (later.map f).foldl insertNew found = collect (ms.map f) →
      (later.map g).foldl insertNew (found.take k) = (collect (ms.map f)).take k := by
    intro later
    induction later with
    | nil =>
      intro found _ hend
      rw [List.map_nil, List.foldl_nil] at hend ⊢
      rw [hend]
    | cons m later ih =>
      intro found hlater hend
      have hm := hlater m List.mem_cons_self
      have hnext : insertNew found (f m) <+: collect (ms.map f) := hend ▸ prefix_foldl_insertNew _ _
      have hstep : insertNew (found.take k) (g m) = (insertNew found (f m)).take k := by
        cases hf : f m with
        | none => rw [hnone m hm hf, insertNew_none, insertNew_none]
        | some x => exact insertNew_take (hf ▸ hnext) (hfound m hm x hf) (fun hk => hcut hk m hm)
      rw [List.map_cons, List.foldl_cons, hstep]
      exact ih _ (fun m' hm' => hlater m' (List.mem_cons_of_mem m hm')) hend
  simpa [collect] using key ms [] (fun _ h => h) rfl

end

/-! ## The elements with the greatest metrics -/

section

variable [LinearOrder ν]

/-- The index of the last element on which the metric is greatest. -/
def candidate (metric : α → Option ν) (l : List α) : Option Nat :=
  (maxByLast Prod.snd (l.zipIdx.filterMap fun p => (metric p.1).map fun m => (p.2, m))).map Prod.fst

theorem candidate_eq_none {metric : α → Option ν} {l : List α} (h : candidate metric l = none) :
    ∀ x ∈ l, metric x = none := by
  rw [candidate, Option.map_eq_none_iff, maxByLast_eq_none, List.filterMap_eq_nil_iff] at h
  intro x hx
  obtain ⟨i, hi, rfl⟩ := List.mem_iff_getElem.mp hx
  have := h (l[i], i) (List.mem_zipIdx_iff_getElem?.mpr (List.getElem?_eq_getElem hi))
  simpa using this

/-- The candidate is an element of the list, and every other one has a smaller metric or comes before it. -/
theorem candidate_spec {metric : α → Option ν} {l : List α} {i : Nat} (h : candidate metric l = some i) :
    ∃ x m, l[i]? = some x ∧ metric x = some m ∧
      ∀ j y n, l[j]? = some y → metric y = some n → n < m ∨ (n = m ∧ j ≤ i) := by
  rw [candidate, Option.map_eq_some_iff] at h
  obtain ⟨⟨i, m⟩, hmax, rfl⟩ := h
  obtain ⟨before, after, hsplit, hbefore, hafter⟩ := maxByLast_spec hmax
  have hmem : ∀ j n, (j, n) ∈ before ++ (i, m) :: after ↔ ∃ y, l[j]? = some y ∧ metric y = some n := by
    intro j n
    rw [← hsplit, List.mem_filterMap]
    constructor
    · rintro ⟨⟨y, k⟩, hy, heq⟩
      obtain ⟨n', hn, heq⟩ := Option.map_eq_some_iff.mp heq
      obtain ⟨rfl, rfl⟩ := Prod.mk.inj heq
      exact ⟨y, List.mem_zipIdx_iff_getElem?.mp hy, hn⟩
    · rintro ⟨y, hy, hn⟩
      exact ⟨(y, j), List.mem_zipIdx_iff_getElem?.mpr hy, by simp [hn]⟩
  have hindex : (before ++ (i, m) :: after).Pairwise fun p q => p.1 < q.1 := by
    rw [← hsplit, List.pairwise_filterMap]
    have hpairs : l.zipIdx.Pairwise fun p q => p.2 < q.2 := by
      rw [← List.pairwise_map, List.zipIdx_map_snd]
      exact List.pairwise_lt_range'
    refine hpairs.imp ?_
    intro p q hpq a ha b hb
    obtain ⟨-, -, rfl⟩ := Option.map_eq_some_iff.mp ha
    obtain ⟨-, -, rfl⟩ := Option.map_eq_some_iff.mp hb
    exact hpq
  obtain ⟨x, hx, hm⟩ := (hmem i m).mp (by simp)
  refine ⟨x, m, hx, hm, ?_⟩
  intro j y n hy hn
  rcases List.mem_append.mp ((hmem j n).mpr ⟨y, hy, hn⟩) with hj | hj
  · have hlt := (List.pairwise_append.mp hindex).2.2 (j, n) hj (i, m) List.mem_cons_self
    rcases lt_or_eq_of_le (hbefore (j, n) hj) with hnm | hnm
    · exact Or.inl hnm
    · exact Or.inr ⟨hnm, Nat.le_of_lt hlt⟩
  · rcases List.mem_cons.mp hj with heq | hj
    · obtain ⟨rfl, rfl⟩ := Prod.mk.inj heq
      exact Or.inr ⟨rfl, le_rfl⟩
    · exact Or.inl (hafter (j, n) hj)

/-- The indices of the leading elements: the candidates, each once. -/
def anchorIndices (metrics : List (α → Option ν)) (l : List α) : List Nat :=
  collect (metrics.map fun metric => candidate metric l)

/-- The list in order, its leading elements first; and how many these are. -/
def prioritize (key : α → κ) (metrics : List (α → Option ν)) (l : List α) : List α × Nat :=
  let sorted := sortBy key l
  let anchors := anchorIndices metrics sorted
  (anchors.filterMap (fun i => sorted[i]?) ++ (sorted.zipIdx.filter fun p => p.2 ∉ anchors).map Prod.fst,
    anchors.length)

theorem lt_length_of_mem_anchorIndices {metrics : List (α → Option ν)} {l : List α} {i : Nat}
    (h : i ∈ anchorIndices metrics l) : i < l.length := by
  obtain ⟨metric, -, hi⟩ := List.mem_map.mp (mem_collect.mp h)
  obtain ⟨x, -, hx, -⟩ := candidate_spec hi
  exact (List.getElem?_eq_some_iff.mp hx).1

theorem length_anchors (metrics : List (α → Option ν)) (l : List α) :
    ((anchorIndices metrics l).filterMap fun i => l[i]?).length = (anchorIndices metrics l).length := by
  rw [List.filterMap_length_eq_length]
  intro i hi
  simp [List.getElem?_eq_getElem (lt_length_of_mem_anchorIndices hi)]

/-- The elements that lead come from the list, and the rest of it follows. -/
theorem anchors_append_rest_perm (metrics : List (α → Option ν)) (l : List α) :
    ((anchorIndices metrics l).filterMap (fun i => l[i]?) ++
      (l.zipIdx.filter fun p => p.2 ∉ anchorIndices metrics l).map Prod.fst).Perm l := by
  set anchors := anchorIndices metrics l with hanchors
  have hnodup : l.zipIdx.Nodup := by
    refine List.Nodup.of_map Prod.snd ?_
    rw [List.zipIdx_map_snd]
    exact List.nodup_range'
  have hfront : (anchors.filterMap fun i => l[i]?.map fun x => (x, i)).Perm
      (l.zipIdx.filter fun p => p.2 ∈ anchors) := by
    refine (List.perm_ext_iff_of_nodup ?_ (hnodup.filter _)).mpr ?_
    · refine (nodup_collect _).filterMap ?_
      intro i j p hi hj
      obtain ⟨_, -, rfl⟩ := Option.map_eq_some_iff.mp hi
      obtain ⟨_, -, heq⟩ := Option.map_eq_some_iff.mp hj
      exact (Prod.mk.inj heq).2.symm
    · rintro ⟨x, i⟩
      simp only [List.mem_filterMap, List.mem_filter, Option.map_eq_some_iff, Prod.mk.injEq,
        List.mk_mem_zipIdx_iff_getElem?, decide_eq_true_eq]
      constructor
      · rintro ⟨j, hj, y, hy, rfl, rfl⟩
        exact ⟨hy, hj⟩
      · rintro ⟨hx, hi⟩
        exact ⟨i, hi, x, hx, rfl, rfl⟩
  have hsplit := (hfront.append_right (l.zipIdx.filter fun p => ¬ p.2 ∈ anchors)).trans
    (by simpa using List.filter_append_perm (fun p => decide (p.2 ∈ anchors)) l.zipIdx)
  have hmap := hsplit.map Prod.fst
  rw [List.map_append, List.map_filterMap, List.zipIdx_map_fst] at hmap
  simpa [Option.map_map, Function.comp_def] using hmap

end

section

variable [LinearOrder ν] (key : α → κ) (metrics : List (α → Option ν))

theorem prioritize_perm (l : List α) : (prioritize key metrics l).1.Perm l :=
  (anchors_append_rest_perm metrics (sortBy key l)).trans (sortBy_perm key l)

@[simp] theorem mem_prioritize {l : List α} {x : α} : x ∈ (prioritize key metrics l).1 ↔ x ∈ l :=
  (prioritize_perm key metrics l).mem_iff

@[simp] theorem length_prioritize (l : List α) : (prioritize key metrics l).1.length = l.length :=
  (prioritize_perm key metrics l).length_eq

theorem prioritize_snd_le (l : List α) : (prioritize key metrics l).2 ≤ metrics.length := by
  simpa [prioritize, anchorIndices] using
    length_collect_le (metrics.map fun metric => candidate metric (sortBy key l))

theorem prioritize_snd_le_length (l : List α) : (prioritize key metrics l).2 ≤ l.length := by
  rw [← length_prioritize key metrics l]
  have hlen := length_anchors metrics (sortBy key l)
  simp only [prioritize, List.length_append]
  omega

/-- Where the keys tell the elements apart their enumeration does not matter. -/
theorem prioritize_congr {key : α → κ} {l l' : List α} (hapart : TellsApart key l) (hperm : l.Perm l') :
    prioritize key metrics l = prioritize key metrics l' := by
  rw [prioritize, sortBy_congr hapart hperm, ← prioritize]

/-! ## Peaks -/

/-- The greatest value of a metric. -/
def peak (metric : α → Option ν) (l : List α) : WithBot ν := (l.filterMap metric).maximum

theorem peak_eq_coe {metric : α → Option ν} {l : List α} {x : α} {m : ν} (hx : x ∈ l) (hm : metric x = some m)
    (hmax : ∀ y ∈ l, ∀ n, metric y = some n → n ≤ m) : peak metric l = m := by
  rw [peak, List.maximum_eq_coe_iff]
  refine ⟨List.mem_filterMap.mpr ⟨x, hx, hm⟩, ?_⟩
  intro n hn
  obtain ⟨y, hy, hn⟩ := List.mem_filterMap.mp hn
  exact hmax y hy n hn

theorem peak_eq_bot {metric : α → Option ν} {l : List α} (h : ∀ x ∈ l, metric x = none) : peak metric l = ⊥ := by
  rw [peak, List.filterMap_eq_nil_iff.mpr h]
  rfl

/-- What keeps the leading elements keeps the greatest value of every metric. -/
theorem peak_take_prioritize {metric : α → Option ν} (hmetric : metric ∈ metrics) (l : List α) {k : Nat}
    (hk : (prioritize key metrics l).2 ≤ k) :
    peak metric ((prioritize key metrics l).1.take k) = peak metric l := by
  have hsub : ∀ y ∈ (prioritize key metrics l).1.take k, y ∈ l :=
    fun y hy => (mem_prioritize key metrics).mp (List.mem_of_mem_take hy)
  cases hc : candidate metric (sortBy key l) with
  | none =>
    have hnone : ∀ x ∈ l, metric x = none := fun x hx => candidate_eq_none hc x ((mem_sortBy key).mpr hx)
    rw [peak_eq_bot hnone, peak_eq_bot fun x hx => hnone x (hsub x hx)]
  | some i =>
    obtain ⟨x, m, hx, hm, hmax⟩ := candidate_spec hc
    have hall : ∀ y ∈ l, ∀ n, metric y = some n → n ≤ m := by
      intro y hy n hn
      obtain ⟨j, hj⟩ := List.mem_iff_getElem?.mp ((mem_sortBy key).mpr hy)
      rcases hmax j y n hj hn with h | h
      · exact le_of_lt h
      · exact le_of_eq h.1
    have hanchor : i ∈ anchorIndices metrics (sortBy key l) :=
      mem_collect.mpr (hc ▸ List.mem_map_of_mem hmetric)
    have hfront : x ∈ (prioritize key metrics l).1.take k := by
      have hin : x ∈ (anchorIndices metrics (sortBy key l)).filterMap fun i => (sortBy key l)[i]? :=
        List.mem_filterMap.mpr ⟨i, hanchor, hx⟩
      have hlen := length_anchors metrics (sortBy key l)
      refine List.take_subset_take_left _ hk ?_
      rw [← List.take_left' hlen] at hin
      exact hin
    rw [peak_eq_coe hfront hm fun y hy => hall y (hsub y hy), peak_eq_coe (hsub x hfront) hm hall]

end

/-! ## Lists that are prioritised already -/

section

variable [LinearOrder ν] (key : α → κ) (metrics : List (α → Option ν))

/-- An element with the greatest metric and, among these, the last key. -/
def IsPeak (metric : α → Option ν) (l : List α) (x : α) : Prop :=
  x ∈ l ∧ ∃ m, metric x = some m ∧ ∀ y ∈ l, ∀ n, metric y = some n → n < m ∨ (n = m ∧ key y ≤ key x)

open Classical in
/-- An element with the property, if there is one. -/
noncomputable def chosen (property : α → Prop) : Option α := if h : ∃ x, property x then some h.choose else none

/-- The element that leads by a metric. -/
noncomputable def leader (l : List α) (metric : α → Option ν) : Option α := chosen (IsPeak key metric l)

open Classical in
/-- The elements that lead by some metric, in the order of the metrics. -/
noncomputable def leaders (l : List α) : List α := collect (metrics.map (leader key l))

/-- The leaders in front, and the others in order. -/
def Prioritized (l : List α) : Prop := ∃ rest, l = leaders key metrics l ++ rest ∧ InOrder key rest

variable {key : α → κ} {metrics : List (α → Option ν)}

theorem IsPeak.eq {metric : α → Option ν} {l : List α} {x y : α} (hapart : TellsApart key l)
    (hx : IsPeak key metric l x) (hy : IsPeak key metric l y) : x = y := by
  obtain ⟨hxl, m, hm, hxmax⟩ := hx
  obtain ⟨hyl, n, hn, hymax⟩ := hy
  refine hapart x hxl y hyl ?_
  rcases hxmax y hyl n hn with hlt | ⟨rfl, hyx⟩
  · rcases hymax x hxl m hm with hlt' | ⟨rfl, -⟩
    · exact absurd hlt (not_lt_of_gt hlt')
    · exact absurd hlt (lt_irrefl _)
  · rcases hymax x hxl n hm with hlt | ⟨-, hxy⟩
    · exact absurd hlt (lt_irrefl _)
    · exact le_antisymm hxy hyx

theorem leader_eq_some {metric : α → Option ν} {l : List α} {x : α} (hapart : TellsApart key l)
    (h : IsPeak key metric l x) : leader key l metric = some x := by
  have hex : ∃ y, IsPeak key metric l y := ⟨x, h⟩
  rw [leader, chosen, dif_pos hex, hex.choose_spec.eq hapart h]

theorem isPeak_of_leader {metric : α → Option ν} {l : List α} {x : α} (h : leader key l metric = some x) :
    IsPeak key metric l x := by
  unfold leader chosen at h
  split at h
  · next hex => exact Option.some.inj h ▸ hex.choose_spec
  · cases h

/-- Who leads is decided by the elements, not by their places. -/
theorem leaders_congr {l s : List α} (h : ∀ x, x ∈ l ↔ x ∈ s) : leaders key metrics l = leaders key metrics s := by
  have hpeak : ∀ metric : α → Option ν, IsPeak key metric l = IsPeak key metric s := by
    intro metric
    funext x
    simp only [IsPeak, h]
  have hleader : leader key l = leader key (ν := ν) s := by
    funext metric
    rw [leader, hpeak, ← leader]
  rw [leaders, hleader, ← leaders]

/-- In a list in order the last candidate is the leader. -/
theorem isPeak_candidate {metric : α → Option ν} {l : List α} {i : Nat} {x : α} (hl : InOrder key l)
    (hc : candidate metric l = some i) (hx : l[i]? = some x) : IsPeak key metric l x := by
  obtain ⟨x', m, hx', hm, hmax⟩ := candidate_spec hc
  obtain rfl := Option.some.inj (hx.symm.trans hx')
  refine ⟨List.mem_iff_getElem?.mpr ⟨i, hx⟩, m, hm, ?_⟩
  intro y hy n hn
  obtain ⟨j, hj⟩ := List.mem_iff_getElem?.mp hy
  rcases hmax j y n hj hn with hlt | ⟨rfl, hji⟩
  · exact Or.inl hlt
  · refine Or.inr ⟨rfl, ?_⟩
    obtain ⟨hi, rfl⟩ := List.getElem?_eq_some_iff.mp hx
    obtain ⟨hjl, rfl⟩ := List.getElem?_eq_some_iff.mp hj
    rcases Nat.lt_or_eq_of_le hji with hlt | rfl
    · exact List.pairwise_iff_getElem.mp hl j i hjl hi hlt
    · exact le_rfl

theorem leader_eq_candidate {metric : α → Option ν} {l : List α} (hl : InOrder key l) (hapart : TellsApart key l) :
    (candidate metric l).map (fun i => l[i]?) = (leader key l metric).map some := by
  cases hc : candidate metric l with
  | none =>
    cases hlead : leader key l metric with
    | none => rfl
    | some x =>
      obtain ⟨hx, m, hm, -⟩ := isPeak_of_leader hlead
      rw [candidate_eq_none hc x hx] at hm
      cases hm
  | some i =>
    obtain ⟨x, m, hx, -, -⟩ := candidate_spec hc
    rw [leader_eq_some hapart (isPeak_candidate hl hc hx), Option.map_some, Option.map_some, hx]

/-- Candidates with the same element are one candidate. -/
theorem candidate_injective {metric metric' : α → Option ν} {l : List α} {i j : Nat}
    (hi : candidate metric l = some i) (hj : candidate metric' l = some j) (h : l[i]? = l[j]?) : i = j := by
  obtain ⟨x, m, hx, hm, hmax⟩ := candidate_spec hi
  obtain ⟨y, n, hy, hn, hmax'⟩ := candidate_spec hj
  obtain rfl : x = y := Option.some.inj (hx.symm.trans (h.trans hy))
  refine Nat.le_antisymm ?_ ?_
  · rcases hmax' i x n hx hn with hlt | ⟨-, hle⟩
    · exact absurd hlt (lt_irrefl _)
    · exact hle
  · rcases hmax j x m hy hm with hlt | ⟨-, hle⟩
    · exact absurd hlt (lt_irrefl _)
    · exact hle

open Classical in
/-- The elements that the indices stand for are the leaders. -/
theorem anchors_eq_leaders {l : List α} (hl : InOrder key l) (hapart : TellsApart key l) :
    (anchorIndices metrics l).filterMap (fun i => l[i]?) = leaders key metrics l := by
  have hindex : (anchorIndices metrics l).map (fun i => l[i]?) = (leaders key metrics l).map some := by
    rw [anchorIndices, leaders, ← collect_map, ← collect_map, List.map_map, List.map_map]
    · congr 1
      exact List.map_congr_left fun metric _ => leader_eq_candidate hl hapart
    · intro x y _ _ h
      exact Option.some.inj h
    · intro i j hi hj h
      obtain ⟨metric, -, hi⟩ := List.mem_map.mp hi
      obtain ⟨metric', -, hj⟩ := List.mem_map.mp hj
      exact candidate_injective hi hj h
  have hmap := congrArg (List.filterMap id) hindex
  rwa [List.filterMap_map, List.filterMap_map, Function.id_comp, Function.id_comp, List.filterMap_some] at hmap

/-- The keys tell the elements apart: what comes out is prioritised. -/
theorem prioritized_prioritize {l : List α} (hapart : TellsApart key l) :
    Prioritized key metrics (prioritize key metrics l).1 := by
  have hsorted := inOrder_sortBy key l
  have hapart' : TellsApart key (sortBy key l) := hapart.of_subset fun x hx => (mem_sortBy key).mp hx
  refine ⟨((sortBy key l).zipIdx.filter fun p => p.2 ∉ anchorIndices metrics (sortBy key l)).map Prod.fst, ?_, ?_⟩
  · rw [leaders_congr (s := sortBy key l) (fun x => by simp), ← anchors_eq_leaders hsorted hapart']
    rfl
  · have hsub := (List.filter_sublist (p := fun p => decide (p.2 ∉ anchorIndices metrics (sortBy key l)))
      (l := (sortBy key l).zipIdx)).map Prod.fst
    rw [List.zipIdx_map_fst] at hsub
    exact hsorted.sublist hsub

/-- A prioritised list is left as it is. -/
theorem Prioritized.prioritize_eq {l : List α} (h : Prioritized key metrics l) (hapart : TellsApart key l) :
    (prioritize key metrics l).1 = l := by
  obtain ⟨rest, hl, hrest⟩ := h
  have hprio : Prioritized key metrics (prioritize key metrics l).1 := prioritized_prioritize hapart
  obtain ⟨rest', hl', hrest'⟩ := hprio
  rw [leaders_congr (s := l) (fun x => by simp)] at hl'
  have hperm : rest'.Perm rest := by
    have := prioritize_perm key metrics l
    rw [hl'] at this
    exact (List.perm_append_left_iff _).mp (this.trans (List.Perm.of_eq hl))
  have hsub : ∀ x ∈ rest', x ∈ l := by
    intro x hx
    rw [hl]
    exact List.mem_append_right _ (hperm.mem_iff.mp hx)
  rw [hl', hrest'.eq_of_perm hrest (hapart.of_subset hsub) hperm, ← hl]

/-- What leads the whole leads the part it is in. -/
theorem leader_of_subset {metric : α → Option ν} {l l' : List α} {x : α} (hapart : TellsApart key l')
    (hsub : ∀ y ∈ l', y ∈ l) (hx : x ∈ l') (hlead : leader key l metric = some x) :
    leader key l' metric = some x := by
  obtain ⟨-, m, hm, hmax⟩ := isPeak_of_leader hlead
  exact leader_eq_some hapart ⟨hx, m, hm, fun y hy => hmax y (hsub y hy)⟩

theorem leader_eq_none {metric : α → Option ν} {l l' : List α} (hapart : TellsApart key l) (hsub : ∀ y ∈ l', y ∈ l)
    (hlead : leader key l metric = none) : leader key l' metric = none := by
  have hnone : ∀ y ∈ l, metric y = none := by
    have hc : (candidate metric (sortBy key l)).map (fun i => (sortBy key l)[i]?) =
        (leader key (sortBy key l) metric).map some :=
      leader_eq_candidate (inOrder_sortBy key l) (hapart.of_subset fun x hx => (mem_sortBy key).mp hx)
    rw [leader, show IsPeak key metric (sortBy key l) = IsPeak key metric l by funext x; simp [IsPeak], ← leader,
      hlead, Option.map_none, Option.map_eq_none_iff] at hc
    exact fun y hy => candidate_eq_none hc y ((mem_sortBy key).mpr hy)
  cases hl' : leader key l' metric with
  | none => rfl
  | some x =>
    obtain ⟨hx, m, hm, -⟩ := isPeak_of_leader hl'
    rw [hnone x (hsub x hx)] at hm
    cases hm

open Classical in
/-- The leaders of a prefix are a prefix of the leaders. -/
theorem leaders_take {l : List α} (h : Prioritized key metrics l) (hapart : TellsApart key l) (k : Nat) :
    leaders key metrics (l.take k) = (leaders key metrics l).take k := by
  obtain ⟨rest, hl, -⟩ := h
  have hsub : ∀ y ∈ l.take k, y ∈ l := fun y hy => List.mem_of_mem_take hy
  have hfront : ∀ y ∈ (leaders key metrics l).take k, y ∈ l.take k := by
    intro y hy
    rw [hl, List.take_append]
    exact List.mem_append_left _ hy
  refine collect_take ?_ ?_ ?_
  · intro metric _ x hx hmem
    exact leader_of_subset (hapart.of_subset hsub) hsub (hfront x hmem) hx
  · intro metric _ hnone
    exact leader_eq_none hapart hsub hnone
  · intro hk metric _ y hy
    have hcut : l.take k = (leaders key metrics l).take k := by
      conv_lhs => rw [hl]
      exact List.take_append_of_le_length (Nat.le_of_lt hk)
    have hmem := (isPeak_of_leader hy).1
    rw [hcut] at hmem
    exact hmem

/-- A prefix of a prioritised list is prioritised. -/
theorem Prioritized.take {l : List α} (h : Prioritized key metrics l) (hapart : TellsApart key l) (k : Nat) :
    Prioritized key metrics (l.take k) := by
  have hlead := leaders_take h hapart k
  obtain ⟨rest, hl, hrest⟩ := h
  refine ⟨rest.take (k - (leaders key metrics l).length), ?_, hrest.sublist (List.take_sublist _ _)⟩
  rw [hlead]
  conv_lhs => rw [hl, List.take_append]

end

end Bounding
