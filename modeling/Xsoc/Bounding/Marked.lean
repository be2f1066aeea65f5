import Mathlib.Data.List.Sort

/-!
# Marked values

A pass that brings a value within limits and says whether it changed anything.

* `Marked` : a value with the flag; sequencing passes collects the flags;
* `Settles f ok same` : what `f` returns is `ok`, an `ok` value is returned as it is and without the flag, and where
  the flag is not raised the result is the `same` as the input;
* `compared`, `reset`, `arranged`, `resized`, `truncate`, `each`, `optional` : the passes such code is made of, with
  what each of them settles;
* `Settles.andThen` : a pass after a pass;
* `Arranges f arrange ok` : `f` raises no flag exactly where the arranged value is `ok`, and then only arranges it.
-/

set_option autoImplicit false

namespace Bounding

universe u v

/-- A value, and whether anything was changed on the way to it. -/
structure Marked (α : Type u) where
  value : α
  changed : Bool
  deriving DecidableEq

namespace Marked

instance : Monad Marked where
  pure a := ⟨a, false⟩
  bind m f := ⟨(f m.value).value, m.changed || (f m.value).changed⟩

@[simp] theorem pure_value {α : Type u} (a : α) : (pure a : Marked α).value = a := rfl

@[simp] theorem pure_changed {α : Type u} (a : α) : (pure a : Marked α).changed = false := rfl

@[simp] theorem bind_value {α β : Type u} (m : Marked α) (f : α → Marked β) :
    (m >>= f).value = (f m.value).value := rfl

@[simp] theorem bind_changed {α β : Type u} (m : Marked α) (f : α → Marked β) :
    (m >>= f).changed = (m.changed || (f m.value).changed) := rfl

@[simp] theorem pure_bind {α β : Type u} (a : α) (f : α → Marked β) : (pure a >>= f) = f a := by
  show Marked.mk (f a).value (false || (f a).changed) = f a
  rw [Bool.false_or]

/-- The flag is down and the value is known. -/
theorem eq_pure {α : Type u} {m : Marked α} {a : α} (hv : m.value = a) (hc : m.changed = false) : m = pure a := by
  subst hv
  cases m
  simp only at hc
  subst hc
  rfl

end Marked

/-- What a pass promises: an `ok` result, no effect on what is `ok`, and no unmarked difference. -/
structure Settles {α : Type u} (f : α → Marked α) (ok : α → Prop) (same : α → α → Prop) : Prop where
  result : ∀ x, ok (f x).value
  fixed : ∀ {x}, ok x → f x = pure x
  honest : ∀ {x}, (f x).changed = false → same x (f x).value

section

variable {α : Type u} {f g : α → Marked α} {p q : α → Prop} {same : α → α → Prop}

namespace Settles

/-- What passes without a mark was all right. -/
theorem ok (h : Settles f p Eq) {x : α} (hc : (f x).changed = false) : p x := by
  have := h.result x
  rwa [← h.honest hc] at this

/-- Where nothing is marked everything was all right: then the pass is honest. -/
theorem ofFixed (hresult : ∀ x, p (f x).value) (hfixed : ∀ {x}, p x → f x = pure x)
    (hok : ∀ {x}, (f x).changed = false → p x) : Settles f p Eq where
  result := hresult
  fixed := hfixed
  honest hc := by rw [hfixed (hok hc)]; rfl

theorem congr (h : Settles f p same) (hpq : ∀ x, p x ↔ q x) : Settles f q same where
  result x := (hpq _).mp (h.result x)
  fixed hq := h.fixed ((hpq _).mpr hq)
  honest := h.honest

theorem weaken {same' : α → α → Prop} (h : Settles f p same) (hs : ∀ {x y}, same x y → same' x y) :
    Settles f p same' where
  result := h.result
  fixed := h.fixed
  honest hc := hs (h.honest hc)

theorem perm {f : List α → Marked (List α)} {p : List α → Prop} (h : Settles f p Eq) : Settles f p List.Perm :=
  h.weaken List.Perm.of_eq

/-- A pass after a pass that keeps what the first one settled. -/
theorem andThen (hf : Settles f p same) (hg : Settles g q same) (hkeep : ∀ x, p x → p (g x).value)
    (htrans : ∀ {x y z}, same x y → same y z → same x z) :
    Settles (fun x => f x >>= g) (fun x => p x ∧ q x) same where
  result x := ⟨hkeep _ (hf.result x), hg.result _⟩
  fixed := by
    rintro x ⟨hp, hq⟩
    rw [hf.fixed hp, Marked.pure_bind, hg.fixed hq]
  honest := by
    intro x hc
    rw [Marked.bind_changed, Bool.or_eq_false_iff] at hc
    exact htrans (hf.honest hc.1) (hg.honest hc.2)

end Settles

end

/-! ## Single values -/

section

variable {α : Type u}

/-- The result is compared with the original. -/
def compared [DecidableEq α] (f : α → α) (x : α) : Marked α := ⟨f x, decide (f x ≠ x)⟩

theorem Settles.compared [DecidableEq α] {f : α → α} {ok : α → Prop} (hok : ∀ x, ok (f x))
    (hfix : ∀ {x}, ok x → f x = x) : Settles (compared f) ok Eq where
  result := hok
  fixed hx := Marked.eq_pure (hfix hx) (by simp [Bounding.compared, hfix hx])
  honest hc := (not_not.mp (decide_eq_false_iff_not.mp hc)).symm

/-- A value that will not do is replaced. -/
def reset (bad : α → Bool) (fallback x : α) : Marked α := if bad x then ⟨fallback, true⟩ else pure x

theorem Settles.reset {bad : α → Bool} {fallback : α} (h : bad fallback = false) :
    Settles (reset bad fallback) (fun x => bad x = false) Eq where
  result x := by
    unfold Bounding.reset
    split
    · exact h
    · next hx => exact Bool.eq_false_iff.mpr hx
  fixed hx := by rw [Bounding.reset, hx]; rfl
  honest {x} hc := by
    by_cases hx : bad x = true
    · simp [Bounding.reset, hx] at hc
    · rw [Bounding.reset, if_neg hx]; rfl

/-- A pass over what is there. -/
def optional (f : α → Marked α) : Option α → Marked (Option α)
  | none => pure none
  | some x => ⟨some (f x).value, (f x).changed⟩

/-- What is settled about a value is settled about what an optional one holds. -/
theorem Settles.optionalRel {f : α → Marked α} {ok : α → Prop} {same : α → α → Prop} (h : Settles f ok same) :
    Settles (Bounding.optional f) (fun o => ∀ x ∈ o, ok x) (Option.Rel same) where
  result
    | none => by simp [Bounding.optional]
    | some x => by simpa [Bounding.optional] using h.result x
  fixed {o} ho := by
    cases o with
    | none => rfl
    | some x => rw [Bounding.optional, h.fixed (ho x rfl)]; rfl
  honest {o} hc := by
    cases o with
    | none => exact .none
    | some x => exact .some (h.honest hc)

theorem Settles.optional {f : α → Marked α} {ok : α → Prop} (h : Settles f ok Eq) :
    Settles (Bounding.optional f) (fun o => ∀ x ∈ o, ok x) Eq :=
  h.optionalRel.weaken fun hrel => by
    cases hrel with
    | some heq => exact congrArg some heq
    | none => rfl

end

/-! ## Lists -/

section

variable {α : Type u}

/-- A pass over every element. -/
def each (f : α → Marked α) (l : List α) : Marked (List α) :=
  ⟨l.map fun x => (f x).value, l.any fun x => (f x).changed⟩

@[simp] theorem each_value (f : α → Marked α) (l : List α) : (each f l).value = l.map fun x => (f x).value := rfl

theorem each_changed_eq_false {f : α → Marked α} {l : List α} :
    (each f l).changed = false ↔ ∀ x ∈ l, (f x).changed = false := by
  simp [each]

theorem Settles.each {f : α → Marked α} {ok : α → Prop} (h : Settles f ok Eq) :
    Settles (each f) (fun l => ∀ x ∈ l, ok x) Eq where
  result l := by
    intro y hy
    obtain ⟨x, -, rfl⟩ := List.mem_map.mp hy
    exact h.result x
  fixed {l} hl := by
    refine Marked.eq_pure ?_ (each_changed_eq_false.mpr fun x hx => by rw [h.fixed (hl x hx)]; rfl)
    exact (List.map_congr_left fun x hx => by rw [h.fixed (hl x hx)]; rfl).trans (List.map_id' l)
  honest {l} hc := by
    have hx := each_changed_eq_false.mp hc
    exact (List.map_id' l).symm.trans (List.map_congr_left fun x hxl => h.honest (hx x hxl))

/-- A rearrangement; it raises no flag. -/
def arranged (f : List α → List α) (l : List α) : Marked (List α) := pure (f l)

theorem Settles.arranged {f : List α → List α} {ok : List α → Prop} (hperm : ∀ l, (f l).Perm l)
    (hok : ∀ l, ok (f l)) (hfix : ∀ {l}, ok l → f l = l) : Settles (arranged f) ok List.Perm where
  result := hok
  fixed hl := congrArg pure (hfix hl)
  honest _ := (hperm _).symm

/-- Elements are left out, and the lengths are compared. -/
def resized (f : List α → List α) (l : List α) : Marked (List α) := ⟨f l, decide ((f l).length ≠ l.length)⟩

@[simp] theorem resized_value (f : List α → List α) (l : List α) : (resized f l).value = f l := rfl

theorem Settles.resized {f : List α → List α} {ok : List α → Prop} (hsub : ∀ l, (f l).Sublist l)
    (hok : ∀ l, ok (f l)) (hfix : ∀ {l}, ok l → f l = l) : Settles (resized f) ok Eq where
  result := hok
  fixed hl := Marked.eq_pure (hfix hl) (by simp [Bounding.resized, hfix hl])
  honest {l} hc := ((hsub l).eq_of_length (by simpa [Bounding.resized] using hc)).symm

/-- At most so many elements. -/
def truncate (maximum : Nat) (l : List α) : Marked (List α) :=
  if l.length ≤ maximum then pure l else ⟨l.take maximum, true⟩

@[simp] theorem truncate_value (maximum : Nat) (l : List α) : (truncate maximum l).value = l.take maximum := by
  unfold truncate
  split
  · next h => exact (List.take_of_length_le h).symm
  · rfl

theorem truncate_changed (maximum : Nat) (l : List α) :
    (truncate maximum l).changed = decide (maximum < l.length) := by
  unfold truncate
  split
  · next h => exact (decide_eq_false (Nat.not_lt.mpr h)).symm
  · next h => exact (decide_eq_true (Nat.not_le.mp h)).symm

theorem Settles.truncate (maximum : Nat) :
    Settles (truncate (α := α) maximum) (fun l => l.length ≤ maximum) Eq where
  result l := by simp
  fixed hl := by rw [Bounding.truncate, if_pos hl]
  honest {l} hc := by
    rw [truncate_changed, decide_eq_false_iff_not, Nat.not_lt] at hc
    rw [truncate_value, List.take_of_length_le hc]

end

/-! ## Leaving out repeated elements -/

section

variable {α : Type u} {κ : Type v}

/-- `dedup_by`: an element goes when its key is that of the last one kept. -/
def dedupFrom [DecidableEq κ] (key : α → κ) (last : α) : List α → List α
  | [] => []
  | x :: l => if key x = key last then dedupFrom key last l else x :: dedupFrom key x l

def dedupAdjacent [DecidableEq κ] (key : α → κ) : List α → List α
  | [] => []
  | x :: l => x :: dedupFrom key x l

/-- `retain(|x| seen.insert(key(x)))`: the first element of each key. -/
def retainFirst [DecidableEq κ] (key : α → κ) (seen : List κ) : List α → List α
  | [] => []
  | x :: l => if key x ∈ seen then retainFirst key seen l else x :: retainFirst key (key x :: seen) l

theorem dedupFrom_sublist [DecidableEq κ] (key : α → κ) (last : α) (l : List α) :
    (dedupFrom key last l).Sublist l := by
  induction l generalizing last with
  | nil => exact List.Sublist.refl _
  | cons x l ih =>
    unfold dedupFrom
    split
    · exact (ih last).cons x
    · exact (ih x).cons_cons x

theorem dedupAdjacent_sublist [DecidableEq κ] (key : α → κ) (l : List α) : (dedupAdjacent key l).Sublist l := by
  cases l with
  | nil => exact List.Sublist.refl _
  | cons x l => exact (dedupFrom_sublist key x l).cons_cons x

/-- No key is lost. -/
theorem exists_mem_dedupFrom [DecidableEq κ] {key : α → κ} {last : α} {l : List α} {x : α} (hx : x ∈ last :: l) :
    ∃ y ∈ last :: dedupFrom key last l, key y = key x := by
  induction l generalizing last with
  | nil => exact ⟨x, hx, rfl⟩
  | cons z l ih =>
    unfold dedupFrom
    split
    · next heq =>
      rcases List.mem_cons.mp hx with rfl | hx
      · exact ⟨x, List.mem_cons_self, rfl⟩
      · rcases List.mem_cons.mp hx with rfl | hx
        · exact ⟨last, List.mem_cons_self, heq.symm⟩
        · exact ih (List.mem_cons_of_mem last hx)
    · rcases List.mem_cons.mp hx with rfl | hx
      · exact ⟨x, List.mem_cons_self, rfl⟩
      · obtain ⟨y, hy, hkey⟩ := ih hx
        exact ⟨y, List.mem_cons_of_mem last hy, hkey⟩

theorem exists_mem_dedupAdjacent [DecidableEq κ] {key : α → κ} {l : List α} {x : α} (hx : x ∈ l) :
    ∃ y ∈ dedupAdjacent key l, key y = key x := by
  cases l with
  | nil => cases hx
  | cons z l => exact exists_mem_dedupFrom hx

theorem dedupFrom_eq_self [DecidableEq κ] {key : α → κ} {last : α} {l : List α}
    (h : (last :: l).Pairwise fun x y => key x ≠ key y) : dedupFrom key last l = l := by
  induction l generalizing last with
  | nil => rfl
  | cons x l ih =>
    rw [List.pairwise_cons] at h
    rw [dedupFrom, if_neg (h.1 x List.mem_cons_self).symm, ih h.2]

theorem dedupAdjacent_eq_self [DecidableEq κ] {key : α → κ} {l : List α}
    (h : l.Pairwise fun x y => key x ≠ key y) : dedupAdjacent key l = l := by
  cases l with
  | nil => rfl
  | cons x l => rw [dedupAdjacent, dedupFrom_eq_self h]

/-- In a list in the order of its keys no key is left twice. -/
theorem pairwise_lt_dedupFrom [LinearOrder κ] {key : α → κ} {last : α} {l : List α}
    (h : (last :: l).Pairwise fun x y => key x ≤ key y) :
    (last :: dedupFrom key last l).Pairwise fun x y => key x < key y := by
  induction l generalizing last with
  | nil => exact List.pairwise_singleton _ _
  | cons x l ih =>
    rw [List.pairwise_cons, List.pairwise_cons] at h
    obtain ⟨hlast, hx, hl⟩ := h
    unfold dedupFrom
    split
    · exact ih (List.pairwise_cons.mpr ⟨fun y hy => hlast y (List.mem_cons_of_mem x hy), hl⟩)
    · next hne =>
      have hlt : key last < key x := lt_of_le_of_ne (hlast x List.mem_cons_self) (Ne.symm hne)
      have ih := ih (List.pairwise_cons.mpr ⟨hx, hl⟩)
      refine List.pairwise_cons.mpr ⟨?_, ih⟩
      intro y hy
      rcases List.mem_cons.mp hy with rfl | hy
      · exact hlt
      · exact hlt.trans ((List.pairwise_cons.mp ih).1 y hy)

theorem dedupFrom_congr {κ' : Type v} [DecidableEq κ] [DecidableEq κ'] {f : α → κ} {g : α → κ'}
    (h : ∀ x y, f x = f y ↔ g x = g y) (last : α) (l : List α) : dedupFrom f last l = dedupFrom g last l := by
  induction l generalizing last with
  | nil => rfl
  | cons x l ih => simp only [dedupFrom, h, ih]

/-- Only which keys are equal matters. -/
theorem dedupAdjacent_congr {κ' : Type v} [DecidableEq κ] [DecidableEq κ'] {f : α → κ} {g : α → κ'}
    (h : ∀ x y, f x = f y ↔ g x = g y) (l : List α) : dedupAdjacent f l = dedupAdjacent g l := by
  cases l with
  | nil => rfl
  | cons x l => rw [dedupAdjacent, dedupAdjacent, dedupFrom_congr h]

theorem pairwise_lt_dedupAdjacent [LinearOrder κ] {key : α → κ} {l : List α}
    (h : l.Pairwise fun x y => key x ≤ key y) : (dedupAdjacent key l).Pairwise fun x y => key x < key y := by
  cases l with
  | nil => exact List.Pairwise.nil
  | cons x l => exact pairwise_lt_dedupFrom h

theorem retainFirst_sublist [DecidableEq κ] (key : α → κ) (seen : List κ) (l : List α) :
    (retainFirst key seen l).Sublist l := by
  induction l generalizing seen with
  | nil => exact List.Sublist.refl _
  | cons x l ih =>
    unfold retainFirst
    split
    · exact (ih seen).cons x
    · exact (ih _).cons_cons x

/-- The keys of the elements kept are new and distinct. -/
theorem nodup_retainFirst [DecidableEq κ] (key : α → κ) (seen : List κ) (l : List α) :
    ((retainFirst key seen l).map key).Nodup ∧ ∀ x ∈ retainFirst key seen l, key x ∉ seen := by
  induction l generalizing seen with
  | nil => exact ⟨List.nodup_nil, fun x hx => absurd hx List.not_mem_nil⟩
  | cons x l ih =>
    unfold retainFirst
    split
    · exact ih seen
    · next hx =>
      obtain ⟨hnodup, hnew⟩ := ih (key x :: seen)
      refine ⟨List.nodup_cons.mpr ⟨?_, hnodup⟩, ?_⟩
      · rintro hmem
        obtain ⟨y, hy, heq⟩ := List.mem_map.mp hmem
        exact hnew y hy (heq ▸ List.mem_cons_self)
      · intro y hy
        rcases List.mem_cons.mp hy with rfl | hy
        · exact hx
        · exact fun hseen => hnew y hy (List.mem_cons_of_mem _ hseen)

theorem retainFirst_eq_self [DecidableEq κ] {key : α → κ} {seen : List κ} {l : List α} (h : (l.map key).Nodup)
    (hnew : ∀ x ∈ l, key x ∉ seen) : retainFirst key seen l = l := by
  induction l generalizing seen with
  | nil => rfl
  | cons x l ih =>
    rw [List.map_cons, List.nodup_cons] at h
    rw [retainFirst, if_neg (hnew x List.mem_cons_self), ih h.2]
    intro y hy hmem
    rcases List.mem_cons.mp hmem with heq | hmem
    · exact h.1 (heq ▸ List.mem_map_of_mem hy)
    · exact hnew y (List.mem_cons_of_mem x hy) hmem

theorem Settles.retainFirst [DecidableEq κ] (key : α → κ) :
    Settles (Bounding.resized (Bounding.retainFirst key [])) (fun l : List α => (l.map key).Nodup) Eq :=
  Settles.resized (retainFirst_sublist key []) (fun l => (nodup_retainFirst key [] l).1)
    fun h => retainFirst_eq_self h fun _ _ => List.not_mem_nil

theorem Settles.retain (p : α → Bool) :
    Settles (Bounding.resized (List.filter p)) (fun l => ∀ x ∈ l, p x = true) Eq :=
  Settles.resized (fun _ => List.filter_sublist) (fun _ _ hx => (List.mem_filter.mp hx).2)
    fun h => List.filter_eq_self.mpr h

/-! ## Passes that arrange -/

/-- Without raising the flag `f` arranges a value and does nothing else, and it does so exactly where the arranged value
is `ok`. -/
structure Arranges {α : Type u} (f : α → Marked α) (arrange : α → α) (ok : α → Prop) : Prop where
  unchanged : ∀ {x}, (f x).changed = false → (f x).value = arrange x ∧ ok (arrange x)
  fixed : ∀ {x}, ok (arrange x) → f x = pure (arrange x)

/-- A pass over what is there. -/
theorem Arranges.optional {f : α → Marked α} {arrange : α → α} {ok : α → Prop} (h : Arranges f arrange ok) :
    Arranges (Bounding.optional f) (Option.map arrange) (fun o => ∀ x ∈ o, ok x) where
  unchanged {o} hc := by
    cases o with
    | none => exact ⟨rfl, fun x hx => by cases hx⟩
    | some x =>
      obtain ⟨hvalue, hok⟩ := h.unchanged (x := x) hc
      refine ⟨congrArg some hvalue, ?_⟩
      rintro _ ⟨⟩
      exact hok
  fixed {o} ho := by
    cases o with
    | none => rfl
    | some x => rw [Bounding.optional, h.fixed (ho _ rfl)]; rfl

theorem resized_honest {f : List α → List α} (hsub : ∀ l, (f l).Sublist l) {l : List α}
    (hc : (resized f l).changed = false) : f l = l :=
  (hsub l).eq_of_length (by simpa [resized] using hc)

/-- The elements are bounded, then the list is put in order, then it is cut. -/
theorem Settles.arranges {first whole : List α → Marked (List α)} {arrange : List α → List α}
    {each ok : List α → Prop} {same : List α → List α → Prop} (cut : List α → Marked (List α))
    (hwhole : Settles whole ok same)
    (heq : ∀ l, whole l = first l >>= fun l => cut (arrange l)) (hfirst : Settles first each Eq)
    (hcut : ∀ {l}, (cut l).changed = false → (cut l).value = l) (hidem : ∀ l, arrange (arrange l) = arrange l)
    (heach : ∀ {l}, ok (arrange l) → each l) : Arranges whole arrange ok where
  unchanged {l} hc := by
    have hresult := hwhole.result l
    rw [heq, Marked.bind_changed, Bool.or_eq_false_iff] at hc
    have hvalue : (whole l).value = arrange l := by
      rw [heq, Marked.bind_value, hcut hc.2, ← hfirst.honest hc.1]
    rw [hvalue] at hresult
    exact ⟨hvalue, hresult⟩
  fixed {l} hok := by
    have hhere : whole l = cut (arrange l) := by rw [heq, hfirst.fixed (heach hok), Marked.pure_bind]
    have hthere : whole (arrange l) = cut (arrange l) := by
      rw [heq, hfirst.fixed (heach ((hidem l).symm ▸ hok)), Marked.pure_bind, hidem]
    rw [hhere, ← hthere, hwhole.fixed hok]

end

end Bounding
