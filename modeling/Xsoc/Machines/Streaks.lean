import Mathlib.Data.List.Induction

/-!
# Failures in a row

What counts failures, and is told of each success, gives up after some number of failures in a row.

* `trailing`, `Below` : how many failures there are at the end, and that there are never too many;
* `Counter`, `Counter.GivesUpAt` : a counter, and when it gives up; `Counter.upTo` : the plain one.
-/

set_option autoImplicit false

namespace Streaks

/-- The failures at the end, of what went well or not. -/
def trailing (l : List Bool) : Nat := (l.reverse.takeWhile fun ok => !ok).length

@[simp] theorem trailing_nil : trailing [] = 0 := rfl

@[simp] theorem trailing_concat_true (l : List Bool) : trailing (l ++ [true]) = 0 := by simp [trailing]

@[simp] theorem trailing_concat_false (l : List Bool) : trailing (l ++ [false]) = trailing l + 1 := by simp [trailing]

/-- Never are there so many in a row. -/
def Below (n : Nat) (l : List Bool) : Prop := ∀ before, before <+: l → trailing before < n

theorem below_concat {n : Nat} {l : List Bool} {ok : Bool} :
    Below n (l ++ [ok]) ↔ Below n l ∧ trailing (l ++ [ok]) < n := by
  constructor
  · exact fun h => ⟨fun before hb => h before (hb.trans (List.prefix_append l [ok])), h _ (List.prefix_refl _)⟩
  · rintro ⟨h, hlast⟩ before hb
    rcases List.prefix_concat_iff.mp hb with rfl | hb
    · exact hlast
    · exact h before hb

/-- A counter of failures. It may refuse to go on. -/
structure Counter (σ ε : Type) where
  new : σ
  recordSuccess : σ → σ
  recordFailure : σ → Except ε Unit × σ

variable {σ ε : Type}

namespace Counter

def record (c : Counter σ ε) (s : σ) (ok : Bool) : σ := if ok then c.recordSuccess s else (c.recordFailure s).2

/-- The counter after these. -/
def after (c : Counter σ ε) (l : List Bool) : σ := l.foldl c.record c.new

theorem after_concat (c : Counter σ ε) (l : List Bool) (ok : Bool) : c.after (l ++ [ok]) = c.record (c.after l) ok :=
  List.foldl_append

/-- So long as it has never been so many in a row, it refuses exactly when it would be. -/
def GivesUpAt (c : Counter σ ε) (n : Nat) : Prop :=
  0 < n ∧ ∀ l : List Bool, Below n l → ((∃ e, (c.recordFailure (c.after l)).1 = .error e) ↔ n ≤ trailing l + 1)

/-- What comes next is refused when it makes too many. -/
theorem GivesUpAt.refuses_iff {c : Counter σ ε} {n : Nat} {l : List Bool} {ok : Bool} (h : c.GivesUpAt n)
    (hl : Below n l) : (ok = false ∧ ∃ e, (c.recordFailure (c.after l)).1 = .error e) ↔ n ≤ trailing (l ++ [ok]) := by
  cases ok with
  | true =>
    rw [trailing_concat_true]
    exact ⟨(fun hfalse => by cases hfalse.1), fun hle => absurd h.1 (Nat.not_lt.mpr hle)⟩
  | false =>
    rw [trailing_concat_false, ← h.2 l hl]
    exact and_iff_right rfl

/-- It counts to `n`. -/
def upTo (n : Nat) (e : ε) : Counter Nat ε where
  new := 0
  recordSuccess _ := 0
  recordFailure k := (if k + 1 < n then .ok () else .error e, k + 1)

theorem after_upTo (n : Nat) (e : ε) (l : List Bool) : (upTo n e).after l = trailing l := by
  induction l using List.reverseRecOn with
  | nil => rfl
  | append_singleton l ok ih =>
    rw [after_concat, ih]
    cases ok with
    | true => exact (trailing_concat_true l).symm
    | false => exact (trailing_concat_false l).symm

theorem givesUpAt_upTo {n : Nat} (h : 0 < n) (e : ε) : (upTo n e).GivesUpAt n := by
  refine ⟨h, fun l _ => ?_⟩
  rw [after_upTo, ← Nat.not_lt]
  unfold upTo
  dsimp only
  split
  · next hlt => exact ⟨(fun ⟨e, h⟩ => by cases h), fun hnot => absurd hlt hnot⟩
  · next hnot => exact ⟨fun _ => hnot, fun _ => ⟨e, rfl⟩⟩

end Counter

end Streaks
