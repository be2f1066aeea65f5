import Mathlib.Algebra.Order.Ring.Nat
import Mathlib.Data.List.Basic

/-!
# Bounded producers

A collector keeps one element more than the contract allows, so that a collection that was too long still shows it.

* `pushBounded` : one more, as long as there is room;
* `drop_pushBounded` : what a push does to the elements behind the first ones.
-/

set_option autoImplicit false

namespace Xsoc

/-- The limit of a collector, in a `usize`. -/
def producerCollectionLimit (maximum : Nat) : Nat := if maximum + 1 < 2 ^ 64 then maximum + 1 else maximum

section

variable {α : Type}

/-- `push_bounded`; no caller reads what it returns. -/
def pushBounded (values : List α) (value : α) (maximum : Nat) : List α :=
  if producerCollectionLimit maximum ≤ values.length then values else values ++ [value]

theorem length_le_pushBounded (values : List α) (value : α) (maximum : Nat) :
    values.length ≤ (pushBounded values value maximum).length := by
  unfold pushBounded
  split <;> simp

theorem getElem?_pushBounded {values : List α} {value : α} {maximum i : Nat} (h : i < values.length) :
    (pushBounded values value maximum)[i]? = values[i]? := by
  unfold pushBounded
  split
  · rfl
  · rw [List.getElem?_append_left h]

/-- The elements behind the first `n` are those pushed, as many as there is room for. -/
theorem drop_pushBounded {values pushed : List α} {value : α} {maximum n : Nat} (hn : n ≤ values.length)
    (h : values.drop n = pushed.take (producerCollectionLimit maximum - n)) :
    (pushBounded values value maximum).drop n = (pushed ++ [value]).take (producerCollectionLimit maximum - n) := by
  have hlength : values.length - n = min (producerCollectionLimit maximum - n) pushed.length := by
    rw [← List.length_drop, h, List.length_take]
  unfold pushBounded
  split
  · next hfull =>
    have hcut : producerCollectionLimit maximum - n ≤ pushed.length := by omega
    rw [h, List.take_append_of_le_length hcut]
  · next hroom =>
    have hfits : pushed.length < producerCollectionLimit maximum - n := by omega
    rw [List.drop_append_of_le_length hn, h, List.take_of_length_le (Nat.le_of_lt hfits),
      List.take_of_length_le (by rw [List.length_append, List.length_singleton]; omega)]

end

end Xsoc
