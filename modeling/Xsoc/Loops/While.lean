import Mathlib.Logic.Relation

/-!
# Loops that may fail

A loop takes a turn until its state says that it is done, or until a turn fails.

* `run` : the loop, in so many turns, with the state that it ends in; more turns do no harm (`run_mono`);
* `exists_run` : a loop whose turns decrease a measure ends;
* `of_run` : what holds in the end, and before each turn if it holds after it, holds in the beginning;
* `inv_of_run`, `exists_run_ok` : what each turn preserves holds in the end, and a loop whose turns never fail gets
  there;
* `run_of_steps` : a loop that is known to reach a state goes on from there.
-/

set_option autoImplicit false

namespace Loops

universe u v

/-- What a turn makes of the state. -/
inductive Turn (ε : Type u) (σ : Type v)
  | done
  | fail (error : ε)
  | next (s : σ)

variable {ε : Type u} {σ : Type v}

namespace Turn

def ofExcept : Except ε σ → Turn ε σ
  | .ok s => next s
  | .error e => fail e

@[simp] theorem ofExcept_eq_next {x : Except ε σ} {s : σ} : ofExcept x = next s ↔ x = .ok s := by
  cases x <;> simp [ofExcept]

@[simp] theorem ofExcept_ne_done (x : Except ε σ) : ofExcept x ≠ done := by
  cases x <;> simp [ofExcept]

end Turn

def run (turn : σ → Turn ε σ) : Nat → σ → Option (Except ε Unit × σ)
  | 0, _ => none
  | n + 1, s =>
    match turn s with
    | .done => some (.ok (), s)
    | .fail e => some (.error e, s)
    | .next s => run turn n s

section

variable {turn : σ → Turn ε σ}

theorem run_next {s t : σ} (h : turn s = .next t) (n : Nat) : run turn (n + 1) s = run turn n t := by
  rw [run, h]

theorem run_done {s : σ} (h : turn s = .done) (n : Nat) : run turn (n + 1) s = some (.ok (), s) := by
  rw [run, h]

theorem run_fail {s : σ} {e : ε} (h : turn s = .fail e) (n : Nat) : run turn (n + 1) s = some (.error e, s) := by
  rw [run, h]

theorem run_mono {n m : Nat} {s : σ} {r : Except ε Unit × σ} (h : run turn n s = some r) (hle : n ≤ m) :
    run turn m s = some r := by
  induction n generalizing m s with
  | zero => cases h
  | succ n ih =>
    obtain ⟨m, rfl⟩ : ∃ k, m = k + 1 := ⟨m - 1, by omega⟩
    unfold run at h ⊢
    split at h
    · exact h
    · exact h
    · exact ih h (by omega)

/-- A loop ends when each of its turns decreases a measure. -/
theorem exists_run {inv : σ → Prop} (measure : σ → Nat)
    (hnext : ∀ s t, inv s → turn s = .next t → inv t ∧ measure t < measure s) {s : σ} (hs : inv s) :
    ∃ n r, run turn n s = some r := by
  induction hm : measure s using Nat.strongRecOn generalizing s with
  | ind m ih =>
    cases ht : turn s with
    | done => exact ⟨1, _, run_done ht 0⟩
    | fail e => exact ⟨1, _, run_fail ht 0⟩
    | next t =>
      obtain ⟨hinv, hlt⟩ := hnext s t hs ht
      obtain ⟨n, r, hr⟩ := ih (measure t) (hm ▸ hlt) hinv rfl
      exact ⟨n + 1, r, (run_next ht n).trans hr⟩

/-- What holds when the loop is done, and before each turn if it holds after it, holds before a loop that succeeds. -/
theorem of_run {inv goal : σ → Prop} (hdone : ∀ s, inv s → turn s = .done → goal s)
    (hnext : ∀ s t, inv s → turn s = .next t → inv t ∧ (goal t → goal s)) {n : Nat} {s s' : σ} (hs : inv s)
    (h : run turn n s = some (.ok (), s')) : goal s := by
  induction n generalizing s with
  | zero => cases h
  | succ n ih =>
    cases ht : turn s with
    | done => exact hdone s hs ht
    | fail e =>
      rw [run_fail ht] at h
      cases h
    | next t =>
      rw [run_next ht] at h
      obtain ⟨hinv, hback⟩ := hnext s t hs ht
      exact hback (ih hinv h)

/-- What each turn preserves holds in the state that a loop is done with. -/
theorem inv_of_run {inv : σ → Prop} (hnext : ∀ s t, inv s → turn s = .next t → inv t) {n : Nat} {s s' : σ} (hs : inv s)
    (h : run turn n s = some (.ok (), s')) : inv s' ∧ turn s' = .done := by
  induction n generalizing s with
  | zero => cases h
  | succ n ih =>
    cases ht : turn s with
    | done =>
      rw [run_done ht] at h
      cases h
      exact ⟨hs, ht⟩
    | fail e =>
      rw [run_fail ht] at h
      cases h
    | next t =>
      rw [run_next ht] at h
      exact ih (hnext s t hs ht) h

/-- A loop succeeds when none of its turns fails, and each decreases a measure. -/
theorem exists_run_ok {inv : σ → Prop} (measure : σ → Nat)
    (hturn : ∀ s, inv s → turn s = .done ∨ ∃ t, turn s = .next t ∧ inv t ∧ measure t < measure s) {s : σ} (hs : inv s) :
    ∃ n t, run turn n s = some (.ok (), t) ∧ inv t ∧ turn t = .done := by
  induction hm : measure s using Nat.strongRecOn generalizing s with
  | ind m ih =>
    rcases hturn s hs with hdone | ⟨t, hnext, ht, hlt⟩
    · exact ⟨1, s, run_done hdone 0, hs, hdone⟩
    · obtain ⟨n, u, hrun, hu⟩ := ih (measure t) (hm ▸ hlt) ht rfl
      exact ⟨n + 1, u, (run_next hnext n).trans hrun, hu⟩

/-- The states that the loop passes through. -/
def Steps (turn : σ → Turn ε σ) : σ → σ → Prop := Relation.ReflTransGen fun s t => turn s = .next t

theorem Steps.single {s t : σ} (h : turn s = .next t) : Steps turn s t := Relation.ReflTransGen.single h

theorem Steps.refl (s : σ) : Steps turn s s := Relation.ReflTransGen.refl

theorem Steps.trans {s t u : σ} (h : Steps turn s t) (h' : Steps turn t u) : Steps turn s u :=
  Relation.ReflTransGen.trans h h'

theorem run_of_steps {s t : σ} (h : Steps turn s t) : ∃ k, ∀ n, run turn (k + n) s = run turn n t := by
  induction h using Relation.ReflTransGen.head_induction_on with
  | refl => exact ⟨0, fun n => by rw [Nat.zero_add]⟩
  | head hturn _ ih =>
    obtain ⟨k, hk⟩ := ih
    refine ⟨k + 1, fun n => ?_⟩
    rw [Nat.add_right_comm, run_next hturn, hk]

end

end Loops
