import Mathlib.Data.List.Induction

/-!
# Machines that take steps

A machine is a partial function `step` from a state and an event to the next state. What several threads do to a state
that they share is one machine whose events say which thread goes on, and how what it asked for ended.

* `run` : the state after a list of events, if each of them can be taken; `run_append_eq_some` : runs compose;
* `inv_of_run` : what each step preserves holds after a run; `inv_of_run_of_events` : it may speak of the events, too.
-/

set_option autoImplicit false

namespace Machines

universe u v w

variable {σ : Type u} {α : Type v}

/-- The state after these events. -/
def run (step : σ → α → Option σ) (s : σ) : List α → Option σ
  | [] => some s
  | a :: l =>
    match step s a with
    | none => none
    | some t => run step t l

variable {step : σ → α → Option σ} {s t u : σ} {a : α} {l l' : List α}

@[simp] theorem run_nil : run step s [] = some s := rfl

theorem run_cons_eq_some : run step s (a :: l) = some u ↔ ∃ t, step s a = some t ∧ run step t l = some u := by
  cases h : step s a with
  | none => simp [run, h]
  | some t => simp [run, h]

theorem run_append_eq_some :
    run step s (l ++ l') = some u ↔ ∃ t, run step s l = some t ∧ run step t l' = some u := by
  induction l generalizing s with
  | nil => simp
  | cons a l ih =>
    rw [List.cons_append, run_cons_eq_some]
    constructor
    · rintro ⟨t, hstep, hrun⟩
      obtain ⟨m, hm, hu⟩ := ih.mp hrun
      exact ⟨m, run_cons_eq_some.mpr ⟨t, hstep, hm⟩, hu⟩
    · rintro ⟨m, hm, hu⟩
      obtain ⟨t, hstep, hrun⟩ := run_cons_eq_some.mp hm
      exact ⟨t, hstep, ih.mpr ⟨m, hrun, hu⟩⟩

theorem run_concat_eq_some : run step s (l ++ [a]) = some u ↔ ∃ t, run step s l = some t ∧ step t a = some u := by
  rw [run_append_eq_some]
  refine exists_congr fun t => and_congr_right fun _ => ?_
  rw [run_cons_eq_some]
  simp

/-- What holds in the beginning, and each step preserves, holds after a run. The step may be taken after any events. -/
theorem inv_of_run_of_events {I : List α → σ → Prop} (hs : I [] s)
    (hstep : ∀ l s a t, I l s → step s a = some t → I (l ++ [a]) t) (h : run step s l = some t) : I l t := by
  induction l using List.reverseRecOn generalizing t with
  | nil =>
    cases h
    exact hs
  | append_singleton l a ih =>
    obtain ⟨m, hm, hlast⟩ := run_concat_eq_some.mp h
    exact hstep l m a t (ih hm) hlast

theorem inv_of_run {I : σ → Prop} (hs : I s) (hstep : ∀ s a t, I s → step s a = some t → I t)
    (h : run step s l = some t) : I t :=
  inv_of_run_of_events (I := fun _ => I) hs (fun _ s a t => hstep s a t) h

end Machines
