import Mathlib.Data.List.Induction

/-!
# Actions that fail in any of their calls

An action changes a world, and returns a value or fails; it leaves a world in both cases. What goes wrong in a run is
a `Plan`: for each call, addressed by the calls that it is made in, whether it fails and how.

* `Plan.Clear` : none of these calls fails;
* `Act` : actions; `attempt` turns a failure into a value;
* `wp p Q s` : run from `s`, the action `p` ends as `Q` says; `wp_bind`, `wp_attempt`, ... are its rules;
* `Keeps I p` : `p` keeps the invariant `I`, also where it fails; `Reads p` : `p` changes nothing;
* `Atomic p accepts after s` : from `s`, `p` does all that it does, or it fails and changes nothing;
* `run_keeps` : what steps of a kind keep, a run keeps that has no others.

An action that is interrupted leaves what it leaves when all of its calls from there on fail without any effect.
-/

set_option autoImplicit false

namespace Faults

/-- Which calls fail, and how. -/
def Plan (κ φ : Type) : Type := List κ → Option φ

namespace Plan

variable {κ φ : Type}

/-- Nothing fails. -/
def nothing : Plan κ φ := fun _ => none

/-- What happens to a call of the action itself. -/
abbrev fault (f : Plan κ φ) (call : κ) : Option φ := f [call]

/-- What happens within a call. -/
def within (f : Plan κ φ) (call : κ) : Plan κ φ := fun calls => f (call :: calls)

/-- These calls, made within another one. -/
def under (call : κ) (calls : List (List κ)) : List (List κ) := calls.map (call :: ·)

/-- None of these calls fails. -/
def Clear (f : Plan κ φ) (calls : List (List κ)) : Prop := ∀ call ∈ calls, f call = none

instance (f : Plan κ φ) (calls : List (List κ)) : Decidable (f.Clear calls) :=
  decidable_of_iff (calls.all fun call => (f call).isNone) (by simp [Clear])

variable {f : Plan κ φ}

@[simp] theorem clear_nil : f.Clear [] := fun _ h => by cases h

@[simp] theorem clear_cons (call : List κ) (calls : List (List κ)) :
    f.Clear (call :: calls) ↔ f call = none ∧ f.Clear calls := List.forall_mem_cons

@[simp] theorem clear_append (calls calls' : List (List κ)) :
    f.Clear (calls ++ calls') ↔ f.Clear calls ∧ f.Clear calls' := List.forall_mem_append

@[simp] theorem clear_under (call : κ) (calls : List (List κ)) :
    f.Clear (under call calls) ↔ (f.within call).Clear calls := by
  simp [Clear, within, under]

end Plan

/-- An action on a world: what it returns, and the world that it leaves. -/
def Act (σ ε α : Type) : Type := σ → Except ε α × σ

variable {σ ε α β : Type}

namespace Act

def pure (a : α) : Act σ ε α := fun s => (.ok a, s)

def throw (e : ε) : Act σ ε α := fun s => (.error e, s)

def bind (p : Act σ ε α) (f : α → Act σ ε β) : Act σ ε β := fun s =>
  match p s with
  | (.ok a, s') => f a s'
  | (.error e, s') => (.error e, s')

instance : Monad (Act σ ε) where
  pure := pure
  bind := bind

def gets (f : σ → α) : Act σ ε α := fun s => (.ok (f s), s)

def modify (f : σ → σ) : Act σ ε Unit := fun s => (.ok (), f s)

def ofExcept (x : Except ε α) : Act σ ε α := fun s => (x, s)

def ensure (p : σ → Bool) (e : ε) : Act σ ε Unit := fun s => (if p s then .ok () else .error e, s)

/-- The action, if it is called for. -/
def when (c : Bool) (p : Act σ ε Unit) : Act σ ε Unit := if c then p else pure ()

/-- `c && p`, which does not ask `p` where `c` settles it. -/
def andAlso (c : Bool) (p : Act σ ε Bool) : Act σ ε Bool := if c then p else pure false

/-- `c || p`, which does not ask `p` where `c` settles it. -/
def orElse (c : Bool) (p : Act σ ε Bool) : Act σ ε Bool := if c then pure true else p

/-- The outcome of an action, whether it failed or not. -/
def attempt (p : Act σ ε α) : Act σ ε (Except ε α) := fun s => (.ok (p s).1, (p s).2)

def mapError (f : ε → ε) (p : Act σ ε α) : Act σ ε α := fun s => ((p s).1.mapError f, (p s).2)

/-! ## How an action ends -/

/-- The action, run from this world, ends so. -/
def wp (p : Act σ ε α) (Q : Except ε α → σ → Prop) (s : σ) : Prop := Q (p s).1 (p s).2

variable {Q : Except ε α → σ → Prop} {s : σ}

@[simp] theorem wp_pure (a : α) : wp (Pure.pure a : Act σ ε α) Q s ↔ Q (.ok a) s := Iff.rfl

@[simp] theorem wp_throw (e : ε) : wp (throw e : Act σ ε α) Q s ↔ Q (.error e) s := Iff.rfl

@[simp] theorem wp_gets (f : σ → α) : wp (gets f : Act σ ε α) Q s ↔ Q (.ok (f s)) s := Iff.rfl

@[simp] theorem wp_ofExcept (x : Except ε α) : wp (ofExcept x : Act σ ε α) Q s ↔ Q x s := Iff.rfl

@[simp] theorem wp_modify (f : σ → σ) (Q : Except ε Unit → σ → Prop) :
    wp (modify f) Q s ↔ Q (.ok ()) (f s) := Iff.rfl

@[simp] theorem wp_ensure (p : σ → Bool) (e : ε) (Q : Except ε Unit → σ → Prop) :
    wp (ensure p e) Q s ↔ if p s then Q (.ok ()) s else Q (.error e) s := by
  unfold wp ensure
  by_cases h : p s <;> simp [h]

@[simp] theorem wp_when (c : Bool) (p : Act σ ε Unit) (Q : Except ε Unit → σ → Prop) :
    wp (when c p) Q s ↔ if c then wp p Q s else Q (.ok ()) s := by
  cases c <;> rfl

@[simp] theorem wp_andAlso (c : Bool) (p : Act σ ε Bool) (Q : Except ε Bool → σ → Prop) :
    wp (andAlso c p) Q s ↔ if c then wp p Q s else Q (.ok false) s := by
  cases c <;> rfl

@[simp] theorem wp_orElse (c : Bool) (p : Act σ ε Bool) (Q : Except ε Bool → σ → Prop) :
    wp (orElse c p) Q s ↔ if c then Q (.ok true) s else wp p Q s := by
  cases c <;> rfl

@[simp] theorem wp_bind (p : Act σ ε α) (f : α → Act σ ε β) (Q : Except ε β → σ → Prop) :
    wp (p >>= f) Q s ↔ wp p (fun r s' =>
      match r with
      | .ok a => wp (f a) Q s'
      | .error e => Q (.error e) s') s := by
  unfold wp
  show Q (bind p f s).1 (bind p f s).2 ↔ _
  unfold bind
  rcases p s with ⟨_ | a, s'⟩ <;> rfl

@[simp] theorem wp_attempt (p : Act σ ε α) (Q : Except ε (Except ε α) → σ → Prop) :
    wp (attempt p) Q s ↔ wp p (fun r s' => Q (.ok r) s') s := Iff.rfl

@[simp] theorem wp_mapError (g : ε → ε) (p : Act σ ε α) :
    wp (mapError g p) Q s ↔ wp p (fun r s' => Q (r.mapError g) s') s := Iff.rfl

theorem wp_mono {P : Except ε α → σ → Prop} {p : Act σ ε α} (hp : wp p P s) (hPQ : ∀ r s', P r s' → Q r s') :
    wp p Q s := hPQ _ _ hp

theorem wp_congr {p q : Act σ ε α} (h : p s = q s) : wp p Q s ↔ wp q Q s := by
  unfold wp
  rw [h]

/-! ## Actions that change nothing -/

/-- The action leaves the world as it is. -/
def Reads (p : Act σ ε α) : Prop := ∀ s, (p s).2 = s

theorem reads_pure (a : α) : Reads (Pure.pure a : Act σ ε α) := fun _ => rfl

theorem reads_throw (e : ε) : Reads (throw e : Act σ ε α) := fun _ => rfl

theorem reads_gets (f : σ → α) : Reads (gets f : Act σ ε α) := fun _ => rfl

theorem reads_ofExcept (x : Except ε α) : Reads (ofExcept x : Act σ ε α) := fun _ => rfl

theorem reads_ensure (p : σ → Bool) (e : ε) : Reads (ensure p e) := fun _ => rfl

theorem Reads.when {p : Act σ ε Unit} (hp : Reads p) (c : Bool) : Reads (when c p) := by
  cases c with
  | true => exact hp
  | false => exact reads_pure ()

theorem Reads.andAlso {p : Act σ ε Bool} (hp : Reads p) (c : Bool) : Reads (andAlso c p) := by
  cases c with
  | true => exact hp
  | false => exact reads_pure false

theorem Reads.orElse {p : Act σ ε Bool} (hp : Reads p) (c : Bool) : Reads (orElse c p) := by
  cases c with
  | true => exact reads_pure true
  | false => exact hp

theorem Reads.attempt {p : Act σ ε α} (hp : Reads p) : Reads (attempt p) := hp

theorem Reads.mapError {p : Act σ ε α} (hp : Reads p) (g : ε → ε) : Reads (mapError g p) := hp

theorem Reads.bind {p : Act σ ε α} (hp : Reads p) {f : α → Act σ ε β} (hf : ∀ a, Reads (f a)) :
    Reads (p >>= f) := by
  intro s
  show (Act.bind p f s).2 = s
  unfold Act.bind
  have h := hp s
  rcases hps : p s with ⟨_ | a, s'⟩
  · exact (congrArg Prod.snd hps).symm.trans h
  · rw [← (congrArg Prod.snd hps).symm.trans h]
    exact hf a s'

theorem bind_eq_ok {p : Act σ ε α} {f : α → Act σ ε β} {s : σ} {b : β} :
    ((p >>= f) s).1 = .ok b ↔ ∃ a, (p s).1 = .ok a ∧ (f a (p s).2).1 = .ok b := by
  refine (Act.wp_bind p f (fun r _ => r = .ok b)).trans ?_
  unfold wp
  cases (p s).1 with
  | error e => simp
  | ok a => simp

theorem Reads.bind_eq_ok {p : Act σ ε α} (hp : Reads p) {f : α → Act σ ε β} {s : σ} {b : β} :
    ((p >>= f) s).1 = .ok b ↔ ∃ a, (p s).1 = .ok a ∧ (f a s).1 = .ok b := by
  rw [Act.bind_eq_ok, hp s]

@[simp] theorem pure_eq_ok {a b : α} {s : σ} : ((Pure.pure a : Act σ ε α) s).1 = .ok b ↔ a = b := by
  show Except.ok a = Except.ok b ↔ a = b
  rw [Except.ok.injEq]

@[simp] theorem throw_eq_ok {e : ε} {b : α} {s : σ} : ((throw e : Act σ ε α) s).1 = .ok b ↔ False := by
  simp [throw]

@[simp] theorem gets_eq_ok {f : σ → α} {b : α} {s : σ} : ((gets f : Act σ ε α) s).1 = .ok b ↔ f s = b := by
  simp [gets]

@[simp] theorem ensure_eq_ok {p : σ → Bool} {e : ε} {u : Unit} {s : σ} : (ensure p e s).1 = .ok u ↔ p s = true := by
  unfold ensure
  by_cases h : p s <;> simp [h]

@[simp] theorem when_eq_ok {c : Bool} {p : Act σ ε Unit} {u : Unit} {s : σ} :
    (when c p s).1 = .ok u ↔ (c = true → (p s).1 = .ok ()) := by
  cases c with
  | true => simp [when]
  | false => simp [when, pure]

@[simp] theorem ofExcept_eq_ok {x : Except ε α} {b : α} {s : σ} : (ofExcept x s).1 = .ok b ↔ x = .ok b := Iff.rfl

/-- After a read, the world is the same and the value is what was read. -/
theorem Reads.wp_bind {p : Act σ ε α} (hp : Reads p) {f : α → Act σ ε β} {Q : Except ε β → σ → Prop} {s : σ}
    (herror : ∀ e, Q (.error e) s) (hok : ∀ a, (p s).1 = .ok a → wp (f a) Q s) : wp (p >>= f) Q s := by
  refine (Act.wp_bind p f Q).mpr ?_
  unfold wp
  rw [hp s]
  cases hr : (p s).1 with
  | error e => exact herror e
  | ok a => exact hok a hr

theorem bind_of_ok {p : Act σ ε α} {f : α → Act σ ε β} {s s' : σ} {a : α} (h : p s = (.ok a, s')) :
    (p >>= f) s = f a s' := by
  show bind p f s = _
  rw [bind, h]

theorem bind_of_error {p : Act σ ε α} {f : α → Act σ ε β} {s s' : σ} {e : ε} (h : p s = (.error e, s')) :
    (p >>= f) s = (.error e, s') := by
  show bind p f s = _
  rw [bind, h]

/-- After a read that succeeds, what follows it goes on from the same world. -/
theorem Reads.bind_eq {p : Act σ ε α} (hp : Reads p) {s : σ} {a : α} (h : (p s).1 = .ok a) (f : α → Act σ ε β) :
    (p >>= f) s = f a s :=
  bind_of_ok (Prod.ext h (hp s))

/-- A read that does not succeed ends an action, in the same world. -/
theorem Reads.bind_fails {p : Act σ ε α} (hp : Reads p) {s : σ} (h : ∀ a, (p s).1 ≠ .ok a) (f : α → Act σ ε β) :
    ∃ e, (p >>= f) s = (.error e, s) := by
  cases hr : (p s).1 with
  | ok a => exact absurd hr (h a)
  | error e => exact ⟨e, bind_of_error (Prod.ext hr (hp s))⟩

/-! ## Invariants -/

/-- The action keeps an invariant, whether it fails or not. -/
def Keeps (I : σ → Prop) (p : Act σ ε α) : Prop := ∀ s, I s → I (p s).2

variable {I : σ → Prop}

theorem Reads.keeps {p : Act σ ε α} (hp : Reads p) : Keeps I p := fun s hs => (hp s).symm ▸ hs

theorem Keeps.wp {p : Act σ ε α} (hp : Keeps I p) (hs : I s) : Act.wp p (fun _ s' => I s') s := hp s hs

theorem keeps_iff {p : Act σ ε α} : Keeps I p ↔ ∀ s, I s → Act.wp p (fun _ s' => I s') s := Iff.rfl

theorem keeps_modify {f : σ → σ} (hf : ∀ s, I s → I (f s)) : Keeps I (modify f : Act σ ε Unit) := hf

theorem Keeps.bind {p : Act σ ε α} (hp : Keeps I p) {f : α → Act σ ε β} (hf : ∀ a, Keeps I (f a)) :
    Keeps I (p >>= f) := by
  intro s hs
  refine (Act.wp_bind p f (fun _ s' => I s')).mpr ?_
  refine wp_mono (hp.wp hs) ?_
  rintro (e | a) s' hs'
  · exact hs'
  · exact hf a s' hs'

theorem Keeps.when {p : Act σ ε Unit} (hp : Keeps I p) (c : Bool) : Keeps I (when c p) := by
  cases c with
  | true => exact hp
  | false => exact fun s hs => hs

theorem Keeps.attempt {p : Act σ ε α} (hp : Keeps I p) : Keeps I (attempt p) := hp

theorem Keeps.mapError {p : Act σ ε α} (hp : Keeps I p) (g : ε → ε) : Keeps I (mapError g p) := hp

theorem Keeps.ite {c : Prop} [Decidable c] {p q : Act σ ε α} (hp : Keeps I p) (hq : Keeps I q) :
    Keeps I (if c then p else q) := by
  split
  · exact hp
  · exact hq

theorem Reads.ite {c : Prop} [Decidable c] {p q : Act σ ε α} (hp : Reads p) (hq : Reads q) :
    Reads (if c then p else q) := by
  split
  · exact hp
  · exact hq

/-! ## All or nothing -/

/-- From `s` the action succeeds as `after` exactly where it `accepts`; where it fails it has changed nothing. -/
structure Atomic (p : Act σ ε Unit) (accepts : Prop) (after s : σ) : Prop where
  accepted : accepts → p s = (.ok (), after)
  rejected : ¬ accepts → ∃ e, p s = (.error e, s)

variable {p : Act σ ε Unit} {A B : Prop} {after after' : σ}

theorem atomic_modify (f : σ → σ) : Atomic (modify f : Act σ ε Unit) True (f s) s :=
  ⟨fun _ => rfl, fun h => absurd trivial h⟩

theorem atomic_ensure (test : σ → Bool) (e : ε) : Atomic (ensure test e) (test s = true) s s where
  accepted h := by rw [ensure, if_pos h]
  rejected h := ⟨e, by rw [ensure, if_neg h]⟩

theorem Atomic.congr (h : Atomic p A after s) (hiff : A ↔ B) (hafter : B → after = after') : Atomic p B after' s where
  accepted hb := by rw [h.accepted (hiff.mpr hb), hafter hb]
  rejected hb := h.rejected fun ha => hb (hiff.mp ha)

theorem Atomic.read {f : σ → α} {g : α → Act σ ε Unit} (hg : Atomic (g (f s)) A after s) :
    Atomic (gets f >>= g) A after s :=
  ⟨hg.accepted, hg.rejected⟩

/-- A check comes first. -/
theorem Atomic.check {x : Except ε α} {a : α} {g : α → Act σ ε Unit} (hx : ∀ v, x = .ok v ↔ A ∧ v = a)
    (hg : Atomic (g a) B after s) : Atomic (ofExcept x >>= g) (A ∧ B) after s where
  accepted h := ((reads_ofExcept x).bind_eq ((hx a).mpr ⟨h.1, rfl⟩) g).trans (hg.accepted h.2)
  rejected h := by
    by_cases ha : A
    · obtain ⟨e, he⟩ := hg.rejected fun hb => h ⟨ha, hb⟩
      exact ⟨e, ((reads_ofExcept x).bind_eq ((hx a).mpr ⟨ha, rfl⟩) g).trans he⟩
    · exact (reads_ofExcept x).bind_fails (fun v hv => ha ((hx v).mp hv).1) g

/-- An action that changes nothing comes first. -/
theorem Atomic.before {g : Unit → Act σ ε Unit} (hp : Atomic p A s s) (hg : Atomic (g ()) B after s) :
    Atomic (p >>= g) (A ∧ B) after s where
  accepted h := (bind_of_ok (hp.accepted h.1)).trans (hg.accepted h.2)
  rejected h := by
    by_cases ha : A
    · obtain ⟨e, he⟩ := hg.rejected fun hb => h ⟨ha, hb⟩
      exact ⟨e, (bind_of_ok (hp.accepted ha)).trans he⟩
    · obtain ⟨e, he⟩ := hp.rejected ha
      exact ⟨e, bind_of_error he⟩

/-- A change that cannot fail comes last. -/
theorem Atomic.andThen (hp : Atomic p A after s) (f : σ → σ) :
    Atomic (p >>= fun _ => modify f) A (f after) s where
  accepted h := bind_of_ok (hp.accepted h)
  rejected h := by
    obtain ⟨e, he⟩ := hp.rejected h
    exact ⟨e, bind_of_error he⟩

end Act

/-! ## Runs -/

/-- The world after these steps. -/
def run {ι : Type} (step : ι → σ → σ) (steps : List ι) (s : σ) : σ := steps.foldl (fun s i => step i s) s

section

variable {ι : Type} {step : ι → σ → σ}

@[simp] theorem run_nil (s : σ) : run step [] s = s := rfl

theorem run_append (steps steps' : List ι) (s : σ) :
    run step (steps ++ steps') s = run step steps' (run step steps s) := List.foldl_append

theorem run_concat (steps : List ι) (i : ι) (s : σ) : run step (steps ++ [i]) s = step i (run step steps s) :=
  run_append steps [i] s

/-- An invariant holds after a run, or a step broke it that was not one of those that keep it. -/
theorem run_keeps {I : σ → Prop} {ok : ι → σ → Prop} (hstep : ∀ i s, ok i s → I s → I (step i s)) {s : σ} (hs : I s)
    (steps : List ι) : I (run step steps s) ∨ ∃ before i after, steps = before ++ i :: after ∧
      I (run step before s) ∧ ¬ ok i (run step before s) := by
  induction steps using List.reverseRecOn with
  | nil => exact Or.inl hs
  | append_singleton steps i ih =>
    rcases ih with hI | ⟨before, j, after, rfl, hbefore⟩
    · by_cases hok : ok i (run step steps s)
      · left
        rw [run_concat]
        exact hstep i _ hok hI
      · exact Or.inr ⟨steps, i, [], rfl, hI, hok⟩
    · exact Or.inr ⟨before, j, after ++ [i], by simp, hbefore⟩

end

end Faults
