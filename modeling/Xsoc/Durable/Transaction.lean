import Xsoc.Durable.History

/-!
# Locked transactions

A transaction runs under the lock of a store: it reads, writes the store atomically, several times, and returns a
value or fails. `Tx σ ε α` is what it does from a given state: the successive states it makes durable, and its
result. A crash, or an I/O error, leaves a prefix of those writes behind.

`Tx.wp permit a t Q h` : run by author `a` at history `h`, every write of `t` is permitted by the history it is
made in, and `Q` holds of the result and of the history at the end. `wp_pure`, `wp_bind`, ... are its rules.
-/

set_option autoImplicit false

namespace Durable

variable {σ κ ε α β : Type}

/-- A transaction: from the state it finds, the states it makes durable, in order, and its result. -/
def Tx (σ ε α : Type) : Type := σ → List σ × Except ε α

namespace Tx

/-- The states a transaction makes durable from `s`, in order. -/
def writes (t : Tx σ ε α) (s : σ) : List σ := (t s).1

def result (t : Tx σ ε α) (s : σ) : Except ε α := (t s).2

def pure (a : α) : Tx σ ε α := fun _ => ([], .ok a)

def throw (e : ε) : Tx σ ε α := fun _ => ([], .error e)

/-- Read the store; a read that fails fails the transaction. -/
def read (f : σ → Except ε α) : Tx σ ε α := fun s => ([], f s)

/-- Replace the store by one atomic durable write. -/
def write (f : σ → σ) : Tx σ ε Unit := fun s => ([f s], .ok ())

def ofExcept (x : Except ε α) : Tx σ ε α := fun _ => ([], x)

def ensure (p : Prop) [Decidable p] (e : ε) : Tx σ ε Unit := if p then pure () else throw e

def mapError (f : ε → ε) (t : Tx σ ε α) : Tx σ ε α := fun s => ((t s).1, (t s).2.mapError f)

/-- The transaction, cut short after some of its writes by an error of the store. -/
def failing (fault : Option (Nat × ε)) (t : Tx σ ε α) : Tx σ ε α := fun s =>
  match fault with
  | none => t s
  | some (n, e) => ((t s).1.take n, .error e)

/-- The state after the writes `ss` from `s`. -/
def last (s : σ) (ss : List σ) : σ := ss.getLastD s

def bind (t : Tx σ ε α) (k : α → Tx σ ε β) : Tx σ ε β := fun s =>
  match t s with
  | (ss, .error e) => (ss, .error e)
  | (ss, .ok a) => (ss ++ (k a (last s ss)).1, (k a (last s ss)).2)

instance : Monad (Tx σ ε) where
  pure := pure
  bind := bind

/-! ## Permitted transactions -/

/-- Run by author `a` at `h`, every write is permitted where it is made, and `Q` holds at the end. -/
def wp (permit : History σ κ → Write σ κ → Prop) (a : κ) (t : Tx σ ε α) (Q : Except ε α → History σ κ → Prop)
    (h : History σ κ) : Prop :=
  Permitted permit a h (t h.now).1 ∧ Q (t h.now).2 (h.extend a (t h.now).1)

theorem last_append (s : σ) (ss ts : List σ) : last s (ss ++ ts) = last (last s ss) ts := by
  unfold last
  cases ts with
  | nil => simp
  | cons t ts => simp [List.getLastD_eq_getLast?]

@[simp] theorem last_nil (s : σ) : last s [] = s := rfl

@[simp] theorem last_cons (s x : σ) (xs : List σ) : last s (x :: xs) = last x xs := by
  cases xs <;> rfl

theorem now_extend (a : κ) (ss : List σ) : ∀ h : History σ κ, (h.extend a ss).now = last h.now ss := by
  induction ss with
  | nil => intro h; rfl
  | cons s ss ih =>
    intro h
    rw [History.extend_cons, ih, History.now_push, last_cons]

variable {permit : History σ κ → Write σ κ → Prop} {a : κ}

@[simp] theorem wp_pure (x : α) (Q : Except ε α → History σ κ → Prop) (h : History σ κ) :
    wp permit a (Pure.pure x : Tx σ ε α) Q h ↔ Q (.ok x) h := by
  simp [wp, Pure.pure, pure]

@[simp] theorem wp_throw (e : ε) (Q : Except ε α → History σ κ → Prop) (h : History σ κ) :
    wp permit a (throw e : Tx σ ε α) Q h ↔ Q (.error e) h := by
  simp [wp, throw]

@[simp] theorem wp_read (f : σ → Except ε α) (Q : Except ε α → History σ κ → Prop) (h : History σ κ) :
    wp permit a (read f) Q h ↔ Q (f h.now) h := by
  simp [wp, read]

@[simp] theorem wp_ofExcept (x : Except ε α) (Q : Except ε α → History σ κ → Prop) (h : History σ κ) :
    wp permit a (ofExcept x : Tx σ ε α) Q h ↔ Q x h := by
  simp [wp, ofExcept]

@[simp] theorem wp_write (f : σ → σ) (Q : Except ε Unit → History σ κ → Prop) (h : History σ κ) :
    wp permit a (write f) Q h ↔ permit h ⟨f h.now, a⟩ ∧ Q (.ok ()) (h.push ⟨f h.now, a⟩) := by
  simp [wp, write]

@[simp] theorem wp_ensure (p : Prop) [Decidable p] (e : ε) (Q : Except ε Unit → History σ κ → Prop)
    (h : History σ κ) :
    wp permit a (ensure p e : Tx σ ε Unit) Q h ↔ if p then Q (.ok ()) h else Q (.error e) h := by
  unfold ensure
  split
  · exact wp_pure () Q h
  · exact wp_throw e Q h

@[simp] theorem wp_mapError (f : ε → ε) (t : Tx σ ε α) (Q : Except ε α → History σ κ → Prop) (h : History σ κ) :
    wp permit a (mapError f t) Q h ↔ wp permit a t (fun r k => Q (r.mapError f) k) h := Iff.rfl

/-- A sequence is permitted when its first part is, and its second is from where the first one returned. -/
@[simp] theorem wp_bind (t : Tx σ ε α) (k : α → Tx σ ε β) (Q : Except ε β → History σ κ → Prop)
    (h : History σ κ) :
    wp permit a (t >>= k) Q h ↔ wp permit a t (fun r h' =>
      match r with
      | .ok x => wp permit a (k x) Q h'
      | .error e => Q (.error e) h') h := by
  unfold wp
  change Permitted permit a h (bind t k h.now).1 ∧ Q (bind t k h.now).2 (h.extend a (bind t k h.now).1) ↔ _
  unfold bind
  rcases ht : t h.now with ⟨ss, e | x⟩
  · rfl
  · simp only [permitted_append, History.extend_append, now_extend]
    exact and_assoc

theorem permitted_take (ss : List σ) (n : Nat) : ∀ h : History σ κ,
    Permitted permit a h ss → Permitted permit a h (ss.take n) := by
  induction ss generalizing n with
  | nil => intro h hp; simp
  | cons s ss ih =>
    intro h hp
    cases n with
    | zero => exact trivial
    | succ n => exact ⟨hp.1, ih n _ hp.2⟩

/-- A transaction that may be cut short is permitted when the whole is, if `Q` asks nothing of an error. -/
theorem wp_failing {fault : Option (Nat × ε)} {t : Tx σ ε α} {Q : Except ε α → History σ κ → Prop}
    {h : History σ κ} (ht : wp permit a t Q h) (he : ∀ e k, h ≤ k → Q (.error e) k) :
    wp permit a (failing fault t) Q h := by
  cases fault with
  | none => exact ht
  | some f => exact ⟨permitted_take _ f.1 h ht.1, he _ _ (History.le_extend _ _ _)⟩

theorem wp_mono {t : Tx σ ε α} {P Q : Except ε α → History σ κ → Prop} {h : History σ κ}
    (ht : wp permit a t P h) (hPQ : ∀ r k, h ≤ k → P r k → Q r k) : wp permit a t Q h :=
  ⟨ht.1, hPQ _ _ (History.le_extend a _ h) ht.2⟩

theorem wp_and {t : Tx σ ε α} {P Q : Except ε α → History σ κ → Prop} {h : History σ κ}
    (hP : wp permit a t P h) (hQ : wp permit a t Q h) : wp permit a t (fun r k => P r k ∧ Q r k) h :=
  ⟨hP.1, hP.2, hQ.2⟩

/-! ## The states a transaction passes through -/

@[simp] theorem run_pure (x : α) (s : σ) : (Pure.pure x : Tx σ ε α) s = ([], .ok x) := rfl

@[simp] theorem run_throw (e : ε) (s : σ) : (throw e : Tx σ ε α) s = ([], .error e) := rfl

@[simp] theorem run_read (f : σ → Except ε α) (s : σ) : (read f) s = ([], f s) := rfl

@[simp] theorem run_write (f : σ → σ) (s : σ) : (write f : Tx σ ε Unit) s = ([f s], .ok ()) := rfl

@[simp] theorem run_ofExcept (x : Except ε α) (s : σ) : (ofExcept x : Tx σ ε α) s = ([], x) := rfl

@[simp] theorem run_ensure (p : Prop) [Decidable p] (e : ε) (s : σ) :
    (ensure p e : Tx σ ε Unit) s = ([], if p then .ok () else .error e) := by
  unfold ensure
  split <;> rfl

@[simp] theorem run_mapError (f : ε → ε) (t : Tx σ ε α) (s : σ) :
    (mapError f t) s = ((t s).1, (t s).2.mapError f) := rfl

@[simp] theorem failing_none (t : Tx σ ε α) : failing none t = t := rfl

theorem run_failing_some (n : Nat) (e : ε) (t : Tx σ ε α) (s : σ) :
    failing (some (n, e)) t s = ((t s).1.take n, .error e) := rfl

theorem run_bind (t : Tx σ ε α) (k : α → Tx σ ε β) (s : σ) :
    (t >>= k) s = match t s with
      | (ss, .error e) => (ss, .error e)
      | (ss, .ok a) => (ss ++ (k a (last s ss)).1, (k a (last s ss)).2) := rfl

theorem run_bind_ok {t : Tx σ ε α} {k : α → Tx σ ε β} {s : σ} {ss : List σ} {x : α} (ht : t s = (ss, .ok x)) :
    (t >>= k) s = (ss ++ (k x (last s ss)).1, (k x (last s ss)).2) := by
  rw [run_bind, ht]

theorem run_bind_error {t : Tx σ ε α} {k : α → Tx σ ε β} {s : σ} {ss : List σ} {e : ε}
    (ht : t s = (ss, .error e)) : (t >>= k) s = (ss, .error e) := by
  rw [run_bind, ht]

/-- A transaction that succeeds went on from what its first part returned. -/
theorem bind_eq_ok {t : Tx σ ε α} {k : α → Tx σ ε β} {s : σ} {b : β} (h : ((t >>= k) s).2 = .ok b) :
    ∃ a, (t s).2 = .ok a ∧ (k a (last s (t s).1)).2 = .ok b := by
  rw [run_bind] at h
  generalize t s = out at h ⊢
  obtain ⟨ss, r⟩ := out
  cases r with
  | error e => cases h
  | ok a => exact ⟨a, rfl, h⟩

/-- What every write of a permitted transaction satisfies, whatever the history it is made in. -/
theorem mem_of_wp {P : σ → Prop} {t : Tx σ ε α} {Q : Except ε α → History σ κ → Prop} {h : History σ κ}
    (ht : wp (fun _ w => P w.state) a t Q h) : ∀ s ∈ t.writes h.now, P s :=
  mem_of_permitted _ ht.1

/-- The last state is one that was made durable, or the first one. -/
theorem last_mem (s : σ) (ss : List σ) : last s ss = s ∨ last s ss ∈ ss := by
  cases ss with
  | nil => exact Or.inl rfl
  | cons x xs =>
    right
    unfold last
    rw [List.getLastD_cons]
    exact List.getLastD_mem_cons

end Tx

end Durable
