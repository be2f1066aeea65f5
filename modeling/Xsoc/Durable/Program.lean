import Xsoc.Durable.Transaction

/-!
# Programs over a locked store and a network

A program takes the lock for one transaction at a time, reads the store without the lock, and exchanges requests
for replies between transactions, never during one. `Prog` is the tree of what it may do next; `Op` is a program
that may fail. The environment chooses the `input` of each transaction (clock, entropy) and every reply.

A `Guarantee` says what is asked of every program that shares the store: which writes it may make in which
history, and which requests it may send. `Prog.wp G call p tr h Q` : program `p` of call `call`, having exchanged
`tr`, respects `G` whatever the others write meanwhile (within `G`), and where it returns, `Q` holds.
-/

set_option autoImplicit false

namespace Durable

/-- A program over states `σ`, inputs `ι`, requests `q` and replies `r`, returning an `α`. -/
inductive Prog (σ ι q r α : Type) : Type
  | ret (a : α)
  /-- One transaction under the lock: the states it makes durable, and what follows it. -/
  | locked (writes : ι → σ → List σ) (next : ι → σ → Prog σ ι q r α)
  /-- A read without the lock, of the state of that instant; `none` when the read itself fails. -/
  | peek (next : Option σ → Prog σ ι q r α)
  | send (request : q) (next : r → Prog σ ι q r α)

/-- A program that may fail. -/
def Op (σ ι q r ε α : Type) : Type := Prog σ ι q r (Except ε α)

variable {σ ι q r c ε α β : Type}

namespace Prog

def bind : Prog σ ι q r α → (α → Prog σ ι q r β) → Prog σ ι q r β
  | .ret a, f => f a
  | .locked ws n, f => .locked ws (fun i s => (n i s).bind f)
  | .peek n, f => .peek (fun o => (n o).bind f)
  | .send m n, f => .send m (fun a => (n a).bind f)

instance : Monad (Prog σ ι q r) where
  pure := .ret
  bind := bind

end Prog

namespace Op

def bind (p : Op σ ι q r ε α) (f : α → Op σ ι q r ε β) : Op σ ι q r ε β :=
  Prog.bind p (fun
    | .ok a => f a
    | .error e => .ret (.error e))

instance : Monad (Op σ ι q r ε) where
  pure a := Prog.ret (.ok a)
  bind := bind

def throw (e : ε) : Op σ ι q r ε α := Prog.ret (.error e)

def ofExcept (x : Except ε α) : Op σ ι q r ε α := Prog.ret x

def ensure (p : Prop) [Decidable p] (e : ε) : Op σ ι q r ε Unit := if p then pure () else throw e

/-- One transaction under the lock; its input is drawn when the lock is taken. -/
def lock (t : ι → Tx σ ε α) : Op σ ι q r ε α :=
  Prog.locked (fun i s => (t i s).1) (fun i s => Prog.ret (t i s).2)

def peek (f : Option σ → Except ε α) : Op σ ι q r ε α := Prog.peek (fun o => Prog.ret (f o))

def send (m : q) : Op σ ι q r ε r := Prog.send m (fun a => Prog.ret (.ok a))

/-- Continue with the outcome of `p`, whether it failed or not. -/
def handle (p : Op σ ι q r ε α) (f : Except ε α → Op σ ι q r ε β) : Op σ ι q r ε β := Prog.bind p f

end Op

/-! ## Guarantees -/

/-- Who makes a write: the call, what it exchanged so far, and the input of the transaction. -/
structure Author (c q r ι : Type) where
  call : c
  transcript : List (q × r)
  input : ι

/-- What is asked of every program that shares a store. -/
structure Guarantee (σ c q r ι : Type) where
  init : σ → Prop
  /-- The inputs a transaction may draw in a history. -/
  draw : History σ (Author c q r ι) → ι → Prop
  /-- The histories in which a read without the lock may fail. -/
  lossy : History σ (Author c q r ι) → Prop
  /-- The writes that may be made in a history. -/
  permit : History σ (Author c q r ι) → Write σ (Author c q r ι) → Prop
  /-- The requests a call may send in a history, after a transcript. -/
  emit : c → List (q × r) → History σ (Author c q r ι) → q → Prop

def Guarantee.Legal (G : Guarantee σ c q r ι) : History σ (Author c q r ι) → Prop :=
  History.Legal G.init G.permit

/-- Program `p` of call `call` respects `G` in every environment that does, and `Q` holds where it returns. -/
def Prog.wp (G : Guarantee σ c q r ι) (call : c) : Prog σ ι q r α → List (q × r) → History σ (Author c q r ι) →
    (α → List (q × r) → History σ (Author c q r ι) → Prop) → Prop
  | .ret a, tr, h, Q => Q a tr h
  | .locked ws n, tr, h, Q => ∀ k, h ≤ k → G.Legal k → ∀ i, G.draw k i →
      Permitted G.permit ⟨call, tr, i⟩ k (ws i k.now) ∧
        (n i k.now).wp G call tr (k.extend ⟨call, tr, i⟩ (ws i k.now)) Q
  | .peek n, tr, h, Q => ∀ k, h ≤ k → G.Legal k →
      (G.lossy k → (n none).wp G call tr k Q) ∧ (n (some k.now)).wp G call tr k Q
  | .send m n, tr, h, Q => (∀ k, h ≤ k → G.Legal k → G.emit call tr k m) ∧
      ∀ a, (n a).wp G call (tr ++ [(m, a)]) h Q

variable {G : Guarantee σ c q r ι} {call : c} {tr : List (q × r)} {h : History σ (Author c q r ι)}

namespace Prog

theorem wp_mono {P Q : α → List (q × r) → History σ (Author c q r ι) → Prop}
    (hPQ : ∀ a tr k, P a tr k → Q a tr k) (p : Prog σ ι q r α) : ∀ {tr h},
    p.wp G call tr h P → p.wp G call tr h Q := by
  induction p with
  | ret a => intro tr h hp; exact hPQ _ _ _ hp
  | locked ws n ih =>
    intro tr h hp k hk hl i hi
    exact ⟨(hp k hk hl i hi).1, ih i k.now (hp k hk hl i hi).2⟩
  | peek n ih =>
    intro tr h hp k hk hl
    exact ⟨fun hlossy => ih none ((hp k hk hl).1 hlossy), ih (some k.now) (hp k hk hl).2⟩
  | send m n ih => intro tr h hp; exact ⟨hp.1, fun a => ih a (hp.2 a)⟩

/-- What a program returns, it returns at a later moment. -/
theorem wp_le {Q : α → List (q × r) → History σ (Author c q r ι) → Prop} (h₀ : History σ (Author c q r ι))
    (p : Prog σ ι q r α) : ∀ {tr h}, h₀ ≤ h →
    p.wp G call tr h Q → p.wp G call tr h (fun a tr k => h₀ ≤ k ∧ Q a tr k) := by
  induction p with
  | ret a => intro tr h hle hp; exact ⟨hle, hp⟩
  | locked ws n ih =>
    intro tr h hle hp k hk hl i hi
    exact ⟨(hp k hk hl i hi).1, ih i k.now ((hle.trans hk).trans (History.le_extend _ _ k)) (hp k hk hl i hi).2⟩
  | peek n ih =>
    intro tr h hle hp k hk hl
    exact ⟨fun hlossy => ih none (hle.trans hk) ((hp k hk hl).1 hlossy),
      ih (some k.now) (hle.trans hk) (hp k hk hl).2⟩
  | send m n ih => intro tr h hle hp; exact ⟨hp.1, fun a => ih a hle (hp.2 a)⟩

theorem wp_and {P Q : α → List (q × r) → History σ (Author c q r ι) → Prop} (p : Prog σ ι q r α) :
    ∀ {tr h}, p.wp G call tr h P → p.wp G call tr h Q → p.wp G call tr h (fun a tr k => P a tr k ∧ Q a tr k) := by
  induction p with
  | ret a => intro tr h hP hQ; exact ⟨hP, hQ⟩
  | locked ws n ih =>
    intro tr h hP hQ k hk hl i hi
    exact ⟨(hP k hk hl i hi).1, ih i k.now (hP k hk hl i hi).2 (hQ k hk hl i hi).2⟩
  | peek n ih =>
    intro tr h hP hQ k hk hl
    exact ⟨fun hlossy => ih none ((hP k hk hl).1 hlossy) ((hQ k hk hl).1 hlossy),
      ih (some k.now) (hP k hk hl).2 (hQ k hk hl).2⟩
  | send m n ih => intro tr h hP hQ; exact ⟨hP.1, fun a => ih a (hP.2 a) (hQ.2 a)⟩

@[simp] theorem wp_bind (p : Prog σ ι q r α) (f : α → Prog σ ι q r β)
    (Q : β → List (q × r) → History σ (Author c q r ι) → Prop) : ∀ {tr h},
    (p.bind f).wp G call tr h Q ↔ p.wp G call tr h (fun a tr k => (f a).wp G call tr k Q) := by
  induction p with
  | ret a => intro tr h; rfl
  | locked ws n ih => intro tr h; simp only [bind, wp, ih]
  | peek n ih => intro tr h; simp only [bind, wp, ih]
  | send m n ih => intro tr h; simp only [bind, wp, ih]

/-- What follows may be read together or apart. -/
theorem bind_assoc {γ : Type} (p : Prog σ ι q r α) (f : α → Prog σ ι q r β) (g : β → Prog σ ι q r γ) :
    (p.bind f).bind g = p.bind fun a => (f a).bind g := by
  induction p with
  | ret a => rfl
  | locked ws n ih => simp only [bind, ih]
  | peek n ih => simp only [bind, ih]
  | send m n ih => simp only [bind, ih]

end Prog

/-! ## The rules of programs that may fail -/

namespace Op

theorem bind_assoc {γ : Type} (p : Op σ ι q r ε α) (f : α → Op σ ι q r ε β) (g : β → Op σ ι q r ε γ) :
    p >>= f >>= g = p >>= fun a => f a >>= g := by
  refine (Prog.bind_assoc p _ _).trans (congrArg (Prog.bind p) (funext fun x => ?_))
  cases x with
  | ok a => rfl
  | error e => rfl

/-- `Prog.wp` of a program that may fail. -/
def wp (G : Guarantee σ c q r ι) (call : c) (p : Op σ ι q r ε α) (tr : List (q × r))
    (h : History σ (Author c q r ι)) (Q : Except ε α → List (q × r) → History σ (Author c q r ι) → Prop) : Prop :=
  Prog.wp G call p tr h Q

variable {Q : Except ε α → List (q × r) → History σ (Author c q r ι) → Prop}

theorem wp_mono {P : Except ε α → List (q × r) → History σ (Author c q r ι) → Prop} {p : Op σ ι q r ε α}
    (hp : p.wp G call tr h P) (hPQ : ∀ a tr k, h ≤ k → P a tr k → Q a tr k) : p.wp G call tr h Q :=
  Prog.wp_mono (fun a tr k hk => hPQ a tr k hk.1 hk.2) p (Prog.wp_le h p (le_refl h) hp)

theorem wp_and {P : Except ε α → List (q × r) → History σ (Author c q r ι) → Prop} {p : Op σ ι q r ε α}
    (hP : p.wp G call tr h P) (hQ : p.wp G call tr h Q) :
    p.wp G call tr h (fun a tr k => P a tr k ∧ Q a tr k) := Prog.wp_and p hP hQ

@[simp] theorem wp_pure (a : α) : wp G call (pure a : Op σ ι q r ε α) tr h Q ↔ Q (.ok a) tr h := Iff.rfl

@[simp] theorem wp_throw (e : ε) : wp G call (throw e : Op σ ι q r ε α) tr h Q ↔ Q (.error e) tr h := Iff.rfl

@[simp] theorem wp_ofExcept (x : Except ε α) : wp G call (ofExcept x : Op σ ι q r ε α) tr h Q ↔ Q x tr h := Iff.rfl

@[simp] theorem wp_ensure (p : Prop) [Decidable p] (e : ε)
    (Q : Except ε Unit → List (q × r) → History σ (Author c q r ι) → Prop) :
    wp G call (ensure p e : Op σ ι q r ε Unit) tr h Q ↔ if p then Q (.ok ()) tr h else Q (.error e) tr h := by
  unfold ensure
  split <;> rfl

@[simp] theorem wp_bind (p : Op σ ι q r ε α) (f : α → Op σ ι q r ε β)
    (Q : Except ε β → List (q × r) → History σ (Author c q r ι) → Prop) :
    wp G call (p >>= f) tr h Q ↔ wp G call p tr h (fun x tr k =>
      match x with
      | .ok a => wp G call (f a) tr k Q
      | .error e => Q (.error e) tr k) := by
  refine (Prog.wp_bind p _ Q).trans ?_
  constructor <;> refine Prog.wp_mono (fun x tr k hx => ?_) p <;> cases x <;> exact hx

@[simp] theorem wp_handle (p : Op σ ι q r ε α) (f : Except ε α → Op σ ι q r ε β)
    (Q : Except ε β → List (q × r) → History σ (Author c q r ι) → Prop) :
    wp G call (handle p f) tr h Q ↔ wp G call p tr h (fun x tr k => wp G call (f x) tr k Q) :=
  Prog.wp_bind p f Q

/-- A transaction is run where the lock is taken, at some later history that the others left legal. -/
theorem wp_lock (t : ι → Tx σ ε α) :
    wp G call (lock t : Op σ ι q r ε α) tr h Q ↔ ∀ k, h ≤ k → G.Legal k → ∀ i, G.draw k i →
      (t i).wp G.permit ⟨call, tr, i⟩ (fun x k' => Q x tr k') k := Iff.rfl

theorem wp_peek (f : Option σ → Except ε α) :
    wp G call (peek f : Op σ ι q r ε α) tr h Q ↔ ∀ k, h ≤ k → G.Legal k →
      (G.lossy k → Q (f none) tr k) ∧ Q (f (some k.now)) tr k := Iff.rfl

theorem wp_send (m : q) (Q : Except ε r → List (q × r) → History σ (Author c q r ι) → Prop) :
    wp G call (send m : Op σ ι q r ε r) tr h Q ↔ (∀ k, h ≤ k → G.Legal k → G.emit call tr k m) ∧
      ∀ a, Q (.ok a) (tr ++ [(m, a)]) h := Iff.rfl

end Op

end Durable
