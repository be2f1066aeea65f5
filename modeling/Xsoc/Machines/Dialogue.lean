import Mathlib.Data.List.Basic

/-!
# Programs that talk to the outside

A script asks one thing after the other, and goes on with each answer, whatever it is. What it has asked, and been
answered, is its dialogue.

* `Script`, `Op` : a script, and one that may fail;
* `Script.Reaches` : what is left to do after a dialogue;
* `Script.wp` : whatever the answers, each call is permitted after the dialogue before it, and a property holds in the
  end; `wp_bind` and the other rules take a script apart;
* `permitted_of_wp`, `of_wp` : what a `wp` says about a dialogue.
-/

set_option autoImplicit false

namespace Dialogue

variable {Call : Type} {Reply : Call → Type} {ε α β : Type}

inductive Script (Call : Type) (Reply : Call → Type) (α : Type) : Type
  | ret (a : α)
  | call (c : Call) (next : Reply c → Script Call Reply α)

/-- A call with its answer. -/
abbrev Exchange (Call : Type) (Reply : Call → Type) : Type := (c : Call) × Reply c

/-- A script that may fail. -/
def Op (Call : Type) (Reply : Call → Type) (ε α : Type) : Type := Script Call Reply (Except ε α)

namespace Script

def bind : Script Call Reply α → (α → Script Call Reply β) → Script Call Reply β
  | .ret a, f => f a
  | .call c next, f => .call c fun r => (next r).bind f

/-- After a dialogue, this is left to do. -/
inductive Reaches (p : Script Call Reply α) : List (Exchange Call Reply) → Script Call Reply α → Prop
  | refl : Reaches p [] p
  | step {tr : List (Exchange Call Reply)} {c : Call} {next : Reply c → Script Call Reply α}
      (h : Reaches p tr (.call c next)) (r : Reply c) : Reaches p (tr ++ [⟨c, r⟩]) (next r)

theorem Reaches.of_call {c : Call} {next : Reply c → Script Call Reply α} {r : Reply c}
    {tr : List (Exchange Call Reply)} {q : Script Call Reply α} (h : (next r).Reaches tr q) :
    (call c next).Reaches (⟨c, r⟩ :: tr) q := by
  induction h with
  | refl => exact Reaches.refl.step r
  | step _ r' ih => exact ih.step r'

theorem Reaches.trans {p q s : Script Call Reply α} {tr tr' : List (Exchange Call Reply)} (h : p.Reaches tr q)
    (h' : q.Reaches tr' s) : p.Reaches (tr ++ tr') s := by
  induction h' with
  | refl => rwa [List.append_nil]
  | step _ r ih =>
    rw [← List.append_assoc]
    exact ih.step r

/-- Whatever the answers, the calls are permitted and `Q` holds in the end. -/
def wp (permitted : List (Exchange Call Reply) → Call → Prop) :
    Script Call Reply α → List (Exchange Call Reply) → (α → List (Exchange Call Reply) → Prop) → Prop
  | .ret a, tr, Q => Q a tr
  | .call c next, tr, Q => permitted tr c ∧ ∀ r, (next r).wp permitted (tr ++ [⟨c, r⟩]) Q

variable {permitted : List (Exchange Call Reply) → Call → Prop} {tr tr' : List (Exchange Call Reply)}
  {p q : Script Call Reply α} {Q : α → List (Exchange Call Reply) → Prop}

theorem wp_of_reaches (h : p.wp permitted tr Q) (hreach : p.Reaches tr' q) : q.wp permitted (tr ++ tr') Q := by
  induction hreach with
  | refl =>
    rw [List.append_nil]
    exact h
  | step _ r ih =>
    rw [← List.append_assoc]
    exact ih.2 r

/-- A call that is made is permitted. -/
theorem permitted_of_wp (h : p.wp permitted [] Q) {c : Call} {next : Reply c → Script Call Reply α}
    (hreach : p.Reaches tr (.call c next)) : permitted tr c :=
  (wp_of_reaches h hreach).1

/-- What is returned has the property. -/
theorem of_wp (h : p.wp permitted [] Q) {a : α} (hreach : p.Reaches tr (.ret a)) : Q a tr := wp_of_reaches h hreach

theorem wp_mono {P : α → List (Exchange Call Reply) → Prop} (hPQ : ∀ a tr, P a tr → Q a tr) :
    ∀ {p : Script Call Reply α} {tr : List (Exchange Call Reply)}, p.wp permitted tr P → p.wp permitted tr Q
  | .ret a, _, h => hPQ a _ h
  | .call _ _, _, h => ⟨h.1, fun r => wp_mono hPQ (h.2 r)⟩

@[simp] theorem wp_bind (f : α → Script Call Reply β) {Q : β → List (Exchange Call Reply) → Prop} :
    ∀ {p : Script Call Reply α} {tr : List (Exchange Call Reply)},
      (p.bind f).wp permitted tr Q ↔ p.wp permitted tr fun a tr => (f a).wp permitted tr Q
  | .ret _, _ => Iff.rfl
  | .call _ next, _ => and_congr_right fun _ => forall_congr' fun r => wp_bind f (p := next r)

/-- Only calls of a kind are made. -/
def Only (P : Call → Prop) : Script Call Reply α → Prop
  | .ret _ => True
  | .call c next => P c ∧ ∀ r, (next r).Only P

theorem only_bind {P : Call → Prop} {f : α → Script Call Reply β} (hf : ∀ a, (f a).Only P) :
    ∀ {p : Script Call Reply α}, p.Only P → (p.bind f).Only P
  | .ret a, _ => hf a
  | .call _ _, h => ⟨h.1, fun r => only_bind hf (h.2 r)⟩

theorem Only.mono {P P' : Call → Prop} (hP : ∀ c, P c → P' c) : ∀ {p : Script Call Reply α}, p.Only P → p.Only P'
  | .ret _, _ => trivial
  | .call c _, h => ⟨hP c h.1, fun r => (h.2 r).mono hP⟩

/-- What a script adds to the dialogue are calls of its kind. -/
theorem wp_grows {P : Call → Prop} : ∀ {p : Script Call Reply α} {tr : List (Exchange Call Reply)}, p.Only P →
    p.wp permitted tr Q → p.wp permitted tr fun a tr' => (∃ new, tr' = tr ++ new ∧ ∀ e ∈ new, P e.1) ∧ Q a tr'
  | .ret a, tr, _, h => ⟨⟨[], (List.append_nil tr).symm, fun e he => by cases he⟩, h⟩
  | .call c next, tr, honly, h => by
    refine ⟨h.1, fun r => wp_mono ?_ (wp_grows (honly.2 r) (h.2 r))⟩
    rintro a tr' ⟨⟨new, rfl, hnew⟩, hQ⟩
    refine ⟨⟨⟨c, r⟩ :: new, by rw [List.append_assoc, List.singleton_append], ?_⟩, hQ⟩
    exact List.forall_mem_cons.mpr ⟨honly.1, hnew⟩

end Script

namespace Op

def bind (p : Op Call Reply ε α) (f : α → Op Call Reply ε β) : Op Call Reply ε β :=
  Script.bind p fun
    | .ok a => f a
    | .error e => .ret (.error e)

instance : Monad (Op Call Reply ε) where
  pure a := Script.ret (.ok a)
  bind := bind

def throw (e : ε) : Op Call Reply ε α := Script.ret (.error e)

def ofExcept (x : Except ε α) : Op Call Reply ε α := Script.ret x

def ask (c : Call) : Op Call Reply ε (Reply c) := Script.call c fun r => .ret (.ok r)

/-- What is done about an error. -/
def handle (p : Op Call Reply ε α) (f : ε → Op Call Reply ε α) : Op Call Reply ε α :=
  Script.bind p fun
    | .ok a => .ret (.ok a)
    | .error e => f e

/-- What follows, however it ends. -/
def after (p : Op Call Reply ε α) (q : Script Call Reply Unit) : Op Call Reply ε α :=
  Script.bind p fun x => q.bind fun _ => .ret x

def mapError (f : ε → ε) (p : Op Call Reply ε α) : Op Call Reply ε α := Script.bind p fun x => .ret (x.mapError f)

/-- `Script.wp` of a script that may fail. -/
def wp (permitted : List (Exchange Call Reply) → Call → Prop) (p : Op Call Reply ε α) (tr : List (Exchange Call Reply))
    (Q : Except ε α → List (Exchange Call Reply) → Prop) : Prop :=
  Script.wp permitted p tr Q

variable {permitted : List (Exchange Call Reply) → Call → Prop} {tr : List (Exchange Call Reply)}
  {Q : Except ε α → List (Exchange Call Reply) → Prop}

theorem wp_mono {P : Except ε α → List (Exchange Call Reply) → Prop} {p : Op Call Reply ε α}
    (h : p.wp permitted tr P) (hPQ : ∀ a tr, P a tr → Q a tr) : p.wp permitted tr Q := Script.wp_mono hPQ h

@[simp] theorem wp_pure (a : α) : (pure a : Op Call Reply ε α).wp permitted tr Q ↔ Q (.ok a) tr := Iff.rfl

@[simp] theorem wp_throw (e : ε) : (throw e : Op Call Reply ε α).wp permitted tr Q ↔ Q (.error e) tr := Iff.rfl

@[simp] theorem wp_ofExcept (x : Except ε α) : (ofExcept x : Op Call Reply ε α).wp permitted tr Q ↔ Q x tr := Iff.rfl

@[simp] theorem wp_ask (c : Call) (Q : Except ε (Reply c) → List (Exchange Call Reply) → Prop) :
    (ask c : Op Call Reply ε (Reply c)).wp permitted tr Q ↔ permitted tr c ∧ ∀ r, Q (.ok r) (tr ++ [⟨c, r⟩]) := Iff.rfl

@[simp] theorem wp_bind (p : Op Call Reply ε α) (f : α → Op Call Reply ε β)
    (Q : Except ε β → List (Exchange Call Reply) → Prop) :
    (p >>= f).wp permitted tr Q ↔ p.wp permitted tr fun x tr =>
      match x with
      | .ok a => (f a).wp permitted tr Q
      | .error e => Q (.error e) tr := by
  refine (Script.wp_bind _).trans ⟨Script.wp_mono fun x tr h => ?_, Script.wp_mono fun x tr h => ?_⟩
  · cases x <;> exact h
  · cases x <;> exact h

@[simp] theorem wp_mapError (f : ε → ε) (p : Op Call Reply ε α) :
    (p.mapError f).wp permitted tr Q ↔ p.wp permitted tr fun x tr => Q (x.mapError f) tr := Script.wp_bind _

theorem wp_handle (p : Op Call Reply ε α) (f : ε → Op Call Reply ε α) :
    (p.handle f).wp permitted tr Q ↔ p.wp permitted tr fun x tr =>
      match x with
      | .ok a => Q (.ok a) tr
      | .error e => (f e).wp permitted tr Q := by
  refine (Script.wp_bind _).trans ⟨Script.wp_mono fun x tr h => ?_, Script.wp_mono fun x tr h => ?_⟩
  · cases x <;> exact h
  · cases x <;> exact h

theorem wp_after (p : Op Call Reply ε α) (q : Script Call Reply Unit) :
    (p.after q).wp permitted tr Q ↔ p.wp permitted tr fun x tr => q.wp permitted tr fun _ tr => Q x tr :=
  (Script.wp_bind _).trans ⟨Script.wp_mono fun _ _ h => (Script.wp_bind _).mp h,
    Script.wp_mono fun a _ h => (Script.wp_bind fun _ => .ret a).mpr h⟩

/-! ## One step after the other -/

section

variable {Q : Except ε β → List (Exchange Call Reply) → Prop} {f : α → Op Call Reply ε β}

theorem wp_ask_bind {c : Call} {f : Reply c → Op Call Reply ε β} (hc : permitted tr c)
    (h : ∀ r, (f r).wp permitted (tr ++ [⟨c, r⟩]) Q) : (ask c >>= f).wp permitted tr Q :=
  (wp_bind _ _ _).mpr ⟨hc, h⟩

theorem wp_ofExcept_bind {x : Except ε α} (hok : ∀ a, x = .ok a → (f a).wp permitted tr Q)
    (herror : ∀ e, x = .error e → Q (.error e) tr) : (ofExcept x >>= f).wp permitted tr Q := by
  refine (wp_bind _ _ _).mpr ?_
  cases x with
  | ok a => exact hok a rfl
  | error e => exact herror e rfl

/-- A part is what its specification says. -/
theorem wp_bind_of {p : Op Call Reply ε α} {P : Except ε α → List (Exchange Call Reply) → Prop}
    (hp : p.wp permitted tr P) (hok : ∀ a tr', P (.ok a) tr' → (f a).wp permitted tr' Q)
    (herror : ∀ e tr', P (.error e) tr' → Q (.error e) tr') : (p >>= f).wp permitted tr Q := by
  refine (wp_bind _ _ _).mpr (wp_mono hp fun x tr' hx => ?_)
  cases x with
  | ok a => exact hok a tr' hx
  | error e => exact herror e tr' hx

end

/-! ## Calls of a kind -/

def Only (P : Call → Prop) (p : Op Call Reply ε α) : Prop := Script.Only P p

variable {P : Call → Prop}

theorem only_pure (a : α) : (pure a : Op Call Reply ε α).Only P := trivial

theorem only_throw (e : ε) : (throw e : Op Call Reply ε α).Only P := trivial

theorem only_ofExcept (x : Except ε α) : (ofExcept x : Op Call Reply ε α).Only P := trivial

theorem only_ask {c : Call} (h : P c) : (ask c : Op Call Reply ε (Reply c)).Only P := ⟨h, fun _ => trivial⟩

theorem only_bind {p : Op Call Reply ε α} {f : α → Op Call Reply ε β} (hp : p.Only P) (hf : ∀ a, (f a).Only P) :
    (p >>= f).Only P := by
  refine Script.only_bind (fun x => ?_) hp
  cases x with
  | ok a => exact hf a
  | error e => trivial

theorem wp_grows {p : Op Call Reply ε α} (honly : p.Only P) (h : p.wp permitted tr Q) :
    p.wp permitted tr fun x tr' => (∃ new, tr' = tr ++ new ∧ ∀ e ∈ new, P e.1) ∧ Q x tr' := Script.wp_grows honly h

end Op

end Dialogue
