import Mathlib.Logic.Function.Basic
import Mathlib.Logic.Relation
import Xsoc.Machines.Dialogue

/-!
# Programs side by side

Any number of scripts run at the same time over something that they share. Each call is one step; a program may be
started at any time, and may die between two steps.

* `Crowd`, `Crowd.Step` : the programs, and what they share;
* `Script.Keeps` : relying on what the others do, each step of a script does what it guarantees;
* `Contract`, `Contract.inv_of_reachable` : when each program keeps to that, what every step preserves holds in every
  state reached.
-/

set_option autoImplicit false

namespace Dialogue

variable {σ π Call α : Type} {Reply : Call → Type}

/-- What a call may be answered, and leave. -/
abbrev Server (σ π Call : Type) (Reply : Call → Type) : Type := σ → π → (c : Call) → Reply c → σ → Prop

structure Crowd (σ π Call : Type) (Reply : Call → Type) (α : Type) where
  shared : σ
  procs : π → Option (Script Call Reply α)

namespace Crowd

variable {serve : Server σ π Call Reply} {bury : π → σ → σ} {programs : Script Call Reply α → Prop} {p : π} {s t : σ}
  {q q' : Script Call Reply α} {tr : List (Exchange Call Reply)}

/-- How a dialogue goes on and leaves what is shared. -/
def Served (serve : Server σ π Call Reply) (p : π) : List (Exchange Call Reply) → σ → σ → Prop
  | [], s, t => s = t
  | ⟨c, r⟩ :: tr, s, u => ∃ t, serve s p c r t ∧ Served serve p tr t u

theorem served_concat {c : Call} {r : Reply c} :
    ∀ {tr : List (Exchange Call Reply)} {s : σ}, Served serve p (tr ++ [⟨c, r⟩]) s t →
      ∃ u, Served serve p tr s u ∧ serve u p c r t
  | [], s, h => by
    obtain ⟨u, hu, rfl⟩ := h
    exact ⟨s, rfl, hu⟩
  | _ :: _, _, ⟨v, hv, h⟩ =>
    have ⟨u, hu, hserve⟩ := served_concat h
    ⟨u, ⟨v, hv, hu⟩, hserve⟩

variable [DecidableEq π]

/-- One program goes on, or is gone. -/
def set (w : Crowd σ π Call Reply α) (s : σ) (p : π) (o : Option (Script Call Reply α)) : Crowd σ π Call Reply α :=
  ⟨s, Function.update w.procs p o⟩

@[simp] theorem shared_set (w : Crowd σ π Call Reply α) (s : σ) (p : π) (o : Option (Script Call Reply α)) :
    (w.set s p o).shared = s := rfl

@[simp] theorem procs_set_self (w : Crowd σ π Call Reply α) (s : σ) (p : π) (o : Option (Script Call Reply α)) :
    (w.set s p o).procs p = o := by simp [set]

theorem procs_set_of_ne (w : Crowd σ π Call Reply α) (s : σ) {p p' : π} (o : Option (Script Call Reply α))
    (h : p' ≠ p) :
    (w.set s p o).procs p' = w.procs p' := by simp [set, h]

/-- `bury` is what is left where a program is gone. -/
inductive Step (serve : Server σ π Call Reply) (bury : π → σ → σ) (programs : Script Call Reply α → Prop) :
    Crowd σ π Call Reply α → Crowd σ π Call Reply α → Prop
  | starts {w : Crowd σ π Call Reply α} (p : π) (q : Script Call Reply α) (hfree : w.procs p = none) (hq : programs q) :
    Step serve bury programs w (w.set w.shared p (some q))
  | calls {w : Crowd σ π Call Reply α} (p : π) {c : Call} {next : Reply c → Script Call Reply α} (r : Reply c) (s : σ)
      (hp : w.procs p = some (.call c next)) (hs : serve w.shared p c r s) :
    Step serve bury programs w (w.set s p (some (next r)))
  | ends {w : Crowd σ π Call Reply α} (p : π) (hp : w.procs p ≠ none) :
    Step serve bury programs w (w.set (bury p w.shared) p none)

/-- Nothing runs yet. -/
def new (s : σ) : Crowd σ π Call Reply α := ⟨s, fun _ => none⟩

/-- What is reached from where nothing runs. -/
def Reachable (serve : Server σ π Call Reply) (bury : π → σ → σ) (programs : Script Call Reply α → Prop) (s : σ) :
    Crowd σ π Call Reply α → Prop :=
  Relation.ReflTransGen (Step serve bury programs) (new s)

/-- What one program does alone may be done. -/
theorem reachable_of_dialogue (hq : programs q) (h : q.Reaches tr q') :
    ∀ {t : σ}, Served serve p tr s t →
      ∃ w, Reachable serve bury programs s w ∧ w.shared = t ∧ w.procs p = some q' := by
  induction h with
  | refl =>
    rintro t rfl
    exact ⟨_, .single (.starts p q rfl hq), rfl, procs_set_self _ _ _ _⟩
  | step _ r ih =>
    intro t ht
    obtain ⟨u, hu, hserve⟩ := served_concat ht
    obtain ⟨w, hreach, rfl, hp⟩ := ih hu
    exact ⟨_, hreach.tail (.calls p r t hp hserve), rfl, procs_set_self _ _ _ _⟩

end Crowd

/-- While others do what `rely` says, each call does what `guar` says, and `Q` holds in the end. -/
def Script.Keeps (serve : Server σ π Call Reply) (rely guar : π → σ → σ → Prop) (p : π) :
    Script Call Reply α → σ → (α → σ → Prop) → Prop
  | .ret a, s, Q => Q a s
  | .call c next, s, Q => ∀ s₁, rely p s s₁ → ∀ r s₂, serve s₁ p c r s₂ →
      guar p s₁ s₂ ∧ (next r).Keeps serve rely guar p s₂ Q

/-- What programs may rely on is what the others guarantee. -/
structure Contract (serve : Server σ π Call Reply) (bury : π → σ → σ) (programs : Script Call Reply α → Prop)
    (init : σ → Prop) (rely guar : π → σ → σ → Prop) : Prop where
  refl : ∀ p s, rely p s s
  trans : ∀ p s t u, rely p s t → rely p t u → rely p s u
  others : ∀ p q s t, p ≠ q → guar q s t → rely p s t
  buried : ∀ p s, guar p s (bury p s)
  kept : ∀ p s t, init s → guar p s t → init t
  programs : ∀ p s q, init s → programs q → q.Keeps serve rely guar p s fun _ _ => True

namespace Script

variable {serve : Server σ π Call Reply} {rely guar : π → σ → σ → Prop} {p : π} {q : Script Call Reply α} {s t : σ}
  {β : Type}

@[simp] theorem keeps_bind (f : α → Script Call Reply β) {Q : β → σ → Prop} :
    ∀ {q : Script Call Reply α} {s : σ}, (q.bind f).Keeps serve rely guar p s Q ↔
      q.Keeps serve rely guar p s fun a s => (f a).Keeps serve rely guar p s Q
  | .ret _, _ => Iff.rfl
  | .call _ _, _ => forall_congr' fun _ => forall_congr' fun _ => forall_congr' fun _ => forall_congr' fun _ =>
      forall_congr' fun _ => and_congr_right fun _ => keeps_bind f

theorem Keeps.mono {P Q : α → σ → Prop} (hPQ : ∀ a s, P a s → Q a s) :
    ∀ {q : Script Call Reply α} {s : σ}, q.Keeps serve rely guar p s P → q.Keeps serve rely guar p s Q
  | .ret a, s, h => hPQ a s h
  | .call _ _, _, h => fun s₁ hs₁ r s₂ hs₂ => ⟨(h s₁ hs₁ r s₂ hs₂).1, (h s₁ hs₁ r s₂ hs₂).2.mono hPQ⟩

/-- The others may take steps first. -/
theorem Keeps.later {Q : α → σ → Prop} (htrans : ∀ s t u, rely p s t → rely p t u → rely p s u)
    (hQ : ∀ a s t, Q a s → rely p s t → Q a t) (h : q.Keeps serve rely guar p s Q) (hrely : rely p s t) :
    q.Keeps serve rely guar p t Q := by
  cases q with
  | ret a => exact hQ a s t h hrely
  | call c next => exact fun s₁ hs₁ => h s₁ (htrans s t s₁ hrely hs₁)

/-- What is known before a call, and the others leave, is known when it is made. -/
theorem keeps_call {c : Call} {next : Reply c → Script Call Reply α} {Q : α → σ → Prop} {P : σ → Prop}
    (hstable : ∀ s t, P s → rely p s t → P t) (hs : P s)
    (h : ∀ s r t, P s → serve s p c r t → guar p s t ∧ (next r).Keeps serve rely guar p t Q) :
    (call c next).Keeps serve rely guar p s Q :=
  fun s₁ hs₁ r s₂ hserve => h s₁ r s₂ (hstable s s₁ hs hs₁) hserve

/-- Calls of a kind keep to what is known. -/
theorem keeps_of_only {kind : Call → Prop} {P : σ → Prop} (hstable : ∀ s t, P s → rely p s t → P t)
    (hcall : ∀ s c r t, kind c → P s → serve s p c r t → guar p s t ∧ P t) :
    ∀ {q : Script Call Reply α} {s : σ}, q.Only kind → P s → q.Keeps serve rely guar p s fun _ t => P t
  | .ret _, _, _, hs => hs
  | .call _ _, _, honly, hs => keeps_call hstable hs fun s r t hP hserve =>
      ⟨(hcall s _ r t honly.1 hP hserve).1, keeps_of_only hstable hcall (honly.2 r) (hcall s _ r t honly.1 hP hserve).2⟩

end Script

namespace Op

variable {serve : Server σ π Call Reply} {rely guar : π → σ → σ → Prop} {p : π} {s : σ} {ε β : Type}

/-- `Script.Keeps` of a script that may fail: nothing is said of its failures. -/
def Keeps (serve : Server σ π Call Reply) (rely guar : π → σ → σ → Prop) (p : π) (q : Op Call Reply ε α) (s : σ)
    (Q : α → σ → Prop) : Prop :=
  Script.Keeps serve rely guar p q s fun x t => ∀ a, x = .ok a → Q a t

theorem keeps_pure {a : α} {Q : α → σ → Prop} (h : Q a s) : (pure a : Op Call Reply ε α).Keeps serve rely guar p s Q :=
  fun _ ha => Except.ok.inj ha ▸ h

theorem keeps_throw (e : ε) (Q : α → σ → Prop) : (throw e : Op Call Reply ε α).Keeps serve rely guar p s Q :=
  fun _ ha => by cases ha

theorem keeps_bind {q : Op Call Reply ε α} {f : α → Op Call Reply ε β} {P : α → σ → Prop} {Q : β → σ → Prop}
    (hq : q.Keeps serve rely guar p s P) (hf : ∀ a t, P a t → (f a).Keeps serve rely guar p t Q) :
    (q >>= f).Keeps serve rely guar p s Q := by
  refine (Script.keeps_bind _).mpr (Script.Keeps.mono (fun x t hx => ?_) hq)
  cases x with
  | ok a => exact hf a t (hx a rfl)
  | error e => exact fun b hb => by cases hb

theorem keeps_ofExcept_bind {x : Except ε α} {f : α → Op Call Reply ε β} {Q : β → σ → Prop}
    (hf : ∀ a, x = .ok a → (f a).Keeps serve rely guar p s Q) : (ofExcept x >>= f).Keeps serve rely guar p s Q :=
  keeps_bind (P := fun a t => x = .ok a ∧ t = s) (fun _ ha => ⟨ha, rfl⟩) fun a _ h => h.2 ▸ hf a h.1

theorem keeps_ask_bind {c : Call} {f : Reply c → Op Call Reply ε β} {Q : β → σ → Prop} {P : σ → Prop}
    (hstable : ∀ s t, P s → rely p s t → P t) (hs : P s)
    (h : ∀ s r t, P s → serve s p c r t → guar p s t ∧ (f r).Keeps serve rely guar p t Q) :
    (ask c >>= f).Keeps serve rely guar p s Q :=
  Script.keeps_call hstable hs h

theorem keeps_after {q : Op Call Reply ε α} {r : Script Call Reply Unit}
    (hq : q.Keeps serve rely guar p s fun _ _ => True) (hr : ∀ t, r.Keeps serve rely guar p t fun _ _ => True) :
    (q.after r).Keeps serve rely guar p s fun _ _ => True := by
  refine (Script.keeps_bind _).mpr (Script.Keeps.mono (fun x t _ => ?_) hq)
  exact (Script.keeps_bind _).mpr ((hr t).mono fun _ _ _ _ _ => trivial)

theorem keeps_handle {q : Op Call Reply ε α} {f : ε → Op Call Reply ε α}
    (hq : q.Keeps serve rely guar p s fun _ _ => True) (hf : ∀ e t, (f e).Keeps serve rely guar p t fun _ _ => True) :
    (q.handle f).Keeps serve rely guar p s fun _ _ => True := by
  refine (Script.keeps_bind _).mpr (Script.Keeps.mono (fun x t _ => ?_) hq)
  cases x with
  | ok a => exact fun _ _ => trivial
  | error e => exact hf e t

theorem keeps_of_only {kind : Call → Prop} {P : σ → Prop} {q : Op Call Reply ε α}
    (hstable : ∀ s t, P s → rely p s t → P t)
    (hcall : ∀ s c r t, kind c → P s → serve s p c r t → guar p s t ∧ P t) (honly : q.Only kind) (hs : P s) :
    q.Keeps serve rely guar p s fun _ t => P t :=
  (Script.keeps_of_only hstable hcall honly hs).mono fun _ _ h _ _ => h

end Op

namespace Contract

variable [DecidableEq π] {serve : Server σ π Call Reply} {bury : π → σ → σ} {programs : Script Call Reply α → Prop}
  {init : σ → Prop} {rely guar : π → σ → σ → Prop} {s : σ} {w w' : Crowd σ π Call Reply α}

/-- Each program keeps to the contract. -/
def Sound (serve : Server σ π Call Reply) (init : σ → Prop) (rely guar : π → σ → σ → Prop)
    (w : Crowd σ π Call Reply α) : Prop :=
  init w.shared ∧ ∀ p q, w.procs p = some q → q.Keeps serve rely guar p w.shared fun _ _ => True

theorem others_keep (h : Contract serve bury programs init rely guar) (hw : Sound serve init rely guar w)
    {p : π} {t : σ}
    (hg : guar p w.shared t) {o : Option (Script Call Reply α)}
    (ho : ∀ q, o = some q → q.Keeps serve rely guar p t fun _ _ => True) :
    Sound serve init rely guar (w.set t p o) := by
  refine ⟨h.kept p _ _ hw.1 hg, fun p' q hq => ?_⟩
  by_cases hp : p' = p
  · subst hp
    rw [Crowd.procs_set_self] at hq
    exact ho q hq
  · rw [Crowd.procs_set_of_ne w t o hp] at hq
    exact (hw.2 p' q hq).later (h.trans p') (fun _ _ _ _ _ => trivial) (h.others p' p _ _ hp hg)

theorem sound_of_step (h : Contract serve bury programs init rely guar) (hw : Sound serve init rely guar w)
    (hstep : Crowd.Step serve bury programs w w') :
    Sound serve init rely guar w' ∧ (w'.shared = w.shared ∨ ∃ p, guar p w.shared w'.shared) := by
  cases hstep with
  | starts p q hfree hq =>
    refine ⟨⟨hw.1, fun p' q' hq' => ?_⟩, Or.inl rfl⟩
    by_cases hp : p' = p
    · subst hp
      rw [Crowd.procs_set_self] at hq'
      cases hq'
      exact h.programs p' _ _ hw.1 hq
    · rw [Crowd.procs_set_of_ne w _ _ hp] at hq'
      exact hw.2 p' q' hq'
  | calls p r t hp hs =>
    obtain ⟨hg, hnext⟩ := hw.2 p _ hp _ (h.refl p _) r t hs
    exact ⟨others_keep h hw hg (fun q hq => by cases hq; exact hnext), Or.inr ⟨p, hg⟩⟩
  | ends p hp => exact ⟨others_keep h hw (h.buried p _) (fun q hq => by cases hq), Or.inr ⟨p, h.buried p _⟩⟩

/-- What holds in the beginning, and each guaranteed step preserves, holds wherever the programs get. -/
theorem inv_of_reachable (h : Contract serve bury programs init rely guar) (hinit : init s) {J : σ → Prop} (hJ : J s)
    (hstep : ∀ p s t, init s → J s → guar p s t → J t) (hreach : Crowd.Reachable serve bury programs s w) :
    Sound serve init rely guar w ∧ J w.shared := by
  induction hreach with
  | refl => exact ⟨⟨hinit, fun p q hq => by cases hq⟩, hJ⟩
  | tail _ hlast ih =>
    obtain ⟨hw, hJw⟩ := ih
    obtain ⟨hw', heq | ⟨p, hg⟩⟩ := sound_of_step h hw hlast
    · exact ⟨hw', heq ▸ hJw⟩
    · exact ⟨hw', hstep p _ _ hw.1 hJw hg⟩

end Contract

end Dialogue
