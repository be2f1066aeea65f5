import Mathlib.Order.Basic
import Mathlib.Data.List.Infix

/-!
# Histories of a durable store

A store is a value that is replaced as a whole by atomic durable writes. A `History` is its origin and every
write since, newest first, each with its author; `h ≤ h'` says that `h'` continues `h`, so a moment of `h'` is
a history below it.

* `History.Legal init permit` : the origin satisfies `init` and every write was permitted by the history it
  was made in; `Legal.of_le`, `Legal.invariant`, `Legal.invariant_from` are its rules;
* `History.Saw` : what held of the store at some moment;
* `Permitted` : the writes of one author, in order, are permitted one after the other.
-/

set_option autoImplicit false

namespace Durable

variable {σ κ : Type}

/-- A durable write: the state it leaves, and the author that made it. -/
structure Write (σ κ : Type) where
  state : σ
  author : κ

/-- The origin of a store and every write since, newest first. -/
structure History (σ κ : Type) where
  origin : σ
  writes : List (Write σ κ)

namespace History

/-- The state the store is in. -/
def now (h : History σ κ) : σ :=
  match h.writes with
  | [] => h.origin
  | w :: _ => w.state

def push (h : History σ κ) (w : Write σ κ) : History σ κ := { h with writes := w :: h.writes }

/-- The history after the writes `ss`, in order, of author `a`. -/
def extend (h : History σ κ) (a : κ) : List σ → History σ κ
  | [] => h
  | s :: ss => (h.push ⟨s, a⟩).extend a ss

@[simp] theorem now_origin (s : σ) : (⟨s, []⟩ : History σ κ).now = s := rfl

@[simp] theorem now_push (h : History σ κ) (w : Write σ κ) : (h.push w).now = w.state := rfl

@[simp] theorem extend_nil (h : History σ κ) (a : κ) : h.extend a [] = h := rfl

@[simp] theorem extend_cons (h : History σ κ) (a : κ) (s : σ) (ss : List σ) :
    h.extend a (s :: ss) = (h.push ⟨s, a⟩).extend a ss := rfl

theorem extend_append (a : κ) (ss ts : List σ) :
    ∀ h : History σ κ, h.extend a (ss ++ ts) = (h.extend a ss).extend a ts := by
  induction ss with
  | nil => intro h; rfl
  | cons s ss ih => intro h; exact ih (h.push ⟨s, a⟩)

/-! ## Moments -/

/-- `h ≤ h'` : `h'` continues `h`. -/
instance : LE (History σ κ) := ⟨fun h h' => h.origin = h'.origin ∧ h.writes <:+ h'.writes⟩

instance : Preorder (History σ κ) where
  le_refl _ := ⟨rfl, List.suffix_refl _⟩
  le_trans _ _ _ h₁ h₂ := ⟨h₁.1.trans h₂.1, h₁.2.trans h₂.2⟩

theorem le_push (h : History σ κ) (w : Write σ κ) : h ≤ h.push w := ⟨rfl, List.suffix_cons _ _⟩

theorem le_extend (a : κ) (ss : List σ) : ∀ h : History σ κ, h ≤ h.extend a ss := by
  induction ss with
  | nil => intro h; exact le_refl h
  | cons s ss ih => intro h; exact (le_push h _).trans (ih _)

theorem eq_of_le_of_length {h h' : History σ κ} (hle : h ≤ h') (hlen : h'.writes.length ≤ h.writes.length) :
    h = h' := by
  obtain ⟨o, ws⟩ := h
  obtain ⟨o', ws'⟩ := h'
  obtain ⟨rfl, hs⟩ := hle
  exact congrArg (History.mk o) (hs.eq_of_length_le hlen)

/-- A moment of `h.push w` is `h.push w` itself or a moment of `h`. -/
theorem le_push_iff {h k : History σ κ} {w : Write σ κ} : k ≤ h.push w ↔ k = h.push w ∨ k ≤ h := by
  constructor
  · rintro ⟨ho, hs⟩
    obtain ⟨o, ws⟩ := k
    rcases List.suffix_cons_iff.mp hs with heq | hs
    · exact Or.inl (by subst heq; exact congrArg (History.mk · _) ho)
    · exact Or.inr ⟨ho, hs⟩
  · rintro (rfl | hk)
    · exact le_refl _
    · exact hk.trans (le_push h w)

theorem mem_writes_of_push_le {h k : History σ κ} {w : Write σ κ} (hle : h.push w ≤ k) : w ∈ k.writes :=
  hle.2.subset List.mem_cons_self

theorem le_origin_iff {k : History σ κ} {s : σ} : k ≤ ⟨s, []⟩ ↔ k = ⟨s, []⟩ := by
  constructor
  · intro h
    exact eq_of_le_of_length h (Nat.zero_le _)
  · rintro rfl
    exact le_refl _

/-- The moments of one history are linearly ordered. -/
theorem le_total_of_le {h k l : History σ κ} (hk : k ≤ h) (hl : l ≤ h) : k ≤ l ∨ l ≤ k := by
  rcases Nat.le_total k.writes.length l.writes.length with hlen | hlen
  · exact Or.inl ⟨hk.1.trans hl.1.symm, List.suffix_of_suffix_length_le hk.2 hl.2 hlen⟩
  · exact Or.inr ⟨hl.1.trans hk.1.symm, List.suffix_of_suffix_length_le hl.2 hk.2 hlen⟩

theorem le_of_length {h k l : History σ κ} (hk : k ≤ h) (hl : l ≤ h) (hlen : k.writes.length ≤ l.writes.length) :
    k ≤ l := by
  rcases le_total_of_le hk hl with hle | hle
  · exact hle
  · rw [eq_of_le_of_length hle hlen]

/-- At some moment up to `h` the store satisfied `P`. -/
def Saw (h : History σ κ) (P : σ → Prop) : Prop := ∃ m, m ≤ h ∧ P m.now

theorem Saw.now {h : History σ κ} {P : σ → Prop} (hP : P h.now) : h.Saw P := ⟨h, le_refl h, hP⟩

theorem Saw.mono {h k : History σ κ} {P : σ → Prop} (hs : h.Saw P) (hle : h ≤ k) : k.Saw P := by
  obtain ⟨m, hm, hP⟩ := hs
  exact ⟨m, hm.trans hle, hP⟩

theorem saw_push {h : History σ κ} {w : Write σ κ} {P : σ → Prop} : (h.push w).Saw P ↔ P w.state ∨ h.Saw P := by
  constructor
  · rintro ⟨m, hm, hP⟩
    rcases le_push_iff.mp hm with rfl | hm
    · exact Or.inl hP
    · exact Or.inr ⟨m, hm, hP⟩
  · intro hs
    rcases hs with hP | hs
    · exact Saw.now hP
    · exact hs.mono (le_push h w)

theorem saw_origin {s : σ} {P : σ → Prop} : (⟨s, []⟩ : History σ κ).Saw P ↔ P s := by
  constructor
  · rintro ⟨m, hm, hP⟩
    rw [le_origin_iff.mp hm] at hP
    exact hP
  · intro hP
    exact Saw.now hP

/-! ## Legal histories -/

/-- The origin satisfies `init`, and every write was permitted by the history it was made in. -/
inductive Legal (init : σ → Prop) (permit : History σ κ → Write σ κ → Prop) : History σ κ → Prop
  | start {s : σ} (hs : init s) : Legal init permit ⟨s, []⟩
  | push {h : History σ κ} {w : Write σ κ} (hh : Legal init permit h) (hw : permit h w) :
      Legal init permit (h.push w)

variable {init : σ → Prop} {permit : History σ κ → Write σ κ → Prop}

theorem push_injective {h k : History σ κ} {w v : Write σ κ} (he : h.push w = k.push v) : h = k ∧ w = v := by
  obtain ⟨o, ws⟩ := h
  obtain ⟨o', vs⟩ := k
  injection he with ho hws
  injection hws with hw hvs
  cases ho
  cases hvs
  exact ⟨rfl, hw⟩

theorem Legal.of_push {h : History σ κ} {w : Write σ κ} (hl : Legal init permit (h.push w)) :
    Legal init permit h ∧ permit h w := by
  generalize hk : h.push w = k at hl
  cases hl with
  | start hs => cases congrArg (fun k => k.writes.length) hk
  | push hh hw =>
    obtain ⟨rfl, rfl⟩ := push_injective hk
    exact ⟨hh, hw⟩

theorem Legal.of_le {h h' : History σ κ} (hl : Legal init permit h') (hle : h ≤ h') : Legal init permit h := by
  induction hl with
  | start hs => rw [le_origin_iff.mp hle]; exact .start hs
  | push hh hw ih =>
    rcases le_push_iff.mp hle with rfl | hle
    · exact .push hh hw
    · exact ih hle

/-- What the origin satisfies and every permitted write keeps holds of every legal history. -/
theorem Legal.invariant {I : History σ κ → Prop} (hstart : ∀ s, init s → I ⟨s, []⟩)
    (hpush : ∀ h w, Legal init permit h → I h → permit h w → I (h.push w)) {h : History σ κ}
    (hl : Legal init permit h) : I h := by
  induction hl with
  | start hs => exact hstart _ hs
  | push hh hw ih => exact hpush _ _ hh ih hw

/-- What holds at one moment and every later permitted write keeps holds ever after. -/
theorem Legal.invariant_from {I : History σ κ → Prop} {h₀ : History σ κ} (hI : I h₀)
    (hpush : ∀ h w, h₀ ≤ h → Legal init permit h → I h → permit h w → I (h.push w)) {h : History σ κ}
    (hl : Legal init permit h) (hle : h₀ ≤ h) : I h := by
  induction hl with
  | start hs => rw [← le_origin_iff.mp hle]; exact hI
  | push hh hw ih =>
    rcases le_push_iff.mp hle with rfl | hle
    · exact hI
    · exact hpush _ _ hle hh (ih hle) hw

end History

/-! ## The writes of one author -/

/-- The writes `ss` of author `a`, in order, are permitted one after the other from `h` on. -/
def Permitted (permit : History σ κ → Write σ κ → Prop) (a : κ) : History σ κ → List σ → Prop
  | _, [] => True
  | h, s :: ss => permit h ⟨s, a⟩ ∧ Permitted permit a (h.push ⟨s, a⟩) ss

variable {permit : History σ κ → Write σ κ → Prop} {a : κ}

@[simp] theorem permitted_nil (h : History σ κ) : Permitted permit a h [] := trivial

@[simp] theorem permitted_cons (h : History σ κ) (s : σ) (ss : List σ) :
    Permitted permit a h (s :: ss) ↔ permit h ⟨s, a⟩ ∧ Permitted permit a (h.push ⟨s, a⟩) ss := Iff.rfl

theorem permitted_append (ss ts : List σ) : ∀ h : History σ κ,
    Permitted permit a h (ss ++ ts) ↔ Permitted permit a h ss ∧ Permitted permit a (h.extend a ss) ts := by
  induction ss with
  | nil => intro h; simp
  | cons s ss ih => intro h; simp [ih, and_assoc]

theorem mem_of_permitted {P : σ → Prop} (ss : List σ) : ∀ {h : History σ κ},
    Permitted (fun _ w => P w.state) a h ss → ∀ s ∈ ss, P s := by
  induction ss with
  | nil => intro h _ s hs; cases hs
  | cons t ss ih =>
    intro h hp s hs
    rcases List.mem_cons.mp hs with rfl | hs
    · exact hp.1
    · exact ih hp.2 s hs

theorem History.Legal.extend {init : σ → Prop} (ss : List σ) : ∀ {h : History σ κ},
    Legal init permit h → Permitted permit a h ss → Legal init permit (h.extend a ss) := by
  induction ss with
  | nil => intro h hl _; exact hl
  | cons s ss ih => intro h hl hp; exact ih (.push hl hp.1) hp.2

end Durable
