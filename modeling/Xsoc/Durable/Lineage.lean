import Mathlib.Logic.Relation
import Xsoc.Durable.History

/-!
# The generations of a slot

A slot of a store holds a record, or nothing. A record belongs to a generation; within its generation it is only ever
replaced by one that it advances to, of higher rank; a new generation begins with a record of a generation that was
never in the slot before.

* `Slot.Turn` : what a write may do to the slot;
* `Slot.Ordered.of_legal` : if every permitted write is a turn, the earlier of two records of one generation leads to
  the later;
* `Slot.contiguous` : a generation that left the slot does not return; `Slot.before_asymm` : so generations are ordered.
-/

set_option autoImplicit false

namespace Durable

/-- A slot: the record it holds, and the generation, the rank and the advances of records. -/
structure Slot (σ S γ : Type) where
  get : σ → Option S
  gen : S → γ
  rank : S → Nat
  Adv : S → S → Prop
  gen_adv : ∀ t u, Adv t u → gen u = gen t
  rank_adv : ∀ t u, Adv t u → rank t < rank u

namespace Slot

variable {σ κ S γ : Type} (L : Slot σ S γ)

/-- The record was in the slot at some moment up to `h`. -/
def Seen (h : History σ κ) (t : S) : Prop := h.Saw (fun s => L.get s = some t)

/-- `t` is `u`, or advances to it in some steps. -/
def Leads : S → S → Prop := Relation.ReflTransGen L.Adv

/-- What a write may do to the slot. -/
inductive Turn (h : History σ κ) (s : σ) : Prop
  | kept (hkeep : L.get s = L.get h.now)
  | began (t : S) (hs : L.get s = some t) (hfresh : ∀ u, L.Seen h u → L.gen u ≠ L.gen t)
  | advanced (t u : S) (ht : L.get h.now = some t) (hs : L.get s = some u) (hadv : L.Adv t u)
  | gone (hs : L.get s = none)

/-- Every record seen leads to the record in the slot, if that one is of its generation. -/
def Ordered (h : History σ κ) : Prop :=
  ∀ t u, L.Seen h t → L.get h.now = some u → L.gen t = L.gen u → L.Leads t u

/-- Generation `g` was in the slot at some moment up to `h`, and another one, `g'`, was at a later one. -/
def Before (h : History σ κ) (g g' : γ) : Prop :=
  g ≠ g' ∧ ∃ m m' t t', m ≤ m' ∧ m' ≤ h ∧ L.get m.now = some t ∧ L.gen t = g ∧ L.get m'.now = some t' ∧ L.gen t' = g'

/-- Generation `g` is not in the slot. -/
def Away (g : γ) (h : History σ κ) : Prop := ∀ v, L.get h.now = some v → L.gen v ≠ g

variable {L}

theorem Leads.gen_eq {t u : S} (h : L.Leads t u) : L.gen u = L.gen t := by
  induction h with
  | refl => rfl
  | tail _ hadv ih => rw [L.gen_adv _ _ hadv, ih]

theorem Leads.rank_le {t u : S} (h : L.Leads t u) : L.rank t ≤ L.rank u := by
  induction h with
  | refl => exact le_refl _
  | tail _ hadv ih => exact ih.trans (L.rank_adv _ _ hadv).le

/-- A record leads to no other one of its rank or a lower one. -/
theorem Leads.eq_of_rank {t u : S} (h : L.Leads t u) (hrank : L.rank u ≤ L.rank t) : t = u := by
  cases h with
  | refl => rfl
  | @tail v _ hlead hadv =>
    have hle := Leads.rank_le hlead
    have hlt := L.rank_adv _ _ hadv
    omega

/-! ## Legal histories -/

theorem Ordered.start (s : σ) : L.Ordered (⟨s, []⟩ : History σ κ) := by
  rintro t u ⟨m, hm, ht⟩ hu -
  rw [History.le_origin_iff.mp hm, hu] at ht
  cases ht
  exact Relation.ReflTransGen.refl

theorem Ordered.push {h : History σ κ} {w : Write σ κ} (ho : L.Ordered h) (hturn : L.Turn h w.state) :
    L.Ordered (h.push w) := by
  intro t u ht hu hgen
  rw [History.now_push] at hu
  rcases History.saw_push.mp ht with hnow | hseen
  · rw [hnow] at hu
    cases hu
    exact Relation.ReflTransGen.refl
  cases hturn with
  | kept hkeep => exact ho t u hseen (hkeep ▸ hu) hgen
  | began v hs hfresh =>
    rw [hs] at hu
    cases hu
    exact absurd hgen (hfresh t hseen)
  | advanced v v' hv hs hadv =>
    rw [hs] at hu
    cases hu
    have hlead := ho t v hseen hv (hgen.trans (L.gen_adv v _ hadv))
    exact Relation.ReflTransGen.tail hlead hadv
  | gone hs => rw [hs] at hu; cases hu

section

variable {init : σ → Prop} {permit : History σ κ → Write σ κ → Prop}

theorem Ordered.of_legal
    (hturn : ∀ h w, History.Legal init permit h → L.Ordered h → permit h w → L.Turn h w.state)
    {h : History σ κ} (hl : History.Legal init permit h) : L.Ordered h :=
  hl.invariant (fun s _ => Ordered.start s) (fun h w hh ho hw => ho.push (hturn h w hh ho hw))

variable (hturn : ∀ h w, History.Legal init permit h → L.Ordered h → permit h w → L.Turn h w.state)

include hturn

/-- Between two moments of one generation, the slot holds that generation. -/
theorem contiguous {m₁ m₂ m₃ : History σ κ} {t u : S} (hl : History.Legal init permit m₃) (h₁ : m₁ ≤ m₂)
    (h₂ : m₂ ≤ m₃) (ht : L.get m₁.now = some t) (hu : L.get m₃.now = some u) (hgen : L.gen t = L.gen u) :
    ∃ v, L.get m₂.now = some v ∧ L.Leads t v ∧ L.Leads v u := by
  have hl₂ := hl.of_le h₂
  by_cases hmid : ∃ v, L.get m₂.now = some v ∧ L.gen v = L.gen t
  · obtain ⟨v, hv, hvt⟩ := hmid
    refine ⟨v, hv, Ordered.of_legal hturn hl₂ t v ⟨m₁, h₁, ht⟩ hv hvt.symm, ?_⟩
    exact Ordered.of_legal hturn hl v u ⟨m₂, h₂, hv⟩ hu (hvt.trans hgen)
  · -- Once the generation is gone, no later write brings it back.
    have haway : L.Away (L.gen t) m₃ := by
      refine hl.invariant_from ?_ ?_ h₂
      · exact fun v hv hvt => hmid ⟨v, hv, hvt⟩
      · intro k w hk hlk hI hw v hv
        rw [History.now_push] at hv
        cases hturn k w hlk (Ordered.of_legal hturn hlk) hw with
        | kept hkeep => exact hI v (hkeep ▸ hv)
        | began v' hs hfresh =>
          rw [hs] at hv
          cases hv
          exact fun hvt => hfresh t ⟨m₁, h₁.trans hk, ht⟩ hvt.symm
        | advanced v' _ hv' hs hadv =>
          rw [hs] at hv
          cases hv
          rw [L.gen_adv _ _ hadv]
          exact hI v' hv'
        | gone hs => rw [hs] at hv; cases hv
    exact absurd hgen.symm (haway u hu)

/-- Two records of one generation and one rank that a history saw are the same. -/
theorem unique {h : History σ κ} {t u : S} (hl : History.Legal init permit h) (ht : L.Seen h t) (hu : L.Seen h u)
    (hgen : L.gen t = L.gen u) (hrank : L.rank t = L.rank u) : t = u := by
  obtain ⟨m, hm, htm⟩ := ht
  obtain ⟨m', hm', hum⟩ := hu
  rcases History.le_total_of_le hm hm' with hle | hle
  · have hlead := Ordered.of_legal hturn (hl.of_le hm') t u ⟨m, hle, htm⟩ hum hgen
    exact hlead.eq_of_rank hrank.ge
  · have hlead := Ordered.of_legal hturn (hl.of_le hm) u t ⟨m', hle, hum⟩ htm hgen.symm
    exact (hlead.eq_of_rank hrank.le).symm

/-- Of two generations, one comes first. -/
theorem before_asymm {h : History σ κ} {g g' : γ} (hl : History.Legal init permit h) (hgg' : L.Before h g g') :
    ¬ L.Before h g' g := by
  rintro ⟨-, m₃, m₄, t₃, t₄, h₃₄, h₄, ht₃, hg₃, ht₄, hg₄⟩
  obtain ⟨hne, m₁, m₂, t₁, t₂, h₁₂, h₂, ht₁, hg₁, ht₂, hg₂⟩ := hgg'
  have hpast : ∀ {m m' m'' : History σ κ} {t t' t'' : S}, m ≤ m' → m' ≤ m'' → m'' ≤ h → L.get m.now = some t →
      L.get m'.now = some t' → L.get m''.now = some t'' → L.gen t = L.gen t'' → L.gen t' = L.gen t := by
    intro m m' m'' t t' t'' hmm' hm'm'' hm''h ht ht' ht'' hgen
    obtain ⟨v, hv, hlead, -⟩ := contiguous hturn (hl.of_le hm''h) hmm' hm'm'' ht ht'' hgen
    cases ht'.symm.trans hv
    exact hlead.gen_eq
  rcases History.le_total_of_le (h₁₂.trans h₂) (h₃₄.trans h₄) with hle | hle
  · have hgen := hpast hle h₃₄ h₄ ht₁ ht₃ ht₄ (hg₁.trans hg₄.symm)
    exact hne (hg₁.symm.trans (hgen.symm.trans hg₃))
  · have hgen := hpast hle h₁₂ h₂ ht₃ ht₁ ht₂ (hg₃.trans hg₂.symm)
    exact hne (hg₁.symm.trans (hgen.trans hg₃))

end

end Slot

end Durable
