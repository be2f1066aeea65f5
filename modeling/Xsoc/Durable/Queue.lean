import Mathlib.Data.List.Basic

/-!
# Queues on disk

A queue that other code keeps: its oldest record can be read, and be set aside. A reader that looks for the first
record it can use sets aside what it cannot.

* `Fifo` : what is waiting and what was set aside, and how the operations change both;
* `scan` : the loop, with so many turns;
* `Scanned` : how far it came, `scan_spec` : it ends, and has set aside exactly what it could not use before there.
-/

set_option autoImplicit false

namespace Durable

variable {σ ρ ε β : Type}

/-- A queue of records `ρ` in a store `σ`. -/
structure Queue (σ ρ ε : Type) where
  next : σ → Except ε (Option ρ) × σ
  setAside : ρ → σ → Except ε Unit × σ

/-- The queue is first in, first out, and what an operation that failed did is nothing. -/
structure Fifo (queue : Queue σ ρ ε) where
  /-- From the oldest on. -/
  waiting : σ → List ρ
  aside : σ → List ρ
  next_ok : ∀ {s : σ} {record : Option ρ}, (queue.next s).1 = .ok record → record = (waiting s).head?
  next_waiting : ∀ s : σ, waiting (queue.next s).2 = waiting s
  next_aside : ∀ s : σ, aside (queue.next s).2 = aside s
  setAside_ok : ∀ {s : σ} {record : ρ} {rest : List ρ}, waiting s = record :: rest →
    (queue.setAside record s).1 = .ok () →
    waiting (queue.setAside record s).2 = rest ∧ aside (queue.setAside record s).2 = aside s ++ [record]
  setAside_error : ∀ {s : σ} {record : ρ} {e : ε}, (queue.setAside record s).1 = .error e →
    waiting (queue.setAside record s).2 = waiting s ∧ aside (queue.setAside record s).2 = aside s

/-- The first record that can be used, in so many turns; what cannot be used is set aside. -/
def scan (queue : Queue σ ρ ε) (use : ρ → Option β) : Nat → σ → Option (Except ε (Option β) × σ)
  | 0, _ => none
  | turns + 1, s =>
    match queue.next s with
    | (.error e, s) => some (.error e, s)
    | (.ok none, s) => some (.ok none, s)
    | (.ok (some record), s) =>
      match use record with
      | some value => some (.ok (some value), s)
      | none =>
        match queue.setAside record s with
        | (.error e, s) => some (.error e, s)
        | (.ok (), s) => scan queue use turns s

/-- What an outcome says about the records that are still waiting. -/
def Stopped (queue : Queue σ ρ ε) (use : ρ → Option β) (rest : List ρ) : Except ε (Option β) → Prop
  | .ok (some value) => ∃ record behind, rest = record :: behind ∧ use record = some value
  | .ok none => rest = []
  | .error e => (∃ s, (queue.next s).1 = .error e) ∨
      ∃ record behind s, rest = record :: behind ∧ use record = none ∧ (queue.setAside record s).1 = .error e

/-- The records in front could not be used and were set aside; the others are waiting. -/
structure Scanned {queue : Queue σ ρ ε} (fifo : Fifo queue) (use : ρ → Option β) (s s' : σ)
    (outcome : Except ε (Option β)) (front rest : List ρ) : Prop where
  split : fifo.waiting s = front ++ rest
  useless : ∀ record ∈ front, use record = none
  aside : fifo.aside s' = fifo.aside s ++ front
  waiting : fifo.waiting s' = rest
  stopped : Stopped queue use rest outcome

/-- One record further. -/
theorem Scanned.cons {queue : Queue σ ρ ε} {fifo : Fifo queue} {use : ρ → Option β} {s t s' : σ}
    {outcome : Except ε (Option β)} {front rest : List ρ} {record : ρ} (h : Scanned fifo use t s' outcome front rest)
    (hwaiting : fifo.waiting s = record :: fifo.waiting t) (haside : fifo.aside t = fifo.aside s ++ [record])
    (huse : use record = none) : Scanned fifo use s s' outcome (record :: front) rest where
  split := by rw [hwaiting, h.split, List.cons_append]
  useless := List.forall_mem_cons.mpr ⟨huse, h.useless⟩
  aside := by rw [h.aside, haside, List.append_assoc, List.singleton_append]
  waiting := h.waiting
  stopped := h.stopped

/-- The loop ends, with a turn for each record and one more. -/
theorem scan_spec {queue : Queue σ ρ ε} (fifo : Fifo queue) (use : ρ → Option β) {turns : Nat} {s : σ}
    (hturns : (fifo.waiting s).length < turns) :
    ∃ outcome s' front rest, scan queue use turns s = some (outcome, s') ∧
      Scanned fifo use s s' outcome front rest := by
  induction turns generalizing s with
  | zero => cases hturns
  | succ turns ih =>
    have hwaiting := fifo.next_waiting s
    have haside := fifo.next_aside s
    unfold scan
    -- a turn that stops leaves the queue as it is
    have stop : ∀ {outcome : Except ε (Option β)} {t : σ}, fifo.waiting t = fifo.waiting s →
        fifo.aside t = fifo.aside s → Stopped queue use (fifo.waiting s) outcome →
        Scanned fifo use s t outcome [] (fifo.waiting s) := fun hw ha hstopped =>
      ⟨rfl, fun _ h => absurd h List.not_mem_nil, by rw [ha, List.append_nil], hw, hstopped⟩
    rcases hnext : queue.next s with ⟨⟨e⟩ | ⟨record⟩, t⟩
    · rw [hnext] at hwaiting haside
      exact ⟨_, _, _, _, rfl, stop hwaiting haside (Or.inl ⟨s, by rw [hnext]⟩)⟩
    have hhead : record = (fifo.waiting s).head? := fifo.next_ok (by rw [hnext])
    rw [hnext] at hwaiting haside
    cases hlist : fifo.waiting s with
    | nil =>
      rw [hlist] at hhead
      subst hhead
      refine ⟨_, _, _, _, rfl, stop hwaiting haside ?_⟩
      exact hlist
    | cons record behind =>
      rw [hlist] at hhead
      subst hhead
      simp only [List.head?_cons]
      cases huse : use record with
      | some value =>
        exact ⟨_, _, _, _, rfl, stop hwaiting haside ⟨record, behind, hlist, huse⟩⟩
      | none =>
        rcases hset : queue.setAside record t with ⟨⟨e⟩ | ⟨⟨⟩⟩, u⟩
        · obtain ⟨hw, ha⟩ := fifo.setAside_error (by rw [hset])
          rw [hset] at hw ha
          exact ⟨_, _, _, _, rfl, stop (hw.trans hwaiting) (ha.trans haside)
            (Or.inr ⟨record, behind, t, hlist, huse, by rw [hset]⟩)⟩
        · obtain ⟨hw, ha⟩ := fifo.setAside_ok (hwaiting.trans hlist) (by rw [hset])
          rw [hset] at hw ha
          have hfewer : (fifo.waiting u).length < turns := by
            rw [hlist, List.length_cons] at hturns
            rw [hw]
            omega
          obtain ⟨outcome, s', front, rest, hscan, hscanned⟩ := ih hfewer
          refine ⟨outcome, s', record :: front, rest, hscan, hscanned.cons ?_ ?_ huse⟩
          · rw [hlist, hw]
          · rw [ha, haside]

/-- What is found is the first record that can be used. -/
theorem Scanned.find {queue : Queue σ ρ ε} {fifo : Fifo queue} {use : ρ → Option β} {s s' : σ} {found : Option β}
    {front rest : List ρ} (h : Scanned fifo use s s' (.ok found) front rest) :
    found = (fifo.waiting s).findSome? use := by
  have hfront : front.findSome? use = none := List.findSome?_eq_none_iff.mpr h.useless
  rw [h.split, List.findSome?_append, hfront, Option.none_or]
  cases found with
  | none =>
    obtain rfl : rest = [] := h.stopped
    rfl
  | some value =>
    obtain ⟨record, behind, rfl, huse⟩ := h.stopped
    rw [List.findSome?_cons, huse]

end Durable
