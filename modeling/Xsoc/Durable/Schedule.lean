import Xsoc.Durable.Machine

/-!
# Schedules

Which step comes next is open in a run; a schedule fixes it, so that a run can be computed. A schedule runs each
transaction in one turn, from the lock to its release.

* `Prog.solo` : a program that has the store to itself;
* `World.play`, `World.play_reach` : the run of a schedule.
-/

set_option autoImplicit false

namespace Durable

variable {σ ι q r c ε α β : Type}

/-! ## Alone -/

/-- A program that has the store to itself: the states it makes durable, and what it returns, or the request it stops
at. The `n`-th transaction draws `inputs n`. -/
def Prog.solo : Prog σ ι q r α → (Nat → ι) → σ → List σ × Except q α
  | .ret a, _, _ => ([], .ok a)
  | .locked ws n, inputs, s =>
    let rest := (n (inputs 0) s).solo (fun k => inputs (k + 1)) (Tx.last s (ws (inputs 0) s))
    (ws (inputs 0) s ++ rest.1, rest.2)
  | .peek n, inputs, s => (n (some s)).solo inputs s
  | .send m _, _, _ => ([], .error m)

/-- Alone, a transaction that fails ends the program with its error. -/
theorem Op.solo_lock_bind_error {t : ι → Tx σ ε α} {f : α → Op σ ι q r ε β} {inputs : Nat → ι} {s : σ} {ws : List σ}
    {e : ε} (ht : t (inputs 0) s = (ws, .error e)) :
    Prog.solo (Op.lock t >>= f : Op σ ι q r ε β) inputs s = (ws, .ok (.error e)) := by
  have hws : (t (inputs 0) s).1 = ws := congrArg Prod.fst ht
  have hx : (t (inputs 0) s).2 = .error e := congrArg Prod.snd ht
  have hsolo : Prog.solo (Op.lock t >>= f : Op σ ι q r ε β) inputs s =
      ((t (inputs 0) s).1 ++ (Prog.solo (Op.ofExcept (t (inputs 0) s).2 >>= f : Op σ ι q r ε β)
        (fun k => inputs (k + 1)) (Tx.last s (t (inputs 0) s).1)).1,
      (Prog.solo (Op.ofExcept (t (inputs 0) s).2 >>= f : Op σ ι q r ε β)
        (fun k => inputs (k + 1)) (Tx.last s (t (inputs 0) s).1)).2) := rfl
  rw [hsolo, hx, hws]
  change (ws ++ [], _) = _
  rw [List.append_nil]
  rfl

/-! ## Schedules -/

/-- One turn of a schedule. -/
inductive Action (c ι r : Type)
  | call (pid : Nat) (a : c)
  /-- A whole transaction. -/
  | turn (pid : Nat) (input : ι)
  | peek (pid : Nat)
  | emit (pid : Nat)
  | reply (pid : Nat) (answer : r)
  | ret (pid : Nat)

namespace World

variable (program : c → Prog σ ι q r α) (drawable : History σ (Author c q r ι) → ι → Bool)

/-- The world after one turn, if the turn is possible. -/
def act (w : World σ ι q r c α) : Action c ι r → Option (World σ ι q r c α)
  | .call i a =>
    match w.procs i with
    | some _ => none
    | none => some (w.setProc i (some ⟨a, w.history, [], program a, false⟩))
  | .turn i input =>
    match w.lock, w.procs i with
    | none, some p =>
      match p.prog with
      | .locked ws n =>
        if drawable w.history input then
          some { w.setProc i (some { p with prog := n input w.history.now }) with
            history := w.history.extend ⟨p.call, p.transcript, input⟩ (ws input w.history.now) }
        else none
      | _ => none
    | _, _ => none
  | .peek i =>
    match w.procs i with
    | some p =>
      match p.prog with
      | .peek n => some (w.setProc i (some { p with prog := n (some w.history.now) }))
      | _ => none
    | none => none
  | .emit i =>
    match w.procs i with
    | some p =>
      match p.prog, p.sent with
      | .send m _, false => some { w.setProc i (some { p with sent := true }) with
          sent := ⟨p.call, p.transcript, w.history, m⟩ :: w.sent }
      | _, _ => none
    | none => none
  | .reply i a =>
    match w.procs i with
    | some p =>
      match p.prog, p.sent with
      | .send m n, true =>
        some (w.setProc i (some { p with transcript := p.transcript ++ [(m, a)], prog := n a, sent := false }))
      | _, _ => none
    | none => none
  | .ret i =>
    match w.procs i with
    | some p =>
      match p.prog with
      | .ret a => some { w.setProc i none with
          returned := ⟨p.call, p.since, w.history, p.transcript, a⟩ :: w.returned }
      | _ => none
    | none => none

def play : List (Action c ι r) → World σ ι q r c α → Option (World σ ι q r c α)
  | [], w => some w
  | a :: as, w => (w.act program drawable a).bind (play as)

end World

variable {program : c → Prog σ ι q r α} {draw : History σ (Author c q r ι) → ι → Prop}
  {lossy : History σ (Author c q r ι) → Prop} {drawable : History σ (Author c q r ι) → ι → Bool}

/-- The writes of the process that holds the lock, one after the other. -/
theorem write_all (ss : List σ) : ∀ (w : World σ ι q r c α) (k : Holding σ ι q r c α), w.lock = some k →
    k.rest = ss → Relation.ReflTransGen (Step program draw lossy) w
      { w with history := w.history.extend k.author ss, lock := some { k with rest := [] } } := by
  induction ss with
  | nil =>
    intro w k hl hr
    have hk : ({ k with rest := [] } : Holding σ ι q r c α) = k := by rw [← hr]
    rw [hk, ← hl]
    exact Relation.ReflTransGen.refl
  | cons s ss ih =>
    intro w k hl hr
    refine Relation.ReflTransGen.head (Step.write hl hr) ?_
    exact ih { w with history := w.history.push ⟨s, k.author⟩, lock := some { k with rest := ss } }
      { k with rest := ss } rfl rfl

/-- A whole transaction takes the lock, and makes its writes. -/
theorem World.act_turn (hdraw : ∀ h i, drawable h i = true → draw h i) {w w' : World σ ι q r c α} {i : Nat}
    {input : ι} (h : w.act program drawable (.turn i input) = some w') :
    ∃ p ws n, w.procs i = some p ∧ p.prog = .locked ws n ∧ draw w.history input ∧
      w'.history = w.history.extend ⟨p.call, p.transcript, input⟩ (ws input w.history.now) ∧
      Step program draw lossy w { w with
        lock := some ⟨i, input, ws input w.history.now, { p with prog := n input w.history.now }⟩ } ∧
      Relation.ReflTransGen (Step program draw lossy) { w with
        lock := some ⟨i, input, ws input w.history.now, { p with prog := n input w.history.now }⟩ } w' := by
  simp only [act] at h
  split at h
  · rename_i p hl hi
    split at h
    · rename_i ws n hp
      split at h
      · rename_i hok
        cases h
        refine ⟨p, ws, n, hi, hp, hdraw _ _ hok, rfl, Step.acquire i input hl hi hp (hdraw _ _ hok), ?_⟩
        refine Relation.ReflTransGen.trans (write_all _ _ _ rfl rfl) ?_
        refine Relation.ReflTransGen.trans (Relation.ReflTransGen.single (Step.release rfl rfl)) ?_
        obtain ⟨history, procs, lock, returned, sent⟩ := w
        cases hl
        exact Relation.ReflTransGen.refl
      · cases h
    · cases h
  · cases h

theorem World.act_reach (hdraw : ∀ h i, drawable h i = true → draw h i) {w w' : World σ ι q r c α}
    {a : Action c ι r} (h : w.act program drawable a = some w') :
    Relation.ReflTransGen (Step program draw lossy) w w' := by
  cases a with
  | call i a =>
    simp only [act] at h
    split at h
    · cases h
    · rename_i hi
      cases h
      exact Relation.ReflTransGen.single (.call i a hi)
  | turn i input =>
    obtain ⟨p, ws, n, -, -, -, -, hacquire, hwrites⟩ := act_turn hdraw h
    exact Relation.ReflTransGen.head hacquire hwrites
  | peek i =>
    simp only [act] at h
    split at h
    · rename_i p hi
      split at h
      · rename_i n hp
        cases h
        exact Relation.ReflTransGen.single (.peek i _ hi hp (Or.inr rfl))
      · cases h
    · cases h
  | emit i =>
    simp only [act] at h
    split at h
    · rename_i p hi
      split at h
      · rename_i m n hp hs
        cases h
        exact Relation.ReflTransGen.single (.emit i hi hp hs)
      · cases h
    · cases h
  | reply i a =>
    simp only [act] at h
    split at h
    · rename_i p hi
      split at h
      · rename_i m n hp hs
        cases h
        exact Relation.ReflTransGen.single (.reply i a hi hp hs)
      · cases h
    · cases h
  | ret i =>
    simp only [act] at h
    split at h
    · rename_i p hi
      split at h
      · rename_i a hp
        cases h
        exact Relation.ReflTransGen.single (.ret i hi hp)
      · cases h
    · cases h

/-- A run leads to the world that a schedule is played to. -/
theorem World.play_reach (hdraw : ∀ h i, drawable h i = true → draw h i) (as : List (Action c ι r)) :
    ∀ {w w' : World σ ι q r c α}, w.play program drawable as = some w' →
      Relation.ReflTransGen (Step program draw lossy) w w' := by
  induction as with
  | nil =>
    intro w w' hp
    cases hp
    exact Relation.ReflTransGen.refl
  | cons a as ih =>
    intro w w' hp
    obtain ⟨w₁, hact, hp⟩ := Option.bind_eq_some_iff.mp hp
    exact (World.act_reach hdraw hact).trans (ih hp)

/-- A schedule that can be played to a world with property `P` shows that such a world is reachable. -/
theorem exists_reach_of_play (hdraw : ∀ h i, drawable h i = true → draw h i) {h : History σ (Author c q r ι)}
    {as : List (Action c ι r)} {P : World σ ι q r c α → Bool}
    (hplay : ((World.idle h).play program drawable as).any P = true) :
    ∃ w, Reach program draw lossy h w ∧ P w = true := by
  obtain ⟨w, hw, hP⟩ := (Option.any_eq_true _ _).mp hplay
  exact ⟨w, World.play_reach hdraw as hw, hP⟩

end Durable
