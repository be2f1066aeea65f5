import Xsoc.Durable.Schedule
import Xsoc.Playback
import Xsoc.Transactions

/-!
# Recovering a commit

A commit writes the journal `Activating`, four files, and the journal `Active`. It may be interrupted between any two
of these writes, and so may whoever finishes it. Every local entry point finds the journal and starts over; it writes
what the interrupted commit would have written.

* `run_finishActivatingUnlocked`, `run_prepareStart`, ... : what the entry points write while the journal is there;
* `solo_localEntry` : the same of their programs, however they are interrupted;
* `recovery_refines_commit` : any number of interrupted attempts, and the first one that is not.
-/

set_option autoImplicit false

namespace Xsoc

open Durable

/-! ## Runs on an `Activating` journal -/

section

variable {ext : External} {j : Activating} {d : Disk}

theorem last_stages (i : Inputs) : Tx.last d (j.stages ext i d) = j.stage ext i d 5 := rfl

/-- Before the last write of a commit the journal is still `Activating`. -/
theorem load_stage (hload : loadState d.pairing = .ok (some (.activating j))) (i : Inputs) {n : Nat} (hn : n < 5) :
    loadState (j.stage ext i d n).pairing = .ok (some (.activating j)) := by
  match n, hn with
  | 0, _ | 1, _ | 2, _ | 3, _ | 4, _ => exact hload

/-- After it, the commit is done, whatever the four files held before. -/
theorem committed_stage (hj : j.Committable ext) (hload : loadState d.pairing = .ok (some (.activating j)))
    (i : Inputs) : Committed ext j (j.stage ext i d 5) where
  journal := ⟨i.completedAt, rfl⟩
  credential := rfl
  identity := rfl
  binding := rfl
  authorization := ⟨i, rfl⟩
  notNil := notNil_of_loadState hload
  valid := hj.binding
  token := hj.token

theorem run_finishActivatingUnlocked (hj : j.Committable ext)
    (hload : loadState d.pairing = .ok (some (.activating j))) (i : Inputs) :
    finishActivatingUnlocked ext i j d =
      (j.stages ext i d, .ok (.active j.generation j.requestId j.instanceId j.reportEndpoint)) := by
  obtain ⟨t, hactive⟩ := (committed_stage hj hload i).load
  have hreplace : HostCredentials.replace ext i j d = (j.stages ext i d, .ok ()) := by
    unfold HostCredentials.replace
    rw [Tx.run_bind, Tx.run_read, hload]
    simp only [and_self, if_true, Tx.last, List.getLastD_nil, List.nil_append]
    rw [Tx.run_bind_ok (run_commitActivatingUnlocked hj i d)]
    rfl
  unfold finishActivatingUnlocked
  rw [Tx.run_bind_ok hreplace, last_stages, Tx.run_bind, Tx.run_read, hactive]
  rfl

theorem run_recoverActivating (hj : j.Committable ext) (hload : loadState d.pairing = .ok (some (.activating j)))
    (i : Inputs) : recoverActivating ext j i d =
      (j.stages ext i d, .ok (.active j.generation j.requestId j.instanceId j.reportEndpoint)) := by
  unfold recoverActivating
  rw [Tx.run_bind, Tx.run_read, hload]
  simp only [and_self, if_true, Tx.last, List.getLastD_nil, List.nil_append]
  rw [run_finishActivatingUnlocked hj hload i]

theorem run_existingReporterForRun (hj : j.Committable ext)
    (hload : loadState d.pairing = .ok (some (.activating j))) (config : ClientConfig) (i : Inputs) :
    existingReporterForRun ext config i d =
      (j.stages ext i d, reporterSnapshotForCurrentActiveState ext config (j.stage ext i d 5)) := by
  unfold existingReporterForRun
  rw [Tx.run_bind, Tx.run_read, hload]
  simp only [Tx.last, List.getLastD_nil, List.nil_append]
  rw [Tx.run_bind_ok (run_finishActivatingUnlocked hj hload i), last_stages, Tx.run_read, List.append_nil]

/-- `prepare_start` finishes the commit first; then it waits, or begins a request with the other server. -/
theorem run_prepareStart (hj : j.Committable ext) (hload : loadState d.pairing = .ok (some (.activating j)))
    {config : ClientConfig} {same : Bool}
    (hsame : pairingEndpointsMatch ext config j.pairingEndpoint j.reportEndpoint = .ok same) (host : HostIdentity)
    (i : Inputs) : prepareStart ext config host i d =
      if same then (j.stages ext i d, .ok (.waiting j.session))
      else (j.stages ext i d ++ (startCreating ext config host i (j.stage ext i d 5)).1,
        (startCreating ext config host i (j.stage ext i d 5)).2) := by
  unfold prepareStart
  rw [Tx.run_bind, Tx.run_read, hload]
  simp only [Tx.last, List.getLastD_nil, List.nil_append]
  rw [Tx.run_bind, Tx.run_ofExcept, hsame]
  simp only [Tx.last, List.getLastD_nil, List.nil_append]
  rw [Tx.run_bind_ok (run_finishActivatingUnlocked hj hload i), last_stages]
  cases same with
  | true => simp
  | false => simp

theorem run_prepareStart_error {config : ClientConfig} {e : Error}
    (hload : loadState d.pairing = .ok (some (.activating j)))
    (hsame : pairingEndpointsMatch ext config j.pairingEndpoint j.reportEndpoint = .error e) (host : HostIdentity)
    (i : Inputs) : prepareStart ext config host i d = ([], .error e) := by
  unfold prepareStart
  rw [Tx.run_bind, Tx.run_read, hload]
  simp only [Tx.last, List.getLastD_nil, List.nil_append]
  rw [Tx.run_bind_error (by rw [Tx.run_ofExcept, hsame])]

end

/-! ## Entry points -/

/-- The local entry points that may find a commit unfinished. -/
inductive LocalEntry
  | pollExisting (config : ClientConfig)
  | existingReporterForRun (config : ClientConfig)
  | prepareStart (config : ClientConfig) (host : HostIdentity)

inductive EntryAnswer
  | progress (r : Except Error (Option PairingProgress))
  | snapshot (r : Except Error (Option ReporterSnapshot))
  | start (r : Except Error PairingStart)

/-- The answer hands out a reporter, or a new journal to be posted. -/
def EntryAnswer.HandsOut : EntryAnswer → Prop
  | snapshot (.ok (some _)) => True
  | start (.ok (.create _)) => True
  | _ => False

namespace LocalEntry

/-- The configuration the entry point is called with was accepted. -/
def Valid (ext : External) : LocalEntry → Prop
  | prepareStart config _ => config.validateDelivery ext.url = .ok ()
  | _ => True

/-- The entry point does not begin a request. -/
def OnlyRecovers : LocalEntry → Prop
  | prepareStart _ _ => False
  | _ => True

def program (ext : External) : LocalEntry → Prog Disk Inputs Request Reply EntryAnswer
  | pollExisting config => Prog.bind (Xsoc.pollExisting ext config) (.ret <| .progress ·)
  | existingReporterForRun config =>
    Prog.bind (transaction (Xsoc.existingReporterForRun ext config)) (.ret <| .snapshot ·)
  | prepareStart config host => Prog.bind (transaction (Xsoc.prepareStart ext config host)) (.ret <| .start ·)

end LocalEntry

/-- An attempt of an entry point; a crash may cut it short after some number of its writes. -/
structure Attempt where
  entry : LocalEntry
  inputs : Nat → Inputs
  crash : Option Nat

/-- The states that an attempt makes durable. -/
def Attempt.writes (ext : External) (a : Attempt) (d : Disk) : List Disk :=
  let writes := ((a.entry.program ext).solo a.inputs d).1
  match a.crash with
  | none => writes
  | some n => writes.take n

/-- The states that attempts, one after the other, make durable. -/
def attempts (ext : External) : List Attempt → Disk → List Disk
  | [], _ => []
  | a :: as, d => a.writes ext d ++ attempts ext as (Tx.last d (a.writes ext d))

section

variable {ext : External} {j : Activating} {d : Disk}

/-- The transaction `t`, as the error of the store that `i` draws leaves it. -/
def run {α : Type} (t : Inputs → StateTx α) (i : Inputs) (d : Disk) : List Disk × Except Error α :=
  (t i).failing (i.fault.map (Prod.map id Error.io)) d

/-- A transaction runs to its end, or an error of the store cuts it short. -/
theorem run_cases {α : Type} (t : Inputs → StateTx α) (i : Inputs) {ws : List Disk} {x : Except Error α}
    (ht : t i d = (ws, x)) :
    run t i d = (ws, x) ∨ (i.fault ≠ none ∧ ∃ n e, run t i d = (ws.take n, .error e)) := by
  unfold run
  cases hf : i.fault with
  | none => exact Or.inl ht
  | some f =>
    right
    refine ⟨by simp, f.1, .io f.2, ?_⟩
    rw [Option.map_some, Prod.map_apply, id_eq, Tx.run_failing_some, ht]

section

variable {α β γ : Type} (t : Inputs → StateTx α) (f : α → PairingOp β)
  (g : Except Error β → Prog Disk Inputs Request Reply γ) {inputs : Nat → Inputs} {ws : List Disk}

/-- Alone, a transaction comes first, and what follows it starts where it ended. -/
theorem solo_transaction_bind (inputs : Nat → Inputs) (d : Disk) {x : Except Error α}
    (hrun : run t (inputs 0) d = (ws, x)) :
    (Prog.bind (transaction t >>= f : PairingOp β) g).solo inputs d =
      (ws ++ ((Prog.bind (Op.ofExcept x >>= f : PairingOp β) g).solo (fun n => inputs (n + 1)) (Tx.last d ws)).1,
        ((Prog.bind (Op.ofExcept x >>= f : PairingOp β) g).solo (fun n => inputs (n + 1)) (Tx.last d ws)).2) := by
  have hws : (run t (inputs 0) d).1 = ws := congrArg Prod.fst hrun
  have hx : (run t (inputs 0) d).2 = x := congrArg Prod.snd hrun
  rw [← hws, ← hx]
  rfl

theorem solo_transaction (g : Except Error α → γ) (inputs : Nat → Inputs) (d : Disk) {x : Except Error α}
    (hrun : run t (inputs 0) d = (ws, x)) :
    (Prog.bind (transaction t) (fun r => (.ret (g r) : Prog Disk Inputs Request Reply γ))).solo inputs d =
      (ws, .ok (g x)) := by
  have hws : (run t (inputs 0) d).1 = ws := congrArg Prod.fst hrun
  have hx : (run t (inputs 0) d).2 = x := congrArg Prod.snd hrun
  rw [← hws, ← hx]
  change ((run t (inputs 0) d).1 ++ [], _) = _
  rw [List.append_nil]
  rfl

end

/-- What an entry point does while the journal is `Activating`: it asks nobody, it writes the stages of the commit in
order, and it hands nothing out before the last of them. -/
structure Recovers (ext : External) (j : Activating) (d : Disk) (e : LocalEntry) (inputs : Nat → Inputs)
    (ws : List Disk) (answer : EntryAnswer) : Prop where
  ordered : ∃ i rest n, ws = (j.stages ext i d ++ rest).take n
  handsOut : answer.HandsOut → ∃ i rest, ws = j.stages ext i d ++ rest
  finishes : (∀ n, (inputs n).fault = none) → e.Valid ext →
    ∃ i rest, ws = j.stages ext i d ++ rest ∧ (e.OnlyRecovers → rest = [])

/-- A transaction that starts with the stages of the commit. -/
theorem recovers_of_run {α : Type} (f : Except Error α → EntryAnswer) {t : Inputs → StateTx α} {e : LocalEntry}
    {inputs : Nat → Inputs} {k : Nat} {rest ws : List Disk} {x y : Except Error α}
    (ht : t (inputs k) d = (j.stages ext (inputs k) d ++ rest, x)) (hrun : run t (inputs k) d = (ws, y))
    (herr : ∀ e, ¬ (f (.error e)).HandsOut) (hrest : e.OnlyRecovers → rest = []) :
    Recovers ext j d e inputs ws (f y) := by
  rcases run_cases _ _ ht with hfull | ⟨hfault, n, e', hcut⟩
  · rw [hfull] at hrun
    cases hrun
    refine ⟨⟨_, rest, (j.stages ext (inputs k) d ++ rest).length, by rw [List.take_length]⟩, ?_, ?_⟩
    · exact fun _ => ⟨_, rest, rfl⟩
    · exact fun _ _ => ⟨_, rest, rfl, hrest⟩
  · rw [hcut] at hrun
    cases hrun
    refine ⟨⟨_, rest, n, rfl⟩, ?_, ?_⟩
    · exact fun hout => absurd hout (herr e')
    · exact fun hnone _ => absurd (hnone k) hfault

theorem pairingEndpointsMatch_of_valid {config : ClientConfig} (hv : config.validateDelivery ext.url = .ok ())
    (pairingEndpoint reportEndpoint : String) :
    ∃ same, pairingEndpointsMatch ext config pairingEndpoint reportEndpoint = .ok same := by
  unfold ClientConfig.validateDelivery at hv
  obtain ⟨_, -, hv⟩ := Except.bind_eq_ok.mp hv
  obtain ⟨configured, hconfigured, -⟩ := Except.bind_eq_ok.mp hv
  unfold pairingEndpointsMatch
  rw [hconfigured]
  exact ⟨_, rfl⟩

/-- **An entry point that finds the journal recovers the commit**, as far as it gets. -/
theorem solo_localEntry (hj : j.Committable ext) (hload : loadState d.pairing = .ok (some (.activating j)))
    (e : LocalEntry) (inputs : Nat → Inputs) :
    ∃ ws answer, (e.program ext).solo inputs d = (ws, .ok answer) ∧ Recovers ext j d e inputs ws answer := by
  cases e with
  | existingReporterForRun config =>
    obtain ⟨⟨ws, y⟩, hrun⟩ : ∃ r, run (existingReporterForRun ext config) (inputs 0) d = r := ⟨_, rfl⟩
    have ht := run_existingReporterForRun hj hload config (inputs 0)
    rw [← List.append_nil (j.stages ext (inputs 0) d)] at ht
    exact ⟨ws, .snapshot y, solo_transaction _ _ inputs d hrun,
      recovers_of_run EntryAnswer.snapshot ht hrun (fun _ h => h) (fun _ => rfl)⟩
  | prepareStart config host =>
    obtain ⟨⟨ws, y⟩, hrun⟩ : ∃ r, run (prepareStart ext config host) (inputs 0) d = r := ⟨_, rfl⟩
    refine ⟨ws, .start y, solo_transaction _ _ inputs d hrun, ?_⟩
    cases hsame : pairingEndpointsMatch ext config j.pairingEndpoint j.reportEndpoint with
    | error e =>
      have hnothing : ws = [] ∧ ∃ e', y = .error e' := by
        rcases run_cases _ _ (run_prepareStart_error hload hsame host (inputs 0)) with hfull | ⟨-, n, e', hcut⟩
        · cases hrun.symm.trans hfull
          exact ⟨rfl, e, rfl⟩
        · rw [List.take_nil] at hcut
          cases hrun.symm.trans hcut
          exact ⟨rfl, e', rfl⟩
      obtain ⟨rfl, e', rfl⟩ := hnothing
      refine ⟨⟨inputs 0, [], 0, rfl⟩, fun hout => hout.elim, ?_⟩
      intro _ hvalid
      obtain ⟨same, hok⟩ := pairingEndpointsMatch_of_valid hvalid j.pairingEndpoint j.reportEndpoint
      rw [hsame] at hok
      cases hok
    | ok same =>
      have ht := run_prepareStart hj hload hsame host (inputs 0)
      cases same with
      | true =>
        rw [if_pos rfl, ← List.append_nil (j.stages ext (inputs 0) d)] at ht
        exact recovers_of_run EntryAnswer.start ht hrun (fun _ h => h) (fun _ => rfl)
      | false =>
        rw [if_neg Bool.false_ne_true] at ht
        exact recovers_of_run EntryAnswer.start ht hrun (fun _ h => h) (fun h => h.elim)
  | pollExisting config =>
    have hread : (Tx.read (fun d : Disk => loadState d.pairing) : StateTx _) d = ([], .ok (some (.activating j))) :=
      congrArg (Prod.mk []) hload
    rcases run_cases (fun _ => Tx.read (fun d => loadState d.pairing)) (inputs 0) hread with
      hfirst | ⟨hfault, n, e', hfirst⟩
    · -- The journal was read; the next transaction finishes its commit.
      obtain ⟨⟨ws, y⟩, hrun⟩ : ∃ r, run (recoverActivating ext j) (inputs 1) d = r := ⟨_, rfl⟩
      have hsecond := solo_transaction_bind (recoverActivating ext j) (fun p => (pure (some p) : PairingOp _))
        (fun r => .ret (EntryAnswer.progress r)) (fun n => inputs (n + 1)) d hrun
      have ht := run_recoverActivating hj hload (inputs 1)
      rw [← List.append_nil (j.stages ext (inputs 1) d)] at ht
      refine ⟨ws, .progress (y.map some), ?_, recovers_of_run (fun y => .progress (y.map some)) ht hrun
        (fun _ h => h) (fun _ => rfl)⟩
      refine (solo_transaction_bind _ _ _ inputs d hfirst).trans (hsecond.trans ?_)
      cases y with
      | ok p => simp [Prog.bind, Prog.solo, Op.ofExcept, bind, Op.bind, pure, Except.map]
      | error e => simp [Prog.bind, Prog.solo, Op.ofExcept, bind, Op.bind, Except.map]
    · refine ⟨[], .progress (.error e'), (solo_transaction_bind _ _ _ inputs d hfirst).trans ?_, ?_⟩
      · rw [List.take_nil]
        rfl
      · refine ⟨⟨inputs 0, [], 0, rfl⟩, fun hout => hout.elim, ?_⟩
        exact fun hnone _ => absurd (hnone 0) hfault

/-! ## Attempts -/

/-- The two directories hold the same files, up to the times recorded in them. -/
structure SameButTimes (ext : External) (d d' : Disk) : Prop where
  identity : d'.identity = d.identity
  credential : d'.credential = d.credential
  binding : d'.binding = d.binding
  authorization : ∃ auth t, d.authorization = LocalAuthState.file ext.serde auth ∧
    d'.authorization = LocalAuthState.file ext.serde { auth with changedAt := t }
  pairing : ∃ a t, d.pairing = (StoredPairingState.active a).file ext.serde ∧
    d'.pairing = (StoredPairingState.active { a with completedAt := t }).file ext.serde

/-- `d` is what the uninterrupted commit, which ends in `done`, leaves; and polling or starting the service again
changes nothing of it. -/
structure Converged (ext : External) (done d : Disk) : Prop where
  same : SameButTimes ext done d
  stable : ∀ e : LocalEntry, e.OnlyRecovers → ∀ inputs, ∃ answer, (e.program ext).solo inputs d = ([], .ok answer)

/-- The journal of `j` is there in every state, until one that the uninterrupted commit, ending in `done`, leaves. -/
inductive Follows (ext : External) (j : Activating) (done : Disk) : List Disk → Prop
  | nil : Follows ext j done []
  | step (x : Disk) (xs : List Disk) (hload : loadState x.pairing = .ok (some (.activating j)))
      (hxs : Follows ext j done xs) : Follows ext j done (x :: xs)
  | finished (x : Disk) (xs : List Disk) (hx : Converged ext done x) : Follows ext j done (x :: xs)

theorem Committed.sameButTimes {d' : Disk} (hd : Committed ext j d) (hd' : Committed ext j d') :
    SameButTimes ext d d' where
  identity := hd'.identity.trans hd.identity.symm
  credential := hd'.credential.trans hd.credential.symm
  binding := hd'.binding.trans hd.binding.symm
  authorization := by
    obtain ⟨i, hi⟩ := hd.authorization
    obtain ⟨i', hi'⟩ := hd'.authorization
    exact ⟨_, i'.changedAt, hi, hi'⟩
  pairing := by
    obtain ⟨t, ht⟩ := hd.journal
    obtain ⟨t', ht'⟩ := hd'.journal
    exact ⟨_, t', ht, ht'⟩

/-- Where the commit is done, polling and starting the service only read. -/
theorem Committed.stable (hd : Committed ext j d) (e : LocalEntry) (he : e.OnlyRecovers) (inputs : Nat → Inputs) :
    ∃ answer, (e.program ext).solo inputs d = ([], .ok answer) := by
  obtain ⟨t, hload⟩ := hd.load
  have hquiet : ∀ {α : Type} (t : Inputs → StateTx α) (i : Inputs), (t i d).1 = [] → ∃ y, run t i d = ([], y) := by
    intro α t i ht
    have hsplit : t i d = ([], (t i d).2) := Prod.ext ht rfl
    rcases run_cases t i hsplit with hrun | ⟨-, n, e', hrun⟩
    · exact ⟨_, hrun⟩
    · exact ⟨.error e', by rw [hrun, List.take_nil]⟩
  cases e with
  | prepareStart config host => exact he.elim
  | existingReporterForRun config =>
    have hread : (existingReporterForRun ext config (inputs 0) d).1 = [] := by
      unfold existingReporterForRun
      rw [Tx.run_bind, Tx.run_read, hload]
      rfl
    obtain ⟨y, hrun⟩ := hquiet _ _ hread
    exact ⟨.snapshot y, solo_transaction _ _ inputs d hrun⟩
  | pollExisting config =>
    obtain ⟨y, hrun⟩ := hquiet (fun _ => Tx.read (fun d => loadState d.pairing)) (inputs 0) rfl
    rcases run_cases (fun _ => Tx.read (fun d => loadState d.pairing)) (inputs 0) (congrArg (Prod.mk []) hload) with
      hfull | ⟨-, n, e', hcut⟩
    · exact ⟨_, solo_transaction_bind _ _ _ inputs d hfull⟩
    · rw [List.take_nil] at hcut
      exact ⟨_, solo_transaction_bind _ _ _ inputs d hcut⟩

theorem Committed.converged {done : Disk} (hdone : Committed ext j done) (hd : Committed ext j d) :
    Converged ext done d := ⟨hdone.sameButTimes hd, hd.stable⟩

/-- As many of the stages, and of what comes after them, as were written follow the commit. -/
theorem follows_take {done : Disk} (hdone : Committed ext j done) (hj : j.Committable ext)
    (hload : loadState d.pairing = .ok (some (.activating j))) (i : Inputs) (rest : List Disk) (n : Nat) :
    Follows ext j done ((j.stages ext i d ++ rest).take n) := by
  have hstep : ∀ k, k < 5 → ∀ xs, Follows ext j done xs → Follows ext j done (j.stage ext i d k :: xs) :=
    fun k hk xs hxs => .step _ xs (load_stage hload i hk) hxs
  have hlast : ∀ xs, Follows ext j done (j.stage ext i d 5 :: xs) :=
    fun xs => .finished _ xs (hdone.converged (committed_stage hj hload i))
  unfold Activating.stages
  match n with
  | 0 => exact .nil
  | 1 => exact hstep 1 (by omega) _ .nil
  | 2 => exact hstep 1 (by omega) _ (hstep 2 (by omega) _ .nil)
  | 3 => exact hstep 1 (by omega) _ (hstep 2 (by omega) _ (hstep 3 (by omega) _ .nil))
  | 4 => exact hstep 1 (by omega) _ (hstep 2 (by omega) _ (hstep 3 (by omega) _ (hstep 4 (by omega) _ .nil)))
  | n + 5 =>
    exact hstep 1 (by omega) _ (hstep 2 (by omega) _ (hstep 3 (by omega) _ (hstep 4 (by omega) _ (hlast _))))

theorem Follows.take {done : Disk} {xs : List Disk} (hx : Follows ext j done xs) :
    ∀ n, Follows ext j done (xs.take n) := by
  induction hx with
  | nil => intro n; rw [List.take_nil]; exact .nil
  | step x xs hload _ ih =>
    intro n
    cases n with
    | zero => exact .nil
    | succ n => exact .step x _ hload (ih n)
  | finished x xs hx =>
    intro n
    cases n with
    | zero => exact .nil
    | succ n => exact .finished x _ hx

/-- What follows the commit goes on following it, until it is done. -/
theorem Follows.append {done : Disk} {xs ys : List Disk} (hx : Follows ext j done xs) : ∀ {d : Disk},
    loadState d.pairing = .ok (some (.activating j)) →
    (loadState (Tx.last d xs).pairing = .ok (some (.activating j)) → Follows ext j done ys) →
    Follows ext j done (xs ++ ys) := by
  induction hx with
  | nil => intro d hd hys; exact hys hd
  | step x xs hload _ ih =>
    intro d hd hys
    refine .step x _ hload (ih hload ?_)
    intro hlast
    apply hys
    rw [Tx.last_cons]
    exact hlast
  | finished x xs hx => intro d hd hys; exact .finished x _ hx

/-- Any number of interrupted attempts follow the commit. -/
theorem follows_attempts {done : Disk} (hdone : Committed ext j done) (hj : j.Committable ext) (as : List Attempt) :
    ∀ {d : Disk}, loadState d.pairing = .ok (some (.activating j)) →
    Follows ext j done (attempts ext as d) := by
  induction as with
  | nil => intro d _; exact .nil
  | cons a as ih =>
    intro d hload
    obtain ⟨ws, answer, hsolo, hrec⟩ := solo_localEntry hj hload a.entry a.inputs
    obtain ⟨i, rest, n, hws⟩ := hrec.ordered
    have hfollows : Follows ext j done (a.writes ext d) := by
      have hall : Follows ext j done ws := hws ▸ follows_take hdone hj hload i rest n
      unfold Attempt.writes
      rw [hsolo]
      cases a.crash with
      | none => exact hall
      | some k => exact hall.take k
    exact hfollows.append hload (fun hlast => ih hlast)

/-! ## The journal that is recovered -/

/-- What `persist_active_credentials` makes durable first is a journal within its budget; the commit follows. -/
theorem writes_persistActiveCredentials {p : Pending} {instanceId : Uuid} {i : Inputs}
    (hmade : (persistActiveCredentials ext p instanceId i).writes d ≠ []) :
    byteLen ((StoredPairingState.activating (p.activating instanceId)).render ext.serde) ≤ StateFile.maxBytes .pairing ∧
    loadState (putPairing ext.serde (.activating (p.activating instanceId)) d).pairing =
      .ok (some (.activating (p.activating instanceId))) ∧
    (persistActiveCredentials ext p instanceId i).writes d =
      putPairing ext.serde (.activating (p.activating instanceId)) d ::
        (finishActivatingUnlocked ext i (p.activating instanceId)
          (putPairing ext.serde (.activating (p.activating instanceId)) d)).1 := by
  unfold Tx.writes persistActiveCredentials at hmade ⊢
  cases hensure : (ensurePendingIsCurrent p.generation p.requestId p.pairingEndpoint p.reportEndpoint
      p.pollingSecret : StateTx Unit) d with
  | mk ws x =>
  have hread : ws = [] ∧ (x = .ok () → p.generation.isNil = false) := by
    unfold ensurePendingIsCurrent at hensure
    rw [Tx.run_bind, Tx.run_read] at hensure
    cases hload : loadState d.pairing with
    | error e =>
      rw [hload] at hensure
      cases hensure
      exact ⟨rfl, fun h => by cases h⟩
    | ok state =>
      rw [hload] at hensure
      simp only [Tx.last, List.getLastD_nil, List.nil_append, Tx.run_ensure] at hensure
      by_cases hcur : isCurrentPending state p.generation p.requestId p.pairingEndpoint p.reportEndpoint
          p.pollingSecret = true
      · refine ⟨(congrArg Prod.fst hensure).symm, fun _ => ?_⟩
        obtain ⟨p', rfl⟩ := pending_of_isCurrentPending hcur
        have hnil := notNil_of_loadState hload
        simp only [isCurrentPending, Bool.and_eq_true, decide_eq_true_eq] at hcur
        rw [← hcur.1.1.1.1]
        exact hnil
      · rw [if_neg hcur] at hensure
        cases hensure
        exact ⟨rfl, fun h => by cases h⟩
  obtain ⟨rfl, hnil⟩ := hread
  cases x with
  | error e =>
    rw [Tx.run_bind_error hensure] at hmade
    exact absurd rfl hmade
  | ok u =>
    rw [Tx.run_bind_ok hensure] at hmade ⊢
    simp only [Tx.last, List.getLastD_nil, List.nil_append] at hmade ⊢
    by_cases hfit : byteLen ((StoredPairingState.activating (p.activating instanceId)).render ext.serde) ≤
        StateFile.maxBytes .pairing
    · refine ⟨hfit, loadState_file (hnil rfl), ?_⟩
      rw [Tx.run_bind_ok (run_persistStateUnlocked hfit d)]
      rfl
    · rw [Tx.run_bind_error (run_persistStateUnlocked_error hfit d)] at hmade
      exact absurd rfl hmade

/-- A journal within its budget that a commit accepts is committable. -/
theorem committable_of_accepted
    (hfit : byteLen ((StoredPairingState.activating j).render ext.serde) ≤ StateFile.maxBytes .pairing) {i : Inputs}
    {r : PairingProgress} (hok : (commitActivatingUnlocked ext i j).result d = .ok r) : j.Committable ext := by
  unfold Tx.result commitActivatingUnlocked at hok
  rw [Tx.run_bind, Tx.run_ofExcept, validateStateVersion_eq] at hok
  cases hv : validateActiveBinding ext.url j.binding with
  | error e =>
    simp only [Tx.run_bind, Tx.run_ofExcept, hv] at hok
    cases hok
  | ok u =>
  cases ht : validateCurrentToken j.bearerSecret with
  | error e =>
    simp only [Tx.run_bind, Tx.run_ofExcept, hv, ht] at hok
    cases hok
  | ok u' =>
  by_cases hbind : byteLen j.binding.render ≤ StateFile.maxBytes .binding
  · exact ⟨version_eq_current _, hv, ht, hbind, fun t => (byteLen_active_le j t ht).trans hfit⟩
  · simp only [Tx.run_bind, Tx.run_ofExcept, hv, ht, run_writeFile (fits_credential ht),
      run_writeFile (fits_identity _), run_persistActiveBindingUnlocked_error hv hbind] at hok
    cases hok

/-- **Recovery refines the commit.** Take a journal that `persist_active_credentials` made durable and that the commit
accepts. However the commit is cut short, and whatever attempts of the local entry points follow, each cut short by a
crash or an error of the store or not: the journal stays, until the first state that the uninterrupted commit leaves,
up to times. While it stays, an entry point asks no server, hands out nothing before that state, and reaches it if it
is not interrupted. -/
theorem recovery_refines_commit (ext : External) (p : Pending) (instanceId : Uuid) (i : Inputs) (d : Disk)
    (first : Nat) (as : List Attempt) (hmade : (persistActiveCredentials ext p instanceId i).writes d ≠ [])
    (haccept : ∃ i₀ d₀ r, (commitActivatingUnlocked ext i₀ (p.activating instanceId)).result d₀ = .ok r) :
    let j := p.activating instanceId
    let done := Tx.last d ((persistActiveCredentials ext p instanceId i).writes d)
    let ws := ((persistActiveCredentials ext p instanceId i).writes d).take (first + 1)
    let ds := ws ++ attempts ext as (Tx.last d ws)
    Converged ext done done ∧ Follows ext j done ds ∧
    (loadState (Tx.last d ds).pairing = .ok (some (.activating j)) →
      ∀ (e : LocalEntry) (inputs : Nat → Inputs), ∃ xs answer,
        (e.program ext).solo inputs (Tx.last d ds) = (xs, .ok answer) ∧ Follows ext j done xs ∧
        (answer.HandsOut → ∃ x ∈ xs, Converged ext done x) ∧
        ((∀ n, (inputs n).fault = none) → e.Valid ext → (∃ x ∈ xs, Converged ext done x) ∧
          (e.OnlyRecovers → Converged ext done (Tx.last (Tx.last d ds) xs)))) := by
  intro j done ws ds
  obtain ⟨hfit, hload, hwrites⟩ := writes_persistActiveCredentials hmade
  obtain ⟨i₀, d₀, r, hok⟩ := haccept
  have hj : j.Committable ext := committable_of_accepted hfit hok
  rw [run_finishActivatingUnlocked hj hload i] at hwrites
  have hdone : Committed ext j done := by
    have hlast : done = j.stage ext i (putPairing ext.serde (.activating j) d) 5 := by
      change Tx.last d _ = _
      rw [hwrites]
      rfl
    rw [hlast]
    exact committed_stage hj hload i
  have hws : ws = putPairing ext.serde (.activating j) d ::
      (j.stages ext i (putPairing ext.serde (.activating j) d)).take first := by
    change List.take _ _ = _
    rw [hwrites, List.take_succ_cons]
  have hstages : Follows ext j done ((j.stages ext i (putPairing ext.serde (.activating j) d)).take first) := by
    have hall := follows_take hdone hj hload i [] first
    rw [List.append_nil] at hall
    exact hall
  refine ⟨hdone.converged hdone, ?_, ?_⟩
  · -- The first write is the journal itself; the rest of the commit and the attempts follow it.
    change Follows ext j done (ws ++ attempts ext as (Tx.last d ws))
    rw [hws, Tx.last_cons]
    exact .step _ _ hload (hstages.append hload (follows_attempts hdone hj as))
  · intro hunfinished e inputs
    obtain ⟨xs, answer, hsolo, hrec⟩ := solo_localEntry hj hunfinished e inputs
    have hconv : ∀ i : Inputs, Converged ext done (j.stage ext i (Tx.last d ds) 5) :=
      fun i => hdone.converged (committed_stage hj hunfinished i)
    refine ⟨xs, answer, hsolo, ?_, ?_, ?_⟩
    · obtain ⟨i', rest, n, rfl⟩ := hrec.ordered
      exact follows_take hdone hj hunfinished i' rest n
    · intro hout
      obtain ⟨i', rest, rfl⟩ := hrec.handsOut hout
      exact ⟨_, by simp [Activating.stages], hconv i'⟩
    · intro hnone hvalid
      obtain ⟨i', rest, rfl, hrest⟩ := hrec.finishes hnone hvalid
      refine ⟨⟨_, by simp [Activating.stages], hconv i'⟩, fun honly => ?_⟩
      rw [hrest honly, List.append_nil, last_stages]
      exact hconv i'

/-- The activation of request 1 as instance 9 is cut short after the token, and two attempts to recover it are cut short
as well; the third is not. -/
theorem recovery_refines_commit_interrupted :
    let d := putPairing sampleServer.serde (.pending (samplePending 1)) Disk.empty
    let j := (samplePending 1).activating (uuidOf 9)
    let ws := (persistActiveCredentials sampleServer (samplePending 1) (uuidOf 9) (sampleInputs 1)).writes d
    let as : List Attempt := [⟨.existingReporterForRun (sampleConfig false), fun _ => sampleInputs 2, some 3⟩,
      ⟨.prepareStart (sampleConfig true) (sampleHost "h"), fun _ => sampleInputs 3, some 1⟩,
      ⟨.pollExisting (sampleConfig false), fun _ => sampleInputs 4, none⟩]
    Follows sampleServer j (Tx.last d ws) (ws.take 2 ++ attempts sampleServer as (Tx.last d (ws.take 2))) := by
  intro d j ws as
  have hmade : ws ≠ [] := List.isEmpty_eq_false_iff.mp (by decide +kernel)
  have haccept : (commitActivatingUnlocked sampleServer (sampleInputs 1) j).result d =
      .ok (.active j.generation j.requestId j.instanceId j.reportEndpoint) := by
    decide +kernel
  obtain ⟨-, hfollows, -⟩ := recovery_refines_commit sampleServer (samplePending 1) (uuidOf 9) (sampleInputs 1) d 1 as
    hmade ⟨_, _, _, haccept⟩
  exact hfollows

end

end Xsoc
