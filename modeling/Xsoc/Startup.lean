import Xsoc.Recovery

/-!
# Start-up and the running service

The start-up loop looks for the completed binding first, and then for the previous one while a replacement is
incomplete; the running service refreshes its snapshot in one step. Both come to the same credential.
-/

set_option autoImplicit false

namespace Xsoc

open Durable

variable {ext : External} {config : ClientConfig}

/-- Two ways to look for a reporter come to the same: no credential, an error, or the same snapshot. -/
def SameOutcome (x y : Except Error (Option ReporterSnapshot)) : Prop :=
  match x, y with
  | .ok none, .ok none => True
  | .ok (some s), .ok (some t) =>
    s.reporter.token = t.reporter.token ∧ s.reporter.identity = t.reporter.identity ∧ s.host = t.host ∧
      s.reporter.endpoint = t.reporter.endpoint ∧ s.reportEndpoint = t.reportEndpoint ∧
      s.credentialRevision = t.credentialRevision
  | .error _, .error _ => True
  | _, _ => False

theorem SameOutcome.refl (x : Except Error (Option ReporterSnapshot)) : SameOutcome x x := by
  match x with
  | .ok none => trivial
  | .ok (some s) => exact ⟨rfl, rfl, rfl, rfl, rfl, rfl⟩
  | .error e => trivial

/-- The start-up path of `prepare_reporter` on one state of the directory: the completed binding first, and the
previous one while a replacement is incomplete. -/
def startupSnapshot (ext : External) (config : ClientConfig) (i : Inputs) (d : Disk) :
    Except Error (Option ReporterSnapshot) :=
  match reporterSnapshotForCurrentActiveState ext config d with
  | .ok none => (existingReporterForRun ext config i).result d
  | r => r

/-- Alone, a turn of the start-up loop comes to that. -/
theorem solo_prepareReporterTurn (config : ClientConfig) (inputs : Nat → Inputs)
    (hnone : ∀ n, (inputs n).fault = none) (d : Disk) :
    ∃ ws, (Prog.bind (prepareReporterTurn ext config) (fun r => .ret (Answer.snapshot r))).solo inputs d =
      (ws, .ok (.snapshot (startupSnapshot ext config (inputs 1) d))) := by
  have hfirst : run (fun _ => Tx.read (reporterSnapshotForCurrentActiveState ext config)) (inputs 0) d =
      ([], reporterSnapshotForCurrentActiveState ext config d) := by
    unfold run
    rw [hnone 0]
    rfl
  have hsecond : run (existingReporterForRun ext config) (inputs 1) d =
      ((existingReporterForRun ext config (inputs 1)).writes d,
        (existingReporterForRun ext config (inputs 1)).result d) := by
    unfold run
    rw [hnone 1]
    rfl
  unfold prepareReporterTurn startupSnapshot
  rw [solo_transaction_bind _ _ _ inputs d hfirst]
  match reporterSnapshotForCurrentActiveState ext config d with
  | .ok (some s) => exact ⟨_, rfl⟩
  | .error e => exact ⟨_, rfl⟩
  | .ok none =>
    refine ⟨_, congrArg (Prod.mk _) ?_⟩
    exact congrArg Prod.snd (solo_transaction (existingReporterForRun ext config) Answer.snapshot
      (fun n => inputs (n + 1)) d hsecond)

/-- Two configurations that differ in their endpoints only. -/
def SameButEndpoints (config config' : ClientConfig) : Prop :=
  applyActiveConfig config "" = applyActiveConfig config' ""

theorem SameButEndpoints.configForActiveBinding {config' : ClientConfig} (h : SameButEndpoints config config')
    (b : ActiveBinding) : configForActiveBinding config b = configForActiveBinding config' b := by
  have hboth : applyActiveConfig (applyActiveConfig config "") b.reportEndpoint =
      applyActiveConfig (applyActiveConfig config' "") b.reportEndpoint := by rw [h]
  exact hboth

theorem SameButEndpoints.reporterForActiveBinding {config' : ClientConfig} (h : SameButEndpoints config config')
    (d : Disk) (b : ActiveBinding) :
    reporterForActiveBinding ext config d b = reporterForActiveBinding ext config' d b := by
  unfold Xsoc.reporterForActiveBinding
  rw [h.configForActiveBinding]

/-- **The start-up path and the running service choose the same credential**, whatever the directory holds, as long as
its journal is no `Activating` one and the service holds another revision than the bound one. -/
theorem refreshReporterSnapshot_agrees (ext : External) (config config' : ClientConfig) (i : Inputs) (d : Disk)
    (revision : Revision) (state : Option StoredPairingState) (hconfig : SameButEndpoints config config')
    (hstate : loadState d.pairing = .ok state) (hphase : ∀ j, state ≠ some (.activating j))
    (hrevision : ∀ b, loadActiveBinding ext.url d.binding = .ok (some b) → b.revision ≠ revision) :
    (existingReporterForRun ext config i).writes d = [] ∧
      SameOutcome (startupSnapshot ext config i d) (refreshReporterSnapshot ext config' revision d) := by
  have hexisting : existingReporterForRun ext config i d = ([], existingReporter ext config d state) := by
    unfold existingReporterForRun
    rw [Tx.run_bind, Tx.run_read, hstate]
    cases state with
    | none => rfl
    | some journal =>
      cases journal with
      | activating j => exact absurd rfl (hphase j)
      | creating _ | pending _ | active _ | denied _ | expired _ => rfl
  refine ⟨by rw [Tx.writes, hexisting], ?_⟩
  unfold startupSnapshot refreshReporterSnapshot
  rw [Tx.result, hexisting]
  unfold reporterSnapshotForCurrentActiveState existingReporter
  rw [hstate]
  cases hauth : localAuthStateUnlocked d.authorization with
  | error e => trivial
  | ok auth =>
  simp only [bind, Except.bind]
  by_cases hok : isAuthorized auth = false
  · simp only [if_pos hok]
    trivial
  simp only [if_neg hok]
  cases state with
  | none => trivial
  | some journal =>
  cases journal with
  | activating j => exact absurd rfl (hphase j)
  | creating _ | pending _ | denied _ | expired _ =>
    cases hfile : loadActiveBinding ext.url d.binding with
    | error e => trivial
    | ok found =>
      cases found with
      | none => trivial
      | some b =>
        simp only [okOr_some, check, StoredPairingState.consistent, if_true, if_neg (hrevision b hfile),
          hconfig.reporterForActiveBinding]
        exact SameOutcome.refl _
  | active a =>
    unfold loadCurrentActiveBinding
    cases hfile : loadActiveBinding ext.url d.binding with
    | error e => trivial
    | ok found =>
      cases found with
      | none => trivial
      | some b =>
        by_cases hab : b = a.binding
        · subst hab
          simp only [bind, Except.bind, if_true, okOr_some, check, StoredPairingState.consistent, decide_true,
            if_neg (hrevision _ hfile), hconfig.reporterForActiveBinding]
          cases reporterForActiveBinding ext config' d a.binding with
          | error e => trivial
          | ok found =>
            cases found with
            | none => trivial
            | some s => exact SameOutcome.refl _
        · have hba : ¬ a.binding = b := fun h => hab h.symm
          simp only [bind, Except.bind, if_neg hab, okOr_some, check, StoredPairingState.consistent, decide_eq_true_eq,
            if_neg hba]
          trivial

/-- A paired directory. -/
theorem refreshReporterSnapshot_agrees_paired :
    let d := Tx.last Disk.empty ((persistActiveCredentials sampleServer (samplePending 1) (uuidOf 9)
      (sampleInputs 1)).writes (putPairing sampleServer.serde (.pending (samplePending 1)) Disk.empty))
    startupSnapshot sampleServer (sampleConfig false) (sampleInputs 2) d = .ok (some (sampleSnapshot 1 9)) ∧
      SameOutcome (startupSnapshot sampleServer (sampleConfig false) (sampleInputs 2) d)
        (refreshReporterSnapshot sampleServer (sampleConfig false) (uuidOf 2, uuidOf 7) d) := by
  intro d
  have hstate : loadState d.pairing = .ok (some (.active (((samplePending 1).activating (uuidOf 9)).active 0))) := by
    decide +kernel
  have hbinding : loadActiveBinding sampleServer.url d.binding =
      .ok (some ((samplePending 1).activating (uuidOf 9)).binding) := by
    decide +kernel
  have hstartup : startupSnapshot sampleServer (sampleConfig false) (sampleInputs 2) d =
      .ok (some (sampleSnapshot 1 9)) := by
    decide +kernel
  clear_value d
  have hrevision : ∀ b, loadActiveBinding sampleServer.url d.binding = .ok (some b) →
      b.revision ≠ (uuidOf 2, uuidOf 7) := by
    intro b hb
    have hnamed : ((samplePending 1).activating (uuidOf 9)).binding = b :=
      Option.some.inj (Except.ok.inj (hbinding.symm.trans hb))
    rw [← hnamed]
    decide +kernel
  have hphase : ∀ j, some (.active (((samplePending 1).activating (uuidOf 9)).active 0)) ≠
      some (StoredPairingState.activating j) := nofun
  obtain ⟨-, hsame⟩ := refreshReporterSnapshot_agrees sampleServer (sampleConfig false) (sampleConfig false)
    (sampleInputs 2) d (uuidOf 2, uuidOf 7) _ rfl hstate hphase hrevision
  exact ⟨hstartup, hsame⟩

end Xsoc
