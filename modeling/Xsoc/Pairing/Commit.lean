import Xsoc.Pairing.Credentials

/-!
# Committing an activation

The server's answer is first made durable as an `Activating` journal; the token, the identity, the binding and the
authorization follow, and `Active` last. All of it is idempotent, so whoever finds the journal can finish it.

* `commitActivatingUnlocked`, `finishActivatingUnlocked` : the commit;
* `persistActiveCredentials` : the journal and its commit; `recoverActivating` : the commit of a journal found;
* `Activating.stages` : the five states a commit passes through; `run_commitActivatingUnlocked` : it passes through
  them all exactly when the journal is `Committable`.
-/

set_option autoImplicit false

namespace Xsoc

open Durable

section

variable (ext : External)

/-- What a commit records of the authorization. -/
def pairingCompleted (i : Inputs) : LocalAuthState := ⟨.current, .authorized, "browser pairing completed", i.changedAt⟩

/-- `commit_activating_unlocked`. -/
def commitActivatingUnlocked (i : Inputs) (j : Activating) : StateTx PairingProgress := do
  Tx.ofExcept (validateStateVersion j.version)
  -- Validate all durable identity components before replacing any credential.
  Tx.ofExcept (validateActiveBinding ext.url j.binding)
  Tx.ofExcept (validateCurrentToken j.bearerSecret)
  writeFile .credential j.bearerSecret.toList (putCredential j.bearerSecret)
  writeFile .identity j.instanceId.text (putIdentity j.instanceId)
  persistActiveBindingUnlocked ext j.binding
  persistAuthStateUnlocked ext (pairingCompleted i)
  persistStateUnlocked ext (.active (j.active i.completedAt))
  pure (.active j.generation j.requestId j.instanceId j.reportEndpoint)

/-- `HostCredentials::replace`: commits the reloaded durable journal, never a stale caller's token. -/
def HostCredentials.replace (i : Inputs) (replacement : Activating) : StateTx Unit := do
  match ← Tx.read (fun d => loadState d.pairing) with
  | some (.activating current) =>
    if replacement.generation = current.generation ∧ replacement.requestId = current.requestId then do
      let _ ← commitActivatingUnlocked ext i current
      pure ()
    else Tx.throw .superseded
  | _ => Tx.throw .superseded

/-- `finish_activating_unlocked`. -/
def finishActivatingUnlocked (i : Inputs) (state : Activating) : StateTx PairingProgress := do
  HostCredentials.replace ext i state
  match ← Tx.read (fun d => loadState d.pairing) with
  | some active => pure (progressFromTerminal active)
  | none => Tx.throw (.message "credential rotation did not publish Active")

/-- The journal of an accepted activation. -/
def Pending.activating (p : Pending) (instanceId : Uuid) : Activating :=
  ⟨.current, p.generation, p.requestId, p.activationUrl, p.expiresAt, p.pollInterval, instanceId, p.pairingEndpoint,
    p.reportEndpoint, p.bearerSecret⟩

/-- `persist_active_credentials`, under the lock it takes. -/
def persistActiveCredentials (pending : Pending) (instanceId : Uuid) (i : Inputs) : StateTx PairingProgress := do
  ensurePendingIsCurrent pending.generation pending.requestId pending.pairingEndpoint pending.reportEndpoint
    pending.pollingSecret
  persistStateUnlocked ext (.activating (pending.activating instanceId))
  finishActivatingUnlocked ext i (pending.activating instanceId)

/-- `recover_activating`, under the lock it takes. -/
def recoverActivating (expected : Activating) (i : Inputs) : StateTx PairingProgress := do
  match ← Tx.read (fun d => loadState d.pairing) with
  | some (.activating current) =>
    if current.generation = expected.generation ∧ current.requestId = expected.requestId then
      finishActivatingUnlocked ext i current
    else Tx.throw .superseded
  | some (.active a) =>
    if a.generation = expected.generation ∧ a.requestId = expected.requestId then
      pure (.active a.generation a.requestId a.instanceId a.reportEndpoint)
    else Tx.throw .superseded
  | _ => Tx.throw .superseded

end

/-! ## The stages of a commit -/

section

variable (ext : External)

/-- Write `n` of the commit of `j`: token, identity, binding, authorization, and `Active` last. -/
def Activating.put (j : Activating) (i : Inputs) : Nat → Disk → Disk
  | 0 => putCredential j.bearerSecret
  | 1 => putIdentity j.instanceId
  | 2 => putBinding j.binding
  | 3 => putAuth ext.serde (pairingCompleted i)
  | _ => putPairing ext.serde (.active (j.active i.completedAt))

/-- The state after the first `n` writes of the commit of `j`. -/
def Activating.stage (j : Activating) (i : Inputs) (d : Disk) : Nat → Disk
  | 0 => d
  | n + 1 => j.put ext i n (j.stage i d n)

/-- The five states a commit makes durable. -/
def Activating.stages (j : Activating) (i : Inputs) (d : Disk) : List Disk :=
  [j.stage ext i d 1, j.stage ext i d 2, j.stage ext i d 3, j.stage ext i d 4, j.stage ext i d 5]

/-- Everything a commit checks of its journal: the binding, the token, and the budgets of the files that grow with
it. -/
structure Activating.Committable (j : Activating) : Prop where
  version : j.version = .current
  binding : validateActiveBinding ext.url j.binding = .ok ()
  token : validateCurrentToken j.bearerSecret = .ok ()
  bindingFits : byteLen j.binding.render ≤ StateFile.maxBytes .binding
  activeFits : ∀ t, byteLen ((StoredPairingState.active (j.active t)).render ext.serde) ≤ StateFile.maxBytes .pairing

end

variable {ext : External}

theorem run_writeFile {file : StateFile} {value : List Char} (hfit : fits file value) (put : Disk → Disk) (d : Disk) :
    writeFile file value put d = ([put d], .ok ()) := by
  unfold writeFile
  rw [Tx.run_bind_ok (show (Tx.ensure (fits file value) (.io .invalidInput) : StateTx Unit) d = ([], .ok ()) from by
    rw [Tx.run_ensure, if_pos hfit])]
  rfl

theorem run_writeFile_error {file : StateFile} {value : List Char} (hfit : ¬ fits file value) (put : Disk → Disk)
    (d : Disk) : writeFile file value put d = ([], .error (.io .invalidInput)) := by
  unfold writeFile
  rw [Tx.run_bind, Tx.run_ensure, if_neg hfit]

theorem fits_render {file : StateFile} {fields : List (String × List Char)}
    (h : byteLen (Json.prettyObject fields) ≤ file.maxBytes) :
    fits file (Json.prettyObject fields) := by
  rw [fits, Json.trim_prettyObject]
  exact ⟨Json.length_prettyObject_pos _, h⟩

theorem run_persistStateUnlocked {state : StoredPairingState}
    (h : byteLen (state.render ext.serde) ≤ StateFile.maxBytes .pairing) (d : Disk) :
    persistStateUnlocked ext state d = ([putPairing ext.serde state d], .ok ()) := by
  have hfit : fits .pairing (state.render ext.serde) := fits_render h
  unfold persistStateUnlocked
  rw [Tx.run_bind, Tx.run_ensure, if_pos h]
  simp only [Tx.run_mapError, run_writeFile hfit, Tx.last]
  rfl

/-- A journal that does not fit is refused before the file is touched. -/
theorem run_persistStateUnlocked_error {state : StoredPairingState}
    (h : ¬ byteLen (state.render ext.serde) ≤ StateFile.maxBytes .pairing) (d : Disk) :
    persistStateUnlocked ext state d = ([], .error (.message "serialized secret exceeds its byte budget")) := by
  unfold persistStateUnlocked
  rw [Tx.run_bind, Tx.run_ensure, if_neg h]

theorem run_persistActiveBindingUnlocked {binding : ActiveBinding}
    (hv : validateActiveBinding ext.url binding = .ok ())
    (h : byteLen binding.render ≤ StateFile.maxBytes .binding) (d : Disk) :
    persistActiveBindingUnlocked ext binding d = ([putBinding binding d], .ok ()) := by
  have hfit : fits .binding binding.render := fits_render h
  unfold persistActiveBindingUnlocked
  rw [Tx.run_bind, hv]
  simp only [Tx.run_ofExcept, Tx.run_mapError, run_writeFile hfit, Tx.last]
  rfl

theorem run_persistActiveBindingUnlocked_error {binding : ActiveBinding}
    (hv : validateActiveBinding ext.url binding = .ok ())
    (h : ¬ byteLen binding.render ≤ StateFile.maxBytes .binding) (d : Disk) :
    persistActiveBindingUnlocked ext binding d =
      ([], .error (.context "failed to persist active binding" (.io .invalidInput))) := by
  have hfit : ¬ fits .binding binding.render := by
    intro hfit
    rw [fits, ActiveBinding.render, Json.trim_prettyObject] at hfit
    exact h hfit.2
  unfold persistActiveBindingUnlocked
  rw [Tx.run_bind, hv]
  simp only [Tx.run_ofExcept, Tx.run_mapError, run_writeFile_error hfit]
  rfl

/-! ## Sizes -/

theorem fits_credential {token : String} (h : validateCurrentToken token = .ok ()) :
    fits .credential token.toList := by
  rw [fits, trim_of_validateCurrentToken h, byteLen_of_validateCurrentToken h]
  decide

theorem fits_identity (u : Uuid) : fits .identity u.text := by
  rw [fits, Uuid.trim_text, Uuid.byteLen_text]
  decide

theorem byteLen_stamp_le (serde : Serde) (t : DateTime) : byteLen (StoredPairingState.stamp serde t) ≤ 37 := by
  have hshort := (serde.rfc3339 t).short
  rw [StoredPairingState.stamp, Json.byteLen_quote_of_plain (serde.rfc3339 t).plain]
  omega

theorem run_persistAuthStateUnlocked {auth : LocalAuthState} (h : byteLen (Json.text auth.reason) ≤ 1024) (d : Disk) :
    persistAuthStateUnlocked ext auth d = ([putAuth ext.serde auth d], .ok ()) := by
  have hsize : byteLen (auth.render ext.serde) ≤ StateFile.maxBytes .authorization := by
    have hstamp := byteLen_stamp_le ext.serde auth.changedAt
    have hstatus : byteLen (Json.text (LocalAuthState.statusText auth.status)) ≤ 64 := by
      cases auth.status <;> decide +kernel
    have hrest : byteLen "version".toList + byteLen (Json.text persistedStateFormat) + 8 +
        (byteLen "status".toList + 8) + (byteLen "reason".toList + 8) + (byteLen "changed_at".toList + 8) ≤ 200 := by
      decide +kernel
    rw [LocalAuthState.render, Json.byteLen_prettyObject]
    simp only [Json.fieldSize, List.map_cons, List.map_nil, List.sum_cons, List.sum_nil]
    change _ ≤ 16384
    omega
  unfold persistAuthStateUnlocked
  rw [Tx.run_mapError, LocalAuthState.render, run_writeFile (fits_render hsize)]
  rfl

theorem run_persistAuthStateUnlocked_pairingCompleted (i : Inputs) (d : Disk) :
    persistAuthStateUnlocked ext (pairingCompleted i) d = ([putAuth ext.serde (pairingCompleted i) d], .ok ()) := by
  apply run_persistAuthStateUnlocked
  have hreason : byteLen (Json.text "browser pairing completed") ≤ 1024 := by decide +kernel
  exact hreason

/-- The `Active` record of a journal is no larger than the journal: it drops the secret and the pairing endpoint. -/
theorem byteLen_active_le (j : Activating) (t : DateTime) (htoken : validateCurrentToken j.bearerSecret = .ok ()) :
    byteLen ((StoredPairingState.active (j.active t)).render ext.serde) ≤
      byteLen ((StoredPairingState.activating j).render ext.serde) := by
  have hstamp := byteLen_stamp_le ext.serde t
  have htok := byteLen_of_validateCurrentToken htoken
  have hquote := Json.le_byteLen_quote j.bearerSecret.toList
  have hkeys : byteLen (Json.text "active") = 8 ∧ byteLen (Json.text "activating") = 12 ∧
      byteLen "completed_at".toList = 12 ∧ byteLen "expires_at".toList = 10 ∧ byteLen "bearer_secret".toList = 13 := by
    decide +kernel
  simp only [StoredPairingState.render, StoredPairingState.fields, Json.byteLen_prettyObject, Json.fieldSize,
    Activating.active, Json.text, List.map_cons, List.map_nil, List.sum_cons, List.sum_nil] at *
  omega

/-! ## The run of a commit -/

/-- **A committable journal is committed by five writes, in order.** -/
theorem run_commitActivatingUnlocked {j : Activating} (hj : j.Committable ext) (i : Inputs) (d : Disk) :
    commitActivatingUnlocked ext i j d =
      (j.stages ext i d, .ok (.active j.generation j.requestId j.instanceId j.reportEndpoint)) := by
  have hversion : validateStateVersion j.version = .ok () := check_eq_ok.mpr hj.version
  unfold commitActivatingUnlocked
  simp only [Tx.run_bind, Tx.run_ofExcept, hversion, hj.binding, hj.token, run_writeFile (fits_credential hj.token),
    run_writeFile (fits_identity _), run_persistActiveBindingUnlocked hj.binding hj.bindingFits,
    run_persistAuthStateUnlocked_pairingCompleted, run_persistStateUnlocked (hj.activeFits i.completedAt), Tx.run_pure,
    Tx.last]
  rfl

end Xsoc
