import Xsoc.Pairing.Local

/-!
# What a reporter is made of

Every snapshot that is handed out belongs to one binding read under the lock, and pairs that binding's endpoint and
revision with the identity and the token on disk.

* `Bound` : the binding that an authorized directory names;
* `Handed` : a snapshot made of a bound directory; every function that hands a snapshot out makes it so.
-/

set_option autoImplicit false

namespace Xsoc

open Durable

theorem loadCurrentActiveBinding_eq_ok {ext : External} {f : File (Document ActiveBinding)}
    {expected b : ActiveBinding} (h : loadCurrentActiveBinding ext f expected = .ok b) :
    loadActiveBinding ext.url f = .ok (some expected) ∧ b = expected := by
  unfold loadCurrentActiveBinding at h
  obtain ⟨loaded, hload, h⟩ := Except.bind_eq_ok.mp h
  match loaded, h with
  | some binding, h =>
    by_cases heq : binding = expected
    · simp only [if_pos heq] at h
      cases h
      exact ⟨heq ▸ hload, heq⟩
    · simp [if_neg heq] at h

/-! ## The bound credential -/

/-- The directory is authorized, no commit is under way, and `b` is the binding it names. -/
structure Bound (ext : External) (d : Disk) (b : ActiveBinding) : Prop where
  authorized : ∃ auth, localAuthStateUnlocked d.authorization = .ok auth ∧ isAuthorized auth = true
  journal : ∃ state, loadState d.pairing = .ok (some state) ∧ (∀ j, state ≠ .activating j) ∧
    ∀ a, state = .active a → a.binding = b
  binding : loadActiveBinding ext.url d.binding = .ok (some b)

/-- The snapshot `s` was made of the directory `d`. -/
def Handed (ext : External) (config : ClientConfig) (d : Disk) (s : ReporterSnapshot) : Prop :=
  ∃ b, Bound ext d b ∧ reporterForActiveBinding ext config d b = .ok (some s)

variable {ext : External} {config : ClientConfig} {d : Disk} {b : ActiveBinding} {s : ReporterSnapshot}

theorem Bound.hostCredentials_binding (hb : Bound ext d b) : HostCredentials.binding ext.url d = .ok (some b) := by
  obtain ⟨state, hload, hphase, hactive⟩ := hb.journal
  unfold HostCredentials.binding
  rw [hload]
  match state, hphase, hactive with
  | .activating j, hphase, _ => exact absurd rfl (hphase j)
  | .active a, _, hactive =>
    have hab := hactive a rfl
    simp [bind, Except.bind, hb.binding, hab]
  | .creating _, _, _ | .pending _, _, _ | .denied _, _, _ | .expired _, _, _ => exact hb.binding

/-- What the credential store loads. -/
theorem HostCredentials.load_eq_ok {c : CredentialSnapshot} (hl : HostCredentials.load ext.url d = .ok (some c)) :
    ∃ b, HostCredentials.binding ext.url d = .ok (some b) ∧ identityFromState d.identity = .ok c.identity ∧
      c.identity = identityOf b.instanceId ∧ c.revision = b.revision ∧ readSecret d.credential = .ok c.secret := by
  unfold HostCredentials.load at hl
  obtain ⟨auth, -, hl⟩ := Except.bind_eq_ok.mp hl
  by_cases hauth : isAuthorized auth = false
  · rw [if_pos hauth] at hl; cases hl
  rw [if_neg hauth] at hl
  obtain ⟨found, hfound, hl⟩ := Except.bind_eq_ok.mp hl
  obtain ⟨b, hb, hl⟩ := Except.bind_eq_ok.mp hl
  obtain ⟨identity, hid, hl⟩ := Except.bind_eq_ok.mp hl
  obtain ⟨expected, hexp, hl⟩ := Except.bind_eq_ok.mp hl
  obtain ⟨_, hmatch, hl⟩ := Except.bind_eq_ok.mp hl
  rw [forInstance_toString] at hexp
  have hsame : identity = identityOf b.instanceId := by
    rw [check_eq_ok.mp hmatch]; exact (Except.ok.inj hexp).symm
  cases hsecret : readSecret d.credential with
  | error e =>
    rw [hsecret] at hl
    by_cases hmissing : e.io? = some .notFound
    · simp [hmissing] at hl
    · simp [hmissing] at hl
  | ok secret =>
    rw [hsecret] at hl
    cases hl
    exact ⟨b, by rw [hfound, okOr_eq_ok.mp hb], hid, hsame, rfl, rfl⟩

/-- A reporter of a binding carries the identity, the token and the revision on disk, and the binding's endpoint. -/
theorem reporterForActiveBinding_eq_ok (h : reporterForActiveBinding ext config d b = .ok (some s))
    (hb : HostCredentials.binding ext.url d = .ok (some b)) :
    identityFromState d.identity = .ok (identityOf b.instanceId) ∧ s.reporter.identity = identityOf b.instanceId ∧
      s.host.id = b.instanceId.toString ∧ readSecret d.credential = .ok s.reporter.token ∧
      s.reporter.credentialRevision = b.revision ∧ s.reporter.endpoint = b.reportEndpoint ∧
      s.reportEndpoint = b.reportEndpoint := by
  unfold reporterForActiveBinding at h
  obtain ⟨host, hhost, h⟩ := Except.bind_eq_ok.mp h
  obtain ⟨durable, hdurable, h⟩ := Except.bind_eq_ok.mp h
  obtain ⟨bound, hbound, h⟩ := Except.bind_eq_ok.mp h
  obtain ⟨_, hmatch, h⟩ := Except.bind_eq_ok.mp h
  obtain ⟨reporter, hrep, h⟩ := Except.bind_eq_ok.mp h
  rw [forInstance_toString] at hbound
  cases hbound
  unfold Reporter.forExistingCredential at hrep
  obtain ⟨credential, hload, hrep⟩ := Except.bind_eq_ok.mp hrep
  match credential, hload, hrep with
  | none, _, hrep => cases hrep; cases h
  | some c, hload, hrep =>
    obtain ⟨_, -, hrep⟩ := Except.bind_eq_ok.mp hrep
    obtain ⟨r, hr, hrep⟩ := Except.bind_eq_ok.mp hrep
    cases hrep
    cases h
    obtain ⟨b', hb', hid, hidb, hrev, hsecret⟩ := HostCredentials.load_eq_ok hload
    cases hb.symm.trans hb'
    unfold Reporter.withCredential at hr
    obtain ⟨_, -, hr⟩ := Except.bind_eq_ok.mp hr
    obtain ⟨_, -, hr⟩ := Except.bind_eq_ok.mp hr
    obtain ⟨_, -, hr⟩ := Except.bind_eq_ok.mp hr
    cases hr
    unfold loadHostIdentityFrom at hhost
    obtain ⟨identity, hidentity, hhost⟩ := Except.bind_eq_ok.mp hhost
    cases hhost
    have hsame : identity = identityOf b.instanceId := (Except.ok.inj (hidentity.symm.trans hid)).trans hidb
    exact ⟨hid.trans (by rw [hidb]), hidb, by rw [hsame]; rfl, hsecret, hrev, rfl, rfl⟩

/-! ## Who hands snapshots out -/

theorem handed_of_reporterSnapshotForCurrentActiveState
    (h : reporterSnapshotForCurrentActiveState ext config d = .ok (some s)) : Handed ext config d s := by
  unfold reporterSnapshotForCurrentActiveState at h
  obtain ⟨auth, hauth, h⟩ := Except.bind_eq_ok.mp h
  by_cases hok : isAuthorized auth = false
  · rw [if_pos hok] at h; cases h
  rw [if_neg hok] at h
  obtain ⟨state, hload, h⟩ := Except.bind_eq_ok.mp h
  match state, hload, h with
  | some (.active a), hload, h =>
    obtain ⟨binding, hbinding, h⟩ := Except.bind_eq_ok.mp h
    obtain ⟨hfile, rfl⟩ := loadCurrentActiveBinding_eq_ok hbinding
    have hauth' : isAuthorized auth = true := by simpa using hok
    exact ⟨a.binding, ⟨⟨auth, hauth, hauth'⟩, ⟨_, hload, by simp, by rintro _ ⟨⟩; rfl⟩, hfile⟩, h⟩

theorem handed_of_existingReporter {state : Option StoredPairingState} (hload : loadState d.pairing = .ok state)
    (h : existingReporter ext config d state = .ok (some s)) : Handed ext config d s := by
  unfold existingReporter at h
  obtain ⟨auth, hauth, h⟩ := Except.bind_eq_ok.mp h
  by_cases hok : isAuthorized auth = false
  · rw [if_pos hok] at h; cases h
  rw [if_neg hok] at h
  have hauth' : isAuthorized auth = true := by simpa using hok
  match state, hload, h with
  | some (.creating _), hload, h | some (.pending _), hload, h | some (.denied _), hload, h
  | some (.expired _), hload, h =>
    obtain ⟨found, hfile, h⟩ := Except.bind_eq_ok.mp h
    match found, hfile, h with
    | some b, hfile, h => exact ⟨b, ⟨⟨auth, hauth, hauth'⟩, ⟨_, hload, by simp, by simp⟩, hfile⟩, h⟩

theorem handed_of_refreshReporterSnapshot {revision : Revision}
    (h : refreshReporterSnapshot ext config revision d = .ok (some s)) :
    ∃ b, Bound ext d b ∧ b.revision ≠ revision ∧ reporterForActiveBinding ext config d b = .ok (some s) := by
  unfold refreshReporterSnapshot at h
  obtain ⟨auth, hauth, h⟩ := Except.bind_eq_ok.mp h
  by_cases hok : isAuthorized auth = false
  · rw [if_pos hok] at h; cases h
  rw [if_neg hok] at h
  have hauth' : isAuthorized auth = true := by simpa using hok
  obtain ⟨state, hload, h⟩ := Except.bind_eq_ok.mp h
  match state, hload, h with
  | some (.creating _), hload, h | some (.pending _), hload, h | some (.denied _), hload, h
  | some (.expired _), hload, h | some (.active _), hload, h =>
    obtain ⟨found, hfile, hrest⟩ := Except.bind_eq_ok.mp h
    obtain ⟨b, hb, hrest⟩ := Except.bind_eq_ok.mp hrest
    obtain ⟨_, hcons, hmade⟩ := Except.bind_eq_ok.mp hrest
    rw [okOr_eq_ok.mp hb] at hfile
    by_cases hrev : b.revision = revision
    · rw [if_pos hrev] at hmade; cases hmade
    rw [if_neg hrev] at hmade
    refine ⟨b, ⟨⟨auth, hauth, hauth'⟩, ⟨_, hload, by simp, ?_⟩, hfile⟩, hrev, hmade⟩
    intro a ha
    cases ha <;> simpa [StoredPairingState.consistent] using check_eq_ok.mp hcons

theorem handed_of_activateReporterSnapshot {generation requestId instanceId : Uuid} {reportEndpoint : String}
    (h : activateReporterSnapshot ext config generation requestId instanceId reportEndpoint d = .ok s) :
    Handed ext config d s := by
  unfold activateReporterSnapshot at h
  obtain ⟨auth, hauth, h⟩ := Except.bind_eq_ok.mp h
  obtain ⟨_, hauth', h⟩ := Except.bind_eq_ok.mp h
  obtain ⟨expected, hexp, h⟩ := Except.bind_eq_ok.mp h
  obtain ⟨binding, hbinding, h⟩ := Except.bind_eq_ok.mp h
  obtain ⟨found, hfound, hmade⟩ := Except.bind_eq_ok.mp h
  obtain ⟨hfile, rfl⟩ := loadCurrentActiveBinding_eq_ok hbinding
  unfold ensureActiveIsCurrent at hexp
  obtain ⟨state, hload, hexp⟩ := Except.bind_eq_ok.mp hexp
  match state, hload, hexp with
  | some (.active a), hload, hexp =>
    simp only at hexp
    split at hexp
    · cases hexp
      rw [okOr_eq_ok.mp hmade] at hfound
      exact ⟨a.binding, ⟨⟨auth, hauth, check_eq_ok.mp hauth'⟩, ⟨_, hload, by simp, by rintro _ ⟨⟩; rfl⟩, hfile⟩,
        hfound⟩
    · cases hexp

end Xsoc
