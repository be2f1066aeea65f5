import Xsoc.Contracts

/-!
# What each call promises

`Promise` says of each call what its answer tells about the history between its start and its return;
`program_wp` proves it of the program of every call, and `sound_of_reach` carries both to every reachable world.

* `StatusOutcome` : what the lock-free status may have read, and when;
* `Recovered`, `Applied`, `Classified` : the steps of the running service.
-/

set_option autoImplicit false

namespace Xsoc

open Durable

section

variable (ext : External)

/-! ## Status -/

/-- What `local_status` returns, and the instants of its three reads. -/
inductive StatusOutcome (h k : Chronicle) : Except Error LocalPairingStatus → Prop
  | failed (e : Error) (hmismatch : e ≠ activeBindingMismatch) (hmissing : e ≠ activeBindingMissing) :
      StatusOutcome h k (.error e)
  | inactive (progress : Option PairingProgress) : StatusOutcome h k (.ok ⟨progress, none⟩)
  | read (a a' : Active) (m₁ m₂ m₃ : Chronicle) (h₁ : h ≤ m₁) (h₂ : m₁ ≤ m₂) (h₃ : m₂ ≤ m₃) (h₄ : m₃ ≤ k)
      (hfirst : loadState m₁.now.pairing = .ok (some (.active a)))
      (hlast : loadState m₃.now.pairing = .ok (some (.active a'))) (hsame : a'.binding = a.binding) :
      StatusOutcome h k (statusOf a (loadActiveBinding ext.url m₂.now.binding))

/-! ## The running service -/

/-- A snapshot that `recover` probed was refreshed at some instant of the probe. -/
def Recovered (config : ClientConfig) (revision : Revision) (h k : Chronicle) (probe : HostRecoveryProbe) : Prop :=
  ∀ s, probe = .credential s →
    ∃ m, h ≤ m ∧ m ≤ k ∧ refreshReporterSnapshot ext config revision m.now = .ok (some s)

/-- What `apply_recovery` leaves of the driver: nothing but a notice when it fails before it adopts, and the adoption
of a snapshot that was probed, or is refreshed at some instant of the step. -/
inductive Applied (driver : HostDeliveryDriver) (probe : HostRecoveryProbe) (h k : Chronicle) :
    HostDeliveryDriver → Except Error RecoveryUpdate → Prop
  | failed (progress : Option PairingProgress) (e : Error) :
      Applied driver probe h k (driver.notice progress) (.error e)
  | probed (s : ReporterSnapshot) (progress : Option PairingProgress) (hprobe : probe = .credential s) :
      Applied driver probe h k
        ((driver.notice progress).adopt (HostDeliveryDriver.pollAfter progress) (some s)).1
        ((driver.notice progress).adopt (HostDeliveryDriver.pollAfter progress) (some s)).2
  | refreshed (m : Chronicle) (snapshot : Option ReporterSnapshot) (progress : Option PairingProgress) (hm : h ≤ m)
      (hk : m ≤ k) (hfresh : refreshReporterSnapshot ext driver.config driver.reporter.credentialRevision m.now =
        .ok snapshot) :
      Applied driver probe h k
        ((driver.notice progress).adopt (HostDeliveryDriver.pollAfter progress) snapshot).1
        ((driver.notice progress).adopt (HostDeliveryDriver.pollAfter progress) snapshot).2

/-- The authorization of `revision` was withdrawn at an instant at which it was the bound one, or it was not bound. -/
inductive Withdrawn (revision : Revision) (h k : Chronicle) : Bool → Prop
  | applied (m : Chronicle) (b : ActiveBinding) (hm : h ≤ m) (hk : m ≤ k)
      (hbound : HostCredentials.binding ext.url m.now = .ok (some b)) (hrev : b.revision = revision) :
      Withdrawn revision h k true
  | superseded (m : Chronicle) (hm : h ≤ m) (hk : m ≤ k)
      (hother : ∀ b, HostCredentials.binding ext.url m.now = .ok (some b) → b.revision ≠ revision) :
      Withdrawn revision h k false

/-! ## The promise of each call -/

/-- A snapshot was made of the directory at some instant of the call. -/
def HandedBetween (config : ClientConfig) (h k : Chronicle) (s : ReporterSnapshot) : Prop :=
  ∃ m, h ≤ m ∧ m ≤ k ∧ Handed ext config m.now s

/-- What the answer of a call tells. -/
def Promise : Call → Chronicle → Answer → List (Request × Reply) → Chronicle → Prop
  | .startOrResume config host mode, h, .session (.ok s), _, k =>
    StoredSession h k s ∧ ResumedOrBegun ext config host (.startOrResume config host mode) h k s.generation
  | .pollExisting config, h, .progress (.ok r), tr, k =>
    (tr = [] ∨ Settled ext (.pollExisting config) h k tr r) ∧ ∀ s, r = some (.waiting s) → StoredSession h k s
  | .activatePendingWithCode _ generation requestId _, h, .activated (.ok r), _, k =>
    ∃ m, h ≤ m ∧ m ≤ k ∧ ((∃ instanceId, r = some instanceId ∧ Leads m.now generation requestId instanceId) ∨
      ∃ p activated, Seen m (.pending p) ∧ p.generation = generation ∧ p.requestId = requestId ∧
        Confirms m.now p activated r)
  | .existingReporterForRun config, h, .snapshot (.ok (some s)), _, k => HandedBetween ext config h k s
  | .reporterSnapshotForCurrentActiveState config, h, .snapshot (.ok (some s)), _, k => HandedBetween ext config h k s
  | .refreshReporterSnapshot config _, h, .snapshot (.ok (some s)), _, k => HandedBetween ext config h k s
  | .activateReporterSnapshot config _ _ _ _, h, .reporter (.ok s), _, k => HandedBetween ext config h k s
  | .prepareReporterTurn config, h, .snapshot (.ok (some s)), _, k => HandedBetween ext config h k s
  | .markReauthRequiredIfCurrent revision _, h, .flag (.ok r), _, k => Withdrawn ext revision h k r
  | .localStatus, h, .status r, _, k => StatusOutcome ext h k r
  | .recover config revision, h, .probe (.ok probe), _, k => Recovered ext config revision h k probe
  | .applyRecovery driver probe, h, .applied driver' r, _, k => Applied ext driver probe h k driver' r
  | .classifyFailure revision error, h, .response r, _, k =>
    (r = .retryAfterRecovery → error.isUnauthorized = true ∧ Withdrawn ext revision h k false)
  | _, _, _, _, _ => True

end

/-! ## Contracts of the remaining operations -/

section

variable {ext : External} {lossy : Chronicle → Prop} {init : Disk → Prop} {call : Call}
  {tr : List (Request × Reply)} {h : Chronicle}

/-- A transaction that only reads. -/
theorem wp_read {α : Type} {f : Disk → Except Error α}
    {Q : Except Error α → List (Request × Reply) → Chronicle → Prop}
    (hany : ∀ k, h ≤ k → Q (f k.now) tr k) (herr : ∀ e k, h ≤ k → Q (.error e) tr k) :
    Op.wp (guarantee ext lossy init) call (transaction (fun _ => Tx.read f)) tr h Q := by
  refine wp_transaction ?_ herr
  intro k hk _ i _
  rw [Tx.wp_read]
  exact hany k hk

theorem wp_peekFile {α : Type} {context : String} {f : Disk → Except Error α}
    {Q : Except Error α → List (Request × Reply) → Chronicle → Prop}
    (hok : ∀ k, h ≤ k → Q (f k.now) tr k)
    (herr : ∀ k, h ≤ k → Q (.error (.context context (.io (.refused .other)))) tr k) :
    Op.wp (guarantee ext lossy init) call (peekFile context f) tr h Q := by
  unfold peekFile
  rw [Op.wp_peek]
  exact fun k hk _ => ⟨fun _ => herr k hk, hok k hk⟩

/-- Loading the journal never fails with an error about the active binding. -/
theorem loadState_error_ne {f : File (Document StoredPairingState)} {e : Error} (h : loadState f = .error e) :
    e ≠ activeBindingMismatch ∧ e ≠ activeBindingMissing := by
  have hcompat : ∀ c : PairingStateCompatibilityError,
      Error.compatibility c ≠ activeBindingMismatch ∧ Error.compatibility c ≠ activeBindingMissing :=
    fun c => ⟨Error.noConfusion, Error.noConfusion⟩
  unfold loadState at h
  split at h
  · cases h
  · cases h
    simp [activeBindingMismatch, activeBindingMissing]
  · rename_i contents _
    cases hd : decodePairingDocument "pairing-state" contents.reading with
    | error e' =>
      rw [hd] at h
      cases h
      unfold decodePairingDocument at hd
      split at hd
      · cases hd; exact hcompat _
      · cases hd; exact hcompat _
      · split at hd
        · cases hd; exact hcompat _
        · unfold okOr at hd
          split at hd
          · cases hd
          · cases hd; exact hcompat _
    | ok state =>
      rw [hd] at h
      cases hnil : state.generation.isNil with
      | true =>
        simp only [bind, Except.bind, validateStateVersion_eq, check, hnil] at h
        cases h
        exact hcompat _
      | false =>
        simp [bind, Except.bind, check, hnil] at h

theorem wp_localStatusAttempts {Q : Except Error LocalPairingStatus → List (Request × Reply) → Chronicle → Prop}
    (hQ : ∀ r k, h ≤ k → StatusOutcome ext h k r → Q r tr k) (attempts : Nat) : ∀ k, h ≤ k →
    Op.wp (guarantee ext lossy init) call (localStatusAttempts ext attempts) tr k Q := by
  induction attempts with
  | zero =>
    intro k hk
    exact hQ _ k hk (.failed _ (by simp [activeBindingMismatch]) (by simp [activeBindingMissing]))
  | succ n ih =>
    intro k hk
    unfold localStatusAttempts
    rw [Op.wp_bind, peekState]
    have hio : ∀ (context : String) (k : Chronicle), h ≤ k → context ≠ "active binding is missing; pair xsoc again" →
        context ≠ "active binding does not match the current Active pairing state" →
        Q (.error (.context context (.io (.refused .other)))) tr k := by
      intro context k hk _ _
      exact hQ _ k hk (.failed _ (by simp [activeBindingMismatch, corruptPairingState])
        (by simp [activeBindingMissing, corruptPairingState]))
    refine wp_peekFile ?_ (fun k' hk' => hio _ k' (hk.trans hk') (by decide) (by decide))
    intro m₁ hm₁
    have hl₁ := hk.trans hm₁
    cases hfirst : loadState m₁.now.pairing with
    | error e =>
      obtain ⟨hmismatch, hmissing⟩ := loadState_error_ne hfirst
      exact hQ _ m₁ hl₁ (.failed e hmismatch hmissing)
    | ok state =>
      match state, hfirst with
      | some (.active a), hfirst =>
        simp only
        rw [Op.wp_bind, Op.wp_handle]
        have hlast : ∀ binding m₂, m₁ ≤ m₂ →
            (binding = loadActiveBinding ext.url m₂.now.binding ∨ ∃ e, binding = .error (.context
              "failed to read active binding active-binding.json" (.io e))) →
            Op.wp (guarantee ext lossy init) call (peekState >>= fun current =>
              if isActiveWith current a.binding = false then localStatusAttempts ext n
              else Op.ofExcept (statusOf a binding)) tr m₂ Q := by
          intro binding m₂ hm₂ hbinding
          have hl₂ := hl₁.trans hm₂
          rw [Op.wp_bind, peekState]
          refine wp_peekFile ?_ (fun k' hk' => hio _ k' (hl₂.trans hk') (by decide) (by decide))
          intro m₃ hm₃
          have hl₃ := hl₂.trans hm₃
          cases hthird : loadState m₃.now.pairing with
          | error e =>
            obtain ⟨hmismatch, hmissing⟩ := loadState_error_ne hthird
            exact hQ _ m₃ hl₃ (.failed e hmismatch hmissing)
          | ok current =>
            simp only
            by_cases hactive : isActiveWith current a.binding = false
            · rw [if_pos hactive]
              exact ih m₃ hl₃
            rw [if_neg hactive]
            rcases hbinding with rfl | ⟨e, rfl⟩
            · match current, hactive, hthird with
              | some (.active a'), hactive, hthird =>
                have hsame : a'.binding = a.binding := by simpa [isActiveWith] using hactive
                exact hQ _ m₃ hl₃ (.read a a' m₁ m₂ m₃ hl₁ hm₂ hm₃ (le_refl m₃) hfirst hthird hsame)
              | some (.creating _), hactive, _ | some (.pending _), hactive, _ | some (.activating _), hactive, _
              | some (.denied _), hactive, _ | some (.expired _), hactive, _ | none, hactive, _ =>
                exact absurd rfl hactive
            · refine hQ _ m₃ hl₃ (.failed _ ?_ ?_)
              · simp [activeBindingMismatch]
              · simp [activeBindingMissing]
        refine wp_peekFile ?_ ?_
        · intro m₂ hm₂
          simp only [Op.wp_pure]
          exact hlast _ m₂ hm₂ (Or.inl rfl)
        · intro m₂ hm₂
          simp only [Op.wp_pure]
          exact hlast _ m₂ hm₂ (Or.inr ⟨_, rfl⟩)
      | none, _ | some (.creating _), _ | some (.pending _), _ | some (.activating _), _ | some (.denied _), _
      | some (.expired _), _ => exact hQ _ m₁ hl₁ (.inactive _)

theorem wp_recover {config : ClientConfig} {revision : Revision}
    {Q : Except Error HostRecoveryProbe → List (Request × Reply) → Chronicle → Prop}
    (hok : ∀ probe tr' k, h ≤ k → Recovered ext config revision h k probe → Q (.ok probe) tr' k)
    (herr : ∀ e tr' k, h ≤ k → Q (.error e) tr' k) :
    Op.wp (guarantee ext lossy init) call (HostDeliveryDriver.recover ext config revision) tr h Q := by
  unfold HostDeliveryDriver.recover
  rw [Op.wp_bind]
  refine wp_read ?_ (fun e k hk => herr e tr k hk)
  intro m hm
  cases hfresh : refreshReporterSnapshot ext config revision m.now with
  | error e => exact herr e tr m hm
  | ok snapshot =>
    cases snapshot with
    | some s =>
      simp only [Op.wp_pure]
      refine hok _ tr m hm ?_
      rintro s' ⟨⟩
      exact ⟨m, hm, le_refl m, hfresh⟩
    | none =>
      simp only
      rw [Op.wp_bind]
      refine wp_pollExisting ?_ (fun e tr' k hk => herr e tr' k (hm.trans hk))
      intro r tr' k hk _ _
      simp only [Op.wp_pure]
      exact hok _ tr' k (hm.trans hk) (by rintro s ⟨⟩)

theorem wp_applyRecovery {driver : HostDeliveryDriver} {probe : HostRecoveryProbe}
    {Q : HostDeliveryDriver × Except Error RecoveryUpdate → List (Request × Reply) → Chronicle → Prop}
    (hQ : ∀ driver' r k, h ≤ k → Applied ext driver probe h k driver' r → Q (driver', r) tr k) :
    Prog.wp (guarantee ext lossy init) call (HostDeliveryDriver.applyRecovery ext driver probe) tr h Q := by
  have hnone : driver.notice none = driver := rfl
  unfold HostDeliveryDriver.applyRecovery
  cases probe with
  | credential s =>
    refine (Prog.wp_bind _ _ _).mpr ?_
    change Op.wp (guarantee ext lossy init) call localProgress tr h _
    unfold localProgress peekState
    rw [Op.wp_bind]
    refine wp_peekFile ?_ ?_
    · intro k hk
      cases loadState k.now.pairing with
      | error e => exact hQ _ _ k hk (hnone ▸ .failed none e)
      | ok state =>
        simp only [Op.wp_pure]
        exact hQ _ _ k hk (.probed s _ rfl)
    · intro k hk
      exact hQ _ _ k hk (hnone ▸ .failed none _)
  | pairing progress =>
    refine (Prog.wp_bind _ _ _).mpr ?_
    refine wp_read ?_ (fun e k hk => hQ _ _ k hk (.failed progress e))
    intro m hm
    cases hfresh : refreshReporterSnapshot ext driver.config driver.reporter.credentialRevision m.now with
    | error e => exact hQ _ _ m hm (.failed progress e)
    | ok snapshot => exact hQ _ _ m hm (.refreshed m snapshot progress hm (le_refl m) hfresh)

/-! ## Every call -/

/-- A reader that hands out snapshots, under the lock. -/
theorem wp_handed {config : ClientConfig} {f : Disk → Except Error (Option ReporterSnapshot)}
    {Q : Except Error (Option ReporterSnapshot) → List (Request × Reply) → Chronicle → Prop}
    (hf : ∀ d s, f d = .ok (some s) → Handed ext config d s)
    (hok : ∀ r k, h ≤ k → (∀ s, r = .ok (some s) → HandedBetween ext config h k s) → Q r tr k) :
    Op.wp (guarantee ext lossy init) call (transaction (fun _ => Tx.read f)) tr h Q := by
  refine wp_read ?_ (fun e k hk => hok _ k hk (by simp))
  intro k hk
  exact hok _ k hk (fun s hs => ⟨k, hk, le_refl k, hf k.now s hs⟩)

theorem wp_withdraw {revision : Revision} {reason : String}
    {Q : Except Error Bool → List (Request × Reply) → Chronicle → Prop} (hcall : call.revokes revision)
    (hok : ∀ r k, h ≤ k → Withdrawn ext revision h k r → Q (.ok r) tr k) (herr : ∀ e k, h ≤ k → Q (.error e) tr k) :
    Op.wp (guarantee ext lossy init) call (transaction (markReauthRequiredIfCurrent ext revision reason)) tr h Q := by
  refine wp_transaction ?_ herr
  intro k hk _ i _
  refine wp_markReauthRequired hcall ?_ ?_ (fun e => herr e k hk)
  · intro b hbound hrev
    have hpush := History.le_push k
      ⟨putAuth ext.serde ⟨.current, .reauthorizationRequired, reason, i.changedAt⟩ k.now, ⟨call, tr, i⟩⟩
    exact hok true _ (hk.trans hpush) (.applied k b hk hpush hbound hrev)
  · intro hother
    exact hok false k hk (.superseded k hk (le_refl k) hother)

/-- **Every program keeps the guarantee, and its promise.** -/
theorem program_wp (a : Call) (h : Chronicle) :
    (program ext a).wp (guarantee ext lossy init) a [] h (Promise ext a h) := by
  cases a with
  | startOrResume config host mode =>
    refine (Prog.wp_bind _ _ _).mpr ?_
    exact wp_startOrResume rfl (fun s tr' k _ hs hr => ⟨hs, hr⟩) (fun e tr' k _ => trivial)
  | pollExisting config =>
    refine (Prog.wp_bind _ _ _).mpr ?_
    exact wp_pollExisting (fun r tr' k _ hs hw => ⟨hs, hw⟩) (fun e tr' k _ => trivial)
  | activatePendingWithCode config generation requestId code =>
    refine (Prog.wp_bind _ _ _).mpr ?_
    refine wp_activatePendingWithCode ?_ ?_ (fun e tr' k _ => trivial)
    · intro instanceId k hk hleads
      exact ⟨k, hk, le_refl k, Or.inl ⟨instanceId, rfl, hleads⟩⟩
    · intro p activated r tr' k hk hseen hgen hreq hconfirms
      exact ⟨k, hk, le_refl k, Or.inr ⟨p, activated, hseen, hgen, hreq, hconfirms⟩⟩
  | existingReporterForRun config =>
    refine (Prog.wp_bind _ _ _).mpr ?_
    refine wp_transaction ?_ (fun e k _ => trivial)
    intro k hk _ i _
    refine wp_existingReporterForRun rfl ?_ (fun e k' _ => trivial)
    intro r k' hk' hhanded
    cases r with
    | none => trivial
    | some s => exact ⟨k', hk.trans hk', le_refl k', hhanded s rfl⟩
  | reporterSnapshotForCurrentActiveState config =>
    refine (Prog.wp_bind _ _ _).mpr ?_
    refine wp_handed (fun d s => handed_of_reporterSnapshotForCurrentActiveState) ?_
    intro r k hk hhanded
    cases r with
    | error e => trivial
    | ok found =>
      cases found with
      | none => trivial
      | some s => exact hhanded s rfl
  | refreshReporterSnapshot config revision =>
    refine (Prog.wp_bind _ _ _).mpr ?_
    have hhand : ∀ d s, refreshReporterSnapshot ext config revision d = .ok (some s) → Handed ext config d s := by
      intro d s hs
      obtain ⟨b, hb, -, hmade⟩ := handed_of_refreshReporterSnapshot hs
      exact ⟨b, hb, hmade⟩
    refine wp_handed hhand ?_
    intro r k hk hhanded
    cases r with
    | error e => trivial
    | ok found =>
      cases found with
      | none => trivial
      | some s => exact hhanded s rfl
  | activateReporterSnapshot config generation requestId instanceId reportEndpoint =>
    refine (Prog.wp_bind _ _ _).mpr ?_
    refine wp_read ?_ (fun e k _ => trivial)
    intro k hk
    cases hr : activateReporterSnapshot ext config generation requestId instanceId reportEndpoint k.now with
    | error e => trivial
    | ok s => exact ⟨k, hk, le_refl k, handed_of_activateReporterSnapshot hr⟩
  | activeCredentialRevision =>
    refine (Prog.wp_bind _ _ _).mpr ?_
    exact wp_read (fun k _ => trivial) (fun e k _ => trivial)
  | hasCurrentAuthorizedIdentity =>
    refine (Prog.wp_bind _ _ _).mpr ?_
    exact wp_read (fun k _ => trivial) (fun e k _ => trivial)
  | markReauthRequiredIfCurrent revision reason =>
    refine (Prog.wp_bind _ _ _).mpr ?_
    exact wp_withdraw rfl (fun r k _ hw => hw) (fun e k _ => trivial)
  | archiveIncompatibleAccountState =>
    refine (Prog.wp_bind _ _ _).mpr ?_
    refine wp_transaction ?_ (fun e k _ => trivial)
    intro k _ _ i _
    exact wp_archive rfl (fun r k' _ => trivial) (fun e k' _ => trivial)
  | localProgress =>
    refine (Prog.wp_bind _ _ _).mpr ?_
    unfold localProgress peekState
    change Op.wp _ _ _ _ _ _
    rw [Op.wp_bind]
    refine wp_peekFile ?_ (fun k _ => trivial)
    intro k _
    cases loadState k.now.pairing with
    | error e => trivial
    | ok state => trivial
  | localStatus =>
    refine (Prog.wp_bind _ _ _).mpr ?_
    exact wp_localStatusAttempts (fun r k _ hs => hs) 3 h (le_refl h)
  | prepareReporterTurn config =>
    refine (Prog.wp_bind _ _ _).mpr ?_
    unfold prepareReporterTurn
    change Op.wp _ _ _ _ _ _
    rw [Op.wp_bind]
    refine wp_read ?_ (fun e k _ => trivial)
    intro k hk
    cases hr : reporterSnapshotForCurrentActiveState ext config k.now with
    | error e => trivial
    | ok r =>
      cases r with
      | some s =>
        simp only [Op.wp_pure]
        exact ⟨k, hk, le_refl k, handed_of_reporterSnapshotForCurrentActiveState hr⟩
      | none =>
        simp only
        refine wp_transaction ?_ (fun e k _ => trivial)
        intro k₁ hk₁ _ i _
        refine wp_existingReporterForRun rfl ?_ (fun e k' _ => trivial)
        intro r k' hk' hhanded
        cases r with
        | none => trivial
        | some s => exact ⟨k', (hk.trans hk₁).trans hk', le_refl k', hhanded s rfl⟩
  | recover config revision =>
    refine (Prog.wp_bind _ _ _).mpr ?_
    exact wp_recover (fun probe tr' k _ hr => hr) (fun e tr' k _ => trivial)
  | applyRecovery driver probe =>
    refine (Prog.wp_bind _ _ _).mpr ?_
    exact wp_applyRecovery (fun driver' r k _ ha => ha)
  | classifyFailure revision error =>
    refine (Prog.wp_bind _ _ _).mpr ?_
    unfold HostDeliveryDriver.classifyFailure
    by_cases hunauth : error.isUnauthorized = false
    · rw [if_pos hunauth]
      exact fun hr => by cases hr
    · rw [if_neg hunauth]
      refine (Prog.wp_bind _ _ _).mpr ?_
      have hun : error.isUnauthorized = true := by simpa using hunauth
      refine wp_withdraw ⟨rfl, hun⟩ ?_ (fun e k _ hr => by cases hr)
      intro r k hk hw
      cases r with
      | true => exact fun hr => by cases hr
      | false => exact fun _ => ⟨hun, hw⟩

end

/-- The worlds that the client reaches from a directory `d`. -/
def ReachFrom (ext : External) (lossy : Chronicle → Prop) (d : Disk)
    (w : World Disk Inputs Request Reply Call Answer) : Prop :=
  Reach (program ext) FreshInputs lossy ⟨d, []⟩ w

/-- In every reachable world the history is permitted, the promise of every answer holds, and every request was about
a durable journal. -/
theorem sound_of_reach {ext : External} {lossy : Chronicle → Prop} {d : Disk}
    {w : World Disk Inputs Request Reply Call Answer} (hr : ReachFrom ext lossy d w) :
    w.Sound (guarantee ext lossy (· = d)) (Promise ext) := by
  have hlegal : (guarantee ext lossy (· = d)).Legal ⟨d, []⟩ := .start rfl
  exact World.Sound.of_reach (fun a h _ => program_wp a h) hlegal hr

end Xsoc
