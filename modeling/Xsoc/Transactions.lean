import Xsoc.Reporters
import Xsoc.System

/-!
# What each transaction writes

One lemma a transaction: run where it takes the lock, every write it makes is permitted, and what it returns is as
stated. Nothing is asked of a transaction that fails beyond the writes it made, so an I/O error may cut each short.

* `wp_commitActivating`, `wp_finishActivating` : the commit;
* `wp_prepareStart`, `wp_persistActiveCredentials`, `wp_recoverActivating` : the phases of a request;
* `wp_invalidate`, `wp_archive` : withdrawal and archiving.
-/

set_option autoImplicit false

namespace Xsoc

open Durable

/-! ## Loading what was written -/

theorem version_eq_current (v : PairingStateVersion) : v = .current := by cases v; rfl

@[simp] theorem validateStateVersion_eq (v : PairingStateVersion) : validateStateVersion v = .ok () :=
  check_eq_ok.mpr (version_eq_current v)

theorem loadState_file {serde : Serde} {state : StoredPairingState} (h : state.generation.isNil = false) :
    loadState (state.file serde) = .ok (some state) := by
  simp [loadState, StoredPairingState.file, h, check, bind, Except.bind]

theorem loadActiveBinding_file {url : UrlCrate} {b : ActiveBinding} (h : validateActiveBinding url b = .ok ()) :
    loadActiveBinding url b.file = .ok (some b) := by
  simp [loadActiveBinding, ActiveBinding.file, h, bind, Except.bind, Except.mapError]

@[simp] theorem localAuthStateUnlocked_file (serde : Serde) (auth : LocalAuthState) :
    localAuthStateUnlocked (auth.file serde) = .ok (some auth) := by
  simp [localAuthStateUnlocked, LocalAuthState.file, Except.map]

/-- A journal that loads has a generation. -/
theorem notNil_of_loadState {f : File (Document StoredPairingState)} {state : StoredPairingState}
    (h : loadState f = .ok (some state)) : state.generation.isNil = false := by
  unfold loadState at h
  split at h
  · cases h
  · cases h
  · obtain ⟨s, -, h⟩ := Except.bind_eq_ok.mp h
    obtain ⟨_, -, h⟩ := Except.bind_eq_ok.mp h
    obtain ⟨_, hnil, h⟩ := Except.bind_eq_ok.mp h
    cases h
    exact check_eq_ok.mp hnil

section

variable {ext : External} {lossy : Chronicle → Prop} {a : Writer} {h : Chronicle}

/-! ## Single writes -/

theorem wp_writeFile {file : StateFile} {value : List Char} {put : Disk → Disk}
    {Q : Except Error Unit → Chronicle → Prop}
    (hput : fits file value → Permit ext lossy h a (put h.now) ∧ Q (.ok ()) (h.push ⟨put h.now, a⟩))
    (herr : ∀ e, Q (.error e) h) : Tx.wp (permits ext lossy) a (writeFile file value put) Q h := by
  unfold writeFile
  rw [Tx.wp_bind, Tx.wp_ensure]
  by_cases hfit : fits file value
  · rw [if_pos hfit, Tx.wp_write]
    exact hput hfit
  · rw [if_neg hfit]
    exact herr _

theorem wp_persistState {state : StoredPairingState} {Q : Except Error Unit → Chronicle → Prop}
    (hput : byteLen (state.render ext.serde) ≤ StateFile.maxBytes .pairing →
      Permit ext lossy h a (putPairing ext.serde state h.now) ∧
        Q (.ok ()) (h.push ⟨putPairing ext.serde state h.now, a⟩))
    (herr : ∀ e, Q (.error e) h) : Tx.wp (permits ext lossy) a (persistStateUnlocked ext state) Q h := by
  unfold persistStateUnlocked
  rw [Tx.wp_bind, Tx.wp_ensure]
  by_cases hfit : byteLen (state.render ext.serde) ≤ StateFile.maxBytes .pairing
  · rw [if_pos hfit, Tx.wp_mapError]
    exact wp_writeFile (fun _ => hput hfit) (fun e => herr _)
  · rw [if_neg hfit]
    exact herr _

theorem wp_persistAuth {auth : LocalAuthState} {Q : Except Error Unit → Chronicle → Prop}
    (hput : Permit ext lossy h a (putAuth ext.serde auth h.now) ∧
      Q (.ok ()) (h.push ⟨putAuth ext.serde auth h.now, a⟩))
    (herr : ∀ e, Q (.error e) h) : Tx.wp (permits ext lossy) a (persistAuthStateUnlocked ext auth) Q h := by
  unfold persistAuthStateUnlocked
  rw [Tx.wp_mapError]
  exact wp_writeFile (fun _ => hput) (fun e => herr _)

/-! ## The commit -/

theorem Staged.zero {j : Activating} {d : Disk} (hj : loadState d.pairing = .ok (some (.activating j))) :
    Staged ext j 0 d where
  journal := hj
  credential := by intro h; omega
  identity := by intro h; omega
  binding := by intro h; omega
  authorization := by intro h; omega

/-- Each write of a commit but the last takes it one stage further. -/
theorem Staged.put {j : Activating} {n : Nat} {d : Disk} (hs : Staged ext j n d) (hn : n < 4) (i : Inputs) :
    Staged ext j (n + 1) (j.put ext i n d) := by
  obtain ⟨hj, hc, hi, hb, ha⟩ := hs
  match n, hn with
  | 0, _ => exact ⟨hj, fun _ => rfl, fun h => by omega, fun h => by omega, fun h => by omega⟩
  | 1, _ => exact ⟨hj, fun _ => hc (by omega), fun _ => rfl, fun h => by omega, fun h => by omega⟩
  | 2, _ => exact ⟨hj, fun _ => hc (by omega), fun _ => hi (by omega), fun _ => rfl, fun h => by omega⟩
  | 3, _ => exact ⟨hj, fun _ => hc (by omega), fun _ => hi (by omega), fun _ => hb (by omega), fun _ => ⟨i, rfl⟩⟩

/-- The last write commits. -/
theorem Staged.commit {j : Activating} {d : Disk} (hs : Staged ext j 4 d) (hnil : j.generation.isNil = false)
    (hv : validateActiveBinding ext.url j.binding = .ok ()) (ht : validateCurrentToken j.bearerSecret = .ok ())
    (i : Inputs) : Committed ext j (j.put ext i 4 d) where
  journal := ⟨i.completedAt, rfl⟩
  credential := hs.credential (by omega)
  identity := hs.identity (by omega)
  binding := hs.binding (by omega)
  authorization := hs.authorization (by omega)
  notNil := hnil
  valid := hv
  token := ht

theorem Committed.load {j : Activating} {d : Disk} (hd : Committed ext j d) :
    ∃ t, loadState d.pairing = .ok (some (.active (j.active t))) := by
  obtain ⟨t, ht⟩ := hd.journal
  have hnil : (StoredPairingState.active (j.active t)).generation.isNil = false := hd.notNil
  exact ⟨t, by rw [ht]; exact loadState_file hnil⟩

theorem Committed.loadBinding {j : Activating} {d : Disk} (hd : Committed ext j d) :
    loadActiveBinding ext.url d.binding = .ok (some j.binding) := by
  rw [hd.binding, loadActiveBinding_file hd.valid]

theorem wp_commitActivating {i : Inputs} (ha : a.input = i) {j : Activating}
    {Q : Except Error PairingProgress → Chronicle → Prop}
    (hj : loadState h.now.pairing = .ok (some (.activating j)))
    (hok : ∀ k, h ≤ k → Committed ext j k.now → SameGenerations h k → Q
      (.ok (.active j.generation j.requestId j.instanceId j.reportEndpoint)) k)
    (herr : ∀ e k, h ≤ k → Q (.error e) k) :
    Tx.wp (permits ext lossy) a (commitActivatingUnlocked ext i j) Q h := by
  subst ha
  unfold commitActivatingUnlocked
  rw [validateStateVersion_eq]
  cases hv : validateActiveBinding ext.url j.binding with
  | error e => simpa using herr e h (le_refl h)
  | ok _ =>
  cases ht : validateCurrentToken j.bearerSecret with
  | error e => simpa using herr e h (le_refl h)
  | ok _ =>
  simp only [Tx.wp_bind, Tx.wp_ofExcept]
  -- One write after the other: each is permitted at its stage, and takes the commit to the next.
  have hstep : ∀ n k, n < 5 → Staged ext j n k.now → Permit ext lossy k a (j.put ext a.input n k.now) :=
    fun n k hn hs => .staged j n hn hs hv ht
  have hs0 : Staged ext j 0 h.now := .zero hj
  have hs1 := hs0.put (by omega) a.input
  have hs2 := hs1.put (by omega) a.input
  have hs3 := hs2.put (by omega) a.input
  have hs4 := hs3.put (by omega) a.input
  have hl1 := History.le_push h ⟨j.put ext a.input 0 h.now, a⟩
  refine wp_writeFile (fun _ => ⟨hstep 0 h (by omega) hs0, ?_⟩) (fun e => herr e h (le_refl h))
  have hl2 := hl1.trans (History.le_push _ ⟨j.put ext a.input 1 (j.put ext a.input 0 h.now), a⟩)
  refine wp_writeFile (fun _ => ⟨hstep 1 _ (by omega) hs1, ?_⟩) (fun e => herr e _ hl1)
  have hl3 := hl2.trans (History.le_push _
    ⟨j.put ext a.input 2 (j.put ext a.input 1 (j.put ext a.input 0 h.now)), a⟩)
  unfold persistActiveBindingUnlocked
  simp only [Tx.wp_bind, Tx.wp_ofExcept, hv, Tx.wp_mapError]
  refine wp_writeFile (fun _ => ⟨hstep 2 _ (by omega) hs2, ?_⟩) (fun e => herr _ _ hl2)
  have hl4 := hl3.trans (History.le_push _
    ⟨j.put ext a.input 3 (j.put ext a.input 2 (j.put ext a.input 1 (j.put ext a.input 0 h.now))), a⟩)
  refine wp_persistAuth ⟨hstep 3 _ (by omega) hs3, ?_⟩ (fun e => herr _ _ hl3)
  refine wp_persistState (fun _ => ⟨hstep 4 _ (by omega) hs4, ?_⟩) (fun e => herr _ _ hl4)
  rw [Tx.wp_pure]
  have hnil : j.generation.isNil = false := notNil_of_loadState hj
  have hactive : loadState ((StoredPairingState.active (j.active a.input.completedAt)).file ext.serde) =
      .ok (some (.active (j.active a.input.completedAt))) := loadState_file hnil
  have hdone := hs4.commit hnil hv ht a.input
  refine hok _ (hl4.trans (History.le_push _ _)) hdone ?_
  have hkeep : ∀ k : Chronicle, h ≤ k → ∀ state, loadState h.now.pairing = .ok (some state) →
      ∃ known, Seen k known ∧ known.generation = state.generation :=
    fun k hk state hload => ⟨state, (Seen.now hload).mono hk, rfl⟩
  refine ((((SameGenerations.refl h).push (hkeep h (le_refl h))).push (hkeep _ hl1)).push (hkeep _ hl2)).push
    (hkeep _ hl3) |>.push ?_
  intro state hload
  cases hactive.symm.trans hload
  exact ⟨_, (Seen.now hj).mono hl4, rfl⟩

theorem wp_finishActivating {i : Inputs} (ha : a.input = i) {j : Activating}
    {Q : Except Error PairingProgress → Chronicle → Prop}
    (hj : loadState h.now.pairing = .ok (some (.activating j)))
    (hok : ∀ k, h ≤ k → Committed ext j k.now → SameGenerations h k → Q
      (.ok (.active j.generation j.requestId j.instanceId j.reportEndpoint)) k)
    (herr : ∀ e k, h ≤ k → Q (.error e) k) :
    Tx.wp (permits ext lossy) a (finishActivatingUnlocked ext i j) Q h := by
  unfold finishActivatingUnlocked HostCredentials.replace
  simp only [Tx.wp_bind, Tx.wp_read, hj, and_self, if_true]
  refine wp_commitActivating ha hj ?_ (fun e k hk => herr e k hk)
  intro k hk hdone hgen
  obtain ⟨t, hload⟩ := hdone.load
  simp only [Tx.wp_pure, hload]
  exact hok k hk hdone hgen

/-! ## The phases of a request -/

/-- Only a `Pending` request is current. -/
theorem pending_of_isCurrentPending {current : Option StoredPairingState} {generation requestId : Uuid}
    {pairingEndpoint reportEndpoint pollingSecret : String}
    (hcur : isCurrentPending current generation requestId pairingEndpoint reportEndpoint pollingSecret = true) :
    ∃ p, current = some (.pending p) := by
  cases current with
  | none => cases hcur
  | some state =>
    cases state with
    | pending p => exact ⟨p, rfl⟩
    | creating _ | activating _ | active _ | denied _ | expired _ => cases hcur

theorem wp_ensurePendingIsCurrent {generation requestId : Uuid}
    {pairingEndpoint reportEndpoint pollingSecret : String} {Q : Except Error Unit → Chronicle → Prop}
    (hok : ∀ p', loadState h.now.pairing = .ok (some (.pending p')) →
      isCurrentPending (some (.pending p')) generation requestId pairingEndpoint reportEndpoint pollingSecret = true →
      Q (.ok ()) h)
    (herr : ∀ e, Q (.error e) h) :
    Tx.wp (permits ext lossy) a
      (ensurePendingIsCurrent generation requestId pairingEndpoint reportEndpoint pollingSecret) Q h := by
  unfold ensurePendingIsCurrent
  rw [Tx.wp_bind, Tx.wp_read]
  cases hload : loadState h.now.pairing with
  | error e => exact herr e
  | ok state =>
    simp only [Tx.wp_ensure]
    split
    · rename_i hcur
      obtain ⟨p', rfl⟩ := pending_of_isCurrentPending hcur
      exact hok p' hload hcur
    · exact herr _

theorem wp_compareAndPersistCreating {c : Creating} {mode : PairMode} {p : Pending}
    {Q : Except Error Unit → Chronicle → Prop} (hseen : Seen h (.creating c)) (hmode : Inferred lossy h c mode)
    (hreply : CreatedBy ext a.transcript c mode p) (hvalid : validateEndpoint ext.url p.reportEndpoint = .ok ())
    (hok : Q (.ok ()) (h.push ⟨putPairing ext.serde (.pending p) h.now, a⟩)) (herr : ∀ e, Q (.error e) h) :
    Tx.wp (permits ext lossy) a (compareAndPersistCreating ext c.generation c.pairingEndpoint c.reportEndpoint
      c.pollingSecret (.pending p)) Q h := by
  unfold compareAndPersistCreating
  rw [Tx.wp_bind, Tx.wp_read]
  cases hload : loadState h.now.pairing with
  | error e => exact herr e
  | ok state =>
    match state, hload with
    | some (.creating c'), hload =>
      simp only [Tx.wp_bind, Tx.wp_ensure]
      split
      · rename_i hsame
        exact wp_persistState (fun _ => ⟨.pended c c' mode p hload hseen hsame hmode hreply hvalid, hok⟩) herr
      · exact herr _
    | none, _ | some (.pending _), _ | some (.activating _), _ | some (.active _), _ | some (.denied _), _
    | some (.expired _), _ =>
      simp only [Tx.wp_throw]
      exact herr _

/-- The write that replaces a current `Pending` journal by one that the server's reply justifies. -/
theorem wp_compareAndPersistPending {p : Pending} {next : StoredPairingState}
    {Q : Except Error Unit → Chronicle → Prop}
    (hpermit : ∀ p', loadState h.now.pairing = .ok (some (.pending p')) →
      isCurrentPending (some (.pending p')) p.generation p.requestId p.pairingEndpoint p.reportEndpoint
        p.pollingSecret = true → Permit ext lossy h a (putPairing ext.serde next h.now))
    (hok : Q (.ok ()) (h.push ⟨putPairing ext.serde next h.now, a⟩)) (herr : ∀ e, Q (.error e) h) :
    Tx.wp (permits ext lossy) a (compareAndPersistPending ext p.generation p.requestId p.pairingEndpoint
      p.reportEndpoint p.pollingSecret next) Q h := by
  unfold compareAndPersistPending
  rw [Tx.wp_bind]
  exact wp_ensurePendingIsCurrent
    (fun p' hload hcur => wp_persistState (fun _ => ⟨hpermit p' hload hcur, hok⟩) herr) herr

theorem wp_persistActiveCredentials {i : Inputs} (ha : a.input = i) {p : Pending} {instanceId : Uuid}
    {Q : Except Error PairingProgress → Chronicle → Prop} (hseen : Seen h (.pending p))
    (hreply : PolledBy ext a.transcript p ⟨.active, some instanceId⟩)
    (hvalid : validateEndpoint ext.url p.reportEndpoint = .ok ())
    (hok : ∀ k, h.push ⟨putPairing ext.serde (.activating (p.activating instanceId)) h.now, a⟩ ≤ k →
      Q (.ok (.active p.generation p.requestId instanceId p.reportEndpoint)) k)
    (herr : ∀ e k, h ≤ k → Q (.error e) k) :
    Tx.wp (permits ext lossy) a (persistActiveCredentials ext p instanceId i) Q h := by
  unfold persistActiveCredentials
  rw [Tx.wp_bind]
  refine wp_ensurePendingIsCurrent ?_ (fun e => herr e h (le_refl h))
  intro p' hload hcur
  simp only [Tx.wp_bind]
  refine wp_persistState (fun hfits => ⟨.activated p p' instanceId hload hseen hcur hreply hvalid hfits, ?_⟩)
    (fun e => herr e h (le_refl h))
  have hgen : p'.generation = p.generation := by
    simp only [isCurrentPending, Bool.and_eq_true, decide_eq_true_eq] at hcur
    exact hcur.1.1.1.1
  have hnil : (StoredPairingState.activating (p.activating instanceId)).generation.isNil = false := by
    have hp' : p'.generation.isNil = false := notNil_of_loadState hload
    rw [hgen] at hp'
    exact hp'
  refine wp_finishActivating ha (loadState_file hnil) (fun k hk _ _ => hok k hk) ?_
  exact fun e k hk => herr e k ((History.le_push _ _).trans hk)

theorem wp_recoverActivating {i : Inputs} (ha : a.input = i) {expected : Activating}
    {Q : Except Error PairingProgress → Chronicle → Prop}
    (hok : ∀ generation requestId instanceId reportEndpoint k, h ≤ k →
      Q (.ok (.active generation requestId instanceId reportEndpoint)) k)
    (herr : ∀ e k, h ≤ k → Q (.error e) k) :
    Tx.wp (permits ext lossy) a (recoverActivating ext expected i) Q h := by
  have hrefl := le_refl h
  unfold recoverActivating
  rw [Tx.wp_bind, Tx.wp_read]
  cases hload : loadState h.now.pairing with
  | error e => exact herr e h hrefl
  | ok state =>
    match state, hload with
    | some (.activating j), hload =>
      simp only
      split
      · exact wp_finishActivating ha hload (fun k hk _ _ => hok _ _ _ _ k hk) herr
      · rw [Tx.wp_throw]; exact herr _ h hrefl
    | some (.active s), _ =>
      simp only
      split
      · rw [Tx.wp_pure]; exact hok _ _ _ _ h hrefl
      · rw [Tx.wp_throw]; exact herr _ h hrefl
    | none, _ | some (.creating _), _ | some (.pending _), _ | some (.denied _), _ | some (.expired _), _ =>
      simp only [Tx.wp_throw]
      exact herr _ h hrefl

/-! ## Starting -/

/-- What `prepare_start` decides, from the journal it finds at `h`, and the history it leaves. -/
inductive Prepared (ext : External) (config : ClientConfig) (host : HostIdentity) (a : Writer) (h : Chronicle) :
    PairingStart → Chronicle → Prop
  | waiting (p : Pending) (hstate : loadState h.now.pairing = .ok (some (.pending p)))
      (hkeep : config.replacePendingPairing = false)
      (hsame : pairingEndpointsMatch ext config p.pairingEndpoint p.reportEndpoint = .ok true) :
      Prepared ext config host a h (.waiting p.session) h
  | expired (p : Pending) (hstate : loadState h.now.pairing = .ok (some (.pending p)))
      (hkeep : config.replacePendingPairing = false)
      (hsame : pairingEndpointsMatch ext config p.pairingEndpoint p.reportEndpoint = .ok true) :
      Prepared ext config host a h (.checkExpired p.session) h
  | resumed (c : Creating) (hstate : loadState h.now.pairing = .ok (some (.creating c)))
      (hkeep : config.replacePendingPairing = false)
      (hsame : pairingEndpointsMatch ext config c.pairingEndpoint c.reportEndpoint = .ok true) :
      Prepared ext config host a h (.create c) h
  | recovered (j : Activating) (k : Chronicle) (hstate : loadState h.now.pairing = .ok (some (.activating j)))
      (hsame : pairingEndpointsMatch ext config j.pairingEndpoint j.reportEndpoint = .ok true) (hle : h ≤ k) :
      Prepared ext config host a h (.waiting j.session) k
  | created (k : Chronicle) (pairingEndpoint : String) (hle : h ≤ k) (hfresh : FreshInputs k a.input)
      (hendpoint : config.pairingEndpointOf ext.url = .ok pairingEndpoint) :
      Prepared ext config host a h (.create (newCreating config host pairingEndpoint a.input))
        (k.push ⟨putPairing ext.serde (.creating (newCreating config host pairingEndpoint a.input)) k.now, a⟩)

theorem wp_startCreating {config : ClientConfig} {host : HostIdentity} {mode : PairMode} {h₀ : Chronicle}
    {Q : Except Error PairingStart → Chronicle → Prop} (hcall : a.call = .startOrResume config host mode)
    (hfresh : FreshInputs h a.input) (hold : Replaceable ext config a.input.now h.now) (hle : h₀ ≤ h)
    (hok : ∀ r k, Prepared ext config host a h₀ r k → Q (.ok r) k) (herr : ∀ e k, h₀ ≤ k → Q (.error e) k) :
    Tx.wp (permits ext lossy) a (startCreating ext config host a.input) Q h := by
  unfold startCreating
  rw [Tx.wp_bind, Tx.wp_ofExcept]
  cases hendpoint : config.pairingEndpointOf ext.url with
  | error e => exact herr e h hle
  | ok pairingEndpoint =>
    simp only [Tx.wp_bind]
    refine wp_persistState (fun _ => ⟨.created config host mode pairingEndpoint hcall hendpoint hfresh hold, ?_⟩)
      (fun e => herr e h hle)
    rw [Tx.wp_pure]
    exact hok _ _ (.created h pairingEndpoint hle hfresh hendpoint)

/-- `prepare_start` keeps a live request of the same server, finishes an accepted activation, and begins a new
generation only where the old journal is `Replaceable`. -/
theorem wp_prepareStart {config : ClientConfig} {host : HostIdentity} {mode : PairMode}
    {Q : Except Error PairingStart → Chronicle → Prop} (hcall : a.call = .startOrResume config host mode)
    (hfresh : FreshInputs h a.input)
    (hok : ∀ r k, Prepared ext config host a h r k → Q (.ok r) k) (herr : ∀ e k, h ≤ k → Q (.error e) k) :
    Tx.wp (permits ext lossy) a (prepareStart ext config host a.input) Q h := by
  have hrefl := le_refl h
  unfold prepareStart
  rw [Tx.wp_bind, Tx.wp_read]
  cases hload : loadState h.now.pairing with
  | error e => exact herr e h hrefl
  | ok state =>
    have hstart : Replaceable ext config a.input.now h.now →
        Tx.wp (permits ext lossy) a (startCreating ext config host a.input) Q h :=
      fun hold => wp_startCreating hcall hfresh hold hrefl hok herr
    match state, hload with
    | some (.pending p), hload =>
      simp only
      by_cases hreplace : config.replacePendingPairing = true
      · rw [if_pos hreplace]
        exact hstart (by rw [Replaceable, hload]; exact Or.inl hreplace)
      have hkeep : config.replacePendingPairing = false := Bool.eq_false_iff.mpr hreplace
      rw [if_neg hreplace, Tx.wp_bind, Tx.wp_ofExcept]
      cases hsame : pairingEndpointsMatch ext config p.pairingEndpoint p.reportEndpoint with
      | error e => exact herr e h hrefl
      | ok same =>
        simp only
        by_cases hlive : p.expiresAt > a.input.now
        · rw [if_pos hlive]
          cases same with
          | true => rw [if_pos rfl, Tx.wp_pure]; exact hok _ h (.waiting p hload hkeep hsame)
          | false => rw [if_neg Bool.false_ne_true, Tx.wp_throw]; exact herr _ h hrefl
        · rw [if_neg hlive]
          cases same with
          | true => rw [if_pos rfl, Tx.wp_pure]; exact hok _ h (.expired p hload hkeep hsame)
          | false =>
            rw [if_neg Bool.false_ne_true]
            exact hstart (by rw [Replaceable, hload]; exact Or.inr ⟨not_lt.mp hlive, hsame⟩)
    | some (.creating c), hload =>
      simp only
      by_cases hreplace : config.replacePendingPairing = true
      · rw [if_pos hreplace]
        exact hstart (by rw [Replaceable, hload]; exact hreplace)
      have hkeep : config.replacePendingPairing = false := Bool.eq_false_iff.mpr hreplace
      rw [if_neg hreplace, Tx.wp_bind, Tx.wp_ofExcept]
      cases hsame : pairingEndpointsMatch ext config c.pairingEndpoint c.reportEndpoint with
      | error e => exact herr e h hrefl
      | ok same =>
        cases same with
        | true => simp only [if_true, Tx.wp_pure]; exact hok _ h (.resumed c hload hkeep hsame)
        | false => simp only [Bool.false_eq_true, if_false, Tx.wp_throw]; exact herr _ h hrefl
    | some (.activating j), hload =>
      simp only [Tx.wp_bind, Tx.wp_ofExcept]
      cases hsame : pairingEndpointsMatch ext config j.pairingEndpoint j.reportEndpoint with
      | error e => exact herr e h hrefl
      | ok same =>
        refine wp_finishActivating rfl hload ?_ (fun e k hk => herr e k hk)
        intro k hk hdone hgen
        cases same with
        | true => simp only [if_true, Tx.wp_pure]; exact hok _ k (.recovered j k hload hsame hk)
        | false =>
          simp only [Bool.false_eq_true, if_false]
          -- The journal belonged to another server; it is committed now, and its binding with it.
          have hold : Replaceable ext config a.input.now k.now := by
            obtain ⟨t, hactive⟩ := hdone.load
            rw [Replaceable, hactive]
            exact hdone.loadBinding
          exact wp_startCreating hcall (hfresh.of_sameGenerations hgen) hold hk hok herr
    | some (.active s), hload =>
      simp only [Tx.wp_bind, Tx.wp_read]
      cases hbound : loadCurrentActiveBinding ext h.now.binding s.binding with
      | error e => exact herr e h hrefl
      | ok b => exact hstart (by rw [Replaceable, hload]; exact (loadCurrentActiveBinding_eq_ok hbound).1)
    | some (.denied e), hload => exact hstart (by rw [Replaceable, hload]; trivial)
    | some (.expired e), hload => exact hstart (by rw [Replaceable, hload]; trivial)
    | none, hload => exact hstart (by rw [Replaceable, hload]; trivial)

/-! ## Reporters and authorization -/

/-- A snapshot for the service is made of the state the transaction ends in. -/
theorem wp_existingReporterForRun {config : ClientConfig} {i : Inputs} (ha : a.input = i)
    {Q : Except Error (Option ReporterSnapshot) → Chronicle → Prop}
    (hok : ∀ r k, h ≤ k → (∀ s, r = some s → Handed ext config k.now s) → Q (.ok r) k)
    (herr : ∀ e k, h ≤ k → Q (.error e) k) :
    Tx.wp (permits ext lossy) a (existingReporterForRun ext config i) Q h := by
  have hrefl := le_refl h
  unfold existingReporterForRun
  rw [Tx.wp_bind, Tx.wp_read]
  cases hload : loadState h.now.pairing with
  | error e => exact herr e h hrefl
  | ok state =>
    have hexisting : Q (existingReporter ext config h.now state) h := by
      cases hr : existingReporter ext config h.now state with
      | error e => exact herr e h hrefl
      | ok r => exact hok r h hrefl (by rintro s rfl; exact handed_of_existingReporter hload hr)
    match state, hload, hexisting with
    | some (.activating j), hload, _ =>
      simp only [Tx.wp_bind]
      refine wp_finishActivating ha hload ?_ (fun e k hk => herr e k hk)
      intro k hk _ _
      simp only [Tx.wp_read]
      cases hr : reporterSnapshotForCurrentActiveState ext config k.now with
      | error e => exact herr e k hk
      | ok r => exact hok r k hk (by rintro s rfl; exact handed_of_reporterSnapshotForCurrentActiveState hr)
    | none, _, hexisting | some (.creating _), _, hexisting | some (.pending _), _, hexisting
    | some (.active _), _, hexisting | some (.denied _), _, hexisting | some (.expired _), _, hexisting =>
      simp only [Tx.wp_read]
      exact hexisting

/-- The authorization is withdrawn only from the revision that is bound on disk, while no commit is under way;
otherwise nothing is written. -/
theorem wp_markReauthRequired {revision : Revision} {reason : String} {Q : Except Error Bool → Chronicle → Prop}
    (hcall : a.call.revokes revision)
    (hok : ∀ b, HostCredentials.binding ext.url h.now = .ok (some b) → b.revision = revision →
      Q (.ok true) (h.push
        ⟨putAuth ext.serde ⟨.current, .reauthorizationRequired, reason, a.input.changedAt⟩ h.now, a⟩))
    (hsuperseded : (∀ b, HostCredentials.binding ext.url h.now = .ok (some b) → b.revision ≠ revision) →
      Q (.ok false) h)
    (herr : ∀ e, Q (.error e) h) :
    Tx.wp (permits ext lossy) a (markReauthRequiredIfCurrent ext revision reason a.input) Q h := by
  unfold markReauthRequiredIfCurrent HostCredentials.invalidate
  simp only [Tx.wp_bind, Tx.wp_read]
  cases hbinding : HostCredentials.binding ext.url h.now with
  | error e => exact herr e
  | ok found =>
    cases found with
    | none =>
      simp only [Tx.wp_pure]
      exact hsuperseded (by intro b hb; rw [hbinding] at hb; cases hb)
    | some b =>
      simp only
      by_cases hrev : b.revision = revision
      · rw [if_neg (not_not_intro hrev)]
        simp only [Tx.wp_bind, Tx.wp_read]
        cases hauth : localAuthStateUnlocked h.now.authorization with
        | error e => exact herr e
        | ok auth =>
          simp only [Tx.wp_ofExcept]
          cases auth with
          | none => exact herr _
          | some auth =>
            refine wp_persistAuth ⟨.revoked b reason hbinding (hrev ▸ hcall), ?_⟩ herr
            simp only [Tx.wp_pure]
            exact hok b hbinding hrev
      · rw [if_pos hrev]
        simp only [Tx.wp_pure]
        refine hsuperseded ?_
        intro b' hb'
        cases hbinding.symm.trans hb'
        exact hrev

/-! ## Archiving -/

/-- Archiving one file: afterwards there is no journal, if it is the journal or there was none. -/
theorem wp_archiveFile {α : Type} {file : StateFile} {get : Disk → File α} {archiveId : Uuid}
    {Q : Except Error (Option String) → Chronicle → Prop} (hcall : a.call = .archiveIncompatibleAccountState)
    (hfirst : file ≠ .pairing → h.now.pairing = .absent) (hfile : file ≠ .identity)
    (hgone : (get h.now).read = .error .notFound → h.now.pairing = .absent)
    (hok : ∀ r k, h ≤ k → k.now.pairing = .absent → Q (.ok r) k) (herr : ∀ e k, h ≤ k → Q (.error e) k) :
    Tx.wp (permits ext lossy) a (archiveFile file get archiveId) Q h := by
  have hrefl := le_refl h
  unfold archiveFile
  simp only [Tx.wp_bind, Tx.wp_read]
  cases hread : (get h.now).read with
  | error e =>
    cases e with
    | notFound => simp only [Tx.wp_pure]; exact hok _ h hrefl (hgone hread)
    | invalidInput | alreadyExists | refused why =>
      simp only [Tx.wp_throw]
      exact herr _ h hrefl
  | ok contents =>
    simp only [Tx.wp_bind, Tx.wp_read, Tx.wp_ensure]
    split
    · simp only [Tx.wp_write, Tx.wp_pure]
      refine ⟨.archived _ hcall, .cleared file hcall hfirst hfile, ?_⟩
      refine hok _ _ ((History.le_push _ _).trans (History.le_push _ _)) ?_
      cases file with
      | pairing => rfl
      | identity => exact absurd rfl hfile
      | credential | authorization | binding => exact hfirst (by decide)
    · exact herr _ h hrefl

theorem absent_of_read {α : Type} {f : File α} (h : f.read = .error .notFound) : f = .absent := by
  cases f with
  | absent => rfl
  | refused why => cases h
  | holds contents => cases h

/-- The journal goes first, so nothing else of the account goes while a journal is there. -/
theorem wp_archive {Q : Except Error (List String) → Chronicle → Prop}
    (hcall : a.call = .archiveIncompatibleAccountState) (hok : ∀ r k, h ≤ k → Q (.ok r) k)
    (herr : ∀ e k, h ≤ k → Q (.error e) k) :
    Tx.wp (permits ext lossy) a (archiveIncompatibleAccountState a.input) Q h := by
  unfold archiveIncompatibleAccountState
  simp only [Tx.wp_bind]
  refine wp_archiveFile hcall (fun hne => absurd rfl hne) (by decide) absent_of_read ?_ herr
  intro r₁ k₁ hk₁ h₁
  refine wp_archiveFile hcall (fun _ => h₁) (by decide) (fun _ => h₁) ?_ (fun e k hk => herr e k (hk₁.trans hk))
  intro r₂ k₂ hk₂ h₂
  have hl₂ := hk₁.trans hk₂
  refine wp_archiveFile hcall (fun _ => h₂) (by decide) (fun _ => h₂) ?_ (fun e k hk => herr e k (hl₂.trans hk))
  intro r₃ k₃ hk₃ h₃
  have hl₃ := hl₂.trans hk₃
  refine wp_archiveFile hcall (fun _ => h₃) (by decide) (fun _ => h₃) ?_ (fun e k hk => herr e k (hl₃.trans hk))
  intro r₄ k₄ hk₄ _
  simp only [Tx.wp_pure]
  exact hok _ k₄ (hl₃.trans hk₄)

end

end Xsoc
