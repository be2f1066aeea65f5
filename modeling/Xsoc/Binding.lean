import Xsoc.Generations
import Xsoc.Playback

/-!
# Token, identity and endpoint belong together

The five files are written one by one, so they may disagree while a commit is under way. Whenever none is, and the
directory is authorized, the token, the identity and the binding are those of one and the same commit.

* `Genuine` : the three files are those of the commit of journal `j`;
* `Backed` : the invariant; `backed_of_legal` : every history of the client keeps it;
* `credential_binding` : so every reporter that is handed out pairs what one commit wrote.
-/

set_option autoImplicit false

namespace Xsoc

open Durable

/-- No write of the history was made by archiving the account. -/
def Unarchived (h : Chronicle) : Prop := ∀ w ∈ h.writes, w.author.call ≠ .archiveIncompatibleAccountState

/-- The authorization file says `authorized`. -/
def Disk.Authorized (d : Disk) : Prop :=
  ∃ auth, localAuthStateUnlocked d.authorization = .ok auth ∧ isAuthorized auth = true

/-- No commit is under way. -/
def Disk.Settled (d : Disk) : Prop := ∀ j, loadState d.pairing ≠ .ok (some (.activating j))

/-- Binding, token and identity are what the commit of `j` wrote, and that commit was finished. -/
structure Genuine (ext : External) (h : Chronicle) (j : Activating) : Prop where
  journal : Seen h (.activating j)
  finished : ∃ t, Seen h (.active (j.active t))
  binding : h.now.binding = j.binding.file
  credential : h.now.credential = (putCredential j.bearerSecret h.now).credential
  identity : h.now.identity = (putIdentity j.instanceId h.now).identity
  valid : validateActiveBinding ext.url j.binding = .ok ()
  token : validateCurrentToken j.bearerSecret = .ok ()

/-- A directory that is authorized while no commit is under way has a credential of one commit. -/
def Backed (ext : External) (h : Chronicle) : Prop :=
  h.now.Settled → h.now.Authorized → ∃ j, Genuine ext h j

/-- The snapshot pairs the token, the identity and the endpoint that journal `j` names. -/
structure Issued (j : Activating) (s : ReporterSnapshot) : Prop where
  token : s.reporter.token = j.bearerSecret
  identity : s.reporter.identity = identityOf j.instanceId
  host : s.host.id = j.instanceId.toString
  endpoint : s.reporter.endpoint = j.reportEndpoint
  reportEndpoint : s.reportEndpoint = j.reportEndpoint
  revision : s.credentialRevision = (j.generation, j.requestId)

section

variable {ext : External} {lossy : Chronicle → Prop} {h : Chronicle}

theorem Unarchived.of_push {w : Write Disk Writer} (hun : Unarchived (h.push w)) : Unarchived h :=
  fun v hv => hun v (List.mem_cons_of_mem w hv)

theorem Unarchived.of_le {k : Chronicle} (hun : Unarchived k) (hle : h ≤ k) : Unarchived h :=
  fun v hv => hun v (hle.2.subset hv)

/-! ## The invariant -/

/-- A write that leaves the credential alone leaves it genuine. -/
theorem Genuine.push {j : Activating} (hg : Genuine ext h j) {w : Write Disk Writer}
    (hb : w.state.binding = h.now.binding) (hc : w.state.credential = h.now.credential)
    (hi : w.state.identity = h.now.identity) : Genuine ext (h.push w) j where
  journal := hg.journal.mono (History.le_push h w)
  finished := by
    obtain ⟨t, ht⟩ := hg.finished
    exact ⟨t, ht.mono (History.le_push h w)⟩
  binding := hb.trans hg.binding
  credential := hc.trans hg.credential
  identity := hi.trans hg.identity
  valid := hg.valid
  token := hg.token

/-- A write that ends a commit makes the credential genuine. -/
theorem Genuine.of_committed {j : Activating} {w : Write Disk Writer} (hj : Seen h (.activating j))
    (hd : Committed ext j w.state) : Genuine ext (h.push w) j where
  journal := hj.mono (History.le_push h w)
  finished := by
    obtain ⟨t, ht⟩ := hd.load
    exact ⟨t, Seen.now ht⟩
  binding := hd.binding
  credential := hd.credential
  identity := hd.identity
  valid := hd.valid
  token := hd.token

theorem Backed.push_of_same (hb : Backed ext h) {w : Write Disk Writer} (hsettled : h.now.Settled)
    (hauth : w.state.authorization = h.now.authorization) (hbinding : w.state.binding = h.now.binding)
    (hcredential : w.state.credential = h.now.credential) (hidentity : w.state.identity = h.now.identity) :
    Backed ext (h.push w) := by
  intro _ hw
  have hold : h.now.Authorized := by
    obtain ⟨auth, hread, hok⟩ := hw
    exact ⟨auth, by rw [← hauth]; exact hread, hok⟩
  obtain ⟨j, hg⟩ := hb hsettled hold
  exact ⟨j, hg.push hbinding hcredential hidentity⟩

theorem settled_of_load {d : Disk} {state : StoredPairingState} (hs : loadState d.pairing = .ok (some state))
    (hne : ∀ j, state ≠ .activating j) : d.Settled := by
  intro j hj
  rw [hs] at hj
  cases hj
  exact hne j rfl

theorem Replaceable.settled {config : ClientConfig} {now : DateTime} {d : Disk}
    (hr : Replaceable ext config now d) : d.Settled := by
  intro j hj
  rw [Replaceable, hj] at hr
  exact hr

/-- A directory whose journal was just made `Activating` has a commit under way. -/
theorem backed_of_activating {j : Activating} (hj : loadState h.now.pairing = .ok (some (.activating j))) :
    Backed ext h := fun hsettled => absurd hj (hsettled j)

theorem backed_start : Backed ext ⟨Disk.empty, []⟩ := by
  rintro - ⟨auth, hread, hok⟩
  have hnone : localAuthStateUnlocked (File.absent : File (Document LocalAuthState)) = .ok none := rfl
  change localAuthStateUnlocked File.absent = _ at hread
  rw [hnone] at hread
  cases hread
  cases hok

/-- **Every permitted write keeps the directory backed**, unless it archives. -/
theorem Permit.backed {a : Writer} {d : Disk} (hb : Backed ext h) (hp : Permit ext lossy h a d)
    (hun : a.call ≠ .archiveIncompatibleAccountState) : Backed ext (h.push ⟨d, a⟩) := by
  cases hp with
  | created config host mode endpoint hcall hendpoint hfresh hold =>
    exact hb.push_of_same hold.settled rfl rfl rfl rfl
  | pended c c' mode p hstate =>
    exact hb.push_of_same (settled_of_load hstate (by simp)) rfl rfl rfl rfl
  | activated p p' instanceId hstate hseen hsame =>
    have hgen : (StoredPairingState.activating (p.activating instanceId)).generation =
        (StoredPairingState.pending p').generation := (same_of_isCurrentPending hsame).symm
    exact backed_of_activating (load_putPairing hstate hgen h.now)
  | staged j n hn hstaged hvalid htoken =>
    match n, hn with
    | 0, _ | 1, _ | 2, _ | 3, _ => exact backed_of_activating hstaged.journal
    | 4, _ =>
      have hdone := hstaged.commit (notNil_of_loadState hstaged.journal) hvalid htoken a.input
      exact fun _ _ => ⟨j, Genuine.of_committed (Seen.now hstaged.journal) hdone⟩
  | denied p p' t hstate => exact hb.push_of_same (settled_of_load hstate (by simp)) rfl rfl rfl rfl
  | expired p p' t hstate => exact hb.push_of_same (settled_of_load hstate (by simp)) rfl rfl rfl rfl
  | revoked b reason hbound hcall =>
    rintro - ⟨auth, hread, hok⟩
    rw [History.now_push, putAuth, localAuthStateUnlocked_file] at hread
    cases hread
    cases hok
  | archived copy hcall => exact absurd hcall hun
  | cleared file hcall => exact absurd hcall hun

theorem backed_of_legal (hl : (guarantee ext lossy (· = Disk.empty)).Legal h) (hun : Unarchived h) :
    Backed ext h := by
  induction hl with
  | start hs =>
    cases hs
    exact backed_start
  | @push h w hh hw ih => exact Permit.backed (ih hun.of_push) hw (hun w List.mem_cons_self)

/-! ## Reporters -/

/-- A snapshot made of a backed directory is issued by the commit that the directory names. -/
theorem Handed.issued {config : ClientConfig} {s : ReporterSnapshot} (hb : Backed ext h)
    (hs : Handed ext config h.now s) : ∃ j, Genuine ext h j ∧ Issued j s := by
  obtain ⟨b, hbound, hmade⟩ := hs
  obtain ⟨state, hload, hphase, -⟩ := hbound.journal
  obtain ⟨j, hg⟩ := hb (settled_of_load hload hphase) hbound.authorized
  have hbj : b = j.binding := by
    have hfile := hbound.binding
    rw [hg.binding, loadActiveBinding_file hg.valid] at hfile
    exact (Option.some.inj (Except.ok.inj hfile)).symm
  obtain ⟨-, hid, hhost, hsecret, hrev, hend, hreport⟩ :=
    reporterForActiveBinding_eq_ok hmade hbound.hostCredentials_binding
  have htoken : s.reporter.token = j.bearerSecret := by
    rw [hg.credential, putCredential, readSecret_of hg.token] at hsecret
    exact (Except.ok.inj hsecret).symm
  rw [hbj] at hid hhost hrev hend hreport
  exact ⟨j, hg, htoken, hid, hhost, hend, hreport, hrev⟩

/-- The snapshot that a call hands out. -/
def handedOut : Call → Answer → Option ReporterSnapshot
  | .existingReporterForRun _, .snapshot (.ok s) => s
  | .reporterSnapshotForCurrentActiveState _, .snapshot (.ok s) => s
  | .refreshReporterSnapshot _ _, .snapshot (.ok s) => s
  | .prepareReporterTurn _, .snapshot (.ok s) => s
  | .activateReporterSnapshot _ _ _ _ _, .reporter (.ok s) => some s
  | .recover _ _, .probe (.ok (.credential s)) => some s
  | _, _ => none

theorem Promise.handed {call : Call} {answer : Answer} {tr : List (Request × Reply)} {k : Chronicle}
    {s : ReporterSnapshot} (hp : Promise ext call h answer tr k) (hs : handedOut call answer = some s) :
    ∃ config, HandedBetween ext config h k s := by
  unfold handedOut at hs
  split at hs
  · subst hs; exact ⟨_, hp⟩
  · subst hs; exact ⟨_, hp⟩
  · subst hs; exact ⟨_, hp⟩
  · subst hs; exact ⟨_, hp⟩
  · cases hs; exact ⟨_, hp⟩
  · cases hs
    obtain ⟨m, hm, hk, hfresh⟩ := hp _ rfl
    obtain ⟨b, hbound, -, hmade⟩ := handed_of_refreshReporterSnapshot hfresh
    exact ⟨_, m, hm, hk, b, hbound, hmade⟩
  · cases hs

/-- **Credentials stay bound.** In every state that the client reaches from an empty directory, crashes included: when
no commit is under way and the directory is authorized, there is a binding, and token and identity are those that the
commit of the binding's own generation and request wrote. Every snapshot that is handed out pairs the token, the
identity and the endpoint of one such commit. -/
theorem credential_binding (ext : External) (lossy : Chronicle → Prop)
    (w : World Disk Inputs Request Reply Call Answer) (hr : ReachFrom ext lossy Disk.empty w)
    (hun : Unarchived w.history) :
    (∀ h, h ≤ w.history → h.now.Settled → h.now.Authorized →
      ∃ b j, loadActiveBinding ext.url h.now.binding = .ok (some b) ∧ b = j.binding ∧ Genuine ext h j ∧
        ∀ j', Seen h (.activating j') → j'.generation = b.generation → j' = j) ∧
    ∀ o ∈ w.returned, ∀ s, handedOut o.call o.value = some s →
      ∃ m j, o.since ≤ m ∧ m ≤ o.upto ∧ Genuine ext m j ∧ Issued j s := by
  have hsound := sound_of_reach hr
  have hbacked : ∀ h, h ≤ w.history → Backed ext h :=
    fun h hh => backed_of_legal (hsound.legal.of_le hh) (hun.of_le hh)
  constructor
  · intro h hh hsettled hauth
    obtain ⟨j, hg⟩ := hbacked h hh hsettled hauth
    refine ⟨j.binding, j, by rw [hg.binding, loadActiveBinding_file hg.valid], rfl, hg, ?_⟩
    intro j' hj' hgen
    have hsame := seen_unique (hsound.legal.of_le hh) hj' hg.journal hgen rfl
    cases hsame
    rfl
  · intro o ho s hs
    obtain ⟨hupto, k, hk, hku, hpromise⟩ := hsound.returned o ho
    obtain ⟨config, m, hm, hmk, hhanded⟩ := hpromise.handed hs
    obtain ⟨j, hg, hissued⟩ := Handed.issued (hbacked m (hmk.trans (hku.trans hupto))) hhanded
    exact ⟨m, j, hm, hmk.trans hku, hg, hissued⟩

namespace Rehearsal

variable {w : Client}

theorem unarchived_history (hw : unarchived w = true) : Unarchived w.history := by
  intro v hv hcall
  have hall := List.all_eq_true.mp hw v hv
  simp [hcall] at hall

theorem authorized_of_recovered (hw : recovered w = true) : w.history.now.Authorized := by
  obtain ⟨-, hauth⟩ := (Bool.and_eq_true _ _).mp hw
  split at hauth
  · rename_i auth hread
    exact ⟨auth, hread, hauth⟩
  · cases hauth

end Rehearsal

/-- The credential that is rehearsed is bound, and so is the snapshot that the service starts with. -/
theorem credential_binding_rehearsed :
    ∃ w j o, ReachFrom sampleServer (fun _ => False) Disk.empty w ∧ Genuine sampleServer w.history j ∧
      o ∈ w.returned ∧ ∃ m j', o.since ≤ m ∧ Genuine sampleServer m j' ∧ Issued j' (sampleSnapshot 2 9) := by
  obtain ⟨w, hr, hholds⟩ := rehearsed
  simp only [Rehearsal.holds, Bool.and_eq_true] at hholds
  obtain ⟨⟨⟨⟨⟨⟨hun, hrecovered⟩, -⟩, -⟩, -⟩, -⟩, hserves⟩ := hholds
  obtain ⟨hbound, hhanded⟩ := credential_binding sampleServer _ w hr (Rehearsal.unarchived_history hun)
  obtain ⟨a, hload, -, -⟩ := Rehearsal.active_of_recovered hrecovered
  obtain ⟨b, j, -, -, hg, -⟩ := hbound w.history (le_refl _) (settled_of_load hload (by simp))
    (Rehearsal.authorized_of_recovered hrecovered)
  obtain ⟨o, ho, hstarts⟩ := List.any_eq_true.mp hserves
  obtain ⟨hcall, hvalue⟩ := Rehearsal.eq_of_starts ((Bool.and_eq_true _ _).mp hstarts).1
  obtain ⟨m, j', hm, -, hg', hissued⟩ := hhanded o ho _ (by rw [hcall, hvalue]; rfl)
  exact ⟨w, j, o, hr, hg, ho, m, j', hm, hg', hissued⟩

end

end Xsoc
