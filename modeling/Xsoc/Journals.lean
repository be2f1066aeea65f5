import Xsoc.Recovery
import Xsoc.Status

/-!
# Which journals can be committed

The commit journal is made durable before its binding is validated. What its validation asks beyond that of the
endpoint and the secret, the replies and the configuration do not promise: that no UUID is nil, and that the binding
fits its file, whose budget is a quarter of the journal's.

* `Accounted` : what holds of every record the client writes to the journal; `accounted_of_legal`;
* `Activating.Acceptable` : what is left; `commit_ok_iff` : a journal is committed exactly if it holds;
* `journal_committed_iff` : and then, and only then, does a replacement get past it.
-/

set_option autoImplicit false

namespace Xsoc

open Durable

/-! ## Sizes -/

theorem plain_of_isLowerHex {c : Char} (hc : isLowerHex c = true) : Json.plain c = true := by
  simp only [isLowerHex, Bool.or_eq_true, Bool.and_eq_true, decide_eq_true_eq, Char.le_def,
    UInt32.le_iff_toNat_le] at hc
  change ((48 ≤ c.toNat ∧ c.toNat ≤ 57) ∨ (97 ≤ c.toNat ∧ c.toNat ≤ 102)) at hc
  have hquote : c ≠ '"' := by
    rintro rfl
    revert hc
    decide
  have hback : c ≠ '\\' := by
    rintro rfl
    revert hc
    decide
  simp only [Json.plain, Bool.and_eq_true, decide_eq_true_eq, bne_iff_ne]
  exact ⟨⟨⟨by omega, by omega⟩, hquote⟩, hback⟩

theorem byteLen_quote_text (u : Uuid) : byteLen (Json.quote u.text) = 38 := by
  have hplain : ∀ c ∈ u.text, Json.plain c = true := by
    intro c hc
    rcases Uuid.plain_of_mem_text hc with hc | rfl
    · exact plain_of_isLowerHex hc
    · decide
  rw [Json.byteLen_quote_of_plain hplain, Uuid.length_text]

/-- The size of a binding document, but for its endpoint. -/
theorem byteLen_binding (b : ActiveBinding) : byteLen b.render = byteLen (Json.text b.reportEndpoint) + 216 := by
  have hkeys : byteLen "version".toList = 7 ∧ byteLen (Json.text persistedStateFormat) = 7 ∧
      byteLen "generation".toList = 10 ∧ byteLen "request_id".toList = 10 ∧ byteLen "instance_id".toList = 11 ∧
      byteLen "report_endpoint".toList = 15 := by decide +kernel
  simp only [ActiveBinding.render, Json.byteLen_prettyObject, Json.fieldSize, byteLen_quote_text, List.map_cons,
    List.map_nil, List.sum_cons, List.sum_nil]
  omega

/-! ## What is accounted for -/

section

variable {ext : External} {lossy : Chronicle → Prop} {h : Chronicle}

variable (ext) in
/-- What the client makes sure of before it writes a record: the secret, the endpoint, and the size of the journal. -/
def StoredPairingState.Accounted : StoredPairingState → Prop
  | creating c => validateCurrentToken c.bearerSecret = .ok ()
  | pending p => validateCurrentToken p.bearerSecret = .ok () ∧ validateEndpoint ext.url p.reportEndpoint = .ok ()
  | activating j => validateCurrentToken j.bearerSecret = .ok () ∧ validateEndpoint ext.url j.reportEndpoint = .ok () ∧
      byteLen ((StoredPairingState.activating j).render ext.serde) ≤ StateFile.maxBytes .pairing
  | _ => True

variable (ext) in
/-- Every record that was in the journal is accounted for. -/
def Accounted (h : Chronicle) : Prop := ∀ s, Seen h s → s.Accounted ext

theorem Accounted.push_of_load (ha : Accounted ext h) {w : Write Disk Writer} {t : StoredPairingState}
    (hload : loadState w.state.pairing = .ok (some t)) (ht : t.Accounted ext) : Accounted ext (h.push w) := by
  intro s hs
  rcases seen_push.mp hs with hnow | hs
  · rw [hload] at hnow
    cases hnow
    exact ht
  · exact ha s hs

theorem Accounted.push_of_kept (ha : Accounted ext h) {w : Write Disk Writer}
    (hkeep : w.state.pairing = h.now.pairing) : Accounted ext (h.push w) := by
  intro s hs
  rcases seen_push.mp hs with hnow | hs
  · rw [hkeep] at hnow
    exact ha s (Seen.now hnow)
  · exact ha s hs

/-- A directory without a journal adds no record. -/
theorem Accounted.push_of_absent (ha : Accounted ext h) {w : Write Disk Writer} (habs : w.state.pairing = .absent) :
    Accounted ext (h.push w) := by
  intro s hs
  rcases seen_push.mp hs with hnow | hs
  · rw [habs] at hnow
    cases hnow
  · exact ha s hs

theorem Permit.accounted {a : Writer} {d : Disk} (ha : Accounted ext h) (hp : Permit ext lossy h a d) :
    Accounted ext (h.push ⟨d, a⟩) := by
  have hput : ∀ {s t : StoredPairingState}, loadState h.now.pairing = .ok (some s) → t.generation = s.generation →
      t.Accounted ext → Accounted ext (h.push ⟨putPairing ext.serde t h.now, a⟩) :=
    fun hs hgen ht => ha.push_of_load (load_putPairing hs hgen h.now) ht
  cases hp with
  | created config host mode endpoint hcall hendpoint hfresh hold =>
    exact ha.push_of_load (loadState_file hfresh.notNil) (validateCurrentToken_randomSecret _)
  | pended c c' mode p hstate hseen hsame hmode hreply hvalid =>
    obtain ⟨now, response, -, haccept⟩ := hreply
    obtain ⟨-, hgen, -, hbearer, -⟩ := acceptCreated_reportEndpoint haccept
    refine hput hstate (hgen.trans hsame.1.symm) ⟨?_, hvalid⟩
    rw [hbearer]
    exact ha _ hseen
  | activated p p' instanceId hstate hseen hsame hreply hvalid hfits =>
    exact hput hstate (same_of_isCurrentPending hsame).symm ⟨(ha _ hseen).1, hvalid, hfits⟩
  | staged j n hn hstaged hvalid htoken =>
    match n, hn with
    | 0, _ | 1, _ | 2, _ | 3, _ => exact ha.push_of_kept rfl
    | 4, _ => exact hput hstaged.journal rfl trivial
  | denied p p' t hstate hseen hsame => exact hput hstate (same_of_isCurrentPending hsame).symm trivial
  | expired p p' t hstate hseen hsame => exact hput hstate (same_of_isCurrentPending hsame).symm trivial
  | revoked b reason hbound hcall => exact ha.push_of_kept rfl
  | archived copy hcall => exact ha.push_of_kept rfl
  | cleared file hcall hfirst hfile =>
    cases file with
    | pairing => exact ha.push_of_absent rfl
    | identity | credential | authorization | binding => exact ha.push_of_kept rfl

theorem accounted_of_legal (hl : (guarantee ext lossy (· = Disk.empty)).Legal h) : Accounted ext h := by
  refine hl.invariant ?_ (fun _ _ _ ha hw => Permit.accounted ha hw)
  rintro d rfl s hs
  cases History.saw_origin.mp hs

/-- The journal always loads: the client never leaves one that it cannot read. -/
theorem readable_of_legal (hl : (guarantee ext lossy (· = Disk.empty)).Legal h) :
    ∃ state, loadState h.now.pairing = .ok state := by
  refine hl.invariant (I := fun h => ∃ state, loadState h.now.pairing = .ok state) ?_ ?_
  · rintro d rfl
    exact ⟨none, rfl⟩
  · intro k w hk hread hw
    rw [History.now_push]
    cases Permit.moved (ordered_of_legal hk) hw with
    | kept hkeep => rw [hkeep]; exact hread
    | began config host mode endpoint hcall hfresh hold hafter => exact ⟨_, hafter⟩
    | answered c mode p hbefore hafter => exact ⟨_, hafter⟩
    | accepted p instanceId hbefore hafter => exact ⟨_, hafter⟩
    | committed j t hbefore hafter => exact ⟨_, hafter⟩
    | denied p t hbefore hafter => exact ⟨_, hafter⟩
    | expired p t hbefore hafter => exact ⟨_, hafter⟩
    | removed hcall hafter => rw [hafter]; exact ⟨none, rfl⟩

/-! ## What is not -/

/-- What the commit asks of a journal and nothing before it has checked: the UUIDs that the server chose are not nil,
and the endpoint leaves room for the rest of the binding in a file of 16 KiB. -/
structure Activating.Acceptable (j : Activating) : Prop where
  request : j.requestId.isNil = false
  instance_ : j.instanceId.isNil = false
  endpoint : byteLen (Json.text j.reportEndpoint) ≤ 16168

theorem Activating.Acceptable.committable {j : Activating} (hj : j.Acceptable) (hnil : j.generation.isNil = false)
    (ha : (StoredPairingState.activating j).Accounted ext) : j.Committable ext where
  version := version_eq_current _
  binding := by
    have hcheck : j.binding.generation.isNil = false ∧ j.binding.requestId.isNil = false ∧
        j.binding.instanceId.isNil = false := ⟨hnil, hj.request, hj.instance_⟩
    unfold validateActiveBinding
    rw [validateStateVersion_eq]
    simp only [bind, Except.bind, check, if_pos hcheck]
    rw [show j.binding.reportEndpoint = j.reportEndpoint from rfl, ha.2.1]
    rfl
  token := ha.1
  bindingFits := by
    have hsize := byteLen_binding j.binding
    have hend := hj.endpoint
    change _ ≤ 16384
    change _ = byteLen (Json.text j.reportEndpoint) + 216 at hsize
    omega
  activeFits t := (byteLen_active_le j t ha.1).trans ha.2.2

theorem Activating.Committable.acceptable {j : Activating} (hj : j.Committable ext) : j.Acceptable := by
  have hbinding := hj.binding
  unfold validateActiveBinding at hbinding
  obtain ⟨_, -, hbinding⟩ := Except.bind_eq_ok.mp hbinding
  obtain ⟨_, hcheck, -⟩ := Except.bind_eq_ok.mp hbinding
  obtain ⟨-, hrequest, hinstance⟩ := check_eq_ok.mp hcheck
  refine ⟨hrequest, hinstance, ?_⟩
  have hsize := byteLen_binding j.binding
  have hfits : byteLen j.binding.render ≤ 16384 := hj.bindingFits
  change _ = byteLen (Json.text j.reportEndpoint) + 216 at hsize
  omega

/-- A journal that is accounted for is committed, in whatever directory, exactly if it is acceptable. -/
theorem commit_ok_iff {j : Activating} (hnil : j.generation.isNil = false)
    (ha : (StoredPairingState.activating j).Accounted ext) (i : Inputs) (d : Disk) :
    (∃ r, (commitActivatingUnlocked ext i j).result d = .ok r) ↔ j.Acceptable := by
  constructor
  · rintro ⟨r, hr⟩
    exact (committable_of_accepted ha.2.2 hr).acceptable
  · intro hj
    exact ⟨_, congrArg Prod.snd (run_commitActivatingUnlocked (hj.committable hnil ha) i d)⟩

/-! ## Replacements -/

/-- On an empty directory, `prepare_start` fails exactly if the new journal cannot be written. -/
theorem prepareStart_empty (config : ClientConfig) (host : HostIdentity) (i : Inputs) :
    prepareStart ext config host i Disk.empty = startCreating ext config host i Disk.empty := by
  unfold prepareStart
  rw [Tx.run_bind, Tx.run_read]
  rfl

/-- What `startCreating` does, it does to the journal only: it succeeds everywhere, or nowhere. -/
theorem run_startCreating {config : ClientConfig} {host : HostIdentity} {i : Inputs} {r : PairingStart}
    (hempty : (startCreating ext config host i).result Disk.empty = .ok r) (d : Disk) :
    ∃ endpoint, config.pairingEndpointOf ext.url = .ok endpoint ∧ startCreating ext config host i d =
      ([putPairing ext.serde (.creating (newCreating config host endpoint i)) d],
        .ok (.create (newCreating config host endpoint i))) := by
  unfold Tx.result startCreating at hempty
  rw [Tx.run_bind, Tx.run_ofExcept] at hempty
  cases hendpoint : config.pairingEndpointOf ext.url with
  | error e =>
    rw [hendpoint] at hempty
    cases hempty
  | ok endpoint =>
    refine ⟨endpoint, rfl, ?_⟩
    rw [hendpoint] at hempty
    by_cases hfit : byteLen ((StoredPairingState.creating (newCreating config host endpoint i)).render ext.serde) ≤
        StateFile.maxBytes .pairing
    · unfold startCreating
      rw [Tx.run_bind, Tx.run_ofExcept, hendpoint]
      simp only [Tx.run_bind, run_persistStateUnlocked hfit]
      rfl
    · simp only [Tx.run_bind, run_persistStateUnlocked_error hfit] at hempty
      cases hempty

/-- A replacement completes the accepted activation, or begins a new request, or both. -/
inductive Replaced (ext : External) (config : ClientConfig) (host : HostIdentity) (i : Inputs) (d : Disk) :
    PairingStart → Disk → Prop
  | completed (j : Activating) (d' : Disk) (hj : loadState d.pairing = .ok (some (.activating j)))
      (hdone : Committed ext j d') : Replaced ext config host i d (.waiting j.session) d'
  | began (endpoint : String) (d' : Disk) (hd' : d' = d ∨ ∃ j, loadState d.pairing = .ok (some (.activating j)) ∧
      Committed ext j d') :
      Replaced ext config host i d (.create (newCreating config host endpoint i))
        (putPairing ext.serde (.creating (newCreating config host endpoint i)) d')

theorem prepareStart_of_acceptable {config : ClientConfig} {host : HostIdentity} {i : Inputs} {r : PairingStart}
    {d : Disk} {state : Option StoredPairingState} (hreplace : config.replacePendingPairing = true)
    (hempty : (prepareStart ext config host i).result Disk.empty = .ok r) (hload : loadState d.pairing = .ok state)
    (hcoherent : Coherent ext d) (hj : ∀ j, state = some (.activating j) → j.Committable ext) :
    ∃ r', (prepareStart ext config host i).result d = .ok r' ∧
      Replaced ext config host i d r' (Tx.last d ((prepareStart ext config host i).writes d)) := by
  unfold Tx.result at hempty
  rw [prepareStart_empty] at hempty
  obtain ⟨endpoint, hendpoint, hstart⟩ :
      ∃ endpoint, config.pairingEndpointOf ext.url = .ok endpoint ∧ ∀ d, startCreating ext config host i d =
        ([putPairing ext.serde (.creating (newCreating config host endpoint i)) d],
          .ok (.create (newCreating config host endpoint i))) := by
    obtain ⟨endpoint, hendpoint, -⟩ := run_startCreating hempty d
    refine ⟨endpoint, hendpoint, fun d => ?_⟩
    obtain ⟨endpoint', hendpoint', hrun⟩ := run_startCreating hempty d
    cases hendpoint.symm.trans hendpoint'
    exact hrun
  have hnew : prepareStart ext config host i d = startCreating ext config host i d →
      ∃ r', (prepareStart ext config host i).result d = .ok r' ∧
        Replaced ext config host i d r' (Tx.last d ((prepareStart ext config host i).writes d)) := by
    intro hrun
    unfold Tx.result Tx.writes
    rw [hrun, hstart]
    exact ⟨_, rfl, .began endpoint d (Or.inl rfl)⟩
  match state, hload, hj with
  | some (.activating j), hload, hj =>
    have hcommit := hj j rfl
    have hdone := committed_stage hcommit hload i
    obtain ⟨same, hsame⟩ : ∃ same, pairingEndpointsMatch ext config j.pairingEndpoint j.reportEndpoint = .ok same := by
      unfold pairingEndpointsMatch
      rw [hendpoint]
      exact ⟨_, rfl⟩
    have hrun := run_prepareStart hcommit hload hsame host i
    unfold Tx.result Tx.writes
    cases same with
    | true =>
      rw [if_pos rfl] at hrun
      rw [hrun]
      exact ⟨_, rfl, .completed j _ hload hdone⟩
    | false =>
      rw [if_neg Bool.false_ne_true, hstart] at hrun
      rw [hrun, Tx.last_append]
      exact ⟨_, rfl, .began endpoint _ (Or.inr ⟨j, hload, hdone⟩)⟩
  | some (.active a), hload, _ =>
    apply hnew
    have hbinding : loadCurrentActiveBinding ext d.binding a.binding = .ok a.binding := by
      unfold loadCurrentActiveBinding
      rw [hcoherent a hload]
      simp [bind, Except.bind]
    unfold prepareStart
    rw [Tx.run_bind, Tx.run_read, hload]
    simp only [Tx.run_bind, Tx.run_read, Tx.last_nil, hbinding, List.nil_append]
  | none, hload, _ | some (.creating _), hload, _ | some (.pending _), hload, _ | some (.denied _), hload, _
  | some (.expired _), hload, _ =>
    apply hnew
    unfold prepareStart
    rw [Tx.run_bind, Tx.run_read, hload]
    simp [hreplace]

/-- `prepare_start` gets past an `Activating` journal only by its commit. -/
theorem commit_of_prepareStart {config : ClientConfig} {host : HostIdentity} {i : Inputs} {r : PairingStart} {d : Disk}
    {j : Activating} (hload : loadState d.pairing = .ok (some (.activating j)))
    (hok : (prepareStart ext config host i).result d = .ok r) :
    ∃ r', (commitActivatingUnlocked ext i j).result d = .ok r' := by
  cases hsame : pairingEndpointsMatch ext config j.pairingEndpoint j.reportEndpoint with
  | error e =>
    unfold Tx.result at hok
    rw [run_prepareStart_error hload hsame] at hok
    cases hok
  | ok same =>
    unfold Tx.result at hok ⊢
    rcases hcommit : commitActivatingUnlocked ext i j d with ⟨ws, e | r'⟩
    · have hreplace : HostCredentials.replace ext i j d = (ws, .error e) := by
        unfold HostCredentials.replace
        rw [Tx.run_bind, Tx.run_read, hload]
        simp only [and_self, if_true, Tx.last_nil, List.nil_append]
        rw [Tx.run_bind_error hcommit]
      have hfinish : finishActivatingUnlocked ext i j d = (ws, .error e) := by
        unfold finishActivatingUnlocked
        rw [Tx.run_bind_error hreplace]
      unfold prepareStart at hok
      rw [Tx.run_bind, Tx.run_read, hload] at hok
      simp only [Tx.last_nil, List.nil_append, Tx.run_bind, Tx.run_ofExcept, hsame, hfinish] at hok
      cases hok
    · exact ⟨r', rfl⟩

/-- **Which journals wedge.** In every run from an empty directory: a commit journal that was made durable is committed
exactly if it is acceptable; and a replacement that an empty directory would let begin gets past the journal that is
there exactly if that one, when it is a commit journal, is acceptable. It then completes the accepted activation, or
begins a new request. -/
theorem journal_committed_iff (ext : External) (lossy : Chronicle → Prop)
    (w : World Disk Inputs Request Reply Call Answer) (hr : ReachFrom ext lossy Disk.empty w) :
    (∀ h, h ≤ w.history → ∀ j, Seen h (.activating j) → ∀ i d,
      (∃ r, (commitActivatingUnlocked ext i j).result d = .ok r) ↔ j.Acceptable) ∧
    ∀ h, h ≤ w.history → ∀ config host i r, config.replacePendingPairing = true →
      (prepareStart ext config host i).result Disk.empty = .ok r →
      ((∃ r', (prepareStart ext config host i).result h.now = .ok r') ↔
        ∀ j, loadState h.now.pairing = .ok (some (.activating j)) → j.Acceptable) ∧
      ∀ r', (prepareStart ext config host i).result h.now = .ok r' →
        Replaced ext config host i h.now r' (Tx.last h.now ((prepareStart ext config host i).writes h.now)) := by
  have hsound := sound_of_reach hr
  have hnil : ∀ h, h ≤ w.history → ∀ j, Seen h (.activating j) → j.generation.isNil = false := by
    rintro h hh j ⟨m, hm, hload⟩
    exact notNil_of_loadState hload
  have hcommit : ∀ h, h ≤ w.history → ∀ j, Seen h (.activating j) → ∀ i d,
      (∃ r, (commitActivatingUnlocked ext i j).result d = .ok r) ↔ j.Acceptable :=
    fun h hh j hj => commit_ok_iff (hnil h hh j hj) (accounted_of_legal (hsound.legal.of_le hh) _ hj)
  refine ⟨hcommit, ?_⟩
  intro h hh config host i r hreplace hempty
  have hl := hsound.legal.of_le hh
  have hcoherent : Coherent ext h.now := coherent_of_legal (by rintro d rfl; exact coherent_empty) hl
  obtain ⟨state, hload⟩ := readable_of_legal hl
  have hnew : (∀ j, loadState h.now.pairing = .ok (some (.activating j)) → j.Acceptable) →
      ∃ r', (prepareStart ext config host i).result h.now = .ok r' ∧
        Replaced ext config host i h.now r' (Tx.last h.now ((prepareStart ext config host i).writes h.now)) := by
    intro hacc
    refine prepareStart_of_acceptable hreplace hempty hload hcoherent ?_
    rintro j rfl
    exact (hacc j hload).committable (notNil_of_loadState hload) (accounted_of_legal hl _ (Seen.now hload))
  have hpast : ∀ r', (prepareStart ext config host i).result h.now = .ok r' →
      ∀ j, loadState h.now.pairing = .ok (some (.activating j)) → j.Acceptable := by
    intro r' hok j hj
    exact (hcommit h hh j (Seen.now hj) i h.now).mp (commit_of_prepareStart hj hok)
  constructor
  · constructor
    · rintro ⟨r', hok⟩
      exact hpast r' hok
    · intro hacc
      obtain ⟨r', hok, -⟩ := hnew hacc
      exact ⟨r', hok⟩
  · intro r' hok
    obtain ⟨r'', hok', hshape⟩ := hnew (hpast r' hok)
    cases hok.symm.trans hok'
    exact hshape

/-- The rehearsed service is paired, so that its user can replace the pairing; a stalled activation never commits. -/
theorem journal_committed_iff_sample :
    (∃ w r, ReachFrom sampleServer (fun _ => False) Disk.empty w ∧ Rehearsal.holds w = true ∧
      (prepareStart sampleServer (sampleConfig true) (sampleHost "h") (sampleInputs 4)).result w.history.now = .ok r) ∧
    ∃ w j, ReachFrom sampleServer (fun _ => False) Disk.empty w ∧ Seen w.history (.activating j) ∧
      ¬ ∃ r, (commitActivatingUnlocked sampleServer (sampleInputs 4) j).result w.history.now = .ok r := by
  constructor
  · obtain ⟨w, hr, hholds⟩ := rehearsed
    have hrecovered := hholds
    simp only [Rehearsal.holds, Bool.and_eq_true] at hrecovered
    obtain ⟨⟨⟨⟨⟨⟨-, hrecovered⟩, -⟩, -⟩, -⟩, -⟩, -⟩ := hrecovered
    obtain ⟨a, hload, -, -⟩ := Rehearsal.active_of_recovered hrecovered
    obtain ⟨r₀, hempty⟩ : ∃ r, (prepareStart sampleServer (sampleConfig true) (sampleHost "h") (sampleInputs 4)).result
        Disk.empty = .ok r := ok_of_isOk (by decide +kernel)
    obtain ⟨hpast, -⟩ := (journal_committed_iff sampleServer _ w hr).2 w.history (le_refl _) (sampleConfig true)
      (sampleHost "h") (sampleInputs 4) r₀ rfl hempty
    obtain ⟨r, hok⟩ := hpast.mpr (fun j hj => by rw [hload] at hj; cases hj)
    exact ⟨w, r, hr, hholds, hok⟩
  · obtain ⟨w, hr, hholds⟩ := stalled
    obtain ⟨j, hload, hnil⟩ := Stall.activating_of_holds hholds
    refine ⟨w, j, hr, Seen.now hload, ?_⟩
    intro hok
    have hj := ((journal_committed_iff sampleServer _ w hr).1 w.history (le_refl _) j (Seen.now hload) _ _).mp hok
    have hother := hj.instance_
    rw [hnil] at hother
    cases hother

/-- A reply that names the nil instance wedges the journal: no commit of it succeeds, and no replacement gets past it,
whatever its configuration. -/
theorem stalled_journal_wedged :
    ∃ w j, ReachFrom sampleServer (fun _ => False) Disk.empty w ∧
      loadState w.history.now.pairing = .ok (some (.activating j)) ∧
      (∀ i d, ¬ ∃ r, (commitActivatingUnlocked sampleServer i j).result d = .ok r) ∧
      ∀ config host i, ¬ ∃ r, (prepareStart sampleServer config host i).result w.history.now = .ok r := by
  obtain ⟨w, hr, hholds⟩ := stalled
  obtain ⟨j, hload, hnil⟩ := Stall.activating_of_holds hholds
  have haccounted := accounted_of_legal (sound_of_reach hr).legal _ (Seen.now hload)
  have hcommit : ∀ i d, ¬ ∃ r, (commitActivatingUnlocked sampleServer i j).result d = .ok r := by
    intro i d hok
    have hj := (commit_ok_iff (notNil_of_loadState hload) haccounted i d).mp hok
    have hother := hj.instance_
    rw [hnil] at hother
    cases hother
  refine ⟨w, j, hr, hload, hcommit, ?_⟩
  rintro config host i ⟨r, hok⟩
  exact hcommit i w.history.now (commit_of_prepareStart hload hok)

end

end Xsoc
