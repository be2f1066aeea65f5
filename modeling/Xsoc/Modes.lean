import Xsoc.Generations
import Xsoc.Playback

/-!
# The mode of a request, and the identity it is for

A request is for a fresh host or for the identity on disk. Its mode is not stored: it is read off the identity file at
each POST, and once the server knows the request it is not known any more. The instance that the server activates is
not compared with anything.

* `Tracked` : while a generation is in the journal, the identity file is as it was, until the commit replaces it by the
  instance that the server's reply named;
* `recovered_identity_iff` : so a recovery preserves the identity exactly if the server answers with it;
* `posted_of_seen`, `begun_of_seen` : where the records of a generation come from;
* `requested_mode` : when the session that a call returns is of the mode it asked for.
-/

set_option autoImplicit false

namespace Xsoc

open Durable

/-! ## Where the records of a generation come from -/

/-- A write that leaves `d` at `h` begins the generation of `c`. -/
def Begins (h : Chronicle) (d : Disk) (c : Creating) : Prop :=
  loadState d.pairing = .ok (some (.creating c)) ∧ ∀ s, Seen h s → s.generation ≠ c.generation

/-- Generation `g` was begun, up to `h`, by a call in mode `mode`. -/
def BegunIn (h : Chronicle) (g : Uuid) (mode : PairMode) : Prop :=
  ∃ m a d config host c, History.push m ⟨d, a⟩ ≤ h ∧ a.call = .startOrResume config host mode ∧ Begins m d c ∧
    c.generation = g

/-- Request `r` of generation `g` was created, up to `h`, by the POST of `c` in mode `mode`. -/
def PostedIn (ext : External) (lossy : Chronicle → Prop) (h : Chronicle) (g r : Uuid) (c : Creating)
    (mode : PairMode) : Prop :=
  ∃ k a d p, History.push k ⟨d, a⟩ ≤ h ∧ loadState k.now.pairing = .ok (some (.creating c)) ∧
    loadState d.pairing = .ok (some (.pending p)) ∧ Inferred lossy k c mode ∧ CreatedBy ext a.transcript c mode p ∧
    p.generation = g ∧ p.requestId = r

/-- The server's reply said, up to `h`, that the request of generation `g` is active as instance `v`. -/
def AcceptedAs (ext : External) (h : Chronicle) (g v : Uuid) : Prop :=
  ∃ k a d p, History.push k ⟨d, a⟩ ≤ h ∧ loadState k.now.pairing = .ok (some (.pending p)) ∧
    loadState d.pairing = .ok (some (.activating (p.activating v))) ∧
    PolledBy ext a.transcript p ⟨.active, some v⟩ ∧ p.generation = g

section

variable {ext : External} {lossy : Chronicle → Prop} {h k : Chronicle} {g : Uuid}

theorem BegunIn.mono {mode : PairMode} (hb : BegunIn h g mode) (hle : h ≤ k) : BegunIn k g mode := by
  obtain ⟨m, a, d, config, host, c, hm, hrest⟩ := hb
  exact ⟨m, a, d, config, host, c, hm.trans hle, hrest⟩

theorem PostedIn.mono {r : Uuid} {c : Creating} {mode : PairMode} (hp : PostedIn ext lossy h g r c mode)
    (hle : h ≤ k) : PostedIn ext lossy k g r c mode := by
  obtain ⟨m, a, d, p, hm, hrest⟩ := hp
  exact ⟨m, a, d, p, hm.trans hle, hrest⟩

theorem AcceptedAs.mono {v : Uuid} (ha : AcceptedAs ext h g v) (hle : h ≤ k) : AcceptedAs ext k g v := by
  obtain ⟨m, a, d, p, hm, hrest⟩ := ha
  exact ⟨m, a, d, p, hm.trans hle, hrest⟩

/-- A generation is begun once. -/
theorem BegunIn.unique {mode mode' : PairMode} (hb : BegunIn h g mode) (hb' : BegunIn h g mode') : mode = mode' := by
  obtain ⟨m, a, d, config, host, c, hm, hcall, hbegins, hgen⟩ := hb
  obtain ⟨m', a', d', config', host', c', hm', hcall', hbegins', hgen'⟩ := hb'
  rcases History.le_total_of_le hm hm' with hle | hle
  · rcases History.le_push_iff.mp hle with heq | hle
    · obtain ⟨-, hw⟩ := History.push_injective heq
      cases hw
      rw [hcall] at hcall'
      cases hcall'
      rfl
    · have hseen : Seen m' (.creating c) := ⟨_, hle, hbegins.1⟩
      exact absurd (hgen.trans hgen'.symm) (hbegins'.2 _ hseen)
  · rcases History.le_push_iff.mp hle with heq | hle
    · obtain ⟨-, hw⟩ := History.push_injective heq
      cases hw
      rw [hcall] at hcall'
      cases hcall'
      rfl
    · have hseen : Seen m (.creating c') := ⟨_, hle, hbegins'.1⟩
      exact absurd (hgen'.trans hgen.symm) (hbegins.2 _ hseen)

/-- Where the records of a history that starts without a journal come from: each generation was begun by a call, and
each request by a POST. -/
structure Traced (ext : External) (lossy : Chronicle → Prop) (h : Chronicle) : Prop where
  begun : ∀ s, Seen h s → ∃ mode, BegunIn h s.generation mode
  posted : ∀ s, Seen h s → ∀ r, s.requestId? = some r → ∃ c mode, PostedIn ext lossy h s.generation r c mode

theorem Traced.push (ht : Traced ext lossy h) {a : Writer} {d : Disk} (hm : Moved ext lossy h a d) :
    Traced ext lossy (h.push ⟨d, a⟩) := by
  have hle := History.le_push h ⟨d, a⟩
  -- Every record but a new one was there, or comes from one of its generation.
  have hfrom : ∀ s, loadState d.pairing = .ok (some s) → (∃ t, Seen h t ∧ t.generation = s.generation ∧
      ∀ r, s.requestId? = some r → t.requestId? = some r ∨ ∃ c mode, PostedIn ext lossy (h.push ⟨d, a⟩) s.generation r c
        mode) ∨ ((∃ mode, BegunIn (h.push ⟨d, a⟩) s.generation mode) ∧ s.requestId? = none) := by
    intro s hs
    cases hm with
    | kept hkeep =>
      rw [hkeep] at hs
      exact Or.inl ⟨s, Seen.now hs, rfl, fun r hr => Or.inl hr⟩
    | began config host mode endpoint hcall hfresh hold hafter =>
      rw [hafter] at hs
      cases hs
      exact Or.inr ⟨⟨mode, h, a, d, config, host, _, le_refl _, hcall, ⟨hafter, hfresh.fresh⟩, rfl⟩, rfl⟩
    | answered c mode p hbefore hafter hmode hreply =>
      rw [hafter] at hs
      cases hs
      have hgen : c.generation = p.generation := by
        obtain ⟨now, response, -, haccept⟩ := hreply
        exact (acceptCreated_reportEndpoint haccept).2.1.symm
      refine Or.inl ⟨_, Seen.now hbefore, hgen, ?_⟩
      rintro r ⟨⟩
      exact Or.inr ⟨c, mode, h, a, d, p, le_refl _, hbefore, hafter, hmode, hreply, rfl, rfl⟩
    | accepted p v hbefore hafter hreply =>
      rw [hafter] at hs
      cases hs
      exact Or.inl ⟨_, Seen.now hbefore, rfl, fun r hr => Or.inl hr⟩
    | committed j t hbefore hafter =>
      rw [hafter] at hs
      cases hs
      exact Or.inl ⟨_, Seen.now hbefore, rfl, fun r hr => Or.inl hr⟩
    | denied p t hbefore hafter hreply =>
      rw [hafter] at hs
      cases hs
      exact Or.inl ⟨_, Seen.now hbefore, rfl, fun r hr => Or.inl hr⟩
    | expired p t hbefore hafter hreply =>
      rw [hafter] at hs
      cases hs
      exact Or.inl ⟨_, Seen.now hbefore, rfl, fun r hr => Or.inl hr⟩
    | removed hcall hafter =>
      rw [hafter] at hs
      cases hs
  constructor
  · intro s hs
    rcases seen_push.mp hs with hs | hs
    · rcases hfrom s hs with ⟨t, ht', hgen, -⟩ | ⟨hbegun, -⟩
      · obtain ⟨mode, hb⟩ := ht.begun t ht'
        rw [hgen] at hb
        exact ⟨mode, hb.mono hle⟩
      · exact hbegun
    · obtain ⟨mode, hb⟩ := ht.begun s hs
      exact ⟨mode, hb.mono hle⟩
  · intro s hs r hr
    rcases seen_push.mp hs with hs | hs
    · rcases hfrom s hs with ⟨t, ht', hgen, hreq⟩ | ⟨-, hnone⟩
      · rcases hreq r hr with hold | hnew
        · obtain ⟨c, mode, hp⟩ := ht.posted t ht' r hold
          rw [hgen] at hp
          exact ⟨c, mode, hp.mono hle⟩
        · exact hnew
      · rw [hnone] at hr
        cases hr
    · obtain ⟨c, mode, hp⟩ := ht.posted s hs r hr
      exact ⟨c, mode, hp.mono hle⟩

theorem traced_of_legal (hl : (guarantee ext lossy (· = Disk.empty)).Legal h) : Traced ext lossy h := by
  refine hl.invariant ?_ (fun k w hk ht hw => ht.push (Permit.moved (ordered_of_legal hk) hw))
  rintro d rfl
  constructor
  · intro s hs
    cases History.saw_origin.mp hs
  · intro s hs
    cases History.saw_origin.mp hs

/-! ## The identity while a generation is in the journal -/

/-- The identity file of an instance. -/
def identityFile (v : Uuid) : File (Option String) := .of v.text (some v.toString)

/-- The identity file `now`, against what it was when the generation of a record began. -/
def StoredPairingState.Identifies (before now : File (Option String)) : StoredPairingState → Prop
  | activating j => now = before ∨ now = identityFile j.instanceId
  | active s => now = identityFile s.instanceId
  | _ => now = before

def StoredPairingState.instanceId? : StoredPairingState → Option Uuid
  | activating j => some j.instanceId
  | active s => some s.instanceId
  | _ => none

/-- Generation `g`, if it is in the journal, has left the identity alone, up to its own commit, and that commit is of
the instance that the server's reply named. -/
def Tracked (ext : External) (g : Uuid) (before : File (Option String)) (h : Chronicle) : Prop :=
  ∀ t, loadState h.now.pairing = .ok (some t) → t.generation = g →
    t.Identifies before h.now.identity ∧ ∀ v, t.instanceId? = some v → AcceptedAs ext h g v

variable {before : File (Option String)}

theorem Tracked.push_of_same (ht : Tracked ext g before h) {w : Write Disk Writer}
    (hp : w.state.pairing = h.now.pairing) (hi : w.state.identity = h.now.identity) :
    Tracked ext g before (h.push w) := by
  intro t hload hgen
  rw [History.now_push, hp] at hload
  obtain ⟨hid, hacc⟩ := ht t hload hgen
  rw [History.now_push, hi]
  exact ⟨hid, fun v hv => (hacc v hv).mono (History.le_push h w)⟩

theorem Tracked.push_of_load {w : Write Disk Writer} {t : StoredPairingState}
    (hload : loadState w.state.pairing = .ok (some t)) (ht : t.generation = g →
      t.Identifies before w.state.identity ∧ ∀ v, t.instanceId? = some v → AcceptedAs ext (h.push w) g v) :
    Tracked ext g before (h.push w) := by
  intro t' hload' hgen
  rw [History.now_push, hload] at hload'
  cases hload'
  exact ht hgen

theorem Permit.tracked {a : Writer} {d : Disk} (ho : lineage.Ordered h) (hg : ∃ s, Seen h s ∧ s.generation = g)
    (ht : Tracked ext g before h) (hp : Permit ext lossy h a d) : Tracked ext g before (h.push ⟨d, a⟩) := by
  have hput : ∀ {s t : StoredPairingState}, loadState h.now.pairing = .ok (some s) → t.generation = s.generation →
      loadState (putPairing ext.serde t h.now).pairing = .ok (some t) := fun hs hgen => load_putPairing hs hgen h.now
  -- A record that advances from a pending one leaves the identity alone.
  have hpending : ∀ {p p' : Pending} {t : StoredPairingState}, loadState h.now.pairing = .ok (some (.pending p')) →
      isCurrentPending (some (.pending p')) p.generation p.requestId p.pairingEndpoint p.reportEndpoint
        p.pollingSecret = true → t.generation = p.generation →
      loadState (putPairing ext.serde t h.now).pairing = .ok (some t) ∧
        (t.generation = g → h.now.identity = before) := by
    intro p p' t hstate hsame hgen
    have hp' := same_of_isCurrentPending hsame
    have htp : t.generation = (StoredPairingState.pending p').generation := hgen.trans hp'.symm
    exact ⟨hput hstate htp, fun h' => (ht _ hstate (htp.symm.trans h')).1⟩
  cases hp with
  | created config host mode endpoint hcall hendpoint hfresh hold =>
    refine Tracked.push_of_load (loadState_file hfresh.notNil) (fun hgen => ?_)
    obtain ⟨s, hs, hsg⟩ := hg
    exact absurd (hsg.trans hgen.symm) (hfresh.fresh s hs)
  | pended c c' mode p hstate hseen hsame hmode hreply =>
    obtain ⟨now, response, -, haccept⟩ := hreply
    have hgen : (StoredPairingState.pending p).generation = (StoredPairingState.creating c').generation :=
      (acceptCreated_reportEndpoint haccept).2.1.trans hsame.1.symm
    refine Tracked.push_of_load (hput hstate hgen) (fun h' => ⟨?_, nofun⟩)
    exact (ht _ hstate (hgen.symm.trans h')).1
  | activated p p' v hstate hseen hsame hreply hvalid hfits =>
    obtain ⟨hload, hid⟩ := hpending (t := .activating (p.activating v)) hstate hsame rfl
    refine Tracked.push_of_load hload (fun h' => ⟨Or.inl (hid h'), ?_⟩)
    rintro v' ⟨⟩
    cases current_pending ho hseen hstate (same_of_isCurrentPending hsame)
    exact ⟨h, a, _, p, le_refl _, hstate, hload, hreply, h'⟩
  | staged j n hn hstaged hvalid htoken =>
    match n, hn with
    | 0, _ | 2, _ | 3, _ => exact ht.push_of_same rfl rfl
    | 1, _ =>
      refine Tracked.push_of_load (t := .activating j) hstaged.journal (fun h' => ⟨Or.inr rfl, ?_⟩)
      exact fun v hv => ((ht _ hstaged.journal h').2 v hv).mono (History.le_push h _)
    | 4, _ =>
      have hgen : (StoredPairingState.active (j.active a.input.completedAt)).generation =
          (StoredPairingState.activating j).generation := rfl
      refine Tracked.push_of_load (hput hstaged.journal hgen) (fun h' => ⟨hstaged.identity (by omega), ?_⟩)
      exact fun v hv => ((ht _ hstaged.journal h').2 v hv).mono (History.le_push h _)
  | denied p p' t hstate hseen hsame =>
    obtain ⟨hload, hid⟩ := hpending (t := .denied (p.ended t)) hstate hsame rfl
    exact Tracked.push_of_load hload (fun h' => ⟨hid h', nofun⟩)
  | expired p p' t hstate hseen hsame =>
    obtain ⟨hload, hid⟩ := hpending (t := .expired (p.ended t)) hstate hsame rfl
    exact Tracked.push_of_load hload (fun h' => ⟨hid h', nofun⟩)
  | revoked b reason hbound hcall => exact ht.push_of_same rfl rfl
  | archived copy hcall => exact ht.push_of_same rfl rfl
  | cleared file hcall hfirst hfile =>
    cases file with
    | pairing =>
      intro t hload hgen
      cases hload
    | identity => exact ht.push_of_same rfl rfl
    | credential | authorization | binding => exact ht.push_of_same rfl rfl

theorem tracked_of_legal {init : Disk → Prop} {m : Chronicle} {c : Creating}
    (hl : (guarantee ext lossy init).Legal h) (hle : m ≤ h)
    (hc : loadState m.now.pairing = .ok (some (.creating c))) : Tracked ext c.generation m.now.identity h := by
  refine hl.invariant_from ?_ ?_ hle
  · intro t hload hgen
    rw [hc] at hload
    cases hload
    exact ⟨rfl, nofun⟩
  · intro k w hk hlk ht hw
    have hseen : ∃ s, Seen k s ∧ s.generation = c.generation := ⟨_, ⟨m, hk, hc⟩, rfl⟩
    exact Permit.tracked (ordered_of_legal hlk) hseen ht hw

/-- The write that begins a generation leaves the identity alone. -/
theorem Begins.identity_eq {a : Writer} {d : Disk} {c : Creating} (hb : Begins h d c)
    (hp : Permit ext lossy h a d) : d.identity = h.now.identity := by
  have hkept : ∀ s, loadState h.now.pairing = .ok (some s) → d.pairing ≠ h.now.pairing := by
    intro s hs heq
    have hload := hb.1
    rw [heq] at hload
    exact hb.2 _ (Seen.now hload) rfl
  cases hp with
  | staged j n hn hstaged =>
    match n, hn with
    | 0, _ | 2, _ | 3, _ | 4, _ => rfl
    | 1, _ => exact absurd rfl (hkept _ hstaged.journal)
  | cleared file hcall hfirst hfile => cases file <;> rfl
  | _ => rfl

/-! ## Recovering an identity -/

/-- A generation that is begun is for the host of the call that begins it. -/
theorem Begins.host_eq {a : Writer} {d : Disk} {c : Creating} {config : ClientConfig} {host : HostIdentity}
    {mode : PairMode} (hb : Begins h d c) (hm : Moved ext lossy h a d)
    (hcall : a.call = .startOrResume config host mode) : c.host = host := by
  cases hm with
  | kept hkeep =>
    have hload := hb.1
    rw [hkeep] at hload
    exact absurd rfl (hb.2 _ (Seen.now hload))
  | began config' host' mode' endpoint hcall' hfresh hold hafter =>
    cases hcall.symm.trans hcall'
    cases hb.1.symm.trans hafter
    rfl
  | answered c' mode' p hbefore hafter | accepted p v hbefore hafter | committed j t hbefore hafter
  | denied p t hbefore hafter | expired p t hbefore hafter => cases hb.1.symm.trans hafter
  | removed hcall' => cases hcall.symm.trans hcall'

/-- In `w`, a call that is to recover the identity of `host` holds the lock, and begins the generation of `c` by
writing `d`. -/
structure RecoversHost (w : World Disk Inputs Request Reply Call Answer)
    (k : Holding Disk Inputs Request Reply Call Answer)
    (host : HostIdentity) (d : Disk) (c : Creating) : Prop where
  lock : w.lock = some k
  call : ∃ config, k.next.call = .startOrResume config host .recoverIdentity
  write : ∃ ds, k.rest = d :: ds
  begins : Begins w.history d c

/-- **When a recovery preserves the identity.** Take any run in which a call that recovers an identity holds the lock to
begin a generation, and any later moment at which the request of that generation is `Active`. The request was for the
host of the call; the server's reply named an instance for it; the identity is that instance; and so it is what it was
when the call was made exactly if it was that instance then. -/
theorem recovered_identity_iff (ext : External) (lossy : Chronicle → Prop) (d₀ : Disk)
    (w₁ w : World Disk Inputs Request Reply Call Answer) (hr : ReachFrom ext lossy d₀ w₁)
    (hrun : Relation.ReflTransGen (Step (program ext) FreshInputs lossy) w₁ w)
    (k : Holding Disk Inputs Request Reply Call Answer) (host : HostIdentity) (d : Disk) (c : Creating)
    (hk : RecoversHost w₁ k host d c) (h : Chronicle) (hm : w₁.history.push ⟨d, k.author⟩ ≤ h) (hh : h ≤ w.history)
    (s : Active) (hactive : loadState h.now.pairing = .ok (some (.active s))) (hgen : s.generation = c.generation) :
    c.host = host ∧ ∃ v, AcceptedAs ext h c.generation v ∧ identityFromState h.now.identity = .ok (identityOf v) ∧
      (identityFromState h.now.identity = identityFromState k.next.since.now.identity ↔
        identityFromState k.next.since.now.identity = .ok (identityOf v)) := by
  have hl := (sound_of_reach (hr.trans hrun)).legal.of_le hh
  have hmoved : Moved ext lossy w₁.history k.author d := moved_of_legal hl hm
  have htracked : Tracked ext c.generation d.identity h := tracked_of_legal hl hm hk.begins.1
  obtain ⟨hfile, hacc⟩ := htracked _ hactive hgen
  have hnow : identityFromState h.now.identity = .ok (identityOf s.instanceId) := by
    rw [show h.now.identity = identityFile s.instanceId from hfile]
    exact identityFromState_of s.instanceId
  obtain ⟨config, hcall⟩ := hk.call
  refine ⟨hk.begins.host_eq hmoved hcall, s.instanceId, hacc _ rfl, hnow, ?_⟩
  rw [hnow]
  exact eq_comm

/-- A directory is left with the identity of instance 9. A call that recovers it begins generation 3, and the server
answers that this is instance 30. -/
theorem recovery_played :
    ∃ w₁ w k host d c s, ReachFrom sampleServer (fun _ => False) identifiedDisk w₁ ∧
      Relation.ReflTransGen (Step (program sampleServer) FreshInputs (fun _ => False)) w₁ w ∧
        RecoversHost w₁ k host d c ∧
      w₁.history.push ⟨d, k.author⟩ ≤ w.history ∧ loadState w.history.now.pairing = .ok (some (.active s)) ∧
      s.generation = c.generation ∧ s.instanceId = uuidOf 30 ∧ k.next.since.now.identity = identityFile (uuidOf 9) := by
  have hdraw : ∀ h i, drawable h i = true → FreshInputs h i := fun _ _ => freshInputs_of_drawable
  obtain ⟨w₀, hplay₀, hplays⟩ := (Option.any_eq_true _ _).mp Recovery.plays_eq
  obtain ⟨hbegins, hplays⟩ := (Bool.and_eq_true _ _).mp hplays
  obtain ⟨w₂, hturn, hplays⟩ := (Option.any_eq_true _ _).mp hplays
  obtain ⟨w, hplay, hrecovered⟩ := (Option.any_eq_true _ _).mp hplays
  obtain ⟨p, ws, n, hp, hprog, hfresh, hhistory, hacquire, hwrites⟩ := World.act_turn hdraw hturn
  rw [hp, Option.any_some] at hbegins
  obtain ⟨config, host, d, ds, c, hcall, hsince, hws, hcreating, hcgen⟩ := Recovery.of_begins hprog hbegins
  obtain ⟨s, hload, hgen, hinstance⟩ := Rehearsal.active_of_recovered hrecovered
  have hrest : Relation.ReflTransGen (Step (program sampleServer) FreshInputs (fun _ => False)) w₂ w :=
    World.play_reach hdraw _ hplay
  refine ⟨_, w, _, host, d, c, s, (World.play_reach hdraw _ hplay₀).tail hacquire, hwrites.trans hrest,
    ⟨rfl, ⟨config, hcall⟩, ⟨ds, hws⟩, ⟨hcreating, ?_⟩⟩, ?_, hload, hgen.trans hcgen.symm, hinstance, hsince⟩
  · rw [hcgen]
    exact hfresh.fresh
  · refine le_trans ?_ (history_le hrest)
    rw [hhistory, hws, History.extend_cons]
    exact History.le_extend _ _ _

/-- The rehearsed recovery ends with the instance that the reply named. -/
theorem recovered_identity_rehearsed :
    ∃ w g v, ReachFrom sampleServer (fun _ => False) identifiedDisk w ∧ AcceptedAs sampleServer w.history g v ∧
      identityFromState w.history.now.identity = .ok (identityOf v) := by
  obtain ⟨w₁, w, k, host, d, c, s, hr, hrun, hk, hm, hload, hgen, -, -⟩ := recovery_played
  obtain ⟨-, v, haccepted, hid, -⟩ := recovered_identity_iff sampleServer _ identifiedDisk w₁ w hr hrun k host d c hk
    w.history hm (le_refl _) s hload hgen
  exact ⟨w, _, v, hr.trans hrun, haccepted, hid⟩

/-- A recovery that is called with the identity of instance 9 ends with that of instance 30. -/
theorem recovered_identity_replaced :
    ∃ w₁ w k host d c s, ReachFrom sampleServer (fun _ => False) identifiedDisk w₁ ∧
      Relation.ReflTransGen (Step (program sampleServer) FreshInputs (fun _ => False)) w₁ w ∧
        RecoversHost w₁ k host d c ∧
      w₁.history.push ⟨d, k.author⟩ ≤ w.history ∧ loadState w.history.now.pairing = .ok (some (.active s)) ∧
      s.generation = c.generation ∧ identityFromState k.next.since.now.identity = .ok (identityOf (uuidOf 9)) ∧
      identityFromState w.history.now.identity = .ok (identityOf (uuidOf 30)) := by
  obtain ⟨w₁, w, k, host, d, c, s, hr, hrun, hk, hm, hload, hgen, hinstance, hsince⟩ := recovery_played
  have htracked := tracked_of_legal (sound_of_reach (hr.trans hrun)).legal hm hk.begins.1
  have hfile : w.history.now.identity = identityFile s.instanceId := (htracked _ hload hgen).1
  refine ⟨w₁, w, k, host, d, c, s, hr, hrun, hk, hm, hload, hgen, ?_, ?_⟩
  · rw [hsince]
    exact identityFromState_of (uuidOf 9)
  · rw [hfile, hinstance]
    exact identityFromState_of (uuidOf 30)

/-! ## The mode that was asked for -/

theorem modeOf_recoverIdentity {f : File (Option String)} {host : HostIdentity}
    (h : modeOf f host = .recoverIdentity) :
    ∃ identity, identityFromState f = .ok identity ∧ identity.instanceId = host.id := by
  unfold modeOf at h
  split at h
  · rename_i identity hid
    split at h
    · rename_i hsame
      exact ⟨identity, hid, hsame⟩
    · cases h
  · cases h

/-- The generation of a session that a call returns was begun by the call itself, or is the one it resumed. -/
theorem begunIn_of_resumedOrBegun {config : ClientConfig} {host : HostIdentity} {mode : PairMode} {h k : Chronicle}
    {g : Uuid} (hs : ResumedOrBegun ext config host (.startOrResume config host mode) h k g)
    (hresume : ∀ m, h ≤ m → m ≤ k → ∀ s, loadState m.now.pairing = .ok (some s) → Resumable ext config s →
      BegunIn m s.generation mode) : BegunIn k g mode := by
  rcases hs with ⟨m, s, hm, hk, hload, hresumable, hgen⟩ | ⟨m, tr, i, endpoint, hm, hfresh, hpush, hgen⟩
  · rw [← hgen]
    exact (hresume m hm hk s hload hresumable).mono hk
  · have hafter : loadState ((StoredPairingState.creating (newCreating config host endpoint i)).file ext.serde) =
        .ok (some (.creating (newCreating config host endpoint i))) := loadState_file hfresh.notNil
    exact ⟨m, _, _, config, host, _, hpush, rfl, ⟨hafter, hfresh.fresh⟩, hgen⟩

/-- The mode of a POST is the mode its generation was begun in, if the identity was still the one that mode was
validated against, and could be read. -/
theorem mode_of_inferred {h : Chronicle} {c : Creating} {mode mode' : PairMode}
    (hl : (guarantee ext lossy (· = Disk.empty)).Legal h)
    (hc : loadState h.now.pairing = .ok (some (.creating c))) (hbegun : BegunIn h c.generation mode)
    (hmode : Inferred lossy h c mode')
    (hvalid : ∀ m a d config host mode c, History.push m ⟨d, a⟩ ≤ h → a.call = .startOrResume config host mode →
      Begins m d c → modeOf m.now.identity c.host = mode)
    (hread : ∀ m, m ≤ h → lossy m → ∀ c, loadState m.now.pairing = .ok (some (.creating c)) →
      ¬ BegunIn m c.generation .recoverIdentity) :
    mode' = mode ∧ modeOf h.now.identity c.host = mode := by
  obtain ⟨m, a, d, config, host, c₀, hm, hcall, hbegins, hgen⟩ := hbegun
  have hc₀ : c₀ = c := by
    have hsame := seen_unique hl ⟨_, hm, hbegins.1⟩ (Seen.now hc) hgen rfl
    cases hsame
    rfl
  subst hc₀
  obtain ⟨hlm, hpermit⟩ := (hl.of_le hm).of_push
  have hstart := hvalid m a d config host mode c₀ hm hcall hbegins
  have hid : ∀ k, History.push m ⟨d, a⟩ ≤ k → k ≤ h → loadState k.now.pairing = .ok (some (.creating c₀)) →
      k.now.identity = m.now.identity := by
    intro k hk hkh hload
    have htracked := tracked_of_legal (hl.of_le hkh) hk hbegins.1
    have hkept : k.now.identity = d.identity := (htracked _ hload rfl).1
    exact hkept.trans (hbegins.identity_eq hpermit)
  have hnow : modeOf h.now.identity c₀.host = mode := by
    rw [hid h hm (le_refl h) hc]
    exact hstart
  refine ⟨?_, hnow⟩
  obtain ⟨k, hk, ⟨k₀, hk₀, hload₀⟩, hinferred⟩ := hmode
  -- Where the mode was read, the journal was the one that was posted.
  obtain ⟨u, hu, hleads, hleads'⟩ := journal_between hl hk₀ hk hload₀ hc rfl
  have huc : StoredPairingState.creating c₀ = u := Slot.Leads.eq_of_rank hleads (Slot.Leads.rank_le hleads')
  subst huc
  have hmk : History.push m ⟨d, a⟩ ≤ k := by
    rcases History.le_total_of_le hm hk with hle | hle
    · exact hle
    · rcases History.le_push_iff.mp hle with rfl | hle
      · exact le_refl _
      · exact absurd rfl (hbegins.2 _ ((Seen.now hu).mono hle))
  rcases hinferred with hmode' | ⟨hlossy, hfresh⟩
  · rw [hmode', hid k hmk hk hu]
    exact hstart
  · have hbegun : BegunIn k c₀.generation mode := ⟨m, a, d, config, host, c₀, hmk, hcall, hbegins, rfl⟩
    cases mode with
    | fresh => exact hfresh
    | recoverIdentity => exact absurd hbegun (hread k hk hlossy c₀ hu)

/-- **When a session is of the mode that was asked for.** In a run from an empty directory in which (1) a generation is
begun while the identity is still what its mode was validated against, (2) a read without the lock does not fail while
a recovery waits to be posted, and (3) whatever journal a call can resume was begun by a call of the same mode: the
request of every session that a call returns was created by a POST in the call's mode; for a recovery, with the
identity on disk as its host. -/
theorem requested_mode (ext : External) (lossy : Chronicle → Prop)
    (w : World Disk Inputs Request Reply Call Answer) (hr : ReachFrom ext lossy Disk.empty w)
    (hvalid : ∀ m a d config host mode c, History.push m ⟨d, a⟩ ≤ w.history →
      a.call = .startOrResume config host mode → Begins m d c → modeOf m.now.identity c.host = mode)
    (hread : ∀ m, m ≤ w.history → lossy m → ∀ c, loadState m.now.pairing = .ok (some (.creating c)) →
      ¬ BegunIn m c.generation .recoverIdentity)
    (hresume : ∀ o ∈ w.returned, ∀ config host mode, o.call = .startOrResume config host mode →
      ∀ m, o.since ≤ m → m ≤ o.upto → ∀ s, loadState m.now.pairing = .ok (some s) → Resumable ext config s →
        BegunIn m s.generation mode)
    (o : Outcome Disk Inputs Request Reply Call Answer) (ho : o ∈ w.returned) (config : ClientConfig)
    (host : HostIdentity) (mode : PairMode) (s : PairingSession) (hcall : o.call = .startOrResume config host mode)
    (hvalue : o.value = .session (.ok s)) :
    ∃ k a d c p, History.push k ⟨d, a⟩ ≤ o.upto ∧ loadState k.now.pairing = .ok (some (.creating c)) ∧
      loadState d.pairing = .ok (some (.pending p)) ∧ p.generation = s.generation ∧ p.requestId = s.requestId ∧
      CreatedBy ext a.transcript c mode p ∧
      (mode = .recoverIdentity → ∃ identity, identityFromState k.now.identity = .ok identity ∧
        identity.instanceId = c.host.id) := by
  have hsound := sound_of_reach hr
  obtain ⟨hupto, k₁, hsince, hk₁, hpromise⟩ := hsound.returned o ho
  rw [hcall, hvalue] at hpromise
  obtain ⟨⟨m, state, hm, hmk, hload, hsession⟩, hresumed⟩ := hpromise
  have hl₁ := hsound.legal.of_le (hk₁.trans hupto)
  have hbegun : BegunIn k₁ s.generation mode := begunIn_of_resumedOrBegun hresumed
    (fun m hm hmk => hresume o ho config host mode hcall m hm (hmk.trans hk₁))
  have hids : state.generation = s.generation ∧ state.requestId? = some s.requestId := by
    cases state with
    | pending p => cases hsession; exact ⟨rfl, rfl⟩
    | activating j => cases hsession; exact ⟨rfl, rfl⟩
    | creating c => cases hsession
    | active a => cases hsession
    | denied e => cases hsession
    | expired e => cases hsession
  have hseen : Seen k₁ state := ⟨m, hmk, hload⟩
  obtain ⟨c, mode', k, a, d, p, hk, hc, hp, hmode, hcreated, hgen, hreq⟩ :=
    (traced_of_legal hl₁).posted state hseen _ hids.2
  have hlk := (History.le_push k ⟨d, a⟩).trans hk
  have hcgen : c.generation = s.generation := by
    obtain ⟨now, response, -, haccept⟩ := hcreated
    exact (acceptCreated_reportEndpoint haccept).2.1.symm.trans (hgen.trans hids.1)
  obtain ⟨modeₖ, hbegunₖ⟩ := (traced_of_legal (hl₁.of_le hlk)).begun _ (Seen.now hc)
  have hsame : modeₖ = mode := (hbegunₖ.mono hlk).unique (by rw [← hcgen] at hbegun; exact hbegun)
  subst hsame
  have hle : k ≤ w.history := hlk.trans (hk₁.trans hupto)
  obtain ⟨rfl, hnow⟩ := mode_of_inferred (hl₁.of_le hlk) hc hbegunₖ hmode
    (fun m a d config host mode c hm => hvalid m a d config host mode c (hm.trans hle))
    (fun m hm => hread m (hm.trans hle))
  refine ⟨k, a, d, c, p, hk.trans hk₁, hc, hp, hgen.trans hids.1, hreq, hcreated, ?_⟩
  rintro rfl
  exact modeOf_recoverIdentity hnow

/-- In a run of fresh hosts, without an identity and without failing reads, a session is of a request for a fresh
host. -/
theorem requested_mode_fresh :
    ∃ w o s k a d c p, ReachFrom sampleServer (fun _ => False) Disk.empty w ∧ o ∈ w.returned ∧
      o.value = .session (.ok s) ∧ History.push k ⟨d, a⟩ ≤ o.upto ∧ p.generation = s.generation ∧
      CreatedBy sampleServer a.transcript c .fresh p := by
  obtain ⟨w, hr, hholds⟩ := stalled
  have hl := (sound_of_reach hr).legal
  have hvalid : ∀ m a d config host mode c, History.push m ⟨d, a⟩ ≤ w.history →
      a.call = .startOrResume config host mode → Begins m d c → modeOf m.now.identity c.host = mode := by
    intro m a d config host mode c hm hcall _
    have hmode := (Stall.fresh_of_holds hholds).1 _ (History.mem_writes_of_push_le hm) hcall
    rw [Stall.absent_of_holds hholds ((History.le_push m _).trans hm), hmode]
    rfl
  have hresume : ∀ o ∈ w.returned, ∀ config host mode, o.call = .startOrResume config host mode →
      ∀ m, o.since ≤ m → m ≤ o.upto → ∀ s, loadState m.now.pairing = .ok (some s) →
        Resumable sampleServer config s → BegunIn m s.generation mode := by
    intro o ho config host mode hcall m _ hm s hload _
    have hmw := hm.trans ((sound_of_reach hr).returned o ho).1
    obtain ⟨mode', k, a, d, config', host', c, hk, hcall', hbegins, hgen⟩ :=
      (traced_of_legal (hl.of_le hmw)).begun s (Seen.now hload)
    have hfresh := (Stall.fresh_of_holds hholds).2 o ho hcall
    have hfresh' := (Stall.fresh_of_holds hholds).1 _ (History.mem_writes_of_push_le (hk.trans hmw)) hcall'
    rw [hfresh, ← hfresh']
    exact ⟨k, a, d, config', host', c, hk, hcall', hbegins, hgen⟩
  obtain ⟨o, ho, config, host, s, hcall, hvalue⟩ := Stall.session_of_holds hholds
  obtain ⟨k, a, d, c, p, hk, -, -, hgen, -, hcreated, -⟩ := requested_mode sampleServer _ w hr hvalid
    (fun m _ hlossy => hlossy.elim) hresume o ho config host .fresh s hcall hvalue
  exact ⟨w, o, s, k, a, d, c, p, hr, ho, hvalue, hk, hgen, hcreated⟩

/-- A call for a fresh host returns the session of a request that only POSTs of a recovery created. -/
theorem requested_mode_mixed :
    ∃ w o config host s, ReachFrom sampleServer (fun _ => False) Disk.empty w ∧ o ∈ w.returned ∧
      o.call = .startOrResume config host .fresh ∧ o.value = .session (.ok s) ∧
      ∀ k a d p endpoint body reply, History.push k ⟨d, a⟩ ≤ w.history → loadState d.pairing = .ok (some (.pending p)) →
        p.generation = s.generation → (.create endpoint body, reply) ∈ a.transcript → body.mode = .recoverIdentity := by
  obtain ⟨w, hr, hholds⟩ := rehearsed
  simp only [Rehearsal.holds, Bool.and_eq_true] at hholds
  obtain ⟨⟨⟨⟨⟨-, hposted⟩, hresumes⟩, -⟩, -⟩, -⟩ := hholds
  obtain ⟨o, ho, hresumes⟩ := List.any_eq_true.mp hresumes
  obtain ⟨config, host, s, hcall, hvalue, hgen⟩ := Rehearsal.eq_of_resumesFresh hresumes
  refine ⟨w, o, config, host, s, hr, ho, hcall, hvalue, ?_⟩
  intro k a d p endpoint body reply hk hload hpgen hpost
  exact Rehearsal.mode_of_postedRecovery hposted (History.mem_writes_of_push_le hk) hload (hpgen.trans hgen) hpost

end

end Xsoc
