import Xsoc.Durable.Lineage
import Xsoc.Promises

/-!
# The generations of the journal

The journal is a slot whose generations advance from `Creating` to `Pending`, and from there to `Activating` and
`Active`, or to `Denied` or `Expired`.

* `Moved` : what a permitted write does to the journal; the record it was compared with is the one it was made for;
* `Moved.turn` : it keeps the journal, advances it, begins a generation never seen before, or removes it;
* `seen_unique` : one record a generation and phase;
* `journal_between` : a generation that left the journal does not return.
-/

set_option autoImplicit false

namespace Xsoc

open Durable

/-! ## Advances -/

/-- How a record of the journal advances within its generation. -/
inductive Advance : StoredPairingState → StoredPairingState → Prop
  | pended (c : Creating) (p : Pending) (hgen : p.generation = c.generation)
      (hpair : p.pairingEndpoint = c.pairingEndpoint) (hreport : p.reportEndpoint = c.reportEndpoint)
      (hbearer : p.bearerSecret = c.bearerSecret) (hpolling : p.pollingSecret = c.pollingSecret) :
      Advance (.creating c) (.pending p)
  | activated (p : Pending) (instanceId : Uuid) : Advance (.pending p) (.activating (p.activating instanceId))
  | committed (j : Activating) (t : DateTime) : Advance (.activating j) (.active (j.active t))
  | denied (p : Pending) (t : DateTime) : Advance (.pending p) (.denied (p.ended t))
  | expired (p : Pending) (t : DateTime) : Advance (.pending p) (.expired (p.ended t))

namespace StoredPairingState

def phase : StoredPairingState → Nat
  | creating _ => 0
  | pending _ => 1
  | activating _ => 2
  | active _ => 3
  | denied _ => 3
  | expired _ => 3

/-- The request that a record is about, once the server knows it. -/
def requestId? : StoredPairingState → Option Uuid
  | creating _ => none
  | pending p => some p.requestId
  | activating j => some j.requestId
  | active a => some a.requestId
  | denied e => some e.requestId
  | expired e => some e.requestId

def reportEndpoint : StoredPairingState → String
  | creating c => c.reportEndpoint
  | pending p => p.reportEndpoint
  | activating j => j.reportEndpoint
  | active a => a.reportEndpoint
  | denied e => e.reportEndpoint
  | expired e => e.reportEndpoint

end StoredPairingState

theorem Advance.generation_eq {s t : StoredPairingState} (h : Advance s t) : t.generation = s.generation := by
  cases h with
  | pended c p hgen => exact hgen
  | _ => rfl

theorem Advance.phase_lt {s t : StoredPairingState} (h : Advance s t) : s.phase < t.phase := by
  cases h <;> simp [StoredPairingState.phase]

theorem Advance.reportEndpoint_eq {s t : StoredPairingState} (h : Advance s t) :
    t.reportEndpoint = s.reportEndpoint := by
  cases h with
  | pended c p _ _ hreport => exact hreport
  | _ => rfl

/-- A request keeps its name. -/
theorem Advance.requestId_eq {s t : StoredPairingState} (h : Advance s t) {requestId : Uuid}
    (hs : s.requestId? = some requestId) : t.requestId? = some requestId := by
  cases h with
  | pended c p => cases hs
  | _ => exact hs

/-! ## The journal -/

/-- The record that the journal holds, where it holds one that loads. -/
def Disk.journal (d : Disk) : Option StoredPairingState :=
  match loadState d.pairing with
  | .ok state => state
  | .error _ => none

theorem Disk.journal_eq_some {d : Disk} {state : StoredPairingState} :
    d.journal = some state ↔ loadState d.pairing = .ok (some state) := by
  unfold Disk.journal
  cases loadState d.pairing with
  | error e => simp
  | ok s => simp

/-- The journal, as a slot of the directory. -/
def lineage : Slot Disk StoredPairingState Uuid where
  get := Disk.journal
  gen := StoredPairingState.generation
  rank := StoredPairingState.phase
  Adv := Advance
  gen_adv _ _ := Advance.generation_eq
  rank_adv _ _ := Advance.phase_lt

theorem seen_iff {h : Chronicle} {state : StoredPairingState} : lineage.Seen h state ↔ Seen h state := by
  have hP : ∀ d : Disk, lineage.get d = some state ↔ loadState d.pairing = .ok (some state) :=
    fun d => Disk.journal_eq_some
  simp only [Slot.Seen, Seen, hP]

theorem Leads.reportEndpoint_eq {s t : StoredPairingState} (h : lineage.Leads s t) :
    t.reportEndpoint = s.reportEndpoint := by
  induction h with
  | refl => rfl
  | tail _ hadv ih => rw [Advance.reportEndpoint_eq hadv, ih]

theorem Leads.requestId_eq {s t : StoredPairingState} (h : lineage.Leads s t) {requestId : Uuid}
    (hs : s.requestId? = some requestId) : t.requestId? = some requestId := by
  induction h with
  | refl => exact hs
  | tail _ hadv ih => exact Advance.requestId_eq hadv ih

/-- Nothing follows a record of the last phase. -/
theorem Leads.eq_of_active {a : Active} {t : StoredPairingState} (h : lineage.Leads (.active a) t) :
    t = .active a := by
  have hle : t.phase ≤ 3 := by cases t <;> simp [StoredPairingState.phase]
  exact (Slot.Leads.eq_of_rank h hle).symm

/-! ## What a permitted write does to the journal -/

section

variable {ext : External} {lossy : Chronicle → Prop} {a : Writer} {h : Chronicle} {d : Disk}

theorem same_of_isCurrentPending {p p' : Pending}
    (hcur : isCurrentPending (some (.pending p')) p.generation p.requestId p.pairingEndpoint p.reportEndpoint
      p.pollingSecret = true) : p'.generation = p.generation := by
  simp only [isCurrentPending, Bool.and_eq_true, decide_eq_true_eq] at hcur
  exact hcur.1.1.1.1

theorem current_creating (ho : lineage.Ordered h) {c c' : Creating} (hseen : Seen h (.creating c))
    (hstate : loadState h.now.pairing = .ok (some (.creating c'))) (hgen : c'.generation = c.generation) :
    c' = c := by
  have hlead := ho _ _ (seen_iff.mpr hseen) (Disk.journal_eq_some.mpr hstate) hgen.symm
  cases Slot.Leads.eq_of_rank hlead (le_refl 0)
  rfl

theorem current_pending (ho : lineage.Ordered h) {p p' : Pending} (hseen : Seen h (.pending p))
    (hstate : loadState h.now.pairing = .ok (some (.pending p'))) (hgen : p'.generation = p.generation) : p' = p := by
  have hlead := ho _ _ (seen_iff.mpr hseen) (Disk.journal_eq_some.mpr hstate) hgen.symm
  cases Slot.Leads.eq_of_rank hlead (le_refl 1)
  rfl

/-- A record of the journal's generation loads back. -/
theorem load_putPairing {serde : Serde} {s t : StoredPairingState} (hs : loadState h.now.pairing = .ok (some s))
    (hgen : t.generation = s.generation) (d : Disk) :
    loadState (putPairing serde t d).pairing = .ok (some t) := by
  have hnil := notNil_of_loadState hs
  rw [← hgen] at hnil
  exact loadState_file hnil

variable (ext lossy) in
/-- What one write does to the journal, and what justifies it. -/
inductive Moved (h : Chronicle) (a : Writer) (d : Disk) : Prop
  | kept (hkeep : d.pairing = h.now.pairing)
  | began (config : ClientConfig) (host : HostIdentity) (mode : PairMode) (pairingEndpoint : String)
      (hcall : a.call = .startOrResume config host mode) (hfresh : FreshInputs h a.input)
      (hold : Replaceable ext config a.input.now h.now)
      (hafter : loadState d.pairing = .ok (some (.creating (newCreating config host pairingEndpoint a.input))))
  | answered (c : Creating) (mode : PairMode) (p : Pending)
      (hbefore : loadState h.now.pairing = .ok (some (.creating c)))
      (hafter : loadState d.pairing = .ok (some (.pending p))) (hmode : Inferred lossy h c mode)
      (hreply : CreatedBy ext a.transcript c mode p)
  | accepted (p : Pending) (instanceId : Uuid) (hbefore : loadState h.now.pairing = .ok (some (.pending p)))
      (hafter : loadState d.pairing = .ok (some (.activating (p.activating instanceId))))
      (hreply : PolledBy ext a.transcript p ⟨.active, some instanceId⟩)
  | committed (j : Activating) (t : DateTime) (hbefore : loadState h.now.pairing = .ok (some (.activating j)))
      (hafter : loadState d.pairing = .ok (some (.active (j.active t))))
  | denied (p : Pending) (t : DateTime) (hbefore : loadState h.now.pairing = .ok (some (.pending p)))
      (hafter : loadState d.pairing = .ok (some (.denied (p.ended t))))
      (hreply : PolledBy ext a.transcript p ⟨.denied, none⟩)
  | expired (p : Pending) (t : DateTime) (hbefore : loadState h.now.pairing = .ok (some (.pending p)))
      (hafter : loadState d.pairing = .ok (some (.expired (p.ended t))))
      (hreply : PolledBy ext a.transcript p ⟨.expired, none⟩ ∨ EndedBy ext a.transcript p)
  | removed (hcall : a.call = .archiveIncompatibleAccountState) (hafter : d.pairing = .absent)

/-- **The journal a write was compared with is the one it was made for.** -/
theorem Permit.moved (ho : lineage.Ordered h) (hp : Permit ext lossy h a d) : Moved ext lossy h a d := by
  have hadvanced : ∀ {s t : StoredPairingState}, loadState h.now.pairing = .ok (some s) → Advance s t →
      loadState (putPairing ext.serde t h.now).pairing = .ok (some t) :=
    fun hs hadv => load_putPairing hs hadv.generation_eq h.now
  cases hp with
  | created config host mode endpoint hcall hendpoint hfresh hold =>
    exact .began config host mode endpoint hcall hfresh hold (loadState_file hfresh.notNil)
  | pended c c' mode p hstate hseen hsame hmode hreply hvalid =>
    cases current_creating ho hseen hstate hsame.1
    have hgen : (StoredPairingState.pending p).generation = (StoredPairingState.creating c).generation := by
      obtain ⟨now, response, -, haccept⟩ := hreply
      exact (acceptCreated_reportEndpoint haccept).2.1
    exact .answered c mode p hstate (load_putPairing hstate hgen h.now) hmode hreply
  | activated p p' instanceId hstate hseen hsame hreply hvalid hfits =>
    cases current_pending ho hseen hstate (same_of_isCurrentPending hsame)
    exact .accepted p instanceId hstate (hadvanced hstate (.activated p instanceId)) hreply
  | staged j n hn hstaged hvalid htoken =>
    match n, hn with
    | 0, _ | 1, _ | 2, _ | 3, _ => exact .kept rfl
    | 4, _ => exact .committed j a.input.completedAt hstaged.journal (hadvanced hstaged.journal (.committed j _))
  | denied p p' t hstate hseen hsame hreply =>
    cases current_pending ho hseen hstate (same_of_isCurrentPending hsame)
    exact .denied p t hstate (hadvanced hstate (.denied p t)) hreply
  | expired p p' t hstate hseen hsame hreply =>
    cases current_pending ho hseen hstate (same_of_isCurrentPending hsame)
    exact .expired p t hstate (hadvanced hstate (.expired p t)) hreply
  | revoked b reason hbound hcall => exact .kept rfl
  | archived copy hcall => exact .kept rfl
  | cleared file hcall hfirst hfile =>
    cases file with
    | pairing => exact .removed hcall rfl
    | identity | credential | authorization | binding => exact .kept rfl

/-- The records that a write advances from and to. -/
theorem Moved.turn (hm : Moved ext lossy h a d) : lineage.Turn h d := by
  have hadvanced : ∀ {s t : StoredPairingState}, loadState h.now.pairing = .ok (some s) →
      loadState d.pairing = .ok (some t) → Advance s t → lineage.Turn h d :=
    fun hs ht hadv => .advanced _ _ (Disk.journal_eq_some.mpr hs) (Disk.journal_eq_some.mpr ht) hadv
  cases hm with
  | kept hkeep =>
    have hsame : d.journal = h.now.journal := by rw [Disk.journal, Disk.journal, hkeep]
    exact .kept hsame
  | began config host mode endpoint hcall hfresh hold hafter =>
    exact .began _ (Disk.journal_eq_some.mpr hafter) (fun u hu => hfresh.fresh u (seen_iff.mp hu))
  | answered c mode p hbefore hafter hmode hreply =>
    obtain ⟨now, response, -, haccept⟩ := hreply
    obtain ⟨hreport, hgen, hpair, hbearer, hpolling⟩ := acceptCreated_reportEndpoint haccept
    exact hadvanced hbefore hafter (.pended c p hgen hpair hreport hbearer hpolling)
  | accepted p instanceId hbefore hafter hreply => exact hadvanced hbefore hafter (.activated p instanceId)
  | committed j t hbefore hafter => exact hadvanced hbefore hafter (.committed j t)
  | denied p t hbefore hafter hreply => exact hadvanced hbefore hafter (.denied p t)
  | expired p t hbefore hafter hreply => exact hadvanced hbefore hafter (.expired p t)
  | removed hcall hafter =>
    have hgone : d.journal = none := by rw [Disk.journal, hafter]; rfl
    exact .gone hgone

end

/-! ## Legal histories -/

section

variable {ext : External} {lossy : Chronicle → Prop} {init : Disk → Prop} {h k : Chronicle}

theorem turn_of_legal (h : Chronicle) (w : Write Disk Writer) (_ : (guarantee ext lossy init).Legal h)
    (ho : lineage.Ordered h) (hw : (guarantee ext lossy init).permit h w) : lineage.Turn h w.state :=
  (Permit.moved ho hw).turn

theorem ordered_of_legal (hl : (guarantee ext lossy init).Legal h) : lineage.Ordered h :=
  Slot.Ordered.of_legal turn_of_legal hl

/-- Two records of one generation and phase that were seen are the same. -/
theorem seen_unique (hl : (guarantee ext lossy init).Legal h) {s t : StoredPairingState} (hs : Seen h s)
    (ht : Seen h t) (hgen : s.generation = t.generation) (hphase : s.phase = t.phase) : s = t :=
  Slot.unique turn_of_legal hl (seen_iff.mpr hs) (seen_iff.mpr ht) hgen hphase

/-- What each write of a legal history did to the journal. -/
theorem moved_of_legal {a : Writer} {d : Disk} (hl : (guarantee ext lossy init).Legal h)
    (hle : History.push k ⟨d, a⟩ ≤ h) : Moved ext lossy k a d := by
  obtain ⟨hk, hw⟩ := (hl.of_le hle).of_push
  exact Permit.moved (ordered_of_legal hk) hw

/-- Between two moments of one generation the journal is of that generation, and has advanced from the first record
to the last. -/
theorem journal_between {m₁ m₂ m₃ : Chronicle} (hl : (guarantee ext lossy init).Legal m₃) (h₁ : m₁ ≤ m₂)
    (h₂ : m₂ ≤ m₃) {s t : StoredPairingState} (hs : loadState m₁.now.pairing = .ok (some s))
    (ht : loadState m₃.now.pairing = .ok (some t)) (hgen : s.generation = t.generation) :
    ∃ u, loadState m₂.now.pairing = .ok (some u) ∧ lineage.Leads s u ∧ lineage.Leads u t := by
  obtain ⟨u, hu, hsu, hut⟩ := Slot.contiguous turn_of_legal hl h₁ h₂ (Disk.journal_eq_some.mpr hs)
    (Disk.journal_eq_some.mpr ht) hgen
  exact ⟨u, Disk.journal_eq_some.mp hu, hsu, hut⟩

/-- From a record seen to one of its generation in the journal. -/
theorem leads_of_seen (hl : (guarantee ext lossy init).Legal h) {s t : StoredPairingState} (hs : Seen h s)
    (ht : loadState h.now.pairing = .ok (some t)) (hgen : s.generation = t.generation) : lineage.Leads s t :=
  ordered_of_legal hl s t (seen_iff.mpr hs) (Disk.journal_eq_some.mpr ht) hgen

end

end Xsoc
