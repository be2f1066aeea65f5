import Xsoc.Generations
import Xsoc.Playback

/-!
# The status that is read without the lock

`local_status` reads the journal, the binding and the journal again, while others write single files. An `Active`
journal names the binding beside it at every moment, and a generation that left the journal does not return: so two
readings of one `Active` journal enclose a moment at which the binding was its own.
-/

set_option autoImplicit false

namespace Xsoc

open Durable

/-- An `Active` journal names the binding beside it. -/
def Coherent (ext : External) (d : Disk) : Prop :=
  ∀ a, loadState d.pairing = .ok (some (.active a)) → loadActiveBinding ext.url d.binding = .ok (some a.binding)

section

variable {ext : External} {lossy : Chronicle → Prop} {init : Disk → Prop} {h : Chronicle}

theorem coherent_empty : Coherent ext Disk.empty := fun _ ha => nomatch ha

theorem coherent_of_load {d : Disk} {state : StoredPairingState} (hs : loadState d.pairing = .ok (some state))
    (hne : ∀ a, state ≠ .active a) : Coherent ext d := by
  intro a ha
  rw [hs] at ha
  cases ha
  exact absurd rfl (hne a)

theorem coherent_of_absent {d : Disk} (hp : d.pairing = .absent) : Coherent ext d := by
  intro a ha
  rw [hp] at ha
  cases ha

theorem Coherent.of_same {d d' : Disk} (hd : Coherent ext d) (hp : d'.pairing = d.pairing)
    (hb : d'.binding = d.binding) : Coherent ext d' := by
  intro a ha
  rw [hp] at ha
  rw [hb]
  exact hd a ha

theorem Permit.coherent {a : Writer} {d : Disk} (hd : Coherent ext h.now) (hp : Permit ext lossy h a d) :
    Coherent ext d := by
  have hput : ∀ {s t : StoredPairingState}, loadState h.now.pairing = .ok (some s) → t.generation = s.generation →
      (∀ a, t ≠ .active a) → Coherent ext (putPairing ext.serde t h.now) :=
    fun hs hgen hne => coherent_of_load (load_putPairing hs hgen h.now) hne
  cases hp with
  | created config host mode endpoint hcall hendpoint hfresh hold =>
    exact coherent_of_load (loadState_file hfresh.notNil) (by simp)
  | pended c c' mode p hstate hseen hsame hmode hreply =>
    obtain ⟨now, response, -, haccept⟩ := hreply
    exact hput hstate ((acceptCreated_reportEndpoint haccept).2.1.trans hsame.1.symm) (by simp)
  | activated p p' instanceId hstate hseen hsame =>
    exact hput hstate (same_of_isCurrentPending hsame).symm (by simp)
  | staged j n hn hstaged hvalid htoken =>
    match n, hn with
    | 0, _ | 1, _ | 2, _ | 3, _ => exact coherent_of_load hstaged.journal (by simp)
    | 4, _ =>
      have hdone := hstaged.commit (notNil_of_loadState hstaged.journal) hvalid htoken a.input
      obtain ⟨t, hload⟩ := hdone.load
      intro s hs
      rw [hload] at hs
      cases hs
      exact hdone.loadBinding
  | denied p p' t hstate hseen hsame => exact hput hstate (same_of_isCurrentPending hsame).symm (by simp)
  | expired p p' t hstate hseen hsame => exact hput hstate (same_of_isCurrentPending hsame).symm (by simp)
  | revoked b reason hbound hcall => exact hd.of_same rfl rfl
  | archived copy hcall => exact hd.of_same rfl rfl
  | cleared file hcall hfirst hfile =>
    cases file with
    | pairing => exact coherent_of_absent rfl
    | identity => exact absurd rfl hfile
    | credential | authorization | binding => exact coherent_of_absent (hfirst (by decide))

theorem coherent_of_legal (hinit : ∀ d, init d → Coherent ext d) (hl : (guarantee ext lossy init).Legal h) :
    Coherent ext h.now :=
  hl.invariant hinit (fun _ _ _ hd hw => Permit.coherent hd hw)

/-- Two readings of one `Active` journal enclose a moment at which both files are read. -/
theorem statusOf_between {a a' : Active} {m₁ m₂ m₃ : Chronicle} (hinit : ∀ d, init d → Coherent ext d)
    (hl : (guarantee ext lossy init).Legal m₃) (h₁₂ : m₁ ≤ m₂) (h₂₃ : m₂ ≤ m₃)
    (hfirst : loadState m₁.now.pairing = .ok (some (.active a)))
    (hlast : loadState m₃.now.pairing = .ok (some (.active a'))) (hsame : a'.binding = a.binding) :
    loadState m₂.now.pairing = .ok (some (.active a)) ∧
      loadActiveBinding ext.url m₂.now.binding = .ok (some a.binding) := by
  have hgen : a.generation = a'.generation := (congrArg ActiveBinding.generation hsame).symm
  obtain ⟨u, hu, hlead, -⟩ := journal_between hl h₁₂ h₂₃ hfirst hlast hgen
  cases Leads.eq_of_active hlead
  exact ⟨hu, coherent_of_legal hinit (hl.of_le h₂₃) a hu⟩

/-- **The status read without the lock is linearizable.** However others write meanwhile, `local_status` never reports
the binding as missing or as another one's, and an endpoint that it reports was in the binding file, at one instant of
the call, beside the `Active` journal that it reports. -/
theorem local_status_linearizable (ext : External) (lossy : Chronicle → Prop) (d : Disk)
    (w : World Disk Inputs Request Reply Call Answer) (hr : ReachFrom ext lossy d w) (hd : Coherent ext d)
    (o : Outcome Disk Inputs Request Reply Call Answer) (ho : o ∈ w.returned) (hcall : o.call = .localStatus)
    (r : Except Error LocalPairingStatus) (hvalue : o.value = .status r) :
    r ≠ .error activeBindingMismatch ∧ r ≠ .error activeBindingMissing ∧
    ∀ progress endpoint, r = .ok ⟨progress, some endpoint⟩ →
      ∃ m a, o.since ≤ m ∧ m ≤ o.upto ∧ progress = some (progressFromTerminal (.active a)) ∧
        loadState m.now.pairing = .ok (some (.active a)) ∧
        loadActiveBinding ext.url m.now.binding = .ok (some a.binding) ∧ a.binding.reportEndpoint = endpoint := by
  have hsound := sound_of_reach hr
  obtain ⟨hupto, k, hk, hku, hpromise⟩ := hsound.returned o ho
  rw [hcall, hvalue] at hpromise
  have hinit : ∀ s, s = d → Coherent ext s := by
    rintro s rfl
    exact hd
  have houtcome : StatusOutcome ext o.since k r := hpromise
  cases houtcome with
  | failed e hmismatch hmissing =>
    refine ⟨fun h => hmismatch (Except.error.inj h), fun h => hmissing (Except.error.inj h), ?_⟩
    intro progress endpoint h
    cases h
  | inactive progress => exact ⟨nofun, nofun, nofun⟩
  | read a a' m₁ m₂ m₃ h₁ h₂ h₃ h₄ hfirst hlast hsame =>
    have hl : (guarantee ext lossy (· = d)).Legal m₃ := hsound.legal.of_le ((h₄.trans hku).trans hupto)
    obtain ⟨hjournal, hbinding⟩ := statusOf_between hinit hl h₂ h₃ hfirst hlast hsame
    have hstatus : statusOf a (loadActiveBinding ext.url m₂.now.binding) =
        .ok ⟨some (progressFromTerminal (.active a)), some a.binding.reportEndpoint⟩ := by
      rw [hbinding]
      simp [statusOf, bind, Except.bind]
    rw [hstatus]
    refine ⟨nofun, nofun, ?_⟩
    intro progress endpoint h
    cases h
    exact ⟨m₂, a, h₁.trans h₂, (h₃.trans h₄).trans hku, rfl, hjournal, hbinding, rfl⟩

/-- The status that is read after the pairing tells an endpoint, and it is the bound one. -/
theorem local_status_rehearsed :
    ∃ w o endpoint m a, ReachFrom sampleServer (fun _ => False) Disk.empty w ∧ o ∈ w.returned ∧ o.call = .localStatus ∧
      o.since ≤ m ∧ m ≤ o.upto ∧ loadState m.now.pairing = .ok (some (.active a)) ∧
      loadActiveBinding sampleServer.url m.now.binding = .ok (some a.binding) ∧
        a.binding.reportEndpoint = endpoint := by
  obtain ⟨w, hr, hholds⟩ := rehearsed
  simp only [Rehearsal.holds, Bool.and_eq_true] at hholds
  obtain ⟨⟨-, htells⟩, -⟩ := hholds
  obtain ⟨o, ho, htells⟩ := List.any_eq_true.mp htells
  obtain ⟨progress, endpoint, hcall, hvalue⟩ := Rehearsal.status_of_tellsEndpoint htells
  obtain ⟨-, -, hinstant⟩ := local_status_linearizable sampleServer _ Disk.empty w hr coherent_empty o ho hcall _ hvalue
  obtain ⟨m, a, hm, hmu, -, hactive, hbinding, hend⟩ := hinstant progress endpoint rfl
  exact ⟨w, o, endpoint, m, a, hr, ho, hcall, hm, hmu, hactive, hbinding, hend⟩

end

end Xsoc
