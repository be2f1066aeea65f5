import Xsoc.Binding
import Xsoc.Journals

/-!
# The running service

The service probes for a newer credential, applies what it found at some later time, and withdraws the authorization
of a credential that the server rejects. Other processes may commit between any two of its steps.

* `CommittedBefore` : the order of commits; `committedBefore_of_genuine` : bindings follow it;
* `Serves` : what the service holds after any number of steps in a reachable world;
* `Driven`, `Serves.consistent` : it holds what one commit wrote, and adopts commits in their order;
* `driver_revisions` : so a rejection never withdraws a newer credential, and the service never turns to an older one.
-/

set_option autoImplicit false

namespace Xsoc

open Durable

/-! ## The order of commits -/

/-- The revision that the commit of a journal binds. -/
def Activating.revision (j : Activating) : Revision := (j.generation, j.requestId)

/-- Revision `r` was committed, and after it another one, `r'`. -/
def CommittedBefore (h : Chronicle) (r r' : Revision) : Prop :=
  r ≠ r' ∧ ∃ m m' s s', m ≤ m' ∧ m' ≤ h ∧ loadState m.now.pairing = .ok (some (.active s)) ∧
    s.binding.revision = r ∧ loadState m'.now.pairing = .ok (some (.active s')) ∧ s'.binding.revision = r'

section

variable {ext : External} {lossy : Chronicle → Prop} {init : Disk → Prop} {h k : Chronicle}

theorem CommittedBefore.mono {r r' : Revision} (hc : CommittedBefore h r r') (hle : h ≤ k) :
    CommittedBefore k r r' := by
  obtain ⟨hne, m, m', s, s', hm, hm', hrest⟩ := hc
  exact ⟨hne, m, m', s, s', hm, hm'.trans hle, hrest⟩

/-- One commit a generation: a generation names one revision. -/
theorem revision_unique (hl : (guarantee ext lossy init).Legal h) {s s' : Active} (hs : Seen h (.active s))
    (hs' : Seen h (.active s')) (hgen : s.generation = s'.generation) : s = s' := by
  have hsame := seen_unique hl hs hs' hgen rfl
  cases hsame
  rfl

/-- Of two revisions, one is committed first. -/
theorem CommittedBefore.asymm (hl : (guarantee ext lossy init).Legal h) {r r' : Revision}
    (hc : CommittedBefore h r r') : ¬ CommittedBefore h r' r := by
  have hbefore : ∀ {r r' : Revision}, CommittedBefore h r r' → lineage.Before h r.1 r'.1 := by
    rintro r r' ⟨hne, m, m', s, s', hm, hm', hs, rfl, hs', rfl⟩
    refine ⟨?_, m, m', _, _, hm, hm', Disk.journal_eq_some.mpr hs, rfl, Disk.journal_eq_some.mpr hs', rfl⟩
    intro hgen
    have hsame := revision_unique hl ⟨m, hm.trans hm', hs⟩ ⟨m', hm', hs'⟩ hgen
    exact hne (by rw [hsame])
  exact fun hc' => Slot.before_asymm turn_of_legal hl (hbefore hc) (hbefore hc')

/-- Only the commit of the journal that is there writes the binding. -/
theorem Permit.binding {a : Writer} {d : Disk} (hp : Permit ext lossy h a d) :
    d.binding = h.now.binding ∨ d.binding = .absent ∨ ∃ j, loadState h.now.pairing = .ok (some (.activating j)) ∧
      d.binding = j.binding.file ∧ validateActiveBinding ext.url j.binding = .ok () := by
  cases hp with
  | staged j n hn hstaged hvalid htoken =>
    match n, hn with
    | 0, _ | 1, _ | 3, _ | 4, _ => exact Or.inl rfl
    | 2, _ => exact Or.inr (Or.inr ⟨j, hstaged.journal, rfl, hvalid⟩)
  | cleared file hcall hfirst hfile =>
    cases file with
    | binding => exact Or.inr (Or.inl rfl)
    | pairing | identity | credential | authorization => exact Or.inl rfl
  | _ => exact Or.inl rfl

/-- Once another generation was committed, the binding of an earlier one does not come back. -/
theorem binding_away {g : Uuid} {m : Chronicle} {t u : StoredPairingState} {b : ActiveBinding}
    (hl : (guarantee ext lossy init).Legal h) (hmk : m ≤ k) (hkh : k ≤ h)
    (ht : loadState m.now.pairing = .ok (some t)) (htg : t.generation = g)
    (hu : loadState k.now.pairing = .ok (some u)) (hug : u.generation ≠ g)
    (hb : loadActiveBinding ext.url k.now.binding = .ok (some b)) (hbg : b.generation ≠ g) :
    ∀ b', loadActiveBinding ext.url h.now.binding = .ok (some b') → b'.generation ≠ g := by
  refine hl.invariant_from
    (I := fun h => ∀ b', loadActiveBinding ext.url h.now.binding = .ok (some b') → b'.generation ≠ g) ?_ ?_ hkh
  · intro b' hb'
    rw [hb] at hb'
    cases hb'
    exact hbg
  · intro n w hkn hln hI hw b' hb'
    rw [History.now_push] at hb'
    rcases Permit.binding hw with heq | habs | ⟨j, hj, hfile, hvalid⟩
    · rw [heq] at hb'
      exact hI b' hb'
    · rw [habs] at hb'
      cases hb'
    · rw [hfile, loadActiveBinding_file hvalid] at hb'
      cases hb'
      intro hgen
      have htj : t.generation = (StoredPairingState.activating j).generation := htg.trans hgen.symm
      obtain ⟨v, hv, hlead, -⟩ := journal_between hln hmk hkn ht hj htj
      rw [hu] at hv
      cases hv
      exact hug ((Slot.Leads.gen_eq hlead).trans htg)

/-- Credentials that were bound one after the other were committed one after the other. -/
theorem committedBefore_of_genuine {m m' : Chronicle} {j j' : Activating}
    (hinit : ∀ d, init d → Coherent ext d) (hl : (guarantee ext lossy init).Legal h) (hmm' : m ≤ m') (hm' : m' ≤ h)
    (hg : Genuine ext m j) (hg' : Genuine ext m' j') (hrev : j.revision ≠ j'.revision) :
    CommittedBefore h j.revision j'.revision := by
  obtain ⟨t, k, hk, hactive⟩ := hg.finished
  obtain ⟨t', k', hk', hactive'⟩ := hg'.finished
  have hne : j.generation ≠ j'.generation := by
    intro hgen
    have hsame := seen_unique (hl.of_le hm') (hg.journal.mono hmm') hg'.journal hgen rfl
    cases hsame
    exact hrev rfl
  rcases History.le_total_of_le (hk.trans hmm') hk' with hle | hle
  · exact ⟨hrev, k, k', _, _, hle, hk'.trans hm', hactive, rfl, hactive', rfl⟩
  · -- Had `j'` been committed first, its binding could not be there at the later moment.
    have hl' := hl.of_le hm'
    have hcoherent := coherent_of_legal hinit (hl.of_le (hk.trans (hmm'.trans hm'))) _ hactive
    have haway := binding_away hl' hle (hk.trans hmm') hactive' rfl hactive hne hcoherent hne
    have hload : loadActiveBinding ext.url m'.now.binding = .ok (some j'.binding) := by
      rw [hg'.binding]
      exact loadActiveBinding_file hg'.valid
    exact absurd rfl (haway _ hload)

end

/-! ## What the service holds -/

/-- The service: its driver, the moment it has got to, a probe that is not applied yet, and the revisions it has
adopted, newest first. -/
structure Service where
  driver : HostDeliveryDriver
  moment : Chronicle
  probe : Option HostRecoveryProbe
  adopted : List Revision

/-- The revisions adopted once a step of `applyRecovery` returned. -/
def adoptedBy (driver : HostDeliveryDriver) (adopted : List Revision) : Except Error RecoveryUpdate → List Revision
  | .ok (.renewed _) => driver.reporter.credentialRevision :: adopted
  | _ => adopted

/-- The steps of the service in a world: it starts with a snapshot; it probes, one probe at a time; it applies the
probe, or drops it; and it classifies a rejection of the reporter it holds. -/
inductive Serves (w : World Disk Inputs Request Reply Call Answer) : Service → Prop
  | start (o : Outcome Disk Inputs Request Reply Call Answer) (config : ClientConfig) (s : ReporterSnapshot)
      (reporter : Reporter) (ho : o ∈ w.returned) (hcall : o.call = .prepareReporterTurn config)
      (hvalue : o.value = .snapshot (.ok (some s))) (happly : (applyReporterSnapshot s config).2.2 = .ok reporter) :
      Serves w ⟨⟨(applyReporterSnapshot s config).1, (applyReporterSnapshot s config).2.1, reporter, none⟩,
        o.upto, none, [reporter.credentialRevision]⟩
  | probed {v : Service} (o : Outcome Disk Inputs Request Reply Call Answer) (probe : HostRecoveryProbe)
      (hv : Serves w v) (hidle : v.probe = none) (ho : o ∈ w.returned)
      (hcall : o.call = .recover v.driver.config v.driver.reporter.credentialRevision)
      (hvalue : o.value = .probe (.ok probe)) (hafter : v.moment ≤ o.since) :
      Serves w { v with moment := o.upto, probe := some probe }
  | applied {v : Service} (o : Outcome Disk Inputs Request Reply Call Answer) (probe : HostRecoveryProbe)
      (driver : HostDeliveryDriver) (r : Except Error RecoveryUpdate) (hv : Serves w v) (hprobe : v.probe = some probe)
      (ho : o ∈ w.returned) (hcall : o.call = .applyRecovery v.driver probe) (hvalue : o.value = .applied driver r)
      (hafter : v.moment ≤ o.since) :
      Serves w ⟨driver, o.upto, none, adoptedBy driver v.adopted r⟩
  | dropped {v : Service} (hv : Serves w v) : Serves w { v with probe := none }
  | classified {v : Service} (o : Outcome Disk Inputs Request Reply Call Answer) (error : SendError)
      (response : DeliveryResponse) (hv : Serves w v) (ho : o ∈ w.returned)
      (hcall : o.call = .classifyFailure v.driver.reporter.credentialRevision error)
      (hvalue : o.value = .response response) (hafter : v.moment ≤ o.since) :
      Serves w { v with moment := o.upto }

/-- Endpoint, host and reporter are those of the commit of `j`. -/
structure Driven (j : Activating) (driver : HostDeliveryDriver) : Prop where
  endpoint : driver.config.endpoint = j.reportEndpoint
  host : driver.host.id = j.instanceId.toString
  identity : driver.reporter.identity = identityOf j.instanceId
  token : driver.reporter.token = j.bearerSecret
  reportEndpoint : driver.reporter.endpoint = j.reportEndpoint
  revision : driver.reporter.credentialRevision = j.revision

/-- Each of these revisions was bound at some moment up to `h`. -/
def BoundUpto (ext : External) (h : Chronicle) (adopted : List Revision) : Prop :=
  ∀ r ∈ adopted, ∃ m j, m ≤ h ∧ Genuine ext m j ∧ r = j.revision

/-- The service holds what one commit wrote, the newest that it has adopted, and it has adopted them in the order of
their commits. A probe that is not applied yet found another revision, bound no earlier than those. -/
structure Service.Consistent (ext : External) (w : World Disk Inputs Request Reply Call Answer) (v : Service) :
    Prop where
  serializes : v.driver.config.serializes = true
  reached : v.moment ≤ w.history
  newest : ∃ rest, v.adopted = v.driver.reporter.credentialRevision :: rest
  driven : ∃ m j, m ≤ v.moment ∧ Genuine ext m j ∧ Driven j v.driver
  bound : BoundUpto ext v.moment v.adopted
  ordered : v.adopted.Pairwise (fun r' r => CommittedBefore w.history r r')
  probed : ∀ s, v.probe = some (.credential s) → ∃ m j, m ≤ v.moment ∧ Genuine ext m j ∧ Issued j s ∧
    j.revision ≠ v.driver.reporter.credentialRevision ∧ BoundUpto ext m v.adopted

section

variable {ext : External} {lossy : Chronicle → Prop} {h k : Chronicle}

/-- A service that adopts a snapshot holds what the commit of the snapshot wrote. -/
theorem Driven.of_issued {j : Activating} {s : ReporterSnapshot} (hs : Issued j s) (config : ClientConfig)
    (notice : Option Uuid) : Driven j ⟨applyActiveConfig config s.reportEndpoint, s.host, s.reporter, notice⟩ where
  endpoint := hs.reportEndpoint
  host := hs.host
  identity := hs.identity
  token := hs.token
  reportEndpoint := hs.endpoint
  revision := hs.revision

/-- A driver whose configuration can be written adopts a snapshot as a whole. -/
theorem adopt_eq {driver : HostDeliveryDriver} (hser : driver.config.serializes = true) (pollAfter : Nat)
    (s : ReporterSnapshot) :
    driver.adopt pollAfter (some s) =
      (⟨applyActiveConfig driver.config s.reportEndpoint, s.host, s.reporter, driver.lastWaitingNotice⟩,
        .ok (.renewed pollAfter)) := by
  have happly : (applyReporterSnapshot s driver.config) =
      (applyActiveConfig driver.config s.reportEndpoint, s.host, .ok s.reporter) := by
    change (_, _, if (applyActiveConfig driver.config s.reportEndpoint).serializes then _ else _) = _
    rw [serializes_applyActiveConfig, hser]
    rfl
  simp only [HostDeliveryDriver.adopt, happly]

theorem notice_config (driver : HostDeliveryDriver) (progress : Option PairingProgress) :
    (driver.notice progress).config = driver.config ∧ (driver.notice progress).host = driver.host ∧
      (driver.notice progress).reporter = driver.reporter := by
  unfold HostDeliveryDriver.notice
  split
  · exact ⟨rfl, rfl, rfl⟩
  · exact ⟨rfl, rfl, rfl⟩

/-- What `applyRecovery` does to a driver whose configuration can be written: it adopts a snapshot as a whole, one that
was probed or one it refreshed, or it leaves endpoint, host and reporter alone. -/
theorem Applied.cases {driver driver' : HostDeliveryDriver} {probe : HostRecoveryProbe}
    {r : Except Error RecoveryUpdate} (ha : Applied ext driver probe h k driver' r)
    (hser : driver.config.serializes = true) :
    (∃ s pollAfter notice, r = .ok (.renewed pollAfter) ∧
      driver' = ⟨applyActiveConfig driver.config s.reportEndpoint, s.host, s.reporter, notice⟩ ∧
      (probe = .credential s ∨ ∃ m, h ≤ m ∧ m ≤ k ∧
        refreshReporterSnapshot ext driver.config driver.reporter.credentialRevision m.now = .ok (some s))) ∨
    ((∀ pollAfter, r ≠ .ok (.renewed pollAfter)) ∧ driver'.config = driver.config ∧ driver'.host = driver.host ∧
      driver'.reporter = driver.reporter) := by
  have hnotice := notice_config driver
  have hser' : ∀ progress, (driver.notice progress).config.serializes = true := by
    intro progress
    rw [(hnotice progress).1]
    exact hser
  cases ha with
  | failed progress e => exact Or.inr ⟨nofun, hnotice progress⟩
  | probed s progress hprobe =>
    left
    rw [adopt_eq (hser' progress), (hnotice progress).1]
    exact ⟨s, _, _, rfl, rfl, Or.inl hprobe⟩
  | refreshed m snapshot progress hm hk hfresh =>
    cases snapshot with
    | none => exact Or.inr ⟨nofun, hnotice progress⟩
    | some s =>
      left
      rw [adopt_eq (hser' progress), (hnotice progress).1]
      exact ⟨s, _, _, rfl, rfl, Or.inr ⟨m, hm, hk, hfresh⟩⟩

theorem BoundUpto.mono {adopted : List Revision} (hb : BoundUpto ext h adopted) (hle : h ≤ k) :
    BoundUpto ext k adopted := by
  intro r hr
  obtain ⟨m, j, hm, hrest⟩ := hb r hr
  exact ⟨m, j, hm.trans hle, hrest⟩

theorem BoundUpto.cons {adopted : List Revision} (hb : BoundUpto ext h adopted) {m : Chronicle} {j : Activating}
    (hm : m ≤ h) (hg : Genuine ext m j) : BoundUpto ext h (j.revision :: adopted) := by
  intro r hr
  rcases List.mem_cons.mp hr with rfl | hr
  · exact ⟨m, j, hm, hg, rfl⟩
  · exact hb r hr

/-- A revision bound no earlier than those adopted, and not the newest of them, was committed after all of them. -/
theorem ordered_cons {init : Disk → Prop} (hinit : ∀ d, init d → Coherent ext d)
    (hl : (guarantee ext lossy init).Legal h) {m : Chronicle} (hm : m ≤ h) {j : Activating} (hg : Genuine ext m j)
    {newest : Revision} {rest : List Revision} (hne : j.revision ≠ newest)
    (hb : BoundUpto ext m (newest :: rest))
    (ho : (newest :: rest).Pairwise (fun r' r => CommittedBefore h r r')) :
    (j.revision :: newest :: rest).Pairwise (fun r' r => CommittedBefore h r r') := by
  have hafter : ∀ r ∈ newest :: rest, r ≠ j.revision → CommittedBefore h r j.revision := by
    intro r hr hrj
    obtain ⟨m', j', hm', hg', rfl⟩ := hb r hr
    exact committedBefore_of_genuine hinit hl hm' hm hg' hg hrj
  have hnewest := hafter newest List.mem_cons_self hne.symm
  refine List.pairwise_cons.mpr ⟨?_, ho⟩
  intro r hr
  apply hafter r hr
  rintro rfl
  rcases List.mem_cons.mp hr with heq | hrest
  · exact hne heq
  · have hback := (List.pairwise_cons.mp ho).1 _ hrest
    exact hnewest.asymm hl hback

/-- The snapshot that a refresh finds is of another revision than the one it was asked about. -/
theorem refreshed_issued {config : ClientConfig} {revision : Revision} {s : ReporterSnapshot} (hb : Backed ext h)
    (hs : refreshReporterSnapshot ext config revision h.now = .ok (some s)) :
    ∃ j, Genuine ext h j ∧ Issued j s ∧ j.revision ≠ revision := by
  obtain ⟨b, hbound, hrev, hmade⟩ := handed_of_refreshReporterSnapshot hs
  obtain ⟨j, hg, hissued⟩ := Handed.issued hb ⟨b, hbound, hmade⟩
  refine ⟨j, hg, hissued, ?_⟩
  have hload := hbound.binding
  rw [hg.binding, loadActiveBinding_file hg.valid] at hload
  cases hload
  exact hrev

end

/-! ## The steps of the service -/

section

variable {ext : External} {lossy : Chronicle → Prop} {w : World Disk Inputs Request Reply Call Answer} {v : Service}

/-- **Every step keeps the service consistent.** -/
theorem Serves.consistent (hr : ReachFrom ext lossy Disk.empty w) (hun : Unarchived w.history) (hv : Serves w v) :
    v.Consistent ext w := by
  have hsound := sound_of_reach hr
  have hinit : ∀ d, d = Disk.empty → Coherent ext d := by
    rintro d rfl
    exact coherent_empty
  have hbacked : ∀ h, h ≤ w.history → Backed ext h :=
    fun h hh => backed_of_legal (hsound.legal.of_le hh) (hun.of_le hh)
  induction hv with
  | start o config s reporter ho hcall hvalue happly =>
    obtain ⟨hupto, k, hk, hku, hpromise⟩ := hsound.returned o ho
    rw [hcall, hvalue] at hpromise
    obtain ⟨m, hm, hmk, hhanded⟩ := hpromise
    have hmu := hmk.trans hku
    obtain ⟨j, hg, hissued⟩ := Handed.issued (hbacked m (hmu.trans hupto)) hhanded
    have hser : config.serializes = true ∧ reporter = s.reporter := by
      change (if config.serializes = true then Except.ok s.reporter else _) = _ at happly
      by_cases hser : config.serializes = true
      · rw [if_pos hser] at happly
        exact ⟨hser, (Except.ok.inj happly).symm⟩
      · rw [if_neg hser] at happly
        cases happly
    obtain ⟨hser, rfl⟩ := hser
    have hrev : s.reporter.credentialRevision = j.revision := hissued.revision
    have hnil : BoundUpto ext o.upto [] := by
      intro r hr
      cases hr
    exact
      { serializes := hser
        reached := hupto
        newest := ⟨[], rfl⟩
        driven := ⟨m, j, hmu, hg, Driven.of_issued hissued config none⟩
        bound := by
          rw [hrev]
          exact hnil.cons hmu hg
        ordered := List.pairwise_singleton _ _
        probed := nofun }
  | @probed v o probe hv hidle ho hcall hvalue hafter ih =>
    obtain ⟨hupto, k, hk, hku, hpromise⟩ := hsound.returned o ho
    rw [hcall, hvalue] at hpromise
    have hlater : v.moment ≤ o.upto := hafter.trans (hk.trans hku)
    obtain ⟨m₀, j₀, hm₀, hg₀, hdriven⟩ := ih.driven
    exact
      { serializes := ih.serializes
        reached := hupto
        newest := ih.newest
        driven := ⟨m₀, j₀, hm₀.trans hlater, hg₀, hdriven⟩
        bound := ih.bound.mono hlater
        ordered := ih.ordered
        probed := by
          rintro s ⟨⟩
          obtain ⟨m, hm, hmk, hfresh⟩ := hpromise s rfl
          have hmu := hmk.trans hku
          obtain ⟨j, hg, hissued, hne⟩ := refreshed_issued (hbacked m (hmu.trans hupto)) hfresh
          exact ⟨m, j, hmu, hg, hissued, hne, ih.bound.mono (hafter.trans hm)⟩ }
  | @applied v o probe driver r hv hprobe ho hcall hvalue hafter ih =>
    obtain ⟨hupto, k, hk, hku, hpromise⟩ := hsound.returned o ho
    rw [hcall, hvalue] at hpromise
    have hlater : v.moment ≤ o.upto := hafter.trans (hk.trans hku)
    obtain ⟨m₀, j₀, hm₀, hg₀, hdriven⟩ := ih.driven
    obtain ⟨rest, hnewest⟩ := ih.newest
    rcases Applied.cases hpromise ih.serializes with ⟨s, pollAfter, notice, rfl, rfl, hfound⟩ | ⟨hr, hconfig, hhost,
      hreporter⟩
    · -- The snapshot was bound no earlier than those adopted, and is of another revision than the newest.
      have hsnapshot : ∃ m j, m ≤ o.upto ∧ Genuine ext m j ∧ Issued j s ∧
          j.revision ≠ v.driver.reporter.credentialRevision ∧ BoundUpto ext m v.adopted := by
        rcases hfound with hcredential | ⟨m, hm, hmk, hfresh⟩
        · obtain ⟨m, j, hm, hrest⟩ := ih.probed s (by rw [hprobe, hcredential])
          exact ⟨m, j, hm.trans hlater, hrest⟩
        · have hmu := hmk.trans hku
          obtain ⟨j, hg, hissued, hne⟩ := refreshed_issued (hbacked m (hmu.trans hupto)) hfresh
          exact ⟨m, j, hmu, hg, hissued, hne, ih.bound.mono (hafter.trans hm)⟩
      obtain ⟨m, j, hmu, hg, hissued, hne, hbound⟩ := hsnapshot
      have hrev : s.reporter.credentialRevision = j.revision := hissued.revision
      have hadopted : adoptedBy
          ⟨applyActiveConfig v.driver.config s.reportEndpoint, s.host, s.reporter, notice⟩ v.adopted
          (.ok (.renewed pollAfter)) = j.revision :: v.adopted := by
        rw [← hrev]
        rfl
      have hordered := ih.ordered
      rw [hnewest] at hbound hordered
      exact
        { serializes := ih.serializes
          reached := hupto
          newest := ⟨v.adopted, rfl⟩
          driven := ⟨m, j, hmu, hg, Driven.of_issued hissued v.driver.config notice⟩
          bound := by
            rw [hadopted]
            exact (ih.bound.mono hlater).cons hmu hg
          ordered := by
            rw [hadopted, hnewest]
            exact ordered_cons hinit hsound.legal (hmu.trans hupto) hg hne hbound hordered
          probed := nofun }
    · have hadopted : adoptedBy driver v.adopted r = v.adopted := by
        unfold adoptedBy
        split
        · exact absurd rfl (hr _)
        · rfl
      exact
        { serializes := by rw [hconfig]; exact ih.serializes
          reached := hupto
          newest := ⟨rest, by rw [hadopted, hreporter]; exact hnewest⟩
          driven := by
            refine ⟨m₀, j₀, hm₀.trans hlater, hg₀, ?_⟩
            obtain ⟨h₁, h₂, h₃, h₄, h₅, h₆⟩ := hdriven
            rw [← hreporter] at h₃ h₄ h₅ h₆
            exact ⟨by rw [hconfig]; exact h₁, by rw [hhost]; exact h₂, h₃, h₄, h₅, h₆⟩
          bound := by rw [hadopted]; exact ih.bound.mono hlater
          ordered := by rw [hadopted]; exact ih.ordered
          probed := nofun }
  | dropped hv ih => exact { ih with probed := nofun }
  | @classified v o error response hv ho hcall hvalue hafter ih =>
    obtain ⟨hupto, k, hk, hku, -⟩ := hsound.returned o ho
    have hlater : v.moment ≤ o.upto := hafter.trans (hk.trans hku)
    obtain ⟨m₀, j₀, hm₀, hg₀, hdriven⟩ := ih.driven
    exact
      { serializes := ih.serializes
        reached := hupto
        newest := ih.newest
        driven := ⟨m₀, j₀, hm₀.trans hlater, hg₀, hdriven⟩
        bound := ih.bound.mono hlater
        ordered := ih.ordered
        probed := by
          intro s hs
          obtain ⟨m, j, hm, hrest⟩ := ih.probed s hs
          exact ⟨m, j, hm.trans hlater, hrest⟩ }

end

/-! ## Rejections -/

section

variable {ext : External} {lossy : Chronicle → Prop} {h : Chronicle}

/-- Only `mark_reauth_required_if_current` makes the authorization file say that a reauthorization is required. -/
theorem Permit.revokes {a : Writer} {d : Disk} (hp : Permit ext lossy h a d) {auth : LocalAuthState}
    (hauth : localAuthStateUnlocked d.authorization = .ok (some auth))
      (hstatus : auth.status = .reauthorizationRequired)
    (hchanged : d.authorization ≠ h.now.authorization) :
    ∃ b, HostCredentials.binding ext.url h.now = .ok (some b) ∧ a.call.revokes b.revision ∧
      d = putAuth ext.serde auth h.now := by
  cases hp with
  | revoked b reason hbound hcall =>
    have hread : localAuthStateUnlocked (LocalAuthState.file ext.serde
        ⟨.current, .reauthorizationRequired, reason, a.input.changedAt⟩) =
        .ok (some ⟨.current, .reauthorizationRequired, reason, a.input.changedAt⟩) := localAuthStateUnlocked_file _ _
    have hsame : some auth = some ⟨.current, .reauthorizationRequired, reason, a.input.changedAt⟩ :=
      Except.ok.inj (hauth.symm.trans hread)
    cases hsame
    exact ⟨b, hbound, hcall, rfl⟩
  | staged j n hn hstaged =>
    match n, hn with
    | 0, _ | 1, _ | 2, _ | 4, _ => exact absurd rfl hchanged
    | 3, _ =>
      have hread : localAuthStateUnlocked (LocalAuthState.file ext.serde (pairingCompleted a.input)) =
          .ok (some (pairingCompleted a.input)) := localAuthStateUnlocked_file _ _
      have hsame : some auth = some (pairingCompleted a.input) := Except.ok.inj (hauth.symm.trans hread)
      cases hsame
      cases hstatus
  | cleared file hcall hfirst hfile =>
    cases file with
    | authorization => cases hauth
    | pairing | identity | credential | binding => exact absurd rfl hchanged
  | _ => exact absurd rfl hchanged

/-- The binding of a credential can always be told. -/
theorem binding_of_legal (hl : (guarantee ext lossy (· = Disk.empty)).Legal h) :
    ∃ found, HostCredentials.binding ext.url h.now = .ok found := by
  have hfile : ∃ found, loadActiveBinding ext.url h.now.binding = .ok found := by
    refine hl.invariant (I := fun h => ∃ found, loadActiveBinding ext.url h.now.binding = .ok found) ?_ ?_
    · rintro d rfl
      exact ⟨none, rfl⟩
    · intro k w _ hI hw
      rw [History.now_push]
      rcases Permit.binding hw with heq | habs | ⟨j, -, hj, hvalid⟩
      · rw [heq]; exact hI
      · rw [habs]; exact ⟨none, rfl⟩
      · rw [hj, loadActiveBinding_file hvalid]; exact ⟨_, rfl⟩
  have hcoherent : Coherent ext h.now := coherent_of_legal (by rintro d rfl; exact coherent_empty) hl
  obtain ⟨state, hload⟩ := readable_of_legal hl
  obtain ⟨found, hfound⟩ := hfile
  unfold HostCredentials.binding
  rw [hload]
  match state, hload with
  | some (.active a), hload =>
    rw [hcoherent a hload]
    simp [bind, Except.bind]
  | none, _ | some (.activating _), _ => exact ⟨none, rfl⟩
  | some (.creating _), _ | some (.pending _), _ | some (.denied _), _ | some (.expired _), _ => exact ⟨found, hfound⟩

/-- Nothing is bound while a commit is under way. -/
theorem settled_of_binding {d : Disk} {b : ActiveBinding} (hb : HostCredentials.binding ext.url d = .ok (some b)) :
    d.Settled := by
  intro j hj
  unfold HostCredentials.binding at hb
  rw [hj] at hb
  cases hb

/-- A rejection of a revision that is not the bound one is superseded, and nothing is written. -/
theorem run_markReauthRequired_superseded {d : Disk} {revision : Revision} {found : Option ActiveBinding}
    (hfound : HostCredentials.binding ext.url d = .ok found) (hother : ∀ b, found = some b → b.revision ≠ revision)
    (reason : String) (i : Inputs) : markReauthRequiredIfCurrent ext revision reason i d = ([], .ok false) := by
  unfold markReauthRequiredIfCurrent HostCredentials.invalidate
  rw [Tx.run_bind, Tx.run_bind, Tx.run_read, hfound]
  cases found with
  | none => rfl
  | some b =>
    have hne : b.revision ≠ revision := hother b rfl
    simp only [if_pos hne]
    rfl

/-- **The service and its rejections stay on one revision.** In every run from an empty directory, however others
commit between the steps of the service: (1) the authorization file turns to `reauthorization_required` only by the
rejection of the revision that is bound at that moment, with no commit under way, and nothing else is written; the
rejection of any other revision is superseded and writes nothing; (2) the endpoint, the host and the reporter of the
service are those of one commit, a failed step leaves all three as they were, and the revisions that it adopts follow
the order of their commits, of which no two are each before the other. -/
theorem driver_revisions (ext : External) (lossy : Chronicle → Prop)
    (w : World Disk Inputs Request Reply Call Answer) (hr : ReachFrom ext lossy Disk.empty w)
    (hun : Unarchived w.history) :
    (∀ h a d auth, History.push h ⟨d, a⟩ ≤ w.history → localAuthStateUnlocked d.authorization = .ok (some auth) →
      auth.status = .reauthorizationRequired → d.authorization ≠ h.now.authorization →
      ∃ b, HostCredentials.binding ext.url h.now = .ok (some b) ∧ h.now.Settled ∧ a.call.revokes b.revision ∧
        d = putAuth ext.serde auth h.now) ∧
    (∀ h, h ≤ w.history → ∀ revision reason i,
      (∀ b, HostCredentials.binding ext.url h.now = .ok (some b) → b.revision ≠ revision) →
      markReauthRequiredIfCurrent ext revision reason i h.now = ([], .ok false)) ∧
    (∀ v, Serves w v → ∃ m j, m ≤ w.history ∧ Genuine ext m j ∧ Driven j v.driver) ∧
    (∀ v probe o driver e, Serves w v → o ∈ w.returned → o.call = .applyRecovery v.driver probe →
      o.value = .applied driver (.error e) →
      driver.config = v.driver.config ∧ driver.host = v.driver.host ∧ driver.reporter = v.driver.reporter) ∧
    (∀ v, Serves w v → v.adopted.Pairwise (fun r' r => CommittedBefore w.history r r')) ∧
    ∀ r r', CommittedBefore w.history r r' → ¬ CommittedBefore w.history r' r := by
  have hsound := sound_of_reach hr
  refine ⟨?_, ?_, ?_, ?_, ?_, ?_⟩
  · intro h a d auth hle hauth hstatus hchanged
    obtain ⟨-, hpermit⟩ := (hsound.legal.of_le hle).of_push
    obtain ⟨b, hbound, hcall, hd⟩ := Permit.revokes hpermit hauth hstatus hchanged
    exact ⟨b, hbound, settled_of_binding hbound, hcall, hd⟩
  · intro h hh revision reason i hother
    obtain ⟨found, hfound⟩ := binding_of_legal (hsound.legal.of_le hh)
    refine run_markReauthRequired_superseded hfound ?_ reason i
    rintro b rfl
    exact hother b hfound
  · intro v hv
    have hconsistent := hv.consistent hr hun
    obtain ⟨m, j, hm, hg, hdriven⟩ := hconsistent.driven
    exact ⟨m, j, hm.trans hconsistent.reached, hg, hdriven⟩
  · intro v probe o driver e hv ho hcall hvalue
    obtain ⟨-, k, -, -, hpromise⟩ := hsound.returned o ho
    rw [hcall, hvalue] at hpromise
    rcases Applied.cases hpromise (hv.consistent hr hun).serializes
      with ⟨s, pollAfter, notice, hrenewed, -⟩ | ⟨-, hkept⟩
    · cases hrenewed
    · exact hkept
  · intro v hv
    exact (hv.consistent hr hun).ordered
  · intro r r' hc
    exact hc.asymm hsound.legal

/-- In the rehearsal, the service adopts the credential of generation 3 after the one of generation 2. -/
theorem driver_revisions_rehearsed :
    ∃ w v m j, ReachFrom sampleServer (fun _ => False) Disk.empty w ∧ Serves w v ∧ Genuine sampleServer m j ∧
      Driven j v.driver ∧ CommittedBefore w.history (uuidOf 2, uuidOf 7) (uuidOf 3, uuidOf 7) := by
  obtain ⟨w, hr, hholds⟩ := rehearsed
  simp only [Rehearsal.holds, Bool.and_eq_true] at hholds
  obtain ⟨⟨⟨⟨⟨⟨hun, -⟩, -⟩, -⟩, -⟩, -⟩, hserves⟩ := hholds
  obtain ⟨o₁, ho₁, hserves⟩ := List.any_eq_true.mp hserves
  obtain ⟨hstarts, hserves⟩ := (Bool.and_eq_true _ _).mp hserves
  obtain ⟨o₂, ho₂, hserves⟩ := List.any_eq_true.mp hserves
  simp only [Bool.and_eq_true, decide_eq_true_eq] at hserves
  obtain ⟨⟨hprobes, h₁₂⟩, hserves⟩ := hserves
  obtain ⟨o₃, ho₃, hserves⟩ := List.any_eq_true.mp hserves
  simp only [Bool.and_eq_true, decide_eq_true_eq] at hserves
  obtain ⟨happlies, h₂₃⟩ := hserves
  have hspan : ∀ o ∈ w.returned, o.since ≤ w.history ∧ o.upto ≤ w.history := by
    intro o ho
    obtain ⟨hupto, k, hk, hku, -⟩ := (sound_of_reach hr).returned o ho
    exact ⟨(hk.trans hku).trans hupto, hupto⟩
  have hafter₁₂ := History.le_of_length (hspan o₁ ho₁).2 (hspan o₂ ho₂).1 h₁₂
  have hafter₂₃ := History.le_of_length (hspan o₂ ho₂).2 (hspan o₃ ho₃).1 h₂₃
  obtain ⟨hcall₁, hvalue₁⟩ := Rehearsal.eq_of_starts hstarts
  obtain ⟨hcall₂, hvalue₂⟩ := Rehearsal.eq_of_probes hprobes
  obtain ⟨hcall₃, r, hvalue₃⟩ := Rehearsal.eq_of_applies happlies
  have hstarted : Serves w ⟨sampleDriver (sampleSnapshot 2 9), o₁.upto, none, [(uuidOf 2, uuidOf 7)]⟩ :=
    .start o₁ (sampleConfig false) (sampleSnapshot 2 9) (sampleSnapshot 2 9).reporter ho₁ hcall₁ hvalue₁ rfl
  have hprobed := hstarted.probed o₂ _ rfl ho₂ hcall₂ hvalue₂ hafter₁₂
  have happlied := hprobed.applied o₃ _ _ _ rfl ho₃ hcall₃ hvalue₃ hafter₂₃
  obtain ⟨-, -, hdriven, -, hordered, -⟩ := driver_revisions sampleServer _ w hr (Rehearsal.unarchived_history hun)
  obtain ⟨m, j, -, hg, hj⟩ := hdriven _ happlied
  have hbefore := List.rel_of_pairwise_cons (hordered _ happlied) List.mem_cons_self
  exact ⟨w, _, m, j, hr, happlied, hg, hj, hbefore⟩

end

end Xsoc
