import Xsoc.Generations
import Xsoc.Playback
import Xsoc.Stale

/-!
# What a reply may do to the journal

A reply comes without the lock, at any later time. It is written only over the very record it was obtained for, and a
live request goes only by the server's word about it or by the user's.

* `stale_replies` : all that stale replies can do, and the order of the phases;
* `live_request_kept` : what it takes for a `Creating` or `Pending` journal to go.
-/

set_option autoImplicit false

namespace Xsoc

open Durable

section

variable {ext : External} {lossy : Chronicle → Prop} {d : Disk}

/-! ## Stale replies -/

/-- **Stale replies and the order of the phases.** In every run of any number of processes: a reply is written to the
journal only over the record it was obtained for. Over any other journal the rest of the operation writes nothing, and
comes to what `StaleReplies` says. An operation that succeeds has written its reply, or tells what the journal says of
the same request, or the server said that the request is still waiting. Within one generation the journal only advances,
its request keeps its name, and a generation that another one replaced does not return. -/
theorem stale_replies (ext : External) (lossy : Chronicle → Prop) (d : Disk)
    (w : World Disk Inputs Request Reply Call Answer) (hr : ReachFrom ext lossy d w) :
    (∀ h a d', History.push h ⟨d', a⟩ ≤ w.history → Moved ext lossy h a d') ∧ StaleReplies ext ∧
    (∀ o ∈ w.returned, ∀ config r, o.call = .pollExisting config → o.value = .progress (.ok r) →
      o.transcript = [] ∨ ∃ k, k ≤ o.upto ∧ Settled ext o.call o.since k o.transcript r) ∧
    (∀ o ∈ w.returned, ∀ config host mode s, o.call = .startOrResume config host mode → o.value = .session (.ok s) →
      ∃ k, k ≤ o.upto ∧ StoredSession o.since k s) ∧
    (∀ o ∈ w.returned, ∀ config generation requestId code r,
      o.call = .activatePendingWithCode config generation requestId code → o.value = .activated (.ok r) →
      ∃ m, o.since ≤ m ∧ m ≤ o.upto ∧ ((∃ instanceId, r = some instanceId ∧
        Leads m.now generation requestId instanceId) ∨ ∃ p activated, Seen m (.pending p) ∧
        p.generation = generation ∧ p.requestId = requestId ∧ Confirms m.now p activated r)) ∧
    ∀ m₁ m₂ s t, m₁ ≤ m₂ → m₂ ≤ w.history → loadState m₁.now.pairing = .ok (some s) →
      loadState m₂.now.pairing = .ok (some t) →
      (s.generation = t.generation → lineage.Leads s t ∧
        ∀ requestId, s.requestId? = some requestId → t.requestId? = some requestId) ∧
      (s.generation ≠ t.generation → ∀ m₃ u, m₂ ≤ m₃ → m₃ ≤ w.history →
        loadState m₃.now.pairing = .ok (some u) → u.generation ≠ s.generation) := by
  have hsound := sound_of_reach hr
  refine ⟨fun h a d' hle => moved_of_legal hsound.legal hle, staleReplies ext, ?_, ?_, ?_, ?_⟩
  · intro o ho config r hcall hvalue
    obtain ⟨-, k, -, hku, hpromise⟩ := hsound.returned o ho
    rw [hcall, hvalue] at hpromise
    rcases hpromise.1 with hquiet | hsettled
    · exact Or.inl hquiet
    · rw [← hcall] at hsettled
      exact Or.inr ⟨k, hku, hsettled⟩
  · intro o ho config host mode s hcall hvalue
    obtain ⟨-, k, -, hku, hpromise⟩ := hsound.returned o ho
    rw [hcall, hvalue] at hpromise
    exact ⟨k, hku, hpromise.1⟩
  · intro o ho config generation requestId code r hcall hvalue
    obtain ⟨-, k, -, hku, hpromise⟩ := hsound.returned o ho
    rw [hcall, hvalue] at hpromise
    obtain ⟨m, hm, hmk, hconfirms⟩ := hpromise
    exact ⟨m, hm, hmk.trans hku, hconfirms⟩
  · intro m₁ m₂ s t h₁₂ h₂ hs ht
    have hl₂ := hsound.legal.of_le h₂
    constructor
    · intro hgen
      have hlead := leads_of_seen hl₂ ⟨m₁, h₁₂, hs⟩ ht hgen
      exact ⟨hlead, fun requestId hid => Leads.requestId_eq hlead hid⟩
    · intro hne m₃ u h₂₃ h₃ hu hgen
      obtain ⟨v, hv, hlead, -⟩ := journal_between (hsound.legal.of_le h₃) h₁₂ h₂₃ hs hu hgen.symm
      rw [ht] at hv
      cases hv
      exact hne (Slot.Leads.gen_eq hlead).symm

/-- The rehearsed poll of request 1 is settled, though request 2 has replaced it meanwhile. -/
theorem stale_replies_rehearsed :
    ∃ w o r, ReachFrom sampleServer (fun _ => False) Disk.empty w ∧ o ∈ w.returned ∧ o.transcript ≠ [] ∧
      ∃ k, k ≤ o.upto ∧ Settled sampleServer o.call o.since k o.transcript r := by
  obtain ⟨w, hr, hholds⟩ := rehearsed
  simp only [Rehearsal.holds, Bool.and_eq_true] at hholds
  obtain ⟨⟨⟨-, hsays⟩, -⟩, -⟩ := hholds
  obtain ⟨o, ho, hsays⟩ := List.any_eq_true.mp hsays
  obtain ⟨config, s, hcall, hvalue, -, -, htr⟩ := Rehearsal.eq_of_saysWaiting hsays
  obtain ⟨-, -, hpolls, -⟩ := stale_replies sampleServer _ Disk.empty w hr
  rcases hpolls o ho config _ hcall hvalue with hquiet | hsettled
  · exact absurd hquiet htr
  · exact ⟨w, o, _, hr, ho, htr, hsettled⟩

/-- A stale reply need not fail its operation: the poll of request 1 says that it waits, when request 2 has replaced
it. -/
theorem stale_waiting_succeeds :
    ∃ w o config s, ReachFrom sampleServer (fun _ => False) Disk.empty w ∧ o ∈ w.returned ∧
      o.call = .pollExisting config ∧ o.transcript ≠ [] ∧ o.value = .progress (.ok (some (.waiting s))) ∧
      journalGeneration o.upto.now = some (uuidOf 2) ∧ s.generation ≠ uuidOf 2 := by
  obtain ⟨w, hr, hholds⟩ := rehearsed
  simp only [Rehearsal.holds, Bool.and_eq_true] at hholds
  obtain ⟨⟨⟨-, hsays⟩, -⟩, -⟩ := hholds
  obtain ⟨o, ho, hsays⟩ := List.any_eq_true.mp hsays
  obtain ⟨config, s, hcall, hvalue, hgen, hnow, htr⟩ := Rehearsal.eq_of_saysWaiting hsays
  refine ⟨w, o, config, s, hr, ho, hcall, htr, hvalue, hnow, ?_⟩
  rw [hgen]
  decide

/-! ## Live requests -/

/-- A request that is neither accepted nor over. -/
def StoredPairingState.Live : StoredPairingState → Prop
  | creating _ => True
  | pending _ => True
  | _ => False

/-- The user gave the request up: by replacing it, by archiving the account, or by turning to another server once the
request is past its deadline. -/
inductive GivenUp (ext : External) (a : Writer) : StoredPairingState → Prop
  | replaced (s : StoredPairingState) (config : ClientConfig) (host : HostIdentity) (mode : PairMode)
      (hcall : a.call = .startOrResume config host mode) (hreplace : config.replacePendingPairing = true) :
      GivenUp ext a s
  | archived (s : StoredPairingState) (hcall : a.call = .archiveIncompatibleAccountState) : GivenUp ext a s
  | moved (p : Pending) (config : ClientConfig) (host : HostIdentity) (mode : PairMode)
      (hcall : a.call = .startOrResume config host mode) (hexpired : p.expiresAt ≤ a.input.now)
      (hother : pairingEndpointsMatch ext config p.pairingEndpoint p.reportEndpoint = .ok false) :
      GivenUp ext a (.pending p)

/-- The server's word that the request is over. -/
inductive Ends (ext : External) (a : Writer) (p : Pending) : StoredPairingState → Prop
  | denied (t : DateTime) (hreply : PolledBy ext a.transcript p ⟨.denied, none⟩) : Ends ext a p (.denied (p.ended t))
  | expired (t : DateTime) (hreply : PolledBy ext a.transcript p ⟨.expired, none⟩ ∨ EndedBy ext a.transcript p) :
      Ends ext a p (.expired (p.ended t))

/-- The request went on: the server knows it now, or has accepted it. -/
inductive GoesOn (ext : External) (a : Writer) : StoredPairingState → StoredPairingState → Prop
  | answered (c : Creating) (mode : PairMode) (p : Pending) (hreply : CreatedBy ext a.transcript c mode p) :
      GoesOn ext a (.creating c) (.pending p)
  | accepted (p : Pending) (instanceId : Uuid) (hreply : PolledBy ext a.transcript p ⟨.active, some instanceId⟩) :
      GoesOn ext a (.pending p) (.activating (p.activating instanceId))

/-- A reply that decides nothing: no HTTP response, a body that is not JSON or that nothing decodes, or a conflict. -/
inductive Inconclusive (ext : External) : Reply → Prop
  | transport (now : DateTime) (e : HttpTransportError) : Inconclusive ext ⟨now, .error e⟩
  | notJson (now : DateTime) (response : HttpResponse)
      (hct : pairingResponseContentType response ≠ "application/json") : Inconclusive ext ⟨now, .ok response⟩
  | malformed (now : DateTime) (response : HttpResponse) (hcreate : ext.createResponse response.body = none)
      (hstatus : ext.statusResponse response.body = none) (henvelope : ext.errorEnvelope response.body = none) :
      Inconclusive ext ⟨now, .ok response⟩
  | conflict (now : DateTime) (response : HttpResponse) (hstatus : response.status = 409) :
      Inconclusive ext ⟨now, .ok response⟩

theorem acceptCreated_response {c : Creating} {now : DateTime} {response : HttpResponse} {p : Pending}
    (h : acceptCreated ext c now response = .ok p) : (response.status = 200 ∨ response.status = 201) ∧
      pairingResponseContentType response = "application/json" ∧ ∃ r, ext.createResponse response.body = some r := by
  unfold acceptCreated at h
  obtain ⟨_, hstatus, h⟩ := Except.bind_eq_ok.mp h
  obtain ⟨created, hparse, -⟩ := Except.bind_eq_ok.mp h
  obtain ⟨hct, hdecode⟩ := parsePairingJson_eq_ok hparse
  refine ⟨?_, hct, created, hdecode⟩
  unfold ensurePairingResponse at hstatus
  split at hstatus
  · rename_i hmem
    simpa using hmem
  · cases hstatus

/-- On replies that decide nothing, no reply justifies a write. -/
theorem not_createdBy {tr : List (Request × Reply)} (htr : ∀ x ∈ tr, Inconclusive ext x.2) (c : Creating)
    (mode : PairMode) (p : Pending) : ¬ CreatedBy ext tr c mode p := by
  rintro ⟨now, response, hmem, haccept⟩
  obtain ⟨hstatus, hct, r, hdecode⟩ := acceptCreated_response haccept
  cases htr _ hmem with
  | notJson _ _ hother => exact hother hct
  | malformed _ _ hcreate => rw [hcreate] at hdecode; cases hdecode
  | conflict _ _ hconflict => omega

theorem not_polledBy {tr : List (Request × Reply)} (htr : ∀ x ∈ tr, Inconclusive ext x.2) (p : Pending)
    (polled : PairingStatusResponse) : ¬ PolledBy ext tr p polled := by
  rintro ⟨request, now, response, -, hmem, hstatus, hct, hdecode⟩
  cases htr _ hmem with
  | notJson _ _ hother => exact hother hct
  | malformed _ _ _ hnone => rw [hnone] at hdecode; cases hdecode
  | conflict _ _ hconflict => omega

theorem not_endedBy {tr : List (Request × Reply)} (htr : ∀ x ∈ tr, Inconclusive ext x.2) (p : Pending) :
    ¬ EndedBy ext tr p := by
  rintro ⟨request, now, response, -, hmem, hct, envelope, henvelope, -, -, hstatus⟩
  cases htr _ hmem with
  | notJson _ _ hother => exact hother hct
  | malformed _ _ _ _ hnone => rw [hnone] at henvelope; cases henvelope
  | conflict _ _ hconflict => omega

/-- What a write makes of a live request. -/
theorem Moved.live {h : Chronicle} {a : Writer} {s : StoredPairingState} (hm : Moved ext lossy h a d)
    (hs : loadState h.now.pairing = .ok (some s)) (hlive : s.Live) :
    d.pairing = h.now.pairing ∨ GivenUp ext a s ∨
      ∃ t, loadState d.pairing = .ok (some t) ∧ (GoesOn ext a s t ∨ ∃ p, s = .pending p ∧ Ends ext a p t) := by
  cases hm with
  | kept hkeep => exact Or.inl hkeep
  | began config host mode endpoint hcall hfresh hold hafter =>
    right; left
    rw [Replaceable, hs] at hold
    cases s with
    | creating c => exact .replaced _ config host mode hcall hold
    | activating _ | active _ | denied _ | expired _ => exact hlive.elim
    | pending p =>
      rcases hold with hreplace | ⟨hexpired, hother⟩
      · exact .replaced _ config host mode hcall hreplace
      · exact .moved p config host mode hcall hexpired hother
  | answered c mode p hbefore hafter hmode hreply =>
    cases hs.symm.trans hbefore
    exact Or.inr (Or.inr ⟨_, hafter, Or.inl (.answered c mode p hreply)⟩)
  | accepted p instanceId hbefore hafter hreply =>
    cases hs.symm.trans hbefore
    exact Or.inr (Or.inr ⟨_, hafter, Or.inl (.accepted p instanceId hreply)⟩)
  | committed j t hbefore hafter =>
    cases hs.symm.trans hbefore
    exact hlive.elim
  | denied p t hbefore hafter hreply =>
    cases hs.symm.trans hbefore
    exact Or.inr (Or.inr ⟨_, hafter, Or.inr ⟨p, rfl, .denied t hreply⟩⟩)
  | expired p t hbefore hafter hreply =>
    cases hs.symm.trans hbefore
    exact Or.inr (Or.inr ⟨_, hafter, Or.inr ⟨p, rfl, .expired t hreply⟩⟩)
  | removed hcall hafter => exact Or.inr (Or.inl (.archived s hcall))

/-- **A live request is never silently abandoned.** In every run: a write over a `Creating` or `Pending` journal keeps
the file, or advances the request, or the user gave the request up, or the server said for this very request that it
is over. `Denied` and `Expired` are only written on the server's word. While the user does not give it up, replies that
decide nothing leave the file, secrets included, as it is. -/
theorem live_request_kept (ext : External) (lossy : Chronicle → Prop) (d : Disk)
    (w : World Disk Inputs Request Reply Call Answer) (hr : ReachFrom ext lossy d w) :
    (∀ h a d' s, History.push h ⟨d', a⟩ ≤ w.history → loadState h.now.pairing = .ok (some s) → s.Live →
      d'.pairing = h.now.pairing ∨ GivenUp ext a s ∨
        ∃ t, loadState d'.pairing = .ok (some t) ∧ (GoesOn ext a s t ∨ ∃ p, s = .pending p ∧ Ends ext a p t)) ∧
    (∀ h a d' e, History.push h ⟨d', a⟩ ≤ w.history → loadState d'.pairing = .ok (some (.denied e)) ∨
        loadState d'.pairing = .ok (some (.expired e)) →
      d'.pairing = h.now.pairing ∨ ∃ p t, loadState h.now.pairing = .ok (some (.pending p)) ∧
        loadState d'.pairing = .ok (some t) ∧ Ends ext a p t) ∧
    ∀ h a d' s, History.push h ⟨d', a⟩ ≤ w.history → loadState h.now.pairing = .ok (some s) → s.Live →
      (∀ x ∈ a.transcript, Inconclusive ext x.2) → ¬ GivenUp ext a s → d'.pairing = h.now.pairing := by
  have hsound := sound_of_reach hr
  refine ⟨?_, ?_, ?_⟩
  · intro h a d' s hle hs hlive
    exact (moved_of_legal hsound.legal hle).live hs hlive
  · intro h a d' e hle he
    have hother : ∀ t, loadState d'.pairing = .ok (some t) → (∀ e, t ≠ .denied e) → (∀ e, t ≠ .expired e) → False := by
      intro t ht hnd hne
      rcases he with he | he
      · rw [ht] at he; cases he; exact hnd e rfl
      · rw [ht] at he; cases he; exact hne e rfl
    cases moved_of_legal hsound.legal hle with
    | kept hkeep => exact Or.inl hkeep
    | began config host mode endpoint hcall hfresh hold hafter => exact (hother _ hafter (by simp) (by simp)).elim
    | answered c mode p hbefore hafter => exact (hother _ hafter (by simp) (by simp)).elim
    | accepted p instanceId hbefore hafter => exact (hother _ hafter (by simp) (by simp)).elim
    | committed j t hbefore hafter => exact (hother _ hafter (by simp) (by simp)).elim
    | denied p t hbefore hafter hreply => exact Or.inr ⟨p, _, hbefore, hafter, .denied t hreply⟩
    | expired p t hbefore hafter hreply => exact Or.inr ⟨p, _, hbefore, hafter, .expired t hreply⟩
    | removed hcall hafter =>
      rw [hafter] at he
      rcases he with he | he <;> cases he
  · intro h a d' s hle hs hlive htr hkeep
    rcases (moved_of_legal hsound.legal hle).live hs hlive with hsame | hgiven | ⟨t, -, hgoes | ⟨p, -, hends⟩⟩
    · exact hsame
    · exact absurd hgiven hkeep
    · cases hgoes with
      | answered c mode p hreply => exact absurd hreply (not_createdBy htr c mode p)
      | accepted p instanceId hreply => exact absurd hreply (not_polledBy htr p _)
    · cases hends with
      | denied t hreply => exact absurd hreply (not_polledBy htr p _)
      | expired t hreply =>
        rcases hreply with hreply | hreply
        · exact absurd hreply (not_polledBy htr p _)
        · exact absurd hreply (not_endedBy htr p)

/-- In the rehearsal three requests are made, one of which is replaced. -/
theorem live_request_rehearsed :
    ∃ w, ReachFrom sampleServer (fun _ => False) Disk.empty w ∧ Rehearsal.holds w = true ∧
      ∀ h a d' s, History.push h ⟨d', a⟩ ≤ w.history → loadState h.now.pairing = .ok (some s) → s.Live →
        d'.pairing = h.now.pairing ∨ GivenUp sampleServer a s ∨ ∃ t, loadState d'.pairing = .ok (some t) ∧
          (GoesOn sampleServer a s t ∨ ∃ p, s = .pending p ∧ Ends sampleServer a p t) := by
  obtain ⟨w, hr, hholds⟩ := rehearsed
  exact ⟨w, hr, hholds, (live_request_kept sampleServer _ Disk.empty w hr).1⟩

end

end Xsoc
