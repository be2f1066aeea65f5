import Xsoc.Transactions

/-!
# What each operation does

The contract of every operation of the client, whatever the other processes write meanwhile and whatever the server
answers: which replies it may have acted on, what it wrote, and what it returns.

* `Settled` : what became of a reply, for an operation that succeeds;
* `StoredSession` : a session that the journal held at some instant of the call;
* `wp_finishCreateRequest`, `wp_pollExisting`, `wp_startOrResume`, `wp_activatePendingWithCode`, `wp_localStatus`.
-/

set_option autoImplicit false

namespace Xsoc

open Durable

section

variable (ext : External)

/-- The call `call` replaced the journal by `state` between `h` and `k`. -/
def Wrote (call : Call) (state : StoredPairingState) (h k : Chronicle) : Prop :=
  ∃ m tr i, h ≤ m ∧ History.push m ⟨putPairing ext.serde state m.now, ⟨call, tr, i⟩⟩ ≤ k

/-- The session that a journal stands for. -/
def StoredPairingState.session? : StoredPairingState → Option PairingSession
  | pending p => some p.session
  | activating j => some j.session
  | _ => none

/-- The journal stood for session `s` at some instant between `h` and `k`. -/
def StoredSession (h k : Chronicle) (s : PairingSession) : Prop :=
  ∃ m state, h ≤ m ∧ m ≤ k ∧ loadState m.now.pairing = .ok (some state) ∧ state.session? = some s

/-- The journal is one that a call with this configuration resumes. -/
def Resumable (config : ClientConfig) : StoredPairingState → Prop
  | .creating c => config.replacePendingPairing = false ∧
      pairingEndpointsMatch ext config c.pairingEndpoint c.reportEndpoint = .ok true
  | .pending p => config.replacePendingPairing = false ∧
      pairingEndpointsMatch ext config p.pairingEndpoint p.reportEndpoint = .ok true
  | .activating j => pairingEndpointsMatch ext config j.pairingEndpoint j.reportEndpoint = .ok true
  | _ => False

/-- The call resumed generation `generation`, which the journal held at some instant of the call, or began it. -/
def ResumedOrBegun (config : ClientConfig) (host : HostIdentity) (call : Call) (h k : Chronicle)
    (generation : Uuid) : Prop :=
  (∃ m state, h ≤ m ∧ m ≤ k ∧ loadState m.now.pairing = .ok (some state) ∧ Resumable ext config state ∧
    state.generation = generation) ∨
  (∃ m tr i pairingEndpoint, h ≤ m ∧ FreshInputs m i ∧ History.push m ⟨putPairing ext.serde
    (.creating (newCreating config host pairingEndpoint i)) m.now, ⟨call, tr, i⟩⟩ ≤ k ∧ i.generation = generation)

/-- The journal confirms the activation of request `p`: it is still pending, or it leads to `instanceId`. -/
def Confirms (d : Disk) (p : Pending) (activated result : Option Uuid) : Prop :=
  match loadState d.pairing with
  | .ok (some (.pending p')) => result = activated ∧ isCurrentPending (some (.pending p')) p.generation p.requestId
      p.pairingEndpoint p.reportEndpoint p.pollingSecret = true
  | .ok (some (.activating j)) => result = some j.instanceId ∧ j.generation = p.generation ∧
      j.requestId = p.requestId ∧ activated.all (fun id => id = j.instanceId) = true
  | .ok (some (.active s)) => result = some s.instanceId ∧ s.generation = p.generation ∧
      s.requestId = p.requestId ∧ activated.all (fun id => id = s.instanceId) = true
  | _ => False

/-- The journal leads from the request to `instanceId`: its activation is accepted, or committed. -/
inductive Leads (d : Disk) (generation requestId instanceId : Uuid) : Prop
  | activating (j : Activating) (hload : loadState d.pairing = .ok (some (.activating j)))
      (hgen : j.generation = generation) (hreq : j.requestId = requestId) (hid : j.instanceId = instanceId)
  | active (s : Active) (hload : loadState d.pairing = .ok (some (.active s))) (hgen : s.generation = generation)
      (hreq : s.requestId = requestId) (hid : s.instanceId = instanceId)

/-- What became of a reply, for a poll that succeeds: it was written to the journal it was about, or it says that the
request is still waiting. -/
inductive Settled (call : Call) (h k : Chronicle) (tr : List (Request × Reply)) : Option PairingProgress → Prop
  | created (c : Creating) (mode : PairMode) (p : Pending) (hseen : Seen k (.creating c))
      (hreply : CreatedBy ext tr c mode p) (hwrote : Wrote ext call (.pending p) h k) :
      Settled call h k tr (some (.waiting p.session))
  | waiting (p : Pending) (hseen : Seen k (.pending p)) (hreply : PolledBy ext tr p ⟨.waiting, none⟩) :
      Settled call h k tr (some (.waiting p.session))
  | active (p : Pending) (instanceId : Uuid) (hreply : PolledBy ext tr p ⟨.active, some instanceId⟩)
      (hwrote : Wrote ext call (.activating (p.activating instanceId)) h k) :
      Settled call h k tr (some (.active p.generation p.requestId instanceId p.reportEndpoint))
  | denied (p : Pending) (t : DateTime) (hreply : PolledBy ext tr p ⟨.denied, none⟩)
      (hwrote : Wrote ext call (.denied (p.ended t)) h k) :
      Settled call h k tr (some (.denied p.generation p.requestId p.activationUrl))
  | expired (p : Pending) (t : DateTime) (hreply : PolledBy ext tr p ⟨.expired, none⟩)
      (hwrote : Wrote ext call (.expired (p.ended t)) h k) :
      Settled call h k tr (some (.expired p.generation p.requestId p.activationUrl))

end

/-! ## Rules -/

section

variable {ext : External} {lossy : Chronicle → Prop} {init : Disk → Prop} {call : Call}
  {tr : List (Request × Reply)} {h : Chronicle}

theorem Wrote.of_push {state : StoredPairingState} {m k : Chronicle} {i : Inputs} (hm : h ≤ m)
    (hk : History.push m ⟨putPairing ext.serde state m.now, ⟨call, tr, i⟩⟩ ≤ k) : Wrote ext call state h k :=
  ⟨m, tr, i, hm, hk⟩

theorem Wrote.mono_left {state : StoredPairingState} {h' k : Chronicle} (hw : Wrote ext call state h' k)
    (hle : h ≤ h') : Wrote ext call state h k := by
  obtain ⟨m, tr, i, hm, hpush⟩ := hw
  exact ⟨m, tr, i, hle.trans hm, hpush⟩

theorem Settled.mono_left {h' k : Chronicle} {r : Option PairingProgress} (hs : Settled ext call h' k tr r)
    (hle : h ≤ h') : Settled ext call h k tr r := by
  cases hs with
  | created c mode p hseen hreply hw => exact .created c mode p hseen hreply (hw.mono_left hle)
  | waiting p hseen hreply => exact .waiting p hseen hreply
  | active p id hreply hw => exact .active p id hreply (hw.mono_left hle)
  | denied p t hreply hw => exact .denied p t hreply (hw.mono_left hle)
  | expired p t hreply hw => exact .expired p t hreply (hw.mono_left hle)

theorem StoredSession.mono {h' k k' : Chronicle} {s : PairingSession} (hs : StoredSession h' k s) (hle : h ≤ h')
    (hle' : k ≤ k') : StoredSession h k' s := by
  obtain ⟨m, state, hm, hk, hrest⟩ := hs
  exact ⟨m, state, hle.trans hm, hk.trans hle', hrest⟩

theorem ResumedOrBegun.mono {config : ClientConfig} {host : HostIdentity} {h' k k' : Chronicle} {generation : Uuid}
    (hs : ResumedOrBegun ext config host call h' k generation) (hle : h ≤ h') (hle' : k ≤ k') :
    ResumedOrBegun ext config host call h k' generation := by
  rcases hs with ⟨m, state, hm, hk, hrest⟩ | ⟨m, tr, i, endpoint, hm, hfresh, hpush, hgen⟩
  · exact Or.inl ⟨m, state, hle.trans hm, hk.trans hle', hrest⟩
  · exact Or.inr ⟨m, tr, i, endpoint, hle.trans hm, hfresh, hpush.trans hle', hgen⟩

/-- A transaction is run where it takes the lock; it may be cut short, and is not asked anything then. -/
theorem wp_transaction {α : Type} {t : Inputs → StateTx α}
    {Q : Except Error α → List (Request × Reply) → Chronicle → Prop}
    (ht : ∀ k, h ≤ k → (guarantee ext lossy init).Legal k → ∀ i, FreshInputs k i →
      Tx.wp (permits ext lossy) ⟨call, tr, i⟩ (t i) (fun x k' => Q x tr k') k)
    (herr : ∀ e k, h ≤ k → Q (.error e) tr k) :
    Op.wp (guarantee ext lossy init) call (transaction t) tr h Q := by
  unfold transaction
  rw [Op.wp_lock]
  intro k hk hl i hi
  exact Tx.wp_failing (ht k hk hl i hi) (fun e k' hk' => herr e k' (hk.trans hk'))

theorem wp_buildClient {config : ClientConfig} {Q : Except Error Unit → List (Request × Reply) → Chronicle → Prop}
    (hok : ∀ k, h ≤ k → Q (.ok ()) tr k) (herr : ∀ e k, h ≤ k → Q (.error e) tr k) :
    Op.wp (guarantee ext lossy init) call (buildClient ext config) tr h Q := by
  unfold buildClient
  rw [Op.wp_peek]
  intro k hk _
  refine ⟨fun _ => herr _ k hk, ?_⟩
  cases ext.buildClient config with
  | error e => exact herr e k hk
  | ok _ => exact hok k hk

theorem wp_inferredMode {host : HostIdentity} {Q : Except Error PairMode → List (Request × Reply) → Chronicle → Prop}
    (hok : ∀ k mode, h ≤ k → (mode = modeOf k.now.identity host ∨ (lossy k ∧ mode = .fresh)) → Q (.ok mode) tr k) :
    Op.wp (guarantee ext lossy init) call (inferredMode host) tr h Q := by
  unfold inferredMode
  rw [Op.wp_peek]
  intro k hk _
  exact ⟨fun hlossy => hok k .fresh hk (Or.inr ⟨hlossy, rfl⟩), hok k _ hk (Or.inl rfl)⟩

theorem wp_postBounded {request : Request} {context : String}
    {Q : Except Error (DateTime × HttpResponse) → List (Request × Reply) → Chronicle → Prop}
    (hemit : ∀ k, h ≤ k → Emitted ext lossy k request)
    (hok : ∀ now response, Q (.ok (now, response)) (tr ++ [(request, ⟨now, .ok response⟩)]) h)
    (herr : ∀ e reply, Q (.error e) (tr ++ [(request, reply)]) h) :
    Op.wp (guarantee ext lossy init) call (postBounded request context) tr h Q := by
  unfold postBounded
  rw [Op.wp_bind, Op.wp_send]
  refine ⟨fun k hk _ => hemit k hk, ?_⟩
  intro reply
  match reply with
  | ⟨now, .ok response⟩ => exact hok now response
  | ⟨now, .error e⟩ => exact herr _ _

theorem Emitted.mono {h k : Chronicle} {request : Request} (he : Emitted ext lossy h request) (hle : h ≤ k) :
    Emitted ext lossy k request := by
  cases he with
  | create c mode hseen hmode =>
    obtain ⟨m, hm, hrest⟩ := hmode
    exact .create c mode (hseen.mono hle) ⟨m, hm.trans hle, hrest⟩
  | status p request hseen hpoll => exact .status p request (hseen.mono hle) hpoll
  | activate p request hseen hpost => exact .activate p request (hseen.mono hle) hpost

/-! ## Creating -/

theorem acceptCreated_reportEndpoint {c : Creating} {now : DateTime} {response : HttpResponse} {p : Pending}
    (h : acceptCreated ext c now response = .ok p) : p.reportEndpoint = c.reportEndpoint ∧
      p.generation = c.generation ∧ p.pairingEndpoint = c.pairingEndpoint ∧ p.bearerSecret = c.bearerSecret ∧
      p.pollingSecret = c.pollingSecret := by
  unfold acceptCreated at h
  obtain ⟨_, -, h⟩ := Except.bind_eq_ok.mp h
  obtain ⟨_, -, h⟩ := Except.bind_eq_ok.mp h
  obtain ⟨_, -, h⟩ := Except.bind_eq_ok.mp h
  obtain ⟨_, -, h⟩ := Except.bind_eq_ok.mp h
  obtain ⟨_, -, h⟩ := Except.bind_eq_ok.mp h
  obtain ⟨_, -, h⟩ := Except.bind_eq_ok.mp h
  obtain ⟨_, -, h⟩ := Except.bind_eq_ok.mp h
  cases h
  exact ⟨rfl, rfl, rfl, rfl, rfl⟩

theorem wp_finishCreateRequest {config : ClientConfig} {c : Creating}
    {Q : Except Error PairingSession → List (Request × Reply) → Chronicle → Prop} (hseen : Seen h (.creating c))
    (hok : ∀ mode p tr' k, h ≤ k → CreatedBy ext tr' c mode p → Wrote ext call (.pending p) h k →
      loadState k.now.pairing = .ok (some (.pending p)) → Q (.ok p.session) tr' k)
    (herr : ∀ e tr' k, h ≤ k → Q (.error e) tr' k) :
    Op.wp (guarantee ext lossy init) call (finishCreateRequest ext config c) tr h Q := by
  have hrefl := le_refl h
  unfold finishCreateRequest
  simp only [Op.wp_bind, Op.wp_ofExcept, validateStateVersion_eq]
  cases hp : withContext "stored pairing endpoint is unsafe" (validatePairingEndpoint ext.url c.pairingEndpoint) with
  | error e => exact herr e tr h hrefl
  | ok _ =>
  cases hr : withContext "stored report endpoint is unsafe"
      (config.validateDurableReportEndpoint ext.url c.reportEndpoint) with
  | error e => exact herr e tr h hrefl
  | ok _ =>
  have hvalid : validateEndpoint ext.url c.reportEndpoint = .ok () := withContext_eq_ok.mp hr
  refine wp_buildClient ?_ (fun e k hk => herr e tr k hk)
  intro k₁ hk₁
  simp only
  refine wp_inferredMode ?_
  intro k₂ mode hk₂ hmode
  have hl₂ := hk₁.trans hk₂
  have hinferred : Inferred lossy k₂ c mode := ⟨k₂, le_refl k₂, hseen.mono hl₂, hmode⟩
  simp only
  refine wp_postBounded (fun k hk => (Emitted.create c mode (hseen.mono hl₂) hinferred).mono hk) ?_
    (fun e reply => herr e _ k₂ hl₂)
  intro now response
  simp only
  cases hp : acceptCreated ext c now response with
  | error e => exact herr e _ k₂ hl₂
  | ok p =>
    have hreply : ∀ tr', (c.request ext mode, ⟨now, .ok response⟩) ∈ tr' → CreatedBy ext tr' c mode p :=
      fun tr' hmem => ⟨now, response, hmem, hp⟩
    have hmem : ((c.request ext mode, ⟨now, .ok response⟩) : Request × Reply) ∈
        tr ++ [(c.request ext mode, ⟨now, .ok response⟩)] := by simp
    refine wp_transaction ?_ (fun e k hk => herr e _ k (hl₂.trans hk))
    intro k hk _ i _
    have hlk := hl₂.trans hk
    have hinferred' : Inferred lossy k c mode := ⟨k₂, hk, hseen.mono hl₂, hmode⟩
    have hvalid' : validateEndpoint ext.url p.reportEndpoint = .ok () := by
      rw [(acceptCreated_reportEndpoint hp).1]; exact hvalid
    have hnil : (StoredPairingState.pending p).generation.isNil = false := by
      obtain ⟨m, -, hload⟩ := hseen
      have hc : c.generation.isNil = false := notNil_of_loadState hload
      rw [← (acceptCreated_reportEndpoint hp).2.1] at hc
      exact hc
    refine wp_compareAndPersistCreating (hseen.mono hlk) hinferred' (hreply _ hmem) hvalid' ?_
      (fun e => herr e _ k hlk)
    simp only [Op.wp_pure]
    exact hok mode p _ _ (hlk.trans (History.le_push _ _)) (hreply _ hmem)
      (.of_push hlk (le_refl _)) (loadState_file hnil)

/-! ## Polling -/

theorem wp_replacePending {p : Pending} {next : StoredPairingState}
    {Q : Except Error Unit → List (Request × Reply) → Chronicle → Prop} (hseen : Seen h (.pending p))
    (hpermit : ∀ (k : Chronicle) (a : Writer) (p' : Pending), a.transcript = tr → Seen k (.pending p) →
      loadState k.now.pairing = .ok (some (.pending p')) →
      isCurrentPending (some (.pending p')) p.generation p.requestId p.pairingEndpoint p.reportEndpoint
        p.pollingSecret = true → Permit ext lossy k a (putPairing ext.serde next k.now))
    (hok : ∀ k, h ≤ k → Wrote ext call next h k → Q (.ok ()) tr k)
    (herr : ∀ e k, h ≤ k → Q (.error e) tr k) :
    Op.wp (guarantee ext lossy init) call (replacePending ext p next) tr h Q := by
  unfold replacePending
  refine wp_transaction ?_ herr
  intro k hk _ i _
  refine wp_compareAndPersistPending (fun p' hload hcur => hpermit k _ p' rfl (hseen.mono hk) hload hcur) ?_
    (fun e => herr e k hk)
  exact hok _ (hk.trans (History.le_push _ _)) (.of_push hk (le_refl _))

theorem wp_applyPolled {p : Pending} {now : DateTime} {polled : PairingStatusResponse}
    {Q : Except Error (Option PairingProgress) → List (Request × Reply) → Chronicle → Prop}
    (hseen : Seen h (.pending p)) (hreply : PolledBy ext tr p polled)
    (hvalid : validateEndpoint ext.url p.reportEndpoint = .ok ())
    (hok : ∀ r k, h ≤ k → Settled ext call h k tr r → (∀ s, r = some (.waiting s) → s = p.session) → Q (.ok r) tr k)
    (herr : ∀ e k, h ≤ k → Q (.error e) tr k) :
    Op.wp (guarantee ext lossy init) call (applyPolled ext p now polled) tr h Q := by
  have hrefl := le_refl h
  obtain ⟨status, instanceId⟩ := polled
  unfold applyPolled
  cases status with
  | waiting =>
    simp only [Op.wp_bind, Op.wp_ensure]
    cases instanceId with
    | some id => simpa using herr _ h hrefl
    | none =>
      simp only [Option.isNone_none, if_true, Op.wp_pure]
      exact hok _ h hrefl (.waiting p hseen hreply) (by rintro s ⟨⟩; rfl)
  | active =>
    simp only [Op.wp_bind, Op.wp_ofExcept]
    cases instanceId with
    | none => exact herr _ h hrefl
    | some id =>
      refine wp_transaction ?_ herr
      intro k hk _ i _
      refine wp_persistActiveCredentials rfl (hseen.mono hk) hreply hvalid ?_ (fun e k' hk' => herr e k' (hk.trans hk'))
      intro k' hk'
      simp only [Op.wp_pure]
      exact hok _ k' (hk.trans ((History.le_push _ _).trans hk')) (.active p id hreply (.of_push hk hk'))
        (by simp)
  | denied =>
    simp only [Op.wp_bind, Op.wp_ensure]
    cases instanceId with
    | some id => simpa using herr _ h hrefl
    | none =>
      simp only [Option.isNone_none, if_true]
      refine wp_replacePending hseen ?_ ?_ herr
      · intro k a p' ha hs hload hcur
        exact .denied p p' now hload hs hcur (ha ▸ hreply)
      · intro k hk hwrote
        exact hok _ k hk (.denied p now hreply hwrote) (by simp)
  | expired =>
    simp only [Op.wp_bind, Op.wp_ensure]
    cases instanceId with
    | some id => simpa using herr _ h hrefl
    | none =>
      simp only [Option.isNone_none, if_true]
      refine wp_replacePending hseen ?_ ?_ herr
      · intro k a p' ha hs hload hcur
        exact .expired p p' now hload hs hcur (Or.inl (ha ▸ hreply))
      · intro k hk hwrote
        exact hok _ k hk (.expired p now hreply hwrote) (by simp)

theorem wp_markPendingExpired {p : Pending} {now : DateTime}
    {Q : Except Error PairingProgress → List (Request × Reply) → Chronicle → Prop} (hseen : Seen h (.pending p))
    (hreply : EndedBy ext tr p) (hany : ∀ r k, h ≤ k → Q r tr k) :
    Op.wp (guarantee ext lossy init) call (markPendingExpired ext p now) tr h Q := by
  unfold markPendingExpired
  rw [Op.wp_bind]
  refine wp_replacePending hseen ?_ (fun k hk _ => hany _ k hk) (fun e k hk => hany _ k hk)
  intro k a p' ha hs hload hcur
  exact .expired p p' now hload hs hcur (Or.inr (ha ▸ hreply))

theorem wp_pollPending {config : ClientConfig} {p : Pending}
    {Q : Except Error (Option PairingProgress) → List (Request × Reply) → Chronicle → Prop}
    (hseen : Seen h (.pending p))
    (hok : ∀ r tr' k, h ≤ k → Settled ext call h k tr' r → (∀ s, r = some (.waiting s) → s = p.session) →
      Q (.ok r) tr' k)
    (herr : ∀ e tr' k, h ≤ k → Q (.error e) tr' k) :
    Op.wp (guarantee ext lossy init) call (pollPending ext config p) tr h Q := by
  have hrefl := le_refl h
  unfold pollPending
  simp only [Op.wp_bind, Op.wp_ofExcept, validateStateVersion_eq]
  cases hr : withContext "stored report endpoint is unsafe"
      (config.validateDurableReportEndpoint ext.url p.reportEndpoint) with
  | error e => exact herr e tr h hrefl
  | ok _ =>
  have hvalid : validateEndpoint ext.url p.reportEndpoint = .ok () := withContext_eq_ok.mp hr
  cases hendpoint : pairingStatusEndpoint ext p.pairingEndpoint p.requestId with
  | error e => exact herr e tr h hrefl
  | ok endpoint =>
  refine wp_buildClient ?_ (fun e k hk => herr e tr k hk)
  intro k₁ hk₁
  simp only
  cases hauth : pairingAuthorization p.pollingSecret with
  | error e => exact herr e tr k₁ hk₁
  | ok authorization =>
  have hpoll : p.poll ext (.status endpoint.href authorization) := ⟨endpoint, authorization, hendpoint, hauth, rfl⟩
  refine wp_postBounded (fun k hk => .status p _ (hseen.mono (hk₁.trans hk)) hpoll) ?_
    (fun e reply => herr e _ k₁ hk₁)
  intro now response
  simp only
  have hmem : ((.status endpoint.href authorization, ⟨now, .ok response⟩) : Request × Reply) ∈
      tr ++ [(.status endpoint.href authorization, ⟨now, .ok response⟩)] := by simp
  split
  · rename_i e he
    split
    · rename_i hend
      rw [Op.wp_bind]
      have hended := (endedFor_ensurePairingResponse he hend).1
      refine wp_markPendingExpired (hseen.mono hk₁) ⟨_, now, response, Or.inl hpoll, hmem, hended⟩ ?_
      intro r k hk
      cases r with
      | ok _ => exact herr _ _ k (hk₁.trans hk)
      | error e' => exact herr _ _ k (hk₁.trans hk)
    · exact herr _ _ k₁ hk₁
  · rename_i he
    rw [Op.wp_bind, Op.wp_ofExcept]
    split
    · rename_i polled hparse
      obtain ⟨hjson, hdecode⟩ := parsePairingJson_eq_ok hparse
      have h200 : response.status = 200 := by
        unfold ensurePairingResponse at he
        split at he
        · rename_i hmem; simpa using hmem
        · cases he
      refine wp_applyPolled (hseen.mono hk₁) ⟨_, now, response, hpoll, hmem, h200, hjson, hdecode⟩ hvalid ?_
        (fun e k hk => herr e _ k (hk₁.trans hk))
      exact fun r k hk hs hw => hok r _ k (hk₁.trans hk) (hs.mono_left hk₁) hw
    · exact herr _ _ k₁ hk₁

theorem wp_pollExisting {config : ClientConfig}
    {Q : Except Error (Option PairingProgress) → List (Request × Reply) → Chronicle → Prop}
    (hok : ∀ r tr' k, h ≤ k → (tr' = tr ∨ Settled ext call h k tr' r) →
      (∀ s, r = some (.waiting s) → StoredSession h k s) → Q (.ok r) tr' k)
    (herr : ∀ e tr' k, h ≤ k → Q (.error e) tr' k) :
    Op.wp (guarantee ext lossy init) call (pollExisting ext config) tr h Q := by
  unfold pollExisting loadStateForNetwork
  rw [Op.wp_bind]
  refine wp_transaction ?_ (fun e k hk => herr e tr k hk)
  intro k hk _ i _
  rw [Tx.wp_read]
  cases hload : loadState k.now.pairing with
  | error e => exact herr e tr k hk
  | ok state =>
    match state, hload with
    | none, _ =>
      simp only [Op.wp_pure]
      exact hok none tr k hk (Or.inl rfl) (by simp)
    | some (.creating c), hload =>
      simp only [Op.wp_bind]
      refine wp_finishCreateRequest (Seen.now hload) ?_ (fun e tr' k' hk' => herr e tr' k' (hk.trans hk'))
      intro mode p tr' k' hk' hreply hwrote hload'
      simp only [Op.wp_pure]
      refine hok _ tr' k' (hk.trans hk') (Or.inr ?_) ?_
      · exact .created c mode p ((Seen.now hload).mono hk') hreply (hwrote.mono_left hk)
      · rintro s ⟨⟩
        exact ⟨k', _, hk.trans hk', le_refl k', hload', rfl⟩
    | some (.activating j), hload =>
      simp only [Op.wp_bind]
      refine wp_transaction ?_ (fun e k' hk' => herr e tr k' (hk.trans hk'))
      intro k₁ hk₁ _ i _
      refine wp_recoverActivating rfl ?_ (fun e k' hk' => herr e tr k' ((hk.trans hk₁).trans hk'))
      intro generation requestId instanceId reportEndpoint k' hk'
      simp only [Op.wp_pure]
      exact hok _ tr k' ((hk.trans hk₁).trans hk') (Or.inl rfl) (by simp)
    | some (.pending p), hload =>
      simp only
      refine wp_pollPending (Seen.now hload) ?_ (fun e tr' k' hk' => herr e tr' k' (hk.trans hk'))
      intro r tr' k' hk' hs hwaiting
      refine hok r tr' k' (hk.trans hk') (Or.inr (hs.mono_left hk)) ?_
      intro s hr
      rw [hwaiting s hr]
      exact ⟨k, _, hk, hk', hload, rfl⟩
    | some (.active s), _ | some (.denied s), _ | some (.expired s), _ =>
      simp only [Op.wp_pure]
      exact hok _ tr k hk (Or.inl rfl) (by simp [progressFromTerminal])

/-! ## Starting -/

/-- One `prepare_start` and what follows it. -/
theorem wp_prepared {config : ClientConfig} {host : HostIdentity} {mode : PairMode}
    {f : PairingSession → PairingOp PairingSession}
    {Q : Except Error PairingSession → List (Request × Reply) → Chronicle → Prop}
    (hcall : call = .startOrResume config host mode)
    (hok : ∀ s tr' k, h ≤ k → StoredSession h k s → ResumedOrBegun ext config host call h k s.generation →
      Q (.ok s) tr' k)
    (herr : ∀ e tr' k, h ≤ k → Q (.error e) tr' k)
    (hexpired : ∀ s k, h ≤ k → StoredSession h k s → ResumedOrBegun ext config host call h k s.generation →
      Op.wp (guarantee ext lossy init) call (f s) tr k Q) :
    Op.wp (guarantee ext lossy init) call (transaction (prepareStart ext config host) >>= fun
      | .waiting session => pure session
      | .create state => finishCreateRequest ext config state
      | .checkExpired session => f session) tr h Q := by
  rw [Op.wp_bind]
  refine wp_transaction ?_ (fun e k hk => herr e tr k hk)
  intro k hk _ i hi
  refine wp_prepareStart hcall hi ?_ (fun e k' hk' => herr e tr k' (hk.trans hk'))
  intro r k' hprepared
  cases hprepared with
  | waiting p hstate hkeep hsame =>
    simp only [Op.wp_pure]
    have hload : StoredSession h k p.session := ⟨k, _, hk, le_refl k, hstate, rfl⟩
    exact hok _ tr k hk hload (Or.inl ⟨k, _, hk, le_refl k, hstate, ⟨hkeep, hsame⟩, rfl⟩)
  | expired p hstate hkeep hsame =>
    have hload : StoredSession h k p.session := ⟨k, _, hk, le_refl k, hstate, rfl⟩
    exact hexpired _ k hk hload (Or.inl ⟨k, _, hk, le_refl k, hstate, ⟨hkeep, hsame⟩, rfl⟩)
  | recovered j k' hstate hsame hle =>
    simp only [Op.wp_pure]
    have hload : StoredSession h k' j.session := ⟨k, _, hk, hle, hstate, rfl⟩
    exact hok _ tr k' (hk.trans hle) hload (Or.inl ⟨k, _, hk, hle, hstate, hsame, rfl⟩)
  | resumed c hstate hkeep hsame =>
    refine wp_finishCreateRequest (Seen.now hstate) ?_ (fun e tr' k' hk' => herr e tr' k' (hk.trans hk'))
    rintro mode' p tr' k' hk' ⟨now, response, -, hp⟩ _ hload
    have hgen : c.generation = p.generation := (acceptCreated_reportEndpoint hp).2.1.symm
    refine hok _ tr' k' (hk.trans hk') ⟨k', _, hk.trans hk', le_refl k', hload, rfl⟩ ?_
    exact Or.inl ⟨k, _, hk, hk', hstate, ⟨hkeep, hsame⟩, hgen⟩
  | created m endpoint hle hfresh hendpoint =>
    have hlm := hk.trans hle
    have hpush := hlm.trans (History.le_push m ⟨putPairing ext.serde
      (.creating (newCreating config host endpoint i)) m.now, ⟨call, tr, i⟩⟩)
    have hnil : (StoredPairingState.creating (newCreating config host endpoint i)).generation.isNil = false :=
      hfresh.notNil
    refine wp_finishCreateRequest (Seen.now (loadState_file hnil)) ?_
      (fun e tr' k' hk' => herr e tr' k' (hpush.trans hk'))
    rintro mode' p tr' k' hk' ⟨now, response, -, hp⟩ _ hload
    have hgen : i.generation = p.generation := (acceptCreated_reportEndpoint hp).2.1.symm
    refine hok _ tr' k' (hpush.trans hk') ⟨k', _, hpush.trans hk', le_refl k', hload, rfl⟩ ?_
    exact Or.inr ⟨m, tr, i, endpoint, hlm, hfresh, hk', hgen⟩

/-- A request that is begun again may not be over by then. -/
theorem wp_beginAgain {config : ClientConfig} {host : HostIdentity} {mode : PairMode}
    {Q : Except Error PairingSession → List (Request × Reply) → Chronicle → Prop}
    (hcall : call = .startOrResume config host mode)
    (hok : ∀ s tr' k, h ≤ k → StoredSession h k s → ResumedOrBegun ext config host call h k s.generation →
      Q (.ok s) tr' k)
    (herr : ∀ e tr' k, h ≤ k → Q (.error e) tr' k) :
    Op.wp (guarantee ext lossy init) call (transaction (prepareStart ext config host) >>= fun
      | .waiting current => pure current
      | .create state => finishCreateRequest ext config state
      | .checkExpired _ => Op.throw .superseded) tr h Q := by
  refine wp_prepared hcall hok herr ?_
  intro s k hk _ _
  exact herr _ tr k hk

/-- A successful start returns a session that the journal held during the call, of a generation that the call resumed
or began. -/
theorem wp_startOrResume {config : ClientConfig} {host : HostIdentity} {mode : PairMode}
    {Q : Except Error PairingSession → List (Request × Reply) → Chronicle → Prop}
    (hcall : call = .startOrResume config host mode)
    (hok : ∀ s tr' k, h ≤ k → StoredSession h k s → ResumedOrBegun ext config host call h k s.generation →
      Q (.ok s) tr' k)
    (herr : ∀ e tr' k, h ≤ k → Q (.error e) tr' k) :
    Op.wp (guarantee ext lossy init) call (startOrResumeWithMode ext config host mode) tr h Q := by
  unfold startOrResumeWithMode validateRequestedMode
  rw [Op.wp_bind, Op.wp_bind]
  refine wp_inferredMode ?_
  intro k₁ inferred hk₁ _
  simp only [Op.wp_ensure]
  by_cases hmode : mode = inferred
  swap
  · rw [if_neg hmode]; exact herr _ tr k₁ hk₁
  rw [if_pos hmode]
  have hok₁ : ∀ (h' : Chronicle), h ≤ h' → ∀ s tr' k, h' ≤ k → StoredSession h' k s →
      ResumedOrBegun ext config host call h' k s.generation → Q (.ok s) tr' k :=
    fun h' hh' s tr' k hk hs hr => hok s tr' k (hh'.trans hk) (hs.mono hh' (le_refl k)) (hr.mono hh' (le_refl k))
  have herr₁ : ∀ (h' : Chronicle), h ≤ h' → ∀ e tr' k, h' ≤ k → Q (.error e) tr' k :=
    fun h' hh' e tr' k hk => herr e tr' k (hh'.trans hk)
  refine wp_prepared hcall (hok₁ k₁ hk₁) (herr₁ k₁ hk₁) ?_
  intro s k₂ hk₂ hstored hresumed
  have hl₂ := hk₁.trans hk₂
  rw [Op.wp_bind, Op.wp_handle]
  refine wp_pollExisting ?_ ?_
  · intro r tr' k hk _ hwaiting
    have hlk := hl₂.trans hk
    simp only [Op.wp_ofExcept]
    cases hres : resumeExpired s (.ok r) with
    | error e => exact herr e tr' k hlk
    | ok resumed =>
      cases resumed with
      | none => exact wp_beginAgain hcall (hok₁ k hlk) (herr₁ k hlk)
      | some current =>
        simp only [Op.wp_pure]
        cases r with
        | none => cases hres
        | some progress =>
          cases progress with
          | creating _ _ => cases hres
          | waiting current' =>
            simp only [resumeExpired] at hres
            split at hres
            · rename_i hsame
              cases hres
              refine hok _ tr' k hlk ((hwaiting _ rfl).mono hl₂ (le_refl k)) ?_
              rw [hsame.1]
              exact hresumed.mono hk₁ hk
            · cases hres
          | active generation requestId _ _ =>
            simp only [resumeExpired] at hres
            split at hres
            · cases hres
              exact hok _ tr' k hlk (hstored.mono hk₁ hk) (hresumed.mono hk₁ hk)
            · cases hres
          | denied generation requestId _ | expired generation requestId _ =>
            simp only [resumeExpired] at hres
            split at hres <;> cases hres
  · intro e tr' k hk
    have hlk := hl₂.trans hk
    simp only [Op.wp_ofExcept]
    cases hres : resumeExpired s (.error e) with
    | error e => exact herr e tr' k hlk
    | ok resumed =>
      cases resumed with
      | none => exact wp_beginAgain hcall (hok₁ k hlk) (herr₁ k hlk)
      | some current =>
        simp only [resumeExpired] at hres
        split at hres <;> cases hres

/-! ## Activating -/

theorem wp_activationTarget {generation requestId : Uuid} {a : Writer}
    {Q : Except Error ActivationTarget → Chronicle → Prop}
    (hpending : ∀ p, loadState h.now.pairing = .ok (some (.pending p)) → p.generation = generation →
      p.requestId = requestId → Q (.ok (.pending p)) h)
    (hcommitted : ∀ instanceId, Leads h.now generation requestId instanceId → Q (.ok (.committed instanceId)) h)
    (herr : ∀ e, Q (.error e) h) :
    Tx.wp (permits ext lossy) a (activationTarget generation requestId) Q h := by
  unfold activationTarget
  rw [Tx.wp_bind, Tx.wp_read]
  cases hload : loadState h.now.pairing with
  | error e => exact herr e
  | ok state =>
    match state, hload with
    | none, _ => exact herr _
    | some (.pending p), hload =>
      simp only [bind, Except.bind, okOr_some]
      change Tx.wp (permits ext lossy) a ((Tx.ofExcept (validateStateVersion p.version) : StateTx Unit) >>= fun _ =>
        (Tx.ensure (p.generation = generation ∧ p.requestId = requestId) .superseded : StateTx Unit) >>= fun _ =>
          pure (.pending p)) Q h
      rw [validateStateVersion_eq]
      simp only [Tx.wp_bind, Tx.wp_ofExcept, Tx.wp_ensure]
      by_cases hsame : p.generation = generation ∧ p.requestId = requestId
      · rw [if_pos hsame]
        simp only [Tx.wp_pure]
        exact hpending p hload hsame.1 hsame.2
      · rw [if_neg hsame]
        exact herr _
    | some (.activating j), hload =>
      simp only [bind, Except.bind, okOr_some]
      split
      · rename_i hsame
        rw [Tx.wp_pure]
        exact hcommitted _ (.activating j hload hsame.1 hsame.2 rfl)
      · rw [Tx.wp_throw]; exact herr _
    | some (.active s), hload =>
      simp only [bind, Except.bind, okOr_some]
      split
      · rename_i hsame
        rw [Tx.wp_pure]
        exact hcommitted _ (.active s hload hsame.1 hsame.2 rfl)
      · rw [Tx.wp_throw]; exact herr _
    | some (.creating _), _ | some (.denied _), _ | some (.expired _), _ =>
      simp only [bind, Except.bind, okOr_some, Tx.wp_throw]
      exact herr _

theorem wp_confirmActivation {p : Pending} {activated : Option Uuid} {a : Writer}
    {Q : Except Error (Option Uuid) → Chronicle → Prop}
    (hok : ∀ r, Confirms h.now p activated r → Q (.ok r) h) (herr : ∀ e, Q (.error e) h) :
    Tx.wp (permits ext lossy) a (confirmActivation p.generation p.requestId p activated) Q h := by
  unfold confirmActivation
  rw [Tx.wp_bind, Tx.wp_read]
  cases hload : loadState h.now.pairing with
  | error e => exact herr e
  | ok state =>
    match state, hload with
    | none, _ => exact herr _
    | some (.pending p'), hload =>
      simp only [bind, Except.bind, okOr_some]
      change Tx.wp (permits ext lossy) a (ensurePendingIsCurrent p.generation p.requestId p.pairingEndpoint
        p.reportEndpoint p.pollingSecret >>= fun _ => pure activated) Q h
      rw [Tx.wp_bind]
      refine wp_ensurePendingIsCurrent ?_ herr
      intro p'' hload'' hcur
      simp only [Tx.wp_pure]
      refine hok _ ?_
      rw [Confirms, hload'']
      exact ⟨rfl, hcur⟩
    | some (.activating j), hload =>
      simp only [bind, Except.bind, okOr_some]
      split
      · rename_i hsame
        change Tx.wp (permits ext lossy) a ((Tx.ensure _ _ : StateTx Unit) >>= fun _ => pure (some j.instanceId)) Q h
        simp only [Tx.wp_bind, Tx.wp_ensure]
        split
        · rename_i hall
          simp only [Tx.wp_pure]
          refine hok _ ?_
          rw [Confirms, hload]
          exact ⟨rfl, hsame.1, hsame.2, hall⟩
        · exact herr _
      · rw [Tx.wp_throw]; exact herr _
    | some (.active s), hload =>
      simp only [bind, Except.bind, okOr_some]
      split
      · rename_i hsame
        change Tx.wp (permits ext lossy) a ((Tx.ensure _ _ : StateTx Unit) >>= fun _ => pure (some s.instanceId)) Q h
        simp only [Tx.wp_bind, Tx.wp_ensure]
        split
        · rename_i hall
          simp only [Tx.wp_pure]
          refine hok _ ?_
          rw [Confirms, hload]
          exact ⟨rfl, hsame.1, hsame.2, hall⟩
        · exact herr _
      · rw [Tx.wp_throw]; exact herr _
    | some (.creating _), _ | some (.denied _), _ | some (.expired _), _ =>
      simp only [bind, Except.bind, okOr_some, Tx.wp_throw]
      exact herr _

/-- A successful activation returns what the journal says of exactly the request it was asked about. -/
theorem wp_activatePendingWithCode {config : ClientConfig} {generation requestId : Uuid} {code : String}
    {Q : Except Error (Option Uuid) → List (Request × Reply) → Chronicle → Prop}
    (hcommitted : ∀ instanceId k, h ≤ k → Leads k.now generation requestId instanceId →
      Q (.ok (some instanceId)) tr k)
    (hconfirmed : ∀ p activated r tr' k, h ≤ k → Seen k (.pending p) → p.generation = generation →
      p.requestId = requestId → Confirms k.now p activated r → Q (.ok r) tr' k)
    (herr : ∀ e tr' k, h ≤ k → Q (.error e) tr' k) :
    Op.wp (guarantee ext lossy init) call (activatePendingWithCode ext config generation requestId code) tr h Q := by
  have hrefl := le_refl h
  unfold activatePendingWithCode
  rw [Op.wp_bind, Op.wp_ofExcept]
  cases validateActivationCode code with
  | error e => exact herr e tr h hrefl
  | ok _ =>
  simp only
  rw [Op.wp_bind]
  refine wp_transaction ?_ (fun e k hk => herr e tr k hk)
  intro k₁ hk₁ _ i _
  refine wp_activationTarget ?_ ?_ (fun e => herr e tr k₁ hk₁)
  swap
  · intro instanceId hleads
    simp only [Op.wp_pure]
    exact hcommitted instanceId k₁ hk₁ hleads
  rintro p hload rfl rfl
  have hseen : Seen k₁ (.pending p) := Seen.now hload
  simp only [Op.wp_bind, Op.wp_ofExcept]
  cases withContext "stored report endpoint is unsafe"
      (config.validateDurableReportEndpoint ext.url p.reportEndpoint) with
  | error e => exact herr e tr k₁ hk₁
  | ok _ =>
  cases validateActivationUrlRequest ext p.activationUrl p.pairingEndpoint p.requestId with
  | error e => exact herr e tr k₁ hk₁
  | ok _ =>
  cases hendpoint : activationEndpoint ext p.pairingEndpoint with
  | error e => exact herr e tr k₁ hk₁
  | ok endpoint =>
  refine wp_buildClient ?_ (fun e k hk => herr e tr k (hk₁.trans hk))
  intro k₂ hk₂
  have hl₂ := hk₁.trans hk₂
  have hpost : p.activation ext (.activate endpoint.href ⟨p.requestId.toString, code⟩) :=
    ⟨endpoint, code, hendpoint, rfl⟩
  simp only
  refine wp_postBounded (fun k hk => .activate p _ (hseen.mono (hk₂.trans hk)) hpost) ?_
    (fun e reply => herr e _ k₂ hl₂)
  intro now response
  simp only
  have hmem : ((.activate endpoint.href ⟨p.requestId.toString, code⟩, ⟨now, .ok response⟩) : Request × Reply) ∈
      tr ++ [(.activate endpoint.href ⟨p.requestId.toString, code⟩, ⟨now, .ok response⟩)] := by simp
  -- Every way to succeed ends in the same locked comparison.
  have hconfirm : ∀ activated, Op.wp (guarantee ext lossy init) call
      (transaction (fun _ => confirmActivation p.generation p.requestId p activated))
      (tr ++ [(.activate endpoint.href ⟨p.requestId.toString, code⟩, ⟨now, .ok response⟩)]) k₂ Q := by
    intro activated
    refine wp_transaction ?_ (fun e k hk => herr e _ k (hl₂.trans hk))
    intro k hk _ i _
    have hlk := hl₂.trans hk
    exact wp_confirmActivation
      (fun r hr => hconfirmed p activated r _ k hlk (hseen.mono (hk₂.trans hk)) rfl rfl hr)
      (fun e => herr e _ k hlk)
  split
  · exact hconfirm none
  split
  · rename_i e he
    split
    · rename_i hend
      rw [Op.wp_bind]
      have hended := (endedFor_ensurePairingResponse he hend).1
      refine wp_markPendingExpired (hseen.mono hk₂) ⟨_, now, response, Or.inr hpost, hmem, hended⟩ ?_
      intro r k hk
      cases r with
      | ok _ => exact herr _ _ k (hl₂.trans hk)
      | error e' => exact herr _ _ k (hl₂.trans hk)
    · exact herr _ _ k₂ hl₂
  · rw [Op.wp_bind, Op.wp_ofExcept]
    split
    · rename_i activated _
      exact hconfirm (some activated.instanceId)
    · exact herr _ _ k₂ hl₂

end

end Xsoc
