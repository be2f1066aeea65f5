import Xsoc.Durable.Schedule
import Xsoc.Pairing.Start

/-!
# Replies that come too late

A reply is looked at when another process may have replaced the record it was obtained for. What an operation still does
then is one compare-and-swap at most, which refuses another record.

* `postCreate`, `askPoll`, `askActivate` : the operations up to their POST; `afterCreate`, `afterPoll`, `afterActivate`
  : the rest of them;
* `Holds.Creating`, `Holds.Pending` : the record of a reply is still there;
* `StaleCreate`, `StalePoll`, `StaleActivate` : what the rest comes to where it is not;
* `staleReplies` : it does, whatever the reply is, and writes nothing.
-/

set_option autoImplicit false

namespace Xsoc

open Durable

/-! ## Before and after the reply -/

section

variable (ext : External)

/-- `finish_create_request`, up to its POST. -/
def postCreate (config : ClientConfig) (c : Creating) : PairingOp Reply := do
  Op.ofExcept (validateStateVersion c.version)
  Op.ofExcept (withContext "stored pairing endpoint is unsafe" (validatePairingEndpoint ext.url c.pairingEndpoint))
  Op.ofExcept (withContext "stored report endpoint is unsafe"
    (config.validateDurableReportEndpoint ext.url c.reportEndpoint))
  buildClient ext config
  let mode ← inferredMode c.host
  Op.send (c.request ext mode)

def afterCreate (c : Creating) (reply : Reply) : PairingOp PairingSession :=
  match reply.response with
  | .error e => Op.throw (.context "failed to create a browser pairing request" (.transport e))
  | .ok response => do
    let p ← Op.ofExcept (acceptCreated ext c reply.now response)
    transaction (fun _ => compareAndPersistCreating ext c.generation c.pairingEndpoint c.reportEndpoint
      c.pollingSecret (.pending p))
    pure p.session

/-- `poll_existing` of a `Pending` request, up to its POST. -/
def askPoll (config : ClientConfig) (p : Pending) : PairingOp (Url × Reply) := do
  Op.ofExcept (validateStateVersion p.version)
  Op.ofExcept (withContext "stored report endpoint is unsafe"
    (config.validateDurableReportEndpoint ext.url p.reportEndpoint))
  let endpoint ← Op.ofExcept (pairingStatusEndpoint ext p.pairingEndpoint p.requestId)
  buildClient ext config
  let authorization ← Op.ofExcept (pairingAuthorization p.pollingSecret)
  let reply ← Op.send (.status endpoint.href authorization)
  pure (endpoint, reply)

def afterPoll (p : Pending) (endpoint : Url) (reply : Reply) : PairingOp (Option PairingProgress) :=
  match reply.response with
  | .error e => Op.throw (.context "failed to poll browser pairing status" (.transport e))
  | .ok response =>
    let contentType := pairingResponseContentType response
    match ensurePairingResponse ext response.status contentType response.body [200] .poll with
    | .error e =>
      if e.endedFor p.requestId then do
        let _ ← markPendingExpired ext p reply.now
        Op.throw e
      else Op.throw e
    | .ok () => do
      let polled ← Op.ofExcept (parsePairingJson ext ext.statusResponse response.body contentType endpoint.href
        "pairing status response")
      applyPolled ext p reply.now polled

/-- `activate_pending_with_code` of a `Pending` request, up to its POST. -/
def askActivate (config : ClientConfig) (requestId : Uuid) (activationCode : String) (p : Pending) :
    PairingOp (Url × Reply) := do
  Op.ofExcept (withContext "stored report endpoint is unsafe"
    (config.validateDurableReportEndpoint ext.url p.reportEndpoint))
  Op.ofExcept (validateActivationUrlRequest ext p.activationUrl p.pairingEndpoint requestId)
  let endpoint ← Op.ofExcept (activationEndpoint ext p.pairingEndpoint)
  buildClient ext config
  let reply ← Op.send (.activate endpoint.href ⟨requestId.toString, activationCode⟩)
  pure (endpoint, reply)

def afterActivate (generation requestId : Uuid) (p : Pending) (endpoint : Url) (reply : Reply) :
    PairingOp (Option Uuid) :=
  match reply.response with
  | .error e => Op.throw (.context "failed to submit the one-time authorization key" (.transport e))
  | .ok response =>
    let contentType := pairingResponseContentType response
    if response.status = 409 then transaction (fun _ => confirmActivation generation requestId p none)
    else
      match ensurePairingResponse ext response.status contentType response.body [200] .activate with
      | .error e =>
        if e.endedFor requestId then do
          let _ ← markPendingExpired ext p reply.now
          Op.throw e
        else Op.throw e
      | .ok () => do
        let activated ← Op.ofExcept (parsePairingJson ext ext.activateResponse response.body contentType endpoint.href
          "pairing activation response")
        transaction (fun _ => confirmActivation generation requestId p (some activated.instanceId))

end

section

variable {ext : External} {d : Disk}

/-- A POST, and what is made of its reply where there is one. -/
theorem postBounded_bind {α : Type} (request : Request) (context : String) (f : DateTime × HttpResponse → PairingOp α) :
    postBounded request context >>= f = Op.send request >>= fun reply =>
      match reply.response with
      | .error e => Op.throw (.context context (.transport e))
      | .ok response => f (reply.now, response) := by
  unfold postBounded
  rw [Op.bind_assoc]
  refine congrArg (Op.send request >>= ·) (funext fun reply => ?_)
  cases reply.response with
  | ok response => rfl
  | error e => rfl

theorem finishCreateRequest_eq (config : ClientConfig) (c : Creating) :
    finishCreateRequest ext config c = postCreate ext config c >>= afterCreate ext c := by
  unfold finishCreateRequest postCreate
  simp only [postBounded_bind, Op.bind_assoc]
  rfl

theorem pollPending_eq (config : ClientConfig) (p : Pending) :
    pollPending ext config p = askPoll ext config p >>= fun asked => afterPoll ext p asked.1 asked.2 := by
  unfold pollPending askPoll
  simp only [postBounded_bind, Op.bind_assoc]
  rfl

theorem activatePendingWithCode_eq (config : ClientConfig) (generation requestId : Uuid) (activationCode : String) :
    activatePendingWithCode ext config generation requestId activationCode = (do
      Op.ofExcept (validateActivationCode activationCode)
      match ← transaction (fun _ => activationTarget generation requestId) with
      | .committed instanceId => pure (some instanceId)
      | .pending p =>
        askActivate ext config requestId activationCode p >>= fun asked =>
          afterActivate ext generation requestId p asked.1 asked.2) := by
  unfold activatePendingWithCode askActivate
  simp only [postBounded_bind, Op.bind_assoc]
  rfl

/-! ## Another record -/

/-- The journal is still the `Creating` record that a reply was obtained for. -/
def Holds.Creating (d : Disk) (c : Xsoc.Creating) : Prop :=
  ∃ c', loadState d.pairing = .ok (some (.creating c')) ∧ c'.generation = c.generation ∧
    c'.pairingEndpoint = c.pairingEndpoint ∧ c'.reportEndpoint = c.reportEndpoint ∧ c'.pollingSecret = c.pollingSecret

/-- The journal is still the `Pending` record that a reply was obtained for. -/
def Holds.Pending (d : Disk) (p : Xsoc.Pending) : Prop :=
  ∃ state, loadState d.pairing = .ok state ∧
    isCurrentPending state p.generation p.requestId p.pairingEndpoint p.reportEndpoint p.pollingSecret = true

/-- The error of a compare-and-swap over another record, or over none that can be read. -/
def refusal (d : Disk) : Error :=
  match loadState d.pairing with
  | .ok _ => .superseded
  | .error e => e

theorem compareAndPersistCreating_stale {c : Creating} (hstale : ¬ Holds.Creating d c) (next : StoredPairingState) :
    compareAndPersistCreating ext c.generation c.pairingEndpoint c.reportEndpoint c.pollingSecret next d =
      ([], .error (refusal d)) := by
  unfold compareAndPersistCreating refusal
  rw [Tx.run_bind, Tx.run_read]
  cases hload : loadState d.pairing with
  | error e => rfl
  | ok state =>
    cases state with
    | none => rfl
    | some s =>
      cases s with
      | creating c' =>
        have hother : ¬ (c'.generation = c.generation ∧ c'.pairingEndpoint = c.pairingEndpoint ∧
            c'.reportEndpoint = c.reportEndpoint ∧ c'.pollingSecret = c.pollingSecret) := fun h => hstale ⟨c', hload, h⟩
        simp only [Tx.run_bind, Tx.run_ensure, if_neg hother, List.append_nil]
      | pending _ | activating _ | active _ | denied _ | expired _ => rfl

theorem ensurePendingIsCurrent_stale {p : Pending} (hstale : ¬ Holds.Pending d p) :
    (ensurePendingIsCurrent p.generation p.requestId p.pairingEndpoint p.reportEndpoint p.pollingSecret :
      StateTx Unit) d = ([], .error (refusal d)) := by
  unfold ensurePendingIsCurrent refusal
  rw [Tx.run_bind, Tx.run_read]
  cases hload : loadState d.pairing with
  | error e => rfl
  | ok state =>
    have hother : ¬ isCurrentPending state p.generation p.requestId p.pairingEndpoint p.reportEndpoint
        p.pollingSecret = true := fun h => hstale ⟨state, hload, h⟩
    simp [Tx.run_ensure, hother]

theorem compareAndPersistPending_stale {p : Pending} (hstale : ¬ Holds.Pending d p) (next : StoredPairingState) :
    compareAndPersistPending ext p.generation p.requestId p.pairingEndpoint p.reportEndpoint p.pollingSecret next d =
      ([], .error (refusal d)) := by
  unfold compareAndPersistPending
  rw [Tx.run_bind_error (ensurePendingIsCurrent_stale hstale)]

theorem persistActiveCredentials_stale {p : Pending} (hstale : ¬ Holds.Pending d p) (instanceId : Uuid) (i : Inputs) :
    persistActiveCredentials ext p instanceId i d = ([], .error (refusal d)) := by
  unfold persistActiveCredentials
  rw [Tx.run_bind_error (ensurePendingIsCurrent_stale hstale)]

/-- The journal says which instance the request became: it was accepted, or is committed. -/
inductive Concluded (p : Pending) : StoredPairingState → Uuid → Prop
  | activating (j : Activating) (h : j.generation = p.generation ∧ j.requestId = p.requestId) :
      Concluded p (.activating j) j.instanceId
  | active (a : Active) (h : a.generation = p.generation ∧ a.requestId = p.requestId) :
      Concluded p (.active a) a.instanceId

/-- What `activate_pending_with_code` makes of another record, after the server activated the request as this instance,
or may have done so. -/
inductive StaleActivation (p : Pending) (d : Disk) (activated : Option Uuid) : Except Error (Option Uuid) → Prop
  | unreadable (e : Error) (hload : loadState d.pairing = .error e) : StaleActivation p d activated (.error e)
  | vanished (hload : loadState d.pairing = .ok none) :
      StaleActivation p d activated (.error (.message "the pairing state disappeared after activation"))
  | committed (s : StoredPairingState) (v : Uuid) (hload : loadState d.pairing = .ok (some s)) (hs : Concluded p s v)
      (hsame : activated.all (fun id => id = v) = true) : StaleActivation p d activated (.ok (some v))
  | mismatch (s : StoredPairingState) (v : Uuid) (hload : loadState d.pairing = .ok (some s)) (hs : Concluded p s v)
      (hother : activated.all (fun id => id = v) = false) :
      StaleActivation p d activated
        (.error (.message "activation instance does not match the concurrently committed pairing state"))
  | superseded (s : StoredPairingState) (hload : loadState d.pairing = .ok (some s)) (hother : ∀ v, ¬ Concluded p s v) :
      StaleActivation p d activated (.error .superseded)

theorem confirmActivation_stale {p : Pending} (hstale : ¬ Holds.Pending d p) (activated : Option Uuid) :
    ∃ r, StaleActivation p d activated r ∧ confirmActivation p.generation p.requestId p activated d = ([], r) := by
  unfold confirmActivation
  rw [Tx.run_bind, Tx.run_read]
  have hrefused := ensurePendingIsCurrent_stale hstale
  unfold refusal at hrefused
  cases hload : loadState d.pairing with
  | error e => exact ⟨_, .unreadable e hload, rfl⟩
  | ok state =>
    cases state with
    | none => exact ⟨_, .vanished hload, rfl⟩
    | some s =>
      rw [hload] at hrefused
      have hone : ∀ (generation requestId v : Uuid),
          (generation = p.generation ∧ requestId = p.requestId → Concluded p s v) →
          (¬ (generation = p.generation ∧ requestId = p.requestId) → ∀ v, ¬ Concluded p s v) →
          ∃ r, StaleActivation p d activated r ∧
            (if generation = p.generation ∧ requestId = p.requestId then do
                Tx.ensure (activated.all (fun id => id = v) = true)
                  (.message "activation instance does not match the concurrently committed pairing state")
                pure (some v)
              else Tx.throw .superseded : StateTx (Option Uuid)) d = ([], r) := by
        intro generation requestId v hthis hother
        by_cases hsame : generation = p.generation ∧ requestId = p.requestId
        · rw [if_pos hsame, Tx.run_bind, Tx.run_ensure]
          cases hall : activated.all (fun id => id = v) with
          | true => exact ⟨_, .committed s v hload (hthis hsame) hall, rfl⟩
          | false => exact ⟨_, .mismatch s v hload (hthis hsame) hall, rfl⟩
        · rw [if_neg hsame]
          exact ⟨_, .superseded s hload (hother hsame), rfl⟩
      cases s with
      | pending p' => exact ⟨_, .superseded _ hload nofun, Tx.run_bind_error hrefused⟩
      | creating c => exact ⟨_, .superseded _ hload nofun, rfl⟩
      | denied e => exact ⟨_, .superseded _ hload nofun, rfl⟩
      | expired e => exact ⟨_, .superseded _ hload nofun, rfl⟩
      | activating j =>
        refine hone j.generation j.requestId j.instanceId (.activating j) fun hne v hv => ?_
        cases hv with
        | activating _ h => exact hne h
      | active a =>
        refine hone a.generation a.requestId a.instanceId (.active a) fun hne v hv => ?_
        cases hv with
        | active _ h => exact hne h

/-! ## What the rest comes to -/

/-- On `d` the operation writes nothing and returns `r`, whatever its transaction draws, unless an error of the store
cuts that one short. -/
def Yields {α : Type} (op : PairingOp α) (d : Disk) (r : Except Error α) : Prop :=
  ∀ inputs : Nat → Inputs, Prog.solo op inputs d = ([], .ok r) ∨
    ∃ n e, (inputs 0).fault = some (n, e) ∧ Prog.solo op inputs d = ([], .ok (.error (.io e)))

theorem yields_throw {α : Type} (e : Error) : Yields (Op.throw e : PairingOp α) d (.error e) := fun _ => Or.inl rfl

theorem yields_pure {α : Type} (a : α) : Yields (pure a : PairingOp α) d (.ok a) := fun _ => Or.inl rfl

theorem yields_transaction {α : Type} {t : Inputs → StateTx α} {r : Except Error α} (ht : ∀ i, t i d = ([], r)) :
    Yields (transaction t) d r := by
  intro inputs
  have hrun : ∀ x, (t (inputs 0)).failing ((inputs 0).fault.map (Prod.map id Error.io)) d = ([], x) →
      Prog.solo (transaction t) inputs d = ([], .ok x) := by
    intro x hx
    show (((t (inputs 0)).failing ((inputs 0).fault.map (Prod.map id Error.io)) d).1 ++ [],
      Except.ok ((t (inputs 0)).failing ((inputs 0).fault.map (Prod.map id Error.io)) d).2) = _
    rw [hx]
    rfl
  cases hfault : (inputs 0).fault with
  | none =>
    rw [hfault] at hrun
    exact Or.inl (hrun r (ht (inputs 0)))
  | some fault =>
    obtain ⟨n, e⟩ := fault
    rw [hfault] at hrun
    refine Or.inr ⟨n, e, rfl, hrun (.error (.io e)) ?_⟩
    show ((t (inputs 0) d).1.take n, Except.error (Error.io e)) = _
    rw [ht]
    simp

theorem yields_transaction_bind {α β : Type} {t : Inputs → StateTx α} {f : α → PairingOp β} {e : Error}
    (ht : ∀ i, t i d = ([], .error e)) : Yields (transaction t >>= f) d (.error e) := by
  intro inputs
  cases hfault : (inputs 0).fault with
  | none =>
    refine Or.inl (Op.solo_lock_bind_error ?_)
    rw [hfault]
    exact ht (inputs 0)
  | some fault =>
    obtain ⟨n, e'⟩ := fault
    refine Or.inr ⟨n, e', rfl, Op.solo_lock_bind_error ?_⟩
    rw [hfault]
    show ((t (inputs 0) d).1.take n, Except.error (Error.io e')) = _
    rw [ht]
    simp

theorem yields_replacePending {p : Pending} (hstale : ¬ Holds.Pending d p) (next : StoredPairingState) {β : Type}
    (f : Unit → PairingOp β) : Yields (replacePending ext p next >>= f) d (.error (refusal d)) :=
  yields_transaction_bind fun _ => compareAndPersistPending_stale hstale next

theorem yields_markPendingExpired {p : Pending} (hstale : ¬ Holds.Pending d p) (now : DateTime) {β : Type}
    (f : PairingProgress → PairingOp β) : Yields (markPendingExpired ext p now >>= f) d (.error (refusal d)) := by
  unfold markPendingExpired
  rw [Op.bind_assoc]
  exact yields_replacePending hstale _ _

/-- What the rest of a POST of `c` comes to over another record. -/
inductive StaleCreate (ext : External) (c : Creating) (d : Disk) (reply : Reply) : Except Error PairingSession → Prop
  | lost (e : HttpTransportError) (hreply : reply.response = .error e) :
      StaleCreate ext c d reply (.error (.context "failed to create a browser pairing request" (.transport e)))
  | rejected (response : HttpResponse) (e : Error) (hreply : reply.response = .ok response)
      (hrejected : acceptCreated ext c reply.now response = .error e) : StaleCreate ext c d reply (.error e)
  | accepted (response : HttpResponse) (p : Pending) (hreply : reply.response = .ok response)
      (haccepted : acceptCreated ext c reply.now response = .ok p) : StaleCreate ext c d reply (.error (refusal d))

/-- A status reply that has something to write. -/
inductive PairingStatusResponse.Conclusive : PairingStatusResponse → Prop
  | active (instanceId : Uuid) : Conclusive ⟨.active, some instanceId⟩
  | denied : Conclusive ⟨.denied, none⟩
  | expired : Conclusive ⟨.expired, none⟩

/-- A status reply that contradicts itself. -/
inductive PairingStatusResponse.Contradicts : PairingStatusResponse → String → Prop
  | waiting (v : Uuid) : Contradicts ⟨.waiting, some v⟩ "waiting pairing response unexpectedly included instance_id"
  | active : Contradicts ⟨.active, none⟩ "active pairing response omitted instance_id"
  | denied (v : Uuid) : Contradicts ⟨.denied, some v⟩ "denied pairing response unexpectedly included instance_id"
  | expired (v : Uuid) : Contradicts ⟨.expired, some v⟩ "expired pairing response unexpectedly included instance_id"

/-- What the rest of a poll comes to over another record, by a reply that decodes. -/
inductive StalePolled (p : Pending) (d : Disk) (polled : PairingStatusResponse) :
    Except Error (Option PairingProgress) → Prop
  | waiting (hpolled : polled = ⟨.waiting, none⟩) : StalePolled p d polled (.ok (some (.waiting p.session)))
  | contradictory (text : String) (hpolled : polled.Contradicts text) : StalePolled p d polled (.error (.message text))
  | conclusive (hpolled : polled.Conclusive) : StalePolled p d polled (.error (refusal d))

/-- What the rest of a poll of `p` comes to over another record. -/
inductive StalePoll (ext : External) (p : Pending) (endpoint : Url) (d : Disk) (reply : Reply) :
    Except Error (Option PairingProgress) → Prop
  | lost (e : HttpTransportError) (hreply : reply.response = .error e) :
      StalePoll ext p endpoint d reply (.error (.context "failed to poll browser pairing status" (.transport e)))
  | rejected (response : HttpResponse) (e : Error) (hreply : reply.response = .ok response)
      (hrejected : ensurePairingResponse ext response.status (pairingResponseContentType response) response.body [200]
        .poll = .error e) (hother : e.endedFor p.requestId = false) : StalePoll ext p endpoint d reply (.error e)
  | gone (response : HttpResponse) (hreply : reply.response = .ok response)
      (hends : EnvelopeEnds ext response p.requestId) : StalePoll ext p endpoint d reply (.error (refusal d))
  | undecodable (response : HttpResponse) (e : Error) (hreply : reply.response = .ok response)
      (hparse : parsePairingJson ext ext.statusResponse response.body
        (pairingResponseContentType response) endpoint.href
        "pairing status response" = .error e) : StalePoll ext p endpoint d reply (.error e)
  | polled (response : HttpResponse) (polled : PairingStatusResponse) (r : Except Error (Option PairingProgress))
      (hreply : reply.response = .ok response) (hstatus : response.status = 200)
      (hparse : parsePairingJson ext ext.statusResponse response.body
        (pairingResponseContentType response) endpoint.href
        "pairing status response" = .ok polled) (hpolled : StalePolled p d polled r) :
          StalePoll ext p endpoint d reply r

/-- What the rest of an activation of `p` comes to over another record. -/
inductive StaleActivate (ext : External) (p : Pending) (endpoint : Url) (d : Disk) (reply : Reply) :
    Except Error (Option Uuid) → Prop
  | lost (e : HttpTransportError) (hreply : reply.response = .error e) :
      StaleActivate ext p endpoint d reply
        (.error (.context "failed to submit the one-time authorization key" (.transport e)))
  | rejected (response : HttpResponse) (e : Error) (hreply : reply.response = .ok response)
    (hstatus : response.status ≠ 409)
      (hrejected : ensurePairingResponse ext response.status (pairingResponseContentType response) response.body [200]
        .activate = .error e) (hother : e.endedFor p.requestId = false) :
          StaleActivate ext p endpoint d reply (.error e)
  | gone (response : HttpResponse) (hreply : reply.response = .ok response)
      (hends : EnvelopeEnds ext response p.requestId) : StaleActivate ext p endpoint d reply (.error (refusal d))
  | undecodable (response : HttpResponse) (e : Error) (hreply : reply.response = .ok response)
      (hparse : parsePairingJson ext ext.activateResponse response.body (pairingResponseContentType response)
        endpoint.href "pairing activation response" = .error e) : StaleActivate ext p endpoint d reply (.error e)
  | ambiguous (response : HttpResponse) (r : Except Error (Option Uuid)) (hreply : reply.response = .ok response)
      (hstatus : response.status = 409) (hr : StaleActivation p d none r) : StaleActivate ext p endpoint d reply r
  | activated (response : HttpResponse) (activated : ActivatePairingResponse) (r : Except Error (Option Uuid))
      (hreply : reply.response = .ok response) (hstatus : response.status = 200)
      (hparse : parsePairingJson ext ext.activateResponse response.body (pairingResponseContentType response)
        endpoint.href "pairing activation response" = .ok activated)
      (hr : StaleActivation p d (some activated.instanceId) r) : StaleActivate ext p endpoint d reply r

theorem stale_create {c : Creating} (hstale : ¬ Holds.Creating d c) (reply : Reply) :
    ∃ r, StaleCreate ext c d reply r ∧ Yields (afterCreate ext c reply) d r := by
  unfold afterCreate
  cases hreply : reply.response with
  | error e => exact ⟨_, .lost e hreply, yields_throw _⟩
  | ok response =>
    cases haccept : acceptCreated ext c reply.now response with
    | error e =>
      refine ⟨_, .rejected response e hreply haccept, ?_⟩
      simp only [haccept]
      exact yields_throw _
    | ok p =>
      refine ⟨_, .accepted response p hreply haccept, ?_⟩
      simp only [haccept]
      exact yields_transaction_bind fun _ => compareAndPersistCreating_stale hstale _

theorem stale_polled {p : Pending} (hstale : ¬ Holds.Pending d p) (now : DateTime) (polled : PairingStatusResponse) :
    ∃ r, StalePolled p d polled r ∧ Yields (applyPolled ext p now polled) d r := by
  obtain ⟨status, instanceId⟩ := polled
  cases status with
  | waiting =>
    cases instanceId with
    | none => exact ⟨_, .waiting rfl, yields_pure _⟩
    | some v => exact ⟨_, .contradictory _ (.waiting v), yields_throw _⟩
  | active =>
    cases instanceId with
    | none => exact ⟨_, .contradictory _ .active, yields_throw _⟩
    | some v =>
      refine ⟨_, .conclusive (.active v), ?_⟩
      exact yields_transaction_bind fun i => persistActiveCredentials_stale hstale v i
  | denied =>
    cases instanceId with
    | none => exact ⟨_, .conclusive .denied, yields_replacePending hstale _ _⟩
    | some v => exact ⟨_, .contradictory _ (.denied v), yields_throw _⟩
  | expired =>
    cases instanceId with
    | none => exact ⟨_, .conclusive .expired, yields_replacePending hstale _ _⟩
    | some v => exact ⟨_, .contradictory _ (.expired v), yields_throw _⟩

theorem status_of_ensurePairingResponse {response : HttpResponse} {operation : PairingHttpOperation}
    (h : ensurePairingResponse ext response.status (pairingResponseContentType response) response.body [200] operation =
      .ok ()) : response.status = 200 := by
  unfold ensurePairingResponse at h
  split at h
  · next hmem => exact List.mem_singleton.mp hmem
  · cases h

theorem stale_poll {p : Pending} (hstale : ¬ Holds.Pending d p) (endpoint : Url) (reply : Reply) :
    ∃ r, StalePoll ext p endpoint d reply r ∧ Yields (afterPoll ext p endpoint reply) d r := by
  unfold afterPoll
  cases hreply : reply.response with
  | error e => exact ⟨_, .lost e hreply, yields_throw _⟩
  | ok response =>
    cases hchecked : ensurePairingResponse ext response.status (pairingResponseContentType response) response.body [200]
        .poll with
    | error e =>
      cases hended : e.endedFor p.requestId with
      | false =>
        refine ⟨_, .rejected response e hreply hchecked hended, ?_⟩
        simp only [hchecked, hended, Bool.false_eq_true, if_false]
        exact yields_throw _
      | true =>
        refine ⟨_, .gone response hreply (endedFor_ensurePairingResponse hchecked hended).1, ?_⟩
        simp only [hchecked, hended, if_true]
        exact yields_markPendingExpired hstale _ _
    | ok u =>
      cases hparse : parsePairingJson ext ext.statusResponse response.body (pairingResponseContentType response)
          endpoint.href "pairing status response" with
      | error e =>
        refine ⟨_, .undecodable response e hreply hparse, ?_⟩
        simp only [hchecked, hparse]
        exact yields_throw _
      | ok polled =>
        obtain ⟨r, hr, hyields⟩ := @stale_polled ext d _ hstale reply.now polled
        refine ⟨r, .polled response polled r hreply (status_of_ensurePairingResponse hchecked) hparse hr, ?_⟩
        simp only [hchecked, hparse]
        exact hyields

theorem stale_activate {p : Pending} (hstale : ¬ Holds.Pending d p) (endpoint : Url) (reply : Reply) :
    ∃ r, StaleActivate ext p endpoint d reply r ∧
      Yields (afterActivate ext p.generation p.requestId p endpoint reply) d r := by
  unfold afterActivate
  cases hreply : reply.response with
  | error e => exact ⟨_, .lost e hreply, yields_throw _⟩
  | ok response =>
    by_cases hconflict : response.status = 409
    · obtain ⟨r, hr, hrun⟩ := confirmActivation_stale hstale none
      refine ⟨r, .ambiguous response r hreply hconflict hr, ?_⟩
      simp only [hconflict, if_true]
      exact yields_transaction fun _ => hrun
    · cases hchecked : ensurePairingResponse ext response.status
        (pairingResponseContentType response) response.body [200]
          .activate with
      | error e =>
        cases hended : e.endedFor p.requestId with
        | false =>
          refine ⟨_, .rejected response e hreply hconflict hchecked hended, ?_⟩
          simp only [hconflict, hchecked, hended, Bool.false_eq_true, if_false]
          exact yields_throw _
        | true =>
          refine ⟨_, .gone response hreply (endedFor_ensurePairingResponse hchecked hended).1, ?_⟩
          simp only [hconflict, hchecked, hended, if_true, if_false]
          exact yields_markPendingExpired hstale _ _
      | ok u =>
        cases hparse : parsePairingJson ext ext.activateResponse response.body (pairingResponseContentType response)
            endpoint.href "pairing activation response" with
        | error e =>
          refine ⟨_, .undecodable response e hreply hparse, ?_⟩
          simp only [hconflict, hchecked, hparse, if_false]
          exact yields_throw _
        | ok activated =>
          obtain ⟨r, hr, hrun⟩ := confirmActivation_stale hstale (some activated.instanceId)
          refine ⟨r, .activated response activated r hreply (status_of_ensurePairingResponse hchecked) hparse hr, ?_⟩
          simp only [hconflict, hchecked, hparse, if_false]
          exact yields_transaction fun _ => hrun

/-! ## What the command makes of a failed poll -/

/-- No error of `x` is the server's word that a request is over. -/
def EndsNone {α : Type} (x : Except Error α) : Prop := ∀ e, x = .error e → ∀ id, e.endedFor id = false

theorem EndsNone.bind {α β : Type} {x : Except Error α} {f : α → Except Error β} (hx : EndsNone x)
    (hf : ∀ a, EndsNone (f a)) : EndsNone (x >>= f) := by
  cases x with
  | ok a => exact hf a
  | error e =>
    rintro _ ⟨⟩
    exact hx e rfl

theorem endsNone_ok {α : Type} (a : α) : EndsNone (.ok a : Except Error α) := fun _ h => by cases h

theorem endsNone_error {α : Type} {e : Error} (he : e.http? = none) : EndsNone (.error e : Except Error α) := by
  rintro _ ⟨⟩ id
  rw [Error.endedFor, he]
  rfl

theorem endsNone_check {p : Prop} [Decidable p] {e : Error} (he : e.http? = none) : EndsNone (check p e) := by
  unfold check
  split
  · exact endsNone_ok ()
  · exact endsNone_error he

theorem endsNone_okOr {α : Type} {x : Option α} {e : Error} (he : e.http? = none) : EndsNone (okOr e x) := by
  cases x with
  | some a => exact endsNone_ok a
  | none => exact endsNone_error he

theorem endsNone_loadState (d : Disk) : EndsNone (loadState d.pairing) := by
  unfold loadState
  cases d.pairing.read with
  | error e => cases e <;> first | exact endsNone_ok none | exact endsNone_error rfl
  | ok contents =>
    refine .bind ?_ fun s => .bind (endsNone_check rfl) fun _ => .bind (endsNone_check rfl) fun _ => endsNone_ok _
    unfold decodePairingDocument
    split
    · exact endsNone_error rfl
    · exact endsNone_error rfl
    · split
      · exact endsNone_error rfl
      · exact endsNone_okOr rfl

theorem refusal_endedFor (d : Disk) (id : Uuid) : (refusal d).endedFor id = false := by
  unfold refusal
  cases hload : loadState d.pairing with
  | ok state => rfl
  | error e => exact endsNone_loadState d e hload id

theorem endsNone_parsePairingJson {α : Type} (decode : List UInt8 → Option α) (body : List UInt8)
    (contentType endpoint responseKind : String) :
    EndsNone (parsePairingJson ext decode body contentType endpoint responseKind) := by
  unfold parsePairingJson
  split
  · exact endsNone_error rfl
  · exact endsNone_okOr rfl

/-- A rejected creation names no request that is over. -/
theorem endsNone_acceptCreated (c : Creating) (now : DateTime) (response : HttpResponse) :
    EndsNone (acceptCreated ext c now response) := by
  have hresolve : ∀ base url, EndsNone (resolveActivationUrl ext base url) := fun base url =>
    .bind (endsNone_okOr rfl) fun _ => .bind (endsNone_okOr rfl) fun _ => .bind (endsNone_check rfl) fun _ =>
      .bind (endsNone_check rfl) fun _ => endsNone_ok _
  have hvalidate : ∀ activation base id, EndsNone (validateActivationUrlRequest ext activation base id) :=
    fun activation base id => .bind (endsNone_okOr rfl) fun _ => .bind (endsNone_okOr rfl) fun _ => endsNone_check rfl
  have hstatus : EndsNone (ensurePairingResponse ext response.status (pairingResponseContentType response)
      response.body [200, 201] .create) := by
    intro e he id
    cases hend : e.endedFor id with
    | false => rfl
    | true =>
      rcases (endedFor_ensurePairingResponse he hend).2 with hop | hop <;> cases hop
  exact .bind hstatus fun _ => .bind (endsNone_parsePairingJson _ _ _ _ _) fun created =>
    .bind (endsNone_check rfl) fun _ => .bind (endsNone_check rfl) fun _ => .bind (hresolve _ _) fun url =>
    .bind (hvalidate _ _ _) fun _ => .bind (endsNone_okOr rfl) fun _ => endsNone_ok _

theorem StaleCreate.endedFor {c : Creating} {reply : Reply} {e : Error} (h : StaleCreate ext c d reply (.error e))
    (id : Uuid) : e.endedFor id = false := by
  cases h with
  | lost _ _ => rfl
  | rejected response _ _ hrejected => exact endsNone_acceptCreated c reply.now response e hrejected id
  | accepted _ _ _ _ => exact refusal_endedFor d id

/-- A stale reply about a request fails its poll by no error that ends the request. -/
theorem StalePoll.endedFor {p : Pending} {endpoint : Url} {reply : Reply} {e : Error}
    (h : StalePoll ext p endpoint d reply (.error e)) : e.endedFor p.requestId = false := by
  cases h with
  | lost _ _ => rfl
  | rejected _ _ _ _ hother => exact hother
  | gone _ _ _ => exact refusal_endedFor d p.requestId
  | undecodable response _ _ hparse => exact endsNone_parsePairingJson _ _ _ _ _ e hparse p.requestId
  | polled response polled _ _ _ _ hpolled =>
    cases hpolled with
    | contradictory _ _ => rfl
    | conclusive _ => exact refusal_endedFor d p.requestId

/-- The failed poll of an expired request is passed on, unless its error ends that request. -/
theorem resumeExpired_error {session : PairingSession} {e : Error} (he : e.endedFor session.requestId = false) :
    resumeExpired session (.error e) = .error (.context
      "could not establish whether the saved pairing request is active; preserving it" e) := by
  simp [resumeExpired, he]

theorem of_activationTarget {generation requestId : Uuid} {p : Pending}
    (h : (activationTarget generation requestId d).2 = .ok (.pending p)) :
    p.generation = generation ∧ p.requestId = requestId := by
  obtain ⟨s, -, h⟩ := Tx.bind_eq_ok h
  cases s with
  | pending p' =>
    obtain ⟨_, -, h⟩ := Tx.bind_eq_ok h
    obtain ⟨_, hsame, h⟩ := Tx.bind_eq_ok h
    cases h
    rw [Tx.run_ensure] at hsame
    exact check_eq_ok.mp hsame
  | activating j =>
    by_cases hsame : j.generation = generation ∧ j.requestId = requestId
    · simp [hsame] at h
    · simp [hsame] at h
  | active a =>
    by_cases hsame : a.generation = generation ∧ a.requestId = requestId
    · simp [hsame] at h
    · simp [hsame] at h
  | creating _ | denied _ | expired _ => cases h

/-! ## All stale replies -/

/-- What becomes of the operations whose reply comes too late. An operation is what it does up to its POST and then what
it does with the reply; and over a journal that is not the record the reply was obtained for, this rest writes nothing
and comes to what the reply and the journal say. -/
structure StaleReplies (ext : External) : Prop where
  posts : ∀ config c, finishCreateRequest ext config c = postCreate ext config c >>= afterCreate ext c
  polls : ∀ config p, pollPending ext config p = askPoll ext config p >>= fun asked => afterPoll ext p asked.1 asked.2
  activates : ∀ config generation requestId activationCode,
    activatePendingWithCode ext config generation requestId activationCode = (do
      Op.ofExcept (validateActivationCode activationCode)
      match ← transaction (fun _ => activationTarget generation requestId) with
      | .committed instanceId => pure (some instanceId)
      | .pending p =>
        askActivate ext config requestId activationCode p >>= fun asked =>
          afterActivate ext generation requestId p asked.1 asked.2)
  created : ∀ c d reply, ¬ Holds.Creating d c →
    ∃ r, StaleCreate ext c d reply r ∧ Yields (afterCreate ext c reply) d r
  polled : ∀ p d endpoint reply, ¬ Holds.Pending d p →
    ∃ r, StalePoll ext p endpoint d reply r ∧ Yields (afterPoll ext p endpoint reply) d r
  activated : ∀ generation requestId d₀ p, (activationTarget generation requestId d₀).2 = .ok (.pending p) →
    ∀ d endpoint reply, ¬ Holds.Pending d p → ∃ r, StaleActivate ext p endpoint d reply r ∧
      Yields (afterActivate ext generation requestId p endpoint reply) d r
  -- `start_or_resume` polls for an expired request: a stale reply about it, or to a creation, fails the command.
  resumedCreate : ∀ session c d reply e, StaleCreate ext c d reply (.error e) →
    resumeExpired session (.error e) = .error (.context
      "could not establish whether the saved pairing request is active; preserving it" e)
  resumedPoll : ∀ session p endpoint d reply e, p.requestId = session.requestId →
    StalePoll ext p endpoint d reply (.error e) →
    resumeExpired session (.error e) = .error (.context
      "could not establish whether the saved pairing request is active; preserving it" e)
  resumedOther : ∀ session p endpoint d reply e, StalePoll ext p endpoint d reply (.error e) →
    e.endedFor session.requestId = true → p.requestId ≠ session.requestId ∧ resumeExpired session (.error e) = .ok none

theorem staleReplies (ext : External) : StaleReplies ext where
  posts := finishCreateRequest_eq
  polls := pollPending_eq
  activates := activatePendingWithCode_eq
  created _ _ reply hstale := stale_create hstale reply
  polled _ _ endpoint reply hstale := stale_poll hstale endpoint reply
  activated := by
    intro generation requestId d₀ p htarget d endpoint reply hstale
    obtain ⟨rfl, rfl⟩ := of_activationTarget htarget
    exact stale_activate hstale endpoint reply
  resumedCreate session _ _ _ _ h := resumeExpired_error (h.endedFor session.requestId)
  resumedPoll session p _ _ _ _ hid h := resumeExpired_error (hid ▸ h.endedFor)
  resumedOther := by
    intro session p endpoint d reply e h hended
    refine ⟨?_, by simp [resumeExpired, hended]⟩
    intro hid
    rw [← hid, h.endedFor] at hended
    cases hended

end

end Xsoc
