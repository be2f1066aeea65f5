import Xsoc.Setup.Evidence

/-!
# How setup ends

* `decide_spec`, `quiesce_spec`, `pairHost_spec`, `finish_spec` : what each part does, whatever it is answered;
* `Evidence` : what has been seen when setup says that it is done;
* `setup_touches_with_reason` : every call that it makes is permitted;
* `setup_completes_with_evidence`, `setup_failure_names_its_step` : what its result says.
-/

set_option autoImplicit false

namespace Xsoc

open Dialogue

namespace Setup

variable {validateServerBase : String → Option String} {request : Request} {tr tr' : Trace} {expiresAt : Nat}

/-! ## Without a pairing -/

/-- A dialogue goes on, and nothing is paired. -/
def Grown (tr tr' : Trace) : Prop := SeenSince tr tr' []

theorem Grown.refl (tr : Trace) : Grown tr tr := SeenSince.here tr

theorem Grown.push (h : Grown tr tr') {e : Exchange Call Reply} (he : pairReply e = none) : Grown tr (tr' ++ [e]) :=
  SeenSince.skip h he

theorem Grown.trans {tr'' : Trace} (h : Grown tr tr') (h' : Grown tr' tr'') : Grown tr tr'' := by
  obtain ⟨new, rfl, hnew, -⟩ := h
  obtain ⟨more, rfl, hmore, -⟩ := h'
  refine ⟨new ++ more, List.append_assoc _ _ _, ?_, List.nil_sublist _⟩
  exact fun f hf => (List.mem_append.mp hf).elim (hnew f) (hmore f)

theorem Started.grown (h : Started request expiresAt tr) (hgrown : Grown tr tr') : Started request expiresAt tr' := by
  obtain ⟨new, rfl, -⟩ := hgrown
  exact h.append new

theorem Answered.grown {c : Call} {r : Reply c} (h : Answered tr c r) (hgrown : Grown tr tr') : Answered tr' c r := by
  obtain ⟨new, rfl, -⟩ := hgrown
  exact h.append new

theorem Reason.grown (h : Reason validateServerBase request tr) (hgrown : Grown tr tr') :
    Reason validateServerBase request tr' := by
  obtain ⟨new, rfl, -⟩ := hgrown
  exact h.append new

/-- Whatever is answered, nothing is paired by it. -/
def Bystander (c : Call) : Prop := ∀ r : Reply c, pairReply ⟨c, r⟩ = none

theorem only_remaining {step : String} : (remaining expiresAt step).Only Bystander := by
  unfold remaining
  refine Op.only_bind (Op.only_ask fun _ => rfl) fun now => ?_
  split
  · exact Op.only_pure _
  · exact Op.only_throw _

theorem only_bindingRounds (n : Nat) : (bindingRounds expiresAt n).Only Bystander := by
  induction n with
  | zero => exact Op.only_pure _
  | succ n ih =>
    unfold bindingRounds
    refine Op.only_bind (Op.only_ask fun _ => rfl) fun now => ?_
    split
    · refine Op.only_bind (Op.only_ask fun _ => rfl) fun reporter => ?_
      rcases reporter with (_ | _) | revision
      · exact Op.only_pure _
      · exact Op.only_pure _
      · refine Op.only_bind (Op.only_ask fun _ => rfl) fun result => ?_
        refine Op.only_bind (Op.only_ask fun _ => rfl) fun active => ?_
        rcases active with u | (_ | current)
        · exact Op.only_pure _
        · exact Op.only_pure _
        · dsimp only
          split
          · exact ih
          · exact Op.only_pure _
    · exact Op.only_pure _

theorem only_serviceVerifiedHost (initialService : Value) : (serviceVerifiedHost initialService).Only Bystander := by
  unfold serviceVerifiedHost
  split
  · refine Op.only_bind (Op.only_ask fun _ => rfl) fun reply => ?_
    cases reply with
    | ok status => exact Op.only_pure _
    | error e => exact Op.only_pure _
  · exact Op.only_pure _

theorem only_bindingStateOf (existing : LocalPairingStatus) (endpoint host : Option String) :
    (bindingStateOf expiresAt existing endpoint host).Only Bystander := by
  unfold bindingStateOf existingBindingState
  cases requestedServerChange existing endpoint with
  | some change => exact Op.only_pure _
  | none =>
    cases host with
    | some host => exact Op.only_pure _
    | none =>
      dsimp only
      split
      · exact Op.only_pure _
      · exact only_bindingRounds 3

theorem only_inspect : (inspect validateServerBase request expiresAt).Only Bystander := by
  unfold inspect
  split
  · exact Op.only_throw _
  refine Op.only_bind (Op.only_ask fun _ => rfl) fun valid => ?_
  split
  · exact Op.only_throw _
  refine Op.only_bind (Op.only_ofExcept _) fun server => Op.only_bind only_remaining fun timeout => ?_
  refine Op.only_bind (Op.only_ask fun _ => rfl) fun status => Op.only_bind (Op.only_ofExcept _) fun service => ?_
  refine Op.only_bind (Op.only_ask fun _ => rfl) fun status => Op.only_bind (Op.only_ofExcept _) fun existing => ?_
  refine Op.only_bind (Op.only_ask fun _ => rfl) fun state => Op.only_bind (Op.only_ofExcept _) fun authState => ?_
  refine Op.only_bind (only_serviceVerifiedHost _) fun host => Op.only_bind (only_bindingStateOf _ _ _) fun state => ?_
  exact Op.only_pure _

/-! ## Before the pairing -/

/-- A failure without a pairing names its step. -/
def Named (validateServerBase : String → Option String) (request : Request) (tr : Trace) {α : Type} :
    Except Failure α → Prop
  | .ok _ => True
  | .error e => Blamed validateServerBase request tr e

theorem Verified.grown (h : Verified tr) (hgrown : Grown tr tr') : Verified tr' := by
  rcases h with ⟨host, h⟩ | ⟨status, h, hhealthy⟩
  · exact Or.inl ⟨host, h.grown hgrown⟩
  · exact Or.inr ⟨status, h.grown hgrown, hhealthy⟩

variable {existing : LocalPairingStatus} {state : ExistingBindingState}

theorem reason_of_unauthorized (h : BindingSeen validateServerBase request tr existing .unauthorized) :
    Reason validateServerBase request tr := by
  rcases h with h | ⟨hauth, status, hserver⟩
  · exact .unauthorized h
  · exact .reauthorize hauth hserver

theorem reason_of_localOnly (h : BindingSeen validateServerBase request tr existing .localOnly) :
    Reason validateServerBase request tr := by
  rcases h with ⟨timeout, h⟩ | h
  · exact .unusable h
  · exact .unreadable h

theorem wp_askYesNo_bind {permitted : Trace → Call → Prop} {β : Type} {Q : Except Failure β → Trace → Prop}
    {step question : String} {default : Bool} {f : Bool → Script β}
    (hc : permitted tr (.ask question default expiresAt))
    (hok : ∀ b, (f b).wp permitted (tr ++ [⟨.ask question default expiresAt, .ok b⟩]) Q)
    (herror : ∀ e, Q (.error (e.atStep step)) (tr ++ [⟨.ask question default expiresAt, .error e⟩])) :
    (askYesNo expiresAt step question default >>= f).wp permitted tr Q := by
  refine (Op.wp_bind _ _ _).mpr ?_
  unfold askYesNo
  refine Op.wp_ask_bind hc fun answer => ?_
  cases answer with
  | ok b => exact hok b
  | error e => exact herror e

theorem BindingFailure.stableCode_ne (failure : BindingFailure) : failure.stableCode ≠ "setup_deadline_exceeded" := by
  cases failure with
  | answered failure => cases failure <;> simp [BindingFailure.stableCode]
  | _ => decide

/-- What `decide` ends with. -/
def Decided (validateServerBase : String → Option String) (request : Request) (tr : Trace) :
    Except Failure (Bool × Bool) → Prop
  | .ok (reuse, _) => Knows tr ∧ if reuse then Verified tr else Reason validateServerBase request tr
  | .error e => Blamed validateServerBase request tr e

/-- A binding is kept where it has been verified, and there is a reason where it is not. -/
theorem decide_spec (hstarted : Started request expiresAt tr) (hknows : Knows tr)
    (hexisting : Answered tr .pairingStatus (.ok existing))
    (hseen : BindingSeen validateServerBase request tr existing state) :
    (decide request expiresAt state).wp (Permitted validateServerBase request) tr fun x tr' =>
      Grown tr tr' ∧ Decided validateServerBase request tr' x := by
  have hasked (question : String) (default : Bool) (b : Bool) :
      Knows (tr ++ [⟨.ask question default expiresAt, .ok b⟩]) :=
    hknows.push rfl rfl rfl
  have hfailed (question : String) (default : Bool) (e : Failure) :
      Blamed validateServerBase request (tr ++ [⟨.ask question default expiresAt, .error e⟩]) (e.atStep "pairing") :=
    blamed_passedOn rfl (by rw [hknows.stage]; rfl)
  cases state with
  | none => exact ⟨.refl tr, hknows, .unbound hexisting hseen⟩
  | unauthorized => exact ⟨.refl tr, hknows, reason_of_unauthorized hseen⟩
  | localOnly => exact ⟨.refl tr, hknows, reason_of_localOnly hseen⟩
  | remoteFailure failure => exact ⟨.refl tr, hknows.blamed rfl failure.stableCode_ne rfl⟩
  | concurrentlyChanged => exact ⟨.refl tr, hknows.blamed rfl (by decide) rfl⟩
  | protocolUnsupported received supported =>
    exact ⟨.refl tr, hknows.blamed rfl (by simp [Failure.withDetail, Failure.atStep, fail]) rfl⟩
  | remoteVerified hostId =>
    have hverified : Verified tr := hseen
    unfold decide
    dsimp only
    split
    · refine wp_askYesNo_bind hstarted (fun reuse => ⟨(Grown.refl tr).push rfl, hasked _ _ _, ?_⟩) fun e =>
        ⟨(Grown.refl tr).push rfl, hfailed _ _ e⟩
      cases reuse with
      | true => exact hverified.grown ((Grown.refl tr).push rfl)
      | false => exact .declined (answered_last _ _ _)
    · exact ⟨.refl tr, hknows, hverified⟩
  | serverChanged configured requested =>
    obtain ⟨hactive, server, hserver, rfl, hchanged⟩ := hseen
    unfold decide
    dsimp only
    split
    · refine wp_askYesNo_bind hstarted (fun recover => ?_) fun e => ⟨(Grown.refl tr).push rfl, hfailed _ _ e⟩
      cases recover with
      | true =>
        refine ⟨(Grown.refl tr).push rfl, hasked _ _ _, ?_⟩
        exact .moved (hexisting.append _) hactive hserver hchanged (Or.inl ⟨expiresAt, answered_last _ _ _⟩)
      | false => exact ⟨(Grown.refl tr).push rfl, (hasked _ _ _).blamed rfl (by decide) rfl⟩
    · refine (Op.wp_bind _ _ _).mpr ?_
      cases hinput : request.args.has "--input-stdin" with
      | true => exact ⟨.refl tr, hknows, .moved hexisting hactive hserver hchanged (Or.inr hinput)⟩
      | false => exact ⟨.refl tr, hknows.blamed rfl (by decide) rfl⟩

/-- What `quiesce` ends with. -/
def Quiesced (validateServerBase : String → Option String) (request : Request) (tr : Trace) : Except Failure Unit → Prop
  | .ok () => LastSeen tr false ∧ stage tr = .looked false
  | .error e => Blamed validateServerBase request tr e

/-- The service is at rest, having been stopped where it ran. -/
theorem quiesce_spec (hstarted : Started request expiresAt tr) (hreason : Reason validateServerBase request tr)
    (hstage : stage tr = .known) :
    (quiesce request expiresAt).wp (Permitted validateServerBase request) tr fun x tr' =>
      Grown tr tr' ∧ Quiesced validateServerBase request tr' x := by
  unfold quiesce
  refine wp_remaining_bind trivial (fun now hlt => ?_) fun now hle =>
    ⟨(Grown.refl tr).push rfl, hstarted.blamed hle (by rw [hstage]; rfl)⟩
  refine Op.wp_ask_bind (hstarted.timeLeft_now hlt) fun reply => ?_
  have hclock : stage (tr ++ [⟨.clock, now⟩]) = .known := (stage_push _ _).trans hstage
  have hgrown := ((Grown.refl tr).push (e := ⟨.clock, now⟩) rfl).push
    (e := ⟨.serviceStatus (expiresAt - now), reply⟩) rfl
  refine wp_atStep_bind (fun status hreply => ?_) fun e he => ?_
  swap
  · subst he
    exact ⟨hgrown, blamed_passedOn rfl (by rw [hclock]; rfl)⟩
  subst hreply
  have hlooked : stage (tr ++ [⟨.clock, now⟩] ++ [⟨.serviceStatus (expiresAt - now), .ok status⟩]) =
      .looked (running status) :=
    stage_push _ _
  split
  · next hrunning =>
    refine wp_remaining_bind trivial (fun now hlt => ?_) fun now hle =>
      ⟨hgrown.push rfl, (hstarted.grown hgrown).blamed hle (by rw [hlooked, hrunning]; rfl)⟩
    refine Op.wp_ask_bind ⟨(hstarted.grown hgrown).timeLeft_now hlt,
      Or.inl ⟨rfl, (hreason.grown hgrown).append _, ?_⟩⟩ ?_
    · exact ⟨status, by rw [lastService_append, lastService_append]; rfl, hrunning⟩
    · intro stopped
      refine wp_atStep_bind (fun stopped hstopped => ?_) fun e he => ?_
      swap
      · subst he
        exact ⟨(hgrown.push rfl).push rfl, blamed_passedOn rfl rfl⟩
      subst hstopped
      split
      · exact ⟨(hgrown.push rfl).push rfl, blamed_answered rfl rfl rfl rfl⟩
      · next hnot =>
        have hstopped : running stopped = false := Bool.eq_false_iff.mpr hnot
        refine ⟨(hgrown.push rfl).push rfl, ⟨stopped, ?_, hstopped⟩, ?_⟩
        · rw [lastService_append]
          rfl
        · exact (stage_push _ _).trans (congrArg Stage.looked hstopped)
  · next hnot =>
    have hstopped : running status = false := Bool.eq_false_iff.mpr hnot
    refine ⟨hgrown, ⟨status, ?_, hstopped⟩, hlooked.trans (congrArg Stage.looked hstopped)⟩
    rw [lastService_append]
    rfl

/-! ## The pairing -/

theorem LastSeen.push {isRunning : Bool} (h : LastSeen tr isRunning) {e : Exchange Call Reply}
    (he : serviceReply e = none) : LastSeen (tr ++ [e]) isRunning := by
  obtain ⟨status, hlast, hrunning⟩ := h
  refine ⟨status, ?_, hrunning⟩
  rw [lastService_append, List.filterMap_cons_none he]
  exact hlast

theorem Args.get_insert (args : Args) (name value : String) : (args.insert name value).get name = some value := by
  have hnone : (args.options.filter fun option => !(option.1 == name)).find? (fun option => option.1 == name) = none :=
    List.find?_eq_none.mpr fun option hmem => by simpa using (List.mem_filter.mp hmem).2
  unfold Args.get Args.insert
  rw [List.find?_append, hnone, Option.none_or]
  simp

theorem setupPairArgs_words (args : Args) (action : SetupPairAction) :
    (setupPairArgs args action).words = action.words := by
  unfold setupPairArgs setupArgs
  dsimp only
  split <;> rfl

/-- Between the service at rest and the pairing. -/
structure Resting (validateServerBase : String → Option String) (request : Request) (expiresAt : Nat) (tr : Trace) :
    Prop where
  started : Started request expiresAt tr
  reason : Reason validateServerBase request tr
  seen : LastSeen tr false
  stage : stage tr = .looked false

theorem Resting.push (h : Resting validateServerBase request expiresAt tr) {e : Exchange Call Reply}
    (he : serviceReply e = none) (hreached : reached e = none) :
    Resting validateServerBase request expiresAt (tr ++ [e]) where
  started := h.started.append _
  reason := h.reason.append _
  seen := h.seen.push he
  stage := by rw [stage_push, hreached]; exact h.stage

theorem resumeExistingTransaction_spec (hresting : Resting validateServerBase request expiresAt tr) :
    (resumeExistingTransaction request expiresAt existing).wp (Permitted validateServerBase request) tr fun x tr' =>
      Named validateServerBase request tr' x ∧ Grown tr tr' ∧ Resting validateServerBase request expiresAt tr' := by
  unfold resumeExistingTransaction
  split
  · refine (Op.wp_bind _ _ _).mpr ⟨hresting.started, fun answer => ?_⟩
    cases answer with
    | ok b => exact ⟨trivial, (Grown.refl tr).push rfl, hresting.push rfl rfl⟩
    | error e =>
      exact ⟨blamed_passedOn rfl (by rw [hresting.stage]; rfl), (Grown.refl tr).push rfl, hresting.push rfl rfl⟩
  · exact ⟨trivial, .refl tr, hresting⟩

theorem recoverPreservedIdentity_spec (hresting : Resting validateServerBase request expiresAt tr) :
    (recoverPreservedIdentity state).wp (Permitted validateServerBase request) tr fun x tr' =>
      Named validateServerBase request tr' x ∧ Grown tr tr' ∧ Resting validateServerBase request expiresAt tr' := by
  unfold recoverPreservedIdentity
  split
  · exact ⟨trivial, fun known => ⟨trivial, (Grown.refl tr).push rfl, hresting.push rfl rfl⟩⟩
  · exact ⟨trivial, .refl tr, hresting⟩

theorem words_ne_replace {action : SetupPairAction} (h : action ≠ .replace) :
    action.words ≠ SetupPairAction.replace.words := by
  cases action with
  | replace => exact absurd rfl h
  | fresh | resume | recover => decide

theorem bindingArgs_spec {action : SetupPairAction} {pairArgs : Args} (hwords : pairArgs.words = action.words)
    (hresting : Resting validateServerBase request expiresAt tr)
    (htime : TimeLeft request tr pairArgs.timeout) :
    (bindingArgs action pairArgs).wp (Permitted validateServerBase request) tr fun x tr' =>
      Named validateServerBase request tr' x ∧ Grown tr tr' ∧
        ∀ args, x = .ok args → Permitted validateServerBase request tr' (.pair args) := by
  unfold bindingArgs
  split
  · refine Op.wp_ask_bind trivial fun binding => ?_
    refine wp_atStep_bind (fun id hid => ?_) fun e he => ?_
    swap
    · subst he
      exact ⟨blamed_passedOn rfl rfl, (Grown.refl tr).push rfl, fun args h => by cases h⟩
    subst hid
    refine ⟨trivial, (Grown.refl tr).push rfl, fun args h => ?_⟩
    cases h
    exact ⟨htime.push rfl, hresting.reason.append _, hresting.seen.push rfl,
      fun _ => ⟨id, answered_last _ _ _, Args.get_insert _ _ _⟩⟩
  · next hnot =>
    refine ⟨trivial, .refl tr, fun args h => ?_⟩
    cases h
    exact ⟨htime, hresting.reason, hresting.seen, fun h => absurd (hwords.symm.trans h) (words_ne_replace hnot)⟩

/-- What has been paired. -/
def Paired (tr : Trace) (pairing : Value) : Prop := ∃ args, Answered tr (.pair args) (.ok pairing)

theorem not_paired (h : ∀ e ∈ tr, pairReply e = none) (pairing : Value) : ¬Paired tr pairing := by
  rintro ⟨args, hmem⟩
  cases h _ hmem

theorem Grown.not_paired (h : Grown [] tr) (pairing : Value) : ¬Paired tr pairing := by
  obtain ⟨new, rfl, hnone, -⟩ := h
  exact Setup.not_paired hnone pairing

/-- Either it is paired at last, or it has not been. -/
theorem pairHost_spec {i : Inspection} {recoverChangedServer : Bool} (hstarted : Started request expiresAt tr)
    (hreason : Reason validateServerBase request tr) (hstage : stage tr = .known) (hgrown : Grown [] tr) :
    (pairHost request expiresAt i recoverChangedServer).wp (Permitted validateServerBase request) tr fun x tr' =>
      Named validateServerBase request tr' x ∧ Started request expiresAt tr' ∧
        ∀ pairing, x = .ok pairing ↔ Paired tr' pairing := by
  have hfailed : ∀ {e tr'}, Blamed validateServerBase request tr' e → Started request expiresAt tr' → Grown [] tr' →
      Named validateServerBase request tr' (.error e : Except Failure Value) ∧ Started request expiresAt tr' ∧
        ∀ pairing, (.error e : Except Failure Value) = .ok pairing ↔ Paired tr' pairing :=
    fun hblamed hstarted hgrown =>
      ⟨hblamed, hstarted, fun pairing => ⟨(fun h => by cases h), fun h => absurd h (hgrown.not_paired pairing)⟩⟩
  unfold pairHost
  refine Op.wp_bind_of (quiesce_spec hstarted hreason hstage) ?_ fun e tr' ⟨h, hblamed⟩ =>
    hfailed hblamed (hstarted.grown h) (hgrown.trans h)
  rintro ⟨⟩ tr₁ ⟨h₁, hseen, hstage⟩
  have hresting : Resting validateServerBase request expiresAt tr₁ :=
    ⟨hstarted.grown h₁, hreason.grown h₁, hseen, hstage⟩
  have hgrown := hgrown.trans h₁
  refine Op.wp_bind_of (resumeExistingTransaction_spec hresting) ?_ fun e tr' ⟨hblamed, h, hresting⟩ =>
    hfailed hblamed hresting.started (hgrown.trans h)
  rintro resume tr₂ ⟨-, h₂, hresting⟩
  have hgrown := hgrown.trans h₂
  refine Op.wp_bind_of (recoverPreservedIdentity_spec hresting) ?_ fun e tr' ⟨hblamed, h, hresting⟩ =>
    hfailed hblamed hresting.started (hgrown.trans h)
  rintro preserved tr₃ ⟨-, h₃, hresting⟩
  have hgrown := hgrown.trans h₃
  refine wp_remaining_bind trivial (fun now hlt => ?_) fun now hle =>
    hfailed (hresting.started.blamed hle (by rw [hresting.stage]; rfl)) (hresting.started.append _) (hgrown.push rfl)
  have hclock := hresting.push (e := ⟨.clock, now⟩) rfl rfl
  refine Op.wp_bind_of (bindingArgs_spec (setupPairArgs_words request.args _) hclock
    (hresting.started.timeLeft_now hlt)) ?_ fun e tr' ⟨hblamed, h, _⟩ =>
    hfailed hblamed (hclock.started.grown h) ((hgrown.push rfl).trans h)
  rintro args tr₄ ⟨-, h₄, hpermitted⟩
  have hgrown := (hgrown.push rfl).trans h₄
  refine Op.wp_ask_bind (hpermitted args rfl) fun paired => ?_
  have hstarted := (hclock.started.grown h₄).append [⟨.pair args, paired⟩]
  cases paired with
  | ok v =>
    refine ⟨trivial, hstarted, fun pairing => ⟨fun h => ?_, fun ⟨args', h⟩ => ?_⟩⟩
    · cases h
      exact ⟨args, answered_last _ _ _⟩
    · rcases List.mem_append.mp h with h | h
      · exact absurd ⟨args', h⟩ (hgrown.not_paired pairing)
      · cases List.mem_singleton.mp h
        rfl
  | error e =>
    refine ⟨blamed_passedOn rfl rfl, hstarted, fun pairing => ⟨(fun h => by cases h), fun ⟨args', h⟩ => ?_⟩⟩
    rcases List.mem_append.mp h with h | h
    · exact absurd ⟨args', h⟩ (hgrown.not_paired pairing)
    · cases List.mem_singleton.mp h

/-! ## After the pairing -/

/-- The server has accepted a report, not before this. -/
structure Acknowledged (status : Value) (notBefore : Int) : Prop where
  available : isBool true ((status.field "runtime").field "available") = true
  last_ack_at : ∃ at_, asI64 ((status.field "runtime").field "last_ack_at") = some at_ ∧ notBefore ≤ at_
  accepted : isStr "accepted" ((status.field "runtime").field "last_delivery_result") = true
  http_status : ((status.field "runtime").field "last_http_status").asU64 = some 202
  no_error : ((status.field "runtime").field "last_error_code").isNull = true

theorem acknowledged_of_connectionAcknowledged {status : Value} {notBefore : Int}
    (h : connectionAcknowledged status notBefore = true) : Acknowledged status notBefore := by
  unfold connectionAcknowledged connectionBlockers at h
  simp only [List.isEmpty_iff, List.append_eq_nil_iff, ite_eq_left_iff, List.cons_ne_nil, imp_false, not_not] at h
  obtain ⟨⟨⟨⟨havailable, hack⟩, haccepted⟩, hhttp⟩, herror⟩ := h
  refine ⟨havailable, ?_, haccepted, hhttp, herror⟩
  cases hat : asI64 ((status.field "runtime").field "last_ack_at") with
  | none =>
    rw [hat] at hack
    cases hack
  | some at_ =>
    rw [hat] at hack
    refine ⟨at_, rfl, ?_⟩
    by_contra hlt
    dsimp only at hack
    rw [if_pos (Int.not_le.mp hlt)] at hack
    cases hack

/-- A failure after the pairing says that the host is paired, and by which transaction: that of the call that failed, or
else that of the pairing. It says neither where time has run out. -/
def AfterPairing (request : Request) (tr : Trace) (pairing : Value) (e : Failure) : Prop :=
  Late request tr e ∨
    (e.committed = true ∧ e.transactionId = (told tr).or (pairing.field "transaction_id").asStr)

/-- The last answer is a failure of this step, or not as it has to be. -/
def FailedAt (step : String) (tr : Trace) (e : Failure) : Prop :=
  ∃ before last, tr = before ++ [last] ∧ stepOf (stage before) last = step ∧ clockReply last = none ∧
    (passedOn last = some e ∨ passedOn last = none ∧ e.transactionId = none)

variable {step : String} {pairing : Value} {e : Failure}

theorem failedAt_passedOn {last : Exchange Call Reply} (hpassed : passedOn last = some e)
    (hstep : stepOf (stage tr) last = step) : FailedAt step (tr ++ [last]) e :=
  ⟨tr, last, rfl, hstep, clockReply_of_passedOn hpassed, Or.inl hpassed⟩

theorem failedAt_answered {last : Exchange Call Reply} (hclock : clockReply last = none)
    (hpassed : passedOn last = none)
    (hstep : stepOf (stage tr) last = step) (hid : e.transactionId = none) : FailedAt step (tr ++ [last]) e :=
  ⟨tr, last, rfl, hstep, hclock, Or.inr ⟨hpassed, hid⟩⟩

theorem FailedAt.blames (h : FailedAt step tr e) :
    Blames validateServerBase request tr (setupFailure pairing step e) := by
  obtain ⟨before, last, rfl, hstep, hclock, hpassed | ⟨hpassed, -⟩⟩ := h
  · exact blames_passedOn hpassed (congrArg some hstep.symm) ⟨rfl, rfl, rfl⟩
  · exact blames_answered hclock hpassed (congrArg some hstep.symm)

theorem FailedAt.afterPairing (h : FailedAt step tr e) :
    AfterPairing request tr pairing (setupFailure pairing step e) := by
  refine Or.inr ⟨rfl, ?_⟩
  have htold : told tr = e.transactionId := by
    obtain ⟨before, last, rfl, -, -, hpassed | ⟨hpassed, hid⟩⟩ := h
    · rw [told_push, hpassed]
      rfl
    · rw [told_push, hpassed, hid]
      rfl
  rw [htold]
  rfl

/-- What a wait ends with. -/
def WaitEnds (start : Trace) (seen : List (Exchange Call Reply)) (timeout : Nat) (notBefore : Int) (tr : Trace) :
    Except Failure Value → Prop
  | .ok status => Acknowledged status notBefore ∧
      SeenSince start tr (seen ++ [⟨.awaitStatus timeout, .snapshot (.ok status)⟩])
  | .error e => Grown start tr ∧ FailedAt "connection" tr e

theorem SeenSince.grown {seen : List (Exchange Call Reply)} (h : SeenSince tr tr' seen) : Grown tr tr' := by
  obtain ⟨new, rfl, hnone, -⟩ := h
  exact ⟨new, rfl, hnone, List.nil_sublist _⟩

variable {start : Trace} {seen : List (Exchange Call Reply)} {timeout : Nat}

theorem unconfirmed_spec (notBefore : Int) (hgrown : Grown start tr) (hstage : stage tr = .started) :
    (unconfirmed notBefore).wp (Permitted validateServerBase request) tr fun x tr' =>
      WaitEnds start seen timeout notBefore tr' x := by
  unfold unconfirmed
  refine Op.wp_ask_bind trivial fun reply => ?_
  cases reply with
  | ok status => exact ⟨hgrown.push rfl, failedAt_answered rfl rfl (by rw [hstage]; rfl) rfl⟩
  | error e => exact ⟨hgrown.push rfl, failedAt_answered rfl rfl (by rw [hstage]; rfl) rfl⟩

theorem waitForAcknowledgement_spec (notBefore : Int) (n : Nat) (hseen : SeenSince start tr seen)
    (hstage : stage tr = .started) (htime : TimeLeft request tr timeout) :
    (waitForAcknowledgement timeout notBefore n).wp (Permitted validateServerBase request) tr fun x tr' =>
      WaitEnds start seen timeout notBefore tr' x := by
  induction n generalizing tr with
  | zero => exact unconfirmed_spec notBefore hseen.grown hstage
  | succ n ih =>
    unfold waitForAcknowledgement
    refine Op.wp_ask_bind htime fun awaited => ?_
    have hlater : stage (tr ++ [⟨.awaitStatus timeout, awaited⟩]) = .started := (stage_push _ _).trans hstage
    cases awaited with
    | snapshot status =>
      refine Op.wp_ofExcept_bind (fun status hstatus => ?_) fun e he => ?_
      · subst hstatus
        split
        · next hack => exact ⟨acknowledged_of_connectionAcknowledged hack, hseen.push rfl⟩
        · exact ih (hseen.skip rfl) hlater (htime.push rfl)
      · subst he
        exact ⟨hseen.grown.push rfl, failedAt_passedOn rfl rfl⟩
    | timedOut => exact unconfirmed_spec notBefore (hseen.grown.push rfl) hlater
    | interrupted => exact ⟨hseen.grown.push rfl, failedAt_answered rfl rfl rfl rfl⟩

/-- What has been seen when setup says that it is done. -/
structure Evidence (tr : Trace) (completed : Completed) : Prop where
  /-- Since the pairing: the binding, the registration, the startup policy, and the service that runs and reports. -/
  seen : ∃ status timeout registered policyArgs action policy notBefore startArgs patience,
    status.activeReportEndpoint.isSome = true ∧ (action = "enable" ∨ action = "disable") ∧
      startupPolicyMatches policy (action == "enable") = true ∧ Acknowledged completed.verification notBefore ∧
      Since tr [⟨.pairingStatus, .ok status⟩, ⟨.verifiedStatus timeout, .ok registered⟩,
        ⟨.change policyArgs action, .ok policy⟩, ⟨.utcNow, notBefore⟩,
          ⟨.change startArgs "start", .ok completed.service⟩,
        ⟨.awaitStatus patience, .snapshot (.ok completed.verification)⟩]
  running : running completed.service = true
  steps : completed.steps.map Step.step =
    ["configuration", "pairing", "service_registration", "startup_policy", "service_runtime", "connection"]

/-- What `finish` ends with. -/
def Finished (validateServerBase : String → Option String) (request : Request) (start : Trace) (pairing : Value)
    (tr : Trace) : Except Failure Completed → Prop
  | .ok completed => Grown start tr ∧ completed.pairing = pairing ∧ Evidence tr completed
  | .error e => Grown start tr ∧ Blames validateServerBase request tr e ∧ AfterPairing request tr pairing e

theorem FailedAt.finished (h : FailedAt step tr e) (hgrown : Grown start tr) :
    Finished validateServerBase request start pairing tr (.error (setupFailure pairing step e)) :=
  ⟨hgrown, h.blames, h.afterPairing⟩

theorem Started.finished (h : Started request expiresAt tr) {now : Nat} (hle : expiresAt ≤ now)
    (hstep : nextStep (stage tr) = step) (hgrown : Grown start tr) :
    Finished validateServerBase request start pairing (tr ++ [⟨.clock, now⟩])
      (.error ((fail 9 "setup_deadline_exceeded").atStep step)) :=
  ⟨hgrown.push rfl, .late (h.late hle hstep), Or.inl (h.late hle hstep)⟩

/-- What the question about the start of the system ends with. -/
def Enabled (start : Trace) (seen : List (Exchange Call Reply)) (pairing : Value) (tr : Trace) :
    Except Failure Bool → Prop
  | .ok _ => SeenSince start tr seen ∧ stage tr = .paired
  | .error e => Grown start tr ∧ ∃ e', FailedAt "preferences" tr e' ∧ e = setupFailure pairing "preferences" e'

theorem enableAtStartup_spec (hstarted : Started request expiresAt tr) (hseen : SeenSince start tr seen)
    (hstage : stage tr = .paired) :
    (enableAtStartup request expiresAt pairing).wp (Permitted validateServerBase request) tr fun x tr' =>
      Enabled start seen pairing tr' x := by
  unfold enableAtStartup
  split
  · refine Op.wp_ask_bind hstarted fun answer => ?_
    cases answer with
    | ok b => exact ⟨hseen.skip rfl, (stage_push _ _).trans hstage⟩
    | error e => exact ⟨hseen.grown.push rfl, e, failedAt_passedOn rfl (by rw [hstage]; rfl), rfl⟩
  · exact ⟨hseen, hstage⟩

theorem finish_spec {steps : List Step} (hstarted : Started request expiresAt tr)
    (hsteps : steps.map Step.step = ["configuration"]) :
    (finish request expiresAt pairing steps).wp (Permitted validateServerBase request) tr fun x tr' =>
      Finished validateServerBase request tr pairing tr' x := by
  unfold finish
  refine Op.wp_ask_bind trivial fun loaded => ?_
  have s₁ := (SeenSince.here tr).skip (e := ⟨.load, loaded⟩) rfl
  have g₁ : stage (tr ++ [⟨.load, loaded⟩]) = .paired := stage_push _ _
  refine wp_committed_bind (fun _ _ => ?_) fun e he => by subst he; exact (failedAt_passedOn rfl rfl).finished s₁.grown
  refine Op.wp_ask_bind trivial fun reply => ?_
  refine wp_committed_bind (fun status hstatus => ?_) fun e he => by
    subst he
    exact (failedAt_passedOn rfl (by rw [g₁]; rfl)).finished (s₁.grown.push rfl)
  subst hstatus
  have s₂ := s₁.push (e := ⟨.pairingStatus, .ok status⟩) rfl
  have g₂ := (stage_push _ ⟨.pairingStatus, .ok status⟩).trans g₁
  split
  · exact (failedAt_answered rfl rfl (by rw [g₁]; rfl) rfl).finished s₂.grown
  next hactive =>
  refine Op.wp_bind_of (enableAtStartup_spec (hstarted.grown s₂.grown) s₂ g₂) ?_ ?_
  swap
  · rintro e tr₃ ⟨hgrown, e', hfailed, rfl⟩
    exact hfailed.finished hgrown
  rintro enable tr₃ ⟨s₃, g₃⟩
  refine wp_remaining_bind trivial (fun now₄ hlt₄ => ?_) fun now hle =>
    (hstarted.grown s₃.grown).finished hle (by rw [g₃]; rfl) s₃.grown
  refine Op.wp_ask_bind ((hstarted.grown s₃.grown).timeLeft_now hlt₄) fun reply => ?_
  have s₄ := s₃.skip (e := ⟨.clock, now₄⟩) rfl
  refine wp_committed_bind (fun registered hregistered => ?_) fun e he => by
    subst he
    exact (failedAt_passedOn rfl rfl).finished (s₄.grown.push rfl)
  subst hregistered
  have s₅ := s₄.push (e := ⟨.verifiedStatus (expiresAt - now₄), .ok registered⟩) rfl
  have hsome : status.activeReportEndpoint.isSome = true := by
    rw [← Option.not_isNone, Bool.eq_false_iff.mpr hactive]
    rfl
  refine wp_remaining_bind trivial (fun now₆ hlt₆ => ?_) fun now hle =>
    (hstarted.grown s₅.grown).finished hle (by rw [stage_push]; rfl) s₅.grown
  have s₆ := s₅.skip (e := ⟨.clock, now₆⟩) rfl
  have haction : (if enable then "enable" else "disable") = "enable" ∨
      (if enable then "enable" else "disable") = "disable" := by
    cases enable <;> decide
  have hpolicyStep (before : Stage) (args : Args) (r : Except Failure Value) :
      stepOf before ⟨.change args (if enable then "enable" else "disable"), r⟩ = "startup_policy" := by
    cases enable <;> rfl
  refine Op.wp_ask_bind ⟨(hstarted.grown s₅.grown).timeLeft_now hlt₆,
    Or.inr (Or.inl ⟨haction, status, _, registered, hsome, tr, s₆⟩)⟩ fun reply => ?_
  refine wp_committed_bind (fun policy hpolicy => ?_) fun e he => by
    subst he
    exact (failedAt_passedOn rfl (hpolicyStep _ _ _)).finished (s₆.grown.push rfl)
  subst hpolicy
  have s₇ := s₆.push (e := ⟨.change (setupServiceArgs request.args (expiresAt - now₆))
    (if enable then "enable" else "disable"), .ok policy⟩) rfl
  split
  · exact (failedAt_answered rfl rfl (hpolicyStep _ _ _) rfl).finished s₇.grown
  next hpolicy =>
  have hmatches : startupPolicyMatches policy ((if enable then "enable" else "disable") == "enable") = true := by
    cases enable with
    | true => simpa using hpolicy
    | false => simpa using hpolicy
  refine Op.wp_ask_bind trivial fun notBefore => ?_
  have s₈ := s₇.push (e := ⟨.utcNow, notBefore⟩) rfl
  refine wp_remaining_bind trivial (fun now₉ hlt₉ => ?_) fun now hle =>
    (hstarted.grown s₈.grown).finished hle (by rw [stage_push]; rfl) s₈.grown
  have s₉ := s₈.skip (e := ⟨.clock, now₉⟩) rfl
  refine Op.wp_ask_bind ⟨(hstarted.grown s₈.grown).timeLeft_now hlt₉,
    Or.inr (Or.inr ⟨rfl, status, _, registered, _, _, policy, notBefore, hsome, hmatches, tr, s₉⟩)⟩ fun reply => ?_
  refine wp_committed_bind (fun service hservice => ?_) fun e he => by
    subst he
    exact (failedAt_passedOn rfl rfl).finished (s₉.grown.push rfl)
  subst hservice
  have s₁₀ := s₉.push (e := ⟨.change (setupServiceArgs request.args (expiresAt - now₉)) "start", .ok service⟩) rfl
  have g₁₀ := stage_push (tr₃ ++ [⟨.clock, now₄⟩] ++ [⟨.verifiedStatus (expiresAt - now₄), .ok registered⟩] ++
    [⟨.clock, now₆⟩] ++ [⟨.change (setupServiceArgs request.args (expiresAt - now₆))
      (if enable then "enable" else "disable"), .ok policy⟩] ++ [⟨.utcNow, notBefore⟩] ++ [⟨.clock, now₉⟩])
    ⟨.change (setupServiceArgs request.args (expiresAt - now₉)) "start", .ok service⟩
  split
  · exact (failedAt_answered rfl rfl rfl rfl).finished s₁₀.grown
  next hrunning =>
  refine wp_remaining_bind trivial (fun now₁₁ hlt₁₁ => ?_) fun now hle =>
    (hstarted.grown s₁₀.grown).finished hle (by rw [g₁₀]; rfl) s₁₀.grown
  have s₁₁ := s₁₀.skip (e := ⟨.clock, now₁₁⟩) rfl
  refine (Op.wp_bind _ _ _).mpr ((Op.wp_mapError _ _).mpr (Op.wp_mono
    (waitForAcknowledgement_spec notBefore request.patience s₁₁ ((stage_push _ _).trans g₁₀)
      ((hstarted.grown s₁₀.grown).timeLeft_now hlt₁₁)) fun x tr' hends => ?_))
  cases x with
  | error e => exact hends.2.finished hends.1
  | ok verification =>
    obtain ⟨hack, s₁₂⟩ := hends
    refine ⟨s₁₂.grown, rfl, ⟨_, _, registered, _, _, policy, notBefore, _, _, hsome, haction, hmatches, hack, tr, s₁₂⟩,
      ?_, ?_⟩
    · simpa using hrunning
    · simp [hsteps]

/-! ## All of it -/

/-- The transaction that a failure names: without a pairing, that of the call that failed. -/
def Names (request : Request) (tr : Trace) (e : Failure) : Prop :=
  ((∀ pairing, ¬Paired tr pairing) → e.transactionId = told tr) ∧
    ∀ pairing, Paired tr pairing → AfterPairing request tr pairing e

/-- What `setup` ends with. -/
def Ends (validateServerBase : String → Option String) (request : Request) (tr : Trace) :
    Except Failure Completed → Prop
  | .ok completed => Evidence tr completed ∧
      ((completed.pairing = alreadyActive ∧ Verified tr ∧ ∀ pairing, ¬Paired tr pairing) ∨ Paired tr completed.pairing)
  | .error e => Blames validateServerBase request tr e ∧ Names request tr e

theorem Blamed.ends (h : Blamed validateServerBase request tr e) (hnot : ∀ pairing, ¬Paired tr pairing) :
    Ends validateServerBase request tr (.error e) :=
  ⟨h.1, fun _ => h.2, fun pairing hpaired => absurd hpaired (hnot pairing)⟩

/-- A binding that is kept has no transaction. -/
theorem AfterPairing.told (h : AfterPairing request tr alreadyActive e) : e.transactionId = told tr := by
  rcases h with ⟨before, now, first, rfl, -, -, rfl⟩ | ⟨-, hid⟩
  · exact (told_push before ⟨.clock, now⟩).symm
  · exact hid.trans (Option.or_none)

theorem checkReuse_error (h : checkReuse validateServerBase request = .error e) :
    e.step = some "configuration" ∧ e.transactionId = none := by
  unfold checkReuse at h
  split at h
  · cases h
    exact ⟨rfl, rfl⟩
  · split at h
    · cases h
    · split at h
      · cases h
        exact ⟨rfl, rfl⟩
      · split at h
        · cases h
          exact ⟨rfl, rfl⟩
        · cases h

theorem Paired.of_grown {pairing : Value} (h : Paired tr' pairing) (hgrown : Grown tr tr') : Paired tr pairing := by
  obtain ⟨new, rfl, hnone, -⟩ := hgrown
  obtain ⟨args, h⟩ := h
  rcases List.mem_append.mp h with h | h
  · exact ⟨args, h⟩
  · cases hnone _ h

theorem setup_spec :
    (setup validateServerBase request).wp (Permitted validateServerBase request) [] fun x tr =>
      Ends validateServerBase request tr x := by
  unfold setup
  refine Op.wp_ask_bind trivial fun now => ?_
  have hstarted : Started request (now + request.args.timeout) ([] ++ [⟨.clock, now⟩]) := ⟨now, rfl, rfl⟩
  have h₀ : Grown [] ([] ++ [⟨.clock, now⟩]) := (Grown.refl []).push rfl
  have hgrown : ∀ {tr'}, (∃ new, tr' = [] ++ [⟨.clock, now⟩] ++ new ∧ ∀ e ∈ new, Bystander e.1) →
      Grown ([] ++ [⟨.clock, now⟩]) tr' := by
    rintro tr' ⟨new, rfl, hnew⟩
    exact ⟨new, rfl, fun e he => hnew e he e.2, List.nil_sublist _⟩
  refine Op.wp_bind_of (Op.wp_grows only_inspect (inspect_spec hstarted rfl rfl)) ?_ ?_
  · rintro i tr₁ ⟨h₁, hknows, hexisting, hseen⟩
    have h₁ := hgrown h₁
    refine Op.wp_bind_of (decide_spec (hstarted.grown h₁) hknows hexisting hseen) ?_ fun e tr' ⟨h, hblamed⟩ =>
      hblamed.ends ((h₀.trans h₁).trans h).not_paired
    rintro ⟨reuse, recover⟩ tr₂ ⟨h₂, hknows, hreason⟩
    have hstarted := (hstarted.grown h₁).grown h₂
    have h₂ := (h₀.trans h₁).trans h₂
    cases reuse with
    | true =>
      refine Op.wp_ofExcept_bind (fun _ _ => ?_) fun e he => ?_
      swap
      · obtain ⟨hstep, hid⟩ := checkReuse_error he
        exact Blamed.ends ⟨.refused hstep (Or.inr (Or.inr ⟨hreason, he⟩)), hid.trans hknows.told.symm⟩ h₂.not_paired
      refine (Op.wp_bind _ _ _).mpr ((Op.wp_pure _).mpr ?_)
      refine Op.wp_mono (finish_spec hstarted rfl) fun x tr₃ hfinished => ?_
      cases x with
      | ok completed =>
        obtain ⟨h₃, hpairing, hevidence⟩ := hfinished
        exact ⟨hevidence, Or.inl ⟨hpairing, hreason.grown h₃, (h₂.trans h₃).not_paired⟩⟩
      | error e =>
        obtain ⟨h₃, hblames, hafter⟩ := hfinished
        exact Blamed.ends ⟨hblames, hafter.told⟩ (h₂.trans h₃).not_paired
    | false =>
      refine (Op.wp_bind _ _ _).mpr ((Op.wp_pure _).mpr ?_)
      refine Op.wp_bind_of (pairHost_spec hstarted hreason hknows.stage h₂) ?_ ?_
      · rintro pairing tr₃ ⟨-, hstarted, hpaired⟩
        refine Op.wp_mono (finish_spec hstarted rfl) fun x tr₄ hfinished => ?_
        cases x with
        | ok completed =>
          obtain ⟨h₄, rfl, hevidence⟩ := hfinished
          obtain ⟨args, h⟩ := (hpaired _).mp rfl
          exact ⟨hevidence, Or.inr ⟨args, h.grown h₄⟩⟩
        | error e =>
          obtain ⟨h₄, hblames, hafter⟩ := hfinished
          obtain ⟨args, h⟩ := (hpaired _).mp rfl
          refine ⟨hblames, fun hnot => absurd ⟨args, h.grown h₄⟩ (hnot pairing), fun pairing' h => ?_⟩
          cases (hpaired pairing').mpr (h.of_grown h₄)
          exact hafter
      · rintro e tr₃ ⟨hblamed, -, hpaired⟩
        exact hblamed.ends fun pairing h => by cases (hpaired pairing).mpr h
  · rintro e tr₁ ⟨h₁, hblamed⟩
    exact hblamed.ends (h₀.trans (hgrown h₁)).not_paired

/-- Setup never stops, changes or starts a service, and never pairs, without having seen why it may, nor with more time
than is left. -/
theorem setup_touches_with_reason {c : Call} {next : Reply c → Dialogue.Script Call Reply (Except Failure Completed)}
    (hreach : Script.Reaches (setup validateServerBase request) tr (.call c next)) :
    Permitted validateServerBase request tr c :=
  Script.permitted_of_wp setup_spec hreach

def unattended : Request where
  args := ⟨["setup"], [("--input-stdin", "true")], "json", 60⟩
  path := "/etc/xsoc/client.json"
  defaultConfig := "/etc/xsoc/client.json"
  endpoint := "https://xsos.example/api/client/report"
  patience := 1

/-- The host has not been paired, and the service runs. -/
theorem setup_touches_with_reason_stop :
    Permitted some unattended
      [⟨.clock, 0⟩, ⟨.validate, true⟩, ⟨.clock, 1⟩, ⟨.serviceStatus 59, .ok (.object [("state", .string "running")])⟩,
        ⟨.pairingStatus, .ok ⟨none, none⟩⟩, ⟨.authState, .ok none⟩, ⟨.runtimeStatus, .error (fail 1 "unavailable")⟩,
        ⟨.clock, 2⟩, ⟨.serviceStatus 58, .ok (.object [("state", .string "running")])⟩, ⟨.clock, 3⟩]
      (.change (setupServiceArgs unattended.args 57) "stop") :=
  setup_touches_with_reason <| .of_call <| .of_call <| .of_call <| .of_call <| .of_call <| .of_call <| .of_call <|
    .of_call <| .of_call <| .of_call .refl

/-- When setup says that it is done, all of it has been seen since the pairing. -/
theorem setup_completes_with_evidence {completed : Completed}
    (hreach : Script.Reaches (setup validateServerBase request) tr (.ret (.ok completed))) :
    Evidence tr completed ∧
      ((completed.pairing = alreadyActive ∧ Verified tr ∧ ∀ pairing, ¬Paired tr pairing) ∨
        Paired tr completed.pairing) :=
  Script.of_wp setup_spec hreach

def transaction : Value := .object [("committed", .bool true), ("transaction_id", .string "t")]

/-- A host that has not been paired, and a service at rest. -/
def pairedDialogue : Trace :=
  [⟨.clock, 0⟩, ⟨.validate, true⟩, ⟨.clock, 1⟩, ⟨.serviceStatus 59, .ok (.object [("state", .string "stopped")])⟩,
    ⟨.pairingStatus, .ok ⟨none, none⟩⟩, ⟨.authState, .ok none⟩, ⟨.clock, 2⟩,
    ⟨.serviceStatus 58, .ok (.object [("state", .string "stopped")])⟩, ⟨.hostIdentity, false⟩, ⟨.clock, 3⟩,
    ⟨.pair { setupPairArgs unattended.args .fresh with timeout := 57 }, .ok transaction⟩]

theorem reaches_pairedDialogue : Script.Reaches (setup some unattended) pairedDialogue
    (finish unattended 60 transaction
      [⟨"configuration", .object [("path", .string unattended.path), ("service_path_matches", .bool true)]⟩]) :=
  .of_call <| .of_call <| .of_call <| .of_call <| .of_call <| .of_call <| .of_call <| .of_call <| .of_call <|
    .of_call <| .of_call .refl

def completedDialogue : Trace := pairedDialogue ++
  [⟨.load, .ok ()⟩, ⟨.pairingStatus, .ok ⟨none, some unattended.endpoint⟩⟩, ⟨.clock, 4⟩,
    ⟨.verifiedStatus 56, .ok (.object [("installed", .bool true)])⟩, ⟨.clock, 5⟩,
    ⟨.change (setupServiceArgs unattended.args 55) "enable", .ok (.object [("startup", .string "enabled")])⟩,
    ⟨.utcNow, 100⟩, ⟨.clock, 6⟩,
    ⟨.change (setupServiceArgs unattended.args 54) "start", .ok (.object [("state", .string "running")])⟩, ⟨.clock, 7⟩,
    ⟨.awaitStatus 53, .snapshot (.ok
      (.object [("runtime", .object [("available", .bool true), ("last_ack_at", ofI64 101),
      ("last_delivery_result", .string "accepted"), ("last_http_status", .number (.posInt 202))])]))⟩]

theorem setup_completes_with_evidence_paired : ∃ completed, Ends some unattended completedDialogue (.ok completed) :=
  ⟨_, setup_completes_with_evidence (reaches_pairedDialogue.trans <|
    .of_call <| .of_call <| .of_call <| .of_call <| .of_call <| .of_call <| .of_call <| .of_call <| .of_call <|
    .of_call <| .of_call .refl)⟩

end Setup

end Xsoc
