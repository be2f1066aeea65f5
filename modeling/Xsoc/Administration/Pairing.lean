import Xsoc.Administration.Commands

/-!
# What a pairing does, and why

A dialogue of `pair` with the outside is all that is known of a run, whatever was answered.

* `Permitted` : when a call may be made: to start a request, or an old state to be set aside, to authorize the request,
  to ask for it, and to store what has come of it;
* `Outcome` : what the result says of the binding;
* `pair_acts_with_reason`, `pair_tells_what_is_stored` : it keeps to that.
-/

set_option autoImplicit false

namespace Xsoc

open Dialogue

namespace Administration

open Setup (Args Failure fail isBool)

abbrev Trace := List (Exchange Call Reply)

/-- This was asked, and answered so. -/
def Answered (tr : Trace) (c : Call) (r : Reply c) : Prop := (⟨c, r⟩ : Exchange Call Reply) ∈ tr

/-- The lock is held, and this is what has been asked since. -/
def Since (dir : PathBuf) (tr under : Trace) : Prop :=
  ∃ before, tr = before ++ ⟨.acquire dir, (.ok () : Except Failure Unit)⟩ :: under ∧ ∀ e ∈ under, e.1.calm = true

def Locked (dir : PathBuf) (tr : Trace) : Prop := ∃ under, Since dir tr under

/-- It was answered so under the lock. -/
def Seen (dir : PathBuf) (tr : Trace) (c : Call) (r : Reply c) : Prop := ∃ under, Since dir tr under ∧
    Answered under c r

/-- Nothing waits to be sent. -/
def Emptied (dir : PathBuf) (tr : Trace) : Prop :=
  ∃ c queue, c.stateDir = dir ∧ Seen dir tr (.queue c) (.ok queue) ∧ queueEmpty queue = true

section

variable (validateServerBase : String → Except Failure String) (validateActivationCode : String → Except Failure Unit)
  (args : Args)

/-- The input is what the user gave. -/
def Given (tr : Trace) (i : PairInput) : Prop :=
  Answered tr .stdinDocument (.ok i) ∨
    (Answered tr (.prompt "Authorization code (visible)") (.ok i.authorizationCode) ∧
      (args.get "--server" = some i.server ∨ Answered tr (.prompt "Server origin") (.ok i.server)))

/-- The configuration goes to the server of the input, which has passed its checks. -/
def Directed (c : ClientConfig) (i : PairInput) : Prop :=
  ∃ server, validateServerBase i.server = .ok server ∧ validateActivationCode i.authorizationCode = .ok () ∧
    c.endpoint = server ++ clientReportPath ∧ c.pairingEndpoint = some (server ++ clientPairingRequestsPath)

/-- The binding that is to be replaced has been named. -/
def Named (dir : PathBuf) (tr : Trace) : Prop :=
  args.has "--confirm-replace" = true ∧ ∃ c id, c.stateDir = dir ∧ args.get "--expected-binding" = some id ∧
    Seen dir tr (.clientIdentity c) (.ok id)

/-- Why a request may be started, for a host that is known or for a new one. -/
inductive Cleared (tr : Trace) (c : ClientConfig) : Option HostIdentity → PairMode → Prop
  /-- There is no binding yet. -/
  | fresh {c₀ : ClientConfig} {s : LocalPairingStatus} (hdir : c₀.stateDir = c.stateDir)
      (hstatus : Seen c.stateDir tr (.localStatus c₀) (.ok s)) (hnone : s.activeReportEndpoint = none)
      (hempty : Emptied c.stateDir tr) : Cleared tr c none .fresh
  /-- The one that there is gives way. -/
  | replace (hmode : isMode args "replace" = true) (hnamed : Named args c.stateDir tr) (hempty : Emptied c.stateDir tr)
      (hreplace : c.replacePendingPairing = true) : Cleared tr c none .fresh
  /-- The host is the one that it was. -/
  | recover {c₀ : ClientConfig} {host : HostIdentity} (hmode : isMode args "recover" = true)
      (hdir : c₀.stateDir = c.stateDir) (hhost : Seen c.stateDir tr (.loadHostIdentity c₀) (.ok host))
      (hreplace : c.replacePendingPairing = true) : Cleared tr c (some host) .recoverIdentity

/-- Why a request may be asked for. -/
inductive Begun (tr : Trace) (c : ClientConfig) : Prop
  /-- It was pending. -/
  | resumed {c₀ : ClientConfig} {s : LocalPairingStatus} (hmode : isMode args "resume" = true)
      (hdir : c₀.stateDir = c.stateDir) (hstatus : Seen c.stateDir tr (.localStatus c₀) (.ok s))
      (hpending : s.progress.isSome = true)
  /-- It has been started, and authorized. -/
  | activated {host : Option HostIdentity} {mode : PairMode} {session : PairingSession} {code : String}
      (hmode : isMode args "resume" = false)
      (hstart : Seen c.stateDir tr (.start c host mode) (.done (.ok session)))
      (hactivate : Seen c.stateDir tr (.activate c session.generation session.requestId code) (.done (.ok ())))

/-- An old state that cannot be read is set aside to recover a host that can be. -/
def SetAside (tr : Trace) (c : ClientConfig) : Prop :=
  isMode args "recover" = true ∧
    (∃ e, (pairingStateFailure e).isSome = true ∧
      (Seen c.stateDir tr (.localStatus c) (.error e) ∨ Seen c.stateDir tr (.localAuthState c) (.error e))) ∧
    (∃ queue, Seen c.stateDir tr (.queue c) (.ok queue) ∧ isBool false (queue.field "healthy") = false) ∧
    ∃ host, Seen c.stateDir tr (.loadHostIdentity c) (.ok host)

/-- When a call may be made. -/
def Permitted (tr : Trace) : Call → Prop
  | .acquire dir => ∃ c, Answered tr (.validate c) (.ok ()) ∧ c.stateDir = dir
  | .archiveIncompatible c => SetAside args tr c
  | .start c host mode =>
    Cleared args tr c host mode ∧ isMode args "resume" = false ∧
      ∃ i, Given args tr i ∧ Directed validateServerBase validateActivationCode c i
  | .activate c generation requestId code =>
    ∃ host mode session i, tr.getLast? = some ⟨.start c host mode, .done (.ok session)⟩ ∧
      session.generation = generation ∧ session.requestId = requestId ∧ Given args tr i ∧ i.authorizationCode = code
  | .poll c => Begun args tr c
  | .commitActive _ c generation requestId instanceId endpoint =>
    Locked c.stateDir tr ∧
      tr.getLast? = some ⟨.poll c, .done (.ok (some (.active generation requestId instanceId endpoint)))⟩
  | .persist _ _ => False
  | _ => True

end

/-! ## What the result says -/

/-- It may store a configuration. -/
def Call.stores : Call → Bool
  | .commitActive _ _ _ _ _ _ | .persist _ _ => true
  | _ => false

/-- It is part of a pairing that goes on. -/
def Call.operates : Call → Bool
  | .start _ _ _ | .activate _ _ _ _ | .poll _ => true
  | _ => false

def NotStored (tr : Trace) : Prop := ∀ e ∈ tr, e.1.stores = false

def Operated (tr : Trace) : Prop := ∃ e ∈ tr, e.1.operates = true

/-- What is said when a binding is active. -/
def storedResult (generation requestId instanceId : Uuid) (endpoint : String) :
    Except Error Unit → Except Failure Value
  | .ok () => .ok (.object [("committed", .bool true), ("generation", .string generation.toString),
      ("transaction_id", .string requestId.toString), ("instance_id", .string instanceId.toString),
      ("endpoint", .string endpoint)])
  | .error _ =>
    .error ⟨11, "binding_committed_configuration_unconfirmed", true, some requestId.toString, none, none⟩

/-- The last answer was that a binding is active, its configuration was stored or not, and the result says so. -/
def Stored (tr : Trace) (x : Except Failure Value) : Prop :=
  ∃ before basis c generation requestId instanceId endpoint reply,
    tr = before ++ [⟨.poll c, .done (.ok (some (.active generation requestId instanceId endpoint)))⟩] ++
        [⟨.commitActive basis c generation requestId instanceId endpoint, reply⟩] ∧
      NotStored before ∧ x = storedResult generation requestId instanceId endpoint reply

/-- The transaction that is pending. -/
def pendingTransaction : Except Error LocalPairingStatus → Option String
  | .ok ⟨some progress, _⟩ => some (transactionOf progress).toString
  | _ => none

/-- What has come of a pairing. -/
inductive Outcome (tr : Trace) (x : Except Failure Value) : Prop
  | stored (h : Stored tr x)
  /-- Nothing is stored; once a pairing goes on, the failure names the transaction that is pending. -/
  | failed {e : Failure} (hstored : NotStored tr) (hx : x = .error e)
      (hpending : Operated tr → ∃ before c saved, tr = before ++ [⟨.localStatus c, saved⟩] ∧
        e.transactionId = pendingTransaction saved)

/-! ## Dialogues that grow -/

variable {validateServerBase : String → Except Failure String} {validateActivationCode : String → Except Failure Unit}
  {storageError : Error → Failure} {missingOption : String → Failure} {args : Args} {dir : PathBuf} {tr tr' : Trace}

/-- The dialogue goes on, with calls of a kind. -/
def Grown (kind : Call → Bool) (tr tr' : Trace) : Prop := ∃ new, tr' = tr ++ new ∧ ∀ e ∈ new, kind e.1 = true

theorem Grown.mono {kind kind' : Call → Bool} (h : Grown kind tr tr') (hkind : ∀ c, kind c = true → kind' c = true) :
    Grown kind' tr tr' := by
  obtain ⟨new, rfl, hnew⟩ := h
  exact ⟨new, rfl, fun e he => hkind e.1 (hnew e he)⟩

theorem Grown.trans {kind : Call → Bool} {tr'' : Trace} (h : Grown kind tr tr') (h' : Grown kind tr' tr'') :
    Grown kind tr tr'' := by
  obtain ⟨new, rfl, hnew⟩ := h
  obtain ⟨more, rfl, hmore⟩ := h'
  exact ⟨new ++ more, List.append_assoc _ _ _, fun e he => (List.mem_append.mp he).elim (hnew e) (hmore e)⟩

theorem grown_push {kind : Call → Bool} (tr : Trace) {c : Call} (r : Reply c) (hc : kind c = true) :
    Grown kind tr (tr ++ [⟨c, r⟩]) :=
  ⟨[⟨c, r⟩], rfl, fun e he => by cases List.mem_singleton.mp he; exact hc⟩

theorem calm_push (tr : Trace) {c : Call} (r : Reply c) (hc : c.calm = true) : Grown Call.calm tr (tr ++ [⟨c, r⟩]) :=
  grown_push tr r hc

theorem Answered.append {c : Call} {r : Reply c} (h : Answered tr c r) (new : Trace) : Answered (tr ++ new) c r :=
  List.mem_append_left new h

theorem Answered.grown {kind : Call → Bool} {c : Call} {r : Reply c} (h : Answered tr c r)
    (hgrown : Grown kind tr tr') :
    Answered tr' c r := by
  obtain ⟨new, rfl, -⟩ := hgrown
  exact h.append new

theorem answered_last (tr : Trace) (c : Call) (r : Reply c) : Answered (tr ++ [⟨c, r⟩]) c r :=
  List.mem_append_right tr (List.mem_singleton_self _)

theorem Given.append {i : PairInput} (h : Given args tr i) (new : Trace) : Given args (tr ++ new) i := by
  rcases h with h | ⟨hcode, hserver⟩
  · exact Or.inl (h.append new)
  · exact Or.inr ⟨hcode.append new, hserver.imp_right fun h => h.append new⟩

theorem Given.grown {kind : Call → Bool} {i : PairInput} (h : Given args tr i) (hgrown : Grown kind tr tr') :
    Given args tr' i := by
  obtain ⟨new, rfl, -⟩ := hgrown
  exact h.append new

theorem Since.grown {under new : Trace} (h : Since dir tr under) (hnew : ∀ e ∈ new, e.1.calm = true) :
    Since dir (tr ++ new) (under ++ new) := by
  obtain ⟨before, rfl, hunder⟩ := h
  refine ⟨before, by rw [List.append_assoc, List.cons_append], fun e he => ?_⟩
  exact (List.mem_append.mp he).elim (hunder e) (hnew e)

theorem Locked.grown (h : Locked dir tr) (hgrown : Grown Call.calm tr tr') : Locked dir tr' := by
  obtain ⟨under, hunder⟩ := h
  obtain ⟨new, rfl, hnew⟩ := hgrown
  exact ⟨_, hunder.grown hnew⟩

theorem Locked.seen (h : Locked dir tr) {c : Call} (r : Reply c) (hc : c.calm = true) : Seen dir
    (tr ++ [⟨c, r⟩]) c r := by
  obtain ⟨under, hunder⟩ := h
  refine ⟨under ++ [⟨c, r⟩], hunder.grown fun e he => ?_, answered_last _ _ _⟩
  cases List.mem_singleton.mp he
  exact hc

theorem Seen.grown {c : Call} {r : Reply c} (h : Seen dir tr c r) (hgrown : Grown Call.calm tr tr') :
    Seen dir tr' c r := by
  obtain ⟨under, hunder, hmem⟩ := h
  obtain ⟨new, rfl, hnew⟩ := hgrown
  exact ⟨_, hunder.grown hnew, List.mem_append_left new hmem⟩

theorem Emptied.grown (h : Emptied dir tr) (hgrown : Grown Call.calm tr tr') : Emptied dir tr' := by
  obtain ⟨c, queue, hdir, hseen, hempty⟩ := h
  exact ⟨c, queue, hdir, hseen.grown hgrown, hempty⟩

theorem Named.grown (h : Named args dir tr) (hgrown : Grown Call.calm tr tr') : Named args dir tr' := by
  obtain ⟨hconfirm, c, id, hdir, hexpected, hseen⟩ := h
  exact ⟨hconfirm, c, id, hdir, hexpected, hseen.grown hgrown⟩

theorem Begun.grown {c : ClientConfig} (h : Begun args tr c) (hgrown : Grown Call.calm tr tr') : Begun args tr' c := by
  cases h with
  | resumed hmode hdir hstatus hpending => exact .resumed hmode hdir (hstatus.grown hgrown) hpending
  | activated hmode hstart hactivate => exact .activated hmode (hstart.grown hgrown) (hactivate.grown hgrown)

theorem stores_of_calm (c : Call) (h : c.calm = true) : c.stores = false := by
  cases c with
  | acquire | release | commitActive | persist => cases h
  | _ => rfl

theorem operates_of_idle (c : Call) (h : c.idle = true) : c.operates = false := by
  cases c with
  | start | activate | poll => cases h
  | _ => rfl

theorem NotStored.grown (h : NotStored tr) (hgrown : Grown Call.calm tr tr') : NotStored tr' := by
  obtain ⟨new, rfl, hnew⟩ := hgrown
  exact fun e he => (List.mem_append.mp he).elim (h e) fun he => stores_of_calm e.1 (hnew e he)

/-- What a part says of its end, when it does nothing that matters. -/
theorem wp_idle {α : Type} {P : Trace → Call → Prop} {p : Script α} {Q : Except Failure α → Trace → Prop}
    (honly : p.Only fun c => c.idle = true) (h : p.wp P tr Q) :
    p.wp P tr fun x tr' => Grown Call.idle tr tr' ∧ Q x tr' :=
  Op.wp_grows honly h

/-- No pairing goes on yet. -/
structure Unbegun (tr : Trace) : Prop where
  stored : NotStored tr
  operated : ¬Operated tr

theorem Unbegun.grown (h : Unbegun tr) (hgrown : Grown Call.idle tr tr') : Unbegun tr' := by
  refine ⟨h.stored.grown (hgrown.mono calm_of_idle), ?_⟩
  obtain ⟨new, rfl, hnew⟩ := hgrown
  rintro ⟨e, he, hoperates⟩
  rcases List.mem_append.mp he with he | he
  · exact h.operated ⟨e, he, hoperates⟩
  · rw [operates_of_idle e.1 (hnew e he)] at hoperates
    cases hoperates

/-- What fails now has stored nothing, and left no transaction. -/
theorem Unbegun.outcome (h : Unbegun tr) (e : Failure) : Outcome tr (.error e) :=
  .failed h.stored rfl fun hoperated => absurd hoperated h.operated

/-! ## Before the pairing -/

variable {c : ClientConfig}

/-- What is to be paired with, and where it comes from. -/
def InputOf (args : Args) (tr : Trace) : Option PairInput → Prop
  | none => isMode args "resume" = true
  | some i => isMode args "resume" = false ∧ Given args tr i

theorem InputOf.append {input : Option PairInput} (h : InputOf args tr input) (new : Trace) :
    InputOf args (tr ++ new) input := by
  cases input with
  | none => exact h
  | some i => exact ⟨h.1, h.2.append new⟩

theorem InputOf.grown {kind : Call → Bool} {input : Option PairInput} (h : InputOf args tr input)
    (hgrown : Grown kind tr tr') : InputOf args tr' input := by
  obtain ⟨new, rfl, -⟩ := hgrown
  exact h.append new

theorem promptServer_spec {P : Trace → Call → Prop} (hP : ∀ tr label, P tr (.prompt label)) :
    (promptServer args).wp P tr fun x tr' => ∀ server, x = .ok server →
      args.get "--server" = some server ∨ Answered tr' (.prompt "Server origin") (.ok server) := by
  unfold promptServer
  split
  · next server hserver => exact fun server' h => by cases h; exact Or.inl hserver
  · refine Op.wp_ask_bind (hP _ _) fun r => ?_
    intro server h
    subst h
    exact Or.inr (answered_last _ _ _)

theorem pairInput_spec :
    (pairInput args).wp (Permitted validateServerBase validateActivationCode args) tr fun x tr' =>
      ∀ input, x = .ok input → InputOf args tr' input := by
  unfold pairInput
  split
  · next hresume => exact fun input h => by cases h; exact hresume
  · next hresume =>
    have hnot : isMode args "resume" = false := Bool.eq_false_iff.mpr hresume
    split
    · refine Op.wp_ask_bind trivial fun r => Op.wp_ofExcept_bind (fun i hi => ?_) fun e _ => fun _ h => by cases h
      subst hi
      exact fun input h => by cases h; exact ⟨hnot, Or.inl (answered_last _ _ _)⟩
    · split
      · refine Op.wp_bind_of (promptServer_spec fun _ _ => trivial) ?_ ?_
        · intro server tr₁ hserver
          refine Op.wp_ask_bind trivial fun r => Op.wp_ofExcept_bind
            (fun code hcode => ?_) fun e _ => fun _ h => by cases h
          subst hcode
          intro input h
          cases h
          refine ⟨hnot, Or.inr ⟨answered_last _ _ _, (hserver server rfl).imp_right fun h => ?_⟩⟩
          exact List.mem_append_left _ h
        · exact fun e tr₁ _ input h => by cases h
      · exact fun input h => by cases h

theorem withInput_spec {c' : ClientConfig} {input : Option PairInput}
    (h : withInput validateServerBase validateActivationCode args c input = .ok c') :
    c'.stateDir = c.stateDir ∧ ∀ i, input = some i → Directed validateServerBase validateActivationCode c' i := by
  cases input with
  | none =>
    cases h
    exact ⟨rfl, fun i hi => by cases hi⟩
  | some i =>
    simp only [withInput] at h
    split at h
    · cases h
    · obtain ⟨server, hserver, h⟩ := Except.bind_eq_ok.mp h
      obtain ⟨_, hcode, h⟩ := Except.bind_eq_ok.mp h
      cases h
      exact ⟨rfl, fun i' hi => by cases hi; exact ⟨server, hserver, hcode, rfl, rfl⟩⟩

/-! ## Under the lock -/

theorem checkedQueue_spec {P : Trace → Call → Prop} (hP : P tr (.queue c)) :
    (checkedQueue c).wp P tr fun x tr' => ∀ u, x = .ok u →
      ∃ queue, tr' = tr ++ [⟨.queue c, .ok queue⟩] ∧ isBool false (queue.field "healthy") = false := by
  unfold checkedQueue
  refine Op.wp_ask_bind hP fun r => Op.wp_ofExcept_bind (fun queue hqueue => ?_) fun e _ => fun _ h => by cases h
  subst hqueue
  split
  · exact fun _ h => by cases h
  · next hhealthy => exact fun _ _ => ⟨queue, rfl, Bool.eq_false_iff.mpr hhealthy⟩

theorem incompatible_error {α : Type} {x : Except Error α} (h : incompatible x = true) :
    ∃ e, x = .error e ∧ (pairingStateFailure e).isSome = true := by
  cases x with
  | ok a => cases h
  | error e => exact ⟨e, rfl, h⟩

/-- What there is has been read, or is set aside. -/
theorem existingPairing_spec (hlocked : Locked c.stateDir tr) :
    (existingPairing storageError args c).wp (Permitted validateServerBase validateActivationCode args) tr fun x tr' =>
      ∀ s, x = .ok s → isMode args "recover" = true ∨ Seen c.stateDir tr' (.localStatus c) (.ok s) := by
  unfold existingPairing
  refine Op.wp_ask_bind trivial fun status => Op.wp_ask_bind trivial fun authorization => ?_
  have hstatus : Seen c.stateDir (tr ++ [⟨.localStatus c, status⟩] ++ [⟨.localAuthState c, authorization⟩])
      (.localStatus c) status := (hlocked.seen _ rfl).grown (grown_push _ _ rfl)
  have hlocked' := hlocked.grown (grown_push tr (c := .localStatus c) status rfl)
  have hauth : Seen c.stateDir (tr ++ [⟨.localStatus c, status⟩] ++ [⟨.localAuthState c, authorization⟩])
      (.localAuthState c) authorization := hlocked'.seen _ rfl
  replace hlocked' := hlocked'.grown (grown_push _ (c := .localAuthState c) authorization rfl)
  split
  · next hrecover =>
    rw [Bool.and_eq_true, Bool.or_eq_true] at hrecover
    refine Op.wp_bind_of (checkedQueue_spec trivial) ?_ fun e tr₁ _ s h => by cases h
    intro _ tr₁ h
    obtain ⟨queue, rfl, hhealthy⟩ := h () rfl
    refine Op.wp_ask_bind trivial fun host => Op.wp_ofExcept_bind (fun h hhost => ?_) fun e _ => fun _ h => by cases h
    cases host with
    | error e => cases hhost
    | ok host =>
      have hqueue := (hlocked'.seen (c := .queue c) (.ok queue) rfl).grown
        (grown_push _ (c := .loadHostIdentity c) (.ok host) rfl)
      have hset : SetAside args (tr ++ [⟨.localStatus c, status⟩] ++ [⟨.localAuthState c, authorization⟩] ++
          [⟨.queue c, .ok queue⟩] ++ [⟨.loadHostIdentity c, .ok host⟩]) c := by
        have hgrown : Grown Call.calm
            (tr ++ [⟨.localStatus c, status⟩] ++ [⟨.localAuthState c, authorization⟩])
            (tr ++ [⟨.localStatus c, status⟩] ++ [⟨.localAuthState c, authorization⟩] ++ [⟨.queue c, .ok queue⟩] ++
              [⟨.loadHostIdentity c, .ok host⟩]) :=
          ⟨[⟨.queue c, .ok queue⟩, ⟨.loadHostIdentity c, .ok host⟩], by simp only [List.append_assoc]; rfl,
            fun e he => by
            rcases List.mem_cons.mp he with rfl | he
            · rfl
            · cases List.mem_singleton.mp he
              rfl⟩
        refine ⟨hrecover.1, ?_, ⟨queue, hqueue, hhealthy⟩, host, (hlocked'.grown (grown_push _ _ rfl)).seen _ rfl⟩
        rcases hrecover.2 with hbad | hbad
        · obtain ⟨e, rfl, he⟩ := incompatible_error hbad
          exact ⟨e, he, Or.inl (hstatus.grown hgrown)⟩
        · obtain ⟨e, rfl, he⟩ := incompatible_error hbad
          exact ⟨e, he, Or.inr (hauth.grown hgrown)⟩
      refine Op.wp_ask_bind hset fun archived => Op.wp_ofExcept_bind (fun _ _ => ?_) fun e _ => fun _ h => by cases h
      exact fun s _ => Or.inl hrecover.1
  · refine Op.wp_ofExcept_bind (fun _ _ => ?_) fun e _ => fun _ h => by cases h
    intro s hs
    cases status with
    | error e => cases hs
    | ok status =>
      cases hs
      exact Or.inr hstatus

/-- The configuration of the operation goes where the one that it comes from does. -/
def Alike (c c' : ClientConfig) : Prop :=
  c'.stateDir = c.stateDir ∧ c'.endpoint = c.endpoint ∧ c'.pairingEndpoint = c.pairingEndpoint

theorem Directed.alike {c' : ClientConfig} {i : PairInput} (h : Directed validateServerBase validateActivationCode c i)
    (halike : Alike c c') : Directed validateServerBase validateActivationCode c' i := by
  obtain ⟨server, hserver, hcode, hendpoint, hpairing⟩ := h
  exact ⟨server, hserver, hcode, halike.2.1.trans hendpoint, halike.2.2.trans hpairing⟩

theorem checkQueueEmpty_spec {P : Trace → Call → Prop} (hP : P tr (.queue c)) (hlocked : Locked c.stateDir tr) :
    (checkQueueEmpty c).wp P tr fun x tr' => ∀ u, x = .ok u → Emptied c.stateDir tr' := by
  unfold checkQueueEmpty
  refine Op.wp_ask_bind hP fun r => Op.wp_ofExcept_bind (fun queue hqueue => ?_) fun e _ => fun _ h => by cases h
  subst hqueue
  split
  · next hempty => exact fun _ _ => ⟨c, queue, rfl, hlocked.seen _ rfl, hempty⟩
  · exact fun _ h => by cases h

theorem only_confirmReplace (args : Args) (c : ClientConfig) :
    (confirmReplace missingOption args c).Only fun c => c.looks = true := by
  unfold confirmReplace
  split
  · split
    · refine Op.only_bind (Op.only_ofExcept _) fun _ => Op.only_bind (Op.only_ask rfl) fun _ => ?_
      refine Op.only_bind (Op.only_ofExcept _) fun _ => ?_
      split
      · exact Op.only_throw _
      · exact Op.only_bind (only_checkQueueEmpty c) fun _ => Op.only_pure _
    · exact Op.only_throw _
  · exact Op.only_pure _

theorem require_eq_ok {name value : String} (h : require missingOption args name = .ok value) :
    args.get name = some value := by
  unfold require at h
  split at h
  · next value' hvalue =>
    cases h
    exact hvalue
  · cases h

/-- A binding that gives way has been named, and nothing waits to be sent. -/
theorem confirmReplace_spec (hlocked : Locked c.stateDir tr) :
    (confirmReplace missingOption args c).wp (Permitted validateServerBase validateActivationCode args) tr fun x tr' =>
      ∀ c', x = .ok c' → Alike c c' ∧ (isMode args "replace" = true →
        Named args c.stateDir tr' ∧ Emptied c.stateDir tr' ∧ c'.replacePendingPairing = true) := by
  unfold confirmReplace
  split
  · split
    · next hconfirm =>
      refine Op.wp_ofExcept_bind (fun expected hexpected => ?_) fun e _ => fun _ h => by cases h
      refine Op.wp_ask_bind trivial fun r => Op.wp_ofExcept_bind
        (fun binding hbinding => ?_) fun e _ => fun _ h => by cases h
      subst hbinding
      split
      · exact fun _ h => by cases h
      · next hsame =>
        have hid := hlocked.seen (c := .clientIdentity c) (.ok binding) rfl
        have hlocked' := hlocked.grown (grown_push _ (c := .clientIdentity c) (.ok binding) rfl)
        refine Op.wp_bind_of
          (wp_idle ((only_checkQueueEmpty c).mono idle_of_looks) (checkQueueEmpty_spec trivial hlocked')) ?_ ?_
        · rintro _ tr₁ ⟨hgrown, hempty⟩ c' h
          cases h
          refine ⟨⟨rfl, rfl, rfl⟩, fun _ =>
            ⟨⟨hconfirm, c, expected, rfl, require_eq_ok hexpected, ?_⟩, hempty () rfl, rfl⟩⟩
          rw [not_not.mp hsame]
          exact hid.grown (hgrown.mono calm_of_idle)
        · exact fun e tr₁ _ c' h => by cases h
    · exact fun _ h => by cases h
  · next hnot => exact fun c' h => by cases h; exact ⟨⟨rfl, rfl, rfl⟩, fun hreplace => absurd hreplace hnot⟩

theorem only_checkNewBinding (args : Args) (c : ClientConfig) :
    (checkNewBinding args c).Only fun c => c.looks = true := by
  unfold checkNewBinding
  split
  · exact only_checkQueueEmpty c
  · exact Op.only_pure _

theorem checkNewBinding_spec (hlocked : Locked c.stateDir tr) :
    (checkNewBinding args c).wp (Permitted validateServerBase validateActivationCode args) tr fun x tr' =>
      ∀ u, x = .ok u → isMode args "resume" = false → isMode args "recover" = false → Emptied c.stateDir tr' := by
  unfold checkNewBinding
  split
  · exact Op.wp_mono (checkQueueEmpty_spec trivial hlocked) fun x tr' h u hx _ _ => h u hx
  · next hnot =>
    intro u _ hresume hrecover
    rw [hresume, hrecover] at hnot
    exact absurd rfl hnot

theorem checkExisting_eq_ok {s : LocalPairingStatus} (h : checkExisting args s = .ok ()) :
    (isMode args "resume" = true → s.progress.isSome = true) ∧
      (isMode args "resume" = false → isMode args "replace" = false → isMode args "recover" = false →
        s.activeReportEndpoint = none) := by
  unfold checkExisting at h
  split at h
  · cases h
  · next hnone =>
    split at h
    · cases h
    · next hactive =>
      refine ⟨fun hresume => ?_, fun hresume hreplace hrecover => ?_⟩
      · rw [hresume, Bool.true_and] at hnone
        cases hprogress : s.progress with
        | none => exact absurd (by rw [hprogress]; rfl) hnone
        | some progress => rfl
      · rw [hresume, hreplace, hrecover] at hactive
        cases hendpoint : s.activeReportEndpoint with
        | none => rfl
        | some endpoint => exact absurd (by rw [hendpoint]; rfl) hactive

theorem isMode_inj {word word' : String} (h : isMode args word = true) (h' : isMode args word' = true) :
    word = word' := by
  unfold isMode at h h'
  exact Option.some.inj ((eq_of_beq h).symm.trans (eq_of_beq h'))

/-! ## The pairing -/

theorem pairingStateFailure_transactionId {e : Error} {failure : Failure} (h : pairingStateFailure e = some failure) :
    failure.transactionId = none := by
  unfold pairingStateFailure at h
  split at h
  · cases h
    rfl
  · cases h
    rfl
  · cases h

theorem pairingHttpFailure_transactionId (http : PairingHttpError) :
    (pairingHttpFailure http).transactionId = none := by
  unfold pairingHttpFailure
  repeat' split
  all_goals rfl

theorem pairingFailure_transactionId (e : Error) (fallback : Nat) (code : String) :
    (pairingFailure e fallback code).transactionId = none := by
  unfold pairingFailure
  split
  · next failure h => exact pairingStateFailure_transactionId h
  · split
    · exact pairingHttpFailure_transactionId _
    · split <;> rfl

/-- How the operation ends. -/
def Done (tr : Trace) (x : Except Failure Value) : Prop :=
  Stored tr x ∨ (NotStored tr ∧ ∃ e, x = .error e ∧ (Operated tr → e.transactionId = none))

theorem Done.of_failure {e : Failure} (hstored : NotStored tr) (he : e.transactionId = none) : Done tr (.error e) :=
  Or.inr ⟨hstored, e, rfl, fun _ => he⟩

theorem mapError_eq_error {α : Type} {x : Except Error α} {f : Error → Failure} {e : Failure}
    (h : x.mapError f = .error e) : ∃ error, x = .error error ∧ e = f error := by
  cases x with
  | ok a => cases h
  | error error =>
    cases h
    exact ⟨error, rfl, rfl⟩

theorem mapError_eq_ok {ε α : Type} {x : Except ε α} {f : ε → Failure} {a : α} (h : x.mapError f = .ok a) :
    x = .ok a := by
  cases x with
  | ok a =>
    cases h
    rfl
  | error error => cases h

theorem wp_await_bind {α β : Type} {P : Trace → Call → Prop} {awaited : Awaited α} {f : α → Script β}
    {Q : Except Failure β → Trace → Prop} (hok : ∀ a, awaited = .done a → (f a).wp P tr Q)
    (herror : ∀ e : Failure, e.transactionId = none → Q (.error e) tr) : (await awaited >>= f).wp P tr Q := by
  refine (Op.wp_bind _ _ _).mpr ?_
  cases awaited with
  | done a => exact hok a rfl
  | timedOut => exact herror _ rfl
  | interrupted => exact herror _ rfl

theorem commitActive_spec {basis : Basis} {generation requestId instanceId : Uuid} {endpoint : String}
    (hlocked : Locked c.stateDir tr) (hstored : NotStored tr) :
    (commitActive basis c generation requestId instanceId endpoint).wp
      (Permitted validateServerBase validateActivationCode args)
      (tr ++ [⟨.poll c, .done (.ok (some (.active generation requestId instanceId endpoint)))⟩])
      fun x tr' => Done tr' x := by
  unfold commitActive
  refine Op.wp_ask_bind ⟨hlocked.grown (grown_push _ _ rfl), List.getLast?_concat⟩ fun reply => ?_
  have hdone : ∀ x, x = storedResult generation requestId instanceId endpoint reply →
      Done (tr ++ [⟨.poll c, .done (.ok (some (.active generation requestId instanceId endpoint)))⟩] ++
        [⟨.commitActive basis c generation requestId instanceId endpoint, reply⟩]) x :=
    fun x hx => Or.inl ⟨tr, basis, c, generation, requestId, instanceId, endpoint, reply, rfl, hstored, hx⟩
  cases reply with
  | ok u => exact hdone _ rfl
  | error e => exact hdone _ rfl

/-- A pairing goes on under the lock. -/
structure Going (args : Args) (tr : Trace) (c : ClientConfig) : Prop where
  locked : Locked c.stateDir tr
  begun : Begun args tr c
  stored : NotStored tr

theorem Going.push (h : Going args tr c) {call : Call} (r : Reply call) (hcall : call.calm = true) :
    Going args (tr ++ [⟨call, r⟩]) c where
  locked := h.locked.grown (grown_push tr r hcall)
  begun := h.begun.grown (grown_push tr r hcall)
  stored := h.stored.grown (grown_push tr r hcall)

theorem pollRequest_spec {basis : Basis} (n : Nat) (hgoing : Going args tr c) :
    (pollRequest basis c n).wp
      (Permitted validateServerBase validateActivationCode args) tr fun x tr' => Done tr' x := by
  induction n generalizing tr with
  | zero => exact Done.of_failure hgoing.stored rfl
  | succ n ih =>
    unfold pollRequest
    refine Op.wp_ask_bind hgoing.begun fun awaited => ?_
    have hpolled := hgoing.push awaited rfl
    refine wp_await_bind (fun progress hprogress => ?_) fun e he => Done.of_failure hpolled.stored he
    subst hprogress
    refine Op.wp_ofExcept_bind (fun progress' hprogress => ?_) fun e he => ?_
    · cases mapError_eq_ok hprogress
      cases progress' with
      | none => exact Done.of_failure hpolled.stored rfl
      | some progress =>
        cases progress with
        | active generation requestId instanceId endpoint => exact commitActive_spec hgoing.locked hgoing.stored
        | waiting session =>
          refine Op.wp_ask_bind trivial fun slept => ?_
          have hslept := hpolled.push slept rfl
          exact wp_await_bind (fun _ _ => ih hslept) fun e he => Done.of_failure hslept.stored he
        | creating => exact ih hpolled
        | denied => exact Done.of_failure hpolled.stored rfl
        | expired => exact Done.of_failure hpolled.stored rfl
    · obtain ⟨error, -, rfl⟩ := mapError_eq_error he
      exact Done.of_failure hpolled.stored (pairingFailure_transactionId _ _ _)

/-- Before the pairing goes on, with what has been seen. -/
structure Prepared (validateServerBase : String → Except Failure String)
    (validateActivationCode : String → Except Failure Unit) (args : Args) (tr : Trace) (c : ClientConfig)
    (input : Option PairInput) : Prop where
  locked : Locked c.stateDir tr
  unbegun : Unbegun tr
  given : InputOf args tr input
  directed : ∀ i, input = some i → Directed validateServerBase validateActivationCode c i
  resumed : isMode args "resume" = true → Begun args tr c
  recovered : isMode args "recover" = true → c.replacePendingPairing = true
  cleared : isMode args "resume" = false → isMode args "recover" = false → Cleared args tr c none .fresh

theorem only_requestedHost (args : Args) (c : ClientConfig) :
    (requestedHost storageError args c).Only fun c => c.idle = true := by
  unfold requestedHost
  split
  · exact Op.only_bind (Op.only_ask rfl) fun _ => Op.only_bind (Op.only_ofExcept _) fun _ => Op.only_pure _
  · exact Op.only_pure _

/-- A host that is recovered is one that has been read. -/
theorem requestedHost_spec {input : Option PairInput}
    (h : Prepared validateServerBase validateActivationCode args tr c input) (hnot : isMode args "resume" = false) :
    (requestedHost storageError args c).wp (Permitted validateServerBase validateActivationCode args) tr fun x tr' =>
      ∀ host, x = .ok host → Cleared args tr' c host (requestedMode args) := by
  unfold requestedHost requestedMode
  split
  · next hrecover =>
    refine Op.wp_ask_bind trivial fun r => Op.wp_ofExcept_bind (fun host hhost => ?_) fun e _ => fun _ h => by cases h
    cases mapError_eq_ok hhost
    intro host' heq
    cases heq
    exact .recover hrecover rfl (h.locked.seen _ rfl) (h.recovered hrecover)
  · next hrecover =>
    intro host heq
    cases heq
    exact h.cleared hnot (Bool.eq_false_iff.mpr hrecover)

/-- Either the request may be asked for, or what failed has no transaction. -/
def Begins (args : Args) (c : ClientConfig) (x : Except Failure Unit) (tr : Trace) : Prop :=
  (∀ u, x = .ok u → Going args tr c) ∧
    ∀ e, x = .error e → NotStored tr ∧ (Operated tr → e.transactionId = none)

theorem Begins.of_failure {e : Failure} (hstored : NotStored tr) (he : e.transactionId = none) :
    Begins args c (.error e) tr :=
  ⟨(fun _ h => by cases h), fun _ h => by cases h; exact ⟨hstored, fun _ => he⟩⟩

theorem activateRequest_spec {host : Option HostIdentity} {mode : PairMode} {session : PairingSession} {i : PairInput}
    (hlocked : Locked c.stateDir tr) (hstored : NotStored tr) (hnot : isMode args "resume" = false)
    (hgiven : Given args tr i) :
    (activateRequest c session (some i)).wp (Permitted validateServerBase validateActivationCode args)
      (tr ++ [⟨.start c host mode, .done (.ok session)⟩]) fun x tr' => Begins args c x tr' := by
  have hstarted := calm_push tr (c := .start c host mode) (.done (.ok session)) rfl
  have hstart := hlocked.seen (c := .start c host mode) (.done (.ok session)) rfl
  unfold activateRequest
  refine Op.wp_ask_bind ⟨host, mode, session, i, List.getLast?_concat, rfl, rfl, hgiven.grown hstarted, rfl⟩ fun r => ?_
  have hasked := calm_push (tr ++ [⟨.start c host mode, .done (.ok session)⟩])
    (c := .activate c session.generation session.requestId i.authorizationCode) r rfl
  have hstored' := (hstored.grown hstarted).grown hasked
  refine wp_await_bind (fun activated hactivated => ?_) fun e he => Begins.of_failure hstored' he
  subst hactivated
  cases activated with
  | ok u =>
    refine ⟨fun _ _ => ⟨(hlocked.grown hstarted).grown hasked, ?_, hstored'⟩, fun e h => by cases h⟩
    exact .activated hnot (hstart.grown hasked) ((hlocked.grown hstarted).seen _ rfl)
  | error error => exact Begins.of_failure hstored' (pairingFailure_transactionId _ _ _)

theorem beginRequest_spec {input : Option PairInput}
    (h : Prepared validateServerBase validateActivationCode args tr c input) :
    (beginRequest storageError args c input).wp (Permitted validateServerBase validateActivationCode args) tr
      fun x tr' => Begins args c x tr' := by
  unfold beginRequest
  split
  · next hresume => exact ⟨fun _ _ => ⟨h.locked, h.resumed hresume, h.unbegun.stored⟩, fun e he => by cases he⟩
  · next hresume =>
    have hnot : isMode args "resume" = false := Bool.eq_false_iff.mpr hresume
    unfold createRequest
    refine Op.wp_bind_of (wp_idle (only_requestedHost args c) (requestedHost_spec h hnot)) ?_ ?_
    · rintro host tr₁ ⟨hgrown, hcleared⟩
      have hcalm := hgrown.mono calm_of_idle
      cases input with
      | none => exact absurd h.given hresume
      | some i =>
        refine Op.wp_ask_bind ⟨hcleared host rfl, hnot, i, h.given.2.grown hgrown, h.directed i rfl⟩ fun r => ?_
        have hstored := (h.unbegun.stored.grown hcalm).grown
          (grown_push _ (c := .start c host (requestedMode args)) r rfl)
        refine wp_await_bind (fun session hsession => ?_) fun e he => Begins.of_failure hstored he
        subst hsession
        refine Op.wp_ofExcept_bind (fun session' hsession => ?_) fun e he => ?_
        · cases mapError_eq_ok hsession
          exact activateRequest_spec (h.locked.grown hcalm) (h.unbegun.stored.grown hcalm) hnot (h.given.2.grown hgrown)
        · obtain ⟨error, -, rfl⟩ := mapError_eq_error he
          exact Begins.of_failure hstored (pairingFailure_transactionId _ _ _)
    · rintro e tr₁ ⟨hgrown, -⟩
      refine ⟨(fun _ h => by cases h), fun e' he =>
        ⟨h.unbegun.stored.grown (hgrown.mono calm_of_idle), fun hoperated => ?_⟩⟩
      exact absurd hoperated (h.unbegun.grown hgrown).operated

theorem operation_spec {basis : Basis} {patience : Nat} {input : Option PairInput}
    (h : Prepared validateServerBase validateActivationCode args tr c input) :
    (operation storageError args basis c input patience).wp
      (Permitted validateServerBase validateActivationCode args) tr
      fun x tr' => Done tr' x := by
  unfold operation
  refine Op.wp_bind_of (beginRequest_spec h) ?_ ?_
  · exact fun u tr₁ hbegins => pollRequest_spec patience (hbegins.1 u rfl)
  · exact fun e tr₁ hbegins => Or.inr ⟨(hbegins.2 e rfl).1, e, rfl, (hbegins.2 e rfl).2⟩

/-- A failure is told with the transaction that is pending. -/
theorem attachTransaction_spec {c' : ClientConfig} {e : Failure} (h : Done tr (.error e)) :
    (attachTransaction c' e).wp
      (Permitted validateServerBase validateActivationCode args) tr fun x tr' => Outcome tr' x := by
  rcases h with hstored | ⟨hstored, e', heq, hnone⟩
  · have hid : e.transactionId.isNone = false := by
      obtain ⟨before, basis, c, generation, requestId, instanceId, endpoint, reply, -, -, hx⟩ := hstored
      cases reply with
      | ok u => cases hx
      | error error =>
        cases hx
        rfl
    unfold attachTransaction
    rw [hid]
    exact Outcome.stored hstored
  · cases heq
    unfold attachTransaction
    split
    · next hid =>
      refine Op.wp_ask_bind trivial fun saved => ?_
      have hstored' := hstored.grown (calm_push tr (c := .localStatus c') saved rfl)
      rcases saved with error | ⟨_ | progress, active⟩
      · exact .failed hstored' rfl fun _ => ⟨tr, c', _, rfl, Option.isNone_iff_eq_none.mp hid⟩
      · exact .failed hstored' rfl fun _ => ⟨tr, c', _, rfl, Option.isNone_iff_eq_none.mp hid⟩
      · exact .failed hstored' rfl fun _ => ⟨tr, c', _, rfl, rfl⟩
    · next hid =>
      refine Outcome.failed hstored rfl fun hoperated => absurd ?_ hid
      rw [hnone hoperated]
      rfl

/-! ## All of it -/

theorem alike_operationConfig (args : Args) (c : ClientConfig) : Alike c (operationConfig args c) := by
  unfold operationConfig
  split
  · exact ⟨rfl, rfl, rfl⟩
  · exact ⟨rfl, rfl, rfl⟩

theorem operationConfig_eq {c : ClientConfig} (h : isMode args "recover" = false) : operationConfig args c = c := by
  unfold operationConfig
  rw [h]
  rfl

/-- What has been seen of the state of pairing. -/
theorem prepared {c' : ClientConfig} {input : Option PairInput} {s : LocalPairingStatus}
    (hlocked : Locked c.stateDir tr)
    (hunbegun : Unbegun tr) (hgiven : InputOf args tr input)
    (hdirected : ∀ i, input = some i → Directed validateServerBase validateActivationCode c i)
    (hstatus : isMode args "recover" = true ∨ Seen c.stateDir tr (.localStatus c) (.ok s))
    (hexisting : checkExisting args s = .ok ()) (halike : Alike c c')
    (hreplace : isMode args "replace" = true →
      Named args c.stateDir tr ∧ Emptied c.stateDir tr ∧ c'.replacePendingPairing = true)
    (hempty : isMode args "resume" = false → isMode args "recover" = false → Emptied c'.stateDir tr) :
    Prepared validateServerBase validateActivationCode args tr (operationConfig args c') input := by
  obtain ⟨hpending, hactive⟩ := checkExisting_eq_ok hexisting
  have hoperation := alike_operationConfig args c'
  have hdir : (operationConfig args c').stateDir = c.stateDir := hoperation.1.trans halike.1
  refine ⟨by rwa [hdir], hunbegun, hgiven, fun i hi => ((hdirected i hi).alike halike).alike hoperation, ?_, ?_, ?_⟩
  · intro hresume
    rcases hstatus with hrecover | hseen
    · exact absurd (isMode_inj hresume hrecover) (by decide)
    · exact .resumed hresume hdir.symm (by rwa [hdir]) (hpending hresume)
  · intro hrecover
    unfold operationConfig
    rw [hrecover]
    rfl
  · intro hresume hrecover
    rw [operationConfig_eq hrecover]
    rcases hmode : isMode args "replace" with _ | _
    · rcases hstatus with hbad | hseen
      · rw [hrecover] at hbad
        cases hbad
      · refine .fresh halike.1.symm (by rwa [halike.1]) (hactive hresume hmode hrecover) (hempty hresume hrecover)
    · obtain ⟨hnamed, hqueue, hflag⟩ := hreplace hmode
      exact .replace hmode (by rwa [halike.1]) (by rwa [halike.1]) hflag

theorem pairGuarded_spec {basis : Basis} {input : Option PairInput} {deadline patience : Nat}
    (hlocked : Locked c.stateDir tr) (hunbegun : Unbegun tr) (hgiven : InputOf args tr input)
    (hdirected : ∀ i, input = some i → Directed validateServerBase validateActivationCode c i) :
    (pairGuarded storageError missingOption args basis c input deadline patience).wp
      (Permitted validateServerBase validateActivationCode args) tr fun x tr' => Outcome tr' x := by
  unfold pairGuarded
  refine Op.wp_bind_of (wp_idle (only_existingPairing args c) (existingPairing_spec hlocked)) ?_ ?_
  · rintro s tr₁ ⟨h₁, hstatus⟩
    have hunbegun₁ := hunbegun.grown h₁
    have hlocked₁ := hlocked.grown (h₁.mono calm_of_idle)
    refine Op.wp_ofExcept_bind (fun _ hexisting => ?_) fun e _ => hunbegun₁.outcome e
    refine Op.wp_bind_of
      (wp_idle ((only_confirmReplace args c).mono idle_of_looks) (confirmReplace_spec hlocked₁)) ?_ ?_
    · rintro c' tr₂ ⟨h₂, hconfirmed⟩
      obtain ⟨halike, hreplace⟩ := hconfirmed c' rfl
      have hlocked₂ : Locked c'.stateDir tr₂ := by
        rw [halike.1]
        exact hlocked₁.grown (h₂.mono calm_of_idle)
      refine Op.wp_bind_of
        (wp_idle ((only_checkNewBinding args c').mono idle_of_looks) (checkNewBinding_spec hlocked₂)) ?_ ?_
      · rintro u tr₃ ⟨h₃, hempty⟩
        refine Op.wp_ask_bind trivial fun now => ?_
        have hclock : Grown Call.idle tr₃ (tr₃ ++ [⟨.clock, now⟩]) := grown_push _ _ rfl
        have hafter := h₃.trans hclock
        have hcalm := (h₂.trans hafter).mono calm_of_idle
        have hunbegun₄ := hunbegun₁.grown (h₂.trans hafter)
        split
        · have hprepared : Prepared validateServerBase validateActivationCode args (tr₃ ++ [⟨.clock, now⟩])
              (operationConfig args c') input :=
            prepared (hlocked₁.grown hcalm) hunbegun₄ ((hgiven.grown h₁).grown (h₂.trans hafter)) hdirected
              ((hstatus s rfl).imp_right fun h => h.grown hcalm) hexisting halike
              (fun hmode => ⟨(hreplace hmode).1.grown (hafter.mono calm_of_idle),
                (hreplace hmode).2.1.grown (hafter.mono calm_of_idle), (hreplace hmode).2.2⟩)
              fun hresume hrecover => (hempty u rfl hresume hrecover).grown (hclock.mono calm_of_idle)
          refine (Op.wp_handle _ _).mpr (Op.wp_mono (operation_spec hprepared) fun x tr₅ hdone => ?_)
          cases x with
          | ok v =>
            rcases hdone with hstored | ⟨-, e, heq, -⟩
            · exact .stored hstored
            · cases heq
          | error e => exact attachTransaction_spec hdone
        · exact hunbegun₄.outcome _
      · exact fun e tr₃ h => (hunbegun₁.grown (h₂.trans h.1)).outcome e
    · exact fun e tr₂ h => (hunbegun₁.grown h.1).outcome e
  · exact fun e tr₁ h => (hunbegun.grown h.1).outcome e

/-- The lock is given back at the end. -/
def Concluded (tr : Trace) (x : Except Failure Value) : Prop :=
  ∃ rest, Outcome rest x ∧ (tr = rest ∨ ∃ dir, tr = rest ++ [⟨.release dir, ()⟩])

theorem Unbegun.concluded (h : Unbegun tr) (e : Failure) : Concluded tr (.error e) := ⟨tr, h.outcome e, Or.inl rfl⟩

theorem Unbegun.push (h : Unbegun tr) {call : Call} (r : Reply call) (hstores : call.stores = false)
    (hoperates : call.operates = false) : Unbegun (tr ++ [⟨call, r⟩]) := by
  refine ⟨fun e he => ?_, ?_⟩
  · rcases List.mem_append.mp he with he | he
    · exact h.stored e he
    · cases List.mem_singleton.mp he
      exact hstores
  · rintro ⟨e, he, hbad⟩
    rcases List.mem_append.mp he with he | he
    · exact h.operated ⟨e, he, hbad⟩
    · cases List.mem_singleton.mp he
      rw [hoperates] at hbad
      cases hbad

theorem guarded_spec {body : Script Value} (hunbegun : Unbegun tr)
    (hvalid : Permitted validateServerBase validateActivationCode args tr (.acquire dir))
    (hbody : body.wp (Permitted validateServerBase validateActivationCode args)
      (tr ++ [⟨.acquire dir, (.ok () : Except Failure Unit)⟩]) fun x tr' => Outcome tr' x) :
    (guarded dir body).wp
      (Permitted validateServerBase validateActivationCode args) tr fun x tr' => Concluded tr' x := by
  unfold guarded
  refine Op.wp_ask_bind hvalid fun r => ?_
  cases r with
  | ok u =>
    refine Op.wp_ofExcept_bind (fun _ _ => ?_) fun e h => by cases h
    refine (Op.wp_after _ _).mpr (Op.wp_mono hbody fun x tr' houtcome => ⟨trivial, fun _ => ?_⟩)
    exact ⟨tr', houtcome, Or.inr ⟨dir, rfl⟩⟩
  | error e =>
    refine Op.wp_ofExcept_bind (fun _ h => by cases h) fun e' _ => ?_
    exact (hunbegun.push _ rfl rfl).concluded e'

theorem only_loadOrNew (args : Args) : (loadOrNew args).Only fun c => c.looks = true := by
  unfold loadOrNew
  refine Op.only_bind (Op.only_ask rfl) fun _ => Op.only_bind (Op.only_ofExcept _) fun there => ?_
  split
  · exact Op.only_bind (Op.only_ask rfl) fun _ => Op.only_bind (Op.only_ofExcept _) fun _ => Op.only_pure _
  · exact Op.only_pure _

theorem wp_loadOrNew (args : Args) {P : Trace → Call → Prop} (hP : ∀ tr, P tr .configExists ∧ P tr .load) :
    (loadOrNew args).wp P tr fun _ _ => True := by
  unfold loadOrNew
  refine Op.wp_ask_bind (hP _).1 fun _ => Op.wp_ofExcept_bind (fun there _ => ?_) fun _ _ => trivial
  split
  · exact Op.wp_ask_bind (hP _).2 fun _ => Op.wp_ofExcept_bind (fun _ _ => trivial) fun _ _ => trivial
  · trivial

theorem pairCommand_spec {newConfig : ClientConfig} {patience : Nat} :
    (pairCommand storageError missingOption validateServerBase validateActivationCode args newConfig patience).wp
      (Permitted validateServerBase validateActivationCode args) [] fun x tr' => Concluded tr' x := by
  have hnone : Unbegun [] := ⟨(fun e he => by cases he), fun ⟨e, he, _⟩ => by cases he⟩
  unfold pairCommand
  refine Op.wp_bind_of
    (wp_idle ((only_loadOrNew args).mono idle_of_looks) (wp_loadOrNew args fun _ => ⟨trivial, trivial⟩)) ?_ ?_
  · rintro loaded tr₁ ⟨h₁, -⟩
    unfold pair
    refine Op.wp_ask_bind trivial fun start => Op.wp_ask_bind trivial fun valid => ?_
    have hunbegun : Unbegun (tr₁ ++ [⟨.clock, start⟩] ++ [⟨.validate (loaded.getD newConfig), valid⟩]) :=
      ((hnone.grown h₁).push _ rfl rfl).push _ rfl rfl
    refine Op.wp_ofExcept_bind (fun _ hvalid => ?_) fun e _ => hunbegun.concluded e
    cases mapError_eq_ok hvalid
    split
    · exact hunbegun.concluded _
    · refine Op.wp_bind_of (wp_idle ((only_pairInput args).mono idle_of_looks) pairInput_spec) ?_ ?_
      · rintro input tr₂ ⟨h₂, hinput⟩
        refine Op.wp_ofExcept_bind (fun c hc => ?_) fun e _ => (hunbegun.grown h₂).concluded e
        obtain ⟨hdir, hdirected⟩ := withInput_spec hc
        have hacquired : Unbegun (tr₂ ++ [⟨.acquire c.stateDir, (.ok () : Except Failure Unit)⟩]) :=
          (hunbegun.grown h₂).push _ rfl rfl
        refine guarded_spec (hunbegun.grown h₂) ⟨_, (answered_last _ _ _).grown h₂, hdir.symm⟩ ?_
        refine pairGuarded_spec ⟨[], tr₂, rfl, fun e he => by cases he⟩ hacquired ?_ hdirected
        exact (hinput input rfl).append _
      · exact fun e tr₂ h => (hunbegun.grown h.1).concluded e
  · exact fun e tr₁ h => (hnone.grown h.1).concluded e

def pairArgs : Args := ⟨["pair"], [("--input-stdin", "true")], "json", 60⟩

def newClient : ClientConfig :=
  ⟨"https://xsos.invalid/api/v1/xsoc/report", none, none, none, none, 30, .text "/var/lib/xsoc", none, none, none, none,
    false⟩

def givenInput : PairInput := ⟨"https://xsos.example", "A-CODE"⟩

/-- With the server of the input. -/
def directedClient : ClientConfig :=
  { newClient with endpoint := givenInput.server ++ clientReportPath,
                   pairingEndpoint := some (givenInput.server ++ clientPairingRequestsPath) }

/-- A pairing of a new client, as far as its request. -/
def freshDialogue : Trace :=
  [⟨.configExists, (.ok false : Except Failure Bool)⟩, ⟨.clock, (0 : Nat)⟩,
    ⟨.validate newClient, (.ok () : Except Failure Unit)⟩,
    ⟨.stdinDocument, (.ok givenInput : Except Failure PairInput)⟩,
    ⟨.acquire directedClient.stateDir, (.ok () : Except Failure Unit)⟩,
    ⟨.localStatus directedClient, (.ok ⟨none, none⟩ : Except Error LocalPairingStatus)⟩,
    ⟨.localAuthState directedClient, (.ok none : Except Error (Option CredentialAuthorization))⟩,
    ⟨.queue directedClient, (.ok (.object [("pending_batches", Setup.ofI64 0), ("quarantined", Setup.ofI64 0)]) :
      Except Failure Value)⟩,
    ⟨.clock, (1 : Nat)⟩]

/-- `pair` of a new client. -/
def freshPair : Script Value :=
  pairCommand (fun _ => fail 8 "unsafe_or_corrupt_state") (fun _ => fail 2 "missing_option") .ok
    (fun _ => .ok ()) pairArgs
    newClient 1

/-- **Its result** says what is stored: the binding that the last answer said is active, or that it may have been; else
nothing is, and a failure of a pairing that has gone on names the transaction that is pending. -/
theorem pair_tells_what_is_stored {newConfig : ClientConfig} {patience : Nat} {x : Except Failure Value}
    (h : (pairCommand storageError missingOption validateServerBase validateActivationCode args newConfig
      patience).Reaches tr (.ret x)) : Concluded tr x :=
  Script.of_wp pairCommand_spec h

def freshSession : PairingSession := ⟨.nil, .nil, "https://xsos.example/activate", 600, 5⟩

/-- What is answered then, when the binding becomes active. -/
def pairedDialogue : Trace := freshDialogue ++
  [⟨.start directedClient none .fresh, (.done (.ok freshSession) : Awaited (Except Error PairingSession))⟩,
    ⟨.activate directedClient .nil .nil givenInput.authorizationCode, (.done (.ok ()) : Awaited (Except Error Unit))⟩,
    ⟨.poll directedClient, (.done (.ok (some (.active .nil .nil .nil directedClient.endpoint))) :
      Awaited (Except Error (Option PairingProgress)))⟩,
    ⟨.commitActive (.paired none) directedClient .nil .nil .nil directedClient.endpoint,
      (.ok () : Except Error Unit)⟩,
    ⟨.release directedClient.stateDir, ()⟩]

theorem reaches_pairedDialogue : ∃ v, Script.Reaches freshPair pairedDialogue (.ret (.ok v)) :=
  ⟨_, .of_call <| .of_call <| .of_call <| .of_call <| .of_call <| .of_call <| .of_call <| .of_call <| .of_call <|
    .of_call <| .of_call <| .of_call <| .of_call <| .of_call .refl⟩

theorem pair_tells_what_is_stored_paired : ∃ v, Concluded pairedDialogue (.ok v) := by
  obtain ⟨v, h⟩ := reaches_pairedDialogue
  exact ⟨v, pair_tells_what_is_stored h⟩

end Administration

end Xsoc
