import Xsoc.Delivery
import Xsoc.Durable.Machine

/-!
# The system

Any number of client processes, the command and the service, share one state directory. `Call` is what a process may
call, `program` what it then runs, `Answer` what it returns.

* `FreshInputs` : generations are version 4 UUIDs, assumed never to repeat;
* `Permit` : what a single durable write may do, and which reply justifies it; every write that any call makes, at
  whatever point it is interrupted, is one of these.
-/

set_option autoImplicit false

namespace Xsoc

open Durable

/-! ## Calls -/

inductive Call
  | startOrResume (config : ClientConfig) (host : HostIdentity) (mode : PairMode)
  | pollExisting (config : ClientConfig)
  | activatePendingWithCode (config : ClientConfig) (generation requestId : Uuid) (activationCode : String)
  | existingReporterForRun (config : ClientConfig)
  | reporterSnapshotForCurrentActiveState (config : ClientConfig)
  | refreshReporterSnapshot (config : ClientConfig) (revision : Revision)
  | activateReporterSnapshot (config : ClientConfig) (generation requestId instanceId : Uuid)
      (reportEndpoint : String)
  | activeCredentialRevision
  | hasCurrentAuthorizedIdentity
  | markReauthRequiredIfCurrent (revision : Revision) (reason : String)
  | archiveIncompatibleAccountState
  | localProgress
  | localStatus
  | prepareReporterTurn (config : ClientConfig)
  | recover (config : ClientConfig) (revision : Revision)
  | applyRecovery (driver : HostDeliveryDriver) (probe : HostRecoveryProbe)
  | classifyFailure (revision : Revision) (error : SendError)

inductive Answer
  | session (r : Except Error PairingSession)
  | progress (r : Except Error (Option PairingProgress))
  | activated (r : Except Error (Option Uuid))
  | snapshot (r : Except Error (Option ReporterSnapshot))
  | reporter (r : Except Error ReporterSnapshot)
  | revision (r : Except Error (Option Revision))
  | flag (r : Except Error Bool)
  | archived (r : Except Error (List String))
  | status (r : Except Error LocalPairingStatus)
  | probe (r : Except Error HostRecoveryProbe)
  | applied (driver : HostDeliveryDriver) (r : Except Error RecoveryUpdate)
  | response (r : DeliveryResponse)

section

variable (ext : External)

/-- What a call runs. -/
def program : Call → Prog Disk Inputs Request Reply Answer
  | .startOrResume config host mode => Prog.bind (startOrResumeWithMode ext config host mode) (.ret <| .session ·)
  | .pollExisting config => Prog.bind (pollExisting ext config) (.ret <| .progress ·)
  | .activatePendingWithCode config generation requestId activationCode =>
    Prog.bind (activatePendingWithCode ext config generation requestId activationCode) (.ret <| .activated ·)
  | .existingReporterForRun config =>
    Prog.bind (transaction (existingReporterForRun ext config)) (.ret <| .snapshot ·)
  | .reporterSnapshotForCurrentActiveState config =>
    Prog.bind (transaction (fun _ => Tx.read (reporterSnapshotForCurrentActiveState ext config))) (.ret <| .snapshot ·)
  | .refreshReporterSnapshot config revision =>
    Prog.bind (transaction (fun _ => Tx.read (refreshReporterSnapshot ext config revision))) (.ret <| .snapshot ·)
  | .activateReporterSnapshot config generation requestId instanceId reportEndpoint =>
    Prog.bind (transaction (fun _ => Tx.read (activateReporterSnapshot ext config generation requestId instanceId
      reportEndpoint))) (.ret <| .reporter ·)
  | .activeCredentialRevision =>
    Prog.bind (transaction (fun _ => Tx.read (activeCredentialRevision ext))) (.ret <| .revision ·)
  | .hasCurrentAuthorizedIdentity =>
    Prog.bind (transaction (fun _ => hasCurrentAuthorizedIdentity)) (.ret <| .flag ·)
  | .markReauthRequiredIfCurrent revision reason =>
    Prog.bind (transaction (markReauthRequiredIfCurrent ext revision reason)) (.ret <| .flag ·)
  | .archiveIncompatibleAccountState =>
    Prog.bind (transaction archiveIncompatibleAccountState) (.ret <| .archived ·)
  | .localProgress => Prog.bind localProgress (.ret <| .progress ·)
  | .localStatus => Prog.bind (localStatus ext) (.ret <| .status ·)
  | .prepareReporterTurn config => Prog.bind (prepareReporterTurn ext config) (.ret <| .snapshot ·)
  | .recover config revision => Prog.bind (HostDeliveryDriver.recover ext config revision) (.ret <| .probe ·)
  | .applyRecovery driver probe =>
    Prog.bind (HostDeliveryDriver.applyRecovery ext driver probe) (fun r => .ret (.applied r.1 r.2))
  | .classifyFailure revision error =>
    Prog.bind (HostDeliveryDriver.classifyFailure ext revision error) (.ret <| .response ·)

/-- The history of the state directory: every write with the call that made it, what it had exchanged with the
server, and the inputs of its transaction. -/
abbrev Chronicle : Type := History Disk (Author Call Request Reply Inputs)

abbrev Writer : Type := Author Call Request Reply Inputs

end

/-! ## What may be written -/

/-- The journal `state` was on disk at some moment up to `h`. -/
def Seen (h : Chronicle) (state : StoredPairingState) : Prop :=
  h.Saw (fun d => loadState d.pairing = .ok (some state))

theorem Seen.mono {h k : Chronicle} {state : StoredPairingState} (hs : Seen h state) (hle : h ≤ k) : Seen k state :=
  History.Saw.mono hs hle

theorem Seen.now {h : Chronicle} {state : StoredPairingState} (hs : loadState h.now.pairing = .ok (some state)) :
    Seen h state := History.Saw.now hs

theorem seen_push {h : Chronicle} {w : Write Disk Writer} {state : StoredPairingState} :
    Seen (h.push w) state ↔ loadState w.state.pairing = .ok (some state) ∨ Seen h state := History.saw_push

/-- From `h` to `k` no generation appeared that was not known before. -/
def SameGenerations (h k : Chronicle) : Prop :=
  ∀ state, Seen k state → ∃ known, Seen h known ∧ known.generation = state.generation

theorem SameGenerations.refl (h : Chronicle) : SameGenerations h h := fun state hs => ⟨state, hs, rfl⟩

theorem SameGenerations.push {h k : Chronicle} (hk : SameGenerations h k) {w : Write Disk Writer}
    (hw : ∀ state, loadState w.state.pairing = .ok (some state) →
      ∃ known, Seen k known ∧ known.generation = state.generation) : SameGenerations h (k.push w) := by
  intro state hs
  rcases seen_push.mp hs with hload | hs
  · obtain ⟨known, hknown, hgen⟩ := hw state hload
    obtain ⟨first, hfirst, hgen'⟩ := hk known hknown
    exact ⟨first, hfirst, hgen'.trans hgen⟩
  · exact hk state hs

/-- A drawn generation is not nil and was never on disk before. -/
structure FreshInputs (h : Chronicle) (i : Inputs) : Prop where
  notNil : i.generation.isNil = false
  fresh : ∀ state, Seen h state → state.generation ≠ i.generation

theorem FreshInputs.of_sameGenerations {h k : Chronicle} {i : Inputs} (hi : FreshInputs h i)
    (hk : SameGenerations h k) : FreshInputs k i where
  notNil := hi.notNil
  fresh := by
    intro state hs
    obtain ⟨known, hknown, hgen⟩ := hk state hs
    rw [← hgen]
    exact hi.fresh known hknown

section

variable (ext : External)

/-- The reply to the POST of journal `c`, in mode `mode`, that `p` was made of. -/
def CreatedBy (tr : List (Request × Reply)) (c : Creating) (mode : PairMode) (p : Pending) : Prop :=
  ∃ now response, (c.request ext mode, ⟨now, .ok response⟩) ∈ tr ∧ acceptCreated ext c now response = .ok p

/-- The poll of request `p`. -/
def Pending.poll (p : Pending) (request : Request) : Prop :=
  ∃ endpoint authorization, pairingStatusEndpoint ext p.pairingEndpoint p.requestId = .ok endpoint ∧
    pairingAuthorization p.pollingSecret = .ok authorization ∧ request = .status endpoint.href authorization

/-- The activation of request `p`. -/
def Pending.activation (p : Pending) (request : Request) : Prop :=
  ∃ endpoint code, activationEndpoint ext p.pairingEndpoint = .ok endpoint ∧
    request = .activate endpoint.href ⟨p.requestId.toString, code⟩

/-- The server answered the poll of `p` with `polled`: HTTP 200, a JSON body that decodes to it. -/
def PolledBy (tr : List (Request × Reply)) (p : Pending) (polled : PairingStatusResponse) : Prop :=
  ∃ request now response, p.poll ext request ∧ (request, ⟨now, .ok response⟩) ∈ tr ∧ response.status = 200 ∧
    pairingResponseContentType response = "application/json" ∧ ext.statusResponse response.body = some polled

/-- The server answered a poll or an activation of `p` with an envelope that says this request is gone. -/
def EndedBy (tr : List (Request × Reply)) (p : Pending) : Prop :=
  ∃ request now response, (p.poll ext request ∨ p.activation ext request) ∧ (request, ⟨now, .ok response⟩) ∈ tr ∧
    EnvelopeEnds ext response p.requestId

/-- What a call may find in place of the journal it is about to replace by a new generation. -/
def Replaceable (config : ClientConfig) (now : DateTime) (d : Disk) : Prop :=
  match loadState d.pairing with
  | .ok (some (.creating _)) => config.replacePendingPairing = true
  | .ok (some (.pending p)) => config.replacePendingPairing = true ∨
      (p.expiresAt ≤ now ∧ pairingEndpointsMatch ext config p.pairingEndpoint p.reportEndpoint = .ok false)
  | .ok (some (.activating _)) => False
  | .ok (some (.active a)) => loadActiveBinding ext.url d.binding = .ok (some a.binding)
  | .ok _ => True
  | .error _ => False

/-- The first `n` files of the commit of `j` are in place, and `j` is the journal. -/
structure Staged (j : Activating) (n : Nat) (d : Disk) : Prop where
  journal : loadState d.pairing = .ok (some (.activating j))
  credential : 1 ≤ n → d.credential = (putCredential j.bearerSecret d).credential
  identity : 2 ≤ n → d.identity = (putIdentity j.instanceId d).identity
  binding : 3 ≤ n → d.binding = j.binding.file
  authorization : 4 ≤ n → ∃ i, d.authorization = (pairingCompleted i).file ext.serde

/-- The commit of `j` is done: `Active` is the journal, and the four other files are those of `j`. -/
structure Committed (j : Activating) (d : Disk) : Prop where
  journal : ∃ t, d.pairing = (StoredPairingState.active (j.active t)).file ext.serde
  credential : d.credential = (putCredential j.bearerSecret d).credential
  identity : d.identity = (putIdentity j.instanceId d).identity
  binding : d.binding = j.binding.file
  authorization : ∃ i, d.authorization = (pairingCompleted i).file ext.serde
  notNil : j.generation.isNil = false
  valid : validateActiveBinding ext.url j.binding = .ok ()
  token : validateCurrentToken j.bearerSecret = .ok ()

/-- The reauthorization of revision `revision` is what the call asks for. -/
def Call.revokes (revision : Revision) : Call → Prop
  | .markReauthRequiredIfCurrent r _ => r = revision
  | .classifyFailure r e => r = revision ∧ e.isUnauthorized = true
  | _ => False

/-- The POST of `c` went out in `mode`: read off the identity file while `c` was known, unless that read failed. -/
def Inferred (lossy : Chronicle → Prop) (h : Chronicle) (c : Creating) (mode : PairMode) : Prop :=
  ∃ m, m ≤ h ∧ Seen m (.creating c) ∧ (mode = modeOf m.now.identity c.host ∨ (lossy m ∧ mode = .fresh))

variable (lossy : Chronicle → Prop)

/-- What one durable write by `a` may make of the directory. -/
inductive Permit (h : Chronicle) (a : Writer) : Disk → Prop
  /-- A new generation. -/
  | created (config : ClientConfig) (host : HostIdentity) (mode : PairMode) (pairingEndpoint : String)
      (hcall : a.call = .startOrResume config host mode)
      (hendpoint : config.pairingEndpointOf ext.url = .ok pairingEndpoint) (hfresh : FreshInputs h a.input)
      (hold : Replaceable ext config a.input.now h.now) :
      Permit h a (putPairing ext.serde (.creating (newCreating config host pairingEndpoint a.input)) h.now)
  /-- The server knows the request. -/
  | pended (c c' : Creating) (mode : PairMode) (p : Pending)
      (hstate : loadState h.now.pairing = .ok (some (.creating c'))) (hseen : Seen h (.creating c))
      (hsame : c'.generation = c.generation ∧ c'.pairingEndpoint = c.pairingEndpoint ∧
        c'.reportEndpoint = c.reportEndpoint ∧ c'.pollingSecret = c.pollingSecret)
      (hmode : Inferred lossy h c mode) (hreply : CreatedBy ext a.transcript c mode p)
      (hvalid : validateEndpoint ext.url p.reportEndpoint = .ok ()) :
      Permit h a (putPairing ext.serde (.pending p) h.now)
  /-- The server says the request is active: the commit journal. -/
  | activated (p p' : Pending) (instanceId : Uuid)
      (hstate : loadState h.now.pairing = .ok (some (.pending p'))) (hseen : Seen h (.pending p))
      (hsame : isCurrentPending (some (.pending p')) p.generation p.requestId p.pairingEndpoint p.reportEndpoint
        p.pollingSecret = true)
      (hreply : PolledBy ext a.transcript p ⟨.active, some instanceId⟩)
      (hvalid : validateEndpoint ext.url p.reportEndpoint = .ok ())
      (hfits : byteLen ((StoredPairingState.activating (p.activating instanceId)).render ext.serde) ≤
        StateFile.maxBytes .pairing) :
      Permit h a (putPairing ext.serde (.activating (p.activating instanceId)) h.now)
  /-- The next file of the commit. -/
  | staged (j : Activating) (n : Nat) (hn : n < 5) (hstaged : Staged ext j n h.now)
      (hvalid : validateActiveBinding ext.url j.binding = .ok ())
      (htoken : validateCurrentToken j.bearerSecret = .ok ()) :
      Permit h a (j.put ext a.input n h.now)
  | denied (p p' : Pending) (t : DateTime)
      (hstate : loadState h.now.pairing = .ok (some (.pending p'))) (hseen : Seen h (.pending p))
      (hsame : isCurrentPending (some (.pending p')) p.generation p.requestId p.pairingEndpoint p.reportEndpoint
        p.pollingSecret = true)
      (hreply : PolledBy ext a.transcript p ⟨.denied, none⟩) :
      Permit h a (putPairing ext.serde (.denied (p.ended t)) h.now)
  | expired (p p' : Pending) (t : DateTime)
      (hstate : loadState h.now.pairing = .ok (some (.pending p'))) (hseen : Seen h (.pending p))
      (hsame : isCurrentPending (some (.pending p')) p.generation p.requestId p.pairingEndpoint p.reportEndpoint
        p.pollingSecret = true)
      (hreply : PolledBy ext a.transcript p ⟨.expired, none⟩ ∨ EndedBy ext a.transcript p) :
      Permit h a (putPairing ext.serde (.expired (p.ended t)) h.now)
  /-- The credential of the bound revision is withdrawn. -/
  | revoked (b : ActiveBinding) (reason : String) (hbound : HostCredentials.binding ext.url h.now = .ok (some b))
      (hcall : a.call.revokes b.revision) :
      Permit h a (putAuth ext.serde ⟨.current, .reauthorizationRequired, reason, a.input.changedAt⟩ h.now)
  | archived (copy : String × List UInt8) (hcall : a.call = .archiveIncompatibleAccountState) :
      Permit h a { h.now with archives := copy :: h.now.archives }
  | cleared (file : StateFile) (hcall : a.call = .archiveIncompatibleAccountState)
      (hfirst : file ≠ .pairing → h.now.pairing = .absent) (hfile : file ≠ .identity) :
      Permit h a (h.now.clear file)

/-! ## What may be sent -/

/-- A POST is about a journal that is durable already. -/
inductive Emitted (h : Chronicle) : Request → Prop
  | create (c : Creating) (mode : PairMode) (hseen : Seen h (.creating c)) (hmode : Inferred lossy h c mode) :
      Emitted h (c.request ext mode)
  | status (p : Pending) (request : Request) (hseen : Seen h (.pending p)) (hpoll : p.poll ext request) :
      Emitted h request
  | activate (p : Pending) (request : Request) (hseen : Seen h (.pending p)) (hpost : p.activation ext request) :
      Emitted h request

/-- The writes of a history that are permitted. -/
def permits (h : Chronicle) (w : Write Disk Writer) : Prop := Permit ext lossy h w.author w.state

/-- What every process of the client keeps to, from a directory that satisfies `init`. -/
def guarantee (init : Disk → Prop) : Guarantee Disk Call Request Reply Inputs where
  init := init
  draw := FreshInputs
  lossy := lossy
  permit := permits ext lossy
  emit _ _ h request := Emitted ext lossy h request

end

end Xsoc
