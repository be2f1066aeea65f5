import Xsoc.Durable.Schedule
import Xsoc.Promises

/-!
# Runs that can be computed

A schedule of calls, draws and replies is played to the world it leads to. A draw is checked where it is made: its
generation must not be nil, and must not have been in the journal before.

* `drawable`, `freshInputs_of_drawable` : the check, and that it suffices; `exists_reachFrom` : what is played is
  reached;
* `sampleServer`, `begin`, `poll` : one server, and the schedules of a request and of a poll;
* `rehearsed` : a run in which a request is replaced, paired, and recovered, beside the service.
-/

set_option autoImplicit false

namespace Xsoc

open Durable

/-! ## Draws -/

/-- The generation that the journal names, where it loads. -/
def journalGeneration (d : Disk) : Option Uuid :=
  match loadState d.pairing with
  | .ok (some s) => some s.generation
  | _ => none

/-- The generation drawn is not nil and was not in the journal before. -/
def drawable (h : Chronicle) (i : Inputs) : Bool :=
  !i.generation.isNil &&
    (h.origin :: h.writes.map Write.state).all (fun d => journalGeneration d != some i.generation)

theorem now_mem (h : Chronicle) : h.now ∈ h.origin :: h.writes.map Write.state := by
  obtain ⟨o, ws⟩ := h
  cases ws with
  | nil => exact List.mem_cons_self
  | cons w ws => exact List.mem_cons_of_mem _ List.mem_cons_self

/-- Every moment of a history left one of its states. -/
theorem now_mem_of_le {m h : Chronicle} (hle : m ≤ h) : m.now ∈ h.origin :: h.writes.map Write.state := by
  rcases List.mem_cons.mp (now_mem m) with heq | hmem
  · rw [heq, hle.1]
    exact List.mem_cons_self
  · exact List.mem_cons_of_mem _ ((hle.2.map _).subset hmem)

/-- Every state of a history was left at some moment. -/
theorem exists_le_of_mem {h : Chronicle} {d : Disk} (hd : d ∈ h.origin :: h.writes.map Write.state) :
    ∃ m, m ≤ h ∧ m.now = d := by
  rcases List.mem_cons.mp hd with rfl | hmem
  · exact ⟨⟨h.origin, []⟩, ⟨rfl, List.nil_suffix⟩, rfl⟩
  · obtain ⟨w, hw, rfl⟩ := List.mem_map.mp hmem
    obtain ⟨newer, older, hsplit⟩ := List.append_of_mem hw
    refine ⟨⟨h.origin, w :: older⟩, ⟨rfl, ?_⟩, rfl⟩
    rw [hsplit]
    exact List.suffix_append _ _

theorem freshInputs_of_drawable {h : Chronicle} {i : Inputs} (hd : drawable h i = true) : FreshInputs h i := by
  simp only [drawable, Bool.and_eq_true, Bool.not_eq_true', List.all_eq_true, bne_iff_ne] at hd
  refine ⟨hd.1, ?_⟩
  rintro s ⟨m, hm, hload⟩ hgen
  apply hd.2 _ (now_mem_of_le hm)
  rw [journalGeneration, hload]
  exact congrArg some hgen

/-- A world that a schedule can be played to is reachable. -/
theorem exists_reachFrom (ext : External) (lossy : Chronicle → Prop) (d : Disk) (as : List (Action Call Inputs Reply))
    (P : World Disk Inputs Request Reply Call Answer → Bool)
    (hplay : ((World.idle ⟨d, []⟩).play (program ext) drawable as).any P = true) :
    ∃ w, ReachFrom ext lossy d w ∧ P w = true :=
  exists_reach_of_play (fun _ _ => freshInputs_of_drawable) hplay

/-! ## A server -/

/-- The URL of a path on the one server that there is. -/
def sampleUrl (path : List Char) : Url :=
  ⟨String.ofList ("https://x".toList ++ path), "https", "", none, some "x", some 443, String.ofList path, none, none,
    "https://x"⟩

/-- Sixteen times the same byte. -/
def uuidOf (n : UInt8) : Uuid := ⟨List.replicate 16 n, rfl⟩

/-- A server `x`, and a platform. A reply of one byte creates a request or says that it waits; `[1, n]` says that it is
active as instance `n`. -/
def sampleServer : External where
  url :=
    { parse := fun s => (List.dropPrefix? s.toList "https://x".toList).map sampleUrl
      join := fun _ path => some (sampleUrl path.toList)
      setPath := fun _ path => sampleUrl path.toList
      clearQuery := fun u => u
      clearFragment := fun u => u
      pushSegments := fun u segments =>
        some (sampleUrl (segments.foldl (fun path s => path ++ '/' :: s.toList) u.path.toList)) }
  serde :=
    { rfc3339 := fun _ => ⟨['0'], by decide, by decide⟩
      display := fun _ => "0"
      host := fun _ _ => ['0'] }
  sha256 _ := []
  createResponse body :=
    if body = [0] then some ⟨uuidOf 7, String.ofList ("https://x/activate/".toList ++ (uuidOf 7).text), 600, 5⟩
    else none
  statusResponse body :=
    match body with
    | [2] => some ⟨.waiting, none⟩
    | [1, n] => some ⟨.active, some (uuidOf n)⟩
    | _ => none
  activateResponse _ := none
  errorEnvelope _ := none
  buildClient _ := .ok ()
  os := "o"
  osVersion := none
  kernelVersion := none
  arch := "a"
  clientVersion := "1"

/-- A configuration that asks server `x`. -/
def sampleConfig (replace : Bool) : ClientConfig :=
  ⟨"https://x/r", some "https://x/p", none, none, none, 30, .text "s", none, none, none, none, replace⟩

def sampleHost (id : String) : HostIdentity := ⟨id, "o", none, none, "a", "1"⟩

def sampleInputs (n : UInt8) : Inputs :=
  ⟨0, 0, 0, uuidOf n, ⟨List.replicate 32 n, by simp⟩, ⟨List.replicate 32 n, by simp⟩, uuidOf n, none⟩

/-- HTTP 200 with a JSON body. -/
def jsonReply (body : List UInt8) : Reply := ⟨0, .ok ⟨200, some "application/json", body⟩⟩

/-! ## Schedules -/

/-- A call that begins generation `n` and posts it. -/
def begin_ (pid : Nat) (config : ClientConfig) (host : HostIdentity) (mode : PairMode) (n : UInt8) :
    List (Action Call Inputs Reply) :=
  [.call pid (.startOrResume config host mode), .peek pid, .turn pid (sampleInputs n), .peek pid, .peek pid, .emit pid,
    .reply pid (jsonReply [0]), .turn pid (sampleInputs 99), .ret pid]

/-- The two halves of a poll that is answered by `body`. -/
def ask (pid : Nat) (config : ClientConfig) : List (Action Call Inputs Reply) :=
  [.call pid (.pollExisting config), .turn pid (sampleInputs 99), .peek pid, .emit pid]

def answered (pid : Nat) (body : List UInt8) (turns : Nat) : List (Action Call Inputs Reply) :=
  .reply pid (jsonReply body) :: (List.replicate turns (.turn pid (sampleInputs 99)) ++ [.ret pid])

/-- The `Pending` journal of generation `n`. -/
def samplePending (n : UInt8) : Pending :=
  ⟨.current, uuidOf n, uuidOf 7, "https://x/a", 0, 5, "https://x/p", "https://x/r", randomSecret
    (sampleInputs n).bearer,
    randomSecret (sampleInputs n).polling⟩

/-! ## A rehearsal -/

/-- The token of generation `n`. -/
def sampleToken (n : UInt8) : String := randomSecret (sampleInputs n).bearer

/-- The snapshot of generation `g`, of instance `n`. -/
def sampleSnapshot (g n : UInt8) : ReporterSnapshot :=
  ⟨⟨identityOf (uuidOf n), "https://x/r", sampleToken g, (uuidOf g, uuidOf 7), none, none⟩,
    hostDetails sampleServer (uuidOf n).toString, "https://x/r"⟩

/-- The service as it starts with a snapshot. -/
def sampleDriver (s : ReporterSnapshot) : HostDeliveryDriver :=
  ⟨applyActiveConfig (sampleConfig false) s.reportEndpoint, s.host, s.reporter, none⟩

/-- Request 1 is polled, replaced by request 2 while the poll is out, and request 2 is paired as instance 9. The status
is read, and the service starts. Then request 3 is to recover the identity; another call, for a fresh host, resumes it;
and the server answers that it is instance 30. At last the service turns to the new credential. -/
def rehearsal : List (Action Call Inputs Reply) :=
  begin_ 0 (sampleConfig false) (sampleHost "h") .fresh 1 ++ ask 1 (sampleConfig false) ++
  begin_ 0 (sampleConfig true) (sampleHost "h") .fresh 2 ++ answered 1 [2] 0 ++
  ask 1 (sampleConfig false) ++ answered 1 [1, 9] 1 ++
  [.call 1 .localStatus, .peek 1, .peek 1, .peek 1, .ret 1] ++
  [.call 2 (.prepareReporterTurn (sampleConfig false)), .turn 2 (sampleInputs 99), .ret 2] ++
  begin_ 0 (sampleConfig false) (sampleHost (uuidOf 9).toString) .recoverIdentity 3 ++
  [.call 3 (.startOrResume (sampleConfig false) (sampleHost "h") .fresh), .peek 3, .turn 3 (sampleInputs 99), .ret 3] ++
  ask 1 (sampleConfig false) ++ answered 1 [1, 30] 1 ++
  [.call 2 (.recover (sampleDriver (sampleSnapshot 2 9)).config (uuidOf 2, uuidOf 7)), .turn 2 (sampleInputs 99),
    .ret 2,
    .call 2 (.applyRecovery (sampleDriver (sampleSnapshot 2 9)) (.credential (sampleSnapshot 3 30))), .peek 2, .ret 2]

namespace Rehearsal

abbrev Client : Type := World Disk Inputs Request Reply Call Answer

/-- No call archives. -/
def unarchived (w : Client) : Bool :=
  w.history.writes.all (fun v => match v.author.call with
    | .archiveIncompatibleAccountState => false
    | _ => true)

/-- The journal is `Active`, of generation 3 and instance 30, and the directory is authorized. -/
def recovered (w : Client) : Bool :=
  (match loadState w.history.now.pairing with
    | .ok (some (.active a)) => a.generation = uuidOf 3 && a.instanceId = uuidOf 30
    | _ => false) &&
  (match localAuthStateUnlocked w.history.now.authorization with
    | .ok auth => isAuthorized auth
    | .error _ => false)

/-- The request of generation 3 is created by POSTs of a recovery only. -/
def postedRecovery (w : Client) : Bool :=
  w.history.writes.all (fun v => match loadState v.state.pairing with
    | .ok (some (.pending p)) => p.generation ≠ uuidOf 3 || v.author.transcript.all (fun x => match x.1 with
        | .create _ body => body.mode = .recoverIdentity
        | _ => true)
    | _ => true)

variable (o : Outcome Disk Inputs Request Reply Call Answer)

/-- A call for a fresh host that returns the session of generation 3. -/
def resumesFresh : Bool :=
  match o.call, o.value with
  | .startOrResume _ _ .fresh, .session (.ok s) => s.generation = uuidOf 3
  | _, _ => false

/-- A poll whose reply says that request 1 waits, while request 2 is in the journal. -/
def saysWaiting : Bool :=
  match o.call, o.value with
  | .pollExisting _, .progress (.ok (some (.waiting s))) =>
    s.generation = uuidOf 1 && journalGeneration o.upto.now = some (uuidOf 2) && !o.transcript.isEmpty
  | _, _ => false

/-- A status with an endpoint. -/
def tellsEndpoint : Bool :=
  match o.call, o.value with
  | .localStatus, .status (.ok ⟨_, some _⟩) => true
  | _, _ => false

/-- The start of the service. -/
def starts : Bool :=
  match o.call, o.value with
  | .prepareReporterTurn config, .snapshot (.ok (some s)) => config = sampleConfig false && s = sampleSnapshot 2 9
  | _, _ => false

/-- The probe that finds the recovered credential. -/
def probes : Bool :=
  match o.call, o.value with
  | .recover config revision, .probe (.ok (.credential s)) =>
    config = (sampleDriver (sampleSnapshot 2 9)).config && revision = (uuidOf 2, uuidOf 7) && s = sampleSnapshot 3 30
  | _, _ => false

/-- The step that adopts it. -/
def applies : Bool :=
  match o.call, o.value with
  | .applyRecovery driver (.credential s), .applied driver' (.ok (.renewed _)) =>
    driver = sampleDriver (sampleSnapshot 2 9) && s = sampleSnapshot 3 30 && driver' = sampleDriver
      (sampleSnapshot 3 30)
  | _, _ => false

/-- The service starts, probes, and adopts what it found. -/
def serves (w : Client) : Bool :=
  w.returned.any (fun o₁ => starts o₁ && w.returned.any (fun o₂ => probes o₂ &&
    o₁.upto.writes.length ≤ o₂.since.writes.length && w.returned.any (fun o₃ => applies o₃ &&
      o₂.upto.writes.length ≤ o₃.since.writes.length)))

/-- All of this together. -/
def holds (w : Client) : Bool :=
  unarchived w && recovered w && postedRecovery w && w.returned.any resumesFresh &&
    w.returned.any saysWaiting && w.returned.any tellsEndpoint && serves w

end Rehearsal

/-- The rehearsal goes as it is meant to. -/
theorem rehearsed : ∃ w, ReachFrom sampleServer (fun _ => False) Disk.empty w ∧ Rehearsal.holds w = true :=
  exists_reachFrom sampleServer (fun _ => False) Disk.empty rehearsal Rehearsal.holds (by decide +kernel)

namespace Rehearsal

variable {w : Client}

theorem active_of_recovered (hw : recovered w = true) :
    ∃ a, loadState w.history.now.pairing = .ok (some (.active a)) ∧ a.generation = uuidOf 3 ∧
      a.instanceId = uuidOf 30 := by
  obtain ⟨hactive, -⟩ := (Bool.and_eq_true _ _).mp hw
  split at hactive
  · rename_i a hload
    simp only [Bool.and_eq_true, decide_eq_true_eq] at hactive
    exact ⟨a, hload, hactive⟩
  · cases hactive

theorem eq_of_starts {o : Outcome Disk Inputs Request Reply Call Answer} (ho : starts o = true) :
    o.call = .prepareReporterTurn (sampleConfig false) ∧ o.value = .snapshot (.ok (some (sampleSnapshot 2 9))) := by
  unfold starts at ho
  split at ho
  · rename_i config s hcall hvalue
    simp only [Bool.and_eq_true, decide_eq_true_eq] at ho
    rw [hcall, hvalue, ho.1, ho.2]
    exact ⟨rfl, rfl⟩
  · cases ho

theorem eq_of_saysWaiting {o : Outcome Disk Inputs Request Reply Call Answer} (ho : saysWaiting o = true) :
    ∃ config s, o.call = .pollExisting config ∧ o.value = .progress (.ok (some (.waiting s))) ∧
      s.generation = uuidOf 1 ∧ journalGeneration o.upto.now = some (uuidOf 2) ∧ o.transcript ≠ [] := by
  unfold saysWaiting at ho
  split at ho
  · rename_i config s hcall hvalue
    simp only [Bool.and_eq_true, decide_eq_true_eq, Bool.not_eq_true', List.isEmpty_eq_false_iff] at ho
    exact ⟨config, s, hcall, hvalue, ho.1.1, ho.1.2, ho.2⟩
  · cases ho

theorem eq_of_probes {o : Outcome Disk Inputs Request Reply Call Answer} (ho : probes o = true) :
    o.call = .recover (sampleDriver (sampleSnapshot 2 9)).config (uuidOf 2, uuidOf 7) ∧
      o.value = .probe (.ok (.credential (sampleSnapshot 3 30))) := by
  unfold probes at ho
  split at ho
  · rename_i config revision s hcall hvalue
    simp only [Bool.and_eq_true, decide_eq_true_eq] at ho
    obtain ⟨⟨hconfig, hrevision⟩, hs⟩ := ho
    rw [hcall, hvalue, hconfig, hrevision, hs]
    exact ⟨rfl, rfl⟩
  · cases ho

theorem eq_of_applies {o : Outcome Disk Inputs Request Reply Call Answer} (ho : applies o = true) :
    o.call = .applyRecovery (sampleDriver (sampleSnapshot 2 9)) (.credential (sampleSnapshot 3 30)) ∧
      ∃ r, o.value = .applied (sampleDriver (sampleSnapshot 3 30)) (.ok (.renewed r)) := by
  unfold applies at ho
  split at ho
  · rename_i driver s driver' r hcall hvalue
    simp only [Bool.and_eq_true, decide_eq_true_eq] at ho
    obtain ⟨⟨hdriver, hs⟩, hdriver'⟩ := ho
    rw [hcall, hvalue, hdriver, hs, hdriver']
    exact ⟨rfl, r, rfl⟩
  · cases ho

theorem eq_of_resumesFresh {o : Outcome Disk Inputs Request Reply Call Answer} (ho : resumesFresh o = true) :
    ∃ config host s, o.call = .startOrResume config host .fresh ∧ o.value = .session (.ok s) ∧
      s.generation = uuidOf 3 := by
  unfold resumesFresh at ho
  split at ho
  · rename_i config host s hcall hvalue
    exact ⟨config, host, s, hcall, hvalue, decide_eq_true_eq.mp ho⟩
  · cases ho

/-- Who creates request 3 posts that it recovers. -/
theorem mode_of_postedRecovery (hw : postedRecovery w = true) {v : Write Disk (Author Call Request Reply Inputs)}
    (hv : v ∈ w.history.writes) {p : Pending} (hload : loadState v.state.pairing = .ok (some (.pending p)))
    (hgen : p.generation = uuidOf 3) {endpoint : String} {body : CreatePairingRequest} {reply : Reply}
    (hpost : (.create endpoint body, reply) ∈ v.author.transcript) : body.mode = .recoverIdentity := by
  have hall := List.all_eq_true.mp hw v hv
  rw [hload] at hall
  simp only [hgen, ne_eq, not_true_eq_false, decide_false, Bool.false_or, List.all_eq_true] at hall
  exact decide_eq_true_eq.mp (hall _ hpost)

theorem status_of_tellsEndpoint {o : Outcome Disk Inputs Request Reply Call Answer} (ho : tellsEndpoint o = true) :
    ∃ progress endpoint, o.call = .localStatus ∧ o.value = .status (.ok ⟨progress, some endpoint⟩) := by
  unfold tellsEndpoint at ho
  split at ho
  · rename_i progress endpoint hcall hvalue
    exact ⟨progress, endpoint, hcall, hvalue⟩
  · cases ho

end Rehearsal

/-! ## A recovery -/

/-- A directory of which only the identity, of instance 9, is left. -/
def identifiedDisk : Disk := { Disk.empty with identity := .of (uuidOf 9).text (some (uuidOf 9).toString) }

/-- A call that is to recover the identity, up to where it takes the lock to begin request 3. -/
def recoveryCalled : List (Action Call Inputs Reply) :=
  [.call 0 (.startOrResume (sampleConfig false) (sampleHost (uuidOf 9).toString) .recoverIdentity), .peek 0]

/-- Request 3 is posted, and the server answers that it is instance 30. -/
def recoveryAnswered : List (Action Call Inputs Reply) :=
  [.peek 0, .peek 0, .emit 0, .reply 0 (jsonReply [0]), .turn 0 (sampleInputs 99), .ret 0] ++
  ask 1 (sampleConfig false) ++ answered 1 [1, 30] 1

namespace Recovery

open Rehearsal (Client)

/-- The identity is that of instance 9 when the recovery is called, and it is about to begin a generation. -/
def begins (p : Running Disk Inputs Request Reply Call Answer) (now : Disk) : Bool :=
  (match p.call with
    | .startOrResume _ _ mode => mode = .recoverIdentity
    | _ => false) &&
  p.since.now.identity = .of (uuidOf 9).text (some (uuidOf 9).toString) &&
  (match p.prog with
    | .locked ws _ => (ws (sampleInputs 3) now).head?.any fun d =>
      match loadState d.pairing with
      | .ok (some (.creating c)) => c.generation = uuidOf 3
      | _ => false
    | _ => false)

/-- The recovery can be played, and ends with generation 3 paired as instance 30. -/
def plays : Bool :=
  ((World.idle ⟨identifiedDisk, []⟩ : Client).play (program sampleServer) drawable recoveryCalled).any fun w₀ =>
    (w₀.procs 0).any (begins · w₀.history.now) &&
    (w₀.act (program sampleServer) drawable (.turn 0 (sampleInputs 3))).any fun w₂ =>
      (w₂.play (program sampleServer) drawable recoveryAnswered).any Rehearsal.recovered

theorem plays_eq : plays = true := by decide +kernel

theorem of_begins {p : Running Disk Inputs Request Reply Call Answer} {now : Disk} {ws : Inputs → Disk → List Disk}
    {n : Inputs → Disk → Prog Disk Inputs Request Reply Answer} (hprog : p.prog = .locked ws n)
    (h : begins p now = true) :
    ∃ config host d ds c, p.call = .startOrResume config host .recoverIdentity ∧
      p.since.now.identity = .of (uuidOf 9).text (some (uuidOf 9).toString) ∧ ws (sampleInputs 3) now = d :: ds ∧
      loadState d.pairing = .ok (some (.creating c)) ∧ c.generation = uuidOf 3 := by
  unfold begins at h
  rw [hprog] at h
  simp only [Bool.and_eq_true, decide_eq_true_eq] at h
  obtain ⟨⟨hcall, hsince⟩, hwrites⟩ := h
  obtain ⟨d, hhead, hcreating⟩ := (Option.any_eq_true _ _).mp hwrites
  obtain ⟨ds, hws⟩ := List.head?_eq_some_iff.mp hhead
  split at hcall
  · rename_i config host mode hp
    split at hcreating
    · rename_i c hload
      simp only [decide_eq_true_eq] at hcall hcreating
      subst hcall
      exact ⟨config, host, d, ds, c, hp, hsince, hws, hload, hcreating⟩
    · cases hcreating
  · cases hcall

end Recovery

/-! ## A stalled activation -/

/-- Request 1 is answered by the nil instance. -/
def stall : List (Action Call Inputs Reply) :=
  begin_ 0 (sampleConfig false) (sampleHost "h") .fresh 1 ++ ask 1 (sampleConfig false) ++ answered 1 [1, 0] 1

namespace Stall

open Rehearsal (Client)

/-- The journal is `Activating` for the nil instance. -/
def activatingNil (w : Client) : Bool :=
  match loadState w.history.now.pairing with
  | .ok (some (.activating j)) => j.instanceId.isNil
  | _ => false

/-- There never is an identity. -/
def anonymous (w : Client) : Bool :=
  (w.history.origin :: w.history.writes.map Write.state).all (fun d => d.identity = .absent)

/-- Every request is begun for a fresh host. -/
def allFresh (w : Client) : Bool :=
  w.history.writes.all (fun v => match v.author.call with
    | .startOrResume _ _ mode => mode = .fresh
    | _ => true) &&
  w.returned.all (fun o => match o.call with
    | .startOrResume _ _ mode => mode = .fresh
    | _ => true)

def session (w : Client) : Bool :=
  w.returned.any (fun o => match o.call, o.value with
    | .startOrResume _ _ .fresh, .session (.ok _) => true
    | _, _ => false)

def holds (w : Client) : Bool := activatingNil w && anonymous w && allFresh w && session w

end Stall

theorem stalled : ∃ w, ReachFrom sampleServer (fun _ => False) Disk.empty w ∧ Stall.holds w = true :=
  exists_reachFrom sampleServer (fun _ => False) Disk.empty stall Stall.holds (by decide +kernel)

namespace Stall

variable {w : Rehearsal.Client}

theorem activating_of_holds (hw : holds w = true) :
    ∃ j, loadState w.history.now.pairing = .ok (some (.activating j)) ∧ j.instanceId.isNil = true := by
  simp only [holds, Bool.and_eq_true] at hw
  obtain ⟨⟨⟨hactivating, -⟩, -⟩, -⟩ := hw
  unfold activatingNil at hactivating
  split at hactivating
  · rename_i j hload
    exact ⟨j, hload, hactivating⟩
  · cases hactivating

theorem absent_of_holds (hw : holds w = true) {m : Chronicle} (hm : m ≤ w.history) : m.now.identity = .absent := by
  simp only [holds, Bool.and_eq_true] at hw
  obtain ⟨⟨⟨-, hanonymous⟩, -⟩, -⟩ := hw
  exact decide_eq_true_eq.mp (List.all_eq_true.mp hanonymous _ (now_mem_of_le hm))

theorem fresh_of_holds (hw : holds w = true) {config : ClientConfig} {host : HostIdentity} {mode : PairMode} :
    (∀ v ∈ w.history.writes, v.author.call = .startOrResume config host mode → mode = .fresh) ∧
      ∀ o ∈ w.returned, o.call = .startOrResume config host mode → mode = .fresh := by
  simp only [holds, allFresh, Bool.and_eq_true] at hw
  obtain ⟨⟨-, hwrites, hreturned⟩, -⟩ := hw
  constructor
  · intro v hv hcall
    have hall := List.all_eq_true.mp hwrites v hv
    rw [hcall] at hall
    exact decide_eq_true_eq.mp hall
  · intro o ho hcall
    have hall := List.all_eq_true.mp hreturned o ho
    rw [hcall] at hall
    exact decide_eq_true_eq.mp hall

theorem session_of_holds (hw : holds w = true) :
    ∃ o ∈ w.returned, ∃ config host s, o.call = .startOrResume config host .fresh ∧ o.value = .session (.ok s) := by
  simp only [holds, Bool.and_eq_true] at hw
  obtain ⟨-, hsession⟩ := hw
  obtain ⟨o, ho, hsession⟩ := List.any_eq_true.mp hsession
  split at hsession
  · rename_i config host s hcall hvalue
    exact ⟨o, ho, config, host, s, hcall, hvalue⟩
  · cases hsession

end Stall

end Xsoc
