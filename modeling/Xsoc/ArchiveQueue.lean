import Xsoc.Faults.Act
import Xsoc.Json
import Xsoc.Pairing.Credentials

/-!
# The archive of a queue

When the server has lost its state, the reports that wait for it are put away: the spool is moved into a directory of
its own, and a manifest is written next to it. Where the manifest cannot be written, the spool is moved back.

* `World`, `Fault` : the directories, and how far a call got that failed;
* `queue`, `ensurePrivateDirectory`, `archiveQueue` : the code;
* `prepare_eq_ok` : when the command gets as far as to move the spool; `prepare_keeps` : it has changed nothing by then;
* `archive_eq_ok`, `archive_fails` : how the command ends from there;
* `archive_atomic_iff` : the command has archived the queue or has left it, unless the manifest fails and the spool does
  not move back, or the manifest is complete by then.
-/

set_option autoImplicit false

namespace Xsoc

namespace ArchiveQueue

open Faults

/-! ## The world -/

/-- What is under a path: a link or a file is no directory. -/
inductive Place (α : Type)
  | missing
  | other
  | directory (content : α)
  deriving DecidableEq

/-- The directories that are made for archives. -/
inductive Dir
  | retired
  | host (hostId : String)
  | archive (hostId archiveId : String)
  deriving DecidableEq

/-- What is under the state directory. -/
structure World (Content : Type) where
  spool : Place Content
  identity : File (Option String)
  kind : Dir → Place Unit
  /-- The `spool` of an archive, by its host and its name. -/
  archivedSpool : String × String → Option Content
  /-- The `manifest.json` of an archive. -/
  manifest : String × String → Option (List UInt8)

inductive Call
  | inspect
  | spoolMetadata
  | metadata (dir : Dir)
  | create (dir : Dir)
  | permissions (dir : Dir)
  | rename
  | openManifest
  | writeManifest
  | newline
  | sync
  | renameBack
  | removeDir
  deriving DecidableEq

/-- How a call fails, and how many bytes it had written by then. -/
structure Fault where
  error : IoError
  written : Nat

abbrev Faults := Plan Call Fault

/-- `ClientHealth`, as far as it is counted. -/
structure Health where
  spoolEntries : Nat
  spoolBytes : Nat
  quarantinedEntries : Nat
  identityMismatchEntries : Nat
  healthy : Bool
  deriving DecidableEq

inductive InspectError
  | notFound
  | other
  deriving DecidableEq

/-- The runtime, which counts the records of a spool. -/
structure Platform (Content : Type) where
  inspect : Content → Except InspectError Health

inductive Failure
  | fail (exit : Nat) (code : String) (detail : Option String)
  /-- `storage_error` -/
  | storage (error : Error)

/-! ## The manifest -/

/-- What `queue` returns. Nothing is said of identities where there is no spool. -/
structure Snapshot where
  pendingBatches : Nat
  bytes : Nat
  quarantined : Nat
  identityMismatch : Option Nat
  healthy : Bool
  deriving DecidableEq

structure Manifest where
  reason : String
  hostId : String
  archivedAt : String
  queue : Snapshot
  deriving DecidableEq

def boolText (b : Bool) : List Char := if b then "true".toList else "false".toList

/-- An object, by its fields. The keys are in their order. -/
def Snapshot.text (s : Snapshot) : List Char :=
  Json.prettyObject ([("bytes", Json.number s.bytes), ("healthy", boolText s.healthy)] ++
    (s.identityMismatch.map fun n => ("identity_mismatch", Json.number n)).toList ++
    [("pending_batches", Json.number s.pendingBatches), ("quarantined", Json.number s.quarantined)])

/-- A document within another one: each of its lines is set in. -/
def setIn (text : List Char) : List Char := text.flatMap fun c => if c = '\n' then "\n  ".toList else [c]

/-- What `serde_json::to_writer_pretty` writes. -/
def Manifest.text (m : Manifest) : List UInt8 :=
  utf8 (Json.prettyObject [("archived_at", Json.text m.archivedAt), ("format", Json.number 1),
    ("host_id", Json.text m.hostId), ("queue", setIn m.queue.text), ("reason", Json.text m.reason)])

/-! ## The command -/

/-- The arguments, and what the command makes up: the name of the archive, and the time. -/
structure Command where
  reason : String
  archiveId : String
  archivedAt : String

structure Archived where
  hostId : String
  archiveId : String
  queue : Snapshot
  deriving DecidableEq

section

variable {Content : Type} (f : Faults) (platform : Platform Content)

/-- A call that only asks. -/
def call (c : Call) : Act (World Content) Failure Unit :=
  match f.fault c with
  | some fault => Act.throw (.storage (.io fault.error))
  | none => pure ()

/-- A call that changes the world, unless it fails. -/
def effect (c : Call) (change : World Content → World Content) : Act (World Content) Failure Unit := do
  call f c
  Act.modify change

/-- `spool::inspect_existing` -/
def inspectExisting (spool : Place Content) : Except InspectError Health :=
  match spool with
  | .missing => .error .notFound
  | .other => .error .other
  | .directory content => platform.inspect content

def incompatible : Failure := .fail 10 "important_state_incompatible" (some "artifact=spool;preserved=true")

def snapshotOf (health : Health) : Snapshot :=
  ⟨health.spoolEntries, health.spoolBytes, health.quarantinedEntries, some health.identityMismatchEntries,
    health.healthy⟩

/-- `queue` -/
def queue : Act (World Content) Failure Snapshot := fun w =>
  match f.fault .inspect with
  | some _ => (.error incompatible, w)
  | none =>
    match inspectExisting platform w.spool with
    | .ok health => (.ok (snapshotOf health), w)
    | .error .notFound => (.ok ⟨0, 0, 0, none, true⟩, w)
    | .error .other => (.error incompatible, w)

def World.make (dir : Dir) (w : World Content) : World Content :=
  { w with kind := Function.update w.kind dir (.directory ()) }

/-- `ensure_private_directory` -/
def ensurePrivateDirectory (dir : Dir) : Act (World Content) Failure Unit := do
  call f (.metadata dir)
  let kind ← Act.gets fun w => w.kind dir
  match kind with
  | .other => Act.throw (.storage (.io (.refused .invalidData)))
  | .directory _ => call f (.permissions dir)
  | .missing => do
    effect f (.create dir) (World.make dir)
    call f (.permissions dir)

/-- The start of `archive_queue`, until the spool is moved. -/
def prepare (c : Command) : Act (World Content) Failure (Snapshot × String) := do
  Act.ensure (fun _ => decide (c.reason = "server-state-lost")) (.fail 2 "unsupported_archive_reason" none)
  let snapshot ← queue f platform
  Act.ensure (fun _ => decide ¬ (snapshot.pendingBatches = 0 ∧ snapshot.quarantined = 0)) (.fail 4 "queue_empty" none)
  let file ← Act.gets World.identity
  let identity ← Act.ofExcept ((identityFromState file).mapError Failure.storage)
  call f .spoolMetadata
  Act.ensure (fun w => match w.spool with | .directory _ => true | _ => false) (.fail 8 "unsafe_or_corrupt_state" none)
  ensurePrivateDirectory f .retired
  ensurePrivateDirectory f (.host identity.instanceId)
  ensurePrivateDirectory f (.archive identity.instanceId c.archiveId)
  pure (snapshot, identity.instanceId)

/-- The spool, under its place in an archive. A place that is taken, and a spool that is not there, refuse it. -/
def moveSpool (archive : String × String) : Act (World Content) Failure Unit := fun w =>
  match f.fault .rename, w.spool, w.archivedSpool archive with
  | none, .directory content, none =>
    (.ok (), { w with spool := .missing, archivedSpool := Function.update w.archivedSpool archive (some content) })
  | some fault, _, _ => (.error (.storage (.io fault.error)), w)
  | none, .missing, _ => (.error (.storage (.io .notFound)), w)
  | none, _, _ => (.error (.storage (.io .alreadyExists)), w)

/-- `rename(&archived_spool, &spool)` -/
def moveBack (archive : String × String) : Act (World Content) Failure Unit := fun w =>
  match f.fault .renameBack, w.spool, w.archivedSpool archive with
  | none, .missing, some content =>
    (.ok (), { w with spool := .directory content, archivedSpool := Function.update w.archivedSpool archive none })
  | some fault, _, _ => (.error (.storage (.io fault.error)), w)
  | none, _, none => (.error (.storage (.io .notFound)), w)
  | none, _, _ => (.error (.storage (.io .alreadyExists)), w)

def World.setManifest (archive : String × String) (bytes : List UInt8) (w : World Content) : World Content :=
  { w with manifest := Function.update w.manifest archive (some bytes) }

/-- The manifest is written piece by piece: a write that fails leaves what was written by then. -/
def writeManifest (archive : String × String) (text : List UInt8) : Act (World Content) Failure Unit := do
  call f .openManifest
  Act.ensure (fun w => (w.manifest archive).isNone) (.storage (.io .alreadyExists))
  Act.modify (World.setManifest archive [])
  match f.fault .writeManifest with
  | some fault => do
    Act.modify (World.setManifest archive (text.take fault.written))
    Act.throw (.storage (.io fault.error))
  | none => do
    Act.modify (World.setManifest archive text)
    effect f .newline (World.setManifest archive (text ++ [10]))
    call f .sync

/-- `remove_dir`, which removes a directory that is empty. -/
def removeDir (archive : String × String) : Act (World Content) Failure Unit := do
  call f .removeDir
  Act.ensure (fun w => (w.archivedSpool archive).isNone && (w.manifest archive).isNone)
    (.storage (.io (.refused .other)))
  Act.modify fun w => { w with kind := Function.update w.kind (.archive archive.1 archive.2) .missing }

/-- `archive_queue` -/
def archiveQueue (c : Command) : Act (World Content) Failure Archived := do
  let (snapshot, hostId) ← prepare f platform c
  let archive := (hostId, c.archiveId)
  moveSpool f archive
  let manifest : Manifest := ⟨c.reason, hostId, c.archivedAt, snapshot⟩
  let result ← Act.attempt (writeManifest f archive manifest.text)
  match result with
  | .error e => do
    let _ ← Act.attempt (moveBack f archive)
    let _ ← Act.attempt (removeDir f archive)
    Act.throw e
  | .ok () => pure ⟨hostId, c.archiveId, snapshot⟩

end

/-! ## Until the spool is moved -/

section

variable {Content : Type} {f : Faults} {platform : Platform Content} {c : Command} {w : World Content}

/-- The queue and the archives are as they were; directories may have been made. -/
structure Untouched (w w' : World Content) : Prop where
  spool : w'.spool = w.spool
  identity : w'.identity = w.identity
  archivedSpool : w'.archivedSpool = w.archivedSpool
  manifest : w'.manifest = w.manifest

theorem Untouched.refl (w : World Content) : Untouched w w := ⟨rfl, rfl, rfl, rfl⟩

theorem Untouched.trans {w₁ w₂ : World Content} (h : Untouched w w₁) (h' : Untouched w₁ w₂) : Untouched w w₂ :=
  ⟨h'.spool.trans h.spool, h'.identity.trans h.identity, h'.archivedSpool.trans h.archivedSpool,
    h'.manifest.trans h.manifest⟩

@[simp] theorem wp_call (call : Call) (Q : Except Failure Unit → World Content → Prop) :
    Act.wp (ArchiveQueue.call f call) Q w ↔
      match f [call] with
      | none => Q (.ok ()) w
      | some fault => Q (.error (.storage (.io fault.error))) w := by
  unfold ArchiveQueue.call Plan.fault
  cases f [call] <;> rfl

theorem reads_call (call : Call) : Act.Reads (@ArchiveQueue.call Content f call) := by
  intro w
  unfold ArchiveQueue.call
  cases f.fault call <;> rfl

theorem call_eq_ok {call : Call} {u : Unit} : (ArchiveQueue.call f call w).1 = .ok u ↔ f [call] = none := by
  show Act.wp (ArchiveQueue.call f call) (fun r _ => r = .ok u) w ↔ _
  rw [wp_call]
  cases f [call] <;> simp

theorem reads_queue : Act.Reads (queue f platform) := by
  intro w
  unfold queue
  split
  · rfl
  · split <;> rfl

/-- The calls that make sure of a directory. -/
def directoryCalls (w : World Content) (dir : Dir) : List (List Call) :=
  [[.metadata dir]] ++ (if w.kind dir = .missing then [[.create dir]] else []) ++ [[.permissions dir]]

/-- A directory is there or is made. -/
structure Usable (f : Faults) (w : World Content) (dir : Dir) : Prop where
  physical : w.kind dir ≠ .other
  clear : f.Clear (directoryCalls w dir)

theorem usable_iff {dir : Dir} : Usable f w dir ↔ w.kind dir ≠ .other ∧ f.Clear (directoryCalls w dir) :=
  ⟨fun h => ⟨h.physical, h.clear⟩, fun h => ⟨h.1, h.2⟩⟩

theorem ensurePrivateDirectory_eq_ok {dir : Dir} {u : Unit} :
    (ensurePrivateDirectory f dir w).1 = .ok u ↔ Usable f w dir := by
  show Act.wp (ensurePrivateDirectory f dir) (fun r _ => r = .ok u) w ↔ _
  rw [usable_iff]
  unfold ensurePrivateDirectory directoryCalls
  cases hmetadata : f [.metadata dir] with
  | some fault => simp [hmetadata]
  | none =>
    cases hkind : w.kind dir with
    | other => simp [hmetadata, hkind]
    | directory content =>
      cases hpermissions : f [.permissions dir] <;> simp [hmetadata, hkind, hpermissions]
    | missing =>
      cases hcreate : f [.create dir] <;> cases hpermissions : f [.permissions dir] <;>
        simp [effect, hmetadata, hkind, hcreate, hpermissions]

/-- Nothing is touched but this directory. -/
theorem ensurePrivateDirectory_frame (dir : Dir) (w : World Content) :
    Untouched w (ensurePrivateDirectory f dir w).2 ∧
      ∀ d, d ≠ dir → (ensurePrivateDirectory f dir w).2.kind d = w.kind d := by
  show Act.wp (ensurePrivateDirectory f dir) (fun _ w' => Untouched w w' ∧ ∀ d, d ≠ dir → w'.kind d = w.kind d) w
  have hsame : Untouched w w ∧ ∀ d, d ≠ dir → w.kind d = w.kind d := ⟨Untouched.refl w, fun _ _ => rfl⟩
  have hmade : Untouched w (w.make dir) ∧ ∀ d, d ≠ dir → (w.make dir).kind d = w.kind d :=
    ⟨⟨rfl, rfl, rfl, rfl⟩, fun d hd => Function.update_of_ne hd _ _⟩
  unfold ensurePrivateDirectory
  cases hmetadata : f [.metadata dir] with
  | some fault => simpa [hmetadata] using hsame
  | none =>
    cases hkind : w.kind dir with
    | other => simpa [hmetadata, hkind] using hsame
    | directory content =>
      cases hpermissions : f [.permissions dir] <;> simpa [hmetadata, hkind, hpermissions] using hsame
    | missing =>
      cases hcreate : f [.create dir] with
      | some fault => simpa [effect, hmetadata, hkind, hcreate] using hsame
      | none =>
        cases hpermissions : f [.permissions dir] <;>
          simpa [effect, hmetadata, hkind, hcreate, hpermissions] using hmade

/-- The command gets as far as to move the spool: there is something to archive, and a place for it. -/
structure Prepares (f : Faults) (platform : Platform Content) (c : Command) (w : World Content) (content : Content)
    (health : Health) (identity : ClientIdentity) : Prop where
  reason : c.reason = "server-state-lost"
  spool : w.spool = .directory content
  counted : platform.inspect content = .ok health
  waiting : ¬ (health.spoolEntries = 0 ∧ health.quarantinedEntries = 0)
  identified : identityFromState w.identity = .ok identity
  asked : f.Clear [[.inspect], [.spoolMetadata]]
  retired : Usable f w .retired
  host : Usable f w (.host identity.instanceId)
  archive : Usable f w (.archive identity.instanceId c.archiveId)

theorem queue_eq_ok {snapshot : Snapshot} (hwaiting : ¬ (snapshot.pendingBatches = 0 ∧ snapshot.quarantined = 0)) :
    (queue f platform w).1 = .ok snapshot ↔ f [.inspect] = none ∧ ∃ content health,
      w.spool = .directory content ∧ platform.inspect content = .ok health ∧ snapshot = snapshotOf health := by
  unfold queue Plan.fault
  cases hinspect : f [.inspect] with
  | some fault => simp
  | none =>
    have hempty : (⟨0, 0, 0, none, true⟩ : Snapshot) ≠ snapshot := by
      rintro rfl
      exact hwaiting ⟨rfl, rfl⟩
    cases hspool : w.spool with
    | missing => simp [inspectExisting, hempty]
    | other => simp [inspectExisting]
    | directory content =>
      cases hcount : platform.inspect content with
      | ok health => simp [inspectExisting, hcount, eq_comm]
      | error e => cases e <;> simp [inspectExisting, hcount, hempty]

theorem usable_congr {dir : Dir} {w' : World Content} (hkind : w'.kind dir = w.kind dir) :
    Usable f w' dir ↔ Usable f w dir := by
  rw [usable_iff, usable_iff, directoryCalls, directoryCalls, hkind]

/-- Three directories, of which none is another one. -/
theorem directories_eq_ok {hostId archiveId : String} {α : Type} {a b : α} :
    ((do
      ensurePrivateDirectory f .retired
      ensurePrivateDirectory f (.host hostId)
      ensurePrivateDirectory f (.archive hostId archiveId)
      pure a : Act (World Content) Failure α) w).1 = .ok b ↔
      Usable f w .retired ∧ Usable f w (.host hostId) ∧ Usable f w (.archive hostId archiveId) ∧ a = b := by
  have hretired := (@ensurePrivateDirectory_frame _ f .retired w).2
  have hhost := (@ensurePrivateDirectory_frame _ f (.host hostId) (ensurePrivateDirectory f .retired w).2).2
  simp only [Act.bind_eq_ok, ensurePrivateDirectory_eq_ok, exists_const, Act.pure_eq_ok]
  rw [usable_congr (hretired (.host hostId) (by simp)),
    usable_congr ((hhost (.archive hostId archiveId) (by simp)).trans (hretired _ (by simp)))]

/-- When the command gets as far as to move the spool. -/
theorem prepare_eq_ok {snapshot : Snapshot} {hostId : String} :
    (prepare f platform c w).1 = .ok (snapshot, hostId) ↔ ∃ content health identity,
      Prepares f platform c w content health identity ∧ snapshot = snapshotOf health ∧
        hostId = identity.instanceId := by
  unfold prepare
  rw [(Act.reads_ensure _ _).bind_eq_ok]
  constructor
  · rintro ⟨_, hreason, h⟩
    obtain ⟨queued, hqueue, h⟩ := reads_queue.bind_eq_ok.mp h
    obtain ⟨_, hwaiting, h⟩ := (Act.reads_ensure _ _).bind_eq_ok.mp h
    obtain ⟨file, hfile, h⟩ := (Act.reads_gets _).bind_eq_ok.mp h
    obtain ⟨identity, hidentity, h⟩ := (Act.reads_ofExcept _).bind_eq_ok.mp h
    obtain ⟨_, hmetadata, h⟩ := (reads_call _).bind_eq_ok.mp h
    obtain ⟨_, hdirectory, h⟩ := (Act.reads_ensure _ _).bind_eq_ok.mp h
    obtain ⟨hretired, hhost, harchive, heq⟩ := directories_eq_ok.mp h
    rw [Act.ensure_eq_ok, decide_eq_true_eq] at hreason hwaiting
    obtain ⟨hinspect, content, health, hspool, hcount, rfl⟩ := (queue_eq_ok hwaiting).mp hqueue
    rw [Act.gets_eq_ok] at hfile
    subst hfile
    cases hload : identityFromState w.identity with
    | error e =>
      rw [Act.ofExcept_eq_ok, hload] at hidentity
      cases hidentity
    | ok found =>
      rw [Act.ofExcept_eq_ok, hload] at hidentity
      cases hidentity
      cases heq
      exact ⟨content, health, identity, ⟨hreason, hspool, hcount, hwaiting, hload,
        by simpa using ⟨hinspect, call_eq_ok.mp hmetadata⟩, hretired, hhost, harchive⟩, rfl, rfl⟩
  · rintro ⟨content, health, identity, h, rfl, rfl⟩
    have hasked : f [.inspect] = none ∧ f [.spoolMetadata] = none := by simpa using h.asked
    refine ⟨(), by simpa using h.reason, ?_⟩
    refine reads_queue.bind_eq_ok.mpr ⟨snapshotOf health, (queue_eq_ok h.waiting).mpr
      ⟨hasked.1, content, health, h.spool, h.counted, rfl⟩, ?_⟩
    refine (Act.reads_ensure _ _).bind_eq_ok.mpr ⟨(), Act.ensure_eq_ok.mpr (decide_eq_true h.waiting), ?_⟩
    refine (Act.reads_gets _).bind_eq_ok.mpr ⟨w.identity, Act.gets_eq_ok.mpr rfl, ?_⟩
    refine (Act.reads_ofExcept _).bind_eq_ok.mpr ⟨identity, ?_, ?_⟩
    · rw [Act.ofExcept_eq_ok, h.identified]
      rfl
    refine (reads_call _).bind_eq_ok.mpr ⟨(), call_eq_ok.mpr hasked.2, ?_⟩
    refine (Act.reads_ensure _ _).bind_eq_ok.mpr ⟨(), ?_, ?_⟩
    · rw [Act.ensure_eq_ok, h.spool]
    · exact directories_eq_ok.mpr ⟨h.retired, h.host, h.archive, rfl⟩

/-- Until the spool is moved, nothing is touched, wherever the command fails. -/
theorem prepare_keeps (w₀ : World Content) : Act.Keeps (Untouched w₀) (prepare f platform c) := by
  have hensure (dir : Dir) : Act.Keeps (Untouched w₀) (ensurePrivateDirectory f dir) :=
    fun w hw => hw.trans (ensurePrivateDirectory_frame dir w).1
  unfold prepare
  refine (Act.reads_ensure _ _).keeps.bind fun _ => reads_queue.keeps.bind fun _ =>
    (Act.reads_ensure _ _).keeps.bind fun _ => (Act.reads_gets _).keeps.bind fun _ =>
    (Act.reads_ofExcept _).keeps.bind fun _ => (reads_call _).keeps.bind fun _ =>
    (Act.reads_ensure _ _).keeps.bind fun _ => (hensure _).bind fun _ => (hensure _).bind fun _ =>
    (hensure _).bind fun _ => (Act.reads_pure _).keeps

/-! ## From there on -/

/-- The calls that write the manifest. -/
def writeCalls : List (List Call) := [[.openManifest], [.writeManifest], [.newline], [.sync]]

/-- What is under the path of the manifest after it was written, or was not. -/
def leftBy (f : Faults) (text : List UInt8) : Option (List UInt8) :=
  match f [.openManifest], f [.writeManifest], f [.newline] with
  | some _, _, _ => none
  | none, some fault, _ => some (text.take fault.written)
  | none, none, some _ => some text
  | none, none, none => some (text ++ [10])

/-- The manifest, with this content or none. -/
def World.withManifest (archive : String × String) (content : Option (List UInt8)) (w : World Content) :
    World Content :=
  { w with manifest := Function.update w.manifest archive content }

theorem wp_writeManifest {archive : String × String} {text : List UInt8} (hnone : w.manifest archive = none) :
    Act.wp (writeManifest f archive text) (fun r w' => (r = .ok () ↔ f.Clear writeCalls) ∧
      w' = w.withManifest archive (leftBy f text)) w := by
  have hset (bytes bytes' : List UInt8) (w : World Content) :
      (w.setManifest archive bytes).setManifest archive bytes' = w.withManifest archive (some bytes') := by
    simp [World.setManifest, World.withManifest]
  have hsame : w = w.withManifest archive none := by
    rw [World.withManifest, ← hnone, Function.update_eq_self]
  unfold writeManifest leftBy writeCalls
  cases hopen : f [.openManifest] with
  | some fault => simpa [hopen] using hsame
  | none =>
    cases hwrite : f [.writeManifest] with
    | some fault => simp [hopen, hnone, hwrite, Plan.fault, hset]
    | none =>
      cases hnewline : f [.newline] with
      | some fault => simp [hopen, hnone, hwrite, hnewline, effect, Plan.fault, hset]
      | none =>
        cases hsync : f [.sync] <;>
          simp [hopen, hnone, hwrite, hnewline, hsync, effect, Plan.fault, World.setManifest, World.withManifest]

theorem removeDir_keeps (archive : String × String) (w₀ : World Content) :
    Act.Keeps (Untouched w₀) (removeDir f archive) := by
  unfold removeDir
  refine (reads_call _).keeps.bind fun _ => (Act.reads_ensure _ _).keeps.bind fun _ => Act.keeps_modify fun w hw => ?_
  exact hw.trans ⟨rfl, rfl, rfl, rfl⟩

theorem moveSpool_eq {archive : String × String} {content : Content} (hspool : w.spool = .directory content)
    (htaken : w.archivedSpool archive = none) (hrename : f [.rename] = none) :
    moveSpool f archive w = (.ok (), { w with
      spool := .missing, archivedSpool := Function.update w.archivedSpool archive (some content) }) := by
  simp [moveSpool, Plan.fault, hspool, htaken, hrename]

theorem moveSpool_fails {archive : String × String} (hrename : f [.rename] ≠ none) :
    ∃ e, moveSpool f archive w = (.error e, w) := by
  obtain ⟨fault, hfault⟩ := Option.ne_none_iff_exists'.mp hrename
  exact ⟨.storage (.io fault.error), by simp [moveSpool, Plan.fault, hfault]⟩

/-- The spool is back unless the way back fails. -/
theorem spool_moveBack {archive : String × String} {content : Content} (hspool : w.spool = .missing)
    (hthere : w.archivedSpool archive = some content) :
    (moveBack f archive w).2.spool = (if f [.renameBack] = none then .directory content else .missing) ∧
      (moveBack f archive w).2.manifest = w.manifest := by
  unfold moveBack Plan.fault
  cases hback : f [.renameBack] <;> simp [hspool, hthere]

/-- What the archive of a queue says of it. -/
def manifestOf (c : Command) (identity : ClientIdentity) (health : Health) : Manifest :=
  ⟨c.reason, identity.instanceId, c.archivedAt, snapshotOf health⟩

/-- The name of the archive is new, as random names are. -/
structure Fresh (c : Command) (w : World Content) : Prop where
  spool : ∀ hostId, w.archivedSpool (hostId, c.archiveId) = none
  manifest : ∀ hostId, w.manifest (hostId, c.archiveId) = none

/-- The world when the spool is moved. -/
theorem prepared_eq {content : Content} {health : Health} {identity : ClientIdentity}
    (h : Prepares f platform c w content health identity) :
    ∃ w₁, prepare f platform c w = (.ok (snapshotOf health, identity.instanceId), w₁) ∧ Untouched w w₁ :=
  ⟨_, Prod.ext (prepare_eq_ok.mpr ⟨content, health, identity, h, rfl, rfl⟩) rfl,
    prepare_keeps w w (Untouched.refl w)⟩

section

variable {content : Content} {health : Health} {identity : ClientIdentity}

theorem archiveQueue_rename_fails (h : Prepares f platform c w content health identity)
    (hrename : f [.rename] ≠ none) : ∃ e w', archiveQueue f platform c w = (.error e, w') ∧ Untouched w w' := by
  obtain ⟨w₁, hprepare, hw₁⟩ := prepared_eq h
  obtain ⟨e, hmove⟩ := @moveSpool_fails _ f w₁ (identity.instanceId, c.archiveId) hrename
  refine ⟨e, w₁, ?_, hw₁⟩
  unfold archiveQueue
  rw [Act.bind_of_ok hprepare]
  exact Act.bind_of_error hmove

/-- How the command ends once the spool is moved. -/
theorem archiveQueue_of_moved (hfresh : Fresh c w) (h : Prepares f platform c w content health identity)
    (hrename : f [.rename] = none) :
    (f.Clear writeCalls → ∃ w', archiveQueue f platform c w =
        (.ok ⟨identity.instanceId, c.archiveId, snapshotOf health⟩, w') ∧ w'.spool = .missing ∧
        w'.archivedSpool (identity.instanceId, c.archiveId) = some content ∧
        w'.manifest (identity.instanceId, c.archiveId) = some ((manifestOf c identity health).text ++ [10])) ∧
    (¬ f.Clear writeCalls → ∃ e w', archiveQueue f platform c w = (.error e, w') ∧
        w'.spool = (if f [.renameBack] = none then .directory content else .missing) ∧
        w'.manifest = Function.update w.manifest (identity.instanceId, c.archiveId)
          (leftBy f (manifestOf c identity health).text)) := by
  let archive := (identity.instanceId, c.archiveId)
  let text := (manifestOf c identity health).text
  obtain ⟨w₁, hprepare, hw₁⟩ := prepared_eq h
  have hmove := @moveSpool_eq _ f w₁ archive content (hw₁.spool.trans h.spool)
    ((congrFun hw₁.archivedSpool archive).trans (hfresh.spool _)) hrename
  let w₂ : World Content := { w₁ with
    spool := .missing, archivedSpool := Function.update w₁.archivedSpool archive (some content) }
  have hnone : w₂.manifest archive = none := (congrFun hw₁.manifest archive).trans (hfresh.manifest _)
  obtain ⟨hwritten, hleft⟩ := @wp_writeManifest _ f w₂ archive text hnone
  have hthere : w₂.archivedSpool archive = some content := Function.update_self _ _ _
  have hrun : archiveQueue f platform c w = (do
      let result ← Act.attempt (writeManifest f archive text)
      match result with
      | .error e => do
        let _ ← Act.attempt (moveBack f archive)
        let _ ← Act.attempt (removeDir f archive)
        Act.throw e
      | .ok () => pure ⟨identity.instanceId, c.archiveId, snapshotOf health⟩ :
        Act (World Content) Failure Archived) w₂ := by
    unfold archiveQueue
    rw [Act.bind_of_ok hprepare]
    exact Act.bind_of_ok hmove
  constructor
  · intro hclear
    have hwrite : Act.attempt (writeManifest f archive text) w₂ =
        (.ok (.ok ()), w₂.withManifest archive (leftBy f text)) :=
      Prod.ext (congrArg Except.ok (hwritten.mpr hclear)) hleft
    have hfull : leftBy f text = some (text ++ [10]) := by
      simp only [writeCalls, Plan.clear_cons] at hclear
      simp [leftBy, hclear.1, hclear.2.1, hclear.2.2.1]
    refine ⟨w₂.withManifest archive (leftBy f text), ?_, rfl, hthere, ?_⟩
    · rw [hrun]
      exact Act.bind_of_ok hwrite
    · exact (Function.update_self _ _ _).trans hfull
  · intro hclear
    obtain ⟨e, he⟩ : ∃ e, (writeManifest f archive text w₂).1 = .error e := by
      cases hr : (writeManifest f archive text w₂).1 with
      | error e => exact ⟨e, rfl⟩
      | ok u => exact absurd (hwritten.mp hr) hclear
    have hwrite : Act.attempt (writeManifest f archive text) w₂ =
        (.ok (.error e), w₂.withManifest archive (leftBy f text)) :=
      Prod.ext (congrArg Except.ok he) hleft
    let w₃ := w₂.withManifest archive (leftBy f text)
    obtain ⟨hspool, hmanifest⟩ := @spool_moveBack _ f w₃ archive content rfl hthere
    have hremove : Untouched (moveBack f archive w₃).2 (removeDir f archive (moveBack f archive w₃).2).2 :=
      removeDir_keeps archive _ _ (Untouched.refl _)
    refine ⟨e, (removeDir f archive (moveBack f archive w₃).2).2, ?_, hremove.spool.trans hspool, ?_⟩
    · rw [hrun, Act.bind_of_ok hwrite]
      rfl
    · rw [hremove.manifest, hmanifest, ← hw₁.manifest]
      rfl

end

/-! ## All or nothing -/

/-- This is the manifest of an archive of that queue, with or without the line break at its end. -/
def Claims (platform : Platform Content) (c : Command) (w : World Content) (bytes : List UInt8) : Prop :=
  ∃ content health identity, w.spool = .directory content ∧ platform.inspect content = .ok health ∧
    identityFromState w.identity = .ok identity ∧
    (bytes = (manifestOf c identity health).text ∨ bytes = (manifestOf c identity health).text ++ [10])

/-- The queue is where it was, and no archive says that it has it. -/
structure Left (platform : Platform Content) (c : Command) (w w' : World Content) : Prop where
  spool : w'.spool = w.spool
  unclaimed : ∀ archive bytes, w'.manifest archive = some bytes → Claims platform c w bytes →
    w.manifest archive = some bytes

/-- The queue is in the archive, which says so. -/
structure Kept (platform : Platform Content) (c : Command) (w w' : World Content) (archived : Archived) : Prop where
  kept : ∃ content health, w.spool = .directory content ∧ platform.inspect content = .ok health ∧
    archived.queue = snapshotOf health ∧
    w'.archivedSpool (archived.hostId, archived.archiveId) = some content ∧
    w'.manifest (archived.hostId, archived.archiveId) =
      some ((⟨c.reason, archived.hostId, c.archivedAt, archived.queue⟩ : Manifest).text ++ [10])
  moved : w'.spool = .missing

/-- The command has left the queue where it fails, and has archived it where it does not. -/
def Atomic (f : Faults) (platform : Platform Content) (c : Command) (w : World Content) : Prop :=
  match (archiveQueue f platform c w).1 with
  | .error _ => Left platform c w (archiveQueue f platform c w).2
  | .ok archived => Kept platform c w (archiveQueue f platform c w).2 archived

/-- All of this text is in the file, whether what comes then fails or not. -/
def Complete (f : Faults) (text : List UInt8) : Prop :=
  f [.openManifest] = none ∧ ∀ fault, f [.writeManifest] = some fault → text.length ≤ fault.written

/-- The spool is moved and the manifest fails: and the spool does not move back, or the text of the manifest is all
there by then. -/
def Strands (f : Faults) (platform : Platform Content) (c : Command) (w : World Content) : Prop :=
  ∃ content health identity, Prepares f platform c w content health identity ∧ f [.rename] = none ∧
    ¬ f.Clear writeCalls ∧ (f [.renameBack] ≠ none ∨ Complete f (manifestOf c identity health).text)

theorem Untouched.left {w' : World Content} (h : Untouched w w') : Left platform c w w' :=
  ⟨h.spool, fun archive bytes hbytes _ => by rwa [h.manifest] at hbytes⟩

/-- What a failure leaves is the whole text just where the text was complete. -/
theorem leftBy_eq_text {text : List UInt8} :
    (∃ bytes, leftBy f text = some bytes ∧ (bytes = text ∨ bytes = text ++ [10])) ↔ Complete f text := by
  unfold leftBy Complete
  cases hopen : f [.openManifest] with
  | some fault => simp
  | none =>
    cases hwrite : f [.writeManifest] with
    | some fault =>
      have htake : text.take fault.written = text ↔ text.length ≤ fault.written := List.take_eq_self_iff text
      have hlonger : text.take fault.written ≠ text ++ [10] := by
        intro heq
        have hlen := congrArg List.length heq
        rw [List.length_take, List.length_append, List.length_singleton] at hlen
        omega
      simp [htake, hlonger]
    | none => cases hnewline : f [.newline] <;> simp

/-- An archived queue is there with its manifest, and a command that fails has left the queue where it was and nothing
that says otherwise, unless it strands: the manifest fails once the spool is moved, and the spool does not move back or
the manifest is complete by then. -/
theorem archive_atomic_iff (f : Faults) (platform : Platform Content) (c : Command) (w : World Content)
    (hfresh : Fresh c w) : Atomic f platform c w ↔ ¬ Strands f platform c w := by
  by_cases hprepares : ∃ content health identity, Prepares f platform c w content health identity
  · obtain ⟨content, health, identity, h⟩ := hprepares
    have hsame {content' : Content} {health' : Health} {identity' : ClientIdentity}
        (hspool : w.spool = .directory content') (hcount : platform.inspect content' = .ok health')
        (hidentity : identityFromState w.identity = .ok identity') :
        manifestOf c identity' health' = manifestOf c identity health := by
      cases h.spool.symm.trans hspool
      cases h.counted.symm.trans hcount
      cases h.identified.symm.trans hidentity
      rfl
    have hstrands : Strands f platform c w ↔ f [.rename] = none ∧ ¬ f.Clear writeCalls ∧
        (f [.renameBack] ≠ none ∨ Complete f (manifestOf c identity health).text) := by
      constructor
      · rintro ⟨_, _, _, h', hrename, hclear, hwrong⟩
        rw [hsame h'.spool h'.counted h'.identified] at hwrong
        exact ⟨hrename, hclear, hwrong⟩
      · exact fun hrest => ⟨content, health, identity, h, hrest⟩
    rw [hstrands]
    by_cases hrename : f [.rename] = none
    · obtain ⟨hdone, hfailed⟩ := archiveQueue_of_moved hfresh h hrename
      by_cases hclear : f.Clear writeCalls
      · obtain ⟨w', hrun, hmoved, hthere, hmanifest⟩ := hdone hclear
        refine ⟨fun _ hnot => hnot.2.1 hclear, fun _ => ?_⟩
        unfold Atomic
        rw [hrun]
        exact ⟨⟨content, health, h.spool, h.counted, rfl, hthere, hmanifest⟩, hmoved⟩
      · obtain ⟨e, w', hrun, hspool, hmanifest⟩ := hfailed hclear
        have hatomic : Atomic f platform c w ↔ Left platform c w w' := by
          unfold Atomic
          rw [hrun]
        rw [hatomic]
        constructor
        · rintro hleft ⟨-, -, hback | hcomplete⟩
          · have hstays := hleft.spool
            rw [hspool, if_neg hback, h.spool] at hstays
            cases hstays
          · obtain ⟨bytes, hbytes, hall⟩ := leftBy_eq_text.mpr hcomplete
            have hthere : w'.manifest (identity.instanceId, c.archiveId) = some bytes := by
              rw [hmanifest, Function.update_self, hbytes]
            have hold := hleft.unclaimed _ _ hthere ⟨content, health, identity, h.spool, h.counted, h.identified, hall⟩
            rw [hfresh.manifest] at hold
            cases hold
        · intro hnot
          have hback : f [.renameBack] = none := by
            by_contra hback
            exact hnot ⟨hrename, hclear, Or.inl hback⟩
          refine ⟨by rw [hspool, if_pos hback, h.spool], ?_⟩
          rintro archive bytes hbytes ⟨_, _, _, hspool', hcount', hidentity', hall⟩
          rw [hmanifest] at hbytes
          by_cases harchive : archive = (identity.instanceId, c.archiveId)
          · rw [harchive, Function.update_self] at hbytes
            rw [hsame hspool' hcount' hidentity'] at hall
            exact absurd ⟨hrename, hclear, Or.inr (leftBy_eq_text.mp ⟨bytes, hbytes, hall⟩)⟩ hnot
          · rwa [Function.update_of_ne harchive] at hbytes
    · obtain ⟨e, w', hrun, huntouched⟩ := archiveQueue_rename_fails h hrename
      refine ⟨fun _ hnot => hrename hnot.1, fun _ => ?_⟩
      unfold Atomic
      rw [hrun]
      exact huntouched.left
  · refine ⟨fun _ ⟨content, health, identity, h, _⟩ => hprepares ⟨content, health, identity, h⟩, fun _ => ?_⟩
    have hkeeps := @prepare_keeps _ f platform c w w (Untouched.refl w)
    cases hrun : prepare f platform c w with
    | mk outcome w' =>
      rw [hrun] at hkeeps
      cases outcome with
      | error e =>
        have hfails : archiveQueue f platform c w = (.error e, w') := Act.bind_of_error hrun
        unfold Atomic
        rw [hfails]
        exact hkeeps.left
      | ok found =>
        obtain ⟨content, health, identity, h, -, -⟩ := prepare_eq_ok.mp (congrArg Prod.fst hrun)
        exact absurd ⟨content, health, identity, h⟩ hprepares

/-- A runtime whose spool is a list of reports. -/
def samplePlatform : Platform (List String) where
  inspect reports := .ok ⟨reports.length, (reports.map fun r => byteLen r.toList).sum, 0, 0, true⟩

def sampleCommand : Command := ⟨"server-state-lost", "20260101T000000Z-0", "2026-01-01T00:00:00Z"⟩

/-- A report waits, and there is no archive yet. -/
def sampleWorld : World (List String) where
  spool := .directory ["report"]
  identity := .holds ⟨[], some "123e4567-e89b-42d3-a456-426614174000\n"⟩
  kind _ := .missing
  archivedSpool _ := none
  manifest _ := none

theorem archive_atomic_undisturbed : Atomic Plan.nothing samplePlatform sampleCommand sampleWorld :=
  (archive_atomic_iff Plan.nothing samplePlatform sampleCommand sampleWorld ⟨fun _ => rfl, fun _ => rfl⟩).mpr
    fun ⟨_, _, _, _, _, hclear, _⟩ => hclear fun _ _ => rfl

/-- The manifest cannot be flushed to the disk. -/
def unsynced : Faults := fun calls => if calls = [.sync] then some ⟨.refused .other, 0⟩ else none

def sampleHost : String := "123e4567-e89b-42d3-a456-426614174000"

def sampleManifest : Manifest :=
  ⟨"server-state-lost", sampleHost, "2026-01-01T00:00:00Z", ⟨1, 6, 0, some 0, true⟩⟩

theorem complete_manifest_left :
    (archiveQueue unsynced samplePlatform sampleCommand sampleWorld).1.isOk = false ∧
    (archiveQueue unsynced samplePlatform sampleCommand sampleWorld).2.spool = .directory ["report"] ∧
    (archiveQueue unsynced samplePlatform sampleCommand sampleWorld).2.manifest (sampleHost, "20260101T000000Z-0") =
      some (sampleManifest.text ++ [10]) ∧
    ¬ Atomic unsynced samplePlatform sampleCommand sampleWorld := by
  have herror : (archiveQueue unsynced samplePlatform sampleCommand sampleWorld).1.isOk = false := by decide +kernel
  have hmanifest : (archiveQueue unsynced samplePlatform sampleCommand sampleWorld).2.manifest
      (sampleHost, "20260101T000000Z-0") = some (sampleManifest.text ++ [10]) := by
    decide +kernel
  refine ⟨herror, by decide +kernel, hmanifest, ?_⟩
  unfold Atomic
  cases hrun : (archiveQueue unsynced samplePlatform sampleCommand sampleWorld).1 with
  | ok archived =>
    rw [hrun] at herror
    cases herror
  | error e =>
    intro hleft
    have hidentity : identityFromState sampleWorld.identity = .ok ⟨"xsos", sampleHost, hostReportContract⟩ := by
      decide +kernel
    have hold := hleft.unclaimed _ _ hmanifest
      ⟨["report"], ⟨1, 6, 0, 0, true⟩, _, rfl, by decide +kernel, hidentity, Or.inr rfl⟩
    cases hold

end

end ArchiveQueue

end Xsoc
