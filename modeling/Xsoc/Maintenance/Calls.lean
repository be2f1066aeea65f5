import Xsoc.Maintenance.World

/-!
# What the commands are made of

The functions that the commands of the maintenance tool call, over the world: each asks the system what its source
asks, in its order, and has the effects of its source.

* on directories: `ensureAbsent`, `validateOptionalRoot`, `rollbackPathExists`, `createSystemAdminOnlyDirectory`,
  `World.removeTreeNoReparse`, `renameManagedDirectoryByHandle`;
* on journals: `writeNewPrivate`, `replacePrivate`, `readSnapshot`, `readUninstallSnapshot`, `purgeStarted`;
* on access control lists: `saveAcl`, `restoreAcl`, `secureStateAcl`, `secureProgramForService`;
* on the service: `stopClientService`, `restoreServiceState`;
* on the marker of the state: `validateStateMarker`, `writeOrValidateStateMarker`.
-/

set_option autoImplicit false

namespace Xsoc

namespace Maintenance

open Faults

abbrev Root.stateRoot : Root := .tree .state

abbrev Root.quarantineRoot : Root := .tree .quarantine

abbrev Root.programRoot : Root := .tree .program

abbrev Root.journalRoot : Root := .journal .install

abbrev Root.uninstallJournalRoot : Root := .journal .uninstall

/-! ## Directories -/

def ensureAbsent (f : Faults) (root : Root) (label : String) : Action Unit := do
  call f (.inspect root)
  .ensure (fun w => !w.present root) (.message s!"{label} already exists")

def validateRealDirectory (f : Faults) (root : Root) : Action Unit := do
  .ensure (·.present root) (.io .notFound)
  call f (.validateRealDirectory root)

def validateTree (f : Faults) (root : Root) : Action Unit := do
  validateRealDirectory (f.within (.validateTree root)) root
  call f (.validateTree root)

def validateOptionalRoot (f : Faults) (root : Root) : Action Bool := do
  call f (.inspect root)
  let existed ← .gets (·.present root)
  if existed then
    validateRealDirectory f root
    return true
  else
    return false

def rollbackPathExists (f : Faults) (root : Root) : Action Bool := do
  call f (.inspect root)
  .gets (·.present root)

/-- `rollback_path_exists`, of a file of a journal. -/
def rollbackFileExists (f : Faults) (root : JournalRoot) (file : JournalFile) : Action Bool := do
  call f (.inspectFile file)
  .gets fun w => (w.file root file).isSome

/-- `Path::exists`, for which an error is an absence. -/
def pathExists (f : Faults) (root : Root) : Action Bool := do
  match f.fault (.inspect root) with
  | none => .gets (·.present root)
  | some _ => return false

def protectedDirectorySecurityDescriptor : Sddl := managedStateSecurityDescriptor none

/-- A directory without entries. -/
def World.create (w : World) : Root → World
  | .tree root => w.setTree root (some [⟨[], none, protectedDirectorySecurityDescriptor⟩])
  | .journal root => w.setJournal root (some fun _ => none)

def World.remove (w : World) : Root → World
  | .tree root => w.setTree root none
  | .journal root => w.setJournal root none

/-- What a removal leaves that failed: all, if not even the first entry was deleted, or nothing at all. -/
def World.partlyRemove (w : World) (failure : Failure) (root : Root) : World :=
  if failure.stage = 0 then
    match root with
    | .tree root => w.mapTree root fun tree => tree.filter fun e => !failure.entries e.path
    | .journal root => w.setJournal root ((w.journals root).map fun folder file =>
        if failure.files file then none else folder file)
  else w.remove root

section

variable {w : World}

/-- A new journal has no files, and a removal adds none. -/
theorem file_create {root root' : JournalRoot} {file : JournalFile} {content : Content}
    (h : (w.create (.journal root)).file root' file = some content) : w.file root' file = some content := by
  simp only [World.create, World.file, World.journals_setJournal] at h
  split at h
  · cases h
  · exact h

theorem file_remove {root root' : JournalRoot} {file : JournalFile} {content : Content}
    (h : (w.remove (.journal root)).file root' file = some content) : w.file root' file = some content := by
  simp only [World.remove, World.file, World.journals_setJournal] at h
  split at h
  · cases h
  · exact h

theorem file_partlyRemove {failure : Failure} {root root' : JournalRoot} {file : JournalFile} {content : Content}
    (h : (w.partlyRemove failure (.journal root)).file root' file = some content) :
    w.file root' file = some content := by
  unfold World.partlyRemove at h
  split at h
  · simp only [World.file, World.journals_setJournal] at h
    split at h
    · next hroot =>
      subst hroot
      rw [World.file]
      cases hj : w.journals root' with
      | none =>
        rw [hj] at h
        cases h
      | some folder =>
        rw [hj] at h
        change (if failure.files file then none else folder file) = some content at h
        split at h
        · cases h
        · exact h
    · exact h
  · exact file_remove h

end

def World.removeTreeNoReparse (f : Faults) (root : Root) : Action Unit := do
  .ensure (·.present root) (.io .notFound)
  effect f (.removeTree root) (·.remove root) fun failure w => w.partlyRemove failure root

/-- The directory and its descriptor are verified, and it is removed if they are not what was asked for. -/
def createSystemAdminOnlyDirectory (f : Faults) (root : Root) : Action Unit := do
  .ensure (fun w => !w.present root) (.io .alreadyExists)
  effect f (.createDirectory root) (·.create root) fun _ w => w
  match f.fault .verifyDirectory with
  | none => return ()
  | some _ =>
    let _cleanup ← .attempt (World.removeTreeNoReparse (f.within .cleanup) root)
    .throw failed

def createProtectedJournal (f : Faults) (root : JournalRoot) : Action Unit :=
  createSystemAdminOnlyDirectory f (.journal root)

/-- The destination takes the tree of the source, or the system reports an error, before the rename or after it. -/
def renameManagedDirectoryByHandle (f : Faults) (source destination : TreeRoot) (label : String) : Action Unit := do
  ensureAbsent (f.within (.rename source)) (.tree destination) label
  .ensure (·.present (.tree source)) (.io .notFound)
  let rename := fun w : World => (w.setTree destination (w.trees source)).setTree source none
  effect f (.rename source) rename fun failure w => if failure.stage = 0 then w else rename w

/-! ## Journals -/

/-- What a write leaves that failed, and could not be undone: nothing, a part of the file, or the whole of it. -/
def World.partlyWrite (w : World) (failure : Failure) (root : JournalRoot) (file : JournalFile) (content : Content) :
    World :=
  match failure.stage with
  | 0 => w
  | 1 => w.setFile root file (some .unreadable)
  | _ => w.setFile root file (some content)

def writeNewPrivate (f : Faults) (root : JournalRoot) (file : JournalFile) (content : Content) : Action Unit := do
  .ensure (fun w => (w.file root file).isNone) (.io .alreadyExists)
  effect f (.write file) (·.setFile root file (some content)) fun failure w => w.partlyWrite failure root file content

/-- The replacement takes the place of the snapshot. -/
def World.replaceSnapshot (w : World) (root : JournalRoot) : World :=
  (w.setFile root .snapshot (w.file root .replacement)).setFile root .replacement none

/-- What a replacement leaves that failed: it was removed, or not even that, or it took place. -/
def World.partlyReplace (w : World) (failure : Failure) (root : JournalRoot) : World :=
  match failure.stage with
  | 0 => w.setFile root .replacement none
  | 1 => w
  | _ => w.replaceSnapshot root

def replacePrivate (f : Faults) (root : JournalRoot) (content : Content) : Action Unit := do
  call f (.inspectFile .replacement)
  .ensure (fun w => (w.file root .replacement).isNone) (.message "stale private replacement file already exists")
  writeNewPrivate f root .replacement content
  effect f .replace (·.replaceSnapshot root) fun failure w => w.partlyReplace failure root

def readFile (f : Faults) (root : JournalRoot) (file : JournalFile) : Action Content := do
  call f (.read file)
  let content ← .gets (·.file root file)
  .ofExcept (okOr (.io .notFound) content)

/-- `SNAPSHOT_FORMAT` -/
def snapshotFormat : Nat := 1

/-- What a journal is validated for before it is read. -/
def validateJournal (f : Faults) (root : JournalRoot) : Action Unit := do
  validateRealDirectory f (.journal root)
  validateTree f (.journal root)
  call f (.validateManagedDacl (.journal root))

def purgeStarted (f : Faults) : Action Bool := do
  call f (.read .purgeStarted)
  let content ← .gets (·.file .uninstall .purgeStarted)
  match content with
  | none => return false
  | some .purgeStarted => return true
  | some _ => .throw (.message "purge transaction marker does not belong to the current package")

section

variable (pkg : Package)

def InstallSnapshot.current (s : InstallSnapshot) : Bool :=
  s.format = snapshotFormat && s.applicationVersion = pkg.applicationVersion

def UninstallSnapshot.current (s : UninstallSnapshot) : Bool :=
  s.format = snapshotFormat && s.applicationVersion = pkg.applicationVersion

def readSnapshot (f : Faults) : Action InstallSnapshot := do
  validateJournal (f.within .readSnapshot) .install
  let content ← readFile (f.within .readSnapshot) .install .snapshot
  match content with
  | .install s =>
    .ensure (fun _ => s.current pkg) (.message "unsupported maintenance journal version")
    return s
  | _ => .throw (.message "the snapshot is not readable")

def readUninstallSnapshot (f : Faults) : Action UninstallSnapshot := do
  validateJournal (f.within .readSnapshot) .uninstall
  let content ← readFile (f.within .readSnapshot) .uninstall .snapshot
  match content with
  | .uninstall s =>
    .ensure (fun _ => s.current pkg) (.message "unsupported uninstall journal version")
    let _started ← purgeStarted (f.within .readSnapshot)
    return s
  | _ => .throw (.message "the snapshot is not readable")

end

/-! ## Access control lists -/

/-- `save_acl` -/
def saveAcl (f : Faults) (root : TreeRoot) (journal : JournalRoot) (file : JournalFile) : Action Unit := do
  let f := f.within (.saveAcl root)
  validateTree f (.tree root)
  call f (.readDescriptors root)
  let tree ← .gets fun w => (w.trees root).getD []
  writeNewPrivate f journal file (.acl (tree.map fun e => (e.path, e.sddl)))

/-- The entries get the descriptors that were saved for them, in the same order. -/
def applySaved (reached : List Name → Bool) (saved : List (List Name × Sddl)) (tree : Tree) : Tree :=
  tree.mapIdx fun i e => if reached e.path then { e with sddl := (saved[i]?.map Prod.snd).getD e.sddl } else e

/-- `restore_acl`: the snapshot is compared with the tree before the first descriptor is set. -/
def restoreAcl (f : Faults) (root : TreeRoot) (journal : JournalRoot) (file : JournalFile) : Action Unit := do
  let f := f.within (.restoreAcl root)
  let content ← readFile f journal file
  match content with
  | .acl saved =>
    validateTree f (.tree root)
    call f (.readDescriptors root)
    .ensure (fun w => ((w.trees root).getD []).map Entry.path = saved.map Prod.fst)
      (.message "the ACL snapshot does not match the managed tree")
    effect f (.setDescriptors root) (·.mapTree root (applySaved (fun _ => true) saved))
      fun failure w => w.mapTree root (applySaved failure.entries saved)
  | _ => .throw (.message "the ACL snapshot is not readable")

/-- The name of an entry that the tool names itself. -/
def nameOf (s : String) : Name := s.toList.map fun c => Fin.ofNat (2 ^ 16) c.toNat

def logsName : Name := nameOf "logs"

/-- What is below `logs`, and that itself. -/
def inLogs (path : List Name) : Bool := [logsName].isPrefixOf path

section

variable (pkg : Package)

/-- The descriptor of the state of the client, on an entry. -/
def stateDescriptor (service : Bool) (e : Entry) : Sddl :=
  managedSecurityDescriptorForTarget (managedStateSecurityDescriptor (if service then some pkg.serviceSid else none))
    e.content.isNone

def applyState (reached : List Name → Bool) (service preserveLogAnchor : Bool) (tree : Tree) : Tree :=
  tree.map fun e =>
    if inLogs e.path || (preserveLogAnchor && e.path.isEmpty) || !reached e.path then e
    else { e with sddl := stateDescriptor pkg service e }

def existingRuntimeLogs (f : Faults) : Action Bool := do
  call f .runtimeLogs
  .gets fun w => ((w.trees .state).getD []).any fun e => e.path = [logsName]

/-- `secure_state_acl` -/
def secureStateAcl (f : Faults) (service : Bool) : Action Unit := do
  let f := f.within .secureState
  let runtimeLogs ← existingRuntimeLogs f
  .when runtimeLogs (call f (.validateManagedDacl .stateRoot))
  validateTree f .stateRoot
  effect f (.setDescriptors .state) (·.mapTree .state (applyState pkg (fun _ => true) service runtimeLogs))
    fun failure w => w.mapTree .state (applyState pkg failure.entries service runtimeLogs)
  .when runtimeLogs do
    call (f.within .again) (.validateManagedDacl .stateRoot)
    call (f.within .again) .runtimeLogs

/-- `secure_system_admin_only`, recursively. -/
def secureSystemAdminOnly (f : Faults) : Action Unit := secureStateAcl pkg f false

def secureStateForService (f : Faults) : Action Unit := secureStateAcl pkg f true

def validateProgramTree (f : Faults) : Action Unit := do
  validateTree (f.within .validateProgramTree) .programRoot
  call f .validateProgramTree

def applyProgram (reached : List Name → Bool) (tree : Tree) : Tree :=
  tree.map fun e =>
    if reached e.path then
      { e with sddl := managedSecurityDescriptorForTarget (programSecurityDescriptor pkg.serviceSid) e.content.isNone }
    else e

def secureProgramForService (f : Faults) : Action Unit := do
  let f := f.within .secureProgram
  validateTree f .programRoot
  effect f (.setDescriptors .program) (·.mapTree .program (applyProgram pkg fun _ => true))
    fun failure w => w.mapTree .program (applyProgram pkg failure.entries)

end

/-! ## The service -/

/-- `SERVICE_SID_TYPE_UNRESTRICTED` -/
def sidTypeUnrestricted : Nat := 1

def openClientService (f : Faults) : Action (Option Service) := do
  call f .openService
  .gets (·.service)

def validateClientService (f : Faults) : Action Unit := call f .validateService

def queryServiceSidType (f : Faults) (service : Service) : Action Nat := do
  call f .querySidType
  return service.sidType

def queryFailureActionsOnNonCrash (f : Faults) (service : Service) : Action Bool := do
  call f .queryFailureActions
  return service.failureActionsOnNonCrash

def serviceIsActive (f : Faults) (service : Service) : Action Bool := do
  call f .queryStatus
  match service.state with
  | .running => return true
  | .stopped => return false
  | _ => .throw (.message "xsoc is not in a stable running/stopped state")

/-- Change the service that is there. -/
def World.mapService (w : World) (g : Service → Service) : World := w.setService (w.service.map g)

/-- A call that changes the service, and may have done so where it fails. -/
def changeService (f : Faults) (c : Call) (g : Service → Service) : Action Unit :=
  effect f c (·.mapService g) fun failure w => if failure.stage = 0 then w else w.mapService g

def setServiceSidType (f : Faults) (sidType : Nat) : Action Unit :=
  changeService f .setSidType fun s => { s with sidType := sidType }

def setFailureActionsOnNonCrash (f : Faults) (value : Bool) : Action Unit :=
  changeService f .setFailureActions fun s => { s with failureActionsOnNonCrash := value }

/-- A pending state has passed. -/
def ServiceState.settled : ServiceState → ServiceState
  | .changing true => .running
  | .changing false => .stopped
  | state => state

def waitForStableServiceState (f : Faults) : Action Unit := do
  changeService f .waitForStableState fun s => { s with state := s.state.settled }
  .ensure (fun w => w.service.all fun s => s.state = .running || s.state = .stopped)
    (.message "xsoc entered an unsupported rollback state")

/-- `StartServiceW`, and the wait until the service runs. -/
def startClientService (f : Faults) : Action Unit := changeService f .startService fun s => { s with state := .running }

def stopClientService (f : Faults) : Action Unit := do
  waitForStableServiceState f
  changeService f .stopService fun s => { s with state := .stopped }

inductive ProgramAclRestore
  | preserveSnapshot
  | secureCurrent

/-- What is done about the program before its service is changed. -/
def restoreProgramAcl (pkg : Package) (f : Faults) : ProgramAclRestore → Action Unit
  | .preserveSnapshot => validateProgramTree f
  | .secureCurrent => do
    secureProgramForService pkg f
    validateProgramTree f

def restoreServiceState (pkg : Package) (f : Faults) (sidType : Nat) (failureActionsOnNonCrash shouldBeRunning : Bool)
    (programAcl : ProgramAclRestore) : Action Unit := do
  let f := f.within .restoreService
  let service ← openClientService f
  .ensure (fun _ => service.isSome) (.message "the rollback xsoc service is not present")
  validateClientService f
  restoreProgramAcl pkg f programAcl
  setServiceSidType f sidType
  call f .querySidType
  .ensure (fun w => w.service.all fun s => s.sidType = sidType)
    (.message "restored service SID type did not verify")
  setFailureActionsOnNonCrash f failureActionsOnNonCrash
  call f .queryFailureActions
  .ensure (fun w => w.service.all fun s => s.failureActionsOnNonCrash = failureActionsOnNonCrash)
    (.message "restored non-crash failure policy did not verify")
  waitForStableServiceState f
  if shouldBeRunning then
    startClientService f
  else
    stopClientService (f.within .again)

/-! ## The marker of the state -/

/-- Each high surrogate is followed by a low one, and each low one follows a high one. -/
def isUnicode : Name → Bool
  | [] => true
  | c :: cs =>
    if 0xD800 ≤ c.val && c.val < 0xDC00 then
      match cs with
      | d :: cs => 0xDC00 ≤ d.val && d.val < 0xE000 && isUnicode cs
      | [] => false
    else !(0xDC00 ≤ c.val && c.val < 0xE000) && isUnicode cs

def markerPrefix : Name := nameOf ".xsoc-managed-"

/-- `STATE_MARKER` -/
def stateMarker : Name := nameOf ".xsoc-managed-1.0.0"

/-- `STATE_MARKER_CONTENT` -/
def stateMarkerContent : List UInt8 := utf8 "xsoc-windows-state-1.0.0\r\n".toList

/-- The names in the root of the state that a marker may have. -/
def markersOf (tree : Tree) : List Name :=
  tree.filterMap fun e =>
    match e.path with
    | [name] => if isUnicode name && markerPrefix.isPrefixOf name then some name else none
    | _ => none

/-- The loop over the markers that are there. -/
def findMarker (f : Faults) : List Name → Option Name → Action (Option Name)
  | [], found => return found
  | name :: names, found => do
    call f (.validateMarkerFile name)
    .ensure (fun _ => found.isNone) (.message "multiple conflicting state ownership markers")
    findMarker f names (some name)

def existingStateMarker (f : Faults) : Action (Option Name) := do
  call f .enumerateMarkers
  .ensure (·.present .stateRoot) (.io .notFound)
  let markers ← .gets fun w => markersOf ((w.trees .state).getD [])
  findMarker f markers none

def validateStateMarker (f : Faults) (requireServiceAccess : Bool) : Action Unit := do
  let f := f.within (.stateMarker requireServiceAccess)
  let marker ← existingStateMarker f
  let marker ← .ofExcept (okOr (.message "missing trusted state ownership marker") marker)
  call (f.within .again) (.validateMarkerFile marker)
  .when (!requireServiceAccess) do
    let _retainedLogs ← existingRuntimeLogs f
  call f (.validateManagedDacl .stateRoot)
  call f (.validateMarkerDacl requireServiceAccess)

/-- A new file of the state; so many bytes of it are left where the write fails and cannot be undone. -/
def writeNewEntry (f : Faults) (name : Name) (bytes : List UInt8) (sddl : Sddl) : Action Unit := do
  .ensure (fun w => ((w.trees .state).getD []).all fun e => e.path ≠ [name]) (.io .alreadyExists)
  let append := fun (bytes : List UInt8) (w : World) => w.mapTree .state (· ++ [⟨[name], some bytes, sddl⟩])
  effect f (.writeEntry name) (append bytes) fun failure w =>
    match failure.stage with
    | 0 => w
    | n + 1 => append (bytes.take n) w

/-- The descriptor that a new file of the state inherits. -/
def inheritedDescriptor : Sddl := managedSecurityDescriptorForTarget protectedDirectorySecurityDescriptor false

section

variable (pkg : Package)

def withoutEntry (name : Name) (tree : Tree) : Tree := tree.filter fun e => e.path ≠ [name]

/-- `apply_exact_acl`, of the marker. -/
def secureMarker (f : Faults) (marker : Name) : Action Unit := do
  let secure := fun tree : Tree => tree.map fun e =>
    if e.path = [marker] then { e with sddl := stateDescriptor pkg true e } else e
  effect f .secureMarker (·.mapTree .state secure) fun failure w =>
    if failure.stage = 0 then w else w.mapTree .state secure
  call f (.validateMarkerDacl true)

def writeOrValidateStateMarker (f : Faults) : Action Unit := do
  let f := f.within .writeMarker
  validateRealDirectory f .stateRoot
  let existing ← existingStateMarker f
  let marker := existing.getD stateMarker
  let isThere ← .gets fun w => ((w.trees .state).getD []).any fun e => e.path = [marker]
  if (f.fault .inspectMarker).isNone && isThere then
    call (f.within .again) (.validateMarkerFile marker)
  else
    writeNewEntry f marker stateMarkerContent inheritedDescriptor
    let secured ← .attempt (secureMarker pkg f marker)
    match secured with
    | .ok () => return ()
    | .error e =>
      let _removed ← .attempt (effect f .removeMarker (·.mapTree .state (withoutEntry marker)) fun _ w => w)
      .throw (.context "failed to secure the new state marker" e)

end

/-! ## What only asks -/

section

open Act

variable {pkg : Package} (f : Faults)

theorem reads_ensureAbsent (root : Root) (label : String) : Reads (ensureAbsent f root label) :=
  (reads_call f _).bind fun _ => reads_ensure _ _

theorem reads_validateRealDirectory (root : Root) : Reads (validateRealDirectory f root) :=
  (reads_ensure _ _).bind fun _ => reads_call f _

theorem reads_validateTree (root : Root) : Reads (validateTree f root) :=
  (reads_validateRealDirectory _ root).bind fun _ => reads_call f _

theorem reads_validateOptionalRoot (root : Root) : Reads (validateOptionalRoot f root) := by
  refine (reads_call f _).bind fun _ => (reads_gets _).bind fun existed => ?_
  cases existed with
  | true => exact (reads_validateRealDirectory f root).bind fun _ => reads_pure true
  | false => exact reads_pure false

theorem reads_rollbackPathExists (root : Root) : Reads (rollbackPathExists f root) :=
  (reads_call f _).bind fun _ => reads_gets _

theorem reads_rollbackFileExists (root : JournalRoot) (file : JournalFile) : Reads (rollbackFileExists f root file) :=
  (reads_call f _).bind fun _ => reads_gets _

theorem reads_pathExists (root : Root) : Reads (pathExists f root) := by
  unfold pathExists
  cases f.fault (.inspect root) with
  | none => exact reads_gets _
  | some failure => exact reads_pure false

theorem reads_readFile (root : JournalRoot) (file : JournalFile) : Reads (readFile f root file) :=
  (reads_call f _).bind fun _ => (reads_gets _).bind fun _ => reads_ofExcept _

theorem reads_validateJournal (root : JournalRoot) : Reads (validateJournal f root) :=
  (reads_validateRealDirectory f _).bind fun _ => (reads_validateTree f _).bind fun _ => reads_call f _

theorem reads_purgeStarted : Reads (purgeStarted f) := by
  refine (reads_call f _).bind fun _ => (reads_gets _).bind fun content => ?_
  match content with
  | none => exact reads_pure false
  | some .purgeStarted => exact reads_pure true
  | some (.install _) | some (.uninstall _) | some (.acl _) | some .unreadable => exact reads_throw _

theorem reads_readSnapshot : Reads (readSnapshot pkg f) := by
  refine (reads_validateJournal _ _).bind fun _ => (reads_readFile _ _ _).bind fun content => ?_
  cases content with
  | install s => exact (reads_ensure _ _).bind fun _ => reads_pure s
  | _ => exact reads_throw _

theorem reads_readUninstallSnapshot : Reads (readUninstallSnapshot pkg f) := by
  refine (reads_validateJournal _ _).bind fun _ => (reads_readFile _ _ _).bind fun content => ?_
  cases content with
  | uninstall s => exact (reads_ensure _ _).bind fun _ => (reads_purgeStarted _).bind fun _ => reads_pure s
  | _ => exact reads_throw _

theorem reads_existingRuntimeLogs : Reads (existingRuntimeLogs f) := (reads_call f _).bind fun _ => reads_gets _

theorem reads_validateProgramTree : Reads (validateProgramTree f) :=
  (reads_validateTree _ _).bind fun _ => reads_call f _

theorem reads_openClientService : Reads (openClientService f) := (reads_call f _).bind fun _ => reads_gets _

theorem reads_queryServiceSidType (service : Service) : Reads (queryServiceSidType f service) :=
  (reads_call f _).bind fun _ => reads_pure _

theorem reads_queryFailureActionsOnNonCrash (service : Service) : Reads (queryFailureActionsOnNonCrash f service) :=
  (reads_call f _).bind fun _ => reads_pure _

theorem reads_serviceIsActive (service : Service) : Reads (serviceIsActive f service) := by
  refine (reads_call f _).bind fun _ => ?_
  cases service.state with
  | running => exact reads_pure true
  | stopped => exact reads_pure false
  | changing _ | unsupported => exact reads_throw _

theorem reads_findMarker (names : List Name) (found : Option Name) : Reads (findMarker f names found) := by
  induction names generalizing found with
  | nil => exact reads_pure found
  | cons name names ih =>
    exact (reads_call f _).bind fun _ => (reads_ensure _ _).bind fun _ => ih (some name)

theorem reads_existingStateMarker : Reads (existingStateMarker f) :=
  (reads_call f _).bind fun _ => (reads_ensure _ _).bind fun _ => (reads_gets _).bind fun _ => reads_findMarker f _ _

theorem reads_validateStateMarker (requireServiceAccess : Bool) :
    Reads (validateStateMarker f requireServiceAccess) :=
  (reads_existingStateMarker _).bind fun _ => (reads_ofExcept _).bind fun _ => (reads_call _ _).bind fun _ =>
    (((reads_existingRuntimeLogs _).bind fun _ => reads_pure ()).when _).bind fun _ =>
      (reads_call _ _).bind fun _ => reads_call _ _

/-! ## What the answers say -/

variable {f} {w : World}

theorem ensureAbsent_eq_ok {root : Root} {label : String} {u : Unit} (h : (ensureAbsent f root label w).1 = .ok u) :
    w.present root = false := by
  obtain ⟨-, -, h⟩ := (reads_call f _).bind_eq_ok.mp h
  simpa using h

theorem validateOptionalRoot_eq_ok {root : Root} {b : Bool} (h : (validateOptionalRoot f root w).1 = .ok b) :
    b = w.present root := by
  obtain ⟨-, -, h⟩ := (reads_call f _).bind_eq_ok.mp h
  obtain ⟨existed, hexisted, h⟩ := (reads_gets _).bind_eq_ok.mp h
  rw [gets_eq_ok] at hexisted
  rw [hexisted]
  cases existed with
  | true =>
    obtain ⟨-, -, h⟩ := (reads_validateRealDirectory f root).bind_eq_ok.mp h
    exact (pure_eq_ok.mp h).symm
  | false => exact (pure_eq_ok.mp h).symm

theorem rollbackPathExists_eq_ok {root : Root} {b : Bool} (h : (rollbackPathExists f root w).1 = .ok b) :
    b = w.present root := by
  obtain ⟨-, -, h⟩ := (reads_call f _).bind_eq_ok.mp h
  exact (gets_eq_ok.mp h).symm

theorem readFile_eq_ok {root : JournalRoot} {file : JournalFile} {content : Content}
    (h : (readFile f root file w).1 = .ok content) : w.file root file = some content := by
  obtain ⟨-, -, h⟩ := (reads_call f _).bind_eq_ok.mp h
  obtain ⟨x, hx, h⟩ := (reads_gets _).bind_eq_ok.mp h
  rw [gets_eq_ok] at hx
  rw [hx]
  exact okOr_eq_ok.mp (ofExcept_eq_ok.mp h)

theorem readSnapshot_eq_ok {s : InstallSnapshot} (h : (readSnapshot pkg f w).1 = .ok s) :
    w.file .install .snapshot = some (.install s) := by
  obtain ⟨-, -, h⟩ := (reads_validateJournal _ _).bind_eq_ok.mp h
  obtain ⟨content, hread, h⟩ := (reads_readFile _ _ _).bind_eq_ok.mp h
  rw [readFile_eq_ok hread]
  cases content with
  | install s' =>
    obtain ⟨-, -, h⟩ := (reads_ensure _ _).bind_eq_ok.mp h
    rw [pure_eq_ok.mp h]
  | _ => exact (throw_eq_ok.mp h).elim

theorem readUninstallSnapshot_eq_ok {s : UninstallSnapshot} (h : (readUninstallSnapshot pkg f w).1 = .ok s) :
    w.file .uninstall .snapshot = some (.uninstall s) := by
  obtain ⟨-, -, h⟩ := (reads_validateJournal _ _).bind_eq_ok.mp h
  obtain ⟨content, hread, h⟩ := (reads_readFile _ _ _).bind_eq_ok.mp h
  rw [readFile_eq_ok hread]
  cases content with
  | uninstall s' =>
    obtain ⟨-, -, h⟩ := (reads_ensure _ _).bind_eq_ok.mp h
    obtain ⟨-, -, h⟩ := (reads_purgeStarted _).bind_eq_ok.mp h
    rw [pure_eq_ok.mp h]
  | _ => exact (throw_eq_ok.mp h).elim

end

end Maintenance

end Xsoc
