import Mathlib.Data.List.Infix
import Mathlib.Logic.Function.Basic
import Xsoc.Faults.Act
import Xsoc.Maintenance.Dacl
import Xsoc.Maintenance.Disk

/-!
# What the maintenance tool works on

The tool finds three trees under fixed paths, the program, the state of the client and its quarantine, two journals of
its own, and the service. Each of its calls to the system may fail, before or after it had an effect.

* `World` : the trees, the journals and the service;
* `Failure`, `Faults` : how far a call got that failed, and which calls of a command fail;
* `call`, `effect` : a call that only asks, and one that changes the world;
* `writeNewPrivate`, `removeTreeNoReparse`, `renameManagedDirectoryByHandle`, ... : what the commands are made of.

The answers that depend on what is not modelled (links, access control entries, the registration of the service) are
part of the plan: such a check holds, or it fails.
-/

set_option autoImplicit false

namespace Xsoc

namespace Maintenance

open Faults

/-! ## The world -/

inductive TreeRoot
  | state
  | quarantine
  | program
  deriving DecidableEq

inductive JournalRoot
  | install
  | uninstall
  deriving DecidableEq

/-- A directory under a fixed path. -/
inductive Root
  | tree (root : TreeRoot)
  | journal (root : JournalRoot)
  deriving DecidableEq

/-- An entry of a tree; a directory has no content. The root is its entry with the empty path. -/
structure Entry where
  path : List Name
  content : Option (List UInt8)
  sddl : Sddl
  deriving DecidableEq

abbrev Tree := List Entry

inductive JournalFile
  /-- `SNAPSHOT_FILE` -/
  | snapshot
  /-- The replacement of the snapshot. -/
  | replacement
  | stateAcl
  | programAcl
  | purgeStarted
  deriving DecidableEq

structure InstallSnapshot where
  format : Nat
  applicationVersion : String
  programExisted : Bool
  stateExisted : Bool
  originalServiceSidType : Option Nat
  originalFailureActionsOnNonCrash : Option Bool
  originalServiceRunning : Bool
  stateAclSaved : Bool
  deriving DecidableEq

structure UninstallSnapshot where
  format : Nat
  applicationVersion : String
  stateAclSaved : Bool
  serviceWasRunning : Bool
  deriving DecidableEq

/-- What the tool makes of a file of a journal. -/
inductive Content
  | install (snapshot : InstallSnapshot)
  | uninstall (snapshot : UninstallSnapshot)
  | acl (entries : List (List Name × Sddl))
  /-- `PURGE_STARTED_CONTENT` -/
  | purgeStarted
  /-- Nothing, as of what a write has left that failed. -/
  | unreadable
  deriving DecidableEq

abbrev Folder := JournalFile → Option Content

inductive ServiceState
  | running
  | stopped
  /-- A pending state, and whether the service will be running after it. -/
  | changing (running : Bool)
  | unsupported
  deriving DecidableEq

structure Service where
  sidType : Nat
  failureActionsOnNonCrash : Bool
  state : ServiceState
  deriving DecidableEq

structure World where
  trees : TreeRoot → Option Tree
  journals : JournalRoot → Option Folder
  service : Option Service

/-- What is settled when the tool is built and installed. -/
structure Package where
  applicationVersion : String
  serviceSid : Sddl
  /-- The rendering of the default configuration. -/
  defaultConfig : List UInt8

namespace World

variable (w : World)

def present : Root → Bool
  | .tree root => (w.trees root).isSome
  | .journal root => (w.journals root).isSome

def setTree (root : TreeRoot) (tree : Option Tree) : World := { w with trees := Function.update w.trees root tree }

def setJournal (root : JournalRoot) (folder : Option Folder) : World :=
  { w with journals := Function.update w.journals root folder }

def setService (service : Option Service) : World := { w with service := service }

/-- The content of a file of a journal. -/
def file (root : JournalRoot) (file : JournalFile) : Option Content := (w.journals root).bind (· file)

def setFile (root : JournalRoot) (file : JournalFile) (content : Option Content) : World :=
  w.setJournal root ((w.journals root).map (Function.update · file content))

/-- Change the entries of a tree. -/
def mapTree (root : TreeRoot) (f : Tree → Tree) : World := w.setTree root ((w.trees root).map f)

variable {w}

@[simp] theorem trees_setTree (root root' : TreeRoot) (tree : Option Tree) :
    (w.setTree root tree).trees root' = if root' = root then tree else w.trees root' := Function.update_apply _ _ _ _

@[simp] theorem journals_setTree (root : TreeRoot) (tree : Option Tree) : (w.setTree root tree).journals = w.journals :=
  rfl

@[simp] theorem service_setTree (root : TreeRoot) (tree : Option Tree) :
    (w.setTree root tree).service = w.service := rfl

@[simp] theorem trees_setJournal (root : JournalRoot) (folder : Option Folder) :
    (w.setJournal root folder).trees = w.trees := rfl

@[simp] theorem journals_setJournal (root root' : JournalRoot) (folder : Option Folder) :
    (w.setJournal root folder).journals root' = if root' = root then folder else w.journals root' :=
  Function.update_apply _ _ _ _

@[simp] theorem service_setJournal (root : JournalRoot) (folder : Option Folder) :
    (w.setJournal root folder).service = w.service := rfl

@[simp] theorem trees_setService (service : Option Service) : (w.setService service).trees = w.trees := rfl

@[simp] theorem journals_setService (service : Option Service) : (w.setService service).journals = w.journals := rfl

@[simp] theorem service_setService (service : Option Service) : (w.setService service).service = service := rfl

@[simp] theorem trees_setFile (root : JournalRoot) (file : JournalFile) (content : Option Content) :
    (w.setFile root file content).trees = w.trees := rfl

@[simp] theorem service_setFile (root : JournalRoot) (file : JournalFile) (content : Option Content) :
    (w.setFile root file content).service = w.service := rfl

@[simp] theorem journals_setFile (root root' : JournalRoot) (file : JournalFile) (content : Option Content) :
    (w.setFile root file content).journals root' =
      if root' = root then (w.journals root).map (Function.update · file content) else w.journals root' :=
  journals_setJournal _ _ _

theorem file_setFile (root root' : JournalRoot) (file file' : JournalFile) (content : Option Content) :
    (w.setFile root file content).file root' file' =
      if root' = root ∧ file' = file then (w.journals root).bind fun _ => content else w.file root' file' := by
  simp only [World.file, journals_setFile]
  by_cases hroot : root' = root
  · subst hroot
    cases hj : w.journals root' with
    | none => simp
    | some folder =>
      by_cases hfile : file' = file
      · simp [hfile]
      · simp [hfile]
  · simp [hroot]

end World

/-! ## Calls -/

/-- What a command asks of the system, under the names of the functions that ask. -/
inductive Call
  | inspect (root : Root)
  | inspectFile (file : JournalFile)
  | validateRealDirectory (root : Root)
  | validateTree (root : Root)
  | validateManagedDacl (root : Root)
  | validateProgramTree
  | validateProgramExe
  | read (file : JournalFile)
  | write (file : JournalFile)
  | writeEntry (name : Name)
  | replace
  | createDirectory (root : Root)
  | verifyDirectory
  | removeTree (root : Root)
  | rename (source : TreeRoot)
  | removeEmptyDirectory
  | enumerateMarkers
  | inspectMarker
  | validateMarkerFile (name : Name)
  | validateMarkerDacl (requireServiceAccess : Bool)
  | secureMarker
  | removeMarker
  | runtimeLogs
  | readDescriptors (root : TreeRoot)
  | setDescriptors (root : TreeRoot)
  | openService
  | validateService
  | querySidType
  | setSidType
  | queryFailureActions
  | setFailureActions
  | queryStatus
  | waitForStableState
  | startService
  | stopService
  -- The functions that calls are made in.
  | saveAcl (root : TreeRoot)
  | restoreAcl (root : TreeRoot)
  | secureState
  | secureProgram
  | stateMarker (requireServiceAccess : Bool)
  | writeMarker
  | readSnapshot
  | purgeStarted
  | restoreService
  | cleanup
  /-- A call that was made before, once more. -/
  | again
  deriving DecidableEq

/-- How far a call got that failed. -/
structure Failure where
  /-- How much of its effect it had. -/
  stage : Nat
  /-- Which entries of a tree it had dealt with. -/
  entries : List Name → Bool
  /-- Which files of a journal it had dealt with. -/
  files : JournalFile → Bool

abbrev Faults := Plan Call Failure

abbrev Action := Act World Error

def failed : Error := .io (.refused .other)

/-- A call that asks. -/
def call (f : Faults) (c : Call) : Action Unit :=
  match f.fault c with
  | none => pure ()
  | some _ => .throw failed

/-- A call that changes the world, where it succeeds and where it fails. -/
def effect (f : Faults) (c : Call) (full : World → World) (partly : Failure → World → World) : Action Unit :=
  match f.fault c with
  | none => .modify full
  | some failure => do
    .modify (partly failure)
    .throw failed

theorem wp_call {f : Faults} {c : Call} {Q : Except Error Unit → World → Prop} {w : World} :
    Act.wp (call f c) Q w ↔ if f.fault c = none then Q (.ok ()) w else Q (.error failed) w := by
  unfold call
  cases f.fault c <;> simp

theorem effect_eq (f : Faults) (c : Call) (full : World → World) (partly : Failure → World → World) (w : World) :
    effect f c full partly w =
      match f.fault c with
      | none => (.ok (), full w)
      | some failure => (.error failed, partly failure w) := by
  unfold effect
  cases f.fault c <;> rfl

@[simp] theorem effect_eq_ok {f : Faults} {c : Call} {full : World → World} {partly : Failure → World → World}
    {u : Unit} {w : World} : (effect f c full partly w).1 = .ok u ↔ f.fault c = none := by
  rw [effect_eq]
  cases f.fault c <;> simp

theorem wp_effect {f : Faults} {c : Call} {full : World → World} {partly : Failure → World → World}
    {Q : Except Error Unit → World → Prop} {w : World} :
    Act.wp (effect f c full partly) Q w ↔
      match f.fault c with
      | none => Q (.ok ()) (full w)
      | some failure => Q (.error failed) (partly failure w) := by
  unfold effect
  cases f.fault c <;> simp

@[simp] theorem call_eq_ok {f : Faults} {c : Call} {u : Unit} {w : World} :
    (call f c w).1 = .ok u ↔ f.fault c = none := by
  unfold call
  cases f.fault c <;> simp

theorem reads_call (f : Faults) (c : Call) : Act.Reads (call f c) := by
  unfold call
  cases f.fault c with
  | none => exact Act.reads_pure ()
  | some failure => exact Act.reads_throw failed

theorem keeps_effect {I : World → Prop} {f : Faults} {c : Call} {full : World → World}
    {partly : Failure → World → World} (hfull : ∀ w, I w → I (full w))
    (hpartly : ∀ failure w, I w → I (partly failure w)) : Act.Keeps I (effect f c full partly) := by
  refine Act.keeps_iff.mpr fun w hw => wp_effect.mpr ?_
  split
  · exact hfull w hw
  · exact hpartly _ w hw

end Maintenance

end Xsoc
