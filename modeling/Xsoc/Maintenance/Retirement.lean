import Xsoc.Maintenance.Preservation

/-!
# The retirement of the state

The preflight of an uninstallation records whether the service was running. `preserve_state` then saves the access
control list of the state, says so in the snapshot, and puts the state under its retired descriptors; where one of
these steps fails, it takes them back and removes the journal.

* `snapshotCalls`, `retireCalls`, ... : the calls that a part of a command makes, in their order;
* `TakesBack`, `Unmarked` : what the failures of `preserve_state` amount to;
* `retireState_outcome` : what the retirement leaves, whether it fails or not;
* `preserveState_outcome` : what `preserve_state` leaves of the journal and of the state.
-/

set_option autoImplicit false

namespace Xsoc

namespace Maintenance

open Faults Act Plan

/-! ## The calls of a command -/

def treeCalls (root : Root) : List (List Call) :=
  [[.validateTree root, .validateRealDirectory root], [.validateTree root]]

/-- `read_uninstall_snapshot` -/
def snapshotCalls : List (List Call) :=
  under .readSnapshot ([[.validateRealDirectory .uninstallJournalRoot]] ++ treeCalls .uninstallJournalRoot ++
    [[.validateManagedDacl .uninstallJournalRoot], [.read .snapshot], [.read .purgeStarted]])

def markerCall (name : Name) : List (List Call) := [[.validateMarkerFile name], [.again, .validateMarkerFile name]]

/-- `validate_state_marker`, where these are the markers. -/
def markerCalls (requireServiceAccess : Bool) (markers : List Name) : List (List Call) :=
  under (.stateMarker requireServiceAccess) ([[.enumerateMarkers]] ++ markers.flatMap markerCall ++
    (if requireServiceAccess then [] else [[.runtimeLogs]]) ++
    [[.validateManagedDacl .stateRoot], [.validateMarkerDacl requireServiceAccess]])

/-- `save_acl`, before it writes. -/
def saveCalls : List (List Call) :=
  under (.saveAcl .state) (treeCalls .stateRoot ++ [[.readDescriptors .state]])

def restoreCalls : List (List Call) :=
  under (.restoreAcl .state) ([[.read .stateAcl]] ++ treeCalls .stateRoot ++
    [[.readDescriptors .state], [.setDescriptors .state]])

/-- `secure_state_acl`, where there is a directory of logs or not. -/
def secureCalls (logs : Bool) : List (List Call) :=
  under .secureState ([[.runtimeLogs]] ++ (if logs then [[.validateManagedDacl .stateRoot]] else []) ++
    treeCalls .stateRoot ++ [[.setDescriptors .state]] ++
    (if logs then [[.again, .validateManagedDacl .stateRoot], [.again, .runtimeLogs]] else []))

/-- The call in which `save_acl` writes. -/
def writeAclCall : List Call := [.saveAcl .state, .write .stateAcl]

def hasLogs (tree : Tree) : Bool := tree.any fun e => e.path = [logsName]

/-- What `preserve_state` asks before it saves the access control list. -/
def enterCalls (tree : Tree) : List (List Call) :=
  [[.inspect .stateRoot]] ++ snapshotCalls ++ [[.validateRealDirectory .stateRoot]] ++ treeCalls .stateRoot ++
    [[.openService], [.validateService]] ++ markerCalls true (markersOf tree)

/-- What it then does, up to the replacement of the snapshot. -/
def markCalls : List (List Call) := saveCalls ++ [writeAclCall] ++ [[.inspectFile .replacement], [.write .replacement]]

/-- What it then does that it takes back where any of it fails. -/
def retireCalls (tree : Tree) : List (List Call) :=
  markCalls ++ [[.replace]] ++ secureCalls (hasLogs tree) ++ markerCalls false (markersOf tree)

/-! ## What the failures of a command amount to -/

section

variable (f : Faults)

/-- The call had its effect, whether it failed or not. -/
def Took (call : List Call) : Prop := ∀ failure ∈ f call, failure.stage ≠ 0

/-- The file of the call is complete, whether the call failed or not. -/
def Whole (call : List Call) : Prop := ∀ failure ∈ f call, 2 ≤ failure.stage

/-- `preserve_state` comes to change something. -/
def Enters (state : Option Tree) : Prop := ∃ tree ∈ state, f.Clear (enterCalls tree)

/-- The snapshot says that the access control list is saved. -/
def Marks : Prop := f.Clear markCalls ∧ Whole f [.replace]

/-- The access control list of the state is restored where `preserve_state` fails, if it was saved. -/
def InnerRollback : Prop :=
  f [.inspectFile .stateAcl] = none ∧
    (f.Clear saveCalls → Took f writeAclCall → Whole f writeAclCall ∧ f.Clear restoreCalls)

/-- `preserve_state` fails, undoes what it did, and removes the journal. -/
def TakesBack (state : Option Tree) : Prop :=
  Enters f state ∧ (∀ tree ∈ state, ¬ f.Clear (retireCalls tree)) ∧ InnerRollback f ∧
    Took f [.removeTree .uninstallJournalRoot]

/-- `preserve_state` leaves the snapshot of the preflight in the journal. -/
def Unmarked (state : Option Tree) : Prop :=
  ¬ Enters f state ∨ (¬ Marks f ∧ (¬ InnerRollback f ∨
    ∃ failure ∈ f [.removeTree .uninstallJournalRoot], failure.stage = 0 ∧ failure.files .snapshot = false))

end

section

variable {pkg : Package} {f : Faults} {w : World}

/-! ## What the reads return -/

theorem validateRealDirectory_eq_ok {root : Root} {u : Unit} :
    (validateRealDirectory f root w).1 = .ok u ↔
      w.present root = true ∧ f [.validateRealDirectory root] = none := by
  refine ((reads_ensure _ _).bind_eq_ok).trans ?_
  simp [Plan.fault]

theorem validateTree_eq_ok {root : Root} {u : Unit} :
    (validateTree f root w).1 = .ok u ↔ w.present root = true ∧ f.Clear (treeCalls root) := by
  refine ((reads_validateRealDirectory _ _).bind_eq_ok).trans ?_
  simp [validateRealDirectory_eq_ok, treeCalls, Plan.within, Plan.fault, and_assoc]

theorem rollbackPathExists_iff {root : Root} {b : Bool} :
    (rollbackPathExists f root w).1 = .ok b ↔ f [.inspect root] = none ∧ b = w.present root := by
  refine ((reads_call f _).bind_eq_ok).trans ?_
  simp [Plan.fault, @eq_comm Bool b]

theorem rollbackFileExists_iff {root : JournalRoot} {file : JournalFile} {b : Bool} :
    (rollbackFileExists f root file w).1 = .ok b ↔ f [.inspectFile file] = none ∧ b = (w.file root file).isSome := by
  refine ((reads_call f _).bind_eq_ok).trans ?_
  simp [Plan.fault, @eq_comm Bool b]

theorem readFile_iff {root : JournalRoot} {file : JournalFile} {content : Content} :
    (readFile f root file w).1 = .ok content ↔ f [.read file] = none ∧ w.file root file = some content := by
  refine ((reads_call f _).bind_eq_ok).trans ?_
  simp [Plan.fault, (reads_gets _).bind_eq_ok, okOr_eq_ok]

theorem purgeStarted_eq_ok (h : w.file .uninstall .purgeStarted = none) {b : Bool} :
    (purgeStarted f w).1 = .ok b ↔ f [.read .purgeStarted] = none ∧ b = false := by
  refine ((reads_call f _).bind_eq_ok).trans ?_
  simp only [call_eq_ok, (reads_gets _).bind_eq_ok, gets_eq_ok, h, exists_eq_left', exists_and_left, exists_const,
    pure_eq_ok, Plan.fault, @eq_comm Bool b]

theorem present_of_file {root : JournalRoot} {file : JournalFile} {content : Content}
    (h : w.file root file = some content) : w.present (.journal root) = true := by
  obtain ⟨folder, hfolder, -⟩ := Option.bind_eq_some_iff.mp h
  exact Option.isSome_of_mem hfolder

theorem validateJournal_eq_ok {root : JournalRoot} {u : Unit} :
    (validateJournal f root w).1 = .ok u ↔ w.present (.journal root) = true ∧
      f.Clear ([[.validateRealDirectory (.journal root)]] ++ treeCalls (.journal root) ++
        [[.validateManagedDacl (.journal root)]]) := by
  refine ((reads_validateRealDirectory _ _).bind_eq_ok).trans ?_
  simp only [(reads_validateTree _ _).bind_eq_ok, validateRealDirectory_eq_ok, validateTree_eq_ok, call_eq_ok,
    clear_append, clear_cons, clear_nil, Plan.fault]
  simp only [exists_const, and_true]
  tauto

theorem readUninstallSnapshot_iff {s s' : UninstallSnapshot} (hs : w.file .uninstall .snapshot = some (.uninstall s))
    (hcurrent : s.current pkg = true) (hpurge : w.file .uninstall .purgeStarted = none) :
    (readUninstallSnapshot pkg f w).1 = .ok s' ↔ f.Clear snapshotCalls ∧ s' = s := by
  refine ((reads_validateJournal _ _).bind_eq_ok).trans ?_
  simp only [validateJournal_eq_ok, (reads_readFile _ _ _).bind_eq_ok, readFile_iff, hs, Option.some.injEq,
    present_of_file hs, snapshotCalls, clear_under, clear_append, clear_cons, clear_nil, true_and, and_true,
    exists_const]
  constructor
  · rintro ⟨hvalid, content, ⟨hread, rfl⟩, h⟩
    obtain ⟨-, -, h⟩ := (reads_ensure _ _).bind_eq_ok.mp h
    obtain ⟨b, hb, h⟩ := (reads_purgeStarted _).bind_eq_ok.mp h
    exact ⟨⟨hvalid.1, hvalid.2, hread, ((purgeStarted_eq_ok hpurge).mp hb).1⟩, (pure_eq_ok.mp h).symm⟩
  · rintro ⟨⟨hvalid, hdacl, hread, hstarted⟩, rfl⟩
    refine ⟨⟨hvalid, hdacl⟩, _, ⟨hread, rfl⟩, ?_⟩
    refine (reads_ensure _ _).bind_eq_ok.mpr ⟨(), ensure_eq_ok.mpr hcurrent, ?_⟩
    exact (reads_purgeStarted _).bind_eq_ok.mpr ⟨false, (purgeStarted_eq_ok hpurge).mpr ⟨hstarted, rfl⟩, rfl⟩

theorem existingStateMarker_iff {tree : Tree} {name : Name} (htree : w.trees .state = some tree)
    (hmarker : markersOf tree = [name]) {found : Option Name} :
    (existingStateMarker f w).1 = .ok found ↔
      (f [.enumerateMarkers] = none ∧ f [.validateMarkerFile name] = none) ∧ found = some name := by
  refine ((reads_call f _).bind_eq_ok).trans ?_
  simp only [call_eq_ok, (reads_ensure _ _).bind_eq_ok, ensure_eq_ok, (reads_gets _).bind_eq_ok, gets_eq_ok,
    exists_eq_left', World.present, htree, hmarker, Option.getD_some, Option.isSome_some, exists_const, true_and,
    findMarker, (reads_call f _).bind_eq_ok, Option.isNone_none, pure_eq_ok, Plan.fault, and_assoc,
    @eq_comm (Option Name) found]

/-- More than one marker is refused, and so is none. -/
theorem markersOf_of_existingStateMarker {tree : Tree} {name : Name} (htree : w.trees .state = some tree)
    (h : (existingStateMarker f w).1 = .ok (some name)) : markersOf tree = [name] := by
  obtain ⟨-, -, h⟩ := (reads_call f _).bind_eq_ok.mp h
  obtain ⟨-, -, h⟩ := (reads_ensure _ _).bind_eq_ok.mp h
  obtain ⟨names, hnames, h⟩ := (reads_gets _).bind_eq_ok.mp h
  rw [gets_eq_ok, htree, Option.getD_some] at hnames
  rw [hnames]
  match names, h with
  | [], h => cases pure_eq_ok.mp h
  | [first], h =>
    obtain ⟨-, -, h⟩ := (reads_call f _).bind_eq_ok.mp h
    obtain ⟨-, -, h⟩ := (reads_ensure _ _).bind_eq_ok.mp h
    rw [Option.some.inj (pure_eq_ok.mp h)]
  | first :: second :: names, h =>
    obtain ⟨-, -, h⟩ := (reads_call f _).bind_eq_ok.mp h
    obtain ⟨-, -, h⟩ := (reads_ensure _ _).bind_eq_ok.mp h
    obtain ⟨-, -, h⟩ := (reads_call f _).bind_eq_ok.mp h
    obtain ⟨u, hnone, -⟩ := (reads_ensure _ _).bind_eq_ok.mp h
    cases ensure_eq_ok.mp hnone

theorem validateStateMarker_eq_ok {tree : Tree} {name : Name} (htree : w.trees .state = some tree)
    (hmarker : markersOf tree = [name]) {requireServiceAccess : Bool} {u : Unit} :
    (validateStateMarker f requireServiceAccess w).1 = .ok u ↔ f.Clear (markerCalls requireServiceAccess [name]) := by
  have hlogs : ∀ f : Faults, ((Act.when (!requireServiceAccess) do
      let _retainedLogs ← existingRuntimeLogs f) w).1 = .ok () ↔
      f.Clear (if requireServiceAccess then [] else [[.runtimeLogs]]) := by
    intro f
    cases requireServiceAccess with
    | true => simp [Act.when, Act.pure]
    | false =>
      refine ((reads_existingRuntimeLogs f).bind_eq_ok).trans ?_
      simp [existingRuntimeLogs, (reads_call f _).bind_eq_ok, Plan.fault]
  refine ((reads_existingStateMarker _).bind_eq_ok).trans ?_
  simp only [existingStateMarker_iff htree hmarker, (reads_ofExcept _).bind_eq_ok, ofExcept_eq_ok, okOr_eq_ok,
    (reads_call _ _).bind_eq_ok, call_eq_ok,
      (((reads_existingRuntimeLogs _).bind fun _ => reads_pure ()).when _).bind_eq_ok,
    markerCalls, markerCall, clear_under, clear_append, clear_cons, clear_nil, List.flatMap_cons, List.flatMap_nil,
    List.append_nil, exists_const, and_true]
  constructor
  · rintro ⟨found, ⟨⟨henum, hfirst⟩, rfl⟩, marker, hfound, hagain, ⟨⟩, hwhen, hdacl, hmarkerDacl⟩
    cases Option.some.inj hfound
    exact ⟨⟨⟨henum, hfirst, hagain⟩, (hlogs _).mp hwhen⟩, hdacl, hmarkerDacl⟩
  · rintro ⟨⟨⟨henum, hfirst, hagain⟩, hwhen⟩, hdacl, hmarkerDacl⟩
    exact ⟨some name, ⟨⟨henum, hfirst⟩, rfl⟩, name, rfl, hagain, (), (hlogs _).mpr hwhen, hdacl, hmarkerDacl⟩

theorem validateStateMarker_marker {tree : Tree} {requireServiceAccess : Bool} {u : Unit}
    (htree : w.trees .state = some tree) (h : (validateStateMarker f requireServiceAccess w).1 = .ok u) :
    ∃ name, markersOf tree = [name] := by
  obtain ⟨found, hfound, h⟩ := (reads_existingStateMarker _).bind_eq_ok.mp h
  obtain ⟨name, hname, -⟩ := (reads_ofExcept _).bind_eq_ok.mp h
  rw [ofExcept_eq_ok, okOr_eq_ok] at hname
  exact ⟨name, markersOf_of_existingStateMarker htree (hname ▸ hfound)⟩

/-! ## The preflight -/

/-- The service, when the preflight accepts it. -/
def acceptedService (running : Bool) : Service := ⟨sidTypeUnrestricted, true, if running then .running else .stopped⟩

/-- What a preflight that succeeds has found, and left. -/
structure Accepted (pkg : Package) (w : World) (running : Bool) (w' : World) : Prop where
  service : w.service = some (acceptedService running)
  marker : ∀ tree, w.trees .state = some tree → ∃ name, markersOf tree = [name]
  world : w' = (w.create .uninstallJournalRoot).setFile .uninstall .snapshot
    (some (.uninstall (uninstallSnapshot pkg running)))

theorem createProtectedJournal_ok (root : JournalRoot) :
    wp (createProtectedJournal f root) (fun r w' => r = .ok () → w' = w.create (.journal root)) w := by
  unfold createProtectedJournal createSystemAdminOnlyDirectory
  refine (reads_ensure _ _).wp_bind (fun e he => by cases he) fun _ _ => ?_
  rw [Act.wp_bind, wp_effect]
  cases f.fault (.createDirectory (.journal root)) with
  | some failure => exact fun he => by cases he
  | none =>
    cases f.fault .verifyDirectory with
    | none => exact fun _ => rfl
    | some failure =>
      show wp (_ >>= _) _ _
      rw [Act.wp_bind, wp_attempt]
      exact wp_mono (P := fun _ _ => True) trivial fun r w' _ he => by cases he

theorem writeNewPrivate_ok (root : JournalRoot) (file : JournalFile) (content : Content) :
    wp (writeNewPrivate f root file content) (fun r w' => r = .ok () → w' = w.setFile root file (some content)) w := by
  unfold writeNewPrivate
  refine (reads_ensure _ _).wp_bind (fun e he => by cases he) fun _ _ => ?_
  rw [wp_effect]
  cases f.fault (.write file) with
  | none => exact fun _ => rfl
  | some failure => exact fun he => by cases he

theorem preflightUninstall_accepts :
    wp (preflightUninstall pkg f) (fun r w' => r = .ok () → ∃ running, Accepted pkg w running w') w := by
  have herror : ∀ (e : Error) w', Except.error e = (.ok () : Except Error Unit) →
      ∃ running, Accepted pkg w running w' :=
    fun e w' he => by cases he
  unfold preflightUninstall
  refine (reads_ensureAbsent f _ _).wp_bind (fun e => herror e w) fun _ _ => ?_
  refine (reads_validateOptionalRoot f _).wp_bind (fun e => herror e w) fun _ _ => ?_
  refine (reads_ensure _ _).wp_bind (fun e => herror e w) fun _ _ => ?_
  refine (reads_call f _).wp_bind (fun e => herror e w) fun _ _ => ?_
  refine (reads_validateProgramTree f).wp_bind (fun e => herror e w) fun _ _ => ?_
  refine (reads_openClientService f).wp_bind (fun e => herror e w) fun opened hopened => ?_
  refine (reads_ofExcept _).wp_bind (fun e => herror e w) fun service hservice => ?_
  refine (reads_call f _).wp_bind (fun e => herror e w) fun _ _ => ?_
  refine (reads_queryServiceSidType f _).wp_bind (fun e => herror e w) fun sidType hsid => ?_
  refine (reads_ensure _ _).wp_bind (fun e => herror e w) fun _ hunrestricted => ?_
  refine (reads_queryFailureActionsOnNonCrash f _).wp_bind (fun e => herror e w) fun restarts hrestarts => ?_
  refine (reads_ensure _ _).wp_bind (fun e => herror e w) fun _ hrestart => ?_
  refine (reads_validateOptionalRoot f _).wp_bind (fun e => herror e w) fun stateExists hstate => ?_
  refine (((reads_validateTree f _).bind fun _ => reads_validateStateMarker f true).when _).wp_bind
    (fun e => herror e w) fun _ hmarker => ?_
  refine (reads_serviceIsActive f _).wp_bind (fun e => herror e w) fun running hrunning => ?_
  have haccepted : w.service = some (acceptedService running) := by
    obtain ⟨-, -, hget⟩ := (reads_call f _).bind_eq_ok.mp hopened
    obtain ⟨-, -, hsid⟩ := (reads_call f _).bind_eq_ok.mp hsid
    obtain ⟨-, -, hrestarts⟩ := (reads_call f _).bind_eq_ok.mp hrestarts
    obtain ⟨-, -, hrunning⟩ := (reads_call f _).bind_eq_ok.mp hrunning
    rw [gets_eq_ok.mp hget, okOr_eq_ok.mp (ofExcept_eq_ok.mp hservice)]
    have hsid : service.sidType = sidTypeUnrestricted :=
      (pure_eq_ok.mp hsid).trans (of_decide_eq_true (ensure_eq_ok.mp hunrestricted))
    have hrestarts : service.failureActionsOnNonCrash = true :=
      (pure_eq_ok.mp hrestarts).trans (ensure_eq_ok.mp hrestart)
    obtain ⟨sid, restarts', state⟩ := service
    cases state with
    | running =>
      cases pure_eq_ok.mp hrunning
      exact congrArg some (Service.mk.injEq .. ▸ ⟨hsid, hrestarts, rfl⟩)
    | stopped =>
      cases pure_eq_ok.mp hrunning
      exact congrArg some (Service.mk.injEq .. ▸ ⟨hsid, hrestarts, rfl⟩)
    | changing _ | unsupported => exact (throw_eq_ok.mp hrunning).elim
  have hmarkers : ∀ tree, w.trees .state = some tree → ∃ name, markersOf tree = [name] := by
    intro tree htree
    have hexists : stateExists = true := (validateOptionalRoot_eq_ok hstate).trans (Option.isSome_of_mem htree)
    subst hexists
    obtain ⟨-, -, hvalid⟩ := (reads_validateTree f _).bind_eq_ok.mp hmarker
    exact validateStateMarker_marker htree hvalid
  rw [Act.wp_bind]
  refine wp_mono (createProtectedJournal_ok .uninstall) fun r w' hcreate => ?_
  cases r with
  | error e => exact herror e w'
  | ok u =>
    show wp (_ >>= _) _ w'
    rw [hcreate rfl, Act.wp_bind, wp_attempt]
    refine wp_mono (writeNewPrivate_ok _ _ _) fun r w'' hwrite => ?_
    cases r with
    | ok u => exact fun _ => ⟨running, haccepted, hmarkers, hwrite rfl⟩
    | error e =>
      show wp (_ >>= _) _ _
      rw [Act.wp_bind, wp_attempt]
      exact wp_mono (P := fun _ _ => True) trivial fun _ _ _ he => by cases he

/-! ## The retirement of the state -/

/-- What a write leaves of a new file that failed. -/
def Failure.leaves (failure : Failure) (content : Content) : Option Content :=
  match failure.stage with
  | 0 => none
  | 1 => some .unreadable
  | _ => some content

section

variable (failure : Failure) (root : JournalRoot) (file : JournalFile) (content : Content)

theorem trees_partlyWrite : (w.partlyWrite failure root file content).trees = w.trees := by
  unfold World.partlyWrite
  split <;> rfl

theorem service_partlyWrite : (w.partlyWrite failure root file content).service = w.service := by
  unfold World.partlyWrite
  split <;> rfl

theorem file_partlyWrite_of_ne {file' : JournalFile} (hne : file' ≠ file) :
    (w.partlyWrite failure root file content).file root file' = w.file root file' := by
  unfold World.partlyWrite
  split
  · rfl
  · rw [World.file_setFile, if_neg fun h => hne h.2]
  · rw [World.file_setFile, if_neg fun h => hne h.2]

theorem file_partlyWrite {folder : Folder} (hfolder : w.journals root = some folder) (hnone : w.file root file = none) :
    (w.partlyWrite failure root file content).file root file = failure.leaves content := by
  have hset : ∀ content, (w.setFile root file content).file root file = content := fun content => by
    rw [World.file_setFile, if_pos ⟨rfl, rfl⟩, hfolder, Option.bind_some]
  obtain ⟨stage, entries, files⟩ := failure
  match stage with
  | 0 => exact hnone
  | 1 | _ + 2 => exact hset _

end

theorem writeNewPrivate_eq {root : JournalRoot} {file : JournalFile} (content : Content)
    (h : w.file root file = none) :
    writeNewPrivate f root file content w =
      match f [.write file] with
      | none => (.ok (), w.setFile root file (some content))
      | some failure => (.error failed, w.partlyWrite failure root file content) := by
  have hnone : ((Act.ensure (fun w : World => (w.file root file).isNone) (Error.io .alreadyExists)) w).1 = .ok () := by
    rw [ensure_eq_ok, h]
    rfl
  exact ((reads_ensure _ _).bind_eq hnone _).trans (effect_eq f _ _ _ w)

/-- The descriptors of a tree, as they are saved. -/
def savedOf (tree : Tree) : List (List Name × Sddl) := tree.map fun e => (e.path, e.sddl)

theorem saveAcl_eq {tree : Tree} (htree : w.trees .state = some tree) (hfile : w.file .uninstall .stateAcl = none)
    (hclear : f.Clear saveCalls) : saveAcl f .state .uninstall .stateAcl w =
      match f writeAclCall with
      | none => (.ok (), w.setFile .uninstall .stateAcl (some (.acl (savedOf tree))))
      | some failure => (.error failed, w.partlyWrite failure .uninstall .stateAcl (.acl (savedOf tree))) := by
  simp only [saveCalls, clear_under, clear_append, clear_cons, clear_nil, and_true] at hclear
  have hpresent : w.present .stateRoot = true := Option.isSome_of_mem htree
  unfold saveAcl
  rw [(reads_validateTree _ _).bind_eq (a := ()) (validateTree_eq_ok.mpr ⟨hpresent, hclear.1⟩),
    (reads_call _ _).bind_eq (a := ()) (call_eq_ok.mpr hclear.2), (reads_gets _).bind_eq rfl, htree,
    writeNewPrivate_eq _ hfile]
  rfl

theorem saveAcl_fails (hclear : ¬ f.Clear saveCalls) :
    ∃ e, saveAcl f .state .uninstall .stateAcl w = (.error e, w) := by
  simp only [saveCalls, clear_under, clear_append, clear_cons, clear_nil, and_true] at hclear
  unfold saveAcl
  by_cases htree : (validateTree (f.within (.saveAcl .state)) .stateRoot w).1 = .ok ()
  · rw [(reads_validateTree _ _).bind_eq htree]
    refine (reads_call _ _).bind_fails (fun u hu => ?_) _
    exact hclear ⟨(validateTree_eq_ok.mp htree).2, call_eq_ok.mp hu⟩
  · exact (reads_validateTree _ _).bind_fails (fun u hu => htree hu) _

/-- An entry without its descriptor. -/
def Entry.file (e : Entry) : List Name × Option (List UInt8) := (e.path, e.content)

/-- The same world, but for the descriptors of the state. -/
structure Alike (w w' : World) : Prop where
  journals : w'.journals = w.journals
  service : w'.service = w.service
  program : w'.trees .program = w.trees .program
  files : (w'.trees .state).map (List.map Entry.file) = (w.trees .state).map (List.map Entry.file)

theorem Alike.refl (w : World) : Alike w w := ⟨rfl, rfl, rfl, rfl⟩

theorem Alike.mapTree {w w' : World} (h : Alike w w') {g : Tree → Tree}
    (hg : ∀ tree, (g tree).map Entry.file = tree.map Entry.file) : Alike w (w'.mapTree .state g) := by
  refine ⟨h.journals, h.service, ?_, ?_⟩
  · exact ((World.trees_setTree _ _ _).trans (if_neg (by decide))).trans h.program
  · rw [World.mapTree, World.trees_setTree, if_pos rfl, ← h.files]
    cases w'.trees .state with
    | none => rfl
    | some tree => exact congrArg some (hg tree)

theorem Alike.tree {w w' : World} (h : Alike w w') {tree : Tree} (htree : w.trees .state = some tree) :
    ∃ tree', w'.trees .state = some tree' ∧ tree'.map Entry.file = tree.map Entry.file := by
  have hfiles := h.files
  rw [htree, Option.map_some, Option.map_eq_some_iff] at hfiles
  exact hfiles

theorem files_applyState (reached : List Name → Bool) (service logs : Bool) (tree : Tree) :
    (applyState pkg reached service logs tree).map Entry.file = tree.map Entry.file := by
  unfold applyState
  rw [List.map_map]
  refine List.map_congr_left fun e _ => ?_
  show Entry.file (if _ then _ else _) = _
  split <;> rfl

theorem files_applySaved (reached : List Name → Bool) (saved : List (List Name × Sddl)) (tree : Tree) :
    (applySaved reached saved tree).map Entry.file = tree.map Entry.file := by
  unfold applySaved
  refine List.ext_getElem (by simp) fun i _ _ => ?_
  simp only [List.getElem_map, List.getElem_mapIdx]
  split <;> rfl

theorem paths_of_files {tree tree' : Tree} (h : tree'.map Entry.file = tree.map Entry.file) :
    tree'.map Entry.path = tree.map Entry.path := by
  have hfst := congrArg (List.map Prod.fst) h
  rw [List.map_map, List.map_map] at hfst
  exact hfst

/-- The marker that is at a path. -/
def markerAt (path : List Name) : Option Name :=
  match path with
  | [name] => if isUnicode name && markerPrefix.isPrefixOf name then some name else none
  | _ => none

theorem markersOf_eq (tree : Tree) : markersOf tree = (tree.map Entry.path).filterMap markerAt := by
  rw [List.filterMap_map]
  rfl

theorem markersOf_of_files {tree tree' : Tree} (h : tree'.map Entry.file = tree.map Entry.file) :
    markersOf tree' = markersOf tree := by
  rw [markersOf_eq, markersOf_eq, paths_of_files h]

theorem keeps_secureStateAcl_alike (service : Bool) : Keeps (Alike w) (secureStateAcl pkg f service) :=
  (reads_existingRuntimeLogs _).keeps.bind fun _ => ((reads_call _ _).when _).keeps.bind fun _ =>
    (reads_validateTree _ _).keeps.bind fun _ => (keeps_effect (fun _ hw => hw.mapTree (files_applyState _ _ _))
      fun _ _ hw => hw.mapTree (files_applyState _ _ _)).bind fun _ =>
    (((reads_call _ _).bind fun _ => reads_call _ _).when _).keeps

theorem secureStateAcl_eq_ok {tree : Tree} (htree : w.trees .state = some tree) {service : Bool} {u : Unit} :
    (secureStateAcl pkg f service w).1 = .ok u ↔ f.Clear (secureCalls (hasLogs tree)) := by
  have hpresent : w.present .stateRoot = true := Option.isSome_of_mem htree
  have hlogs : ∀ (f : Faults) b, (existingRuntimeLogs f w).1 = .ok b ↔ f [.runtimeLogs] = none ∧ b = hasLogs tree := by
    intro f b
    refine ((reads_call f _).bind_eq_ok).trans ?_
    simp only [call_eq_ok, gets_eq_ok, htree, Option.getD_some, exists_const, Plan.fault, hasLogs,
      @eq_comm Bool b]
  refine ((reads_existingRuntimeLogs _).bind_eq_ok).trans ?_
  simp only [hlogs, ((reads_call _ _).when _).bind_eq_ok, (reads_validateTree _ _).bind_eq_ok, validateTree_eq_ok,
    hpresent, Act.bind_eq_ok, effect_eq_ok, when_eq_ok, call_eq_ok, secureCalls, clear_under, clear_append, clear_cons,
    clear_nil, true_and, and_true, exists_const, and_assoc, exists_and_left, exists_eq_left]
  cases hasLogs tree with
  | false => simp
  | true =>
    simp only [clear_cons, clear_nil, and_true, if_true, forall_const]
    rfl

theorem replacePrivate_eq (content : Content) (hfile : w.file .uninstall .replacement = none)
    (hclear : f.Clear [[.inspectFile .replacement], [.write .replacement]]) :
    replacePrivate f .uninstall content w =
      match f [.replace] with
      | none => (.ok (), (w.setFile .uninstall .replacement (some content)).replaceSnapshot .uninstall)
      | some failure =>
        (.error failed, (w.setFile .uninstall .replacement (some content)).partlyReplace failure .uninstall) := by
  simp only [clear_cons, clear_nil, and_true] at hclear
  have hnone : ((Act.ensure (fun w : World => (w.file .uninstall .replacement).isNone)
      (Error.message "stale private replacement file already exists")) w).1 = .ok () := by
    rw [ensure_eq_ok, hfile]
    rfl
  have hwrite : writeNewPrivate f .uninstall .replacement content w =
      (.ok (), w.setFile .uninstall .replacement (some content)) := by
    rw [writeNewPrivate_eq content hfile, hclear.2]
  unfold replacePrivate
  rw [(reads_call f _).bind_eq (a := ()) (call_eq_ok.mpr hclear.1), (reads_ensure _ _).bind_eq hnone,
    bind_of_ok hwrite]
  exact effect_eq f _ _ _ _

/-- Where the replacement is not even written, all but that file is as it was. -/
theorem replacePrivate_fails (content : Content) (hfile : w.file .uninstall .replacement = none)
    (hclear : ¬ f.Clear [[.inspectFile .replacement], [.write .replacement]]) :
    ∃ e w', replacePrivate f .uninstall content w = (.error e, w') ∧ w'.trees = w.trees ∧ w'.service = w.service ∧
      ∀ file, file ≠ .replacement → w'.file .uninstall file = w.file .uninstall file := by
  simp only [clear_cons, clear_nil, and_true] at hclear
  unfold replacePrivate
  by_cases hinspect : f [.inspectFile .replacement] = none
  · have hnone : ((Act.ensure (fun w : World => (w.file .uninstall .replacement).isNone)
        (Error.message "stale private replacement file already exists")) w).1 = .ok () := by
      rw [ensure_eq_ok, hfile]
      rfl
    rw [(reads_call f _).bind_eq (a := ()) (call_eq_ok.mpr hinspect), (reads_ensure _ _).bind_eq hnone]
    cases hwrite : f [.write .replacement] with
    | none => exact absurd ⟨hinspect, hwrite⟩ hclear
    | some failure =>
      have hfailed := writeNewPrivate_eq (f := f) content hfile
      rw [hwrite] at hfailed
      exact ⟨failed, _, bind_of_error hfailed, trees_partlyWrite _ _ _ _, service_partlyWrite _ _ _ _,
        fun _ hne => file_partlyWrite_of_ne _ _ _ _ hne⟩
  · obtain ⟨e, he⟩ := (reads_call f (.inspectFile .replacement)).bind_fails (s := w)
      (fun u hu => hinspect (call_eq_ok.mp hu)) _
    exact ⟨e, w, he, rfl, rfl, fun _ _ => rfl⟩

/-- The world in which a snapshot has been replaced. -/
def World.replaced (w : World) (content : Content) : World :=
  (w.setFile .uninstall .replacement (some content)).replaceSnapshot .uninstall

theorem file_replaced {folder : Folder} (hfolder : w.journals .uninstall = some folder) (content : Content)
    {file : JournalFile} (hne : file ≠ .replacement) : (w.replaced content).file .uninstall file =
      if file = .snapshot then some content else w.file .uninstall file := by
  have hjournal : (w.setFile .uninstall .replacement (some content)).journals .uninstall =
      some (Function.update folder .replacement (some content)) := by
    rw [World.journals_setFile, if_pos rfl, hfolder, Option.map_some]
  have hcontent : (w.setFile .uninstall .replacement (some content)).file .uninstall .replacement = some content := by
    rw [World.file_setFile, if_pos ⟨rfl, rfl⟩, hfolder, Option.bind_some]
  unfold World.replaced World.replaceSnapshot
  rw [World.file_setFile, if_neg fun h => hne h.2, hcontent, World.file_setFile, hjournal]
  by_cases hfile : file = .snapshot
  · rw [if_pos ⟨rfl, hfile⟩, if_pos hfile, Option.bind_some]
  · rw [if_neg fun h => hfile h.2, if_neg hfile, World.file_setFile, if_neg fun h => hne h.2]

/-- A replacement that fails may yet have taken place. -/
theorem replacePrivate_whole (content : Content) (hfile : w.file .uninstall .replacement = none)
    (hclear : f.Clear [[.inspectFile .replacement], [.write .replacement]]) (hwhole : Whole f [.replace]) :
    ∃ r, replacePrivate f .uninstall content w = (r, w.replaced content) ∧ (r = .ok () ↔ f [.replace] = none) := by
  rw [replacePrivate_eq content hfile hclear]
  cases hreplace : f [.replace] with
  | none => exact ⟨_, rfl, by simp⟩
  | some failure =>
    obtain ⟨n, hn⟩ := Nat.exists_eq_add_of_le (hwhole failure hreplace)
    refine ⟨.error failed, Prod.ext rfl ?_, by simp⟩
    show World.partlyReplace _ _ _ = _
    rw [World.partlyReplace, hn, Nat.add_comm]
    rfl

/-- Where it did not, all but the replacement is as it was. -/
theorem replacePrivate_partly (content : Content) (hfile : w.file .uninstall .replacement = none)
    (hclear : f.Clear [[.inspectFile .replacement], [.write .replacement]]) (hwhole : ¬ Whole f [.replace]) :
    ∃ e w', replacePrivate f .uninstall content w = (.error e, w') ∧ w'.trees = w.trees ∧ w'.service = w.service ∧
      ∀ file, file ≠ .replacement → w'.file .uninstall file = w.file .uninstall file := by
  rw [replacePrivate_eq content hfile hclear]
  cases hreplace : f [.replace] with
  | none => exact absurd (fun failure hfailure => by rw [hreplace] at hfailure; cases hfailure) hwhole
  | some failure =>
    have hset : ∀ file, file ≠ .replacement →
        (w.setFile .uninstall .replacement (some content)).file .uninstall file = w.file .uninstall file :=
      fun file hne => by rw [World.file_setFile, if_neg fun h => hne h.2]
    obtain ⟨stage, entries, files⟩ := failure
    match stage with
    | 0 =>
      refine ⟨_, _, rfl, rfl, rfl, fun file hne => ?_⟩
      show World.file (World.setFile _ _ _ _) _ _ = _
      rw [World.file_setFile, if_neg fun h => hne h.2, hset file hne]
    | 1 => exact ⟨_, _, rfl, rfl, rfl, hset⟩
    | n + 2 =>
      refine absurd (fun failure hfailure => ?_) hwhole
      cases Option.some.inj (hreplace.symm.trans hfailure)
      exact Nat.le_add_left 2 n

/-- What a preflight has recorded that accepts this world, and nothing else. -/
structure Recorded (pkg : Package) (s : UninstallSnapshot) (w : World) : Prop where
  marker : ∀ tree, w.trees .state = some tree → ∃ name, markersOf tree = [name]
  snapshot : w.file .uninstall .snapshot = some (.uninstall s)
  current : s.current pkg = true
  unmarked : s.stateAclSaved = false
  others : ∀ file, file ≠ .snapshot → w.file .uninstall file = none
  service : w.service.isSome = true

/-- What `save_acl` leaves in its file. -/
def aclFile (f : Faults) (tree : Tree) : Option Content :=
  if f.Clear saveCalls then
    match f writeAclCall with
    | none => some (.acl (savedOf tree))
    | some failure => failure.leaves (.acl (savedOf tree))
  else none

/-- How the retirement of the state ends, which began with this snapshot. -/
structure Retirement (f : Faults) (s : UninstallSnapshot) (tree : Tree) (w : World) (r : Except Error Unit)
    (w' : World) : Prop where
  ok : r = .ok () ↔ f.Clear (retireCalls tree)
  marked : Marks f → w'.file .uninstall .snapshot = some (.uninstall { s with stateAclSaved := true })
  unmarked : ¬ Marks f → w'.file .uninstall .snapshot = some (.uninstall s) ∧ w'.trees .state = some tree
  acl : w'.file .uninstall .stateAcl = aclFile f tree
  purge : w'.file .uninstall .purgeStarted = none
  service : w'.service = w.service
  program : w'.trees .program = w.trees .program
  files : (w'.trees .state).map (List.map Entry.file) = some (tree.map Entry.file)

variable {s : UninstallSnapshot} {tree : Tree}

theorem Recorded.journal (hw : Recorded pkg s w) : ∃ folder, w.journals .uninstall = some folder := by
  obtain ⟨folder, hfolder, -⟩ := Option.bind_eq_some_iff.mp hw.snapshot
  exact ⟨folder, hfolder⟩

/-- An error before the snapshot is replaced. -/
theorem Retirement.of_unmarked (hw : Recorded pkg s w) (hstate : w.trees .state = some tree) {e : Error} {w' : World}
    (hmarks : ¬ f.Clear markCalls ∨
    ¬ Whole f [.replace]) (hretire : ¬ f.Clear (retireCalls tree))
    (htrees : w'.trees = w.trees) (hservice : w'.service = w.service)
    (hfiles : ∀ file, file ≠ .replacement → file ≠ .stateAcl → w'.file .uninstall file = w.file .uninstall file)
    (hacl : w'.file .uninstall .stateAcl = aclFile f tree) : Retirement f s tree w (.error e) w' where
  ok := ⟨fun h => (by cases h), fun h => absurd h hretire⟩
  marked := fun h => hmarks.elim (fun hm => absurd h.1 hm) fun hm => absurd h.2 hm
  unmarked := fun _ => ⟨(hfiles _ (by decide) (by decide)).trans hw.snapshot, (congrFun htrees _).trans hstate⟩
  acl := hacl
  purge := (hfiles _ (by decide) (by decide)).trans (hw.others _ (by decide))
  service := hservice
  program := congrFun htrees _
  files := by rw [htrees, hstate, Option.map_some]

/-- What comes after the snapshot was replaced changes no more than the descriptors. -/
theorem Retirement.of_alike {w₁ w' : World} {r : Except Error Unit} (hmarks : Marks f)
    (hok : r = .ok () ↔ f.Clear (retireCalls tree))
    (hsnapshot : w₁.file .uninstall .snapshot = some (.uninstall { s with stateAclSaved := true }))
    (hacl : w₁.file .uninstall .stateAcl = aclFile f tree) (hpurge : w₁.file .uninstall .purgeStarted = none)
    (hservice : w₁.service = w.service) (htrees : w₁.trees = w.trees) (hstate : w.trees .state = some tree)
    (halike : Alike w₁ w') : Retirement f s tree w r w' where
  ok := hok
  marked := fun _ => by rw [World.file, halike.journals]; exact hsnapshot
  unmarked := fun h => absurd hmarks h
  acl := by rw [World.file, halike.journals]; exact hacl
  purge := by rw [World.file, halike.journals]; exact hpurge
  service := halike.service.trans hservice
  program := halike.program.trans (congrFun htrees _)
  files := by rw [halike.files, htrees, hstate, Option.map_some]

/-- The end of the retirement, from the replaced snapshot on. -/
theorem secured_outcome {name : Name} (htree : w.trees .state = some tree) (hmarker : markersOf tree = [name]) :
    Alike w ((secureSystemAdminOnly pkg f >>= fun _ => validateStateMarker f false) w).2 ∧
      (((secureSystemAdminOnly pkg f >>= fun _ => validateStateMarker f false) w).1 = .ok () ↔
        f.Clear (secureCalls (hasLogs tree)) ∧ f.Clear (markerCalls false (markersOf tree))) := by
  refine ⟨(keeps_secureStateAcl_alike false).bind (fun _ => (reads_validateStateMarker f false).keeps) w (.refl w), ?_⟩
  have hsecure : ∀ u, (secureSystemAdminOnly pkg f w).1 = .ok u ↔ f.Clear (secureCalls (hasLogs tree)) :=
    fun u => secureStateAcl_eq_ok htree
  obtain ⟨tree', htree', hfiles⟩ := (@keeps_secureStateAcl_alike pkg f w false w (.refl w)).tree htree
  have hmarker' : markersOf tree' = [name] := (markersOf_of_files hfiles).trans hmarker
  simp only [Act.bind_eq_ok, hsecure, exists_const]
  rw [hmarker, ← validateStateMarker_eq_ok (u := ()) htree' hmarker']
  rfl

theorem retireState_outcome (hw : Recorded pkg s w) (hstate : w.trees .state = some tree) :
    ∃ r w', retireState pkg f s w = (r, w') ∧ Retirement f s tree w r w' := by
  obtain ⟨folder, hfolder⟩ := hw.journal
  have hnoAcl := hw.others .stateAcl (by decide)
  unfold retireState
  by_cases hsave : f.Clear saveCalls
  · cases hwrite : f writeAclCall with
    | some failure =>
      have hfailed := saveAcl_eq hstate hnoAcl hsave
      rw [hwrite] at hfailed
      refine ⟨_, _, bind_of_error hfailed, .of_unmarked hw hstate (Or.inl ?_) ?_ (trees_partlyWrite _ _ _ _)
        (service_partlyWrite _ _ _ _) (fun _ _ hne => file_partlyWrite_of_ne _ _ _ _ hne) ?_⟩
      · simp [markCalls, hwrite]
      · simp [retireCalls, markCalls, hwrite]
      · rw [aclFile, if_pos hsave, hwrite]
        exact file_partlyWrite _ _ _ _ hfolder hnoAcl
    | none =>
      have hsaved := saveAcl_eq hstate hnoAcl hsave
      rw [hwrite] at hsaved
      rw [bind_of_ok hsaved]
      have hacl : (w.setFile .uninstall .stateAcl (some (.acl (savedOf tree)))).file .uninstall .stateAcl =
          aclFile f tree := by
        rw [World.file_setFile, if_pos ⟨rfl, rfl⟩, hfolder, Option.bind_some, aclFile, if_pos hsave, hwrite]
      have hothers : ∀ file, file ≠ .stateAcl →
          (w.setFile .uninstall .stateAcl (some (.acl (savedOf tree)))).file .uninstall file =
            w.file .uninstall file := fun file hne => by
        rw [World.file_setFile, if_neg fun h => hne h.2]
      have hnoReplacement := (hothers .replacement (by decide)).trans (hw.others _ (by decide))
      by_cases hreplace : f.Clear [[.inspectFile .replacement], [.write .replacement]]
      · by_cases hwhole : Whole f [.replace]
        · obtain ⟨name, hname⟩ := hw.marker tree hstate
          obtain ⟨r, hr, hok⟩ := replacePrivate_whole (.uninstall { s with stateAclSaved := true }) hnoReplacement
            hreplace hwhole
          have hmarks : Marks f := by
            refine ⟨?_, hwhole⟩
            simp only [clear_cons, clear_nil, and_true] at hreplace
            simp [markCalls, hsave, hwrite, hreplace]
          have hjournal : (w.setFile .uninstall .stateAcl (some (.acl (savedOf tree)))).journals .uninstall =
              some (Function.update folder .stateAcl (some (.acl (savedOf tree)))) := by
            rw [World.journals_setFile, if_pos rfl, hfolder, Option.map_some]
          have hreached := fun file => @file_replaced _ _ hjournal (.uninstall { s with stateAclSaved := true }) file
          obtain ⟨halike, htail⟩ := @secured_outcome pkg f
            ((w.setFile .uninstall .stateAcl (some (.acl (savedOf tree)))).replaced
              (.uninstall { s with stateAclSaved := true })) _ _ hstate hname
          have houtcome : ∀ {r w'}, (r = .ok () ↔ f.Clear (retireCalls tree)) → Alike _ w' →
              Retirement f s tree w r w' := fun hok halike =>
            .of_alike hmarks hok (hreached _ (by decide)) ((hreached _ (by decide)).trans hacl)
              ((hreached _ (by decide)).trans ((hothers _ (by decide)).trans (hw.others _ (by decide)))) rfl rfl
              hstate halike
          cases r with
          | error e =>
            refine ⟨_, _, bind_of_error hr, houtcome ⟨fun h => (by cases h), fun h => ?_⟩ (.refl _)⟩
            exact absurd (hok.mpr (by simp_all [retireCalls])) (by simp)
          | ok u =>
            rw [bind_of_ok hr]
            refine ⟨_, _, rfl, houtcome (htail.trans ?_) halike⟩
            rw [retireCalls, clear_append, clear_append, clear_append]
            have hdone : f.Clear [[.replace]] := by simpa using hok.mp rfl
            exact ⟨fun h => ⟨⟨⟨hmarks.1, hdone⟩, h.1⟩, h.2⟩, fun h => ⟨h.1.2, h.2⟩⟩
        · obtain ⟨e, w', he, htrees, hservice, hfiles⟩ := replacePrivate_partly
            (.uninstall { s with stateAclSaved := true }) hnoReplacement hreplace hwhole
          refine ⟨_, _, bind_of_error he, .of_unmarked hw hstate (Or.inr hwhole) ?_ htrees hservice
            (fun file hne hne' => (hfiles file hne).trans (hothers file hne')) ((hfiles _ (by decide)).trans hacl)⟩
          refine fun h => hwhole fun failure hfailure => ?_
          have hnone : f [.replace] = none := by simp_all [retireCalls]
          cases hnone.symm.trans hfailure
      · obtain ⟨e, w', he, htrees, hservice, hfiles⟩ := replacePrivate_fails
          (.uninstall { s with stateAclSaved := true }) hnoReplacement hreplace
        refine ⟨_, _, bind_of_error he, .of_unmarked hw hstate (Or.inl ?_) ?_ htrees hservice
          (fun file hne hne' => (hfiles file hne).trans (hothers file hne')) ((hfiles _ (by decide)).trans hacl)⟩
        · exact fun h => hreplace ((clear_append _ _).mp h).2
        · exact fun h => hreplace (by simp_all [retireCalls, markCalls])
  · obtain ⟨e, he⟩ := saveAcl_fails (w := w) hsave
    refine ⟨_, _, bind_of_error he, .of_unmarked hw hstate (Or.inl ?_) ?_ rfl rfl (fun _ _ _ => rfl) ?_⟩
    · simp [markCalls, hsave]
    · simp [retireCalls, markCalls, hsave]
    · rw [aclFile, if_neg hsave]
      exact hnoAcl

/-! ## What is restored -/

theorem Entry.eq_of_file {e e' : Entry} (hfile : e'.file = e.file) : { e' with sddl := e.sddl } = e := by
  obtain ⟨path, content, sddl⟩ := e
  obtain ⟨path', content', sddl'⟩ := e'
  cases hfile
  rfl

/-- The same files get the descriptors back that were saved of them. -/
theorem applySaved_savedOf {tree' : Tree} (hfiles : tree'.map Entry.file = tree.map Entry.file) :
    applySaved (fun _ => true) (savedOf tree) tree' = tree := by
  have hlength : tree'.length = tree.length := by simpa using congrArg List.length hfiles
  refine List.ext_getElem (by simpa [applySaved] using hlength) fun i hi hi' => ?_
  have hi'' : i < tree'.length := hlength ▸ hi'
  have hfile : tree'[i].file = tree[i].file := by
    have hget := congrArg (fun l => l[i]?) hfiles
    simpa [hi', hi''] using hget
  simp only [applySaved, savedOf, List.getElem_mapIdx, if_true, List.getElem?_map, List.getElem?_eq_getElem hi',
    Option.map_some, Option.getD_some]
  exact Entry.eq_of_file hfile

theorem applySaved_self (reached : List Name → Bool) : applySaved reached (savedOf tree) tree = tree := by
  refine List.ext_getElem (by simp [applySaved]) fun i hi hi' => ?_
  simp only [applySaved, savedOf, List.getElem_mapIdx, List.getElem?_map, List.getElem?_eq_getElem hi',
    Option.map_some, Option.getD_some]
  split <;> rfl

theorem keeps_restoreAcl_alike {root : JournalRoot} {file : JournalFile} :
    Keeps (Alike w) (restoreAcl f .state root file) := by
  refine (reads_readFile _ _ _).keeps.bind fun content => ?_
  cases content with
  | acl saved =>
    refine (reads_validateTree _ _).keeps.bind fun _ => (reads_call _ _).keeps.bind fun _ =>
      (reads_ensure _ _).keeps.bind fun _ => ?_
    exact keeps_effect (fun _ hw => hw.mapTree (files_applySaved _ _)) fun _ _ hw => hw.mapTree (files_applySaved _ _)
  | _ => exact (reads_throw _).keeps

/-- What an access control list that is saved says. -/
def Faithful (tree : Tree) (w : World) : Prop :=
  ∀ saved, w.file .uninstall .stateAcl = some (.acl saved) → saved = savedOf tree

theorem restoreAcl_eq_ok {tree' : Tree} (hstate : w.trees .state = some tree')
    (hfiles : tree'.map Entry.file = tree.map Entry.file) (hacl : Faithful tree w) {u : Unit} :
    (restoreAcl f .state .uninstall .stateAcl w).1 = .ok u ↔
      w.file .uninstall .stateAcl = some (.acl (savedOf tree)) ∧ f.Clear restoreCalls := by
  have hpresent : w.present .stateRoot = true := Option.isSome_of_mem hstate
  have hmatch : tree'.map Entry.path = (savedOf tree).map Prod.fst := by
    rw [paths_of_files hfiles, savedOf, List.map_map]
    rfl
  have hread : ∀ content, (readFile (f.within (.restoreAcl .state)) .uninstall .stateAcl w).1 = .ok content ↔
      f [.restoreAcl .state, .read .stateAcl] = none ∧ w.file .uninstall .stateAcl = some content :=
    fun content => readFile_iff
  refine ((reads_readFile _ _ _).bind_eq_ok).trans ?_
  simp only [hread, restoreCalls, clear_under, clear_append, clear_cons, clear_nil, and_true]
  constructor
  · rintro ⟨content, ⟨hreadable, hcontent⟩, h⟩
    cases content with
    | acl saved =>
      cases hacl saved hcontent
      obtain ⟨_, htree, h⟩ := (reads_validateTree _ _).bind_eq_ok.mp h
      obtain ⟨_, hdescriptors, h⟩ := (reads_call _ _).bind_eq_ok.mp h
      obtain ⟨-, -, h⟩ := (reads_ensure _ _).bind_eq_ok.mp h
      exact ⟨hcontent, ⟨hreadable, (validateTree_eq_ok.mp htree).2⟩, call_eq_ok.mp hdescriptors, effect_eq_ok.mp h⟩
    | _ => exact (throw_eq_ok.mp h).elim
  · rintro ⟨hcontent, ⟨hreadable, htree⟩, hdescriptors, hset⟩
    refine ⟨_, ⟨hreadable, hcontent⟩, ?_⟩
    refine (reads_validateTree _ _).bind_eq_ok.mpr ⟨(), validateTree_eq_ok.mpr ⟨hpresent, htree⟩, ?_⟩
    refine (reads_call _ _).bind_eq_ok.mpr ⟨(), call_eq_ok.mpr hdescriptors, ?_⟩
    refine (reads_ensure _ _).bind_eq_ok.mpr ⟨(), ensure_eq_ok.mpr ?_, effect_eq_ok.mpr hset⟩
    rw [hstate]
    exact decide_eq_true hmatch

/-- A state that has its descriptors keeps them, also where the restoration fails. -/
theorem restoreAcl_tree {tree' : Tree} (hstate : w.trees .state = some tree')
    (hfiles : tree'.map Entry.file = tree.map Entry.file) (hacl : Faithful tree w) :
    wp (restoreAcl f .state .uninstall .stateAcl)
      (fun r w' => r = .ok () ∨ tree' = tree → w'.trees .state = some tree) w := by
  have hsame : ∀ e : Error, .error e = (.ok () : Except Error Unit) ∨ tree' = tree → w.trees .state = some tree :=
    fun e h => h.elim (fun h => by cases h) fun h => h ▸ hstate
  have hmap : ∀ g : Tree → Tree, (w.mapTree .state g).trees .state = some (g tree') := fun g => by
    rw [World.mapTree, World.trees_setTree, if_pos rfl, hstate, Option.map_some]
  unfold restoreAcl
  refine (reads_readFile _ _ _).wp_bind hsame fun content hcontent => ?_
  cases content with
  | acl saved =>
    cases hacl saved (readFile_eq_ok hcontent)
    refine (reads_validateTree _ _).wp_bind hsame fun _ _ => ?_
    refine (reads_call _ _).wp_bind hsame fun _ _ => ?_
    refine (reads_ensure _ _).wp_bind hsame fun _ _ => ?_
    rw [wp_effect]
    split
    · exact fun _ => (hmap _).trans (congrArg some (applySaved_savedOf hfiles))
    · rintro (h | rfl)
      · cases h
      · exact (hmap _).trans (congrArg some (applySaved_self _))
  | _ => exact hsame _

/-! ## The rollback in `preserve_state` -/

theorem aclFile_isSome : (aclFile f tree).isSome = true ↔ f.Clear saveCalls ∧ Took f writeAclCall := by
  unfold aclFile Took
  by_cases hsave : f.Clear saveCalls
  · rw [if_pos hsave]
    cases f writeAclCall with
    | none => simp [hsave]
    | some failure =>
      obtain ⟨stage, entries, files⟩ := failure
      match stage with
      | 0 | 1 | _ + 2 => simp [hsave, Failure.leaves]
  · simp [hsave]

theorem aclFile_eq_acl {saved : List (List Name × Sddl)} : aclFile f tree = some (.acl saved) ↔
    (f.Clear saveCalls ∧ Whole f writeAclCall) ∧ saved = savedOf tree := by
  unfold aclFile Whole
  by_cases hsave : f.Clear saveCalls
  · rw [if_pos hsave]
    cases f writeAclCall with
    | none => simp [hsave, eq_comm]
    | some failure =>
      obtain ⟨stage, entries, files⟩ := failure
      match stage with
      | 0 | 1 | _ + 2 => simp [hsave, Failure.leaves, eq_comm]
  · simp [hsave]

theorem innerRollback_outcome {r : Except Error Unit} {w' : World} (hretired : Retirement f s tree w r w') :
    wp (rollbackFileExists f .uninstall .stateAcl >>= fun snapshotExists =>
        .when snapshotExists (restoreAcl f .state .uninstall .stateAcl))
      (fun r w'' => Alike w' w'' ∧ (r = .ok () ↔ InnerRollback f) ∧
        (r = .ok () ∨ ¬ Marks f → w''.trees .state = some tree)) w' := by
  have hacl : Faithful tree w' := fun saved h => (aclFile_eq_acl.mp (hretired.acl.symm.trans h)).2
  obtain ⟨tree', hstate, hfiles⟩ := Option.map_eq_some_iff.mp hretired.files
  have hfile : w'.file .uninstall .stateAcl = some (.acl (savedOf tree)) ↔ f.Clear saveCalls ∧
      Whole f writeAclCall := by
    rw [hretired.acl, aclFile_eq_acl, and_iff_left rfl]
  have hexists := (congrArg Option.isSome hretired.acl).symm
  have hmarked : Marks f → f.Clear saveCalls ∧ Took f writeAclCall := by
    rintro ⟨hmarks, -⟩
    simp only [markCalls, clear_append, clear_cons, clear_nil, and_true] at hmarks
    exact ⟨hmarks.1.1, fun failure h => by rw [hmarks.1.2] at h; cases h⟩
  refine ⟨((reads_rollbackFileExists f _ _).keeps.bind fun b => keeps_restoreAcl_alike.when b) w' (.refl w'), ?_⟩
  by_cases hinspect : f [.inspectFile .stateAcl] = none
  · rw [(reads_rollbackFileExists f _ _).bind_eq (rollbackFileExists_iff.mpr ⟨hinspect, hexists⟩)]
    by_cases hsaved : f.Clear saveCalls ∧ Took f writeAclCall
    · rw [aclFile_isSome.mpr hsaved, Act.when, if_pos rfl, restoreAcl_eq_ok hstate hfiles hacl, hfile]
      refine ⟨⟨fun h => ⟨hinspect, fun _ _ => ⟨h.1.2, h.2⟩⟩, fun h => ?_⟩, fun h => ?_⟩
      · exact ⟨⟨hsaved.1, (h.2 hsaved.1 hsaved.2).1⟩, (h.2 hsaved.1 hsaved.2).2⟩
      · refine restoreAcl_tree hstate hfiles hacl (h.imp (fun h => ?_) fun hmarks => ?_)
        · exact (restoreAcl_eq_ok hstate hfiles hacl).mpr ⟨hfile.mpr h.1, h.2⟩
        · exact Option.some.inj (hstate.symm.trans (hretired.unmarked hmarks).2)
    · rw [Bool.eq_false_iff.mpr fun h => hsaved (aclFile_isSome.mp h)]
      refine ⟨⟨fun _ => ⟨hinspect, fun h h' => absurd ⟨h, h'⟩ hsaved⟩, fun _ => rfl⟩, fun _ => ?_⟩
      exact (hretired.unmarked fun h => hsaved (hmarked h)).2
  · obtain ⟨e, he⟩ := (reads_rollbackFileExists f .uninstall .stateAcl).bind_fails (s := w')
      (fun b hb => hinspect (rollbackFileExists_iff.mp hb).1)
      fun snapshotExists => .when snapshotExists (restoreAcl f .state .uninstall .stateAcl)
    rw [he]
    exact ⟨⟨fun h => (by cases h), fun h => absurd h.1 hinspect⟩, fun h => h.elim (fun h => by cases h)
      fun h => (hretired.unmarked h).2⟩

/-! ## The end of `preserve_state` -/

/-- The call that removes the journal. -/
def removeCall : List Call := [.removeTree .uninstallJournalRoot]

/-- What the removal of the journal leaves. -/
structure Removed (f : Faults) (w w' : World) : Prop where
  trees : w'.trees = w.trees
  service : w'.service = w.service
  gone : Took f removeCall → w'.journals .uninstall = none
  kept : ∀ failure ∈ f removeCall, failure.stage = 0 → (w'.journals .uninstall).isSome = true ∧
    ∀ file, w'.file .uninstall file = if failure.files file then none else w.file .uninstall file

theorem removeJournal_outcome (hjournal : w.present .uninstallJournalRoot = true) :
    wp (World.removeTreeNoReparse f .uninstallJournalRoot) (fun _ w' => Removed f w w') w := by
  obtain ⟨folder, hfolder⟩ := Option.isSome_iff_exists.mp (show (w.journals .uninstall).isSome = true from hjournal)
  have hremoved : (w.remove .uninstallJournalRoot).journals .uninstall = none := by
    rw [World.remove, World.journals_setJournal, if_pos rfl]
  have heq : World.removeTreeNoReparse f .uninstallJournalRoot w =
      match f removeCall with
      | none => (.ok (), w.remove .uninstallJournalRoot)
      | some failure => (.error failed, w.partlyRemove failure .uninstallJournalRoot) := by
    have hpresent : (Act.ensure (fun w : World => w.present .uninstallJournalRoot) (Error.io .notFound) w).1 = .ok () :=
      ensure_eq_ok.mpr hjournal
    exact ((reads_ensure _ _).bind_eq hpresent _).trans (effect_eq f _ _ _ w)
  show Removed f w (World.removeTreeNoReparse f .uninstallJournalRoot w).2
  rw [heq]
  cases hremove : f removeCall with
  | none =>
    exact ⟨rfl, rfl, fun _ => hremoved, fun failure h => (by cases hremove.symm.trans h)⟩
  | some failure =>
    by_cases hstage : failure.stage = 0
    · have hpartly : w.partlyRemove failure .uninstallJournalRoot =
          w.setJournal .uninstall (some fun file => if failure.files file then none else folder file) := by
        rw [World.partlyRemove, if_pos hstage, hfolder]
        rfl
      show Removed f w (w.partlyRemove failure .uninstallJournalRoot)
      rw [hpartly]
      refine ⟨rfl, rfl, fun htook => absurd hstage (htook failure hremove), fun failure' h _ => ?_⟩
      cases hremove.symm.trans h
      rw [World.journals_setJournal, if_pos rfl]
      refine ⟨rfl, fun file => ?_⟩
      rw [World.file, World.file, World.journals_setJournal, if_pos rfl, hfolder]
      rfl
    · show Removed f w (w.partlyRemove failure .uninstallJournalRoot)
      rw [World.partlyRemove, if_neg hstage]
      refine ⟨rfl, rfl, fun _ => hremoved, fun failure' h hzero => ?_⟩
      cases hremove.symm.trans h
      exact absurd hzero hstage

/-- The snapshot of the preflight is as it was, and would be removed. -/
structure Original (s : UninstallSnapshot) (w : World) : Prop where
  snapshot : w.file .uninstall .snapshot = some (.uninstall s)
  purge : w.file .uninstall .purgeStarted = none

/-- What the journal holds is enough to restore this tree, or too little to be removed. -/
structure Evidence (s : UninstallSnapshot) (tree : Tree) (w : World) : Prop where
  journal : (w.journals .uninstall).isSome = true
  snapshot : ∀ s', w.file .uninstall .snapshot = some (.uninstall s') → s' = { s with stateAclSaved := true }
  files : (w.trees .state).map (List.map Entry.file) = some (tree.map Entry.file)
  acl : Faithful tree w

/-- How `preserve_state` ends that began with this snapshot. -/
structure Preserved (f : Faults) (s : UninstallSnapshot) (w w' : World) : Prop where
  service : w'.service = w.service
  program : w'.trees .program = w.trees .program
  takesBack : TakesBack f (w.trees .state) → w'.journals .uninstall = none ∧ w'.trees .state = w.trees .state
  unmarked : Unmarked f (w.trees .state) → Original s w' ∧ w'.trees .state = w.trees .state
  evidence : ¬ TakesBack f (w.trees .state) → ¬ Unmarked f (w.trees .state) →
    ∃ tree, w.trees .state = some tree ∧ Evidence s tree w'

theorem Recorded.original (hw : Recorded pkg s w) : Original s w := ⟨hw.snapshot, hw.others _ (by decide)⟩

/-- Nothing has been changed. -/
theorem Preserved.of_not_enters (hw : Recorded pkg s w) (henter : ¬ Enters f (w.trees .state)) :
    Preserved f s w w where
  service := rfl
  program := rfl
  takesBack := fun h => absurd h.1 henter
  unmarked := fun _ => ⟨hw.original, rfl⟩
  evidence := fun _ h => absurd (Or.inl henter) h

theorem marks_of_clear (h : f.Clear (retireCalls tree)) : Marks f := by
  simp only [retireCalls, clear_append, clear_cons, clear_nil, and_true] at h
  exact ⟨h.1.1.1, fun failure hfailure => by rw [h.1.1.2] at hfailure; cases hfailure⟩

theorem Retirement.evidence {r : Except Error Unit} {w' : World} (h : Retirement f s tree w r w') (hmarks : Marks f) :
    Evidence s tree w' where
  journal := present_of_file (h.marked hmarks)
  snapshot := fun s' hs' => by
    cases (h.marked hmarks).symm.trans hs'
    rfl
  files := h.files
  acl := fun saved hsaved => (aclFile_eq_acl.mp (h.acl.symm.trans hsaved)).2

theorem pathExists_iff {root : Root} {b : Bool} :
    (pathExists f root w).1 = .ok b ↔ b = ((f [.inspect root]).isNone && w.present root) := by
  unfold pathExists
  cases hinspect : f.fault (.inspect root) with
  | none =>
    rw [show f [.inspect root] = none from hinspect, Option.isNone_none, Bool.true_and, eq_comm (a := b)]
    exact gets_eq_ok
  | some failure =>
    rw [show f [.inspect root] = some failure from hinspect, Option.isNone_some, Bool.false_and, eq_comm (a := b)]
    exact pure_eq_ok

theorem openClientService_eq_ok {service : Option Service} :
    (openClientService f w).1 = .ok service ↔ f [.openService] = none ∧ service = w.service := by
  refine ((reads_call f _).bind_eq_ok).trans ?_
  simp [Plan.fault, @eq_comm (Option Service) service]

/-- `preserve_state`, after what it asks. -/
def preserve (pkg : Package) (f : Faults) (s : UninstallSnapshot) : Action Unit := do
  let result ← .attempt (retireState pkg f s)
  match result with
  | .ok () => return ()
  | .error e =>
    let rollback ← .attempt do
      let snapshotExists ← rollbackFileExists f .uninstall .stateAcl
      .when snapshotExists (restoreAcl f .state .uninstall .stateAcl)
    match rollback with
    | .ok () =>
      let _removed ← .attempt (World.removeTreeNoReparse f .uninstallJournalRoot)
      .throw (.context "state preservation failed; the original ACL was restored" e)
    | .error _ =>
      .throw (.context
        "state preservation and ACL rollback failed; the protected uninstall journal was retained" e)

theorem preserveState_enters (hw : Recorded pkg s w) (hstate : w.trees .state = some tree)
    (henter : f.Clear (enterCalls tree)) : preserveState pkg f w = preserve pkg f s w := by
  obtain ⟨name, hname⟩ := hw.marker tree hstate
  have hpresent : w.present .stateRoot = true := Option.isSome_of_mem hstate
  simp only [enterCalls, clear_append, clear_cons, clear_nil, and_true] at henter
  obtain ⟨⟨⟨⟨⟨hinspect, hsnapshot⟩, hdirectory⟩, htree⟩, hopen, hservice⟩, hmarker⟩ := henter
  have hthere : (Act.ensure (fun _ : World => w.service.isSome)
      (Error.message "xsoc service disappeared during uninstall") w).1 = .ok () := ensure_eq_ok.mpr hw.service
  unfold preserveState preserve
  rewrite [(reads_pathExists f _).bind_eq (a := true)
    (pathExists_iff.mpr (by rw [hinspect, hpresent]; rfl)), if_pos rfl,
    (reads_readUninstallSnapshot f).bind_eq ((readUninstallSnapshot_iff hw.snapshot hw.current
      (hw.others _ (by decide))).mpr ⟨hsnapshot, rfl⟩),
    (reads_validateRealDirectory f _).bind_eq (a := ()) (validateRealDirectory_eq_ok.mpr ⟨hpresent, hdirectory⟩),
    (reads_validateTree f _).bind_eq (a := ()) (validateTree_eq_ok.mpr ⟨hpresent, htree⟩),
    (reads_openClientService f).bind_eq (openClientService_eq_ok.mpr ⟨hopen, rfl⟩),
    (reads_ensure _ _).bind_eq hthere, validateClientService,
    (reads_call f _).bind_eq (a := ()) (call_eq_ok.mpr hservice),
    (reads_validateStateMarker f _).bind_eq (a := ())
      ((validateStateMarker_eq_ok hstate hname).mpr (hname ▸ hmarker))]
  rfl

theorem preserveState_not_enters (hw : Recorded pkg s w) (henter : ¬ Enters f (w.trees .state)) :
    (preserveState pkg f w).2 = w := by
  have hsame : ∀ e : Error, (fun (_ : Except Error Unit) w' => w' = w) (.error e) w := fun _ => rfl
  show wp (preserveState pkg f) (fun _ w' => w' = w) w
  unfold preserveState
  refine (reads_pathExists f _).wp_bind hsame fun stateExists hexists => ?_
  cases stateExists with
  | false => rfl
  | true =>
    have hexists := (pathExists_iff.mp hexists).symm
    rw [Bool.and_eq_true, Option.isNone_iff_eq_none] at hexists
    obtain ⟨tree, hstate⟩ := Option.isSome_iff_exists.mp (show (w.trees .state).isSome = true from hexists.2)
    obtain ⟨name, hname⟩ := hw.marker tree hstate
    rw [if_pos rfl]
    refine (reads_readUninstallSnapshot f).wp_bind hsame fun s' hs' => ?_
    refine (reads_validateRealDirectory f _).wp_bind hsame fun _ hdirectory => ?_
    refine (reads_validateTree f _).wp_bind hsame fun _ htree => ?_
    refine (reads_openClientService f).wp_bind hsame fun service hservice => ?_
    refine (reads_ensure _ _).wp_bind hsame fun _ _ => ?_
    refine (reads_call f _).wp_bind hsame fun _ hvalid => ?_
    refine (reads_validateStateMarker f _).wp_bind hsame fun _ hmarker => ?_
    refine absurd ⟨tree, hstate, ?_⟩ henter
    simp only [enterCalls, clear_append, clear_cons, clear_nil, and_true]
    rw [hname]
    refine ⟨⟨⟨⟨⟨hexists.1, ?_⟩, ?_⟩, ?_⟩, ?_, ?_⟩, (validateStateMarker_eq_ok hstate hname).mp hmarker⟩
    · exact ((readUninstallSnapshot_iff hw.snapshot hw.current (hw.others _ (by decide))).mp hs').1
    · exact (validateRealDirectory_eq_ok.mp hdirectory).2
    · exact (validateTree_eq_ok.mp htree).2
    · exact (openClientService_eq_ok.mp hservice).1
    · exact call_eq_ok.mp hvalid

/-- All cases of the end: it succeeds, or its inner rollback fails, or that succeeds and the journal is removed. -/
theorem preserve_outcome (hw : Recorded pkg s w) (hstate : w.trees .state = some tree)
    (henter : f.Clear (enterCalls tree)) : Preserved f s w (preserve pkg f s w).2 := by
  have henters : Enters f (w.trees .state) := ⟨tree, hstate, henter⟩
  have hnotTaken : f.Clear (retireCalls tree) → ¬ TakesBack f (w.trees .state) :=
    fun hclear h => h.2.1 tree hstate hclear
  have hnotUnmarked : Marks f → ¬ Unmarked f (w.trees .state) :=
    fun hmarks h => h.elim (fun h => h henters) fun h => h.1 hmarks
  obtain ⟨r, w', hr, hretired⟩ := retireState_outcome hw hstate
  show wp (preserve pkg f s) (fun _ w' => Preserved f s w w') w
  unfold preserve
  rw [Act.wp_bind, wp_attempt, wp, hr]
  cases r with
  | ok u =>
    have hclear := hretired.ok.mp rfl
    exact ⟨hretired.service, hretired.program, fun h => absurd h (hnotTaken hclear),
      fun h => absurd h (hnotUnmarked (marks_of_clear hclear)),
      fun _ _ => ⟨tree, hstate, hretired.evidence (marks_of_clear hclear)⟩⟩
  | error e =>
    have hclear : ¬ f.Clear (retireCalls tree) := fun h => by cases hretired.ok.mpr h
    show wp (attempt _ >>= _) _ w'
    rw [Act.wp_bind, wp_attempt]
    refine wp_mono (innerRollback_outcome hretired) fun r w'' ⟨halike, hinner, htree⟩ => ?_
    have hfile : ∀ file, w''.file .uninstall file = w'.file .uninstall file := fun file => by
      rw [World.file, World.file, halike.journals]
    have hfaithful : Faithful tree w'' := fun saved hsaved =>
      (aclFile_eq_acl.mp (hretired.acl.symm.trans ((hfile _).symm.trans hsaved))).2
    have hfiles := halike.files.trans hretired.files
    have hservice := halike.service.trans hretired.service
    have hprogram := halike.program.trans hretired.program
    have hnotMarks : Unmarked f (w.trees .state) → ¬ Marks f := fun h => (h.resolve_left fun h => h henters).1
    cases r with
    | error e' =>
      have hfailed : ¬ InnerRollback f := fun h => by cases hinner.mpr h
      refine ⟨hservice, hprogram, fun h => absurd h.2.2.1 hfailed, fun h => ?_, fun _ h => ⟨tree, hstate, ?_⟩⟩
      · have hmarks := hnotMarks h
        exact ⟨⟨(hfile _).trans (hretired.unmarked hmarks).1, (hfile _).trans hretired.purge⟩,
          (htree (Or.inr hmarks)).trans hstate.symm⟩
      · have hmarks : Marks f := Classical.not_not.mp fun hmarks => h (Or.inr ⟨hmarks, Or.inl hfailed⟩)
        have hevidence := hretired.evidence hmarks
        exact ⟨halike.journals ▸ hevidence.journal, fun s' hs' => hevidence.snapshot s' ((hfile _).symm.trans hs'),
          hfiles, hfaithful⟩
    | ok u =>
      have hjournal : w''.present .uninstallJournalRoot = true := by
        by_cases hmarks : Marks f
        · exact present_of_file ((hfile _).trans (hretired.marked hmarks))
        · exact present_of_file ((hfile _).trans (hretired.unmarked hmarks).1)
      show wp (attempt _ >>= _) _ w''
      rw [Act.wp_bind, wp_attempt]
      refine wp_mono (removeJournal_outcome hjournal) fun _ w₃ hremoved => ?_
      show Preserved f s w w₃
      have hrestored := (congrFun hremoved.trees _).trans ((htree (Or.inl rfl)).trans hstate.symm)
      refine ⟨hremoved.service.trans hservice, (congrFun hremoved.trees _).trans hprogram,
        fun h => ⟨hremoved.gone h.2.2.2, hrestored⟩, fun h => ⟨?_, hrestored⟩, fun hnotTaken hnotUnmarked =>
        ⟨tree, hstate, ?_⟩⟩
      · obtain ⟨failure, hfailure, hstage, hsnapshot⟩ := (h.resolve_left fun h => h henters).2.resolve_left
          fun h => h (hinner.mp rfl)
        have hkept := (hremoved.kept failure hfailure hstage).2
        refine ⟨?_, ?_⟩
        · rw [hkept, hsnapshot, hfile]
          exact (hretired.unmarked (hnotMarks h)).1
        · rw [hkept, hfile, hretired.purge, ite_self]
      · have htook : ¬ Took f removeCall := fun htook =>
          hnotTaken ⟨henters, fun tree' h => Option.some.inj (hstate.symm.trans h) ▸ hclear, hinner.mp rfl, htook⟩
        simp only [Took, not_forall, Decidable.not_not] at htook
        obtain ⟨failure, hfailure, hstage⟩ := htook
        obtain ⟨hthere, hkept⟩ := hremoved.kept failure hfailure hstage
        have hpartly : ∀ {file content}, w₃.file .uninstall file = some content →
            failure.files file = false ∧ w'.file .uninstall file = some content := fun {file content} h => by
          rw [hkept, hfile] at h
          cases hdeleted : failure.files file with
          | true => simp [hdeleted] at h
          | false => simpa [hdeleted] using h
        refine ⟨hthere, fun s' hs' => ?_, ?_, fun saved hsaved => ?_⟩
        · have hmarks : Marks f := Classical.not_not.mp fun hmarks =>
            hnotUnmarked (Or.inr ⟨hmarks, Or.inr ⟨failure, hfailure, hstage, (hpartly hs').1⟩⟩)
          exact (hretired.evidence hmarks).snapshot s' (hpartly hs').2
        · rw [hremoved.trees]
          exact hfiles
        · exact (aclFile_eq_acl.mp (hretired.acl.symm.trans (hpartly hsaved).2)).2

theorem preserveState_outcome (hw : Recorded pkg s w) : Preserved f s w (preserveState pkg f w).2 := by
  by_cases henter : Enters f (w.trees .state)
  · obtain ⟨tree, hstate, hclear⟩ := henter
    rw [preserveState_enters hw hstate hclear]
    exact preserve_outcome hw hstate hclear
  · rw [preserveState_not_enters hw henter]
    exact .of_not_enters hw henter

end

end Maintenance

end Xsoc
