import Xsoc.Maintenance.Commands

/-!
# The state of the client outlives maintenance

A tree of the state that is there while no installation is under way is moved to the quarantine and back, gets other
descriptors and at most new files; it is removed by nothing but the commit of a purge.

* `Has`, `Held` : the files of a tree are all there, under one root;
* `Kept` : and no readable snapshot of an installation says that there was no state, so that no rollback removes it;
* `keeps_*` : each command keeps that, whatever fails in it;
* `client_state_outlives_maintenance` : so does every run.
-/

set_option autoImplicit false

namespace Xsoc

namespace Maintenance

open Faults Act

/-! ## What is kept -/

/-- All entries of `T` are in a tree that is there, with their contents. -/
def Has (T : Tree) (tree : Option Tree) : Prop :=
  ∃ entries ∈ tree, ∀ e ∈ T, ∃ e' ∈ entries, e'.path = e.path ∧ e'.content = e.content

/-- `T` is under the root of the state, or under that of the quarantine. -/
def Held (T : Tree) (w : World) : Prop := Has T (w.trees .state) ∨ Has T (w.trees .quarantine)

/-- An installation that can be rolled back found the state. -/
def StateExisted (w : World) : Prop := ∀ s, w.file .install .snapshot = some (.install s) → s.stateExisted = true

structure Kept (T : Tree) (w : World) : Prop where
  held : Held T w
  stateExisted : StateExisted w

variable {T : Tree} {w w' : World}

theorem Has.map {entries : Option Tree} (h : Has T entries) {g : Tree → Tree}
    (hg : ∀ tree, ∀ e ∈ tree, ∃ e' ∈ g tree, e'.path = e.path ∧ e'.content = e.content) : Has T (entries.map g) := by
  obtain ⟨tree, htree, hT⟩ := h
  rw [Option.mem_def] at htree
  refine ⟨g tree, by rw [htree]; rfl, fun e he => ?_⟩
  obtain ⟨e', he', hpath, hcontent⟩ := hT e he
  obtain ⟨e'', he'', hpath', hcontent'⟩ := hg tree e' he'
  exact ⟨e'', he'', hpath'.trans hpath, hcontent'.trans hcontent⟩

/-- What holds `T` in one root after it did before, and adds no snapshot, keeps it. -/
theorem Kept.of_eq (h : Kept T w) (hstate : Has T (w.trees .state) → Has T (w'.trees .state))
    (hquarantine : w'.trees .quarantine = w.trees .quarantine)
    (hsnapshot : ∀ s, w'.file .install .snapshot = some (.install s) →
      w.file .install .snapshot = some (.install s)) : Kept T w' := by
  refine ⟨?_, fun s hs => h.stateExisted s (hsnapshot s hs)⟩
  rcases h.held with hT | hT
  · exact Or.inl (hstate hT)
  · exact Or.inr (hquarantine ▸ hT)

theorem Kept.setFile (h : Kept T w) {root : JournalRoot} {file : JournalFile} {content : Option Content}
    (hcontent : root = .install → file = .snapshot → ∀ s, content = some (.install s) → s.stateExisted = true) :
    Kept T (w.setFile root file content) := by
  refine ⟨h.held, fun s hs => ?_⟩
  rw [World.file_setFile] at hs
  split at hs
  · next heq =>
    obtain ⟨folder, -, hs⟩ := Option.bind_eq_some_iff.mp hs
    exact hcontent heq.1.symm heq.2.symm s hs
  · exact h.stateExisted s hs

theorem Kept.mapTree (h : Kept T w) {root : TreeRoot} (hroot : root ≠ .quarantine) {g : Tree → Tree}
    (hg : ∀ tree, ∀ e ∈ tree, ∃ e' ∈ g tree, e'.path = e.path ∧ e'.content = e.content) :
    Kept T (w.mapTree root g) := by
  refine h.of_eq (fun hT => ?_) ?_ fun s hs => hs
  · show Has T ((w.setTree root _).trees .state)
    rw [World.trees_setTree]
    split
    · next hstate => exact (hstate ▸ hT).map hg
    · exact hT
  · exact (World.trees_setTree root .quarantine _).trans (if_neg (Ne.symm hroot))

theorem Kept.removeJournal (h : Kept T w) (root : JournalRoot) : Kept T (w.remove (.journal root)) :=
  ⟨h.held, fun s hs => h.stateExisted s (file_remove hs)⟩

theorem Kept.createJournal (h : Kept T w) (root : JournalRoot) : Kept T (w.create (.journal root)) :=
  ⟨h.held, fun s hs => h.stateExisted s (file_create hs)⟩

theorem Kept.partlyRemoveJournal (h : Kept T w) (failure : Failure) (root : JournalRoot) :
    Kept T (w.partlyRemove failure (.journal root)) := by
  refine ⟨?_, fun s hs => h.stateExisted s (file_partlyRemove hs)⟩
  unfold World.partlyRemove
  split <;> exact h.held

/-! ## The program and the service -/

/-- The state, the quarantine and the journals are the same. -/
def SameState (w w' : World) : Prop := (∀ root, root ≠ .program → w'.trees root = w.trees root) ∧
    w'.journals = w.journals

/-- The program and the service make no difference. -/
def Indifferent (I : World → Prop) : Prop := ∀ w w', SameState w w' → I w → I w'

theorem indifferent_kept : Indifferent (Kept T) := fun _ _ h hw =>
  hw.of_eq (fun hT => (h.1 .state (by decide)).symm ▸ hT) (h.1 .quarantine (by decide)) fun s hs => by
    rw [World.file, h.2] at hs
    exact hs

section

variable {I : World → Prop} (hI : Indifferent I) {pkg : Package} (f : Faults)

include hI

theorem keeps_changeService (c : Call) (g : Service → Service) : Keeps I (changeService f c g) := by
  have hmap : ∀ w, I w → I (w.mapService g) := fun w => hI w _ ⟨fun _ _ => rfl, rfl⟩
  refine keeps_effect hmap fun failure w hw => ?_
  show I (if failure.stage = 0 then w else _)
  split
  · exact hw
  · exact hmap w hw

theorem keeps_stopClientService : Keeps I (stopClientService f) :=
  ((keeps_changeService hI _ _ _).bind fun _ => (reads_ensure _ _).keeps).bind fun _ => keeps_changeService hI _ _ _

theorem keeps_secureProgramForService : Keeps I (secureProgramForService pkg f) := by
  have hmap : ∀ g w, I w → I (w.mapTree .program g) := fun g w => hI w _
    ⟨fun root hroot => (World.trees_setTree .program root _).trans (if_neg hroot), rfl⟩
  exact (reads_validateTree _ _).keeps.bind fun _ => keeps_effect (hmap _) fun _ => hmap _

theorem keeps_restoreServiceState (sidType : Nat) (failureActions running : Bool) (programAcl : ProgramAclRestore) :
    Keeps I (restoreServiceState pkg f sidType failureActions running programAcl) := by
  have hprogram : ∀ f, Keeps I (restoreProgramAcl pkg f programAcl) := by
    intro f
    cases programAcl with
    | preserveSnapshot => exact (reads_validateProgramTree f).keeps
    | secureCurrent => exact (keeps_secureProgramForService hI f).bind fun _ => (reads_validateProgramTree f).keeps
  exact (reads_openClientService _).keeps.bind fun _ => (reads_ensure _ _).keeps.bind fun _ =>
    (reads_call _ _).keeps.bind fun _ => (hprogram _).bind fun _ => (keeps_changeService hI _ _ _).bind fun _ =>
    (reads_call _ _).keeps.bind fun _ => (reads_ensure _ _).keeps.bind fun _ =>
    (keeps_changeService hI _ _ _).bind fun _ => (reads_call _ _).keeps.bind fun _ =>
    (reads_ensure _ _).keeps.bind fun _ =>
    ((keeps_changeService hI _ _ _).bind fun _ => (reads_ensure _ _).keeps).bind fun _ =>
    (keeps_changeService hI _ _ _).ite (keeps_stopClientService hI _)

end

/-! ## What keeps it -/

section

variable {pkg : Package} (f : Faults)

theorem keeps_writeNewPrivate {root : JournalRoot} {file : JournalFile} {content : Content}
    (hcontent : root = .install → file = .snapshot → ∀ s, content = .install s → s.stateExisted = true) :
    Keeps (Kept T) (writeNewPrivate f root file content) := by
  have hwritten : ∀ w, Kept T w → Kept T (w.setFile root file (some content)) := fun w hw =>
    hw.setFile fun hroot hfile s hs => hcontent hroot hfile s (Option.some.inj hs)
  refine (reads_ensure _ _).keeps.bind fun _ => keeps_effect hwritten fun failure w hw => ?_
  unfold World.partlyWrite
  split
  · exact hw
  · exact hw.setFile fun _ _ s hs => by cases hs
  · exact hwritten w hw

theorem keeps_replacePrivate (content : Content) : Keeps (Kept T) (replacePrivate f .uninstall content) := by
  have hfile : ∀ file content w, Kept T w → Kept T (w.setFile .uninstall file content) := fun file content w hw =>
    hw.setFile fun hroot => by cases hroot
  refine (reads_call f _).keeps.bind fun _ => (reads_ensure _ _).keeps.bind fun _ =>
    (keeps_writeNewPrivate f fun hroot => (by cases hroot)).bind fun _ => ?_
  refine keeps_effect (fun w hw => hfile _ _ _ (hfile _ _ w hw)) fun failure w hw => ?_
  unfold World.partlyReplace
  split
  · exact hfile _ _ w hw
  · exact hw
  · exact hfile _ _ _ (hfile _ _ w hw)

theorem keeps_removeTreeNoReparse {I : World → Prop} {root : Root} (hremove : ∀ w, I w → I (w.remove root))
    (hpartly : ∀ failure w, I w → I (w.partlyRemove failure root)) : Keeps I (World.removeTreeNoReparse f root) :=
  (reads_ensure _ _).keeps.bind fun _ => keeps_effect hremove hpartly

theorem keeps_removeJournal (root : JournalRoot) : Keeps (Kept T) (World.removeTreeNoReparse f (.journal root)) :=
  keeps_removeTreeNoReparse f (fun _ hw => hw.removeJournal root) fun failure _ hw =>
    hw.partlyRemoveJournal failure root

theorem keeps_createProtectedJournal (root : JournalRoot) : Keeps (Kept T) (createProtectedJournal f root) := by
  refine (reads_ensure _ _).keeps.bind fun _ => (keeps_effect (fun _ hw => hw.createJournal root)
    fun _ _ hw => hw).bind fun _ => ?_
  cases f.fault .verifyDirectory with
  | none => exact (reads_pure ()).keeps
  | some failure => exact (keeps_removeJournal _ root).attempt.bind fun _ => (reads_throw _).keeps

/-- What is there is still there under the other root. -/
theorem Has.rename {source destination : TreeRoot} (h : Has T (w.trees source)) (hne : destination ≠ source) :
    Has T (((w.setTree destination (w.trees source)).setTree source none).trees destination) := by
  rw [World.trees_setTree, if_neg hne, World.trees_setTree, if_pos rfl]
  exact h

/-- A rename needs a tree where it comes from and none where it goes to, so it carries `T` along. -/
theorem rename_carries {source destination : TreeRoot} (hpair : (source = .state ∧ destination = .quarantine) ∨
    (source = .quarantine ∧ destination = .state)) (label : String) (hw : Kept T w) :
    wp (renameManagedDirectoryByHandle f source destination label)
      (fun r w' => Kept T w' ∧ (r = .ok () → Has T (w'.trees destination))) w := by
  unfold renameManagedDirectoryByHandle
  refine (reads_ensureAbsent _ _ _).wp_bind (fun e => ⟨hw, fun he => (by cases he)⟩) fun _ habsent => ?_
  refine (reads_ensure _ _).wp_bind (fun e => ⟨hw, fun he => (by cases he)⟩) fun _ _ => ?_
  have hnot : ¬ Has T (w.trees destination) := by
    rintro ⟨tree, htree, -⟩
    have hnone : (w.trees destination).isSome = false := ensureAbsent_eq_ok habsent
    rw [Option.mem_def.mp htree] at hnone
    cases hnone
  have hrename : Kept T ((w.setTree destination (w.trees source)).setTree source none) ∧
      Has T (((w.setTree destination (w.trees source)).setTree source none).trees destination) := by
    rcases hpair with ⟨rfl, rfl⟩ | ⟨rfl, rfl⟩
    · have hT := (hw.held.resolve_right hnot).rename (show TreeRoot.quarantine ≠ .state by decide)
      exact ⟨⟨Or.inr hT, hw.stateExisted⟩, hT⟩
    · have hT := (hw.held.resolve_left hnot).rename (show TreeRoot.state ≠ .quarantine by decide)
      exact ⟨⟨Or.inl hT, hw.stateExisted⟩, hT⟩
  refine wp_effect.mpr ?_
  split
  · exact ⟨hrename.1, fun _ => hrename.2⟩
  · next failure _ =>
    refine ⟨?_, fun he => (by cases he)⟩
    show Kept T (if failure.stage = 0 then w else _)
    split
    · exact hw
    · exact hrename.1

theorem keeps_rename {source destination : TreeRoot} (hpair : (source = .state ∧ destination = .quarantine) ∨
    (source = .quarantine ∧ destination = .state)) (label : String) :
    Keeps (Kept T) (renameManagedDirectoryByHandle f source destination label) := fun _ hw =>
  (rename_carries f hpair label hw).1

theorem keeps_saveAcl (root : TreeRoot) (journal : JournalRoot) {file : JournalFile} (hfile : file ≠ .snapshot) :
    Keeps (Kept T) (saveAcl f root journal file) :=
  (reads_validateTree _ _).keeps.bind fun _ => (reads_call _ _).keeps.bind fun _ => (reads_gets _).keeps.bind fun _ =>
    keeps_writeNewPrivate _ fun _ h => absurd h hfile

/-- What sets descriptors changes nothing else. -/
theorem keeps_restoreAcl {root : TreeRoot} (hroot : root ≠ .quarantine) (journal : JournalRoot) (file : JournalFile) :
    Keeps (Kept T) (restoreAcl f root journal file) := by
  have hmap : ∀ reached saved w, Kept T w → Kept T (w.mapTree root (applySaved reached saved)) := by
    refine fun reached saved w hw => hw.mapTree hroot fun tree e he => ?_
    obtain ⟨i, hi, rfl⟩ := List.mem_iff_getElem.mp he
    refine ⟨_, List.mem_mapIdx.mpr ⟨i, hi, rfl⟩, ?_⟩
    split <;> exact ⟨rfl, rfl⟩
  refine (reads_readFile _ _ _).keeps.bind fun content => ?_
  cases content with
  | acl saved =>
    exact (reads_validateTree _ _).keeps.bind fun _ => (reads_call _ _).keeps.bind fun _ =>
      (reads_ensure _ _).keeps.bind fun _ => keeps_effect (hmap _ _) fun _ => hmap _ _
  | _ => exact (reads_throw _).keeps

theorem keeps_secureStateAcl (service : Bool) : Keeps (Kept T) (secureStateAcl pkg f service) := by
  have hmap : ∀ reached logs w, Kept T w → Kept T (w.mapTree .state (applyState pkg reached service logs)) := by
    refine fun reached logs w hw => hw.mapTree (by decide) fun tree e he => ⟨_, List.mem_map_of_mem he, ?_⟩
    split <;> exact ⟨rfl, rfl⟩
  exact (reads_existingRuntimeLogs _).keeps.bind fun logs => ((reads_call _ _).when _).keeps.bind fun _ =>
    (reads_validateTree _ _).keeps.bind fun _ => (keeps_effect (hmap _ _) fun _ => hmap _ _).bind fun _ =>
    (((reads_call _ _).bind fun _ => reads_call _ _).when _).keeps

/-- `Kept`, and an entry of the state under this name is none of `T`. -/
def KeptWithout (T : Tree) (name : Name) (w : World) : Prop :=
  Kept T w ∧ (Has T (w.trees .quarantine) ∨ ∀ e ∈ T, e.path ≠ [name])

theorem KeptWithout.mapState {name : Name} (h : KeptWithout T name w) {g : Tree → Tree}
    (hg : ∀ tree, ∀ e ∈ tree, ∃ e' ∈ g tree, e'.path = e.path ∧ e'.content = e.content) :
    KeptWithout T name (w.mapTree .state g) := by
  refine ⟨h.1.mapTree (by decide) hg, ?_⟩
  rw [World.mapTree, World.trees_setTree, if_neg (by decide)]
  exact h.2

theorem KeptWithout.removeEntry {name : Name} (h : KeptWithout T name w) :
    KeptWithout T name (w.mapTree .state (withoutEntry name)) := by
  have hquarantine : (w.mapTree .state (withoutEntry name)).trees .quarantine = w.trees .quarantine := by
    rw [World.mapTree, World.trees_setTree, if_neg (by decide)]
  refine ⟨⟨?_, h.1.stateExisted⟩, hquarantine ▸ h.2⟩
  rcases h.2 with hT | hname
  · exact Or.inr (hquarantine ▸ hT)
  · rcases h.1.held with ⟨tree, htree, hT⟩ | hT
    · left
      refine ⟨withoutEntry name tree, ?_, fun e he => ?_⟩
      · rw [World.mapTree, World.trees_setTree, if_pos rfl, Option.mem_def.mp htree]
        rfl
      · obtain ⟨e', he', hpath, hcontent⟩ := hT e he
        refine ⟨e', List.mem_filter.mpr ⟨he', decide_eq_true ?_⟩, hpath, hcontent⟩
        rw [hpath]
        exact hname e he
    · exact Or.inr (hquarantine ▸ hT)

theorem keeps_appendEntry {I : World → Prop} {f : Faults} {name : Name} {bytes : List UInt8} {sddl : Sddl}
    (hI : ∀ w (g : Tree → Tree), I w → (∀ tree, ∀ e ∈ tree, e ∈ g tree) → I (w.mapTree .state g)) :
    Keeps I (writeNewEntry f name bytes sddl) := by
  refine (reads_ensure _ _).keeps.bind fun _ => keeps_effect (fun w hw => hI w _ hw fun tree e he =>
    List.mem_append_left _ he) fun failure w hw => ?_
  match failure.stage with
  | 0 => exact hw
  | n + 1 => exact hI w _ hw fun tree e he => List.mem_append_left _ he

theorem keeps_secureMarker (name : Name) : Keeps (KeptWithout T name) (secureMarker pkg f name) := by
  have hsecure : ∀ w, KeptWithout T name w → KeptWithout T name (w.mapTree .state fun tree => tree.map fun e =>
      if e.path = [name] then { e with sddl := stateDescriptor pkg true e } else e) := fun w hw =>
    hw.mapState fun tree e he => ⟨_, List.mem_map_of_mem he, by split <;> exact ⟨rfl, rfl⟩⟩
  refine (keeps_effect hsecure fun failure w hw => ?_).bind fun _ => (reads_call _ _).keeps
  split
  · exact hw
  · exact hsecure w hw

/-- The marker is removed again only if it was written just before, where no entry had its name. -/
theorem keeps_writeOrValidateStateMarker : Keeps (Kept T) (writeOrValidateStateMarker pkg f) := by
  refine (reads_validateRealDirectory _ _).keeps.bind fun _ => (reads_existingStateMarker _).keeps.bind fun existing =>
    (reads_gets _).keeps.bind fun isThere => Keeps.ite (reads_call _ _).keeps ?_
  refine keeps_iff.mpr fun w hw => ?_
  by_cases hnew : ((w.trees .state).getD []).all fun e => e.path ≠ [existing.getD stateMarker]
  · have hwithout : KeptWithout T (existing.getD stateMarker) w := by
      refine ⟨hw, ?_⟩
      rcases hw.held with ⟨tree, htree, hT⟩ | hT
      · right
        intro e he
        obtain ⟨e', he', hpath, -⟩ := hT e he
        rw [Option.mem_def.mp htree, Option.getD_some, List.all_eq_true] at hnew
        rw [← hpath]
        exact of_decide_eq_true (hnew e' he')
      · exact Or.inl hT
    refine wp_mono (P := fun _ w' => KeptWithout T (existing.getD stateMarker) w') (Keeps.wp ?_ hwithout)
      fun _ _ h => h.1
    refine (keeps_appendEntry fun w g hw hg => hw.mapState fun tree e he => ⟨e, hg tree e he, rfl, rfl⟩).bind fun _ =>
      (keeps_secureMarker _ _).attempt.bind fun secured => ?_
    cases secured with
    | ok u => exact (reads_pure ()).keeps
    | error e =>
      exact (keeps_effect (fun w hw => hw.removeEntry) fun failure w hw => hw).attempt.bind fun _ =>
        (reads_throw _).keeps
  · rw [Act.wp_bind, writeNewEntry, Act.wp_bind, wp_ensure, if_neg hnew]
    exact hw

/-! ## The commands -/

theorem reads_acceptServiceState (service : Service) : Reads (acceptServiceState f service) := by
  refine (reads_validateStateMarker f true).attempt.bind fun valid => ?_
  cases valid with
  | ok u => exact reads_pure ()
  | error e =>
    exact (reads_serviceIsActive _ _).bind fun _ => (reads_ensure _ _).bind fun _ => reads_validateStateMarker f false

theorem reads_originalSidType (programExisted stateExisted : Bool) (service : Option Service) :
    Reads (originalSidType f programExisted stateExisted service) := by
  cases service with
  | none => exact reads_pure none
  | some service =>
    exact (reads_call f _).bind fun _ => ((reads_acceptServiceState f service).when _).bind fun _ =>
      (reads_queryServiceSidType f service).bind fun _ => reads_pure _

theorem reads_originalRunning (service : Option Service) : Reads (originalRunning f service) := by
  cases service with
  | none => exact reads_pure false
  | some service => exact reads_serviceIsActive f service

theorem reads_originalFailureActions (service : Option Service) : Reads (originalFailureActions f service) := by
  cases service with
  | none => exact reads_pure none
  | some service => exact (reads_queryFailureActionsOnNonCrash f service).bind fun _ => reads_pure _

/-- While there is no quarantine, `T` is under the root of the state, so the snapshot says that the state existed. -/
theorem keeps_prepareInstall : Keeps (Kept T) (prepareInstall pkg f) := by
  refine keeps_iff.mpr fun w hw => ?_
  unfold prepareInstall
  refine (reads_ensureAbsent f _ _).wp_bind (fun _ => hw) fun _ _ => ?_
  refine (reads_ensureAbsent f _ _).wp_bind (fun _ => hw) fun _ _ => ?_
  refine (reads_ensureAbsent f _ _).wp_bind (fun _ => hw) fun _ habsent => ?_
  refine (reads_validateOptionalRoot f _).wp_bind (fun _ => hw) fun programExisted _ => ?_
  refine ((reads_validateTree f _).when _).wp_bind (fun _ => hw) fun _ _ => ?_
  refine (reads_validateOptionalRoot f _).wp_bind (fun _ => hw) fun stateExisted hstate => ?_
  have hexisted : stateExisted = true := by
    rw [validateOptionalRoot_eq_ok hstate]
    rcases hw.held with ⟨tree, htree, -⟩ | ⟨tree, htree, -⟩
    · exact Option.isSome_of_mem htree
    · have hnone : (w.trees .quarantine).isSome = false := ensureAbsent_eq_ok habsent
      rw [Option.mem_def.mp htree] at hnone
      cases hnone
  subst hexisted
  refine Keeps.wp ?_ hw
  refine (reads_openClientService f).keeps.bind fun existing =>
    ((reads_validateProgramTree f).when _).keeps.bind fun _ =>
    (reads_originalSidType f _ _ existing).keeps.bind fun sidType =>
    (reads_originalRunning f existing).keeps.bind fun running =>
    (reads_originalFailureActions f existing).keeps.bind fun failureActions =>
    ((reads_validateStateMarker f false).when _).keeps.bind fun _ =>
    (keeps_createProtectedJournal f _).bind fun _ =>
    ((keeps_writeNewPrivate f ?_).bind fun _ => (reads_validateTree f _).keeps).attempt.bind fun result => ?_
  · rintro - - s ⟨⟩
    rfl
  · cases result with
    | error e => exact (keeps_removeJournal f _).attempt.bind fun _ => (reads_throw e).keeps
    | ok u =>
      exact ((keeps_stopClientService indifferent_kept f).when _).bind fun _ =>
        ((keeps_saveAcl f _ _ (by decide)).when _).bind fun _ =>
        ((keeps_saveAcl f _ _ (by decide)).when _).bind fun _ => (reads_validateTree _ _).keeps

/-- What follows a snapshot of an installation, in a world in which `T` is kept, is for a state that existed. -/
theorem keeps_readSnapshot {g : InstallSnapshot → Action Unit}
    (hg : ∀ s, s.stateExisted = true → Keeps (Kept T) (g s)) : Keeps (Kept T) (readSnapshot pkg f >>= g) := by
  refine keeps_iff.mpr fun w hw => ?_
  refine (reads_readSnapshot f).wp_bind (fun _ => hw) fun s hs => ?_
  exact (hg s (hw.stateExisted s (readSnapshot_eq_ok hs))).wp hw

theorem keeps_applyInstall : Keeps (Kept T) (applyInstall pkg f) := by
  refine keeps_readSnapshot f fun s hs => ?_
  have hstate : Reads (ensureStateRoot pkg f s.stateExisted) := by
    rw [hs]
    exact (reads_validateOptionalRoot f _).bind fun _ => (reads_ensure _ _).bind fun _ => reads_validateTree f _
  exact (reads_validateOptionalRoot f _).keeps.bind fun _ => (reads_ensure _ _).keeps.bind fun _ =>
    (reads_validateTree f _).keeps.bind fun _ => (reads_call f _).keeps.bind fun _ => hstate.keeps.bind fun _ =>
    (reads_openClientService f).keeps.bind fun _ => (reads_ensure _ _).keeps.bind fun _ =>
    (reads_call f _).keeps.bind fun _ => (keeps_changeService indifferent_kept f _ _).bind fun _ =>
      (reads_call f _).keeps.bind fun _ =>
    (reads_ensure _ _).keeps.bind fun _ => (keeps_changeService indifferent_kept f _ _).bind fun _ =>
    (reads_call f _).keeps.bind fun _ => (reads_ensure _ _).keeps.bind fun _ =>
    (keeps_secureProgramForService indifferent_kept f).bind fun _ => (reads_validateProgramTree f).keeps.bind fun _ =>
    (keeps_writeOrValidateStateMarker f).bind fun _ => (reads_validateTree _ _).keeps.bind fun _ =>
    (keeps_secureStateAcl f _).bind fun _ => (reads_validateStateMarker f true).keeps

theorem keeps_restoreSaved (saved : Bool) {root : TreeRoot} (hroot : root ≠ .quarantine) (file : JournalFile) :
    Keeps (Kept T) (restoreSaved f saved root file) :=
  ((reads_rollbackFileExists f _ _).andAlso _).keeps.bind fun _ =>
    ((reads_rollbackPathExists f _).andAlso _).keeps.bind fun _ =>
      ((keeps_restoreAcl f hroot _ _).when _).attempt

theorem keeps_restoreOriginalService (s : InstallSnapshot) : Keeps (Kept T) (restoreOriginalService pkg f s) := by
  unfold restoreOriginalService
  cases s.originalServiceSidType with
  | none => exact (reads_pure _).keeps
  | some sidType => exact (keeps_restoreServiceState indifferent_kept f _ _ _ _).attempt

/-- No rollback of an installation removes a state that existed. -/
theorem keeps_rollbackInstall : Keeps (Kept T) (rollbackInstall pkg f) := by
  refine (reads_rollbackPathExists f _).keeps.bind fun _ => Keeps.ite ?_ (reads_pure ()).keeps
  refine (reads_validateRealDirectory f _).keeps.bind fun _ => (reads_validateTree f _).keeps.bind fun _ =>
    keeps_readSnapshot f fun s hs => ?_
  have hfresh : ∀ f, Keeps (Kept T) (removeFreshState f s.stateExisted) := by
    intro f
    rw [hs]
    exact fun w hw => hw
  exact (keeps_restoreSaved f _ (by decide) _).bind fun _ => (keeps_restoreSaved f _ (by decide) _).bind fun _ =>
    (keeps_restoreOriginalService f s).bind fun _ => (hfresh _).bind fun _ =>
    Keeps.ite (keeps_removeJournal f _) (reads_throw _).keeps

theorem keeps_commitInstall : Keeps (Kept T) (commitInstall pkg f) :=
  (reads_pathExists f _).keeps.bind fun _ => ((reads_validateRealDirectory f _).keeps.bind fun _ =>
    (reads_validateTree f _).keeps.bind fun _ => (reads_readSnapshot f).keeps.bind fun _ =>
    keeps_removeJournal f _).ite (reads_pure ()).keeps

theorem keeps_preflightUninstall : Keeps (Kept T) (preflightUninstall pkg f) := by
  refine (reads_ensureAbsent f _ _).keeps.bind fun _ => (reads_validateOptionalRoot f _).keeps.bind fun _ =>
    (reads_ensure _ _).keeps.bind fun _ => (reads_call f _).keeps.bind fun _ =>
    (reads_validateProgramTree f).keeps.bind fun _ => (reads_openClientService f).keeps.bind fun _ =>
    (reads_ofExcept _).keeps.bind fun _ => (reads_call f _).keeps.bind fun _ =>
    (reads_queryServiceSidType f _).keeps.bind fun _ => (reads_ensure _ _).keeps.bind fun _ =>
    (reads_queryFailureActionsOnNonCrash f _).keeps.bind fun _ => (reads_ensure _ _).keeps.bind fun _ =>
    (reads_validateOptionalRoot f _).keeps.bind fun _ =>
    (((reads_validateTree f _).bind fun _ => reads_validateStateMarker f true).when _).keeps.bind fun _ =>
    (reads_serviceIsActive f _).keeps.bind fun _ => (keeps_createProtectedJournal f _).bind fun _ =>
    (keeps_writeNewPrivate f fun hroot => (by cases hroot)).attempt.bind fun written => ?_
  cases written with
  | ok u => exact (reads_pure ()).keeps
  | error e => exact (keeps_removeJournal f _).attempt.bind fun _ => (reads_throw e).keeps

theorem keeps_rollbackUninstallPreflight : Keeps (Kept T) (rollbackUninstallPreflight pkg f) :=
  (reads_rollbackPathExists f _).keeps.bind fun _ => ((reads_readUninstallSnapshot f).keeps.bind fun _ =>
    ((reads_purgeStarted f).orElse _).keeps.bind fun _ =>
    (reads_pure ()).keeps.ite (keeps_removeJournal f _)).ite (reads_pure ()).keeps

theorem keeps_retireState (snapshot : UninstallSnapshot) : Keeps (Kept T) (retireState pkg f snapshot) :=
  (keeps_saveAcl f _ _ (by decide)).bind fun _ => (keeps_replacePrivate f _).bind fun _ =>
    (keeps_secureStateAcl f _).bind fun _ => (reads_validateStateMarker f false).keeps

theorem keeps_preserveState : Keeps (Kept T) (preserveState pkg f) := by
  refine (reads_pathExists f _).keeps.bind fun _ => Keeps.ite ?_ (reads_pure ()).keeps
  refine (reads_readUninstallSnapshot f).keeps.bind fun s => (reads_validateRealDirectory f _).keeps.bind fun _ =>
    (reads_validateTree f _).keeps.bind fun _ => (reads_openClientService f).keeps.bind fun _ =>
    (reads_ensure _ _).keeps.bind fun _ => (reads_call f _).keeps.bind fun _ =>
    (reads_validateStateMarker f true).keeps.bind fun _ => (keeps_retireState f s).attempt.bind fun result => ?_
  cases result with
  | ok u => exact (reads_pure ()).keeps
  | error e =>
    refine ((reads_rollbackFileExists f _ _).keeps.bind fun _ =>
      (keeps_restoreAcl f (by decide) _ _).when _).attempt.bind fun rollback => ?_
    cases rollback with
    | ok u => exact (keeps_removeJournal f _).attempt.bind fun _ => (reads_throw _).keeps
    | error e => exact (reads_throw _).keeps

theorem keeps_rollbackUninstall : Keeps (Kept T) (rollbackUninstall pkg f) :=
  (reads_rollbackPathExists f _).keeps.bind fun _ => ((reads_readUninstallSnapshot f).keeps.bind fun _ =>
    ((reads_rollbackPathExists f _).andAlso _).keeps.bind fun _ =>
    (((reads_validateTree f _).keeps.bind fun _ => keeps_restoreAcl f (by decide) _ _).when _).bind fun _ =>
    (keeps_restoreServiceState indifferent_kept f _ _ _ _).bind fun _ => keeps_removeJournal f _).ite
      (reads_pure ()).keeps

theorem keeps_commitUninstall : Keeps (Kept T) (commitUninstall pkg f) :=
  (reads_pathExists f _).keeps.bind fun _ => ((reads_readUninstallSnapshot f).keeps.bind fun _ =>
    keeps_removeJournal f _).ite (reads_pure ()).keeps

theorem keeps_preparePurge : Keeps (Kept T) (preparePurge pkg f) :=
  (reads_readUninstallSnapshot f).keeps.bind fun _ => (reads_ensureAbsent f _ _).keeps.bind fun _ =>
    (reads_pathExists f _).keeps.bind fun _ => ((reads_validateRealDirectory f _).keeps.bind fun _ =>
    (reads_validateTree f _).keeps.bind fun _ => (reads_openClientService f).keeps.bind fun _ =>
    (reads_ensure _ _).keeps.bind fun _ => (reads_call f _).keeps.bind fun _ =>
    (reads_validateStateMarker f true).keeps.bind fun _ =>
    (keeps_writeNewPrivate f fun hroot => (by cases hroot)).bind fun _ =>
    keeps_rename f (Or.inl ⟨rfl, rfl⟩) _).ite (reads_pure ()).keeps

theorem keeps_rollbackPurge : Keeps (Kept T) (rollbackPurge pkg f) :=
  (reads_rollbackPathExists f _).keeps.bind fun _ => ((reads_readUninstallSnapshot f).keeps.bind fun _ =>
    (reads_rollbackPathExists f _).keeps.bind fun _ => (((reads_validateRealDirectory f _).keeps.bind fun _ =>
    (reads_validateTree f _).keeps.bind fun _ => (reads_ensureAbsent f _ _).keeps.bind fun _ =>
    (keeps_rename f (Or.inr ⟨rfl, rfl⟩) _).mapError _).when _).bind fun _ =>
    (keeps_restoreServiceState indifferent_kept f _ _ _ _).bind fun _ => keeps_removeJournal f _).ite
      (reads_pure ()).keeps

/-- `T` is under the root of the state. -/
structure Present (T : Tree) (w : World) : Prop where
  state : Has T (w.trees .state)
  stateExisted : StateExisted w

theorem Present.kept (h : Present T w) : Kept T w := ⟨Or.inl h.state, h.stateExisted⟩

theorem indifferent_present : Indifferent (Present T) := fun _ _ h hw =>
  ⟨(h.1 .state (by decide)).symm ▸ hw.state, fun s hs => hw.stateExisted s (by rw [World.file, h.2] at hs; exact hs)⟩

theorem keeps_removeJournal_present (root : JournalRoot) :
    Keeps (Present T) (World.removeTreeNoReparse f (.journal root)) := by
  refine keeps_removeTreeNoReparse f (fun w hw => ⟨hw.state, fun s hs => hw.stateExisted s (file_remove hs)⟩)
    fun failure w hw => ⟨?_, fun s hs => hw.stateExisted s (file_partlyRemove hs)⟩
  unfold World.partlyRemove
  split <;> exact hw.state

/-- The commit of a purge deletes what is in the quarantine, and the journal of the uninstallation. -/
theorem keeps_commitPurge {I : World → Prop} (hquarantine : ∀ w tree, I w → I (w.setTree .quarantine tree))
    (hjournal : ∀ f, Keeps I (World.removeTreeNoReparse f .uninstallJournalRoot)) :
    Keeps I (commitPurge pkg f) := by
  have hdelete : Keeps I (deleteQuarantine f) := by
    refine (reads_validateRealDirectory f _).keeps.bind fun _ => (reads_validateTree f _).keeps.bind fun _ =>
      keeps_removeTreeNoReparse f (fun w => hquarantine w none) fun failure w hw => ?_
    unfold World.partlyRemove
    split
    · exact hquarantine w _ hw
    · exact hquarantine w none hw
  refine (reads_pathExists f _).keeps.bind fun journalExisted =>
    (((reads_readUninstallSnapshot f).bind fun _ => reads_pure ()).when _).keeps.bind fun _ =>
    (reads_pathExists f _).keeps.bind fun _ => (hdelete.when _).attempt.bind fun deletion =>
    ((hjournal f).when _).attempt.bind fun _ => ?_
  cases deletion with
  | ok u => exact (reads_ofExcept _).keeps
  | error e => exact (reads_throw _).keeps

theorem keeps_commitPurge_present : Keeps (Present T) (commitPurge pkg f) :=
  keeps_commitPurge f (fun w tree hw => ⟨by rw [World.trees_setTree, if_neg (by decide)]; exact hw.state,
    hw.stateExisted⟩) fun f => keeps_removeJournal_present f _

theorem keeps_commitPurge_stateExisted : Keeps StateExisted (commitPurge pkg f) :=
  keeps_commitPurge f (fun _ _ hw => hw) fun f => keeps_removeTreeNoReparse f
    (fun _ hw s hs => hw s (file_remove hs)) fun _ _ hw s hs => hw s (file_partlyRemove hs)

/-- A purge that was rolled back has left the state where it was, or put it back there. -/
theorem present_rollbackPurge (hw : Kept T w) (hjournal : (w.journals .uninstall).isSome = true) :
    wp (rollbackPurge pkg f) (fun r w' => r = .ok () → Present T w') w := by
  have herror : ∀ (e : Error) w', Except.error e = (.ok () : Except Error Unit) → Present T w' := fun e w' he => by
    cases he
  have hrest : ∀ w running, Present T w → wp (do
      restoreServiceState pkg f sidTypeUnrestricted true running .secureCurrent
      World.removeTreeNoReparse f .uninstallJournalRoot) (fun r w' => r = .ok () → Present T w') w :=
    fun w running hw => wp_mono (Keeps.wp ((keeps_restoreServiceState indifferent_present f _ _ _ _).bind fun _ =>
      keeps_removeJournal_present f _) hw) fun _ _ h _ => h
  unfold rollbackPurge
  refine (reads_rollbackPathExists f _).wp_bind (fun e => herror e w) fun journalExists hexists => ?_
  rw [if_pos ((rollbackPathExists_eq_ok hexists).trans hjournal)]
  refine (reads_readUninstallSnapshot f).wp_bind (fun e => herror e w) fun snapshot _ => ?_
  refine (reads_rollbackPathExists f _).wp_bind (fun e => herror e w) fun quarantineExists hquarantine => ?_
  rw [rollbackPathExists_eq_ok hquarantine, Act.wp_bind, wp_when]
  split
  · refine (reads_validateRealDirectory f _).wp_bind (fun e => herror e w) fun _ _ => ?_
    refine (reads_validateTree f _).wp_bind (fun e => herror e w) fun _ _ => ?_
    refine (reads_ensureAbsent f _ _).wp_bind (fun e => herror e w) fun _ _ => ?_
    rw [wp_mapError]
    refine wp_mono (rename_carries f (Or.inr ⟨rfl, rfl⟩) _ hw) fun r w' h => ?_
    cases r with
    | error e => exact herror _ w'
    | ok u => exact hrest w' _ ⟨h.2 rfl, h.1.stateExisted⟩
  · next hnone =>
    refine hrest w _ ⟨hw.held.resolve_right ?_, hw.stateExisted⟩
    rintro ⟨tree, htree, -⟩
    exact hnone (Option.isSome_of_mem htree)

end

/-! ## Runs -/

/-- What happens between two states of the machine: a command, with what fails in it, or a step of the installer. -/
inductive Event
  | command (command : Command) (f : Faults)
  /-- The installer changes the program and the registration of the service. -/
  | installer (program : Option Tree) (service : Option Service)

def Event.step (pkg : Package) : Event → World → World
  | .command c f, w => (c.run pkg f w).2
  | .installer program service, w => (w.setTree .program program).setService service

/-- The commit of a purge meets `T` in the quarantine, and it is there no longer. -/
def Event.Deletes (pkg : Package) (T : Tree) (event : Event) (w : World) : Prop :=
  (∃ f, event = .command .commitPurge f) ∧ Has T (w.trees .quarantine) ∧ ¬ Held T (event.step pkg w)

theorem Kept.step {pkg : Package} (event : Event) (hw : Kept T w) (hevent : ¬ event.Deletes pkg T w) :
    Kept T (event.step pkg w) := by
  cases event with
  | installer program service =>
    refine indifferent_kept w _ ⟨fun root hroot => ?_, rfl⟩ hw
    exact (World.trees_setTree _ _ _).trans (if_neg hroot)
  | command c f =>
    cases c with
    | prepareInstall => exact @keeps_prepareInstall T pkg f w hw
    | applyInstall => exact @keeps_applyInstall T pkg f w hw
    | rollbackInstall => exact @keeps_rollbackInstall T pkg f w hw
    | commitInstall => exact @keeps_commitInstall T pkg f w hw
    | preflightUninstall => exact @keeps_preflightUninstall T pkg f w hw
    | rollbackUninstallPreflight => exact @keeps_rollbackUninstallPreflight T pkg f w hw
    | preserveState => exact @keeps_preserveState T pkg f w hw
    | rollbackUninstall => exact @keeps_rollbackUninstall T pkg f w hw
    | commitUninstall => exact @keeps_commitUninstall T pkg f w hw
    | preparePurge => exact @keeps_preparePurge T pkg f w hw
    | rollbackPurge => exact @keeps_rollbackPurge T pkg f w hw
    | commitPurge =>
      rcases hw.held with hT | hT
      · exact (@keeps_commitPurge_present T pkg f w ⟨hT, hw.stateExisted⟩).kept
      · exact ⟨Classical.not_not.mp fun h => hevent ⟨⟨f, rfl⟩, hT, h⟩,
          @keeps_commitPurge_stateExisted pkg f w hw.stateExisted⟩

/-- From a moment without an installation on, a tree of the state is held under one root after every step, until the
commit of a purge deletes it in the quarantine; and where a purge is rolled back, it is under the root of the state. -/
theorem client_state_outlives_maintenance (pkg : Package) (T : Tree) (w : World) (hT : Held T w)
    (hidle : w.journals .install = none) (events : List Event) :
    (∃ before f rest, events = before ++ .command .commitPurge f :: rest ∧
      Held T (Faults.run (Event.step pkg) before w) ∧ Has T ((Faults.run (Event.step pkg) before w).trees .quarantine) ∧
      ¬ Held T (Faults.run (Event.step pkg) (before ++ [.command .commitPurge f]) w)) ∨
    Held T (Faults.run (Event.step pkg) events w) ∧
      ∀ f, ((Faults.run (Event.step pkg) events w).journals .uninstall).isSome = true →
        (rollbackPurge pkg f (Faults.run (Event.step pkg) events w)).1 = .ok () →
        Has T ((rollbackPurge pkg f (Faults.run (Event.step pkg) events w)).2.trees .state) := by
  have hw : Kept T w := by
    refine ⟨hT, fun s hs => ?_⟩
    rw [World.file, hidle] at hs
    cases hs
  rcases run_keeps (fun event w hevent hw => Kept.step event hw hevent) hw events with hkept |
    ⟨before, event, rest, heq, hkept, hdeletes⟩
  · exact Or.inr ⟨hkept.held, fun f hjournal hok => (present_rollbackPurge f hkept hjournal hok).state⟩
  · obtain ⟨⟨f, rfl⟩, hquarantine, hnot⟩ := Classical.not_not.mp hdeletes
    refine Or.inl ⟨before, f, rest, heq, hkept.held, hquarantine, ?_⟩
    rw [run_concat]
    exact hnot

/-! ## A purge that is rolled back -/

def samplePackage : Package := ⟨"1.0.0", "S-1-5-80-1-2-3-4-5".toList, utf8 "{}".toList⟩

def sampleState : Tree := [
  ⟨[], none, managedStateSecurityDescriptor (some samplePackage.serviceSid)⟩,
  ⟨[stateMarker], some stateMarkerContent, managedStateSecurityDescriptor (some samplePackage.serviceSid)⟩,
  ⟨[nameOf "client-id"], some (utf8 "5d1e".toList), managedStateSecurityDescriptor (some samplePackage.serviceSid)⟩]

/-- A machine on which the client runs. -/
def sampleWorld : World where
  trees
    | .state => some sampleState
    | .quarantine => none
    | .program => some [⟨[], none, programSecurityDescriptor samplePackage.serviceSid⟩]
  journals _ := none
  service := some ⟨sidTypeUnrestricted, true, .running⟩

/-- The installer stops the service between the preflight and the purge. -/
def samplePurge : List Event := [
  .command .preflightUninstall .nothing,
  .installer (sampleWorld.trees .program) (some ⟨sidTypeUnrestricted, true, .stopped⟩),
  .command .preparePurge .nothing]

theorem client_state_outlives_purge :
    Has sampleState ((rollbackPurge samplePackage .nothing
      (Faults.run (Event.step samplePackage) samplePurge sampleWorld)).2.trees
      .state) := by
  rcases client_state_outlives_maintenance samplePackage sampleState sampleWorld
    (Or.inl ⟨sampleState, rfl, fun e he => ⟨e, he, rfl, rfl⟩⟩) rfl samplePurge with ⟨before, f, rest, heq, -⟩ | h
  · have hmem : Event.command .commitPurge f ∈ samplePurge := heq ▸ List.mem_append_right before List.mem_cons_self
    simp [samplePurge] at hmem
  · have hjournal :
        ((Faults.run (Event.step samplePackage) samplePurge sampleWorld).journals .uninstall).isSome = true := by
      decide +kernel
    have hok : (rollbackPurge samplePackage .nothing
        (Faults.run (Event.step samplePackage) samplePurge sampleWorld)).1.isOk = true := by
      decide +kernel
    obtain ⟨u, hu⟩ := ok_of_isOk hok
    exact h.2 .nothing hjournal hu

end Maintenance

end Xsoc
