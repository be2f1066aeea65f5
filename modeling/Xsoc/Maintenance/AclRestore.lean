import Xsoc.Maintenance.AclSnapshot
import Xsoc.Maintenance.RestorePlan

/-!
# The restore of the access control lists

A rollback reads a snapshot back, checks each of its descriptors, walks through the tree to compare it with the
snapshot, and then sets one descriptor after the other.

* `restoreAcl` : all of that; `restoreSecurityDescriptor` : one descriptor, read back after it was set;
* `sum_restoreCost_le` : the paths of a snapshot within its limit are within the budget of the restore;
* `collect_ends` : so the walk through the tree that was saved ends, and has seen all of it;
* `manifest_of_saved` : what was saved and what is there match;
* `restore_of_save` : what was saved is restored, whole, if all of its descriptors are restorable; else nothing is.
-/

set_option autoImplicit false

namespace Xsoc

namespace Maintenance

namespace Acl

open Bounding Loops Trees Rose

/-! ## Setting a descriptor -/

section

variable {δ : Type} (api : SecurityApi δ) (disk : Disk)

/-- What `set_security_descriptor` has before it sets anything: the descriptor, and its text. -/
def descriptorToSet (path : List Name) (sddl : Sddl) (managedTemplate : Bool) : Except Error (δ × Sddl) := do
  let isDirectory ← openAclTarget disk path
  let targetSddl := if managedTemplate then managedSecurityDescriptorForTarget sddl isDirectory else sddl
  let descriptor ← parseAdministrativeSecurityDescriptor api targetSddl
  administrativeDescriptorAccess api descriptor
  let expected ← securityDescriptorToSddl api descriptor
  return (descriptor, expected)

/-- What it checks afterwards. -/
def administrativePostcondition (descriptor : δ) (expected : Sddl) (isProtected : Bool) : Except Error Unit := do
  let actual ← securityDescriptorToSddl api descriptor
  let actuallyProtected ← savedDaclIsProtected actual
  check (actuallyProtected = isProtected) (.message "administrative ACL protection postcondition failed")
  let actualParts ← securityDescriptorAccessParts actual
  let expectedParts ← securityDescriptorAccessParts expected
  check (actualParts = expectedParts) (.message "administrative owner and exact ACL postcondition failed")

def setSecurityDescriptor (path : List Name) (sddl : Sddl) (isProtected managedTemplate : Bool) (s : SecuredTree δ) :
    Except Error Unit × SecuredTree δ :=
  match descriptorToSet api disk path sddl managedTemplate with
  | .error e => (.error e, s)
  | .ok (descriptor, expected) =>
    let stored := api.store (s.descriptor path) isProtected descriptor
    (administrativePostcondition api stored expected isProtected,
      { descriptor := Function.update s.descriptor path stored, applied := s.applied ++ [path] })

def restoreSecurityDescriptor (path : List Name) (sddl : Sddl) (s : SecuredTree δ) :
    Except Error Unit × SecuredTree δ :=
  match savedDaclIsProtected sddl with
  | .error e => (.error e, s)
  | .ok isProtected => setSecurityDescriptor api disk path sddl isProtected false s

end

/-! ## The walk -/

section

variable (root : List CodeUnit) (disk : Disk)

/-- The links of a file are counted. -/
def hardLinkCountOf (path : List Name) (metadata : Metadata) : Except Error (Option Nat) :=
  if metadata.isFile && !metadata.reparsePoint then do
    let count ← disk.fileLinkCount path
    return some count
  else .ok none

/-- One entry of `collect_current_acl_path_facts`. -/
def collectEntry (target : List Name) (w : TreeWalk AclCurrentPathFact) :
    Except Error (TreeWalk AclCurrentPathFact) := do
  let metadata ← disk.symlinkMetadata target
  let hardLinkCount ← hardLinkCountOf disk target metadata
  let pathKey := relativePath target
  let (found, pathBytes) ← tryPushBoundedPath w.found
    { pathKey := pathKey
      isDirectory := metadata.isDir
      isRegularFile := metadata.isFile
      isReparsePoint := metadata.reparsePoint
      hardLinkCount := hardLinkCount } pathKey.length w.pathBytes maxTreeNodes maxPathBytes "ACL restore tree facts"
  enqueueEntries root "ACL restore tree traversal" disk target (metadata.isDir && !metadata.reparsePoint)
    { w with found := found, pathBytes := pathBytes }

def collectTurn (w : TreeWalk AclCurrentPathFact) : Turn Error (TreeWalk AclCurrentPathFact) :=
  match w.pending with
  | [] => .done
  | target :: pending => .ofExcept (collectEntry root disk target { w with pending := pending })

def collectCurrentAclPathFacts (turns : Nat) : Option (Except Error (List AclCurrentPathFact)) :=
  match walkStart root "ACL restore tree traversal" AclCurrentPathFact with
  | .error e => some (.error e)
  | .ok walk => (Loops.run (collectTurn root disk) turns walk).map fun (result, w) =>
    match result with
    | .error e => .error e
    | .ok () => .ok w.found.reverse

end

/-! ## The restore -/

structure AclRestore where
  facts : List AclSnapshotPathFact
  targets : List (List Name × Sddl)
  pathBytes : Nat
  deriving DecidableEq

section

variable (root : List CodeUnit) {δ : Type} (api : SecurityApi δ)

/-- One entry of the snapshot. -/
def restoreEntry (entry : AclSnapshotEntry) (r : AclRestore) : Except Error AclRestore := do
  let relative := entry.relativePathUtf16
  let target := targetAt root relative
  validateSavedSecurityDescriptor api entry.sddl
  let (facts, pathBytes) ← tryPushBoundedPath r.facts
    { pathKey := relative
      depth := (components relative).length
      validRelativePath := (components relative).all Component.isNormal
      isDirectory := entry.isDirectory } relative.length r.pathBytes maxAclSnapshotEntries maxPathBytes
    "ACL snapshot restore facts"
  let (targets, pathBytes) ← tryPushBoundedPath r.targets
    ((components relative).filterMap Component.name?, entry.sddl)
    target.length pathBytes maxAclSnapshotEntries maxPathBytes "ACL snapshot restore targets"
  return ⟨facts, targets, pathBytes⟩

def restoreEntries : List AclSnapshotEntry → AclRestore → Except Error AclRestore
  | [], r => .ok r
  | entry :: entries, r => do
    let r ← restoreEntry root api entry r
    restoreEntries entries r

/-- What `restore_acl` does before it looks at the tree. -/
def readAclSnapshot (applicationVersion : String) (fromSlice : List UInt8 → Except Error AclSnapshot)
    (bytes : List UInt8) : Except Error AclRestore := do
  check (bytes.length ≤ maxAclSnapshotBytes)
    (.message s!"ACL snapshot exceeds the {maxAclSnapshotBytes}-byte hard limit")
  let snapshot ← fromSlice bytes
  check (snapshot.format = 1 ∧ snapshot.applicationVersion = applicationVersion)
    (.message "unsupported ACL snapshot version")
  check (snapshot.entries.length ≤ maxAclSnapshotEntries)
    (.message s!"ACL snapshot exceeds the {maxAclSnapshotEntries}-entry hard limit")
  tryReserveBounded 0 snapshot.entries.length maxAclSnapshotEntries "ACL snapshot restore facts"
  tryReserveBounded 0 snapshot.entries.length maxAclSnapshotEntries "ACL snapshot restore entries"
  restoreEntries root api snapshot.entries ⟨[], [], 0⟩

variable (disk : Disk)

/-- The callback of the restore plan. -/
def restoreTarget (targets : List (List Name × Sddl)) (index : Nat) (s : SecuredTree δ) :
    Except Error Unit × SecuredTree δ :=
  match targets[index]? with
  | none => (.error (.message "index out of bounds"), s)
  | some (target, sddl) =>
    match restoreSecurityDescriptor api disk target sddl s with
    | (.error e, s) => (.error e, s)
    | (.ok (), s) =>
      (do
        let actual ← securityDescriptorSddl api disk s target
        check (actual = sddl) (.message "restored owner/DACL did not verify"), s)

/-- `restore_acl` of these bytes, in so many turns of its loop over the tree. -/
def restoreAcl (applicationVersion : String) (fromSlice : List UInt8 → Except Error AclSnapshot) (bytes : List UInt8)
    (turns : Nat) (s : SecuredTree δ) : Option (Except Error Unit × SecuredTree δ) :=
  match readAclSnapshot root api applicationVersion fromSlice bytes with
  | .error e => some (.error e, s)
  | .ok r =>
    match collectCurrentAclPathFacts root disk turns with
    | none => none
    | some (.error e) => some (.error e, s)
    | some (.ok current) =>
      some (runValidatedAclRestorePlan r.facts.reverse current (restoreTarget api disk r.targets.reverse) s)

/-! ## What is read back -/

/-- What the restore counts for a node: its relative path, and its absolute one. -/
def restoreCost (e : List Name × Node) : Nat := pathCost (relativePath e.1).length + pathCost (pathUnits root e.1)

def factOf (e : List Name × Node) : AclSnapshotPathFact where
  pathKey := relativePath e.1
  depth := e.1.length
  validRelativePath := true
  isDirectory := e.2.label.isDir

def targetOf (s : SecuredTree δ) (e : List Name × Node) : List Name × Sddl := (e.1, api.text (s.descriptor e.1))

def currentOf (e : List Name × Node) : AclCurrentPathFact where
  pathKey := relativePath e.1
  isDirectory := e.2.label.isDir
  isRegularFile := e.2.label.isFile
  isReparsePoint := e.2.label.reparsePoint
  hardLinkCount := if e.2.label.isFile && !e.2.label.reparsePoint then some e.2.label.linkCount else none

variable {root api disk} {s : SecuredTree δ}

/-- The paths of a snapshot within its limit are within the budget of the restore. -/
theorem sum_restoreCost_le {applicationVersion : String} {bytes : List UInt8} (hroot : root.length ≤ 260)
    (hnames : ∀ e ∈ disk.tree.node.nodes, ∀ name ∈ e.1, PermittedName name)
    (hsaved : Saved root api disk s applicationVersion bytes) :
    (disk.tree.node.nodes.map (restoreCost root)).sum ≤ maxPathBytes := by
  have hentries : (snapshotOf api disk s applicationVersion).entries.Perm
      (disk.tree.node.nodes.map (entryOf api s)) := sortBy_perm _ _
  have hprintable : ∀ entry ∈ (snapshotOf api disk s applicationVersion).entries,
      ∀ c ∈ entry.relativePathUtf16, 32 ≤ c.val := by
    intro entry hentry
    obtain ⟨e, he, rfl⟩ := List.mem_map.mp (hentries.mem_iff.mp hentry)
    exact printable_relativePath (hnames e he)
  have hthird := threefold_le hprintable
  rw [(hentries.map fun entry => entry.relativePathUtf16.length).sum_eq, List.map_map, ← length_utf8,
    ← hsaved.snapshot] at hthird
  have hcost : (disk.tree.node.nodes.map (restoreCost root)).sum ≤ 650 * disk.tree.node.nodes.length +
      4 * (disk.tree.node.nodes.map fun e => (relativePath e.1).length).sum := by
    generalize disk.tree.node.nodes = nodes at hnames ⊢
    induction nodes with
    | nil => simp
    | cons e nodes ih =>
      obtain ⟨he, hrest⟩ := List.forall_mem_cons.mp hnames
      have hunits := pathUnits_le root he
      have hsum := ih hrest
      rw [List.map_cons, List.sum_cons, List.map_cons, List.sum_cons, List.length_cons]
      simp only [restoreCost, pathCost, pathFixedBytes] at hsum ⊢
      omega
  have hbytes := hsaved.withinBytes
  have hlength := hsaved.withinEntries
  unfold maxAclSnapshotBytes at hbytes
  unfold maxAclSnapshotEntries maxTreeNodes at hlength
  unfold maxPathBytes
  have hsame : (disk.tree.node.nodes.map fun e => (relativePath e.1).length).sum = (disk.tree.node.nodes.map
      ((fun entry : AclSnapshotEntry => entry.relativePathUtf16.length) ∘ entryOf api s)).sum := rfl
  omega

/-- An entry of the snapshot is read back if its descriptor is restorable, and its paths are within the budget. -/
theorem restoreEntry_eq_ok (hapi : api.Documented) {e : List Name × Node} (hnames : ∀ name ∈ e.1, PermittedName name)
    {r r' : AclRestore} (hlengths : r.targets.length = r.facts.length) :
    restoreEntry root api (entryOf api s e) r = .ok r' ↔ Restorable api (s.descriptor e.1) ∧
      r' = ⟨factOf e :: r.facts, targetOf api s e :: r.targets, r.pathBytes + restoreCost root e⟩ ∧
      r.pathBytes + restoreCost root e ≤ maxPathBytes ∧ r.facts.length + 1 ≤ maxAclSnapshotEntries := by
  have htarget : (targetAt root (relativePath e.1)).length = pathUnits root e.1 := by
    rw [targetAt_relativePath root hnames, pathUnits]
  have hcomponents := components_relativePath hnames
  have hdepth : (components (relativePath e.1)).length = e.1.length := by rw [hcomponents, List.length_map]
  have hvalid : (components (relativePath e.1)).all Component.isNormal = true := by
    rw [hcomponents, List.all_map]
    exact List.all_eq_true.mpr fun _ _ => rfl
  have hpath : (components (relativePath e.1)).filterMap Component.name? = e.1 := by
    rw [hcomponents, List.filterMap_map]
    exact List.filterMap_some
  simp only [restoreEntry, entryOf, htarget, hdepth, hvalid, hpath, Except.bind_eq_ok, Prod.exists,
    tryPushBoundedPath_eq_ok (show maxAclSnapshotEntries < usizeLimit from maxTreeNodes_lt) maxPathBytes_lt,
    validateSavedSecurityDescriptor_text hapi, pure, Except.pure, Except.ok.injEq, exists_const]
  constructor
  · rintro ⟨hrestorable, facts, bytes, ⟨rfl, rfl, -, hlength⟩, targets, bytes, ⟨rfl, rfl, hbytes, -⟩, rfl⟩
    rw [Nat.add_assoc] at hbytes ⊢
    exact ⟨hrestorable, rfl, hbytes, hlength⟩
  · rintro ⟨hrestorable, rfl, hbytes, hlength⟩
    unfold restoreCost at hbytes ⊢
    refine ⟨hrestorable, _, _, ⟨rfl, rfl, ?_, hlength⟩, _, _, ⟨rfl, rfl, ?_, ?_⟩, ?_⟩
    · omega
    · exact (Nat.add_assoc _ _ _).trans_le hbytes
    · rw [hlengths]
      exact hlength
    · rw [Nat.add_assoc]
      rfl

theorem restoreEntries_eq_ok (hapi : api.Documented) {nodes : List (List Name × Node)}
    (hnames : ∀ e ∈ nodes, ∀ name ∈ e.1, PermittedName name) {r r' : AclRestore}
    (hlengths : r.targets.length = r.facts.length)
    (hbytes : r.pathBytes + (nodes.map (restoreCost root)).sum ≤ maxPathBytes)
    (hentries : r.facts.length + nodes.length ≤ maxAclSnapshotEntries) :
    restoreEntries root api (nodes.map (entryOf api s)) r = .ok r' ↔
      (∀ e ∈ nodes, Restorable api (s.descriptor e.1)) ∧
      r' = ⟨(nodes.map factOf).reverse ++ r.facts, (nodes.map (targetOf api s)).reverse ++ r.targets,
        r.pathBytes + (nodes.map (restoreCost root)).sum⟩ := by
  induction nodes generalizing r with
  | nil => simp [restoreEntries, eq_comm]
  | cons e nodes ih =>
    obtain ⟨he, hrest⟩ := List.forall_mem_cons.mp hnames
    rw [List.map_cons, List.sum_cons] at hbytes
    rw [List.length_cons] at hentries
    have hnext := ih
      (r := ⟨factOf e :: r.facts, targetOf api s e :: r.targets, r.pathBytes + restoreCost root e⟩) hrest
      (congrArg Nat.succ hlengths) (by dsimp only; omega) (by dsimp only [List.length_cons]; omega)
    simp only [List.map_cons, restoreEntries, Except.bind_eq_ok, restoreEntry_eq_ok hapi he hlengths,
      List.forall_mem_cons]
    constructor
    · rintro ⟨_, ⟨hrestorable, rfl, -, -⟩, h⟩
      obtain ⟨hrestorables, rfl⟩ := hnext.mp h
      exact ⟨⟨hrestorable, hrestorables⟩, by simp [Nat.add_assoc]⟩
    · rintro ⟨⟨hrestorable, hrestorables⟩, rfl⟩
      refine ⟨_, ⟨hrestorable, rfl, by omega, by omega⟩, hnext.mpr ⟨hrestorables, ?_⟩⟩
      simp [Nat.add_assoc]

/-! ## The walk through the tree -/

/-- What was counted, and what is still to be counted, is what there is. -/
structure Accounted (root : List CodeUnit) (disk : Disk) (w : TreeWalk AclCurrentPathFact) : Prop where
  nodes : w.discovered + (unvisited disk w.pending).length = disk.tree.node.nodes.length + w.pending.length
  bytes : w.pathBytes + ((unvisited disk w.pending).map (restoreCost root)).sum =
    (disk.tree.node.nodes.map (restoreCost root)).sum + (w.pending.map fun path => pathCost (pathUnits root path)).sum
  pending : w.pending.length ≤ w.discovered

/-- A walk that has noted a node, and put its entries behind the rest. -/
def collected (root : List CodeUnit) (path : List Name) (node : Node) (rest : List (List Name))
    (w : TreeWalk AclCurrentPathFact) : TreeWalk AclCurrentPathFact :=
  TreeWalk.behind root path (node.children.map Prod.fst)
    ⟨rest, w.discovered, w.pathBytes + pathCost (relativePath path).length, currentOf (path, node) :: w.found⟩

section

variable {path : List Name} {node : Node} {rest : List (List Name)} {w : TreeWalk AclCurrentPathFact}

theorem visit_collected (root : List CodeUnit) (hnode : disk.at? path = some node)
    (hpending : w.pending = path :: rest) :
    Visit disk currentOf (fun _ => True) path node w (collected root path node rest w) where
  there := hnode
  accepted := trivial
  found := rfl
  pending := ⟨rest, hpending, TreeWalk.pending_behind root path node _⟩

theorem Accounted.collected (hwhole : disk.removed = []) (hnode : disk.at? path = some node)
    (hpending : w.pending = path :: rest) (h : Accounted root disk w) :
    Accounted root disk (collected root path node rest w) := by
  have hvisit := unvisited_visit hwhole hnode rest
  have hlength := hvisit.length_eq
  have hcost := (hvisit.map (restoreCost root)).sum_eq
  have hnodes := h.nodes
  have hbytes := h.bytes
  have hfirst := h.pending
  have hnext : (Acl.collected root path node rest w).pending =
      (node.children.map fun c => path ++ [c.1]).reverse ++ rest := TreeWalk.pending_behind root path node _
  have hchildren : (Acl.collected root path node rest w).pathBytes =
      w.pathBytes + pathCost (relativePath path).length +
        ((node.children.map fun c => path ++ [c.1]).map fun p => pathCost (pathUnits root p)).sum := by
    simp only [Acl.collected, TreeWalk.behind, List.map_map]
    rfl
  have hcount : (Acl.collected root path node rest w).discovered = w.discovered + node.children.length := by
    rw [Acl.collected, TreeWalk.behind, List.length_map]
  rw [hpending] at hnodes hbytes hfirst
  simp only [List.map_cons, List.sum_cons, List.length_cons, restoreCost] at hnodes hbytes hfirst hlength hcost
  refine ⟨?_, ?_, ?_⟩
  · rw [hnext, hcount, List.length_append, List.length_reverse, List.length_map]
    omega
  · rw [hnext, hchildren, List.map_append, List.sum_append, List.map_reverse, List.sum_reverse]
    omega
  · rw [hnext, hcount, List.length_append, List.length_reverse, List.length_map]
    omega

/-- A turn that is within the budgets succeeds. -/
theorem collectTurn_eq_next (hwhole : disk.removed = []) (hnode : disk.at? path = some node)
    (hordinary : node.label.Ordinary) (hpending : w.pending = path :: rest)
    (hfound : w.found.length + 1 ≤ maxTreeNodes)
    (hrest : rest.length ≤ w.discovered) (hnodes : (collected root path node rest w).discovered ≤ maxTreeNodes)
    (hbytes : (collected root path node rest w).pathBytes ≤ maxPathBytes) :
    collectTurn root disk w = .next (collected root path node rest w) := by
  have hplain := hordinary.1
  have hdirectory : (node.label.isDir && !node.label.reparsePoint) = node.label.directory := by
    rw [hplain, Metadata.isDir_of_plain hplain, Bool.not_false, Bool.and_true]
  have hpush : w.pathBytes + pathCost (relativePath path).length ≤ maxPathBytes :=
    (Nat.le_add_right _ _).trans hbytes
  have hlinks : hardLinkCountOf disk path node.label = .ok (currentOf (path, node)).hardLinkCount := by
    simp only [hardLinkCountOf, currentOf, Disk.fileLinkCount, Disk.symlinkMetadata_of_at? hnode]
    split <;> rfl
  unfold collectTurn
  rw [hpending]
  simp only [Turn.ofExcept_eq_next, collectEntry, Disk.symlinkMetadata_of_at? hnode, hlinks, hdirectory,
    Except.bind_eq_ok, Except.ok.injEq, exists_eq_left', Prod.exists,
    tryPushBoundedPath_eq_ok maxTreeNodes_lt maxPathBytes_lt]
  exact ⟨_, _, ⟨rfl, rfl, hpush, hfound⟩, enqueueEntries_of_le hwhole hnode hrest hnodes hbytes⟩

end

/-- A walk that knows what is there, and has counted it, is done or goes on. -/
theorem collectTurn_goes_on (hwhole : disk.removed = []) (hordinary : ∀ e ∈ disk.tree.node.nodes, e.2.label.Ordinary)
    (hlength : disk.tree.node.nodes.length ≤ maxTreeNodes)
    (hcost : (disk.tree.node.nodes.map (restoreCost root)).sum ≤ maxPathBytes) {w : TreeWalk AclCurrentPathFact}
    (hcovers : Covers disk currentOf (fun _ => True) w) (haccounted : Accounted root disk w) :
    collectTurn root disk w = .done ∨ ∃ w', collectTurn root disk w = .next w' ∧
      (Covers disk currentOf (fun _ => True) w' ∧ Accounted root disk w') ∧
      (unvisited disk w'.pending).length < (unvisited disk w.pending).length := by
  cases hpending : w.pending with
  | nil => exact Or.inl (by rw [collectTurn, hpending])
  | cons path rest =>
    obtain ⟨node, hnode⟩ := hcovers.there path (hpending ▸ List.mem_cons_self)
    have hmem : (path, node) ∈ disk.tree.node.nodes :=
      (mem_nodes disk.tree.distinct).mpr (Disk.at?_eq_some.mp hnode).2
    have hcovers' := hcovers.visit hwhole (visit_collected root hnode hpending)
    have haccounted' := haccounted.collected hwhole hnode hpending
    have hfewer := (unvisited_visit hwhole hnode rest).length_eq
    have hnext : (collected root path node rest w).pending =
        (node.children.map fun c => path ++ [c.1]).reverse ++ rest := TreeWalk.pending_behind root path node _
    rw [List.length_cons, ← hnext] at hfewer
    refine Or.inr ⟨_, collectTurn_eq_next hwhole hnode (hordinary _ hmem) hpending ?_ ?_ ?_ ?_,
      ⟨hcovers', haccounted'⟩, by omega⟩
    · -- what was noted are nodes, and this one is another
      obtain ⟨visited, hfound, hall, -⟩ := hcovers.visited
      have hnodes := hall.length_eq
      rw [hfound, List.length_map]
      rw [List.length_append, hpending, hfewer] at hnodes
      omega
    · have hle := haccounted.pending
      rw [hpending, List.length_cons] at hle
      omega
    · have hnodes := haccounted'.nodes
      have hle := length_pending_le hcovers'.there
      omega
    · have hbytes := haccounted'.bytes
      have hle := sum_pending_le (f := fun p => pathCost (pathUnits root p)) (g := restoreCost root)
        (fun _ _ => Nat.le_add_left _ _) hcovers'.there
      omega

theorem collectTurn_eq_done {w : TreeWalk AclCurrentPathFact} (h : collectTurn root disk w = .done) :
    w.pending = [] := by
  unfold collectTurn at h
  split at h
  · assumption
  · exact absurd h (Turn.ofExcept_ne_done _)

/-- The walk through a tree within the budgets ends, and has seen all of it. -/
theorem collect_ends (hwhole : disk.removed = []) (hordinary : ∀ e ∈ disk.tree.node.nodes, e.2.label.Ordinary)
    (hlength : disk.tree.node.nodes.length ≤ maxTreeNodes)
    (hcost : (disk.tree.node.nodes.map (restoreCost root)).sum ≤ maxPathBytes) :
    ∃ turns current, current.Perm (disk.tree.node.nodes.map currentOf) ∧
      ∀ m, turns ≤ m → collectCurrentAclPathFacts root disk m = some (.ok current) := by
  have hthere : ∀ path ∈ [[]], ∃ node, disk.at? path = some node := fun path hpath =>
    ⟨disk.tree.node, by rw [List.mem_singleton.mp hpath, at?_root hwhole]⟩
  have hroot := sum_pending_le (f := fun p => pathCost (pathUnits root p)) (g := restoreCost root)
    (fun _ _ => Nat.le_add_left _ _) hthere
  rw [unvisited_root hwhole, List.map_singleton, List.sum_singleton] at hroot
  have hstart : walkStart root "ACL restore tree traversal" AclCurrentPathFact =
      .ok ⟨[[]], 1, 0 + pathCost (pathUnits root []), []⟩ :=
    enqueue_eq_ok.mpr ⟨rfl, by decide, by dsimp only; omega, by decide⟩
  let inv (w : TreeWalk AclCurrentPathFact) : Prop := Covers disk currentOf (fun _ => True) w ∧ Accounted root disk w
  have hinv : inv ⟨[[]], 1, 0 + pathCost (pathUnits root []), []⟩ := by
    refine ⟨covers_start hwhole _ _, ?_, ?_, Nat.le_refl _⟩
    · rw [unvisited_root hwhole]
      exact Nat.add_comm _ _
    · rw [unvisited_root hwhole, List.map_singleton, List.sum_singleton]
      dsimp only
      omega
  have hturn : ∀ w, inv w → collectTurn root disk w = .done ∨ ∃ w', collectTurn root disk w = .next w' ∧ inv w' ∧
      (unvisited disk w'.pending).length < (unvisited disk w.pending).length :=
    fun w hw => collectTurn_goes_on hwhole hordinary hlength hcost hw.1 hw.2
  obtain ⟨turns, w, hrun, ⟨hcovers, -⟩, hdone⟩ :=
    exists_run_ok (fun w => (unvisited disk w.pending).length) hturn hinv
  obtain ⟨⟨visited, hperm, hfound⟩, -⟩ := hcovers.of_done (collectTurn_eq_done hdone)
  refine ⟨turns, w.found.reverse, ?_, fun m hm => ?_⟩
  · rw [hfound]
    exact (List.reverse_perm _).trans (hperm.map _)
  · rw [collectCurrentAclPathFacts, hstart]
    dsimp only
    rw [run_mono hrun hm]
    rfl

/-! ## What was saved and what is there -/

theorem manifest_of_saved (hnames : ∀ e ∈ disk.tree.node.nodes, ∀ name ∈ e.1, PermittedName name)
    (hordinary : ∀ e ∈ disk.tree.node.nodes, e.2.label.Ordinary)
    (hlength : disk.tree.node.nodes.length ≤ maxAclSnapshotEntries) {nodes : List (List Name × Node)}
    (hnodes : nodes.Perm disk.tree.node.nodes) {current : List AclCurrentPathFact}
    (hcurrent : current.Perm (disk.tree.node.nodes.map currentOf)) : Manifest (nodes.map factOf) current := by
  have hmem : ∀ target, target ∈ current ↔ ∃ e ∈ disk.tree.node.nodes, currentOf e = target := fun target => by
    rw [hcurrent.mem_iff, List.mem_map]
  have hroot : ([], disk.tree.node) ∈ nodes := hnodes.mem_iff.mpr (self_mem_nodes _)
  have hinjective : ∀ e ∈ disk.tree.node.nodes, ∀ e' ∈ disk.tree.node.nodes,
      relativePath e.1 = relativePath e'.1 → e = e' := fun e he e' he' h => node_eq_of_relativePath hnames he he' h
  have hdistinct : (disk.tree.node.nodes.map fun e => relativePath e.1).Nodup := by
    have hpaths := nodup_nodes disk
    exact hpaths.of_map _ |>.map_on fun e he e' he' h => hinjective e he e' he' h
  have hfacts : (nodes.map factOf).map AclSnapshotPathFact.pathKey = nodes.map fun e => relativePath e.1 := by
    rw [List.map_map]
    rfl
  have hkeys : (current.map AclCurrentPathFact.pathKey).Perm
      (disk.tree.node.nodes.map fun e => relativePath e.1) := by
    refine (hcurrent.map _).trans ?_
    rw [List.map_map]
    exact List.Perm.refl _
  constructor
  case nonempty => exact List.ne_nil_of_mem (List.mem_map_of_mem hroot)
  case withinSnapshot => rw [List.length_map, hnodes.length_eq]; exact hlength
  case withinCurrent => rw [hcurrent.length_eq, List.length_map]; exact hlength
  case relative =>
    intro entry hentry
    obtain ⟨e, -, rfl⟩ := List.mem_map.mp hentry
    rfl
  case distinct => rw [hfacts, (hnodes.map _).nodup_iff]; exact hdistinct
  case root => exact ⟨factOf ([], disk.tree.node), List.mem_map_of_mem hroot, rfl⟩
  case noReparsePoint =>
    intro target htarget
    obtain ⟨e, he, rfl⟩ := (hmem target).mp htarget
    exact (hordinary e he).1
  case ordinary =>
    intro target htarget
    obtain ⟨e, he, rfl⟩ := (hmem target).mp htarget
    obtain ⟨hplain, hlinks⟩ := hordinary e he
    simp only [currentOf, Metadata.isDir_of_plain hplain, Metadata.isFile_of_plain hplain, hplain]
    cases hdir : e.2.label.directory with
    | true => exact Or.inl ⟨rfl, rfl⟩
    | false => exact Or.inr ⟨rfl, rfl, by rw [hlinks hdir]; rfl⟩
  case currentDistinct => rw [hkeys.nodup_iff]; exact hdistinct
  case samePaths =>
    intro path
    rw [hkeys.mem_iff, hfacts, (hnodes.map _).mem_iff]
  case sameTypes =>
    intro entry hentry target htarget hpath
    obtain ⟨e, he, rfl⟩ := List.mem_map.mp hentry
    obtain ⟨e', he', rfl⟩ := (hmem target).mp htarget
    rw [hinjective e (hnodes.mem_iff.mp he) e' he' hpath]
    rfl

/-! ## The calls -/

/-- A descriptor is set to what it is, and read back. -/
theorem restoreTarget_eq_ok (hapi : api.Documented) {e : List Name × Node} (hnode : disk.at? e.1 = some e.2)
    (hreadable : Readable api s e) (hrestorable : Restorable api (s.descriptor e.1))
    {targets : List (List Name × Sddl)} {index : Nat} (htarget : targets[index]? = some (targetOf api s e))
      {t : SecuredTree δ}
    (ht : t.descriptor = s.descriptor) :
    restoreTarget api disk targets index t = (.ok (), ⟨s.descriptor, t.applied ++ [e.1]⟩) := by
  obtain ⟨parts, hparts⟩ := Option.isSome_iff_exists.mp (hapi.text_dacl _ hrestorable.2)
  obtain ⟨isProtected, hprotected⟩ : ∃ b, savedDaclIsProtected (api.text (s.descriptor e.1)) = .ok b :=
    ⟨(parts.2.takeWhile (· != '(')).contains 'P', by rw [savedDaclIsProtected, hparts]; rfl⟩
  obtain ⟨accessParts, haccessParts⟩ : ∃ p, securityDescriptorAccessParts (api.text (s.descriptor e.1)) = .ok p :=
    ⟨_, by rw [securityDescriptorAccessParts, hparts]; rfl⟩
  have htext : securityDescriptorToSddl api (s.descriptor e.1) = .ok (api.text (s.descriptor e.1)) :=
    securityDescriptorToSddl_eq_ok.mpr ⟨hreadable.text, rfl⟩
  have hset : descriptorToSet api disk e.1 (api.text (s.descriptor e.1)) false =
      .ok (s.descriptor e.1, api.text (s.descriptor e.1)) := by
    simp only [descriptorToSet, parseAdministrativeSecurityDescriptor, hapi.parse_text, okOr_some,
      administrativeDescriptorAccess, Bool.false_eq_true, if_false, Except.bind_eq_ok, openAclTarget_eq_ok hnode,
      Except.ok.injEq, exists_eq_left', check_eq_ok, htext, pure, Except.pure, and_true]
    exact ⟨_, ⟨hreadable.ordinary, rfl⟩, (), hrestorable⟩
  have hpost : administrativePostcondition api (s.descriptor e.1) (api.text (s.descriptor e.1)) isProtected =
      .ok () := by
    simp only [administrativePostcondition, htext, hprotected, haccessParts, Except.bind_eq_ok, Except.ok.injEq,
      exists_eq_left', check_eq_ok, exists_const, and_self]
  have hstored : Function.update t.descriptor e.1 (s.descriptor e.1) = s.descriptor := by
    rw [ht, Function.update_eq_self]
  have hread : securityDescriptorSddl api disk ⟨s.descriptor, t.applied ++ [e.1]⟩ e.1 =
      .ok (api.text (s.descriptor e.1)) :=
    (securityDescriptorSddl_eq_ok hnode).mpr ⟨⟨hreadable.ordinary, hreadable.text⟩, rfl⟩
  simp only [restoreTarget, htarget, targetOf, restoreSecurityDescriptor, hprotected, setSecurityDescriptor, hset,
    hapi.stores _ _ _ hprotected, hpost, hstored, hread, bind, Except.bind, check, if_true]

theorem applyAll_restoreTarget (hapi : api.Documented) {nodes : List (List Name × Node)}
    (hnodes : ∀ e ∈ nodes, disk.at? e.1 = some e.2 ∧ Readable api s e ∧ Restorable api (s.descriptor e.1))
    {order : List Nat} (horder : ∀ index ∈ order, index < nodes.length) {t : SecuredTree δ}
    (ht : t.descriptor = s.descriptor) :
    applyAll (restoreTarget api disk (nodes.map (targetOf api s))) order t =
      (.ok (), ⟨s.descriptor, t.applied ++ order.map fun index => (nodes.map Prod.fst).getD index []⟩) := by
  induction order generalizing t with
  | nil => rw [applyAll, List.map_nil, List.append_nil, ← ht]
  | cons index order ih =>
    obtain ⟨hindex, hrest⟩ := List.forall_mem_cons.mp horder
    obtain ⟨hnode, hreadable, hrestorable⟩ := hnodes nodes[index] (List.getElem_mem hindex)
    have htarget : (nodes.map (targetOf api s))[index]? = some (targetOf api s nodes[index]) := by simp [hindex]
    have hpath : (nodes.map Prod.fst).getD index [] = nodes[index].1 := by simp [hindex]
    have hnext := ih hrest (t := ⟨s.descriptor, t.applied ++ [nodes[index].1]⟩) rfl
    rw [applyAll, restoreTarget_eq_ok hapi hnode hreadable hrestorable htarget ht]
    dsimp only
    rw [hnext, List.map_cons, hpath, List.append_assoc, List.singleton_append]

/-- All indices, in some order, lead to all elements. -/
theorem map_getD_perm {α : Type} (l : List α) (d : α) {order : List Nat} (honce : order.Nodup)
    (hwithin : ∀ index ∈ order, index < l.length) (hall : ∀ index < l.length, index ∈ order) :
    (order.map fun index => l.getD index d).Perm l := by
  have hrange : order.Perm (List.range l.length) := (List.perm_ext_iff_of_nodup honce List.nodup_range).mpr
    fun index => ⟨fun h => List.mem_range.mpr (hwithin index h), fun h => hall index (List.mem_range.mp h)⟩
  refine (hrange.map _).trans (List.Perm.of_eq ?_)
  apply List.ext_getElem
  · simp
  · intro i hi hi'
    simp [hi']

/-! ## What was saved is restored -/

/-- What was saved passes all checks but those of its entries. -/
theorem readAclSnapshot_eq_ok {applicationVersion : String} {fromSlice : List UInt8 → Except Error AclSnapshot}
    {bytes : List UInt8} (hsaved : Saved root api disk s applicationVersion bytes)
    (hserde : fromSlice bytes = .ok (snapshotOf api disk s applicationVersion)) {r : AclRestore} :
    readAclSnapshot root api applicationVersion fromSlice bytes = .ok r ↔
      restoreEntries root api (snapshotOf api disk s applicationVersion).entries ⟨[], [], 0⟩ = .ok r := by
  have hlength : (snapshotOf api disk s applicationVersion).entries.length ≤ maxAclSnapshotEntries := by
    rw [snapshotOf, length_sortBy, List.length_map]
    exact hsaved.withinEntries
  have hversion : (snapshotOf api disk s applicationVersion).format = 1 ∧
      (snapshotOf api disk s applicationVersion).applicationVersion = applicationVersion := ⟨rfl, rfl⟩
  simp only [readAclSnapshot, hserde, Except.bind_eq_ok, Except.ok.injEq, exists_eq_left', check_eq_ok,
    tryReserveBounded_eq_ok (show maxAclSnapshotEntries < usizeLimit from maxTreeNodes_lt), Nat.zero_add, hlength,
    hversion, hsaved.withinBytes, and_self, exists_const, true_and]

/-- A snapshot that was taken is restored as a whole, without a change, if each descriptor in it has an owner and a
DACL that is not NULL. Else it is refused before anything is set. -/
theorem restore_of_save (hapi : api.Documented) (hroot : root.length ≤ 260) {tree : ManagedTree}
    (hnames : ∀ e ∈ tree.node.nodes, ∀ name ∈ e.1, PermittedName name) {applicationVersion : String} {turns : Nat}
    {bytes : List UInt8} (hsave : saveAcl root api ⟨tree, []⟩ s applicationVersion turns = some (.ok bytes))
    (fromSlice : List UInt8 → Except Error AclSnapshot)
    (hserde : fromSlice (utf8 (snapshotOf api ⟨tree, []⟩ s applicationVersion).json) =
      .ok (snapshotOf api ⟨tree, []⟩ s applicationVersion)) :
    ∃ turns' result s',
      (∀ m, turns' ≤ m → restoreAcl root api ⟨tree, []⟩ applicationVersion fromSlice bytes m s = some (result, s')) ∧
      (result = .ok () ↔ ∀ e ∈ tree.node.nodes, Restorable api (s.descriptor e.1)) ∧
      (result = .ok () → s'.descriptor = s.descriptor ∧
        ∃ applied, s'.applied = s.applied ++ applied ∧ applied.Perm (tree.node.nodes.map Prod.fst)) ∧
      (result ≠ .ok () → s' = s) := by
  have hsaved := saved rfl hnames hsave
  have hcost := sum_restoreCost_le hroot hnames hsaved
  have hordinary : ∀ e ∈ tree.node.nodes, e.2.label.Ordinary := fun e he => (hsaved.readable e he).ordinary
  rw [← hsaved.snapshot] at hserde
  -- the entries are those of the nodes, in another order
  obtain ⟨nodes, hnodes, hentries⟩ := exists_map_of_perm_map
    (sortBy_perm AclSnapshotEntry.relativePathUtf16 (tree.node.nodes.map (entryOf api s)))
  have hread : ∀ r, readAclSnapshot root api applicationVersion fromSlice bytes = .ok r ↔
      (∀ e ∈ nodes, Restorable api (s.descriptor e.1)) ∧
      r = ⟨(nodes.map factOf).reverse, (nodes.map (targetOf api s)).reverse, (nodes.map (restoreCost root)).sum⟩ := by
    intro r
    rw [readAclSnapshot_eq_ok hsaved hserde, snapshotOf, hentries, ← List.append_nil (nodes.map factOf).reverse,
      ← List.append_nil (nodes.map (targetOf api s)).reverse, ← Nat.zero_add (nodes.map (restoreCost root)).sum]
    refine restoreEntries_eq_ok hapi (fun e he => hnames e (hnodes.mem_iff.mp he)) rfl ?_ ?_
    · rw [(hnodes.map _).sum_eq, Nat.zero_add]
      exact hcost
    · rw [hnodes.length_eq, List.length_nil, Nat.zero_add]
      exact hsaved.withinEntries
  have hrestorable : (∀ e ∈ nodes, Restorable api (s.descriptor e.1)) ↔
      ∀ e ∈ tree.node.nodes, Restorable api (s.descriptor e.1) :=
    forall_congr' fun e => by rw [hnodes.mem_iff]
  by_cases hall : ∀ e ∈ nodes, Restorable api (s.descriptor e.1)
  · obtain ⟨turns', current, hcurrent, hcollect⟩ :=
      collect_ends (show (⟨tree, []⟩ : Disk).removed = [] from rfl) hordinary hsaved.withinEntries hcost
    have hmanifest := manifest_of_saved hnames hordinary hsaved.withinEntries hnodes hcurrent
    obtain ⟨order, horder⟩ := validatedOrder_isOk.mpr hmanifest
    obtain ⟨hplan, hcovers⟩ := validatedOrder_plan horder
    have hwithin : ∀ index ∈ order.map Fin.val, index < nodes.length := fun index hindex =>
      (hplan.inBounds index hindex).trans_eq (List.length_map _)
    have hthere : ∀ e ∈ nodes, (⟨tree, []⟩ : Disk).at? e.1 = some e.2 ∧ Readable api s e ∧
        Restorable api (s.descriptor e.1) := fun e he =>
      ⟨Disk.at?_eq_some.mpr ⟨List.not_mem_nil, (mem_nodes tree.distinct).mp (hnodes.mem_iff.mp he)⟩,
        hsaved.readable e (hnodes.mem_iff.mp he), hall e he⟩
    have happly : runValidatedAclRestorePlan (nodes.map factOf) current
        (restoreTarget api ⟨tree, []⟩ (nodes.map (targetOf api s))) s = (.ok (), ⟨s.descriptor,
          s.applied ++ (order.map Fin.val).map fun index => (nodes.map Prod.fst).getD index []⟩) := by
      rw [runValidatedAclRestorePlan, horder]
      exact applyAll_restoreTarget hapi hthere hwithin rfl
    refine ⟨turns', .ok (),
      ⟨s.descriptor, s.applied ++ (order.map Fin.val).map fun index => (nodes.map Prod.fst).getD index []⟩,
      fun m hm => ?_, ⟨fun _ => hrestorable.mp hall, fun _ => rfl⟩, fun _ => ⟨rfl, _, rfl, ?_⟩, fun h => absurd rfl h⟩
    · rw [restoreAcl, (hread _).mpr ⟨hall, rfl⟩]
      simp only [hcollect m hm, List.reverse_reverse, happly]
    · refine (map_getD_perm (nodes.map Prod.fst) [] hplan.once ?_ ?_).trans (hnodes.map _)
      · simpa using hwithin
      · simpa using hcovers
  · cases hfailed : readAclSnapshot root api applicationVersion fromSlice bytes with
    | ok r => exact absurd ((hread r).mp hfailed).1 hall
    | error e =>
      refine ⟨0, .error e, s, fun m _ => ?_, ⟨fun h => (by cases h), fun h => absurd (hrestorable.mpr h) hall⟩,
        fun h => (by cases h), fun _ => rfl⟩
      rw [restoreAcl, hfailed]

end

/-! ## A DACL that is NULL -/

inductive SampleDescriptor
  | nullDacl
  | emptyDacl
  deriving DecidableEq

def sampleApi : SecurityApi SampleDescriptor where
  text
    | .nullDacl => "O:SYD:NO_ACCESS_CONTROL".toList
    | .emptyDacl => "O:SYD:P".toList
  parse sddl :=
    if sddl = "O:SYD:NO_ACCESS_CONTROL".toList then some .nullDacl
    else if sddl = "O:SYD:P".toList then some .emptyDacl
    else none
  hasOwner _ := true
  dacl
    | .nullDacl => .null
    | .emptyDacl => .present
  store _ _ new := new

theorem sampleApi_documented : sampleApi.Documented where
  parse_text descriptor := by cases descriptor <;> decide
  text_dacl descriptor := by cases descriptor <;> decide
  stores _ _ _ _ := rfl

/-- A directory with a file. -/
def sampleState : ManagedTree where
  node := .node ⟨true, false, false, 1⟩ [([97], .node ⟨false, false, false, 1⟩ [])]
  distinct := .node (by decide) (by
    intro c hc
    obtain rfl := List.mem_singleton.mp hc
    exact .node List.nodup_nil (by simp))
  leaves := by simp [nodes, nodesAll]

theorem permitted_sampleState : ∀ e ∈ sampleState.node.nodes, ∀ name ∈ e.1, PermittedName name := by
  have hname : PermittedName [97] := ⟨by decide, by decide, by decide, by decide, by decide⟩
  simp [sampleState, nodes, nodesAll, hname]

/-- All of the entries have this descriptor. -/
def securedAlike (descriptor : SampleDescriptor) : SecuredTree SampleDescriptor := ⟨fun _ => descriptor, []⟩

def sampleSnapshot (descriptor : SampleDescriptor) : AclSnapshot :=
  snapshotOf sampleApi ⟨sampleState, []⟩ (securedAlike descriptor) "1.0.0"

theorem saveAcl_sample (descriptor : SampleDescriptor) :
    saveAcl [67, 58] sampleApi ⟨sampleState, []⟩ (securedAlike descriptor) "1.0.0" 3 =
      some (.ok (utf8 (sampleSnapshot descriptor).json)) := by
  cases descriptor <;> decide +kernel

theorem restore_of_save_emptyDacl : ∃ turns' result s', (∀ m, turns' ≤ m →
      restoreAcl [67, 58] sampleApi ⟨sampleState, []⟩ "1.0.0" (fun _ => .ok (sampleSnapshot .emptyDacl))
        (utf8 (sampleSnapshot .emptyDacl).json) m (securedAlike .emptyDacl) = some (result, s')) ∧ result = .ok () := by
  obtain ⟨turns', result, s', hrun, hresult, -⟩ := restore_of_save sampleApi_documented (by decide)
    permitted_sampleState (saveAcl_sample .emptyDacl) (fun _ => .ok (sampleSnapshot .emptyDacl)) rfl
  exact ⟨turns', result, s', hrun, hresult.mpr fun _ _ => ⟨rfl, rfl⟩⟩

/-- The snapshot of a tree with a NULL DACL is taken, and refused by the restore. -/
theorem null_dacl_not_restored : sampleApi.Documented ∧
    (∀ e ∈ sampleState.node.nodes, ∀ name ∈ e.1, PermittedName name) ∧
    saveAcl [67, 58] sampleApi ⟨sampleState, []⟩ (securedAlike .nullDacl) "1.0.0" 3 =
      some (.ok (utf8 (sampleSnapshot .nullDacl).json)) ∧
    ∀ turns, restoreAcl [67, 58] sampleApi ⟨sampleState, []⟩ "1.0.0" (fun _ => .ok (sampleSnapshot .nullDacl))
      (utf8 (sampleSnapshot .nullDacl).json) turns (securedAlike .nullDacl) =
        some (.error (.message "administrative descriptor requires an owner and a non-NULL DACL"),
          securedAlike .nullDacl) := by
  have hread : readAclSnapshot [67, 58] sampleApi "1.0.0" (fun _ => .ok (sampleSnapshot .nullDacl))
      (utf8 (sampleSnapshot .nullDacl).json) =
        .error (.message "administrative descriptor requires an owner and a non-NULL DACL") := by
    decide +kernel
  refine ⟨sampleApi_documented, permitted_sampleState, saveAcl_sample .nullDacl, fun turns => ?_⟩
  rw [restoreAcl, hread]

end Acl

end Maintenance

end Xsoc
