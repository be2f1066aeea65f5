import Xsoc.Maintenance.Validation

/-!
# The removal of a managed tree

The tree is validated, and then walked through again, depth first, with a handle for each directory on the way: a file
is deleted when it is met, a directory when it is empty. The second walk has budgets of its own.

* `removeTreeNoReparse` : the validation and the walk;
* `Ready` : what is left of a directory can be removed within the budgets;
* `steps_remove` : the walk removes a directory with all that is below it;
* `removal_all_or_nothing` : so a tree is refused before anything is deleted, or removed as a whole.
-/

set_option autoImplicit false

namespace Xsoc

namespace Maintenance

open Loops Trees Rose

/-- A directory that is open, and the names that it has still to return. -/
structure RemovalDirectoryFrame where
  path : List Name
  entries : List Name

structure Removal where
  disk : Disk
  stack : List RemovalDirectoryFrame
  discovered : Nat
  pathPayloadBytes : Nat

section

variable (root : List CodeUnit)

def removalDirectoryFrame (disk : Disk) (path : List Name) : Except Error RemovalDirectoryFrame := do
  let entries ← disk.readDir path
  return ⟨path, entries⟩

/-- An entry of the innermost directory, which is on the stack without it. -/
def removeEntry (s : Removal) (stack : List RemovalDirectoryFrame) (path : List Name) : Except Error Removal := do
  let metadata ← s.disk.symlinkMetadata path
  check (metadata.directory || metadata.isFile || metadata.reparsePoint)
    (.message "managed tree contains a special file")
  let discovered ← recordBoundedTreeNode s.discovered maxTreeNodes "managed tree removal"
  s.disk.openMutationTarget path metadata.directory "managed tree removal"
  if metadata.directory then
    let frame ← removalDirectoryFrame s.disk path
    let (stack, pathPayloadBytes) ← tryPushBoundedPath stack frame (pathUnits root path) s.pathPayloadBytes
      maxOpenMutationDirectories maxPathBytes "managed tree removal directory handle stack"
    return ⟨s.disk, stack, discovered, pathPayloadBytes⟩
  else
    let disk ← s.disk.deleteOpenedMutationTarget path
    return ⟨disk, stack, discovered, s.pathPayloadBytes⟩

/-- The next entry of the innermost directory, or its own deletion. -/
def removalTurn (s : Removal) : Turn Error Removal :=
  match s.stack with
  | [] => .done
  | ⟨path, name :: entries⟩ :: stack => .ofExcept (removeEntry root s (⟨path, entries⟩ :: stack) (path ++ [name]))
  | ⟨path, []⟩ :: stack => .ofExcept do
    let disk ← s.disk.deleteOpenedMutationTarget path
    return { s with disk := disk, stack := stack }

def removalStart (disk : Disk) : Except Error Removal := do
  let frame ← removalDirectoryFrame disk []
  let discovered ← recordBoundedTreeNode 0 maxTreeNodes "managed tree removal"
  let (stack, pathPayloadBytes) ← tryPushBoundedPath [] frame (pathUnits root []) 0 maxOpenMutationDirectories
    maxPathBytes "managed tree removal directory handle stack"
  return ⟨disk, stack, discovered, pathPayloadBytes⟩

/-- `remove_tree_no_reparse`, with so many turns for each of its loops, and the disk that it leaves. -/
def removeTreeNoReparse (turns : Nat) (disk : Disk) : Option (Except Error Unit × Disk) :=
  match disk.openMutationTarget [] true "managed tree removal" with
  | .error e => some (.error e, disk)
  | .ok () =>
    match validateTreeWithDirectoryDepthLimit disk root (some maxOpenMutationDirectories) turns with
    | none => none
    | some (.error e) => some (.error e, disk)
    | some (.ok ()) =>
      match removalStart root disk with
      | .error e => some (.error e, disk)
      | .ok s => (Loops.run (removalTurn root) turns s).map fun (result, s) =>
        match result with
        | .error e => (.error e, s.disk)
        | .ok () => (s.disk.ensureAbsent [] "managed tree root after handle-bound deletion", s.disk)

/-! ## What can be removed -/

/-- These entries of the directory at `path` can be removed, when so many directories around them are open. -/
structure Ready (path : List Name) (entries : List (Name × Rose Name Metadata)) (removed : List (List Name))
    (opened discovered bytes : Nat) : Prop where
  names : (entries.map Prod.fst).Nodup
  ordinary : ∀ e ∈ nodesAll entries, e.2.label.Ordinary
  shallow : ∀ e ∈ nodesAll entries, e.2.label.directory = true → opened + e.1.length ≤ maxOpenMutationDirectories
  untouched : ∀ p ∈ removed, ∀ c ∈ entries, ¬ path ++ [c.1] <+: p
  nodes : discovered + forestSum nodeCost path entries ≤ maxTreeNodes
  bytes : bytes + forestSum (directoryCost root) path entries ≤ maxPathBytes

variable {root} {disk : Disk} {path : List Name} {node : Node}

theorem openMutationTarget_ordinary (h : disk.at? path = some node) (hordinary : node.label.Ordinary)
    (operation : String) : disk.openMutationTarget path node.label.directory operation = .ok () := by
  have hfacts : Disk.validateOpenedManagedTargetFacts node.label.directory node.label = .ok () := by
    simp only [Disk.validateOpenedManagedTargetFacts, Except.bind_eq_ok, check_eq_ok]
    refine ⟨(), hordinary.1, (), trivial, ?_⟩
    cases hdir : node.label.directory with
    | true => exact Or.inl rfl
    | false => exact Or.inr (hordinary.2 hdir)
  simp only [Disk.openMutationTarget, Disk.symlinkMetadata_of_at? h, Except.bind_eq_ok, Except.ok.injEq,
    exists_eq_left', hfacts, withContext_ok]

theorem deleteOpenedMutationTarget_empty (h : disk.at? path = some node)
    (hempty : ∀ c ∈ node.children, path ++ [c.1] ∈ disk.removed) :
    disk.deleteOpenedMutationTarget path = .ok { disk with removed := disk.removed ++ [path] } := by
  simp only [Disk.deleteOpenedMutationTarget, h, okOr_some, Except.bind_eq_ok, Except.ok.injEq, exists_eq_left',
    check_eq_ok, pure, Except.pure, and_true]
  exact ⟨(), hempty⟩

section

variable {name : Name} {rest : List Name} {stack : List RemovalDirectoryFrame} {discovered bytes : Nat}

/-- A file is deleted. -/
theorem removalTurn_file (h : disk.at? (path ++ [name]) = some node) (hordinary : node.label.Ordinary)
    (hfile : node.label.directory = false) (hnodes : discovered + 1 ≤ maxTreeNodes) :
    removalTurn root ⟨disk, ⟨path, name :: rest⟩ :: stack, discovered, bytes⟩ =
      .next ⟨{ disk with removed := disk.removed ++ [path ++ [name]] }, ⟨path, rest⟩ :: stack,
        discovered + 1, bytes⟩ := by
  have hopen := openMutationTarget_ordinary h hordinary "managed tree removal"
  have hdelete := deleteOpenedMutationTarget_empty h (by rw [Disk.children_of_file h hfile]; simp)
  have hkind : (node.label.directory || node.label.isFile || node.label.reparsePoint) = true := by
    simp [Metadata.isFile_of_plain hordinary.1, hfile]
  rw [hfile] at hopen
  simp only [removalTurn, Turn.ofExcept_eq_next, removeEntry, Disk.symlinkMetadata_of_at? h, Except.bind_eq_ok,
    Except.ok.injEq, exists_eq_left', check_eq_ok, recordBoundedTreeNode_eq_ok, hfile, hopen, hdelete]
  exact ⟨(), by simpa [hfile] using hkind, discovered + 1, ⟨rfl, hnodes⟩, (), trivial, rfl⟩

/-- A directory is opened. -/
theorem removalTurn_directory (h : disk.at? (path ++ [name]) = some node) (hordinary : node.label.Ordinary)
    (hdir : node.label.directory = true) (hwhole : ∀ c ∈ node.children, path ++ [name] ++ [c.1] ∉ disk.removed)
    (hnodes : discovered + 1 ≤ maxTreeNodes)
    (hbytes : bytes + pathCost (pathUnits root (path ++ [name])) ≤ maxPathBytes)
    (hshallow : stack.length + 2 ≤ maxOpenMutationDirectories) :
    removalTurn root ⟨disk, ⟨path, name :: rest⟩ :: stack, discovered, bytes⟩ =
      .next ⟨disk, ⟨path ++ [name], node.children.map Prod.fst⟩ :: ⟨path, rest⟩ :: stack, discovered + 1,
        bytes + pathCost (pathUnits root (path ++ [name]))⟩ := by
  have hopen := openMutationTarget_ordinary h hordinary "managed tree removal"
  have hread : disk.readDir (path ++ [name]) = .ok (node.children.map Prod.fst) :=
    (Disk.readDir_eq_ok h hwhole).mpr ⟨hdir, rfl⟩
  rw [hdir] at hopen
  simp only [removalTurn, Turn.ofExcept_eq_next, removeEntry, Disk.symlinkMetadata_of_at? h, Except.bind_eq_ok,
    Except.ok.injEq, exists_eq_left', check_eq_ok, recordBoundedTreeNode_eq_ok, hdir, hopen, if_true,
    removalDirectoryFrame, hread, pure, Except.pure, Prod.exists,
    tryPushBoundedPath_eq_ok (show maxOpenMutationDirectories < usizeLimit by decide) maxPathBytes_lt]
  exact ⟨(), rfl, discovered + 1, ⟨rfl, hnodes⟩, (), trivial, _, _, ⟨rfl, rfl, hbytes, hshallow⟩, rfl⟩

/-- A directory that is empty is deleted. -/
theorem removalTurn_close (h : disk.at? path = some node)
    (hempty : ∀ c ∈ node.children, path ++ [c.1] ∈ disk.removed) :
    removalTurn root ⟨disk, ⟨path, []⟩ :: stack, discovered, bytes⟩ =
      .next ⟨{ disk with removed := disk.removed ++ [path] }, stack, discovered, bytes⟩ := by
  simp only [removalTurn, deleteOpenedMutationTarget_empty h hempty]
  rfl

end

/-! ## The walk -/

/-- The paths of entries, and of all that is below them. -/
def pathsBelow (path : List Name) (entries : List (Name × Rose Name Metadata)) : List (List Name) :=
  (nodesAll entries).map fun e => path ++ e.1

theorem pathsBelow_cons (path : List Name) (c : Name × Rose Name Metadata) (rest : List (Name × Rose Name Metadata)) :
    pathsBelow path (c :: rest) = pathsBelow (path ++ [c.1]) c.2.children ++
      [path ++ [c.1]] ++ pathsBelow path rest := by
  rw [pathsBelow, nodesAll_cons, nodes_eq, List.map_append, List.map_append, List.map_append, List.map_map]
  simp [pathsBelow, Function.comp_def]

theorem mem_pathsBelow {entries : List (Name × Rose Name Metadata)} {p : List Name} (h : p ∈ pathsBelow path entries) :
    ∃ c ∈ entries, path ++ [c.1] <+: p := by
  obtain ⟨e, he, rfl⟩ := List.mem_map.mp h
  obtain ⟨c, hc, rest, -, heq⟩ := mem_nodesAll.mp he
  exact ⟨c, hc, rest, by rw [heq, List.append_assoc]; rfl⟩

/-- A path leads through one entry of a directory. -/
theorem name_of_initial {name name' : Name} {p : List Name} (h : path ++ [name] <+: p) (h' : path ++ [name'] <+: p) :
    name = name' := by
  have heq : path ++ [name] = path ++ [name'] :=
    (List.prefix_of_prefix_length_le h h' (by simp)).eq_of_length (by simp)
  simpa using heq

/-- The walk removes a directory that is open, with all that is below it. -/
def Removes (root : List CodeUnit) (tree : ManagedTree) (t : Node) : Prop :=
  ∀ path stack removed discovered bytes, tree.node.find? path = some t → t.label.directory = true →
    (∀ p ∈ removed, ¬ path <+: p) → Ready root path t.children removed (stack.length + 1) discovered bytes →
    Steps (removalTurn root) ⟨⟨tree, removed⟩, ⟨path, t.children.map Prod.fst⟩ :: stack, discovered, bytes⟩
      ⟨⟨tree, removed ++ pathsBelow path t.children ++ [path]⟩, stack, discovered + belowSum nodeCost path t,
        bytes + belowSum (directoryCost root) path t⟩

section

variable {tree : ManagedTree} {c : Name × Rose Name Metadata} {rest : List (Name × Rose Name Metadata)}
  {removed : List (List Name)} {opened discovered bytes : Nat}

theorem Ready.tail (h : Ready root path (c :: rest) removed opened discovered bytes) :
    Ready root path rest (removed ++ pathsBelow (path ++ [c.1]) c.2.children ++ [path ++ [c.1]]) opened
      (discovered + (belowSum nodeCost (path ++ [c.1]) c.2 + nodeCost (path ++ [c.1]) c.2))
      (bytes + (belowSum (directoryCost root) (path ++ [c.1]) c.2 + directoryCost root (path ++ [c.1]) c.2)) := by
  have hnames := List.nodup_cons.mp h.names
  have hsub : ∀ e ∈ nodesAll rest, e ∈ nodesAll (c :: rest) := fun e he => by
    rw [nodesAll_cons]
    exact List.mem_append_right _ he
  refine ⟨hnames.2, fun e he => h.ordinary e (hsub e he), fun e he => h.shallow e (hsub e he), ?_, ?_, ?_⟩
  · intro p hp d hd hinitial
    have hbelow : ¬ path ++ [c.1] <+: p := fun hinitial' =>
      hnames.1 (name_of_initial hinitial hinitial' ▸ List.mem_map_of_mem hd)
    rw [List.append_assoc, List.mem_append, List.mem_append, List.mem_singleton] at hp
    rcases hp with hp | hp | rfl
    · exact h.untouched p hp d (List.mem_cons_of_mem c hd) hinitial
    · obtain ⟨e, -, hinitial'⟩ := mem_pathsBelow hp
      exact hbelow ((List.prefix_append _ _).trans hinitial')
    · exact hbelow List.prefix_rfl
  · have hnodes := h.nodes
    rw [forestSum_cons] at hnodes
    omega
  · have hbytes := h.bytes
    rw [forestSum_cons] at hbytes
    omega

/-- An entry that is a file. -/
theorem steps_file {stack : List RemovalDirectoryFrame}
    (h : Ready root path (c :: rest) removed (stack.length + 1) discovered bytes)
    (hc : (Disk.mk tree removed).at? (path ++ [c.1]) = some c.2) (hfile : c.2.label.directory = false) :
    Steps (removalTurn root) ⟨⟨tree, removed⟩, ⟨path, c.1 :: rest.map Prod.fst⟩ :: stack, discovered, bytes⟩
      ⟨⟨tree, removed ++ pathsBelow (path ++ [c.1]) c.2.children ++ [path ++ [c.1]]⟩,
        ⟨path, rest.map Prod.fst⟩ :: stack,
        discovered + (belowSum nodeCost (path ++ [c.1]) c.2 + nodeCost (path ++ [c.1]) c.2),
        bytes + (belowSum (directoryCost root) (path ++ [c.1]) c.2 + directoryCost root (path ++ [c.1]) c.2)⟩ := by
  have hleaf := Disk.children_of_file hc hfile
  have hordinary := h.ordinary ([c.1], c.2) (by rw [nodesAll_cons]; simp [self_mem_nodes])
  have hnodes := h.nodes
  rw [forestSum_cons] at hnodes
  have hbelow : pathsBelow (path ++ [c.1]) c.2.children = [] := by rw [hleaf, pathsBelow, nodesAll_nil]; rfl
  have hsum : ∀ cost : List Name → Node → Nat, belowSum cost (path ++ [c.1]) c.2 = 0 := fun cost => by
    rw [belowSum, hleaf, forestSum_nil]
  have hcost : directoryCost root (path ++ [c.1]) c.2 = 0 := by rw [directoryCost, hfile]; rfl
  rw [hbelow, hsum, hsum, hcost, List.append_nil, Nat.zero_add]
  refine Steps.single (removalTurn_file hc hordinary hfile ?_)
  rw [nodeCost] at hnodes
  omega

theorem mem_nodesAll_cons {e : List Name × Node} (he : e ∈ c.2.nodes) : (c.1 :: e.1, e.2) ∈ nodesAll (c :: rest) := by
  rw [nodesAll_cons, List.mem_append, List.mem_map]
  exact Or.inl ⟨e, he, rfl⟩

/-- What is below a directory can be removed when it has been opened. -/
theorem Ready.open (h : Ready root path (c :: rest) removed opened discovered bytes)
    (hdistinct : c.2.Distinct) (hdir : c.2.label.directory = true) :
    Ready root (path ++ [c.1]) c.2.children removed (opened + 1) (discovered + 1)
      (bytes + pathCost (pathUnits root (path ++ [c.1]))) := by
  have hbelow : ∀ e ∈ nodesAll c.2.children, (c.1 :: e.1, e.2) ∈ nodesAll (c :: rest) := fun e he =>
    mem_nodesAll_cons (by rw [nodes_eq]; exact List.mem_append_left _ he)
  refine ⟨hdistinct.nodup, fun e he => h.ordinary (c.1 :: e.1, e.2) (hbelow e he), fun e he hedir => ?_, ?_, ?_, ?_⟩
  · have hshallow := h.shallow _ (hbelow e he) hedir
    rw [List.length_cons] at hshallow
    omega
  · exact fun p hp d _ hinitial => h.untouched p hp c List.mem_cons_self ((List.prefix_append _ _).trans hinitial)
  · have hnodes := h.nodes
    rw [forestSum_cons, nodeCost, belowSum] at hnodes
    omega
  · have hbytes := h.bytes
    rw [forestSum_cons, directoryCost, hdir, if_pos rfl, belowSum] at hbytes
    omega

/-- An entry that is a directory. -/
theorem steps_directory {stack : List RemovalDirectoryFrame} (hremoves : Removes root tree c.2)
    (h : Ready root path (c :: rest) removed (stack.length + 1) discovered bytes)
    (hc : (Disk.mk tree removed).at? (path ++ [c.1]) = some c.2) (hdir : c.2.label.directory = true) :
    Steps (removalTurn root) ⟨⟨tree, removed⟩, ⟨path, c.1 :: rest.map Prod.fst⟩ :: stack, discovered, bytes⟩
      ⟨⟨tree, removed ++ pathsBelow (path ++ [c.1]) c.2.children ++ [path ++ [c.1]]⟩,
        ⟨path, rest.map Prod.fst⟩ :: stack,
        discovered + (belowSum nodeCost (path ++ [c.1]) c.2 + nodeCost (path ++ [c.1]) c.2),
        bytes + (belowSum (directoryCost root) (path ++ [c.1]) c.2 + directoryCost root (path ++ [c.1]) c.2)⟩ := by
  have hfound := (Disk.at?_eq_some.mp hc).2
  have hself : ([c.1], c.2) ∈ nodesAll (c :: rest) := mem_nodesAll_cons (self_mem_nodes c.2)
  have hready := h.open (tree.distinct.of_find? hfound) hdir
  have huntouched : ∀ p ∈ removed, ¬ path ++ [c.1] <+: p := fun p hp => h.untouched p hp c List.mem_cons_self
  have hnodes := hready.nodes
  have hbytes := hready.bytes
  have hshallow : stack.length + 1 + 1 ≤ maxOpenMutationDirectories := h.shallow _ hself hdir
  have hopen : removalTurn root ⟨⟨tree, removed⟩, ⟨path, c.1 :: rest.map Prod.fst⟩ :: stack, discovered, bytes⟩ =
      .next ⟨⟨tree, removed⟩, ⟨path ++ [c.1], c.2.children.map Prod.fst⟩ :: ⟨path, rest.map Prod.fst⟩ :: stack,
        discovered + 1, bytes + pathCost (pathUnits root (path ++ [c.1]))⟩ :=
    removalTurn_directory hc (h.ordinary _ hself) hdir
      (fun d _ hmem => huntouched _ hmem (List.prefix_append _ _)) (by omega) (by omega) hshallow
  have hbelow := hremoves (path ++ [c.1]) (⟨path, rest.map Prod.fst⟩ :: stack) removed _ _ hfound hdir huntouched hready
  have hcost : directoryCost root (path ++ [c.1]) c.2 = pathCost (pathUnits root (path ++ [c.1])) := by
    rw [directoryCost, hdir, if_pos rfl]
  rw [nodeCost, hcost, Nat.add_comm _ 1, Nat.add_comm _ (pathCost _), ← Nat.add_assoc, ← Nat.add_assoc]
  exact (Steps.single hopen).trans hbelow

/-- The entries of a directory that is open, one by one. -/
theorem steps_entries {stack : List RemovalDirectoryFrame} {entries : List (Name × Rose Name Metadata)}
    (hremoves : ∀ c ∈ entries, Removes root tree c.2) (hnode : tree.node.find? path = some node)
    (hentries : ∀ c ∈ entries, c ∈ node.children)
    (h : Ready root path entries removed (stack.length + 1) discovered bytes) :
    Steps (removalTurn root) ⟨⟨tree, removed⟩, ⟨path, entries.map Prod.fst⟩ :: stack, discovered, bytes⟩
      ⟨⟨tree, removed ++ pathsBelow path entries⟩, ⟨path, []⟩ :: stack, discovered + forestSum nodeCost path entries,
        bytes + forestSum (directoryCost root) path entries⟩ := by
  induction entries generalizing removed discovered bytes with
  | nil =>
    have hnone : pathsBelow path [] = [] := by rw [pathsBelow, nodesAll_nil, List.map_nil]
    rw [forestSum_nil, forestSum_nil, hnone, List.append_nil]
    exact Steps.refl _
  | cons c rest ih =>
    obtain ⟨hc, hrest⟩ := List.forall_mem_cons.mp hentries
    obtain ⟨hremove, hremoves⟩ := List.forall_mem_cons.mp hremoves
    have hthere : (Disk.mk tree removed).at? (path ++ [c.1]) = some c.2 := by
      refine Disk.at?_eq_some.mpr ⟨fun hmem => h.untouched _ hmem c List.mem_cons_self List.prefix_rfl, ?_⟩
      rw [find?_append, hnode, Option.bind_some, (tree.distinct.of_find? hnode).find?_child hc, find?_nil]
    have hentry := by
      cases hdir : c.2.label.directory with
      | true => exact steps_directory hremove h hthere hdir
      | false => exact steps_file h hthere hdir
    have hothers := ih hremoves hrest h.tail
    rw [pathsBelow_cons, forestSum_cons, forestSum_cons, ← Nat.add_assoc discovered, ← Nat.add_assoc bytes,
      ← List.append_assoc, ← List.append_assoc]
    exact hentry.trans hothers

/-- **The walk removes a directory that is open**, with all that is below it: by induction on the tree. -/
theorem removes (root : List CodeUnit) (tree : ManagedTree) (t : Node) : Removes root tree t := by
  induction t using Rose.induct with
  | step t ih =>
    intro path stack removed discovered bytes hnode hdir huntouched hready
    have hentries := steps_entries ih hnode (fun c hc => hc) hready
    have hthere : (Disk.mk tree (removed ++ pathsBelow path t.children)).at? path = some t := by
      refine Disk.at?_eq_some.mpr ⟨fun hmem => ?_, hnode⟩
      rcases List.mem_append.mp hmem with hmem | hmem
      · exact huntouched path hmem List.prefix_rfl
      · obtain ⟨c, -, hinitial⟩ := mem_pathsBelow hmem
        have hlength := hinitial.length_le
        rw [List.length_append, List.length_singleton] at hlength
        omega
    refine hentries.trans (Steps.single (removalTurn_close hthere fun c hc => ?_))
    refine List.mem_append_right _ (List.mem_map.mpr ⟨([c.1], c.2), mem_nodesAll.mpr ⟨c, hc, [], ?_, rfl⟩, rfl⟩)
    exact self_mem_nodes c.2

end

/-! ## The whole tree -/

/-- Every entry has been deleted once, each directory after what was in it. -/
structure RemovedWhole (tree : ManagedTree) (disk : Disk) : Prop where
  all : disk.removed.Perm (tree.node.nodes.map Prod.fst)
  once : disk.removed.Nodup
  childrenFirst : disk.removed.Pairwise fun p q => ¬ p <+: q
  absent : disk.at? [] = none

theorem removedWhole (tree : ManagedTree) :
    RemovedWhole tree ⟨tree, pathsBelow [] tree.node.children ++ [[]]⟩ := by
  have hall : pathsBelow [] tree.node.children ++ [[]] = tree.node.nodes.map Prod.fst := by
    rw [nodes_eq, List.map_append, pathsBelow]
    simp
  have hfirst := pairwise_nodes tree.distinct
  rw [← hall] at hfirst
  refine ⟨by rw [hall], hfirst.imp fun {p q} hpq (heq : p = q) => hpq (heq ▸ List.prefix_rfl), hfirst, ?_⟩
  rw [Disk.at?, if_pos (List.mem_append_right _ List.mem_cons_self)]

variable {tree : ManagedTree}

theorem openMutationTarget_root (h : Validated root (some maxOpenMutationDirectories) tree.node) :
    (Disk.mk tree []).openMutationTarget [] true "managed tree removal" = .ok () := by
  have hroot : (Disk.mk tree []).at? [] = some tree.node := Disk.at?_eq_some.mpr ⟨List.not_mem_nil, find?_nil _⟩
  have hopen := openMutationTarget_ordinary hroot
    ⟨h.plain, fun hfile => absurd (hfile.symm.trans h.directory) Bool.false_ne_true⟩ "managed tree removal"
  rwa [h.directory] at hopen

theorem removalStart_validated (h : Validated root (some maxOpenMutationDirectories) tree.node) :
    removalStart root ⟨tree, []⟩ =
      .ok ⟨⟨tree, []⟩, [⟨[], tree.node.children.map Prod.fst⟩], 1, pathCost (pathUnits root [])⟩ := by
  have hroot : (Disk.mk tree []).at? [] = some tree.node := Disk.at?_eq_some.mpr ⟨List.not_mem_nil, find?_nil _⟩
  have hread : (Disk.mk tree []).readDir [] = .ok (tree.node.children.map Prod.fst) :=
    (Disk.readDir_eq_ok hroot fun _ _ => List.not_mem_nil).mpr ⟨h.directory, rfl⟩
  have hbytes := h.bytes
  simp only [removalStart, removalDirectoryFrame, hread, Except.bind_eq_ok, Except.ok.injEq, exists_eq_left', pure,
    Except.pure, recordBoundedTreeNode_eq_ok, Prod.exists,
    tryPushBoundedPath_eq_ok (show maxOpenMutationDirectories < usizeLimit by decide) maxPathBytes_lt]
  exact ⟨1, ⟨rfl, by decide⟩, _, _, ⟨rfl, Nat.zero_add _, by omega, by decide⟩, rfl⟩

/-- The walk over a tree that was validated removes it. -/
theorem run_removal (h : Validated root (some maxOpenMutationDirectories) tree.node) :
    ∃ k s', s'.disk = ⟨tree, pathsBelow [] tree.node.children ++ [[]]⟩ ∧ ∀ turns, k ≤ turns →
      Loops.run (removalTurn root) turns
        ⟨⟨tree, []⟩, [⟨[], tree.node.children.map Prod.fst⟩], 1, pathCost (pathUnits root [])⟩ = some (.ok (), s') := by
  have hready : Ready root [] tree.node.children [] 1 1 (pathCost (pathUnits root [])) :=
    ⟨tree.distinct.nodup, fun e he => (h.admissible e he).1, fun e he => (h.admissible e he).2,
      fun p hp => absurd hp List.not_mem_nil, h.nodes, h.bytes⟩
  have hsteps := removes root tree tree.node [] [] [] _ _ (find?_nil _) h.directory
    (fun p hp => absurd hp List.not_mem_nil) hready
  obtain ⟨k, hk⟩ := run_of_steps hsteps
  refine ⟨k + 1, ⟨⟨tree, pathsBelow [] tree.node.children ++ [[]]⟩, [], 1 + belowSum nodeCost [] tree.node,
    pathCost (pathUnits root []) + belowSum (directoryCost root) [] tree.node⟩, rfl, fun turns hle => ?_⟩
  obtain ⟨n, rfl⟩ : ∃ n, turns = k + (n + 1) := ⟨turns - k - 1, by omega⟩
  rw [hk]
  exact run_done rfl n

theorem removeTreeNoReparse_validated (h : Validated root (some maxOpenMutationDirectories) tree.node) {n : Nat}
    (hvalidate : ∀ turns, n ≤ turns →
      validateTreeWithDirectoryDepthLimit ⟨tree, []⟩ root (some maxOpenMutationDirectories) turns = some (.ok ())) :
    ∃ k, ∀ turns, k ≤ turns → removeTreeNoReparse root turns ⟨tree, []⟩ =
      some (.ok (), ⟨tree, pathsBelow [] tree.node.children ++ [[]]⟩) := by
  obtain ⟨k, s', hdisk, hrun⟩ := run_removal h
  refine ⟨max n k, fun turns hle => ?_⟩
  have habsent : (Disk.mk tree (pathsBelow [] tree.node.children ++ [[]])).ensureAbsent []
      "managed tree root after handle-bound deletion" = .ok () := by
    rw [Disk.ensureAbsent, (removedWhole tree).absent]
  simp only [removeTreeNoReparse, openMutationTarget_root h, hvalidate turns (by omega), removalStart_validated h,
    hrun turns (by omega), Option.map_some, hdisk, habsent]

theorem validateTree_mono {disk : Disk} {limit : Option Nat} {n turns : Nat} {result : Except Error Unit}
    (h : validateTreeWithDirectoryDepthLimit disk root limit n = some result) (hle : n ≤ turns) :
    validateTreeWithDirectoryDepthLimit disk root limit turns = some result := by
  unfold validateTreeWithDirectoryDepthLimit at h ⊢
  split at h
  · exact h
  · next s hs =>
    obtain ⟨r, hrun, hresult⟩ := Option.map_eq_some_iff.mp h
    simp only [run_mono hrun hle, Option.map_some, hresult]

/-- A refusal comes before the first deletion. -/
theorem removeTreeNoReparse_refused {n : Nat} {e : Error} (hvalidate : ∀ turns, n ≤ turns →
    validateTreeWithDirectoryDepthLimit ⟨tree, []⟩ root (some maxOpenMutationDirectories) turns = some (.error e)) :
    ∃ e', ∀ turns, n ≤ turns → removeTreeNoReparse root turns ⟨tree, []⟩ = some (.error e', ⟨tree, []⟩) := by
  cases hopen : (Disk.mk tree []).openMutationTarget [] true "managed tree removal" with
  | error e' => exact ⟨e', fun turns _ => by simp only [removeTreeNoReparse, hopen]⟩
  | ok u => exact ⟨e, fun turns hle => by simp only [removeTreeNoReparse, hopen, hvalidate turns hle]⟩

variable (root) (tree)

/-- **A managed tree is refused before anything of it is deleted, or it is removed as a whole**: when its validation
succeeds, the removal ends, does not fail, and deletes each entry once and before the directory that it is in. -/
theorem removal_all_or_nothing : ∃ result disk,
    (∃ k, ∀ turns, k ≤ turns → removeTreeNoReparse root turns ⟨tree, []⟩ = some (result, disk)) ∧
    ((∃ turns, validateTreeWithDirectoryDepthLimit ⟨tree, []⟩ root (some maxOpenMutationDirectories) turns =
        some (.ok ())) → result = .ok () ∧ RemovedWhole tree disk) ∧
    ((∀ turns, validateTreeWithDirectoryDepthLimit ⟨tree, []⟩ root (some maxOpenMutationDirectories) turns ≠
        some (.ok ())) → result ≠ .ok () ∧ disk = ⟨tree, []⟩) := by
  have hlimit : ∀ hardLimit ∈ some maxOpenMutationDirectories, hardLimit < usizeLimit := by decide
  obtain ⟨n, validation, hn⟩ : ∃ n validation, validateTreeWithDirectoryDepthLimit ⟨tree, []⟩ root
      (some maxOpenMutationDirectories) n = some validation := validate_ends hlimit rfl
  have hall := fun turns (hle : n ≤ turns) => validateTree_mono hn hle
  cases validation with
  | ok u =>
    obtain ⟨k, hk⟩ := removeTreeNoReparse_validated (validated hlimit rfl hn) hall
    exact ⟨_, _, ⟨k, hk⟩, fun _ => ⟨rfl, removedWhole tree⟩, fun hnever => absurd hn (hnever n)⟩
  | error e =>
    obtain ⟨e', he'⟩ := removeTreeNoReparse_refused hall
    refine ⟨_, _, ⟨n, he'⟩, ?_, fun _ => ⟨by simp, rfl⟩⟩
    rintro ⟨turns, hok⟩
    have hsame := (validateTree_mono hn (Nat.le_max_left n turns)).symm.trans
      (validateTree_mono hok (Nat.le_max_right n turns))
    cases hsame

end

/-- A directory with a file and an empty directory. -/
def sampleTree : ManagedTree where
  node := .node ⟨true, false, false, 1⟩
    [([97], .node ⟨false, false, false, 1⟩ []), ([98], .node ⟨true, false, false, 1⟩ [])]
  distinct := .node (by decide) (by
    intro c hc
    rcases List.mem_cons.mp hc with rfl | hc
    · exact .node List.nodup_nil (by simp)
    · obtain rfl := List.mem_singleton.mp hc
      exact .node List.nodup_nil (by simp))
  leaves := by simp [nodes, nodesAll]

example : (removeTreeNoReparse [67, 58] 5 ⟨sampleTree, []⟩).map (fun r => (r.1, r.2.removed)) =
    some (.ok (), [[[97]], [[98]], []]) := by decide

end Maintenance

end Xsoc
