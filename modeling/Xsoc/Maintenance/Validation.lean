import Xsoc.Loops.While
import Xsoc.Maintenance.Disk

/-!
# The validation of a managed tree

Before a tree is touched it is walked through, directory by directory, within the budgets: there must be no reparse
points and no files with several links, and where the caller asks for it no directory too deep.

* `validateTreeWithDirectoryDepthLimit` : the walk;
* `Admissible` : what it looks for, of all entries of a tree;
* `Budgeted` : what it counts, over all entries of a tree;
* `validated` : a tree that it accepts is admissible and within the budgets; `validate_ends` : the walk ends.
-/

set_option autoImplicit false

namespace Xsoc

namespace Maintenance

open Loops Trees Rose

/-- A directory, or a file with one link. -/
def Metadata.Ordinary (m : Metadata) : Prop := m.reparsePoint = false ∧ (m.directory = false → m.linkCount = 1)

/-- The walk, with the directories it has still to go through. -/
structure Validation where
  pending : List (List Name × Nat)
  discovered : Nat
  pathPayloadBytes : Nat

section

variable (disk : Disk) (root : List CodeUnit) (directoryDepthLimit : Option Nat)

def childDepth (directoryDepth : Nat) : Except Error Nat :=
  match directoryDepthLimit with
  | some hardLimit => checkedChildDirectoryDepth directoryDepth hardLimit
  | none => okOr (.message "managed directory depth overflowed") (checkedAdd directoryDepth 1)

/-- One entry of a directory at this depth. -/
def validateEntry (directoryDepth : Nat) (path : List Name) (s : Validation) : Except Error Validation := do
  let metadata ← disk.symlinkMetadata path
  check (metadata.reparsePoint = false) (.message "managed tree contains a reparse point")
  if metadata.isDir then
    let depth ← childDepth directoryDepthLimit directoryDepth
    let (pending, discovered, pathPayloadBytes) ← enqueueBoundedTreePath s.pending s.discovered (path, depth)
      (pathUnits root path) s.pathPayloadBytes maxTreeNodes maxPathBytes "managed tree traversal queue"
    return ⟨pending, discovered, pathPayloadBytes⟩
  else
    let discovered ← recordBoundedTreeNode s.discovered maxTreeNodes "managed tree traversal"
    check (metadata.isFile = true) (.message "managed tree contains a special file")
    let linkCount ← disk.fileLinkCount path
    check (linkCount = 1) (.message "managed tree contains a multiply-linked file")
    return { s with discovered := discovered }

def validateEntries (directory : List Name) (directoryDepth : Nat) : List Name → Validation → Except Error Validation
  | [], s => .ok s
  | name :: names, s => do
    let s ← validateEntry disk root directoryDepthLimit directoryDepth (directory ++ [name]) s
    validateEntries directory directoryDepth names s

/-- One directory. -/
def validateTurn (s : Validation) : Turn Error Validation :=
  match s.pending with
  | [] => .done
  | (directory, directoryDepth) :: pending => .ofExcept do
    let names ← disk.readDir directory
    validateEntries disk root directoryDepthLimit directory directoryDepth names { s with pending := pending }

/-- The root is a directory, and the first that the walk goes through. -/
def validateStart : Except Error Validation := do
  disk.validateRealDirectory [] "managed directory"
  check (∀ hardLimit ∈ directoryDepthLimit, 1 ≤ hardLimit)
    (.message "managed directory depth hard limit must include the root")
  let (pending, discovered, pathPayloadBytes) ← enqueueBoundedTreePath [] 0 ([], 1) (pathUnits root []) 0 maxTreeNodes
    maxPathBytes "managed tree traversal"
  return ⟨pending, discovered, pathPayloadBytes⟩

/-- `validate_tree_with_directory_depth_limit`, in so many turns. -/
def validateTreeWithDirectoryDepthLimit (turns : Nat) : Option (Except Error Unit) :=
  match validateStart disk root directoryDepthLimit with
  | .error e => some (.error e)
  | .ok s => (Loops.run (validateTurn disk root directoryDepthLimit) turns s).map Prod.fst

/-! ## What the walk finds -/

/-- A depth that the limit allows. -/
def Shallow (depth : Nat) : Prop :=
  match directoryDepthLimit with
  | some hardLimit => depth ≤ hardLimit
  | none => depth < usizeLimit

/-- All entries below a directory at this depth are ordinary, and no directory is too deep. -/
def Admissible (depth : Nat) (t : Node) : Prop :=
  ∀ e ∈ nodesAll t.children, e.2.label.Ordinary ∧
    (e.2.label.directory = true → Shallow directoryDepthLimit (depth + e.1.length))

/-- Each entry counts as one node. -/
def nodeCost (_ : List Name) (_ : Node) : Nat := 1

/-- Each directory counts with its path. -/
def directoryCost (path : List Name) (t : Node) : Nat :=
  if t.label.directory then pathCost (pathUnits root path) else 0

/-- An entry that is accepted is ordinary, it is counted, and a directory is pending. -/
structure Entered (path : List Name) (depth : Nat) (t : Node) (s s' : Validation) : Prop where
  ordinary : t.label.Ordinary
  shallow : t.label.directory = true → Shallow directoryDepthLimit (depth + 1)
  pending : s'.pending = (if t.label.directory then [(path, depth + 1)] else []) ++ s.pending
  discovered : s'.discovered = s.discovered + nodeCost path t
  bytes : s'.pathPayloadBytes = s.pathPayloadBytes + directoryCost root path t
  withinNodes : s'.discovered ≤ maxTreeNodes
  withinBytes : s.pathPayloadBytes ≤ maxPathBytes → s'.pathPayloadBytes ≤ maxPathBytes

/-- The entries of a directory, when all are accepted. -/
structure WalkedEntries (directory : List Name) (depth : Nat) (entries : List (Name × Rose Name Metadata))
    (s s' : Validation) :
    Prop where
  accepted : ∀ c ∈ entries, c.2.label.Ordinary ∧
    (c.2.label.directory = true → Shallow directoryDepthLimit (depth + 1))
  pending : s'.pending = ((entries.filter fun c => c.2.label.directory).map fun c =>
    (directory ++ [c.1], depth + 1)).reverse ++ s.pending
  discovered : s'.discovered = s.discovered + (entries.map fun c => nodeCost (directory ++ [c.1]) c.2).sum
  bytes : s'.pathPayloadBytes = s.pathPayloadBytes +
    (entries.map fun c => directoryCost root (directory ++ [c.1]) c.2).sum
  withinNodes : s.discovered ≤ maxTreeNodes → s'.discovered ≤ maxTreeNodes
  withinBytes : s.pathPayloadBytes ≤ maxPathBytes → s'.pathPayloadBytes ≤ maxPathBytes

/-- What is below the directories that are pending. -/
def pendingSum (cost : List Name → Node → Nat) (pending : List (List Name × Nat)) : Nat :=
  (pending.map fun e => ((disk.at? e.1).map (belowSum cost e.1)).getD 0).sum

/-- The directories that are pending are there, and the walk is within the budgets. -/
structure Walking (s : Validation) : Prop where
  there : ∀ e ∈ s.pending, ∃ node, disk.at? e.1 = some node
  nodes : s.discovered ≤ maxTreeNodes
  bytes : s.pathPayloadBytes ≤ maxPathBytes

/-- What is pending is admissible, and all that it will count is within the budgets. -/
structure Walkable (s : Validation) : Prop where
  admissible : ∀ e ∈ s.pending, ∀ node, disk.at? e.1 = some node → Admissible directoryDepthLimit e.2 node
  nodes : s.discovered + pendingSum disk nodeCost s.pending ≤ maxTreeNodes
  bytes : s.pathPayloadBytes + pendingSum disk (directoryCost root) s.pending ≤ maxPathBytes

/-- A real directory whose entries are admissible, and within the budgets. -/
structure Validated (t : Node) : Prop where
  directory : t.label.directory = true
  plain : t.label.reparsePoint = false
  admissible : Admissible directoryDepthLimit 1 t
  nodes : 1 + belowSum nodeCost [] t ≤ maxTreeNodes
  bytes : pathCost (pathUnits root []) + belowSum (directoryCost root) [] t ≤ maxPathBytes

variable {directoryDepthLimit}

/-- It is enough to look at the entries of the directory, and below its directories. -/
theorem admissible_of_children {depth : Nat} {t : Node}
    (h : ∀ c ∈ t.children, c.2.label.Ordinary ∧
      (c.2.label.directory = true → Shallow directoryDepthLimit (depth + 1)) ∧
      Admissible directoryDepthLimit (depth + 1) c.2) : Admissible directoryDepthLimit depth t := by
  intro e he
  obtain ⟨c, hc, path, hpath, heq⟩ := mem_nodesAll.mp he
  obtain ⟨hordinary, hshallow, hbelow⟩ := h c hc
  rw [nodes_eq, List.mem_append, List.mem_singleton, Prod.mk.injEq] at hpath
  rcases hpath with hpath | ⟨rfl, hself⟩
  · obtain ⟨hordinary', hshallow'⟩ := hbelow _ hpath
    refine ⟨hordinary', fun hdir => ?_⟩
    rw [heq, List.length_cons, Nat.add_comm path.length, ← Nat.add_assoc]
    exact hshallow' hdir
  · rw [heq, hself]
    exact ⟨hordinary, hshallow⟩

theorem childDepth_eq_ok {depth depth' : Nat} (hlimit : ∀ hardLimit ∈ directoryDepthLimit, hardLimit < usizeLimit)
    (h : childDepth directoryDepthLimit depth = .ok depth') :
    depth' = depth + 1 ∧ Shallow directoryDepthLimit (depth + 1) := by
  cases directoryDepthLimit with
  | none =>
    obtain ⟨rfl, hlt⟩ := checkedAdd_eq_some.mp (okOr_eq_ok.mp h)
    exact ⟨rfl, hlt⟩
  | some hardLimit =>
    obtain ⟨rfl, hle⟩ := (checkedChildDirectoryDepth_eq_ok (hlimit hardLimit rfl)).mp h
    exact ⟨rfl, hle⟩

variable {disk root}

theorem entered_of_validateEntry (hlimit : ∀ hardLimit ∈ directoryDepthLimit, hardLimit < usizeLimit) {path : List Name}
    {depth : Nat} {t : Node} (ht : disk.at? path = some t) {s s' : Validation}
    (h : validateEntry disk root directoryDepthLimit depth path s = .ok s') :
    Entered root directoryDepthLimit path depth t s s' := by
  simp only [validateEntry, Disk.symlinkMetadata_of_at? ht, Disk.fileLinkCount, Except.bind_eq_ok, Except.ok.injEq,
    check_eq_ok, exists_eq_left'] at h
  obtain ⟨-, hplain, h⟩ := h
  rw [Metadata.isDir_of_plain hplain, Metadata.isFile_of_plain hplain] at h
  cases hdir : t.label.directory with
  | true =>
    rw [hdir, if_pos rfl] at h
    simp only [Except.bind_eq_ok, Prod.exists, enqueueBoundedTreePath_eq_ok maxTreeNodes_lt maxPathBytes_lt, pure,
      Except.pure, Except.ok.injEq] at h
    obtain ⟨depth', hdepth, pending, discovered, bytes, ⟨rfl, rfl, hnodes, rfl, hbytes, -⟩, rfl⟩ := h
    obtain ⟨rfl, hshallow⟩ := childDepth_eq_ok hlimit hdepth
    exact ⟨⟨hplain, fun hfile => absurd (hfile.symm.trans hdir) Bool.false_ne_true⟩, fun _ => hshallow,
      by rw [hdir]; rfl, rfl,
      by rw [directoryCost, hdir]; rfl, hnodes, fun _ => hbytes⟩
  | false =>
    rw [hdir, if_neg Bool.false_ne_true] at h
    simp only [Except.bind_eq_ok, recordBoundedTreeNode_eq_ok, check_eq_ok, pure, Except.pure, Except.ok.injEq,
      exists_eq_left'] at h
    obtain ⟨discovered, ⟨rfl, hnodes⟩, -, -, -, hlink, rfl⟩ := h
    exact ⟨⟨hplain, fun _ => hlink⟩, fun htrue => absurd (hdir.symm.trans htrue) Bool.false_ne_true, by rw [hdir]; rfl,
      rfl, by rw [directoryCost, hdir]; rfl, hnodes, fun hle => hle⟩

theorem walkedEntries (hlimit : ∀ hardLimit ∈ directoryDepthLimit, hardLimit < usizeLimit)
    (hwhole : disk.removed = []) {directory : List Name} {depth : Nat} {node : Node}
    (hnode : disk.at? directory = some node) {entries : List (Name × Rose Name Metadata)}
      (hentries : ∀ c ∈ entries, c ∈ node.children)
    {s s' : Validation}
    (h : validateEntries disk root directoryDepthLimit directory depth (entries.map Prod.fst) s = .ok s') :
    WalkedEntries root directoryDepthLimit directory depth entries s s' := by
  induction entries generalizing s with
  | nil =>
    obtain rfl := Except.ok.inj h
    exact ⟨by simp, rfl, rfl, rfl, id, id⟩
  | cons c entries ih =>
    obtain ⟨hc, hrest⟩ := List.forall_mem_cons.mp hentries
    rw [List.map_cons, validateEntries, Except.bind_eq_ok] at h
    obtain ⟨u, hu, h⟩ := h
    have hentered := entered_of_validateEntry hlimit (Disk.at?_child hnode hc (by simp [hwhole])) hu
    have hwalked := ih hrest h
    refine ⟨List.forall_mem_cons.mpr ⟨⟨hentered.ordinary, hentered.shallow⟩, hwalked.accepted⟩, ?_, ?_, ?_,
      fun _ => hwalked.withinNodes hentered.withinNodes, fun hle => hwalked.withinBytes (hentered.withinBytes hle)⟩
    · rw [hwalked.pending, hentered.pending]
      cases hdir : c.2.label.directory with
      | true => rw [List.filter_cons, if_pos hdir, List.map_cons, List.reverse_cons, List.append_assoc, if_pos rfl]
      | false => rw [if_neg Bool.false_ne_true, List.filter_cons, if_neg (by simp [hdir]), List.nil_append]
    · rw [hwalked.discovered, hentered.discovered, List.map_cons, List.sum_cons, Nat.add_assoc]
    · rw [hwalked.bytes, hentered.bytes, List.map_cons, List.sum_cons, Nat.add_assoc]

theorem pendingSum_cons {cost : List Name → Node → Nat} {e : List Name × Nat} {node : Node}
    (h : disk.at? e.1 = some node) (rest : List (List Name × Nat)) :
    pendingSum disk cost (e :: rest) = belowSum cost e.1 node + pendingSum disk cost rest := by
  rw [pendingSum, List.map_cons, List.sum_cons, h]
  rfl

theorem pendingSum_append (cost : List Name → Node → Nat) (l l' : List (List Name × Nat)) :
    pendingSum disk cost (l ++ l') = pendingSum disk cost l + pendingSum disk cost l' := by
  rw [pendingSum, List.map_append, List.sum_append]
  rfl

theorem pendingSum_reverse (cost : List Name → Node → Nat) (l : List (List Name × Nat)) :
    pendingSum disk cost l.reverse = pendingSum disk cost l := by
  rw [pendingSum, List.map_reverse, List.sum_reverse]
  rfl

/-- There is nothing below a file. -/
theorem pendingSum_entries (hwhole : disk.removed = []) {directory : List Name} {depth : Nat} {node : Node}
    (hnode : disk.at? directory = some node) {entries : List (Name × Rose Name Metadata)}
      (hentries : ∀ c ∈ entries, c ∈ node.children)
    (cost : List Name → Node → Nat) :
    pendingSum disk cost ((entries.filter fun c => c.2.label.directory).map fun c => (directory ++ [c.1], depth)) =
      (entries.map fun c => belowSum cost (directory ++ [c.1]) c.2).sum := by
  induction entries with
  | nil => rfl
  | cons c entries ih =>
    obtain ⟨hc, hrest⟩ := List.forall_mem_cons.mp hentries
    have hchild := Disk.at?_child hnode hc (by simp [hwhole])
    rw [List.map_cons, List.sum_cons, ← ih hrest]
    cases hdir : c.2.label.directory with
    | true => rw [List.filter_cons, if_pos hdir, List.map_cons, pendingSum_cons hchild]
    | false =>
      have hnone : belowSum cost (directory ++ [c.1]) c.2 = 0 := by
        rw [belowSum, Disk.children_of_file hchild hdir, forestSum_nil]
      rw [List.filter_cons, if_neg (by simp [hdir]), hnone, Nat.zero_add]

theorem validateTurn_eq_done {s : Validation} (h : validateTurn disk root directoryDepthLimit s = .done) :
    s.pending = [] := by
  unfold validateTurn at h
  split at h
  · assumption
  · exact absurd h (Turn.ofExcept_ne_done _)

/-- One directory: what was below it is now below its entries, or counted. -/
theorem validateTurn_eq_next (hlimit : ∀ hardLimit ∈ directoryDepthLimit, hardLimit < usizeLimit)
    (hwhole : disk.removed = []) {s s' : Validation} (hs : Walking disk s)
    (h : validateTurn disk root directoryDepthLimit s = .next s') :
    ∃ directory depth pending node, s.pending = (directory, depth) :: pending ∧ disk.at? directory = some node ∧
      WalkedEntries root directoryDepthLimit directory depth node.children { s with pending := pending } s' := by
  unfold validateTurn at h
  split at h
  · cases h
  · next directory depth pending hpending =>
    obtain ⟨node, hnode⟩ := hs.there (directory, depth) (by rw [hpending]; exact List.mem_cons_self)
    rw [Turn.ofExcept_eq_next, Except.bind_eq_ok] at h
    obtain ⟨names, hnames, h⟩ := h
    obtain ⟨-, rfl⟩ := (Disk.readDir_eq_ok hnode (by simp [hwhole])).mp hnames
    exact ⟨directory, depth, pending, node, hpending, hnode, walkedEntries hlimit hwhole hnode (fun c hc => hc) h⟩

section

variable {directory : List Name} {depth : Nat} {pending : List (List Name × Nat)} {node : Node} {s s' : Validation}

/-- What a turn counts, and what it leaves to be counted, is what was to be counted before. -/
theorem pendingSum_turn (hwhole : disk.removed = []) (hpending : s.pending = (directory, depth) :: pending)
    (hnode : disk.at? directory = some node)
    (h : WalkedEntries root directoryDepthLimit directory depth node.children { s with pending := pending } s')
    (cost : List Name → Node → Nat) : pendingSum disk cost s'.pending +
      (node.children.map fun c => cost (directory ++ [c.1]) c.2).sum = pendingSum disk cost s.pending := by
  rw [h.pending, pendingSum_append, pendingSum_reverse, pendingSum_entries hwhole hnode (fun c hc => hc), hpending,
    pendingSum_cons hnode, belowSum_eq]
  exact Nat.add_right_comm _ _ _

theorem Walking.turn (hwhole : disk.removed = []) (hs : Walking disk s)
    (hpending : s.pending = (directory, depth) :: pending) (hnode : disk.at? directory = some node)
    (h : WalkedEntries root directoryDepthLimit directory depth node.children { s with pending := pending } s') :
    Walking disk s' := by
  refine ⟨fun e he => ?_, h.withinNodes hs.nodes, h.withinBytes hs.bytes⟩
  rw [h.pending, List.mem_append, List.mem_reverse, List.mem_map] at he
  rcases he with ⟨c, hc, rfl⟩ | he
  · exact ⟨c.2, Disk.at?_child hnode (List.mem_filter.mp hc).1 (by simp [hwhole])⟩
  · exact hs.there e (by rw [hpending]; exact List.mem_cons_of_mem _ he)

theorem Walkable.turn (hwhole : disk.removed = []) (hpending : s.pending = (directory, depth) :: pending)
    (hnode : disk.at? directory = some node)
    (h : WalkedEntries root directoryDepthLimit directory depth node.children { s with pending := pending } s')
    (hs' : Walkable disk root directoryDepthLimit s') :
    Walkable disk root directoryDepthLimit s := by
  have hnodes := pendingSum_turn hwhole hpending hnode h nodeCost
  have hbytes := pendingSum_turn hwhole hpending hnode h (directoryCost root)
  refine ⟨?_, ?_, ?_⟩
  · intro e he t ht
    rw [hpending, List.mem_cons] at he
    rcases he with rfl | he
    · obtain rfl := Option.some.inj (hnode.symm.trans ht)
      refine admissible_of_children fun c hc => ?_
      obtain ⟨hordinary, hshallow⟩ := h.accepted c hc
      refine ⟨hordinary, hshallow, ?_⟩
      have hchild := Disk.at?_child hnode hc (by simp [hwhole])
      cases hdir : c.2.label.directory with
      | true =>
        refine hs'.admissible (directory ++ [c.1], depth + 1) ?_ c.2 hchild
        rw [h.pending, List.mem_append, List.mem_reverse, List.mem_map]
        exact Or.inl ⟨c, List.mem_filter.mpr ⟨hc, hdir⟩, rfl⟩
      | false =>
        intro e he
        rw [Disk.children_of_file hchild hdir, nodesAll_nil] at he
        cases he
    · exact hs'.admissible e (by rw [h.pending]; exact List.mem_append_right _ he) t ht
  · have := hs'.nodes
    have := h.discovered
    dsimp only at this
    omega
  · have := hs'.bytes
    have := h.bytes
    dsimp only at this
    omega

end

theorem walkable_of_run (hlimit : ∀ hardLimit ∈ directoryDepthLimit, hardLimit < usizeLimit)
    (hwhole : disk.removed = []) {turns : Nat} {s s' : Validation} (hs : Walking disk s)
    (h : Loops.run (validateTurn disk root directoryDepthLimit) turns s = some (.ok (), s')) :
    Walkable disk root directoryDepthLimit s := by
  refine of_run (fun s hs hdone => ?_) (fun s s' hs hnext => ?_) hs h
  · have hpending := validateTurn_eq_done hdone
    refine ⟨by simp [hpending], ?_, ?_⟩ <;> rw [hpending]
    exacts [hs.nodes, hs.bytes]
  · obtain ⟨directory, depth, pending, node, hpending, hnode, hwalked⟩ := validateTurn_eq_next hlimit hwhole hs hnext
    exact ⟨hs.turn hwhole hpending hnode hwalked, Walkable.turn hwhole hpending hnode hwalked⟩

/-- Each turn takes one directory away, and what it makes pending was below it. -/
theorem run_validate_ends (hlimit : ∀ hardLimit ∈ directoryDepthLimit, hardLimit < usizeLimit)
    (hwhole : disk.removed = []) {s : Validation} (hs : Walking disk s) :
    ∃ turns r, Loops.run (validateTurn disk root directoryDepthLimit) turns s = some r := by
  let left (s : Validation) : Nat := s.pending.length + pendingSum disk nodeCost s.pending
  refine exists_run left (fun s s' hs hnext => ?_) hs
  obtain ⟨directory, depth, pending, node, hpending, hnode, hwalked⟩ := validateTurn_eq_next hlimit hwhole hs hnext
  refine ⟨hs.turn hwhole hpending hnode hwalked, ?_⟩
  have hsum := pendingSum_turn hwhole hpending hnode hwalked nodeCost
  have hcount : (node.children.map fun c => nodeCost (directory ++ [c.1]) c.2).sum = node.children.length := by
    simp [nodeCost]
  have hlength : s'.pending.length ≤ node.children.length + pending.length := by
    rw [hwalked.pending, List.length_append, List.length_reverse, List.length_map]
    exact Nat.add_le_add_right (List.length_filter_le _ _) _
  have hold : s.pending.length = pending.length + 1 := by rw [hpending, List.length_cons]
  show s'.pending.length + pendingSum disk nodeCost s'.pending < s.pending.length + pendingSum disk nodeCost s.pending
  rw [hcount] at hsum
  omega

/-! ## What a tree that is accepted is like -/

theorem validateStart_eq_ok (hwhole : disk.removed = []) {s : Validation}
    (h : validateStart disk root directoryDepthLimit = .ok s) :
    disk.tree.node.label.directory = true ∧ disk.tree.node.label.reparsePoint = false ∧
      disk.at? [] = some disk.tree.node ∧ Walking disk s ∧
      s = ⟨[([], 1)], 1, pathCost (pathUnits root [])⟩ := by
  have hroot : disk.at? [] = some disk.tree.node := Disk.at?_eq_some.mpr ⟨by simp [hwhole], find?_nil _⟩
  simp only [validateStart, Disk.validateRealDirectory, Disk.symlinkMetadata_of_at? hroot, Except.bind_eq_ok,
    Except.ok.injEq, exists_eq_left', check_eq_ok, Prod.exists,
    enqueueBoundedTreePath_eq_ok maxTreeNodes_lt maxPathBytes_lt, pure, Except.pure, Nat.zero_add] at h
  obtain ⟨-, ⟨-, hdir, hplain⟩, -, -, pending, discovered, bytes, ⟨rfl, rfl, hnodes, rfl, hbytes, -⟩, rfl⟩ := h
  rw [Metadata.isDir_of_plain hplain] at hdir
  refine ⟨hdir, hplain, hroot, ⟨fun e he => ⟨disk.tree.node, ?_⟩, hnodes, hbytes⟩, rfl⟩
  rw [List.mem_singleton.mp he]
  exact hroot

theorem validated (hlimit : ∀ hardLimit ∈ directoryDepthLimit, hardLimit < usizeLimit) (hwhole : disk.removed = [])
    {turns : Nat} (h : validateTreeWithDirectoryDepthLimit disk root directoryDepthLimit turns = some (.ok ())) :
    Validated root directoryDepthLimit disk.tree.node := by
  unfold validateTreeWithDirectoryDepthLimit at h
  split at h
  · cases h
  · next s hs =>
    obtain ⟨hdir, hplain, hroot, hwalking, rfl⟩ := validateStart_eq_ok hwhole hs
    obtain ⟨⟨result, s'⟩, hrun, hresult⟩ := Option.map_eq_some_iff.mp h
    obtain rfl : result = .ok () := hresult
    have hwalkable := walkable_of_run hlimit hwhole hwalking hrun
    have hnodes := hwalkable.nodes
    have hbytes := hwalkable.bytes
    rw [pendingSum_cons hroot] at hnodes hbytes
    exact ⟨hdir, hplain, hwalkable.admissible ([], 1) List.mem_cons_self _ hroot, hnodes, hbytes⟩

theorem validate_ends (hlimit : ∀ hardLimit ∈ directoryDepthLimit, hardLimit < usizeLimit)
    (hwhole : disk.removed = []) : ∃ turns result,
      validateTreeWithDirectoryDepthLimit disk root directoryDepthLimit turns = some result := by
  unfold validateTreeWithDirectoryDepthLimit
  cases hs : validateStart disk root directoryDepthLimit with
  | error e => exact ⟨0, .error e, rfl⟩
  | ok s =>
    obtain ⟨-, -, -, hwalking, -⟩ := validateStart_eq_ok hwhole hs
    obtain ⟨turns, r, hrun⟩ : ∃ turns r, Loops.run (validateTurn disk root directoryDepthLimit) turns s = some r :=
      run_validate_ends hlimit hwhole hwalking
    exact ⟨turns, r.1, by simp only [hrun, Option.map_some]⟩

end

end Maintenance

end Xsoc
