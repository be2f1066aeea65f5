import Mathlib.Algebra.Order.BigOperators.Group.List
import Mathlib.Algebra.Order.Group.Nat
import Xsoc.Loops.While
import Xsoc.Maintenance.Disk

/-!
# Walks through a managed tree

A walk holds the paths that it has still to visit. It visits the last one, notes something of it, and puts the entries
of a directory behind the rest.

* `enqueue`, `enqueueAll` : what is put behind the rest is counted, and its path too;
* `unvisited` : the nodes that a walk has still to visit, with what is below them (`unvisited_visit`);
* `Covers` : what was noted is of the nodes that were visited, and these and the others are all nodes;
* `Covers.visit`, `Covers.of_done` : each visit keeps it, and in the end all nodes were visited.
-/

set_option autoImplicit false

namespace Xsoc

namespace Maintenance

open Trees Rose

structure TreeWalk (α : Type) where
  pending : List (List Name)
  discovered : Nat
  pathBytes : Nat
  /-- What was noted, the last first. -/
  found : List α

section

variable (root : List CodeUnit) (label : String) {α : Type}

/-- `enqueue_bounded_tree_path` for an entry. -/
def enqueue (path : List Name) (w : TreeWalk α) : Except Error (TreeWalk α) := do
  let (pending, discovered, pathBytes) ← enqueueBoundedTreePath w.pending w.discovered path (pathUnits root path)
    w.pathBytes maxTreeNodes maxPathBytes label
  return { w with pending := pending, discovered := discovered, pathBytes := pathBytes }

/-- The loop over the names of a directory. -/
def enqueueAll (directory : List Name) : List Name → TreeWalk α → Except Error (TreeWalk α)
  | [], w => .ok w
  | name :: names, w => do
    let w ← enqueue root label (directory ++ [name]) w
    enqueueAll directory names w

def walkStart (α : Type) : Except Error (TreeWalk α) := enqueue root label [] ⟨[], 0, 0, []⟩

/-- A directory is read, if the walk is to go on in it. -/
def enqueueEntries (disk : Disk) (directory : List Name) (descend : Bool) (w : TreeWalk α) :
    Except Error (TreeWalk α) :=
  if descend then do
    let names ← disk.readDir directory
    enqueueAll root label directory names w
  else .ok w

/-- A walk with the entries of a directory behind the rest. -/
def TreeWalk.behind (directory : List Name) (names : List Name) (w : TreeWalk α) : TreeWalk α where
  pending := (names.map fun name => directory ++ [name]).reverse ++ w.pending
  discovered := w.discovered + names.length
  pathBytes := w.pathBytes + (names.map fun name => pathCost (pathUnits root (directory ++ [name]))).sum
  found := w.found

theorem TreeWalk.pending_behind (path : List Name) (node : Node) (w : TreeWalk α) :
    (w.behind root path (node.children.map Prod.fst)).pending =
      (node.children.map fun c => path ++ [c.1]).reverse ++ w.pending := by
  rw [behind, List.map_map]
  rfl

variable {root label}

theorem enqueue_eq_ok {path : List Name} {w w' : TreeWalk α} :
    enqueue root label path w = .ok w' ↔
      w' = ⟨path :: w.pending, w.discovered + 1, w.pathBytes + pathCost (pathUnits root path), w.found⟩ ∧
        w.discovered + 1 ≤ maxTreeNodes ∧ w.pathBytes + pathCost (pathUnits root path) ≤ maxPathBytes ∧
        w.pending.length + 1 ≤ maxTreeNodes := by
  simp only [enqueue, Except.bind_eq_ok, Prod.exists, enqueueBoundedTreePath_eq_ok maxTreeNodes_lt maxPathBytes_lt,
    pure, Except.pure, Except.ok.injEq]
  constructor
  · rintro ⟨pending, discovered, bytes, ⟨rfl, rfl, hnodes, rfl, hbytes, hlength⟩, rfl⟩
    exact ⟨rfl, hnodes, hbytes, hlength⟩
  · rintro ⟨rfl, hnodes, hbytes, hlength⟩
    exact ⟨_, _, _, ⟨rfl, rfl, hnodes, rfl, hbytes, hlength⟩, rfl⟩

theorem TreeWalk.behind_cons (directory : List Name) (name : Name) (names : List Name) (w : TreeWalk α) :
    w.behind root directory (name :: names) =
      TreeWalk.behind root directory names ⟨(directory ++ [name]) :: w.pending, w.discovered + 1,
        w.pathBytes + pathCost (pathUnits root (directory ++ [name])), w.found⟩ := by
  simp only [TreeWalk.behind, List.map_cons, List.reverse_cons, List.append_assoc, List.cons_append, List.nil_append,
    List.length_cons, List.sum_cons, TreeWalk.mk.injEq, true_and, and_true]
  omega

theorem enqueueAll_eq_behind {directory names : List Name} {w w' : TreeWalk α}
    (h : enqueueAll root label directory names w = .ok w') : w' = w.behind root directory names := by
  induction names generalizing w with
  | nil =>
    cases h
    rfl
  | cons name names ih =>
    rw [enqueueAll, Except.bind_eq_ok] at h
    obtain ⟨u, hu, h⟩ := h
    rw [ih h, (enqueue_eq_ok.mp hu).1, TreeWalk.behind_cons]

/-- All entries are put behind the rest if they are within the budgets. -/
theorem enqueueAll_of_le {directory names : List Name} {w : TreeWalk α} (hpending : w.pending.length ≤ w.discovered)
    (hnodes : (w.behind root directory names).discovered ≤ maxTreeNodes)
    (hbytes : (w.behind root directory names).pathBytes ≤ maxPathBytes) :
    enqueueAll root label directory names w = .ok (w.behind root directory names) := by
  induction names generalizing w with
  | nil => rfl
  | cons name names ih =>
    rw [TreeWalk.behind_cons] at hnodes hbytes ⊢
    have hfirst := hnodes
    have hcost := hbytes
    dsimp only [TreeWalk.behind] at hfirst hcost
    rw [enqueueAll, Except.bind_eq_ok]
    refine ⟨_, enqueue_eq_ok.mpr ⟨rfl, ?_, ?_, ?_⟩, ih ?_ hnodes hbytes⟩
    · omega
    · omega
    · omega
    · exact Nat.succ_le_succ hpending

/-- What is behind the rest are the entries of a node. -/
theorem enqueueEntries_eq_behind {disk : Disk} (hwhole : disk.removed = []) {path : List Name} {node : Node}
    (hnode : disk.at? path = some node) {w w' : TreeWalk α}
    (h : enqueueEntries root label disk path node.label.directory w = .ok w') :
    w' = w.behind root path (node.children.map Prod.fst) := by
  unfold enqueueEntries at h
  split at h
  · rw [Except.bind_eq_ok] at h
    obtain ⟨names, hnames, h⟩ := h
    obtain ⟨-, rfl⟩ := (Disk.readDir_eq_ok hnode (by simp [hwhole])).mp hnames
    exact enqueueAll_eq_behind h
  · next hfile =>
    -- a file has no entries
    cases h
    rw [Disk.children_of_file hnode (Bool.eq_false_of_not_eq_true hfile)]
    rfl

theorem enqueueEntries_of_le {disk : Disk} (hwhole : disk.removed = []) {path : List Name} {node : Node}
    (hnode : disk.at? path = some node) {w : TreeWalk α} (hpending : w.pending.length ≤ w.discovered)
    (hnodes : (w.behind root path (node.children.map Prod.fst)).discovered ≤ maxTreeNodes)
    (hbytes : (w.behind root path (node.children.map Prod.fst)).pathBytes ≤ maxPathBytes) :
    enqueueEntries root label disk path node.label.directory w =
      .ok (w.behind root path (node.children.map Prod.fst)) := by
  unfold enqueueEntries
  split
  · next hdir =>
    rw [Except.bind_eq_ok]
    exact ⟨_, (Disk.readDir_eq_ok hnode (by simp [hwhole])).mpr ⟨hdir, rfl⟩,
      enqueueAll_of_le hpending hnodes hbytes⟩
  · next hfile =>
    rw [Disk.children_of_file hnode (Bool.eq_false_of_not_eq_true hfile)]
    rfl

end

/-! ## What is still to be visited -/

section

variable (disk : Disk)

/-- The node at a path, and all that is below it. -/
def nodesAt (path : List Name) : List (List Name × Node) :=
  ((disk.at? path).map fun node => node.nodes.map fun e => (path ++ e.1, e.2)).getD []

def unvisited (pending : List (List Name)) : List (List Name × Node) := pending.flatMap (nodesAt disk)

variable {disk}

theorem nodesAt_of_at? {path : List Name} {node : Node} (h : disk.at? path = some node) :
    nodesAt disk path = node.nodes.map fun e => (path ++ e.1, e.2) := by
  rw [nodesAt, h]
  rfl

theorem at?_root (hwhole : disk.removed = []) : disk.at? [] = some disk.tree.node :=
  Disk.at?_eq_some.mpr ⟨by simp [hwhole], find?_nil _⟩

/-- In the beginning that is the whole tree. -/
theorem unvisited_root (hwhole : disk.removed = []) : unvisited disk [[]] = disk.tree.node.nodes := by
  simp [unvisited, nodesAt_of_at? (at?_root hwhole)]

theorem nodesAt_children (hwhole : disk.removed = []) {path : List Name} {node : Node} (h : disk.at? path = some node)
    {children : List (Name × Node)} (hchildren : ∀ c ∈ children, c ∈ node.children) :
    (nodesAll children).map (fun e => (path ++ e.1, e.2)) =
      children.flatMap fun c => nodesAt disk (path ++ [c.1]) := by
  induction children with
  | nil => rw [nodesAll_nil]; rfl
  | cons c children ih =>
    obtain ⟨hc, hrest⟩ := List.forall_mem_cons.mp hchildren
    rw [nodesAll_cons, List.map_append, ih hrest, List.flatMap_cons,
      nodesAt_of_at? (Disk.at?_child h hc (by simp [hwhole])), List.map_map]
    congr 1
    exact List.map_congr_left fun e _ => by simp

/-- A node is visited: what is left is what was left without it. -/
theorem unvisited_visit (hwhole : disk.removed = []) {path : List Name} {node : Node} (h : disk.at? path = some node)
    (pending : List (List Name)) :
    (unvisited disk (path :: pending)).Perm
      ((path, node) :: unvisited disk ((node.children.map fun c => path ++ [c.1]).reverse ++ pending)) := by
  have hself : nodesAt disk path =
      (node.children.map fun c => path ++ [c.1]).flatMap (nodesAt disk) ++ [(path, node)] := by
    rw [nodesAt_of_at? h, nodes_eq, List.map_append, nodesAt_children hwhole h fun c hc => hc, List.flatMap_map]
    simp
  rw [unvisited, List.flatMap_cons, hself, List.append_assoc]
  refine List.perm_append_comm_assoc _ _ _ |>.trans ?_
  rw [List.singleton_append, unvisited, List.flatMap_append]
  exact (((List.reverse_perm _).flatMap_right (nodesAt disk)).symm.append_right _).cons _

/-- Each path that is pending is that of a node that is still to be visited. -/
theorem sum_pending_le {f : List Name → Nat} {g : List Name × Node → Nat} (hfg : ∀ path node, f path ≤ g (path, node))
    {pending : List (List Name)} (hthere : ∀ path ∈ pending, ∃ node, disk.at? path = some node) :
    (pending.map f).sum ≤ ((unvisited disk pending).map g).sum := by
  induction pending with
  | nil => exact Nat.le_refl _
  | cons path pending ih =>
    obtain ⟨⟨node, hnode⟩, hrest⟩ := List.forall_mem_cons.mp hthere
    have hself : (path, node) ∈ nodesAt disk path := by
      rw [nodesAt_of_at? hnode]
      exact List.mem_map.mpr ⟨([], node), self_mem_nodes node, by rw [List.append_nil]⟩
    have hle : g (path, node) ≤ ((nodesAt disk path).map g).sum := List.le_sum_of_mem (List.mem_map_of_mem hself)
    have hfirst := hfg path node
    have hsum := ih hrest
    rw [unvisited, List.flatMap_cons, List.map_append, List.sum_append, List.map_cons, List.sum_cons, ← unvisited]
    omega

theorem length_pending_le {pending : List (List Name)}
    (hthere : ∀ path ∈ pending, ∃ node, disk.at? path = some node) :
    pending.length ≤ (unvisited disk pending).length := by
  simpa using sum_pending_le (f := fun _ => 1) (g := fun _ => 1) (fun _ _ => Nat.le_refl 1) hthere

end

/-! ## What was visited -/

section

variable (disk : Disk) {α : Type} (item : List Name × Node → α) (accepted : List Name × Node → Prop)

/-- What was noted is of the nodes that were visited, each of them accepted; these and the others are all nodes. -/
structure Covers (w : TreeWalk α) : Prop where
  there : ∀ path ∈ w.pending, ∃ node, disk.at? path = some node
  visited : ∃ visited, w.found = visited.map item ∧
    (visited ++ unvisited disk w.pending).Perm disk.tree.node.nodes ∧ ∀ e ∈ visited, accepted e

/-- A node is visited. -/
structure Visit (path : List Name) (node : Node) (w w' : TreeWalk α) : Prop where
  there : disk.at? path = some node
  accepted : accepted (path, node)
  found : w'.found = item (path, node) :: w.found
  pending : ∃ rest, w.pending = path :: rest ∧ w'.pending = (node.children.map fun c => path ++ [c.1]).reverse ++ rest

variable {disk item accepted}

theorem covers_start (hwhole : disk.removed = []) (discovered bytes : Nat) :
    Covers disk item accepted ⟨[[]], discovered, bytes, []⟩ where
  there path hpath := ⟨disk.tree.node, by rw [List.mem_singleton.mp hpath, at?_root hwhole]⟩
  visited := ⟨[], rfl, by rw [List.nil_append, unvisited_root hwhole], by simp⟩

theorem Covers.visit (hwhole : disk.removed = []) {path : List Name} {node : Node} {w w' : TreeWalk α}
    (h : Covers disk item accepted w) (hvisit : Visit disk item accepted path node w w') :
    Covers disk item accepted w' := by
  obtain ⟨rest, hpending, hpending'⟩ := hvisit.pending
  obtain ⟨visited, hfound, hall, haccepted⟩ := h.visited
  refine ⟨?_, (path, node) :: visited, ?_, ?_, List.forall_mem_cons.mpr ⟨hvisit.accepted, haccepted⟩⟩
  · intro p hp
    rw [hpending', List.mem_append, List.mem_reverse, List.mem_map] at hp
    rcases hp with ⟨c, hc, rfl⟩ | hp
    · exact ⟨c.2, Disk.at?_child hvisit.there hc (by simp [hwhole])⟩
    · exact h.there p (hpending ▸ List.mem_cons_of_mem _ hp)
  · rw [hvisit.found, hfound, List.map_cons]
  · refine List.Perm.trans ?_ hall
    rw [hpending, hpending', List.cons_append]
    exact List.perm_middle.symm.trans ((unvisited_visit hwhole hvisit.there rest).symm.append_left visited)

theorem Covers.of_done {w : TreeWalk α} (h : Covers disk item accepted w) (hdone : w.pending = []) :
    (∃ visited : List (List Name × Node), visited.Perm disk.tree.node.nodes ∧ w.found = visited.map item) ∧
      ∀ e ∈ disk.tree.node.nodes, accepted e := by
  obtain ⟨visited, hfound, hall, haccepted⟩ := h.visited
  rw [hdone, unvisited, List.flatMap_nil, List.append_nil] at hall
  exact ⟨⟨visited, hall, hfound⟩, fun e he => haccepted e (hall.mem_iff.mpr he)⟩

end

end Maintenance

end Xsoc
