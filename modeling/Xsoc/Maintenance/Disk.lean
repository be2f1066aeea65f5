import Xsoc.Maintenance.Budget
import Xsoc.Trees.Rose

/-!
# The managed tree on disk

A managed tree is what is under the root of the program or of its state: directories, files, and whatever else someone
has put there.

* `ManagedTree` : names are distinct in each directory, and only directories have entries;
* `Disk` : a tree, and what has been deleted of it, in the order in which it was;
* `symlinkMetadata`, `readDir`, `openMutationTarget`, `deleteOpenedMutationTarget` : what the tool asks of the system;
* `pathAt` : the path of an entry, whose length the budgets count.

The system makes no errors of its own: a call fails only where there is nothing, or nothing of the right kind.
-/

set_option autoImplicit false

namespace Xsoc

namespace Maintenance

open Trees Rose

/-- The name of a directory entry. -/
abbrev Name := List CodeUnit

/-! ## Paths -/

/-- A backslash or a slash. -/
def isSeparator (c : CodeUnit) : Bool := c = 92 || c = 47

/-- A drive letter and a colon. -/
def isDrive : List CodeUnit → Bool
  | [letter, colon] => colon = 58 && ((65 ≤ letter && letter ≤ 90) || (97 ≤ letter && letter ≤ 122))
  | _ => false

/-- `Path::join` of the name of an entry. -/
def join (path : List CodeUnit) (name : Name) : List CodeUnit :=
  match path.getLast? with
  | none => name
  | some c => if isSeparator c || isDrive path then path ++ name else path ++ 92 :: name

/-- The path of an entry of the tree at `root`. -/
def pathAt (root : List CodeUnit) (path : List Name) : List CodeUnit := path.foldl join root

/-- `maintenance_path_utf16_units` -/
def pathUnits (root : List CodeUnit) (path : List Name) : Nat := (pathAt root path).length

/-! ## Trees -/

/-- What the system tells about an entry. -/
structure Metadata where
  /-- `FILE_ATTRIBUTE_DIRECTORY` -/
  directory : Bool
  /-- `FILE_ATTRIBUTE_REPARSE_POINT` -/
  reparsePoint : Bool
  /-- The reparse tag stands for another name. -/
  nameSurrogate : Bool
  linkCount : Nat
  deriving DecidableEq, Repr

namespace Metadata

def isSymlink (m : Metadata) : Bool := m.reparsePoint && m.nameSurrogate

def isDir (m : Metadata) : Bool := m.directory && !m.isSymlink

def isFile (m : Metadata) : Bool := !m.directory && !m.isSymlink

theorem isDir_of_plain {m : Metadata} (h : m.reparsePoint = false) : m.isDir = m.directory := by
  simp [isDir, isSymlink, h]

theorem isFile_of_plain {m : Metadata} (h : m.reparsePoint = false) : m.isFile = !m.directory := by
  simp [isFile, isSymlink, h]

end Metadata

abbrev Node := Rose Name Metadata

structure ManagedTree where
  node : Node
  distinct : node.Distinct
  /-- Only directories have entries. -/
  leaves : ∀ e ∈ node.nodes, e.2.label.directory = false → e.2.children = []

/-- A tree, and the paths that have been deleted of it. -/
structure Disk where
  tree : ManagedTree
  removed : List (List Name)

namespace Disk

variable (disk : Disk)

def at? (path : List Name) : Option Node := if path ∈ disk.removed then none else disk.tree.node.find? path

/-- `fs::symlink_metadata` -/
def symlinkMetadata (path : List Name) : Except Error Metadata := okOr (.io .notFound) ((disk.at? path).map Rose.label)

/-- `fs::read_dir`, with all that it returns. -/
def readDir (path : List Name) : Except Error (List Name) := do
  let node ← okOr (.io .notFound) (disk.at? path)
  check (node.label.directory = true) (.io (.refused .other))
  return (node.children.map Prod.fst).filter fun name => path ++ [name] ∉ disk.removed

def fileLinkCount (path : List Name) : Except Error Nat := do
  let metadata ← disk.symlinkMetadata path
  return metadata.linkCount

def validateOpenedManagedTargetFacts (expectedDirectory : Bool) (information : Metadata) : Except Error Unit := do
  check (information.reparsePoint = false) (.message "managed target handle refers to a reparse point")
  check (information.directory = expectedDirectory)
    (.message "managed target changed type while it was being opened")
  check (information.directory = true ∨ information.linkCount = 1)
    (.message "managed target handle refers to a multiply linked file")

def openMutationTarget (path : List Name) (expectedDirectory : Bool) (operation : String) : Except Error Unit := do
  let information ← disk.symlinkMetadata path
  withContext s!"refusing {operation}" (validateOpenedManagedTargetFacts expectedDirectory information)

/-- A directory can be deleted when it is empty. -/
def deleteOpenedMutationTarget (path : List Name) : Except Error Disk := do
  let node ← okOr (.io .notFound) (disk.at? path)
  check (∀ c ∈ node.children, path ++ [c.1] ∈ disk.removed) (.io (.refused .other))
  return { disk with removed := disk.removed ++ [path] }

def validateRealDirectory (path : List Name) (label : String) : Except Error Unit := do
  let metadata ← disk.symlinkMetadata path
  check (metadata.isDir = true) (.message s!"{label} is not a directory")
  check (metadata.reparsePoint = false) (.message s!"{label} is a reparse point")

/-- `ensure_absent` -/
def ensureAbsent (path : List Name) (label : String) : Except Error Unit :=
  match disk.at? path with
  | none => .ok ()
  | some _ => .error (.message s!"{label} already exists")

/-! ## What there is -/

variable {disk}

theorem at?_eq_some {path : List Name} {node : Node} :
    disk.at? path = some node ↔ path ∉ disk.removed ∧ disk.tree.node.find? path = some node := by
  unfold at?
  by_cases h : path ∈ disk.removed <;> simp [h]

/-- An entry of a directory is there, if it was not deleted. -/
theorem at?_child {path : List Name} {node : Node} (h : disk.at? path = some node) {c : Name × Node}
    (hc : c ∈ node.children) (hremoved : path ++ [c.1] ∉ disk.removed) : disk.at? (path ++ [c.1]) = some c.2 := by
  obtain ⟨-, hfound⟩ := at?_eq_some.mp h
  have hdistinct := disk.tree.distinct.of_find? hfound
  refine at?_eq_some.mpr ⟨hremoved, ?_⟩
  rw [find?_append, hfound, Option.bind_some, hdistinct.find?_child hc, find?_nil]

theorem children_of_file {path : List Name} {node : Node} (h : disk.at? path = some node)
    (hfile : node.label.directory = false) : node.children = [] :=
  disk.tree.leaves (path, node) ((mem_nodes disk.tree.distinct).mpr (at?_eq_some.mp h).2) hfile

theorem symlinkMetadata_eq_ok {path : List Name} {metadata : Metadata} :
    disk.symlinkMetadata path = .ok metadata ↔ ∃ node, disk.at? path = some node ∧ node.label = metadata := by
  rw [symlinkMetadata, okOr_eq_ok, Option.map_eq_some_iff]

theorem symlinkMetadata_of_at? {path : List Name} {node : Node} (h : disk.at? path = some node) :
    disk.symlinkMetadata path = .ok node.label :=
  symlinkMetadata_eq_ok.mpr ⟨node, h, rfl⟩

/-- A directory of which nothing was deleted is read whole. -/
theorem readDir_eq_ok {path : List Name} {node : Node} (h : disk.at? path = some node)
    (hwhole : ∀ c ∈ node.children, path ++ [c.1] ∉ disk.removed) {names : List Name} :
    disk.readDir path = .ok names ↔ node.label.directory = true ∧ names = node.children.map Prod.fst := by
  have hnames : (node.children.map Prod.fst).filter (fun name => path ++ [name] ∉ disk.removed) =
      node.children.map Prod.fst := by
    rw [List.filter_eq_self]
    intro name hname
    obtain ⟨c, hc, rfl⟩ := List.mem_map.mp hname
    exact decide_eq_true (hwhole c hc)
  simp only [readDir, h, okOr_some, Except.bind_eq_ok, check_eq_ok, pure, Except.pure, Except.ok.injEq, hnames,
    exists_eq_left']
  constructor
  · rintro ⟨-, hdir, rfl⟩
    exact ⟨hdir, rfl⟩
  · rintro ⟨hdir, rfl⟩
    exact ⟨(), hdir, rfl⟩

end Disk

end Maintenance

end Xsoc
