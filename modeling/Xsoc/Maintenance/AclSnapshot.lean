import Mathlib.Algebra.Order.Group.Nat
import Mathlib.Algebra.Order.BigOperators.Group.List
import Xsoc.Json
import Xsoc.Maintenance.Dacl
import Xsoc.Maintenance.RelativePaths
import Xsoc.Maintenance.TreeWalk
import Xsoc.Maintenance.Validation

/-!
# The snapshot of the access control lists

Before the lists of a tree are changed they are saved, each with the path of its entry, so that a rollback can restore
them.

* `SecurityApi` : the calls of Windows that render, parse and store descriptors; `Documented` : what they promise;
* `Restorable` : what a descriptor must have to be restored; the checks of a saved one decide it
  (`validateSavedSecurityDescriptor_text`);
* `saveAcl` : the walk through the tree, with its budgets; `snapshotOf` : the snapshot of a whole tree;
* `saved` : what is saved is the snapshot of the whole tree;
* `threefold_le` : a text within its limit leaves the paths in it a third.
-/

set_option autoImplicit false

namespace Xsoc

namespace Maintenance

namespace Acl

open Bounding Loops Trees Rose

/-! ## Descriptors -/

/-- What `GetSecurityDescriptorDacl` tells of a descriptor. -/
inductive DaclState
  | absent
  | null
  | present
  deriving DecidableEq

/-- The calls of Windows, for descriptors that are read with their owner and DACL. -/
structure SecurityApi (δ : Type) where
  /-- `ConvertSecurityDescriptorToStringSecurityDescriptorW`, without the terminator. -/
  text : δ → Sddl
  /-- `ConvertStringSecurityDescriptorToSecurityDescriptorW` -/
  parse : Sddl → Option δ
  hasOwner : δ → Bool
  dacl : δ → DaclState
  /-- `SetSecurityInfo`: what is there after an old descriptor, when a new one is set with this protection. -/
  store : (old : δ) → (isProtected : Bool) → (new : δ) → δ

/-- The UTF-16 code units of a text. -/
def utf16Length (text : Sddl) : Nat := (text.map fun c => if c.toNat < 2 ^ 16 then 1 else 2).sum

def savedDaclIsProtected (sddl : Sddl) : Except Error Bool := do
  let (_, dacl) ← okOr (.message "saved security descriptor has no DACL") (splitOnce "D:".toList sddl)
  let control := dacl.takeWhile (· != '(')
  return control.contains 'P'

/-- The owner, the entries, and the control flags without the one that is inert. -/
def securityDescriptorAccessParts (sddl : Sddl) : Except Error (Sddl × Sddl × Sddl) := do
  let (owner, dacl) ← okOr (.message "administrative descriptor has no DACL") (splitOnce "D:".toList sddl)
  let control := dacl.takeWhile (· != '(')
  let control := if "AI".toList.isSuffixOf control then control.dropLast.dropLast else control
  return (owner, dacl.dropWhile (· != '('), control)

section

variable {δ : Type} (api : SecurityApi δ)

/-- `security_descriptor_to_sddl`; the length counts the terminator. -/
def securityDescriptorToSddl (descriptor : δ) : Except Error Sddl := do
  let sddl := api.text descriptor
  check (0 < utf16Length sddl + 1 ∧ utf16Length sddl + 1 ≤ maxPathBytes)
    (.message "security descriptor text exceeds its limit")
  return sddl

def parseAdministrativeSecurityDescriptor (sddl : Sddl) : Except Error δ :=
  okOr (.message "failed to parse the administrative security descriptor") (api.parse sddl)

/-- What the setter takes: an owner, and a DACL that is not NULL. -/
def Restorable (descriptor : δ) : Prop := api.hasOwner descriptor = true ∧ api.dacl descriptor = .present

instance (descriptor : δ) : Decidable (Restorable api descriptor) := inferInstanceAs (Decidable (_ ∧ _))

def administrativeDescriptorAccess (descriptor : δ) : Except Error Unit :=
  check (Restorable api descriptor) (.message "administrative descriptor requires an owner and a non-NULL DACL")

def validateSavedSecurityDescriptor (sddl : Sddl) : Except Error Unit := do
  let _ ← savedDaclIsProtected sddl
  let descriptor ← parseAdministrativeSecurityDescriptor api sddl
  administrativeDescriptorAccess api descriptor

/-- Rendering and parsing are inverse, a descriptor with a DACL is rendered with one, and the setter stores just what
it is given, if the protection it is told is that of the text. -/
structure SecurityApi.Documented : Prop where
  parse_text : ∀ descriptor, api.parse (api.text descriptor) = some descriptor
  text_dacl : ∀ descriptor, api.dacl descriptor = .present → (splitOnce "D:".toList (api.text descriptor)).isSome
  stores : ∀ old new isProtected, savedDaclIsProtected (api.text new) = .ok isProtected →
    api.store old isProtected new = new

/-! ## Descriptors on a disk -/

/-- The descriptors of the entries of a tree, and the entries whose descriptor was set, in that order. -/
structure SecuredTree (δ : Type) where
  descriptor : List Name → δ
  applied : List (List Name)

variable (disk : Disk)

/-- `open_acl_target`, with whether it is a directory. -/
def openAclTarget (path : List Name) : Except Error Bool := do
  let metadata ← disk.symlinkMetadata path
  check (metadata.directory = true ∨ metadata.isFile = true ∨ metadata.reparsePoint = true)
    (.message "ACL target is neither a directory nor a regular file")
  withContext "refusing ACL access" (Disk.validateOpenedManagedTargetFacts metadata.directory metadata)
  return metadata.directory

def securityDescriptorSddl (s : SecuredTree δ) (path : List Name) : Except Error Sddl := do
  let _ ← openAclTarget disk path
  securityDescriptorToSddl api (s.descriptor path)

end

/-! ## The snapshot -/

structure AclSnapshotEntry where
  relativePathUtf16 : List CodeUnit
  isDirectory : Bool
  sddl : Sddl
  deriving DecidableEq

structure AclSnapshot where
  format : Nat
  applicationVersion : String
  entries : List AclSnapshotEntry
  deriving DecidableEq

/-- A list, between brackets. -/
def jsonArray (items : List (List Char)) : List Char := '[' :: ([','].intercalate items ++ [']'])

/-- The members of an object, between braces. -/
def jsonObject (members : List (String × List Char)) : List Char :=
  '{' :: ([','].intercalate (members.map fun (key, value) => Json.text key ++ ':' :: value) ++ ['}'])

def jsonBool (b : Bool) : List Char := if b then "true".toList else "false".toList

def AclSnapshotEntry.json (entry : AclSnapshotEntry) : List Char :=
  jsonObject [
    ("relative_path_utf16", jsonArray (entry.relativePathUtf16.map fun unit => Json.number unit.val)),
    ("is_directory", jsonBool entry.isDirectory),
    ("sddl", Json.quote entry.sddl)]

/-- `serde_json::to_writer` -/
def AclSnapshot.json (snapshot : AclSnapshot) : List Char :=
  jsonObject [
    ("format", Json.number snapshot.format),
    ("application_version", Json.text snapshot.applicationVersion),
    ("entries", jsonArray (snapshot.entries.map AclSnapshotEntry.json))]

def serializeAclSnapshotBounded (snapshot : AclSnapshot) : Except Error (List UInt8) := do
  let bytes := utf8 snapshot.json
  check (bytes.length ≤ maxAclSnapshotBytes) (.context "failed to serialize bounded ACL snapshot"
    (.message s!"ACL snapshot exceeds the {maxAclSnapshotBytes}-byte hard limit"))
  return bytes

/-! ## The walk -/

structure AclSaving extends TreeWalk AclSnapshotEntry where
  payloadBytes : Nat

section

variable (root : List CodeUnit) {δ : Type} (api : SecurityApi δ) (disk : Disk) (s : SecuredTree δ)

/-- One entry of `save_acl`, which was the last that was pending. -/
def saveEntry (target : List Name) (w : AclSaving) : Except Error AclSaving := do
  let metadata ← disk.symlinkMetadata target
  let walk ← enqueueEntries root "ACL snapshot traversal" disk target metadata.isDir w.toTreeWalk
  let sddl ← securityDescriptorSddl api disk s target
  let relative := relativePath target
  let (found, payloadBytes) ← tryPushBoundedAclSnapshotEntry walk.found
    { relativePathUtf16 := relative, isDirectory := metadata.isDir, sddl := sddl } relative.length (byteLen sddl)
    w.payloadBytes maxAclSnapshotEntries maxAclSnapshotBytes "ACL snapshot entries"
  return { walk with found := found, payloadBytes := payloadBytes }

def saveTurn (w : AclSaving) : Turn Error AclSaving :=
  match w.pending with
  | [] => .done
  | target :: pending => .ofExcept (saveEntry root api disk s target { w with pending := pending })

/-- `save_acl`, in so many turns of each of its loops, with the bytes that it writes. -/
def saveAcl (applicationVersion : String) (turns : Nat) : Option (Except Error (List UInt8)) :=
  match validateTreeWithDirectoryDepthLimit disk root none turns with
  | none => none
  | some (.error e) => some (.error e)
  | some (.ok ()) =>
    match walkStart root "ACL snapshot traversal" AclSnapshotEntry with
    | .error e => some (.error e)
    | .ok walk => (Loops.run (saveTurn root api disk s) turns { walk with payloadBytes := 0 }).map fun (result, w) =>
      match result with
      | .error e => .error e
      | .ok () => serializeAclSnapshotBounded {
          format := 1
          applicationVersion := applicationVersion
          entries := sortBy AclSnapshotEntry.relativePathUtf16 w.found.reverse }

/-! ## What is saved -/

/-- The entry of a node. -/
def entryOf (e : List Name × Node) : AclSnapshotEntry where
  relativePathUtf16 := relativePath e.1
  isDirectory := e.2.label.isDir
  sddl := api.text (s.descriptor e.1)

/-- The snapshot of a whole tree. -/
def snapshotOf (applicationVersion : String) : AclSnapshot where
  format := 1
  applicationVersion := applicationVersion
  entries := sortBy AclSnapshotEntry.relativePathUtf16 (disk.tree.node.nodes.map (entryOf api s))

/-- A node whose descriptor can be read. -/
structure Readable (e : List Name × Node) : Prop where
  ordinary : e.2.label.Ordinary
  text : utf16Length (api.text (s.descriptor e.1)) + 1 ≤ maxPathBytes

end

section

variable {δ : Type} {api : SecurityApi δ}

theorem securityDescriptorToSddl_eq_ok {descriptor : δ} {sddl : Sddl} :
    securityDescriptorToSddl api descriptor = .ok sddl ↔
      utf16Length (api.text descriptor) + 1 ≤ maxPathBytes ∧ sddl = api.text descriptor := by
  simp only [securityDescriptorToSddl, Except.bind_eq_ok, check_eq_ok, pure, Except.pure, Except.ok.injEq,
    exists_const, Nat.zero_lt_succ, true_and, eq_comm (a := sddl)]

/-- What is rendered is accepted as a saved descriptor just when it can be set. -/
theorem validateSavedSecurityDescriptor_text (hapi : api.Documented) {descriptor : δ} {u : Unit} :
    validateSavedSecurityDescriptor api (api.text descriptor) = .ok u ↔ Restorable api descriptor := by
  simp only [validateSavedSecurityDescriptor, parseAdministrativeSecurityDescriptor, hapi.parse_text, okOr_some,
    administrativeDescriptorAccess, Except.bind_eq_ok, Except.ok.injEq, exists_eq_left', check_eq_ok]
  constructor
  · rintro ⟨_, -, h⟩
    exact h
  · intro h
    obtain ⟨parts, hparts⟩ := Option.isSome_iff_exists.mp (hapi.text_dacl descriptor h.2)
    exact ⟨(parts.2.takeWhile (· != '(')).contains 'P', by rw [savedDaclIsProtected, hparts]; rfl, h⟩

variable {disk : Disk} {s : SecuredTree δ} {path : List Name} {node : Node}

theorem openAclTarget_eq_ok (h : disk.at? path = some node) {isDirectory : Bool} :
    openAclTarget disk path = .ok isDirectory ↔ node.label.Ordinary ∧ isDirectory = node.label.directory := by
  simp only [openAclTarget, Disk.symlinkMetadata_of_at? h, Disk.validateOpenedManagedTargetFacts, Except.bind_eq_ok,
    Except.ok.injEq, exists_eq_left', check_eq_ok, withContext_eq_ok, pure, Except.pure, exists_const,
    Metadata.Ordinary]
  constructor
  · rintro ⟨-, ⟨hplain, -, hlinks⟩, rfl⟩
    refine ⟨⟨hplain, fun hfile => hlinks.resolve_left ?_⟩, rfl⟩
    rw [hfile]
    exact Bool.false_ne_true
  · rintro ⟨⟨hplain, hlinks⟩, rfl⟩
    rw [Metadata.isFile_of_plain hplain]
    cases hdir : node.label.directory with
    | true => exact ⟨Or.inl rfl, ⟨hplain, trivial, Or.inl rfl⟩, rfl⟩
    | false => exact ⟨Or.inr (Or.inl rfl), ⟨hplain, trivial, Or.inr (hlinks hdir)⟩, rfl⟩

theorem securityDescriptorSddl_eq_ok (h : disk.at? path = some node) {sddl : Sddl} :
    securityDescriptorSddl api disk s path = .ok sddl ↔
      Readable api s (path, node) ∧ sddl = api.text (s.descriptor path) := by
  simp only [securityDescriptorSddl, Except.bind_eq_ok, openAclTarget_eq_ok h, securityDescriptorToSddl_eq_ok]
  constructor
  · rintro ⟨_, ⟨hordinary, -⟩, htext, rfl⟩
    exact ⟨⟨hordinary, htext⟩, rfl⟩
  · rintro ⟨hreadable, rfl⟩
    exact ⟨_, ⟨hreadable.ordinary, rfl⟩, hreadable.text, rfl⟩

variable {root : List CodeUnit}

/-- One turn of the walk visits one node. -/
theorem visit_of_saveEntry (hwhole : disk.removed = []) (hnode : disk.at? path = some node) {w w' : AclSaving}
    {rest : List (List Name)} (hpending : w.pending = path :: rest)
    (h : saveEntry root api disk s path { w with pending := rest } = .ok w') :
    Visit disk (entryOf api s) (Readable api s) path node w.toTreeWalk w'.toTreeWalk ∧
      w'.found.length ≤ maxAclSnapshotEntries := by
  simp only [saveEntry, Disk.symlinkMetadata_of_at? hnode, Except.bind_eq_ok, Except.ok.injEq, exists_eq_left',
    securityDescriptorSddl_eq_ok hnode, Prod.exists,
    tryPushBoundedAclSnapshotEntry_eq_ok (show maxAclSnapshotEntries < usizeLimit from maxTreeNodes_lt)
      maxAclSnapshotBytes_lt, pure, Except.pure] at h
  obtain ⟨walk, hwalk, sddl, ⟨hreadable, rfl⟩, found, payload, ⟨rfl, -, -, hlength⟩, rfl⟩ := h
  rw [Metadata.isDir_of_plain hreadable.ordinary.1] at hwalk
  obtain rfl := enqueueEntries_eq_behind hwhole hnode hwalk
  exact ⟨⟨hnode, hreadable, rfl, rest, hpending, TreeWalk.pending_behind root path node _⟩, hlength⟩

/-- What a tree is like that was saved, and what was saved of it. -/
structure Saved (root : List CodeUnit) (api : SecurityApi δ) (disk : Disk) (s : SecuredTree δ)
    (applicationVersion : String) (bytes : List UInt8) : Prop where
  snapshot : bytes = utf8 (snapshotOf api disk s applicationVersion).json
  withinBytes : bytes.length ≤ maxAclSnapshotBytes
  withinEntries : disk.tree.node.nodes.length ≤ maxAclSnapshotEntries
  readable : ∀ e ∈ disk.tree.node.nodes, Readable api s e

/-- The paths of different nodes are different. -/
theorem nodup_nodes (disk : Disk) : (disk.tree.node.nodes.map Prod.fst).Nodup :=
  List.Pairwise.imp (fun {p q} hpq (heq : p = q) => hpq (heq ▸ List.prefix_rfl)) (pairwise_nodes disk.tree.distinct)

/-- A node is known by its relative path. -/
theorem node_eq_of_relativePath (hnames : ∀ e ∈ disk.tree.node.nodes, ∀ name ∈ e.1, PermittedName name)
    {e e' : List Name × Node} (he : e ∈ disk.tree.node.nodes) (he' : e' ∈ disk.tree.node.nodes)
    (h : relativePath e.1 = relativePath e'.1) : e = e' := by
  have hpath : e.1 = e'.1 := relativePath_injective (hnames e he) (hnames e' he') h
  have hfound := (mem_nodes disk.tree.distinct).mp he
  have hfound' := (mem_nodes disk.tree.distinct).mp he'
  rw [hpath] at hfound
  exact Prod.ext hpath (Option.some.inj (hfound.symm.trans hfound'))

theorem tellsApart_entries (hnames : ∀ e ∈ disk.tree.node.nodes, ∀ name ∈ e.1, PermittedName name)
    {nodes : List (List Name × Node)} (hnodes : ∀ e ∈ nodes, e ∈ disk.tree.node.nodes) :
    TellsApart AclSnapshotEntry.relativePathUtf16 (nodes.map (entryOf api s)) := by
  intro x hx y hy hkey
  obtain ⟨e, he, rfl⟩ := List.mem_map.mp hx
  obtain ⟨e', he', rfl⟩ := List.mem_map.mp hy
  rw [node_eq_of_relativePath hnames (hnodes e he) (hnodes e' he') hkey]

theorem saveTurn_eq_next {w w' : AclSaving} (h : saveTurn root api disk s w = .next w') :
    ∃ path rest, w.pending = path :: rest ∧ saveEntry root api disk s path { w with pending := rest } = .ok w' := by
  unfold saveTurn at h
  split at h
  · cases h
  · next path rest hpending => exact ⟨path, rest, hpending, Turn.ofExcept_eq_next.mp h⟩

theorem saveTurn_eq_done {w : AclSaving} (h : saveTurn root api disk s w = .done) : w.pending = [] := by
  unfold saveTurn at h
  split at h
  · assumption
  · exact absurd h (Turn.ofExcept_ne_done _)

/-- The walk notes the entries of all nodes, in the order in which it visits them. -/
theorem found_of_run (hwhole : disk.removed = []) {turns bytes : Nat} {w : AclSaving}
    (h : Loops.run (saveTurn root api disk s) turns ⟨⟨[[]], 1, bytes, []⟩, 0⟩ = some (.ok (), w)) :
    (∃ visited : List (List Name × Node), visited.Perm disk.tree.node.nodes ∧
      w.found = visited.map (entryOf api s)) ∧
      (∀ e ∈ disk.tree.node.nodes, Readable api s e) ∧ w.found.length ≤ maxAclSnapshotEntries := by
  let inv (w : AclSaving) : Prop :=
    Covers disk (entryOf api s) (Readable api s) w.toTreeWalk ∧ w.found.length ≤ maxAclSnapshotEntries
  have hturn : ∀ w w', inv w → saveTurn root api disk s w = .next w' → inv w' := by
    rintro w w' ⟨hcovers, -⟩ hnext
    obtain ⟨path, rest, hpending, hentry⟩ := saveTurn_eq_next hnext
    obtain ⟨node, hnode⟩ := hcovers.there path (hpending ▸ List.mem_cons_self)
    obtain ⟨hvisit, hlength⟩ := visit_of_saveEntry hwhole hnode hpending hentry
    exact ⟨hcovers.visit hwhole hvisit, hlength⟩
  obtain ⟨⟨hcovers, hlength⟩, hdone⟩ := inv_of_run hturn ⟨covers_start hwhole 1 bytes, Nat.zero_le _⟩ h
  obtain ⟨hfound, hreadable⟩ := hcovers.of_done (saveTurn_eq_done hdone)
  exact ⟨hfound, hreadable, hlength⟩

theorem saved (hwhole : disk.removed = [])
    (hnames : ∀ e ∈ disk.tree.node.nodes, ∀ name ∈ e.1, PermittedName name) {applicationVersion : String}
    {turns : Nat} {bytes : List UInt8} (h : saveAcl root api disk s applicationVersion turns = some (.ok bytes)) :
    Saved root api disk s applicationVersion bytes := by
  unfold saveAcl at h
  split at h
  · cases h
  · cases h
  split at h
  · cases h
  next walk hstart =>
  obtain ⟨rfl, -⟩ := enqueue_eq_ok.mp hstart
  obtain ⟨⟨result, w⟩, hrun, hresult⟩ := Option.map_eq_some_iff.mp h
  cases result with
  | error e => cases hresult
  | ok u =>
    obtain ⟨⟨visited, hperm, hfound⟩, hreadable, hlength⟩ := found_of_run hwhole hrun
    simp only [serializeAclSnapshotBounded, Except.bind_eq_ok, check_eq_ok, pure, Except.pure,
      Except.ok.injEq] at hresult
    obtain ⟨-, hbytes, rfl⟩ := hresult
    have hentries : sortBy AclSnapshotEntry.relativePathUtf16 w.found.reverse =
        sortBy AclSnapshotEntry.relativePathUtf16 (disk.tree.node.nodes.map (entryOf api s)) := by
      rw [hfound, ← List.map_reverse]
      exact sortBy_congr (tellsApart_entries hnames fun e he => hperm.mem_iff.mp (List.mem_reverse.mp he))
        (((List.reverse_perm visited).trans hperm).map _)
    rw [hentries] at hbytes ⊢
    refine ⟨rfl, hbytes, ?_, hreadable⟩
    rw [← hperm.length_eq, ← List.length_map (entryOf api s), ← hfound]
    exact hlength

end

/-! ## The size of a snapshot -/

/-- There is a comma after each item but the last. -/
theorem sum_le_byteLen_intercalate (items : List (List Char)) :
    (items.map byteLen).sum + items.length ≤ byteLen ([','].intercalate items) + 1 := by
  have hcomma : byteLen [','] = 1 := by decide
  induction items with
  | nil => simp
  | cons item items ih =>
    cases items with
    | nil => simp
    | cons next items =>
      rw [List.intercalate_cons_cons, byteLen_append, byteLen_append, hcomma, List.map_cons, List.sum_cons,
        List.length_cons]
      omega

theorem sum_le_byteLen_jsonArray (items : List (List Char)) :
    (items.map byteLen).sum + items.length ≤ byteLen (jsonArray items) := by
  have hitems := sum_le_byteLen_intercalate items
  have hopen : '['.utf8Size = 1 := by decide
  rw [jsonArray, byteLen_cons, byteLen_append]
  omega

theorem byteLen_le_jsonObject {members : List (String × List Char)} {key : String} {value : List Char}
    (h : (key, value) ∈ members) : byteLen value ≤ byteLen (jsonObject members) := by
  have hitems := sum_le_byteLen_intercalate (members.map fun (key, value) => Json.text key ++ ':' :: value)
  have hmember : Json.text key ++ ':' :: value ∈ members.map fun (key, value) => Json.text key ++ ':' :: value :=
    List.mem_map.mpr ⟨(key, value), h, rfl⟩
  have hlength : 0 < (members.map fun (key, value) => Json.text key ++ ':' :: value).length :=
    List.length_pos_of_mem hmember
  have hle := List.le_sum_of_mem (List.mem_map_of_mem (f := byteLen) hmember)
  rw [byteLen_append, byteLen_cons] at hle
  rw [jsonObject, byteLen_cons, byteLen_append]
  omega

theorem two_le_byteLen_number {n : Nat} (h : 10 ≤ n) : 2 ≤ byteLen (Json.number n) := by
  refine le_trans ?_ (length_le_byteLen _)
  rw [Json.number, Nat.toList_repr, Nat.toDigits_of_base_le (by decide) h, List.length_append, List.length_singleton]
  have := Nat.length_toDigits_pos (b := 10) (n := n / 10)
  omega

/-- A unit of a path takes two digits, and there is one more character for each. -/
theorem threefold_le_entry {entry : AclSnapshotEntry} (h : ∀ c ∈ entry.relativePathUtf16, 32 ≤ c.val) :
    3 * entry.relativePathUtf16.length ≤ byteLen entry.json := by
  have hunits : entry.relativePathUtf16.length * 2 ≤
      ((entry.relativePathUtf16.map fun unit => Json.number unit.val).map byteLen).sum := by
    rw [List.map_map]
    generalize entry.relativePathUtf16 = units at h ⊢
    induction units with
    | nil => simp
    | cons c units ih =>
      obtain ⟨hc, hrest⟩ := List.forall_mem_cons.mp h
      have hnumber : 2 ≤ byteLen (Json.number c.val) := two_le_byteLen_number (by omega)
      have hsum := ih hrest
      rw [List.map_cons, List.sum_cons, List.length_cons]
      simp only [Function.comp_apply] at hsum ⊢
      omega
  have harray := sum_le_byteLen_jsonArray (entry.relativePathUtf16.map fun unit => Json.number unit.val)
  have hobject : byteLen (jsonArray (entry.relativePathUtf16.map fun unit => Json.number unit.val)) ≤
      byteLen entry.json := byteLen_le_jsonObject List.mem_cons_self
  rw [List.length_map] at harray
  omega

/-- A text within its limit leaves the paths in it a third. -/
theorem threefold_le {snapshot : AclSnapshot}
    (h : ∀ entry ∈ snapshot.entries, ∀ c ∈ entry.relativePathUtf16, 32 ≤ c.val) :
    3 * (snapshot.entries.map fun entry => entry.relativePathUtf16.length).sum ≤ byteLen snapshot.json := by
  have hentries : 3 * (snapshot.entries.map fun entry => entry.relativePathUtf16.length).sum ≤
      ((snapshot.entries.map AclSnapshotEntry.json).map byteLen).sum := by
    rw [List.map_map]
    generalize snapshot.entries = entries at h ⊢
    induction entries with
    | nil => simp
    | cons entry entries ih =>
      obtain ⟨hentry, hrest⟩ := List.forall_mem_cons.mp h
      have hfirst := threefold_le_entry hentry
      have hsum := ih hrest
      rw [List.map_cons, List.sum_cons, List.map_cons, List.sum_cons, Function.comp_apply]
      omega
  have harray := sum_le_byteLen_jsonArray (snapshot.entries.map AclSnapshotEntry.json)
  have hobject : byteLen (jsonArray (snapshot.entries.map AclSnapshotEntry.json)) ≤ byteLen snapshot.json :=
    byteLen_le_jsonObject (List.mem_cons_of_mem _ (List.mem_cons_of_mem _ List.mem_cons_self))
  omega

end Acl

end Maintenance

end Xsoc
