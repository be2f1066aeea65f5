import Xsoc.Error

/-!
# Budgets

The maintenance tool never holds a tree of any size in memory: every list it fills has a limit of entries and one of
bytes, and it fails before it exceeds either.

* `checkedAdd`, `checkedMul` : the arithmetic of a `usize`; `roundUp_spec` : the units that a length is rounded up to;
* `checkedMaintenancePathPayload`, `checkedAclSnapshotEntryPayload` : what an entry costs, with the sum so far;
* `tryPushBoundedPath`, `enqueueBoundedTreePath`, `tryPushBoundedAclSnapshotEntry`, `recordBoundedTreeNode` : an entry
  is added, or the sum or the count is over its limit;
* `*_eq_ok` : when they succeed, and with which sums.

A vector that is used as a stack is the list of its elements with the last one first. Memory is always there when it is
reserved.
-/

set_option autoImplicit false

namespace Xsoc

namespace Maintenance

/-- A UTF-16 code unit. -/
abbrev CodeUnit := Fin (2 ^ 16)

/-- What the numerals of code units ask for. -/
instance codeUnits_neZero : NeZero (2 ^ 16) := ⟨by decide⟩

def maxOpenMutationDirectories : Nat := 256

/-- `MAX_MAINTENANCE_TREE_NODES` -/
def maxTreeNodes : Nat := 16 * 1024

def maxAclSnapshotEntries : Nat := maxTreeNodes

def maxAclSnapshotBytes : Nat := 16 * 1024 * 1024

/-- `MAX_MAINTENANCE_PATH_BYTES` -/
def maxPathBytes : Nat := 32 * 1024 * 1024

/-- `MAINTENANCE_PATH_FIXED_BYTES` -/
def pathFixedBytes : Nat := 64

def aclSnapshotEntryFixedBytes : Nat := 128

/-! ## Checked arithmetic -/

def usizeLimit : Nat := 2 ^ 64

/-- `checked_add` -/
def checkedAdd (a b : Nat) : Option Nat := if a + b < usizeLimit then some (a + b) else none

/-- `checked_mul` -/
def checkedMul (a b : Nat) : Option Nat := if a * b < usizeLimit then some (a * b) else none

@[simp] theorem checkedAdd_eq_some {a b c : Nat} : checkedAdd a b = some c ↔ a + b = c ∧ c < usizeLimit := by
  unfold checkedAdd
  split
  · next h => exact ⟨fun hc => by cases hc; exact ⟨rfl, h⟩, fun hc => by rw [hc.1]⟩
  · next h => exact ⟨fun hc => (by cases hc), fun hc => absurd (hc.1 ▸ hc.2) h⟩

@[simp] theorem checkedMul_eq_some {a b c : Nat} : checkedMul a b = some c ↔ a * b = c ∧ c < usizeLimit := by
  unfold checkedMul
  split
  · next h => exact ⟨fun hc => by cases hc; exact ⟨rfl, h⟩, fun hc => by rw [hc.1]⟩
  · next h => exact ⟨fun hc => (by cases hc), fun hc => absurd (hc.1 ▸ hc.2) h⟩

/-- Whole units that hold `n`, and of which one less would not. -/
theorem roundUp_spec {n unit : Nat} (hunit : 0 < unit) :
    n ≤ (n + (unit - 1)) / unit * unit ∧ (n + (unit - 1)) / unit * unit < n + unit := by
  have hsplit := Nat.div_add_mod (n + (unit - 1)) unit
  have hrest := Nat.mod_lt (n + (unit - 1)) hunit
  rw [Nat.mul_comm] at hsplit
  omega

/-! ## What an entry costs -/

def checkedChildDirectoryDepth (parentDepth hardLimit : Nat) : Except Error Nat := do
  let childDepth ← okOr (.message "managed directory depth overflowed") (checkedAdd parentDepth 1)
  check (childDepth ≤ hardLimit)
    (.message s!"managed directory depth exceeds the hard limit of {hardLimit} open handles")
  return childDepth

/-- `checked_maintenance_path_payload` -/
def checkedPathPayload (accountedBytes pathUtf16Units hardLimit : Nat) (label : String) : Except Error Nat := do
  let pathBytes ← okOr (.message "maintenance UTF-16 path byte count overflowed") (checkedMul pathUtf16Units 2)
  let entryBytes ← okOr (.message "maintenance path payload byte count overflowed")
    (checkedAdd pathFixedBytes pathBytes)
  let requested ← okOr (.message "maintenance cumulative path byte count overflowed")
    (checkedAdd accountedBytes entryBytes)
  check (requested ≤ hardLimit) (.message s!"{label} exceeded the {hardLimit}-byte cumulative path hard limit")
  return requested

def checkedAclSnapshotEntryPayload (accountedBytes relativePathUtf16Units sddlBytes hardLimit : Nat) :
    Except Error Nat := do
  let pathBytes ← okOr (.message "ACL snapshot UTF-16 path byte count overflowed")
    (checkedMul relativePathUtf16Units 2)
  let entryBytes ← okOr (.message "ACL snapshot entry payload byte count overflowed")
    ((checkedAdd aclSnapshotEntryFixedBytes pathBytes).bind (checkedAdd · sddlBytes))
  let requested ← okOr (.message "ACL snapshot cumulative payload byte count overflowed")
    (checkedAdd accountedBytes entryBytes)
  check (requested ≤ hardLimit)
    (.message s!"ACL snapshot entry payload exceeds the {hardLimit}-byte cumulative hard limit")
  return requested

/-- The cost of a path. -/
def pathCost (pathUtf16Units : Nat) : Nat := pathFixedBytes + pathUtf16Units * 2

/-- The cost of an entry of a snapshot. -/
def aclEntryCost (relativePathUtf16Units sddlBytes : Nat) : Nat :=
  aclSnapshotEntryFixedBytes + relativePathUtf16Units * 2 + sddlBytes

theorem checkedChildDirectoryDepth_eq_ok {parentDepth hardLimit childDepth : Nat} (hlimit : hardLimit < usizeLimit) :
    checkedChildDirectoryDepth parentDepth hardLimit = .ok childDepth ↔
      parentDepth + 1 = childDepth ∧ childDepth ≤ hardLimit := by
  simp only [checkedChildDirectoryDepth, Except.bind_eq_ok, okOr_eq_ok, checkedAdd_eq_some, check_eq_ok, pure,
    Except.pure, Except.ok.injEq]
  constructor
  · rintro ⟨d, ⟨hd, -⟩, -, hle, rfl⟩
    exact ⟨hd, hle⟩
  · rintro ⟨hd, hle⟩
    exact ⟨childDepth, ⟨hd, by omega⟩, (), hle, rfl⟩

theorem checkedPathPayload_eq_ok {accountedBytes units hardLimit requested : Nat} {label : String}
    (hlimit : hardLimit < usizeLimit) :
    checkedPathPayload accountedBytes units hardLimit label = .ok requested ↔
      accountedBytes + pathCost units = requested ∧ requested ≤ hardLimit := by
  simp only [checkedPathPayload, Except.bind_eq_ok, okOr_eq_ok, checkedAdd_eq_some, checkedMul_eq_some, check_eq_ok,
    pure, Except.pure, Except.ok.injEq, pathCost]
  constructor
  · rintro ⟨b, ⟨rfl, -⟩, e, ⟨rfl, -⟩, r, ⟨hr, -⟩, -, hle, rfl⟩
    exact ⟨hr, hle⟩
  · rintro ⟨hr, hle⟩
    exact ⟨_, ⟨rfl, by omega⟩, _, ⟨rfl, by omega⟩, requested, ⟨hr, by omega⟩, (), hle, rfl⟩

theorem checkedAclSnapshotEntryPayload_eq_ok {accountedBytes units sddlBytes hardLimit requested : Nat}
    (hlimit : hardLimit < usizeLimit) :
    checkedAclSnapshotEntryPayload accountedBytes units sddlBytes hardLimit = .ok requested ↔
      accountedBytes + aclEntryCost units sddlBytes = requested ∧ requested ≤ hardLimit := by
  simp only [checkedAclSnapshotEntryPayload, Except.bind_eq_ok, okOr_eq_ok, Option.bind_eq_some_iff,
    checkedAdd_eq_some, checkedMul_eq_some, check_eq_ok, pure, Except.pure, Except.ok.injEq,
    aclEntryCost]
  constructor
  · rintro ⟨b, ⟨rfl, -⟩, e, ⟨f, ⟨rfl, -⟩, rfl, -⟩, r, ⟨hr, -⟩, -, hle, rfl⟩
    exact ⟨hr, hle⟩
  · rintro ⟨hr, hle⟩
    exact ⟨_, ⟨rfl, by omega⟩, _, ⟨_, ⟨rfl, by omega⟩, rfl, by omega⟩, requested, ⟨hr, by omega⟩, (), hle, rfl⟩

/-! ## Adding an entry -/

/-- `try_reserve_bounded` -/
def tryReserveBounded (length additional hardLimit : Nat) (label : String) : Except Error Unit := do
  let requested ← okOr (.message "bounded maintenance collection length overflowed")
    (checkedAdd length additional)
  check (requested ≤ hardLimit) (.message s!"{label} exceeded the hard limit of {hardLimit} entries")

/-- `record_bounded_tree_node` -/
def recordBoundedTreeNode (discovered hardLimit : Nat) (label : String) : Except Error Nat := do
  check (discovered < hardLimit) (.message s!"{label} exceeded the hard limit of {hardLimit} nodes")
  return discovered + 1

section

variable {τ : Type}

/-- `try_push_bounded_path`, with the new sum of bytes. -/
def tryPushBoundedPath (items : List τ) (item : τ) (pathUtf16Units accountedPathBytes entryLimit pathByteLimit : Nat)
    (label : String) : Except Error (List τ × Nat) := do
  let requestedPathBytes ← checkedPathPayload accountedPathBytes pathUtf16Units pathByteLimit label
  tryReserveBounded items.length 1 entryLimit label
  return (item :: items, requestedPathBytes)

/-- `try_push_bounded_acl_snapshot_entry`, with the new sum of bytes. -/
def tryPushBoundedAclSnapshotEntry (entries : List τ) (entry : τ)
    (relativePathUtf16Units sddlBytes accountedPayloadBytes entryLimit payloadByteLimit : Nat) (label : String) :
    Except Error (List τ × Nat) := do
  let requestedPayloadBytes ← checkedAclSnapshotEntryPayload accountedPayloadBytes relativePathUtf16Units sddlBytes
    payloadByteLimit
  tryReserveBounded entries.length 1 entryLimit label
  return (entry :: entries, requestedPayloadBytes)

/-- `enqueue_bounded_tree_path`, with the new count of nodes and the new sum of bytes. -/
def enqueueBoundedTreePath (pending : List τ) (discovered : Nat) (node : τ)
    (pathUtf16Units accountedPathBytes hardLimit pathByteLimit : Nat) (label : String) :
    Except Error (List τ × Nat × Nat) := do
  check (discovered < hardLimit) (.message s!"{label} exceeded the hard limit of {hardLimit} nodes")
  let (pending, accountedPathBytes) ← tryPushBoundedPath pending node pathUtf16Units accountedPathBytes hardLimit
    pathByteLimit label
  return (pending, discovered + 1, accountedPathBytes)

theorem tryReserveBounded_eq_ok {length additional hardLimit : Nat} {label : String} {u : Unit}
    (hlimit : hardLimit < usizeLimit) :
    tryReserveBounded length additional hardLimit label = .ok u ↔ length + additional ≤ hardLimit := by
  simp only [tryReserveBounded, Except.bind_eq_ok, okOr_eq_ok, checkedAdd_eq_some, check_eq_ok]
  constructor
  · rintro ⟨r, ⟨rfl, -⟩, hle⟩
    exact hle
  · intro hle
    exact ⟨_, ⟨rfl, by omega⟩, hle⟩

theorem recordBoundedTreeNode_eq_ok {discovered hardLimit count : Nat} {label : String} :
    recordBoundedTreeNode discovered hardLimit label = .ok count ↔ discovered + 1 = count ∧ count ≤ hardLimit := by
  simp only [recordBoundedTreeNode, Except.bind_eq_ok, check_eq_ok, pure, Except.pure,
    Except.ok.injEq]
  constructor
  · rintro ⟨-, hlt, rfl⟩
    exact ⟨rfl, hlt⟩
  · rintro ⟨rfl, hle⟩
    exact ⟨(), hle, rfl⟩

theorem tryPushBoundedPath_eq_ok {items items' : List τ} {item : τ} {units bytes entryLimit byteLimit bytes' : Nat}
    {label : String} (hentries : entryLimit < usizeLimit) (hbytes : byteLimit < usizeLimit) :
    tryPushBoundedPath items item units bytes entryLimit byteLimit label = .ok (items', bytes') ↔
      items' = item :: items ∧ bytes + pathCost units = bytes' ∧ bytes' ≤ byteLimit ∧
        items.length + 1 ≤ entryLimit := by
  simp only [tryPushBoundedPath, Except.bind_eq_ok, checkedPathPayload_eq_ok hbytes, tryReserveBounded_eq_ok hentries,
    pure, Except.pure, Except.ok.injEq, Prod.mk.injEq]
  constructor
  · rintro ⟨r, ⟨hr, hle⟩, -, hlength, rfl, rfl⟩
    exact ⟨rfl, hr, hle, hlength⟩
  · rintro ⟨rfl, hr, hle, hlength⟩
    exact ⟨bytes', ⟨hr, hle⟩, (), hlength, rfl, rfl⟩

theorem tryPushBoundedAclSnapshotEntry_eq_ok {entries entries' : List τ} {entry : τ}
    {units sddlBytes bytes entryLimit byteLimit bytes' : Nat} {label : String} (hentries : entryLimit < usizeLimit)
    (hbytes : byteLimit < usizeLimit) :
    tryPushBoundedAclSnapshotEntry entries entry units sddlBytes bytes entryLimit byteLimit label =
        .ok (entries', bytes') ↔
      entries' = entry :: entries ∧ bytes + aclEntryCost units sddlBytes = bytes' ∧ bytes' ≤ byteLimit ∧
        entries.length + 1 ≤ entryLimit := by
  simp only [tryPushBoundedAclSnapshotEntry, Except.bind_eq_ok, checkedAclSnapshotEntryPayload_eq_ok hbytes,
    tryReserveBounded_eq_ok hentries, pure, Except.pure, Except.ok.injEq, Prod.mk.injEq]
  constructor
  · rintro ⟨r, ⟨hr, hle⟩, -, hlength, rfl, rfl⟩
    exact ⟨rfl, hr, hle, hlength⟩
  · rintro ⟨rfl, hr, hle, hlength⟩
    exact ⟨bytes', ⟨hr, hle⟩, (), hlength, rfl, rfl⟩

theorem enqueueBoundedTreePath_eq_ok {pending pending' : List τ} {node : τ}
    {discovered units bytes nodeLimit byteLimit discovered' bytes' : Nat} {label : String}
    (hnodes : nodeLimit < usizeLimit) (hbytes : byteLimit < usizeLimit) :
    enqueueBoundedTreePath pending discovered node units bytes nodeLimit byteLimit label =
        .ok (pending', discovered', bytes') ↔
      pending' = node :: pending ∧ discovered + 1 = discovered' ∧ discovered' ≤ nodeLimit ∧
        bytes + pathCost units = bytes' ∧ bytes' ≤ byteLimit ∧ pending.length + 1 ≤ nodeLimit := by
  simp only [enqueueBoundedTreePath, Except.bind_eq_ok, check_eq_ok, Prod.exists,
    tryPushBoundedPath_eq_ok hnodes hbytes, pure, Except.pure, Except.ok.injEq, Prod.mk.injEq]
  constructor
  · rintro ⟨-, hlt, p, b, ⟨rfl, hb, hle, hlength⟩, rfl, rfl, rfl⟩
    exact ⟨rfl, rfl, hlt, hb, hle, hlength⟩
  · rintro ⟨rfl, rfl, hlt, hb, hle, hlength⟩
    exact ⟨(), hlt, _, bytes', ⟨rfl, hb, hle, hlength⟩, rfl, rfl, rfl⟩

end

theorem maxTreeNodes_lt : maxTreeNodes < usizeLimit := by decide

theorem maxPathBytes_lt : maxPathBytes < usizeLimit := by decide

theorem maxAclSnapshotBytes_lt : maxAclSnapshotBytes < usizeLimit := by decide

end Maintenance

end Xsoc
