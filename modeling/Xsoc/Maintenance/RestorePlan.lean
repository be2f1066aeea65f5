import Xsoc.Bounding.Listing
import Xsoc.Maintenance.Budget

/-!
# The restore plan

Before the first access control list is restored, the snapshot is compared with the tree as it is now. What was saved
and what is there must be the same paths, of the same types.

* `validatedOrder` : the comparison, with the order in which the entries are then restored;
* `runValidatedAclRestorePlan` : the restore, through a callback;
* `Manifest` : when a snapshot and a tree match; `validatedOrder` decides it (`validatedOrder_isOk`);
* `Calls` : the calls that are made of a callback up to its first error;
* `restore_plan_all_or_nothing` : no call without a manifest, else one call an entry, ancestors first.
-/

set_option autoImplicit false

namespace Xsoc

namespace Maintenance

open Bounding

structure AclSnapshotPathFact where
  pathKey : List CodeUnit
  depth : Nat
  validRelativePath : Bool
  isDirectory : Bool
  deriving DecidableEq

structure AclCurrentPathFact where
  pathKey : List CodeUnit
  isDirectory : Bool
  isRegularFile : Bool
  isReparsePoint : Bool
  hardLinkCount : Option Nat
  deriving DecidableEq

/-- The loop over the entries of the snapshot. -/
def checkSnapshot : List AclSnapshotPathFact → Except Error Unit
  | [] => .ok ()
  | entry :: rest => do
    check (entry.validRelativePath = true) (.message "ACL snapshot contains a non-relative managed path")
    checkSnapshot rest

/-- The loop over the entries of the tree. -/
def checkCurrent : List AclCurrentPathFact → Except Error Unit
  | [] => .ok ()
  | entry :: rest => do
    check (entry.isReparsePoint = false) (.message "current managed tree contains a reparse point")
    check ((entry.isDirectory ^^ entry.isRegularFile) = true)
      (.message "current managed tree contains a special filesystem object")
    check (entry.isRegularFile = true → entry.hardLinkCount = some 1)
      (.message "current managed tree contains a multiply linked file")
    checkCurrent rest

section

variable (snapshot : List AclSnapshotPathFact) (current : List AclCurrentPathFact)

/-- The whole comparison, and the indices of the snapshot with the shallow ones first. -/
def validatedOrder : Except Error (List (Fin snapshot.length)) := do
  check (snapshot ≠ []) (.message "ACL snapshot is empty")
  check (snapshot.length ≤ maxAclSnapshotEntries)
    (.message s!"ACL snapshot exceeds the {maxAclSnapshotEntries}-entry hard limit")
  check (current.length ≤ maxTreeNodes)
    (.message s!"current managed tree exceeds the {maxTreeNodes}-node hard limit")
  tryReserveBounded 0 snapshot.length maxAclSnapshotEntries "ACL snapshot validation index"
  checkSnapshot snapshot
  let order := sortedIndices AclSnapshotPathFact.pathKey snapshot
  check (windows (fun i j => decide (snapshot[i].pathKey ≠ snapshot[j].pathKey)) order = true)
    (.message "ACL snapshot contains a duplicate path")
  check (order.any (fun i => snapshot[i].pathKey.isEmpty) = true)
    (.message "ACL snapshot does not contain its managed root")
  tryReserveBounded 0 current.length maxTreeNodes "current managed tree validation index"
  checkCurrent current
  let order' := sortedIndices AclCurrentPathFact.pathKey current
  check (windows (fun i j => decide (current[i].pathKey ≠ current[j].pathKey)) order' = true)
    (.message "current managed tree contains a duplicate path")
  check (order.length = order'.length ∧
      zipAll (fun i j => decide (snapshot[i].pathKey = current[j].pathKey)) order order' = true)
    (.message "ACL snapshot path set does not exactly match the current managed tree")
  check (zipAll (fun i j => decide (snapshot[i].isDirectory = current[j].isDirectory)) order order' = true)
    (.message "ACL snapshot target changed type")
  return sortBy (fun i => snapshot[i].depth) order

variable {σ : Type}

/-- The calls of the callback, up to its first error. -/
def applyAll (apply : Nat → σ → Except Error Unit × σ) : List Nat → σ → Except Error Unit × σ
  | [], s => (.ok (), s)
  | index :: rest, s =>
    match apply index s with
    | (.ok (), s) => applyAll apply rest s
    | (.error e, s) => (.error e, s)

def runValidatedAclRestorePlan (apply : Nat → σ → Except Error Unit × σ) (s : σ) : Except Error Unit × σ :=
  match validatedOrder snapshot current with
  | .error e => (.error e, s)
  | .ok order => applyAll apply (order.map Fin.val) s

/-! ## What the comparison decides -/

/-- The snapshot is of this tree. -/
structure Manifest : Prop where
  nonempty : snapshot ≠ []
  withinSnapshot : snapshot.length ≤ maxAclSnapshotEntries
  withinCurrent : current.length ≤ maxTreeNodes
  relative : ∀ entry ∈ snapshot, entry.validRelativePath = true
  distinct : (snapshot.map AclSnapshotPathFact.pathKey).Nodup
  root : ∃ entry ∈ snapshot, entry.pathKey = []
  noReparsePoint : ∀ entry ∈ current, entry.isReparsePoint = false
  /-- Directories, and regular files with one link. -/
  ordinary : ∀ entry ∈ current, (entry.isDirectory = true ∧ entry.isRegularFile = false) ∨
    (entry.isDirectory = false ∧ entry.isRegularFile = true ∧ entry.hardLinkCount = some 1)
  currentDistinct : (current.map AclCurrentPathFact.pathKey).Nodup
  samePaths : ∀ path, path ∈ snapshot.map AclSnapshotPathFact.pathKey ↔ path ∈ current.map AclCurrentPathFact.pathKey
  sameTypes : ∀ entry ∈ snapshot, ∀ target ∈ current, entry.pathKey = target.pathKey →
    entry.isDirectory = target.isDirectory

variable {snapshot current}

theorem checkSnapshot_eq_ok {u : Unit} :
    checkSnapshot snapshot = .ok u ↔ ∀ entry ∈ snapshot, entry.validRelativePath = true := by
  induction snapshot with
  | nil => simp [checkSnapshot]
  | cons entry rest ih =>
    simp only [checkSnapshot, Except.bind_eq_ok, check_eq_ok, ih, List.forall_mem_cons, exists_const]

theorem checkCurrent_eq_ok {u : Unit} :
    checkCurrent current = .ok u ↔ (∀ entry ∈ current, entry.isReparsePoint = false) ∧
      ∀ entry ∈ current, (entry.isDirectory = true ∧ entry.isRegularFile = false) ∨
        (entry.isDirectory = false ∧ entry.isRegularFile = true ∧ entry.hardLinkCount = some 1) := by
  induction current with
  | nil => simp [checkCurrent]
  | cons entry rest ih =>
    have hkind : ((entry.isDirectory ^^ entry.isRegularFile) = true ∧
        (entry.isRegularFile = true → entry.hardLinkCount = some 1)) ↔
        (entry.isDirectory = true ∧ entry.isRegularFile = false) ∨
          (entry.isDirectory = false ∧ entry.isRegularFile = true ∧ entry.hardLinkCount = some 1) := by
      cases entry.isDirectory <;> cases entry.isRegularFile <;> simp
    simp only [checkCurrent, Except.bind_eq_ok, check_eq_ok, ih, List.forall_mem_cons, exists_const,
      ← hkind]
    tauto

/-- The comparison of the sorted indices is the comparison of the manifests. -/
theorem manifest_iff :
    Manifest snapshot current ↔
      snapshot ≠ [] ∧ snapshot.length ≤ maxAclSnapshotEntries ∧ current.length ≤ maxTreeNodes ∧
      checkSnapshot snapshot = .ok () ∧
      windows (fun i j => decide (snapshot[i].pathKey ≠ snapshot[j].pathKey))
        (sortedIndices AclSnapshotPathFact.pathKey snapshot) = true ∧
      (sortedIndices AclSnapshotPathFact.pathKey snapshot).any (fun i => snapshot[i].pathKey.isEmpty) = true ∧
      checkCurrent current = .ok () ∧
      windows (fun i j => decide (current[i].pathKey ≠ current[j].pathKey))
        (sortedIndices AclCurrentPathFact.pathKey current) = true ∧
      ((sortedIndices AclSnapshotPathFact.pathKey snapshot).length =
          (sortedIndices AclCurrentPathFact.pathKey current).length ∧
        zipAll (fun i j => decide (snapshot[i].pathKey = current[j].pathKey))
          (sortedIndices AclSnapshotPathFact.pathKey snapshot)
          (sortedIndices AclCurrentPathFact.pathKey current) = true) ∧
      zipAll (fun i j => decide (snapshot[i].isDirectory = current[j].isDirectory))
        (sortedIndices AclSnapshotPathFact.pathKey snapshot)
        (sortedIndices AclCurrentPathFact.pathKey current) = true := by
  have hperm := map_sortedIndices_perm AclSnapshotPathFact.pathKey snapshot AclSnapshotPathFact.pathKey
  have hperm' := map_sortedIndices_perm AclCurrentPathFact.pathKey current AclCurrentPathFact.pathKey
  have horder := inOrder_sortedIndices AclSnapshotPathFact.pathKey snapshot
  have horder' := inOrder_sortedIndices AclCurrentPathFact.pathKey current
  rw [checkSnapshot_eq_ok, checkCurrent_eq_ok, windows_distinct horder, windows_distinct horder', hperm.nodup_iff,
    hperm'.nodup_iff, zipAll_keys]
  have hroot : (sortedIndices AclSnapshotPathFact.pathKey snapshot).any (fun i => snapshot[i].pathKey.isEmpty) = true ↔
      ∃ entry ∈ snapshot, entry.pathKey = [] := by
    rw [List.any_eq_true]
    constructor
    · rintro ⟨i, -, hi⟩
      exact ⟨snapshot[i], List.getElem_mem _, List.isEmpty_iff.mp hi⟩
    · rintro ⟨entry, hentry, hkey⟩
      obtain ⟨i, hi, rfl⟩ := List.getElem_of_mem hentry
      exact ⟨⟨i, hi⟩, mem_sortedIndices _ _, List.isEmpty_iff.mpr hkey⟩
  rw [hroot]
  -- the distinct keys come first: the comparison of the lists is a comparison of sets by them
  constructor
  · intro h
    have hkeys := (horder.map_eq_iff horder' (hperm.nodup_iff.mpr h.distinct)
      (hperm'.nodup_iff.mpr h.currentDistinct)).mpr fun path => by
        rw [hperm.mem_iff, hperm'.mem_iff]
        exact h.samePaths path
    refine ⟨h.nonempty, h.withinSnapshot, h.withinCurrent, h.relative, h.distinct, h.root,
      ⟨h.noReparsePoint, h.ordinary⟩, h.currentDistinct, hkeys, ?_⟩
    rw [zipAll_agree hkeys (hperm.nodup_iff.mpr h.distinct)]
    intro i _ j _ hpath
    exact h.sameTypes _ (List.getElem_mem _) _ (List.getElem_mem _) hpath
  · rintro ⟨hnonempty, hsnapshot, hcurrent, hrelative, hdistinct, hroot, ⟨hreparse, hordinary⟩, hdistinct',
      hkeys, htypes⟩
    have hsame := (horder.map_eq_iff horder' (hperm.nodup_iff.mpr hdistinct) (hperm'.nodup_iff.mpr hdistinct')).mp hkeys
    rw [zipAll_agree hkeys (hperm.nodup_iff.mpr hdistinct)] at htypes
    refine ⟨hnonempty, hsnapshot, hcurrent, hrelative, hdistinct, hroot, hreparse, hordinary, hdistinct', ?_, ?_⟩
    · intro path
      rw [← hperm.mem_iff, ← hperm'.mem_iff]
      exact hsame path
    · intro entry hentry target htarget hpath
      obtain ⟨i, hi, rfl⟩ := List.getElem_of_mem hentry
      obtain ⟨j, hj, rfl⟩ := List.getElem_of_mem htarget
      exact htypes ⟨i, hi⟩ (mem_sortedIndices _ _) ⟨j, hj⟩ (mem_sortedIndices _ _) hpath

theorem validatedOrder_eq_ok {order : List (Fin snapshot.length)} :
    validatedOrder snapshot current = .ok order ↔ Manifest snapshot current ∧
      order = sortBy (fun i => snapshot[i].depth) (sortedIndices AclSnapshotPathFact.pathKey snapshot) := by
  rw [manifest_iff]
  simp only [validatedOrder, Except.bind_eq_ok, check_eq_ok, tryReserveBounded_eq_ok maxTreeNodes_lt,
    tryReserveBounded_eq_ok (show maxAclSnapshotEntries < usizeLimit from maxTreeNodes_lt), exists_const, Nat.zero_add,
    pure, Except.pure, Except.ok.injEq, eq_comm (b := order)]
  tauto

theorem validatedOrder_isOk : (∃ order, validatedOrder snapshot current = .ok order) ↔ Manifest snapshot current := by
  constructor
  · rintro ⟨order, h⟩
    exact (validatedOrder_eq_ok.mp h).1
  · intro h
    exact ⟨_, validatedOrder_eq_ok.mpr ⟨h, rfl⟩⟩

/-! ## The calls -/

/-- The calls of a callback on some indices, from a state to a state: all succeed, but perhaps the last. -/
inductive Calls (apply : Nat → σ → Except Error Unit × σ) : List Nat → σ → Except Error Unit → σ → Prop
  | none (s : σ) : Calls apply [] s (.ok ()) s
  | last {index : Nat} {s t : σ} {e : Error} (h : apply index s = (.error e, t)) : Calls apply [index] s (.error e) t
  | next {index : Nat} {rest : List Nat} {s t u : σ} {result : Except Error Unit} (h : apply index s = (.ok (), t))
      (hrest : Calls apply rest t result u) : Calls apply (index :: rest) s result u

/-- The callback, with a log of the indices it was called with. -/
def logged (apply : Nat → σ → Except Error Unit × σ) (index : Nat) (s : List Nat × σ) :
    Except Error Unit × List Nat × σ :=
  let (result, t) := apply index s.2
  (result, s.1 ++ [index], t)

theorem applyAll_logged (apply : Nat → σ → Except Error Unit × σ) (order log : List Nat) (s : σ) :
    ∃ calls result t, applyAll (logged apply) order (log, s) = (result, log ++ calls, t) ∧
      Calls apply calls s result t ∧ calls <+: order ∧ (result = .ok () → calls = order) := by
  induction order generalizing log s with
  | nil => exact ⟨[], .ok (), s, by simp [applyAll], .none s, List.prefix_rfl, fun _ => rfl⟩
  | cons index rest ih =>
    rcases happly : apply index s with ⟨⟨e⟩ | ⟨⟨⟩⟩, t⟩
    · refine ⟨[index], .error e, t, ?_, .last happly, ?_, fun h => (by cases h)⟩
      · simp [applyAll, logged, happly]
      · exact List.cons_prefix_cons.mpr ⟨rfl, List.nil_prefix⟩
    · obtain ⟨calls, result, u, hrun, hcalls, hpre, hall⟩ := ih (log ++ [index]) t
      refine ⟨index :: calls, result, u, ?_, .next happly hcalls, ?_, fun h => ?_⟩
      · simp only [applyAll, logged, happly]
        rw [hrun, List.append_assoc]
        rfl
      · exact List.cons_prefix_cons.mpr ⟨rfl, hpre⟩
      · rw [hall h]

/-- The log changes nothing. -/
theorem applyAll_of_logged {apply : Nat → σ → Except Error Unit × σ} {order log log' : List Nat} {s t : σ}
    {result : Except Error Unit} (h : applyAll (logged apply) order (log, s) = (result, log', t)) :
    applyAll apply order s = (result, t) := by
  induction order generalizing log s with
  | nil =>
    cases h
    rfl
  | cons index rest ih =>
    rcases happly : apply index s with ⟨⟨e⟩ | ⟨⟨⟩⟩, u⟩
    · simp only [applyAll, logged, happly] at h ⊢
      cases h
      rfl
    · simp only [applyAll, logged, happly] at h ⊢
      exact ih h

/-! ## The restore -/

/-- What the calls of a restore are: each entry at most once, none before a shallower one. -/
structure InPlan (snapshot : List AclSnapshotPathFact) (calls : List Nat) : Prop where
  inBounds : ∀ index ∈ calls, index < snapshot.length
  once : calls.Nodup
  shallowFirst : calls.Pairwise fun i j => ∀ (hi : i < snapshot.length) (hj : j < snapshot.length),
    snapshot[i].depth ≤ snapshot[j].depth

theorem InPlan.initial {calls order : List Nat} (h : InPlan snapshot order) (hpre : calls <+: order) :
    InPlan snapshot calls where
  inBounds index hindex := h.inBounds index (hpre.subset hindex)
  once := hpre.sublist.nodup h.once
  shallowFirst := h.shallowFirst.sublist hpre.sublist

/-- The order of the plan is one of all entries. -/
theorem validatedOrder_plan {order : List (Fin snapshot.length)} (h : validatedOrder snapshot current = .ok order) :
    InPlan snapshot (order.map Fin.val) ∧ ∀ index < snapshot.length, index ∈ order.map Fin.val := by
  obtain ⟨-, rfl⟩ := validatedOrder_eq_ok.mp h
  have hperm := (sortBy_perm (fun i : Fin snapshot.length => snapshot[i].depth)
    (sortedIndices AclSnapshotPathFact.pathKey snapshot))
  refine ⟨⟨?_, ?_, ?_⟩, ?_⟩
  · intro index hindex
    obtain ⟨i, -, rfl⟩ := List.mem_map.mp hindex
    exact i.isLt
  · exact (hperm.nodup_iff.mpr (nodup_sortedIndices _ _)).map Fin.val_injective
  · apply List.pairwise_map.mpr
    exact (inOrder_sortBy (fun i : Fin snapshot.length => snapshot[i].depth) _).imp fun hle _ _ => hle
  · intro index hindex
    exact List.mem_map.mpr ⟨⟨index, hindex⟩, hperm.mem_iff.mpr (mem_sortedIndices _ _), rfl⟩

/-- The comparison decides the manifest. Without one no call is made; with one the calls are in the plan, up to the
first error, and all entries are restored where there is none. -/
theorem restore_plan_all_or_nothing (snapshot : List AclSnapshotPathFact) (current : List AclCurrentPathFact)
    (apply : Nat → σ → Except Error Unit × σ) (s : σ) :
    ((∃ order, validatedOrder snapshot current = .ok order) ↔ Manifest snapshot current) ∧
    (¬ Manifest snapshot current →
      ∃ e, runValidatedAclRestorePlan snapshot current (logged apply) ([], s) = (.error e, [], s)) ∧
    (Manifest snapshot current → ∃ calls result t,
      runValidatedAclRestorePlan snapshot current (logged apply) ([], s) = (result, calls, t) ∧
      runValidatedAclRestorePlan snapshot current apply s = (result, t) ∧
      Calls apply calls s result t ∧ InPlan snapshot calls ∧
      (result = .ok () → ∀ index < snapshot.length, index ∈ calls)) := by
  refine ⟨validatedOrder_isOk, ?_, ?_⟩
  · intro hnot
    rcases hvalid : validatedOrder snapshot current with e | order
    · exact ⟨e, by rw [runValidatedAclRestorePlan, hvalid]⟩
    · exact absurd (validatedOrder_isOk.mp ⟨order, hvalid⟩) hnot
  · intro hmanifest
    obtain ⟨order, hvalid⟩ := validatedOrder_isOk.mpr hmanifest
    obtain ⟨hplan, hcovers⟩ := validatedOrder_plan hvalid
    obtain ⟨calls, result, t, hrun, hcalls, hpre, hall⟩ := applyAll_logged apply (order.map Fin.val) [] s
    refine ⟨calls, result, t, ?_, ?_, hcalls, hplan.initial hpre, ?_⟩
    · rw [runValidatedAclRestorePlan, hvalid]
      exact hrun
    · rw [runValidatedAclRestorePlan, hvalid]
      exact applyAll_of_logged hrun
    · intro hresult
      rw [hall hresult]
      exact hcovers

/-- A root and a file in it match; without the file they do not. -/
example : (validatedOrder [⟨[97], 1, true, false⟩, ⟨[], 0, true, true⟩]
    [⟨[], true, false, false, none⟩, ⟨[97], false, true, false, some 1⟩]).toOption = some [1, 0] ∧
    (validatedOrder [⟨[97], 1, true, false⟩, ⟨[], 0, true, true⟩] [⟨[], true, false, false, none⟩]).toOption =
      none := by
  decide

end

end Maintenance

end Xsoc
