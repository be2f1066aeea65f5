import Mathlib.Algebra.Order.BigOperators.Group.List
import Mathlib.Algebra.Order.Group.Nat
import Mathlib.Logic.Function.Basic
import Xsoc.Faults.Act
import Xsoc.Maintenance.Budget

/-!
# The accounts of a walk

The walks of the maintenance tool share counters between the lists that they fill. Here the calls change the lists and
the counters one by one, in the order of the source, and the allocator may have no memory for an entry.

* `Ledger` : the lists and the counters; `Ledger.enqueueBoundedTreePath`, ... : the calls, as they change it;
* `BudgetCall` : a call with what it is given; `BudgetCall.Fits` : when it is accepted; `BudgetCall.after` : what it
  does then;
* `BudgetCall.atomic` : a call does all of that, or nothing;
* `Balanced` : each counter is the sum over the calls that were accepted, and within its limit;
* `bounded_accounting` : so it is after any calls, with any sizes, and nodes taken off the stack in between.

Where there is memory, the calls are those of the budgets: `tryPushBoundedPath_eq` and the like.
-/

set_option autoImplicit false

namespace Xsoc

namespace Maintenance

open Faults

/-- The lists that share a counter of path bytes. -/
inductive Slot (ι : Type)
  /-- The stack of the nodes that are still to be visited. -/
  | pending
  | items (i : ι)
  deriving DecidableEq

structure Ledger (ι τ : Type) where
  lists : Slot ι → List τ
  discovered : Nat
  pathBytes : Nat
  entries : List τ
  payloadBytes : Nat

/-- The limits, each of them a `usize`. -/
structure Caps (ι : Type) where
  /-- Of the nodes that are discovered, and of those that are pending. -/
  nodes : Nat
  pathBytes : Nat
  items : ι → Nat
  entries : Nat
  payloadBytes : Nat
  nodes_lt : nodes < usizeLimit
  pathBytes_lt : pathBytes < usizeLimit
  items_lt : ∀ i, items i < usizeLimit
  entries_lt : entries < usizeLimit
  payloadBytes_lt : payloadBytes < usizeLimit

/-- The lists that the walks fill: of nodes, and of directories that stay open. -/
inductive PathList
  | nodes
  | openDirectories
  deriving DecidableEq

/-- The limits that the walks give. -/
def walkCaps : Caps PathList where
  nodes := maxTreeNodes
  pathBytes := maxPathBytes
  items
    | .nodes => maxTreeNodes
    | .openDirectories => maxOpenMutationDirectories
  entries := maxAclSnapshotEntries
  payloadBytes := maxAclSnapshotBytes
  nodes_lt := by decide
  pathBytes_lt := by decide
  items_lt
    | .nodes => by decide
    | .openDirectories => by decide
  entries_lt := by decide
  payloadBytes_lt := by decide

section

variable {ι τ : Type} [DecidableEq ι]

namespace Ledger

def empty : Ledger ι τ where
  lists _ := []
  discovered := 0
  pathBytes := 0
  entries := []
  payloadBytes := 0

def push (slot : Slot ι) (item : τ) (l : Ledger ι τ) : Ledger ι τ :=
  { l with lists := Function.update l.lists slot (item :: l.lists slot) }

/-- `pending.pop()` -/
def pop (l : Ledger ι τ) : Ledger ι τ := { l with lists := Function.update l.lists .pending (l.lists .pending).tail }

omit [DecidableEq ι] in
/-- `try_reserve_bounded` for one entry. -/
def tryReserveBounded (memory : Bool) (length : Ledger ι τ → Nat) (hardLimit : Nat) (label : String) :
    Act (Ledger ι τ) Error Unit := do
  let length ← Act.gets length
  Act.ofExcept (Maintenance.tryReserveBounded length 1 hardLimit label)
  Act.ensure (fun _ => memory)
    (.message s!"failed to reserve memory for {label} within the {hardLimit}-entry hard limit")

def tryPushBoundedPath (memory : Bool) (slot : Slot ι) (item : τ) (pathUtf16Units entryLimit pathByteLimit : Nat)
    (label : String) : Act (Ledger ι τ) Error Unit := do
  let accountedPathBytes ← Act.gets pathBytes
  let requestedPathBytes ← Act.ofExcept (checkedPathPayload accountedPathBytes pathUtf16Units pathByteLimit label)
  tryReserveBounded memory (fun l => (l.lists slot).length) entryLimit label
  Act.modify (push slot item)
  Act.modify fun l => { l with pathBytes := requestedPathBytes }

def tryPushBoundedAclSnapshotEntry (memory : Bool) (entry : τ)
    (relativePathUtf16Units sddlBytes entryLimit payloadByteLimit : Nat) (label : String) :
    Act (Ledger ι τ) Error Unit := do
  let accountedPayloadBytes ← Act.gets payloadBytes
  let requestedPayloadBytes ← Act.ofExcept (checkedAclSnapshotEntryPayload accountedPayloadBytes relativePathUtf16Units
    sddlBytes payloadByteLimit)
  tryReserveBounded memory (fun l => l.entries.length) entryLimit label
  Act.modify fun l => { l with entries := entry :: l.entries }
  Act.modify fun l => { l with payloadBytes := requestedPayloadBytes }

/-- `*discovered < hard_limit` -/
def ensureUndiscovered (hardLimit : Nat) (label : String) : Act (Ledger ι τ) Error Unit :=
  Act.ensure (fun l => decide (l.discovered < hardLimit))
    (.message s!"{label} exceeded the hard limit of {hardLimit} nodes")

/-- `*discovered += 1`, which the source does not check. -/
def discover (l : Ledger ι τ) : Ledger ι τ := { l with discovered := (l.discovered + 1) % usizeLimit }

def recordBoundedTreeNode (hardLimit : Nat) (label : String) : Act (Ledger ι τ) Error Unit := do
  ensureUndiscovered hardLimit label
  Act.modify discover

def enqueueBoundedTreePath (memory : Bool) (node : τ) (pathUtf16Units hardLimit pathByteLimit : Nat) (label : String) :
    Act (Ledger ι τ) Error Unit := do
  ensureUndiscovered hardLimit label
  tryPushBoundedPath memory .pending node pathUtf16Units hardLimit pathByteLimit label
  Act.modify discover

end Ledger

/-- A call, with the sizes that it is given. -/
inductive BudgetCall (ι τ : Type)
  | enqueue (node : τ) (pathUtf16Units : Nat)
  | pushPath (i : ι) (item : τ) (pathUtf16Units : Nat)
  | pushEntry (entry : τ) (relativePathUtf16Units sddlBytes : Nat)
  | record

namespace BudgetCall

variable (caps : Caps ι) (memory : Bool) (label : String)

def act : BudgetCall ι τ → Act (Ledger ι τ) Error Unit
  | enqueue node units => Ledger.enqueueBoundedTreePath memory node units caps.nodes caps.pathBytes label
  | pushPath i item units =>
    Ledger.tryPushBoundedPath memory (.items i) item units (caps.items i) caps.pathBytes label
  | pushEntry entry units sddlBytes =>
    Ledger.tryPushBoundedAclSnapshotEntry memory entry units sddlBytes caps.entries caps.payloadBytes label
  | record => Ledger.recordBoundedTreeNode caps.nodes label

/-! ## What a call counts -/

def nodes : BudgetCall ι τ → Nat
  | enqueue _ _ => 1
  | record => 1
  | _ => 0

def pathBytes : BudgetCall ι τ → Nat
  | enqueue _ units => pathCost units
  | pushPath _ _ units => pathCost units
  | _ => 0

def payloadBytes : BudgetCall ι τ → Nat
  | pushEntry _ units sddlBytes => aclEntryCost units sddlBytes
  | _ => 0

/-- There is room for what the call counts, and for its entry. -/
def Fits (l : Ledger ι τ) : BudgetCall ι τ → Prop
  | enqueue _ units => l.discovered < caps.nodes ∧ l.pathBytes + pathCost units ≤ caps.pathBytes ∧
      (l.lists .pending).length + 1 ≤ caps.nodes ∧ memory = true
  | pushPath i _ units => l.pathBytes + pathCost units ≤ caps.pathBytes ∧
      (l.lists (.items i)).length + 1 ≤ caps.items i ∧ memory = true
  | pushEntry _ units sddlBytes => l.payloadBytes + aclEntryCost units sddlBytes ≤ caps.payloadBytes ∧
      l.entries.length + 1 ≤ caps.entries ∧ memory = true
  | record => l.discovered < caps.nodes

/-- The ledger with the entry, and with what the call counts. -/
def after (l : Ledger ι τ) : BudgetCall ι τ → Ledger ι τ
  | enqueue node units =>
    { l.push .pending node with pathBytes := l.pathBytes + pathCost units, discovered := l.discovered + 1 }
  | pushPath i item units => { l.push (.items i) item with pathBytes := l.pathBytes + pathCost units }
  | pushEntry entry units sddlBytes =>
    { l with entries := entry :: l.entries, payloadBytes := l.payloadBytes + aclEntryCost units sddlBytes }
  | record => { l with discovered := l.discovered + 1 }

end BudgetCall

/-! ## All or nothing -/

section

variable {caps : Caps ι} {memory : Bool} {label : String} {l : Ledger ι τ}

namespace Ledger

omit [DecidableEq ι] in
theorem tryReserveBounded_atomic (length : Ledger ι τ → Nat) {hardLimit : Nat} (hlimit : hardLimit < usizeLimit) :
    Act.Atomic (tryReserveBounded memory length hardLimit label) (length l + 1 ≤ hardLimit ∧ memory = true) l l := by
  refine Act.Atomic.read (Act.Atomic.check (a := ()) (fun v => ?_) (Act.atomic_ensure _ _))
  rw [tryReserveBounded_eq_ok hlimit, and_iff_left rfl]

omit [DecidableEq ι] in
/-- An entry that is pushed, with what it costs. -/
theorem push_atomic {x : Except Error Nat} {cost count byteLimit entryLimit : Nat} {length : Ledger ι τ → Nat}
    (hentries : entryLimit < usizeLimit)
      (hx : ∀ requested, x = .ok requested ↔ count + cost = requested ∧ requested ≤ byteLimit)
    (f : Ledger ι τ → Ledger ι τ) (g : Nat → Ledger ι τ → Ledger ι τ) :
    Act.Atomic (do
        let requested ← Act.ofExcept x
        tryReserveBounded memory length entryLimit label
        Act.modify f
        Act.modify (g requested))
      (count + cost ≤ byteLimit ∧ length l + 1 ≤ entryLimit ∧ memory = true) (g (count + cost) (f l)) l := by
  have hreserve : Act.Atomic (tryReserveBounded memory length entryLimit label)
      (length l + 1 ≤ entryLimit ∧ memory = true) l l := tryReserveBounded_atomic length hentries
  refine (Act.Atomic.check (A := count + cost ≤ byteLimit) (a := count + cost) (fun requested => ?_)
    (hreserve.before ((Act.atomic_modify f).andThen (g (count + cost))))).congr (by rw [and_true]) fun _ => rfl
  rw [hx]
  constructor
  · rintro ⟨rfl, hle⟩
    exact ⟨hle, rfl⟩
  · rintro ⟨hle, rfl⟩
    exact ⟨rfl, hle⟩

theorem tryPushBoundedPath_atomic (slot : Slot ι) (item : τ) (units : Nat) {entryLimit byteLimit : Nat}
    (hentries : entryLimit < usizeLimit) (hbytes : byteLimit < usizeLimit) :
    Act.Atomic (tryPushBoundedPath memory slot item units entryLimit byteLimit label)
      (l.pathBytes + pathCost units ≤ byteLimit ∧ (l.lists slot).length + 1 ≤ entryLimit ∧ memory = true)
      { l.push slot item with pathBytes := l.pathBytes + pathCost units } l :=
  .read (push_atomic hentries (fun _ => checkedPathPayload_eq_ok hbytes) (push slot item) _)

omit [DecidableEq ι] in
theorem tryPushBoundedAclSnapshotEntry_atomic (entry : τ) (units sddlBytes : Nat) {entryLimit byteLimit : Nat}
    (hentries : entryLimit < usizeLimit) (hbytes : byteLimit < usizeLimit) :
    Act.Atomic (tryPushBoundedAclSnapshotEntry memory entry units sddlBytes entryLimit byteLimit label)
      (l.payloadBytes + aclEntryCost units sddlBytes ≤ byteLimit ∧ l.entries.length + 1 ≤ entryLimit ∧ memory = true)
      { l with entries := entry :: l.entries, payloadBytes := l.payloadBytes + aclEntryCost units sddlBytes } l :=
  .read (push_atomic hentries (fun _ => checkedAclSnapshotEntryPayload_eq_ok hbytes) _ _)

omit [DecidableEq ι] in
theorem ensureUndiscovered_atomic (hardLimit : Nat) :
    Act.Atomic (ensureUndiscovered hardLimit label) (l.discovered < hardLimit) l l :=
  (Act.atomic_ensure _ _).congr (by rw [decide_eq_true_eq]) fun _ => rfl

omit [DecidableEq ι] in
/-- Below a limit the count does not wrap. -/
theorem discover_eq {hardLimit : Nat} (hlimit : hardLimit < usizeLimit) (h : l.discovered < hardLimit) :
    l.discover = { l with discovered := l.discovered + 1 } := by
  rw [discover, Nat.mod_eq_of_lt (by omega)]

omit [DecidableEq ι] in
theorem recordBoundedTreeNode_atomic {hardLimit : Nat} (hlimit : hardLimit < usizeLimit) :
    Act.Atomic (recordBoundedTreeNode hardLimit label) (l.discovered < hardLimit)
      { l with discovered := l.discovered + 1 } l :=
  ((ensureUndiscovered_atomic hardLimit).andThen discover).congr Iff.rfl (discover_eq hlimit)

theorem enqueueBoundedTreePath_atomic (node : τ) (units : Nat) {hardLimit byteLimit : Nat}
    (hlimit : hardLimit < usizeLimit) (hbytes : byteLimit < usizeLimit) :
    Act.Atomic (enqueueBoundedTreePath memory node units hardLimit byteLimit label)
      (l.discovered < hardLimit ∧ l.pathBytes + pathCost units ≤ byteLimit ∧
        (l.lists .pending).length + 1 ≤ hardLimit ∧ memory = true)
      { l.push .pending node with pathBytes := l.pathBytes + pathCost units, discovered := l.discovered + 1 } l :=
  ((ensureUndiscovered_atomic hardLimit).before
    ((tryPushBoundedPath_atomic .pending node units hlimit hbytes).andThen discover)).congr Iff.rfl
    fun h => discover_eq hlimit (by exact h.1)

end Ledger

/-- A call that fits does what it does; one that does not fit fails, and changes nothing. -/
theorem BudgetCall.atomic (c : BudgetCall ι τ) :
    Act.Atomic (c.act caps memory label) (c.Fits caps memory l) (c.after l) l := by
  cases c with
  | enqueue node units => exact Ledger.enqueueBoundedTreePath_atomic node units caps.nodes_lt caps.pathBytes_lt
  | pushPath i item units =>
    exact Ledger.tryPushBoundedPath_atomic (.items i) item units (caps.items_lt i) caps.pathBytes_lt
  | pushEntry entry units sddlBytes =>
    exact Ledger.tryPushBoundedAclSnapshotEntry_atomic entry units sddlBytes caps.entries_lt caps.payloadBytes_lt
  | record => exact Ledger.recordBoundedTreeNode_atomic caps.nodes_lt

/-! ## Runs -/

/-- A call, with what the allocator has for it, or the next node taken off the stack. -/
inductive WalkStep (ι τ : Type)
  | call (memory : Bool) (label : String) (c : BudgetCall ι τ)
  | pop

def WalkStep.run (caps : Caps ι) : WalkStep ι τ → Ledger ι τ → Ledger ι τ
  | call memory label c, l => (c.act caps memory label l).2
  | pop, l => l.pop

/-- The calls of a run that succeed. -/
def acceptedCalls (caps : Caps ι) : List (WalkStep ι τ) → Ledger ι τ → List (BudgetCall ι τ)
  | [], _ => []
  | .pop :: steps, l => acceptedCalls caps steps l.pop
  | .call memory label c :: steps, l =>
    match c.act caps memory label l with
    | (.ok (), l) => c :: acceptedCalls caps steps l
    | (.error _, l) => acceptedCalls caps steps l

/-- What the calls counted is in the counters, and within the limits. -/
structure Balanced (caps : Caps ι) (calls : List (BudgetCall ι τ)) (l : Ledger ι τ) : Prop where
  discovered : l.discovered = (calls.map BudgetCall.nodes).sum
  pathBytes : l.pathBytes = (calls.map BudgetCall.pathBytes).sum
  payloadBytes : l.payloadBytes = (calls.map BudgetCall.payloadBytes).sum
  withinNodes : l.discovered ≤ caps.nodes
  withinPathBytes : l.pathBytes ≤ caps.pathBytes
  withinPayloadBytes : l.payloadBytes ≤ caps.payloadBytes
  withinPending : (l.lists .pending).length ≤ caps.nodes
  withinItems : ∀ i, (l.lists (.items i)).length ≤ caps.items i
  withinEntries : l.entries.length ≤ caps.entries

omit [DecidableEq ι] in
theorem balanced_empty (caps : Caps ι) : Balanced caps [] (Ledger.empty : Ledger ι τ) where
  discovered := rfl
  pathBytes := rfl
  payloadBytes := rfl
  withinNodes := Nat.zero_le _
  withinPathBytes := Nat.zero_le _
  withinPayloadBytes := Nat.zero_le _
  withinPending := Nat.zero_le _
  withinItems _ := Nat.zero_le _
  withinEntries := Nat.zero_le _

variable {calls : List (BudgetCall ι τ)}

theorem Balanced.pop (h : Balanced caps calls l) : Balanced caps calls l.pop where
  __ := h
  withinPending := by
    show (Function.update l.lists .pending (l.lists .pending).tail .pending).length ≤ caps.nodes
    rw [Function.update_self, List.length_tail]
    exact Nat.le_trans (Nat.sub_le _ _) h.withinPending
  withinItems i := by
    show (Function.update l.lists .pending (l.lists .pending).tail (.items i)).length ≤ caps.items i
    rw [Function.update_of_ne (by simp)]
    exact h.withinItems i

/-- The limits still hold of the lists after a push. -/
theorem length_push (slot slot' : Slot ι) (item : τ) (l : Ledger ι τ) {limit : Nat}
    (h : (l.lists slot').length ≤ limit) (hslot : slot = slot' → (l.lists slot).length + 1 ≤ limit) :
    ((l.push slot item).lists slot').length ≤ limit := by
  show (Function.update l.lists slot (item :: l.lists slot) slot').length ≤ limit
  by_cases heq : slot' = slot
  · subst heq
    rw [Function.update_self, List.length_cons]
    exact hslot rfl
  · rw [Function.update_of_ne heq]
    exact h

/-- A call that fits is counted. -/
theorem Balanced.after (h : Balanced caps calls l) {c : BudgetCall ι τ} (hfits : c.Fits caps memory l) :
    Balanced caps (calls ++ [c]) (c.after l) := by
  have hsum (f : BudgetCall ι τ → Nat) : ((calls ++ [c]).map f).sum = (calls.map f).sum + f c := by
    rw [List.map_append, List.sum_append, List.map_singleton, List.sum_singleton]
  have hnodes := hsum BudgetCall.nodes
  have hpath := hsum BudgetCall.pathBytes
  have hpayload := hsum BudgetCall.payloadBytes
  rw [← h.discovered] at hnodes
  rw [← h.pathBytes] at hpath
  rw [← h.payloadBytes] at hpayload
  cases c with
  | enqueue node units =>
    obtain ⟨hroom, hbytes, hlength, -⟩ := hfits
    exact {
      discovered := hnodes.symm
      pathBytes := hpath.symm
      payloadBytes := hpayload.symm
      withinNodes := hroom
      withinPathBytes := hbytes
      withinPayloadBytes := h.withinPayloadBytes
      withinPending := length_push .pending .pending node l h.withinPending fun _ => hlength
      withinItems := fun i => length_push .pending (.items i) node l (h.withinItems i) fun heq => by cases heq
      withinEntries := h.withinEntries }
  | pushPath i item units =>
    obtain ⟨hbytes, hlength, -⟩ := hfits
    exact {
      discovered := hnodes.symm
      pathBytes := hpath.symm
      payloadBytes := hpayload.symm
      withinNodes := h.withinNodes
      withinPathBytes := hbytes
      withinPayloadBytes := h.withinPayloadBytes
      withinPending := length_push (.items i) .pending item l h.withinPending fun heq => by cases heq
      withinItems := fun j => length_push (.items i) (.items j) item l (h.withinItems j) fun heq => by
        cases heq
        exact hlength
      withinEntries := h.withinEntries }
  | pushEntry entry units sddlBytes =>
    obtain ⟨hbytes, hlength, -⟩ := hfits
    exact {
      discovered := hnodes.symm
      pathBytes := hpath.symm
      payloadBytes := hpayload.symm
      withinNodes := h.withinNodes
      withinPathBytes := h.withinPathBytes
      withinPayloadBytes := hbytes
      withinPending := h.withinPending
      withinItems := h.withinItems
      withinEntries := hlength }
  | record =>
    exact {
      discovered := hnodes.symm
      pathBytes := hpath.symm
      payloadBytes := hpayload.symm
      withinNodes := hfits
      withinPathBytes := h.withinPathBytes
      withinPayloadBytes := h.withinPayloadBytes
      withinPending := h.withinPending
      withinItems := h.withinItems
      withinEntries := h.withinEntries }

/-- What a step accepts is counted, and it keeps the limits. -/
theorem Balanced.run (h : Balanced caps calls l) (steps : List (WalkStep ι τ)) :
    Balanced caps (calls ++ acceptedCalls caps steps l) (Faults.run (WalkStep.run caps) steps l) := by
  induction steps generalizing calls l with
  | nil =>
    rewrite [acceptedCalls, List.append_nil]
    exact h
  | cons step steps ih =>
    cases step with
    | pop => exact ih h.pop
    | call memory label c =>
      have hatomic : Act.Atomic (c.act caps memory label) (c.Fits caps memory l) (c.after l) l := c.atomic
      have hrun : Faults.run (WalkStep.run caps) (.call memory label c :: steps) l =
          Faults.run (WalkStep.run caps) steps (c.act caps memory label l).2 := rfl
      rw [hrun]
      by_cases hfits : c.Fits caps memory l
      · have hnext := ih (h.after hfits)
        rw [List.append_assoc, List.singleton_append] at hnext
        rw [acceptedCalls, hatomic.accepted hfits]
        exact hnext
      · obtain ⟨e, he⟩ := hatomic.rejected hfits
        rw [acceptedCalls, he]
        exact ih h

/-- Whatever it meets, a walk accounts for no more than 48 MiB. -/
theorem walk_bytes_le (steps : List (WalkStep PathList τ)) :
    (Faults.run (WalkStep.run walkCaps) steps .empty).pathBytes +
      (Faults.run (WalkStep.run walkCaps) steps .empty).payloadBytes ≤ 48 * 1024 * 1024 := by
  have hbalanced := (balanced_empty walkCaps).run steps
  calc _ ≤ walkCaps.pathBytes + walkCaps.payloadBytes :=
        Nat.add_le_add hbalanced.withinPathBytes hbalanced.withinPayloadBytes
    _ = 48 * 1024 * 1024 := by decide

/-- After any calls, each counter is the sum of what the calls that succeeded count, no more than its limit and so no
more than a `usize` holds, as is what each of them counts. A call succeeds when there is room, and then does all that it
does; else it fails, and changes neither a list nor a counter. -/
theorem bounded_accounting (caps : Caps ι) (steps : List (WalkStep ι τ)) :
    Balanced caps (acceptedCalls caps steps .empty) (Faults.run (WalkStep.run caps) steps .empty) ∧
    (∀ c ∈ acceptedCalls caps steps (.empty : Ledger ι τ), c.pathBytes < usizeLimit ∧ c.payloadBytes < usizeLimit) ∧
    ∀ (before after : List (WalkStep ι τ)) (memory : Bool) (label : String) (c : BudgetCall ι τ),
      steps = before ++ .call memory label c :: after →
        let l := Faults.run (WalkStep.run caps) before .empty
        (c.Fits caps memory l ∧ c.act caps memory label l = (.ok (), c.after l)) ∨
          (¬ c.Fits caps memory l ∧ ∃ e, c.act caps memory label l = (.error e, l)) := by
  have hbalanced := (balanced_empty caps).run steps
  rw [List.nil_append] at hbalanced
  refine ⟨hbalanced, fun c hc => ⟨?_, ?_⟩, ?_⟩
  · calc c.pathBytes ≤ ((acceptedCalls caps steps .empty).map BudgetCall.pathBytes).sum :=
          List.le_sum_of_mem (List.mem_map_of_mem hc)
      _ ≤ caps.pathBytes := hbalanced.pathBytes ▸ hbalanced.withinPathBytes
      _ < usizeLimit := caps.pathBytes_lt
  · calc c.payloadBytes ≤ ((acceptedCalls caps steps .empty).map BudgetCall.payloadBytes).sum :=
          List.le_sum_of_mem (List.mem_map_of_mem hc)
      _ ≤ caps.payloadBytes := hbalanced.payloadBytes ▸ hbalanced.withinPayloadBytes
      _ < usizeLimit := caps.payloadBytes_lt
  · intro before after memory label c _
    have hatomic : Act.Atomic (c.act caps memory label)
        (c.Fits caps memory (Faults.run (WalkStep.run caps) before .empty))
        (c.after (Faults.run (WalkStep.run caps) before .empty)) (Faults.run (WalkStep.run caps) before .empty) :=
          c.atomic
    by_cases hfits : c.Fits caps memory (Faults.run (WalkStep.run caps) before .empty)
    · exact Or.inl ⟨hfits, hatomic.accepted hfits⟩
    · exact Or.inr ⟨hfits, hatomic.rejected hfits⟩

/-! ## The calls of the budgets -/

namespace Ledger

/-- Where there is memory, a push is that of the budgets. -/
theorem tryPushBoundedPath_eq (slot : Slot ι) (item : τ) (units entryLimit byteLimit : Nat) (label : String)
    (l : Ledger ι τ) : tryPushBoundedPath true slot item units entryLimit byteLimit label l =
      match Maintenance.tryPushBoundedPath (l.lists slot) item units l.pathBytes entryLimit byteLimit label with
      | .ok (items, bytes) => (.ok (), { l with lists := Function.update l.lists slot items, pathBytes := bytes })
      | .error e => (.error e, l) := by
  simp only [tryPushBoundedPath, Maintenance.tryPushBoundedPath, tryReserveBounded, bind, Act.bind, Act.gets,
    Act.ofExcept, Act.ensure, Act.modify, Except.bind]
  cases checkedPathPayload l.pathBytes units byteLimit label with
  | error e => rfl
  | ok bytes =>
    dsimp only
    cases Maintenance.tryReserveBounded (l.lists slot).length 1 entryLimit label with
    | error e => rfl
    | ok u => rfl

omit [DecidableEq ι] in
theorem tryPushBoundedAclSnapshotEntry_eq (entry : τ) (units sddlBytes entryLimit byteLimit : Nat) (label : String)
    (l : Ledger ι τ) : tryPushBoundedAclSnapshotEntry true entry units sddlBytes entryLimit byteLimit label l =
      match Maintenance.tryPushBoundedAclSnapshotEntry l.entries entry units sddlBytes l.payloadBytes entryLimit
        byteLimit label with
      | .ok (entries, bytes) => (.ok (), { l with entries := entries, payloadBytes := bytes })
      | .error e => (.error e, l) := by
  simp only [tryPushBoundedAclSnapshotEntry, Maintenance.tryPushBoundedAclSnapshotEntry, tryReserveBounded, bind,
    Act.bind, Act.gets, Act.ofExcept, Act.ensure, Act.modify, Except.bind]
  cases checkedAclSnapshotEntryPayload l.payloadBytes units sddlBytes byteLimit with
  | error e => rfl
  | ok bytes =>
    dsimp only
    cases Maintenance.tryReserveBounded l.entries.length 1 entryLimit label with
    | error e => rfl
    | ok u => rfl

omit [DecidableEq ι] in
theorem recordBoundedTreeNode_eq {hardLimit : Nat} (hlimit : hardLimit < usizeLimit) (label : String) (l : Ledger ι τ) :
    recordBoundedTreeNode hardLimit label l =
      match Maintenance.recordBoundedTreeNode l.discovered hardLimit label with
      | .ok discovered => (.ok (), { l with discovered := discovered })
      | .error e => (.error e, l) := by
  have hatomic : Act.Atomic (recordBoundedTreeNode hardLimit label) (l.discovered < hardLimit)
      { l with discovered := l.discovered + 1 } l := recordBoundedTreeNode_atomic hlimit
  simp only [Maintenance.recordBoundedTreeNode, bind, Except.bind, check]
  by_cases hroom : l.discovered < hardLimit
  · rw [hatomic.accepted hroom, if_pos hroom]
    rfl
  · rw [if_neg hroom]
    show Act.bind (ensureUndiscovered hardLimit label) _ l = _
    simp only [Act.bind, ensureUndiscovered, Act.ensure, hroom, decide_false]
    rfl

/-- The stack of a walk, with both of its counters. -/
theorem enqueueBoundedTreePath_eq (node : τ) (units : Nat) {hardLimit : Nat} (byteLimit : Nat)
    (hlimit : hardLimit < usizeLimit) (label : String) (l : Ledger ι τ) :
    enqueueBoundedTreePath true node units hardLimit byteLimit label l =
      match Maintenance.enqueueBoundedTreePath
        (l.lists .pending) l.discovered node units l.pathBytes hardLimit byteLimit
        label with
      | .ok (pending, discovered, bytes) => (.ok (), { l with
          lists := Function.update l.lists .pending pending
          discovered := discovered
          pathBytes := bytes })
      | .error e => (.error e, l) := by
  simp only [Maintenance.enqueueBoundedTreePath, bind, Except.bind, check]
  by_cases hroom : l.discovered < hardLimit
  · have hensure : ensureUndiscovered hardLimit label l = (.ok (), l) :=
      (ensureUndiscovered_atomic hardLimit).accepted hroom
    have hpush := tryPushBoundedPath_eq .pending node units hardLimit byteLimit label l
    rw [if_pos hroom]
    unfold enqueueBoundedTreePath
    rw [Act.bind_of_ok hensure]
    cases hresult : Maintenance.tryPushBoundedPath
      (l.lists .pending) node units l.pathBytes hardLimit byteLimit label with
    | error e =>
      rw [hresult] at hpush
      exact Act.bind_of_error hpush
    | ok pushed =>
      rw [hresult] at hpush
      refine (Act.bind_of_ok hpush).trans (congrArg (Prod.mk _) ?_)
      exact discover_eq hlimit hroom
  · rw [if_neg hroom]
    show Act.bind (ensureUndiscovered hardLimit label) _ l = _
    simp only [Act.bind, ensureUndiscovered, Act.ensure, hroom, decide_false]
    rfl

end Ledger

end

end

end Maintenance

end Xsoc
