import Xsoc.Collectors.WindowsInventory

/-!
# The walk through the report of macOS

The report has a list of items for each category, and an item can have items of its own. They are walked through, and
each that is met gets an identifier: that of the item it belongs to, its place there, and its name, as it is.

* `walk` : the walk; `walkItems` : its loop;
* `reportNodes` : what `parse_macos` walks through, category by category;
* `Item` : the items of a list, with the places they are at;
* `Walked` : what the walk through a list finds; `walked` : that it does;
* `macos_nodes_distinct` : no two nodes of a report have one identifier, and only the digest could give them one.
-/

set_option autoImplicit false

namespace Xsoc

namespace NativeInventory

namespace Macos

/-- An item with its identifier. -/
abbrev ReportNode := String × Value

def maxWalkDepth : Nat := 12

def maxWalkNodes : Nat := 2048

def maxWalkItems : Nat := 256

section

variable (limits : Limits)

def itemId (path : String) (i : Nat) (item : Value) : String :=
  let name := (text limits item ["_name"]).getD ""
  s!"{path}/{i}:{name}"

def childrenOf (item : Value) : Option (List Value) := (item.get "_items").bind Value.asArray

/-- The loop of `walk` from the `i`-th item on, where `inner` walks through the items of an item. -/
def walkItems (inner : List Value → String → List ReportNode → List ReportNode) (path : String) (i : Nat) :
    List Value → List ReportNode → List ReportNode
  | [], result => result
  | item :: items, result =>
    if maxWalkNodes ≤ result.length then result
    else
      let id := itemId limits path i item
      let result := result ++ [(id, item)]
      let result := match childrenOf item with
        | some children => inner children id result
        | none => result
      walkItems inner path (i + 1) items result

def walk (items : List Value) (depth : Nat) (path : String) (result : List ReportNode) : List ReportNode :=
  if h : maxWalkDepth < depth ∨ maxWalkNodes ≤ result.length then result
  else
    walkItems limits (fun children id result => walk children (depth + 1) id result) path 0
      (items.take maxWalkItems) result
termination_by maxWalkDepth + 1 - depth
decreasing_by omega

/-- Where both trees are reported, the one that is populated is read. -/
def usbCategory (report : Value) : String :=
  if ((report.get "SPUSBHostDataType").bind Value.asArray).any fun items => !items.isEmpty then "SPUSBHostDataType"
  else "SPUSBDataType"

def categories (report : Value) : List String :=
  ["SPMemoryDataType", "SPThunderboltDataType", "SPDisplaysDataType", "SPBluetoothDataType", usbCategory report,
    "SPAudioDataType"]

/-- The nodes of a category. -/
def categoryNodes (report : Value) (category : String) : List ReportNode :=
  match (report.get category).bind Value.asArray with
  | some items => walk limits items 0 category []
  | none => []

def reportNodes (report : Value) : List ReportNode := (categories report).flatMap (categoryNodes limits report)

/-! ## Items -/

/-- The items of a list at `path`, each with its place, which is the indices on the way to it, and its identifier. -/
inductive Item (path : String) (items : List Value) : List Nat → String → Value → Prop
  | listed {i : Nat} {item : Value} (h : items[i]? = some item) : Item path items [i] (itemId limits path i item) item
  | nested {place : List Nat} {id : String} {parent : Value} {children : List Value} {i : Nat} {item : Value}
      (hparent : Item path items place id parent) (hchildren : childrenOf parent = some children)
      (h : children[i]? = some item) : Item path items (place ++ [i]) (itemId limits id i item) item

/-- A node is of the list itself, or of an item that was found before. -/
def Descends (path : String) (items : List Value) (before : List ReportNode) (node : ReportNode) : Prop :=
  (∃ i, items[i]? = some node.2 ∧ node.1 = itemId limits path i node.2) ∨
    ∃ parent ∈ before, ∃ children i, childrenOf parent.2 = some children ∧ children[i]? = some node.2 ∧
      node.1 = itemId limits parent.1 i node.2

/-- Each node descends from those that were found before it. -/
def Traced (path : String) (items : List Value) (before : List ReportNode) : List ReportNode → Prop
  | [] => True
  | node :: nodes => Descends limits path items before node ∧ Traced path items (before ++ [node]) nodes

/-- The identifier of the item at a place under `path`, or of one below it. -/
def Under (path : String) (i : Nat) (id : String) : Prop :=
    path.toList ++ '/' :: (Nat.toDigits 10 i ++ [':']) <+: id.toList

/-- What the walk through a list finds after `found`, from the index `start` on and so many levels down. -/
structure Walked (path : String) (items : List Value) (start levels : Nat) (found nodes : List ReportNode) : Prop where
  within : found.length ≤ maxWalkNodes → (found ++ nodes).length ≤ maxWalkNodes
  distinct : (nodes.map Prod.fst).Nodup
  under : ∀ node ∈ nodes, ∃ i, start ≤ i ∧ Under path i node.1
  traced : ∀ before, Traced limits path items before nodes
  placed : ∀ node ∈ nodes, ∃ place : List Nat, place.length ≤ levels ∧ Item limits path items place node.1 node.2

variable {limits}

/-! ## Identifiers -/

theorem toList_itemId (path : String) (i : Nat) (item : Value) : (itemId limits path i item).toList =
    path.toList ++ '/' :: (Nat.toDigits 10 i ++ [':'] ++ ((text limits item ["_name"]).getD "").toList) := by
  simp only [itemId, String.toList_append, toString, Nat.toList_repr, List.append_assoc]
  rfl

theorem under_itemId (path : String) (i : Nat) (item : Value) : Under path i (itemId limits path i item) := by
  refine ⟨((text limits item ["_name"]).getD "").toList, ?_⟩
  rw [toList_itemId, List.append_assoc, List.cons_append]

/-- What is below an item is under its place, and has a longer identifier. -/
theorem Under.itemId {path id : String} {i j : Nat} {item : Value} (h : Under (itemId limits path i item) j id) :
    Under path i id ∧ id ≠ Macos.itemId limits path i item := by
  have hinitial : (Macos.itemId limits path i item).toList <+: id.toList := (List.prefix_append _ _).trans h
  refine ⟨(under_itemId path i item).trans hinitial, ?_⟩
  rintro rfl
  have hlength := h.length_le
  rw [List.length_append, List.length_cons] at hlength
  omega

/-- A digit string ends at its colon. -/
theorem toDigits_injective {i j : Nat} {as bs : List Char}
    (h : Nat.toDigits 10 i ++ ':' :: as = Nat.toDigits 10 j ++ ':' :: bs) : i = j := by
  have hfree (n : Nat) : ∀ c ∈ Nat.toDigits 10 n, (c != ':') = true := by
    intro c hc
    have hdigit : c.isDigit = true := Nat.isDigit_of_mem_toDigits (by omega) (by omega) hc
    simp only [bne_iff_ne]
    rintro rfl
    cases hdigit
  have hcut (n : Nat) (cs : List Char) :
      (Nat.toDigits 10 n ++ ':' :: cs).takeWhile (· != ':') = Nat.toDigits 10 n := by
    rw [List.takeWhile_append_of_pos (hfree n), List.takeWhile_cons_of_neg (by simp), List.append_nil]
  have hdigits : Nat.toDigits 10 i = Nat.toDigits 10 j := by rw [← hcut i as, h, hcut j bs]
  rw [← Nat.ofDigitChars_ten_toDigits (n := i), hdigits, Nat.ofDigitChars_ten_toDigits]

/-- An identifier is under one place. -/
theorem Under.unique {path id : String} {i j : Nat} (hi : Under path i id) (hj : Under path j id) : i = j := by
  obtain ⟨as, has⟩ := hi
  obtain ⟨bs, hbs⟩ := hj
  have h := has.trans hbs.symm
  simp only [List.append_assoc, List.append_cancel_left_eq, List.cons_append, List.cons.injEq, true_and] at h
  exact toDigits_injective h

/-! ## The walk -/

section

variable {path : String} {items : List Value} {before found nodes nodes' : List ReportNode}

theorem Traced.append (h : Traced limits path items before nodes)
    (h' : Traced limits path items (before ++ nodes) nodes') : Traced limits path items before (nodes ++ nodes') := by
  induction nodes generalizing before with
  | nil => rwa [List.append_nil] at h'
  | cons node nodes ih =>
    obtain ⟨hnode, hrest⟩ := h
    exact ⟨hnode, ih hrest (by rwa [List.append_assoc, List.singleton_append])⟩

theorem Traced.descends {node : ReportNode} {after : List ReportNode}
    (h : Traced limits path items before (nodes ++ node :: after)) :
    Descends limits path items (before ++ nodes) node := by
  induction nodes generalizing before with
  | nil =>
    rw [List.append_nil]
    exact h.1
  | cons first nodes ih =>
    have hrest := ih h.2
    rwa [List.append_assoc, List.singleton_append] at hrest

variable {i levels : Nat} {item : Value}

/-- What descends from an item descends from the list that the item is of. -/
theorem Traced.lift {children : List Value} {id : String} (hchildren : childrenOf item = some children)
    (hmem : (id, item) ∈ before) (h : Traced limits id children before nodes) :
    Traced limits path items before nodes := by
  induction nodes generalizing before with
  | nil => trivial
  | cons node nodes ih =>
    obtain ⟨hnode, hrest⟩ := h
    refine ⟨Or.inr ?_, ih (List.mem_append_left _ hmem) hrest⟩
    rcases hnode with ⟨j, hj, hid⟩ | hparent
    · exact ⟨(id, item), hmem, children, j, hchildren, hj, hid⟩
    · exact hparent

theorem Item.lift {children : List Value} (hitem : items[i]? = some item) (hchildren : childrenOf item = some children)
    {place : List Nat} {id : String} {value : Value}
    (h : Item limits (itemId limits path i item) children place id value) :
    Item limits path items (i :: place) id value := by
  induction h with
  | listed hj => exact .nested (.listed hitem) hchildren hj
  | nested _ hinner hj ih => exact .nested ih hinner hj

/-- What is found below the `i`-th item of a list, which was found before. -/
structure Inside (limits : Limits) (path : String) (items : List Value) (i : Nat) (item : Value) (levels : Nat)
    (found nodes : List ReportNode) : Prop where
  within : found.length ≤ maxWalkNodes → (found ++ nodes).length ≤ maxWalkNodes
  distinct : (nodes.map Prod.fst).Nodup
  below : ∀ node ∈ nodes, Under path i node.1 ∧ node.1 ≠ itemId limits path i item
  traced : ∀ before, (itemId limits path i item, item) ∈ before → Traced limits path items before nodes
  placed : ∀ node ∈ nodes, ∃ place : List Nat, place.length ≤ levels + 1 ∧ Item limits path items place node.1 node.2

theorem Inside.nil : Inside limits path items i item levels found [] where
  within h := by rwa [List.append_nil]
  distinct := List.nodup_nil
  below _ h := absurd h List.not_mem_nil
  traced _ _ := trivial
  placed _ h := absurd h List.not_mem_nil

theorem Walked.inside {children : List Value} (hitem : items[i]? = some item)
    (hchildren : childrenOf item = some children)
    (h : Walked limits (itemId limits path i item) children 0 levels found nodes) :
    Inside limits path items i item levels found nodes where
  within := h.within
  distinct := h.distinct
  below node hnode := by
    obtain ⟨j, -, hunder⟩ := h.under node hnode
    exact hunder.itemId
  traced before hmem := (h.traced before).lift hchildren hmem
  placed node hnode := by
    obtain ⟨place, hplace, hat⟩ := h.placed node hnode
    exact ⟨i :: place, Nat.succ_le_succ hplace, hat.lift hitem hchildren⟩

theorem Walked.nil {start : Nat} : Walked limits path items start levels found [] where
  within h := by rwa [List.append_nil]
  distinct := List.nodup_nil
  under _ h := absurd h List.not_mem_nil
  traced _ := trivial
  placed _ h := absurd h List.not_mem_nil

/-- An item, what is below it, and what comes after it in the list. -/
theorem Walked.cons (hroom : found.length < maxWalkNodes) (hitem : items[i]? = some item)
    (hinside : Inside limits path items i item levels (found ++ [(itemId limits path i item, item)]) nodes)
    (hrest : Walked limits path items (i + 1) (levels + 1)
      (found ++ [(itemId limits path i item, item)] ++ nodes) nodes') :
    Walked limits path items i (levels + 1) found
      ((itemId limits path i item, item) :: (nodes ++ nodes')) where
  within _ := by
    have h := hrest.within (hinside.within (by rw [List.length_append, List.length_singleton]; exact hroom))
    rwa [List.append_assoc, List.append_assoc] at h
  distinct := by
    -- what comes later is under another place
    have hlater (node : ReportNode) (hnode : node ∈ nodes') : ¬ Under path i node.1 := by
      intro hunder
      obtain ⟨j, hj, hunder'⟩ := hrest.under node hnode
      have := hunder.unique hunder'
      omega
    rw [List.map_cons, List.map_append, List.nodup_cons, List.nodup_append]
    refine ⟨?_, hinside.distinct, hrest.distinct, ?_⟩
    · intro hmem
      rcases List.mem_append.mp hmem with hmem | hmem
      · obtain ⟨node, hnode, hid⟩ := List.mem_map.mp hmem
        exact (hinside.below node hnode).2 hid
      · obtain ⟨node, hnode, hid⟩ := List.mem_map.mp hmem
        exact hlater node hnode (hid ▸ under_itemId path i item)
    · intro id hid id' hid' heq
      obtain ⟨node, hnode, rfl⟩ := List.mem_map.mp hid
      obtain ⟨node', hnode', rfl⟩ := List.mem_map.mp hid'
      exact hlater node' hnode' (heq ▸ (hinside.below node hnode).1)
  under node hnode := by
    rcases List.mem_cons.mp hnode with rfl | hnode
    · exact ⟨i, Nat.le_refl i, under_itemId path i item⟩
    · rcases List.mem_append.mp hnode with hnode | hnode
      · exact ⟨i, Nat.le_refl i, (hinside.below node hnode).1⟩
      · obtain ⟨j, hj, hunder⟩ := hrest.under node hnode
        exact ⟨j, Nat.le_of_succ_le hj, hunder⟩
  traced before := by
    refine ⟨Or.inl ⟨i, hitem, rfl⟩, (hinside.traced _ ?_).append (hrest.traced _)⟩
    exact List.mem_append_right _ (List.mem_singleton_self _)
  placed node hnode := by
    rcases List.mem_cons.mp hnode with rfl | hnode
    · exact ⟨[i], Nat.le_add_left 1 levels, .listed hitem⟩
    · rcases List.mem_append.mp hnode with hnode | hnode
      · exact hinside.placed node hnode
      · exact hrest.placed node hnode

theorem walkItems_walked {inner : List Value → String → List ReportNode → List ReportNode}
    (hinner : ∀ children id result, ∃ nodes, inner children id result = result ++ nodes ∧
      Walked limits id children 0 levels result nodes)
    (rest : List Value) (hlisted : ∀ j item, rest[j]? = some item → items[i + j]? = some item) :
    ∃ nodes, walkItems limits inner path i rest found = found ++ nodes ∧
      Walked limits path items i (levels + 1) found nodes := by
  induction rest generalizing i found with
  | nil => exact ⟨[], (List.append_nil _).symm, .nil⟩
  | cons item rest ih =>
    unfold walkItems
    by_cases hfull : maxWalkNodes ≤ found.length
    · rw [if_pos hfull]
      exact ⟨[], (List.append_nil _).symm, .nil⟩
    rw [if_neg hfull]
    have hitem : items[i]? = some item := hlisted 0 item rfl
    have hlater (j : Nat) (item' : Value) (hj : rest[j]? = some item') : items[i + 1 + j]? = some item' := by
      rw [Nat.add_assoc, Nat.add_comm 1 j]
      exact hlisted (j + 1) item' (by rwa [List.getElem?_cons_succ])
    have hnext (found' : List ReportNode) : ∃ nodes, walkItems limits inner path (i + 1) rest found' = found' ++ nodes ∧
        Walked limits path items (i + 1) (levels + 1) found' nodes := ih hlater
    cases hchildren : childrenOf item with
    | none =>
      obtain ⟨nodes', hrun, hrest⟩ := hnext (found ++ [(itemId limits path i item, item)])
      refine ⟨(itemId limits path i item, item) :: ([] ++ nodes'), ?_, .cons (by omega) hitem .nil ?_⟩
      · rw [List.nil_append, ← List.singleton_append, ← List.append_assoc]
        exact hrun
      · rwa [List.append_nil]
    | some children =>
      obtain ⟨nodes, hrun, hwalked⟩ := hinner children (itemId limits path i item)
        (found ++ [(itemId limits path i item, item)])
      obtain ⟨nodes', hrun', hrest⟩ := hnext (found ++ [(itemId limits path i item, item)] ++ nodes)
      refine ⟨(itemId limits path i item, item) :: (nodes ++ nodes'), ?_,
        .cons (by omega) hitem (hwalked.inside hitem hchildren) hrest⟩
      rw [← List.singleton_append, ← List.append_assoc, ← List.append_assoc, ← hrun', ← hrun]

theorem walked (items : List Value) (depth : Nat) (path : String) (found : List ReportNode) :
    ∃ nodes, walk limits items depth path found = found ++ nodes ∧
      Walked limits path items 0 (maxWalkDepth + 1 - depth) found nodes := by
  unfold walk
  by_cases hstop : maxWalkDepth < depth ∨ maxWalkNodes ≤ found.length
  · rw [dif_pos hstop]
    exact ⟨[], (List.append_nil _).symm, .nil⟩
  rw [dif_neg hstop]
  have hlevels : maxWalkDepth + 1 - depth = maxWalkDepth + 1 - (depth + 1) + 1 := by omega
  rw [hlevels]
  apply walkItems_walked
  · exact fun children id result => walked children (depth + 1) id result
  · intro j item hj
    rw [Nat.zero_add]
    rw [List.getElem?_take] at hj
    split at hj
    · exact hj
    · cases hj
termination_by maxWalkDepth + 1 - depth
decreasing_by omega

end

/-! ## The nodes of a report -/

/-- The nodes of a list of items: no identifier is there twice, and the parent of a node is there before it. -/
structure Identified (limits : Limits) (path : String) (items : List Value) (nodes : List ReportNode) : Prop where
  unique : (nodes.map Prod.fst).Nodup
  bounded : nodes.length ≤ maxWalkNodes
  /-- No item is deeper than the recursion may go. -/
  placed : ∀ node ∈ nodes, ∃ place : List Nat, place.length ≤ maxWalkDepth + 1 ∧
    Item limits path items place node.1 node.2
  parents : ∀ before node after, nodes = before ++ node :: after → Descends limits path items before node

theorem identified_walk (items : List Value) (path : String) :
    Identified limits path items (walk limits items 0 path []) ∧
      ∀ node ∈ walk limits items 0 path [], ∃ i, Under path i node.1 := by
  obtain ⟨nodes, hrun, h⟩ : ∃ nodes, walk limits items 0 path [] = [] ++ nodes ∧
      Walked limits path items 0 (maxWalkDepth + 1 - 0) [] nodes := walked items 0 path []
  rw [hrun, List.nil_append]
  refine ⟨⟨h.distinct, h.within (Nat.zero_le _), h.placed, ?_⟩, ?_⟩
  · rintro before node after rfl
    exact (h.traced []).descends
  · intro node hnode
    obtain ⟨i, -, hunder⟩ := h.under node hnode
    exact ⟨i, hunder⟩

theorem nodup_categories (report : Value) : (categories report).Nodup := by
  unfold categories usbCategory
  split <;> decide

/-- How the name of a category begins, and what it does not hold. -/
theorem category_spelt {report : Value} {category : String} (h : category ∈ categories report) :
    category.toList.head? = some 'S' ∧ '/' ∉ category.toList := by
  have hall : ∀ c ∈ ["SPMemoryDataType", "SPThunderboltDataType", "SPDisplaysDataType", "SPBluetoothDataType",
      "SPUSBHostDataType", "SPUSBDataType", "SPAudioDataType"], c.toList.head? = some 'S' ∧ '/' ∉ c.toList := by
    decide
  apply hall
  unfold categories usbCategory at h
  split at h <;> simp only [List.mem_cons, List.not_mem_nil, or_false] at h ⊢ <;> tauto

/-- An identifier is of one category. -/
theorem Under.category {path path' id : String} {i j : Nat} (h : Under path i id) (h' : Under path' j id)
    (hfree : '/' ∉ path.toList) (hfree' : '/' ∉ path'.toList) : path = path' := by
  have hcut {path : String} {i : Nat} (h : Under path i id) (hfree : '/' ∉ path.toList) :
      id.toList.takeWhile (· != '/') = path.toList := by
    obtain ⟨rest, hrest⟩ := h
    have hpath : ∀ c ∈ path.toList, (c != '/') = true := by
      intro c hc
      rw [bne_iff_ne]
      rintro rfl
      exact hfree hc
    rw [← hrest, List.append_assoc, List.takeWhile_append_of_pos hpath, List.cons_append,
      List.takeWhile_cons_of_neg (by simp), List.append_nil]
  exact String.toList_injective ((hcut h hfree).symm.trans (hcut h' hfree'))

theorem under_reportNodes {report : Value} {node : ReportNode} (h : node ∈ reportNodes limits report) :
    ∃ category ∈ categories report, ∃ i, Under category i node.1 := by
  obtain ⟨category, hcategory, hnode⟩ := List.mem_flatMap.mp h
  unfold categoryNodes at hnode
  split at hnode
  · next items hitems => exact ⟨category, hcategory, (identified_walk items category).2 node hnode⟩
  · cases hnode

theorem nodup_reportNodes (report : Value) : ((reportNodes limits report).map Prod.fst).Nodup := by
  rw [reportNodes, List.map_flatMap, List.nodup_flatMap]
  constructor
  · intro category _
    unfold categoryNodes
    split
    · next items hitems => exact (identified_walk items category).1.unique
    · exact List.nodup_nil
  · refine (nodup_categories report).imp_of_mem fun {c c'} hc hc' hne => ?_
    intro id hid hid'
    obtain ⟨node, hnode, rfl⟩ := List.mem_map.mp hid
    obtain ⟨node', hnode', heq⟩ := List.mem_map.mp hid'
    have hunder {c : String} {node : ReportNode} (h : node ∈ categoryNodes limits report c) :
        ∃ i, Under c i node.1 := by
      unfold categoryNodes at h
      split at h
      · next items hitems => exact (identified_walk items c).2 node h
      · cases h
    obtain ⟨i, hi⟩ := hunder hnode
    obtain ⟨j, hj⟩ := hunder hnode'
    exact hne (hi.category (heq ▸ hj) (category_spelt hc).2 (category_spelt hc').2)

theorem head_reportNodes {report : Value} {node : ReportNode} (h : node ∈ reportNodes limits report) :
    node.1.toList.head? = some 'S' := by
  obtain ⟨category, hcategory, i, rest, hrest⟩ := under_reportNodes h
  rw [← hrest, List.append_assoc, List.head?_append, (category_spelt hcategory).1]
  rfl

/-- The walk through any list of items gives each node an identifier of its own, whatever the names; so do the walks of
a report, and two of its nodes have one stable identifier only where the digest has one value for both. -/
theorem macos_nodes_distinct (limits : Limits) (sha256 : List UInt8 → List UInt8) :
    (∀ (items : List Value) (path : String), Identified limits path items (walk limits items 0 path [])) ∧
    ∀ report : Value, (reportNodes limits report).Pairwise fun node node' => node.1 ≠ node'.1 ∧
      (stableId limits sha256 node.1 = stableId limits sha256 node'.1 →
        sha256 (utf8 node.1.toList) = sha256 (utf8 node'.1.toList)) := by
  refine ⟨fun items path => (identified_walk items path).1, fun report => ?_⟩
  have hhead {node : ReportNode} (h : node ∈ reportNodes limits report) : node.1.toList.head? ≠ some 'i' := by
    rw [head_reportNodes h]
    decide
  have hunique : ((reportNodes limits report).map Prod.fst).Nodup := nodup_reportNodes report
  have hdistinct := List.pairwise_map.mp hunique
  refine hdistinct.imp_of_mem fun {node node'} hnode hnode' hne => ⟨hne, ?_⟩
  exact stableId_eq (hhead hnode) (hhead hnode') hne

end

end Macos

end NativeInventory

end Xsoc
