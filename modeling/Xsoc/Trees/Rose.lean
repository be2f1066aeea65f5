import Mathlib.Algebra.Order.Ring.Nat
import Mathlib.Algebra.BigOperators.Group.List.Basic
import Mathlib.Data.List.Nodup

/-!
# Trees with named children

A node has a label and children, each under its name; a node is found by the names on the way to it.

* `find?` : the node at a path;
* `Distinct` : no two children of a node have the same name;
* `nodes` : all nodes with their paths, the children of a node before it (`pairwise_nodes`);
* `forestSum`, `belowSum` : what trees cost together, and what is below a node.
-/

set_option autoImplicit false

namespace Trees

universe u v

inductive Rose (ν : Type u) (μ : Type v)
  | node (label : μ) (children : List (ν × Rose ν μ))

namespace Rose

variable {ν : Type u} {μ : Type v}

def label : Rose ν μ → μ
  | node label _ => label

def children : Rose ν μ → List (ν × Rose ν μ)
  | node _ children => children

@[simp] theorem label_node (label : μ) (children : List (ν × Rose ν μ)) : (node label children).label = label := rfl

@[simp] theorem children_node (label : μ) (children : List (ν × Rose ν μ)) :
    (node label children).children = children := rfl

/-- A statement holds of all trees if it holds of each whose children it holds of. -/
theorem induct {motive : Rose ν μ → Prop} (step : ∀ t : Rose ν μ, (∀ c ∈ t.children, motive c.2) → motive t)
    (t : Rose ν μ) : motive t :=
  Rose.rec (motive_1 := motive) (motive_2 := fun children => ∀ c ∈ children, motive c.2)
    (motive_3 := fun c => motive c.2)
    (fun label children h => step (node label children) h) (fun _ hc => absurd hc List.not_mem_nil)
    (fun _ _ hc hchildren => List.forall_mem_cons.mpr ⟨hc, hchildren⟩) (fun _ _ h => h) t

/-! ## Finding a node -/

section

variable [DecidableEq ν]

/-- The node at a path. -/
def find? : Rose ν μ → List ν → Option (Rose ν μ)
  | t, [] => some t
  | t, name :: path => (t.children.find? fun c => c.1 = name).bind fun c => find? c.2 path

@[simp] theorem find?_nil (t : Rose ν μ) : t.find? [] = some t := by rw [find?]

theorem find?_cons (t : Rose ν μ) (name : ν) (path : List ν) :
    t.find? (name :: path) = (t.children.find? fun c => c.1 = name).bind fun c => c.2.find? path := by rw [find?]

theorem find?_append (t : Rose ν μ) (path path' : List ν) :
    t.find? (path ++ path') = (t.find? path).bind fun s => s.find? path' := by
  induction path generalizing t with
  | nil => simp
  | cons name path ih =>
    rw [List.cons_append, find?_cons, find?_cons, Option.bind_assoc]
    exact congrArg _ (funext fun c => ih c.2)

/-- Children have names of their own, all the way down. -/
inductive Distinct : Rose ν μ → Prop
  | node {label : μ} {children : List (ν × Rose ν μ)} (names : (children.map Prod.fst).Nodup)
      (below : ∀ c ∈ children, Distinct c.2) : Distinct (node label children)

namespace Distinct

omit [DecidableEq ν] in
theorem nodup {t : Rose ν μ} (h : t.Distinct) : (t.children.map Prod.fst).Nodup := by
  cases h with
  | node names below => exact names

omit [DecidableEq ν] in
theorem child {t : Rose ν μ} (h : t.Distinct) {c : ν × Rose ν μ} (hc : c ∈ t.children) : c.2.Distinct := by
  cases h with
  | node names below => exact below c hc

theorem find?_child {t : Rose ν μ} (h : t.Distinct) {c : ν × Rose ν μ} (hc : c ∈ t.children) (path : List ν) :
    t.find? (c.1 :: path) = c.2.find? path := by
  have hfound : t.children.find? (fun d => d.1 = c.1) = some c := by
    have hnames := h.nodup
    generalize t.children = children at hc hnames
    induction children with
    | nil => cases hc
    | cons d children ih =>
      rw [List.map_cons, List.nodup_cons] at hnames
      rcases List.mem_cons.mp hc with rfl | hc
      · rw [List.find?_cons_of_pos (by simp)]
      · have hne : d.1 ≠ c.1 := fun heq => hnames.1 (heq ▸ List.mem_map_of_mem hc)
        rw [List.find?_cons_of_neg (by simpa using hne)]
        exact ih hc hnames.2
  rw [find?_cons, hfound]
  rfl

/-- What is found is of the same kind. -/
theorem of_find? {t : Rose ν μ} (h : t.Distinct) {path : List ν} {s : Rose ν μ} (hs : t.find? path = some s) :
    s.Distinct := by
  induction path generalizing t with
  | nil =>
    rw [find?_nil] at hs
    exact Option.some.inj hs ▸ h
  | cons name path ih =>
    rw [find?_cons, Option.bind_eq_some_iff] at hs
    obtain ⟨c, hc, hs⟩ := hs
    exact ih (h.child (List.mem_of_find?_eq_some hc)) hs

end Distinct

end

/-! ## All nodes -/

mutual

/-- The nodes of a tree with their paths; the children of a node come before it. -/
def nodes : Rose ν μ → List (List ν × Rose ν μ)
  | node label children => nodesAll children ++ [([], node label children)]

/-- The nodes of trees with names, with their paths. -/
def nodesAll : List (ν × Rose ν μ) → List (List ν × Rose ν μ)
  | [] => []
  | (name, t) :: rest => (nodes t).map (fun e => (name :: e.1, e.2)) ++ nodesAll rest

end

theorem nodes_eq (t : Rose ν μ) : t.nodes = nodesAll t.children ++ [([], t)] := by
  cases t
  rw [nodes, children]

@[simp] theorem nodesAll_nil : nodesAll ([] : List (ν × Rose ν μ)) = [] := by rw [nodesAll]

theorem nodesAll_cons (c : ν × Rose ν μ) (rest : List (ν × Rose ν μ)) :
    nodesAll (c :: rest) = c.2.nodes.map (fun e => (c.1 :: e.1, e.2)) ++ nodesAll rest := by
  obtain ⟨name, t⟩ := c
  rw [nodesAll]

theorem mem_nodesAll {children : List (ν × Rose ν μ)} {e : List ν × Rose ν μ} :
    e ∈ nodesAll children ↔ ∃ c ∈ children, ∃ path, (path, e.2) ∈ c.2.nodes ∧ e.1 = c.1 :: path := by
  induction children with
  | nil => simp
  | cons c rest ih =>
    rw [nodesAll_cons, List.mem_append, ih, List.exists_mem_cons_iff, List.mem_map]
    refine or_congr_left ⟨?_, ?_⟩
    · rintro ⟨⟨path, s⟩, hs, rfl⟩
      exact ⟨path, hs, rfl⟩
    · rintro ⟨path, hs, hpath⟩
      exact ⟨(path, e.2), hs, Prod.ext hpath.symm rfl⟩

theorem self_mem_nodes (t : Rose ν μ) : ([], t) ∈ t.nodes := by
  rw [nodes_eq]
  exact List.mem_append_right _ List.mem_cons_self

/-- The nodes are what can be found. -/
theorem mem_nodes [DecidableEq ν] {t : Rose ν μ} (h : t.Distinct) {path : List ν} {s : Rose ν μ} :
    (path, s) ∈ t.nodes ↔ t.find? path = some s := by
  induction path generalizing t with
  | nil =>
    rw [find?_nil, nodes_eq, List.mem_append, mem_nodesAll, List.mem_singleton, Prod.mk.injEq, Option.some.injEq]
    constructor
    · rintro (⟨c, -, path, -, hpath⟩ | ⟨-, rfl⟩)
      · cases hpath
      · rfl
    · rintro rfl
      exact Or.inr ⟨rfl, rfl⟩
  | cons name path ih =>
    rw [nodes_eq, List.mem_append, mem_nodesAll, List.mem_singleton, Prod.mk.injEq, find?_cons, Option.bind_eq_some_iff]
    constructor
    · rintro (⟨c, hc, path', hs, hpath⟩ | ⟨hnil, -⟩)
      · obtain ⟨rfl, rfl⟩ := List.cons.inj hpath
        rw [← Option.bind_eq_some_iff, ← find?_cons, h.find?_child hc]
        exact (ih (h.child hc)).mp hs
      · cases hnil
    · rintro ⟨c, hfound, hs⟩
      have hc := List.mem_of_find?_eq_some hfound
      have hname : c.1 = name := by simpa using List.find?_some hfound
      exact Or.inl ⟨c, hc, path, (ih (h.child hc)).mpr hs, by rw [hname]⟩

theorem pairwise_nodesAll {children : List (ν × Rose ν μ)} (hnames : (children.map Prod.fst).Nodup)
    (h : ∀ c ∈ children, (c.2.nodes.map Prod.fst).Pairwise fun p q => ¬ p <+: q) :
    ((nodesAll children).map Prod.fst).Pairwise fun p q => ¬ p <+: q := by
  induction children with
  | nil => simp
  | cons c rest ih =>
    rw [List.map_cons, List.nodup_cons] at hnames
    obtain ⟨hc, hrest⟩ := List.forall_mem_cons.mp h
    rw [nodesAll_cons, List.map_append, List.map_map, List.pairwise_append]
    refine ⟨?_, ih hnames.2 hrest, ?_⟩
    · rw [List.pairwise_map] at hc ⊢
      exact hc.imp fun hpq hinitial => hpq ((List.prefix_cons_inj c.1).mp hinitial)
    · -- paths of two children start with different names
      intro p hp q hq hinitial
      obtain ⟨e, -, rfl⟩ := List.mem_map.mp hp
      obtain ⟨f, hf, rfl⟩ := List.mem_map.mp hq
      obtain ⟨d, hd, path, -, hpath⟩ := mem_nodesAll.mp hf
      rw [hpath] at hinitial
      have hname : c.1 = d.1 := (List.cons_prefix_cons.mp hinitial).1
      exact hnames.1 (hname ▸ List.mem_map_of_mem hd)

/-- No node is below one that comes before it. -/
theorem pairwise_nodes {t : Rose ν μ} (h : t.Distinct) : (t.nodes.map Prod.fst).Pairwise fun p q => ¬ p <+: q := by
  induction t using induct with
  | step t ih =>
    rw [nodes_eq, List.map_append, List.pairwise_append]
    refine ⟨pairwise_nodesAll h.nodup fun c hc => ih c hc (h.child hc), List.pairwise_singleton _ _, ?_⟩
    intro p hp q hq hinitial
    obtain ⟨e, he, rfl⟩ := List.mem_map.mp hp
    obtain ⟨c, -, path, -, hpath⟩ := mem_nodesAll.mp he
    obtain rfl := List.mem_singleton.mp hq
    rw [hpath] at hinitial
    cases List.prefix_nil.mp hinitial

/-! ## Sums -/

/-- What trees cost together, when the directory that they are in is at a path. -/
def forestSum (cost : List ν → Rose ν μ → Nat) (path : List ν) (children : List (ν × Rose ν μ)) : Nat :=
  ((nodesAll children).map fun e => cost (path ++ e.1) e.2).sum

/-- What the nodes below a node cost. -/
def belowSum (cost : List ν → Rose ν μ → Nat) (path : List ν) (t : Rose ν μ) : Nat := forestSum cost path t.children

@[simp] theorem forestSum_nil (cost : List ν → Rose ν μ → Nat) (path : List ν) : forestSum cost path [] = 0 := by
  rw [forestSum, nodesAll_nil]
  rfl

/-- Each tree costs what is below it, and its own cost. -/
theorem forestSum_cons (cost : List ν → Rose ν μ → Nat) (path : List ν) (c : ν × Rose ν μ)
    (rest : List (ν × Rose ν μ)) : forestSum cost path (c :: rest) =
      belowSum cost (path ++ [c.1]) c.2 + cost (path ++ [c.1]) c.2 + forestSum cost path rest := by
  have hself : (c.2.nodes.map fun e => cost (path ++ c.1 :: e.1) e.2).sum =
      belowSum cost (path ++ [c.1]) c.2 + cost (path ++ [c.1]) c.2 := by
    rw [nodes_eq, List.map_append, List.sum_append, belowSum, forestSum]
    simp
  rw [forestSum, nodesAll_cons, List.map_append, List.sum_append, List.map_map, ← hself]
  rfl

/-- The children and what is below them. -/
theorem belowSum_eq (cost : List ν → Rose ν μ → Nat) (path : List ν) (t : Rose ν μ) :
    belowSum cost path t = (t.children.map fun c => belowSum cost (path ++ [c.1]) c.2).sum +
      (t.children.map fun c => cost (path ++ [c.1]) c.2).sum := by
  rw [belowSum]
  induction t.children with
  | nil => simp
  | cons c rest ih =>
    rw [forestSum_cons, ih, List.map_cons, List.map_cons, List.sum_cons, List.sum_cons]
    omega

end Rose

end Trees
