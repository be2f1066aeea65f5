import Xsoc.Maintenance.Disk

/-!
# Relative paths

The entries of a managed tree are written down with their paths from the root on, and found again by them.

* `relativePath`, `components` : the path of an entry as it is written, and what it is read as;
* `PermittedName` : the names that Windows lets an entry have;
* `components_relativePath`, `targetAt_relativePath` : what is read is the same entry, and its full path is the same;
* `pathUnits_le` : the full path is no longer than the root, a separator and the relative path.
-/

set_option autoImplicit false

namespace Xsoc

namespace Maintenance

/-- What is left of a path when the root is taken off it. -/
def relativePath (path : List Name) : List CodeUnit := [92].intercalate path

/-- `std::path::Component`; a prefix or a root counts as one. -/
inductive Component
  | rooted
  | curDir
  | parentDir
  | normal (name : Name)

def Component.isNormal : Component → Bool
  | normal _ => true
  | _ => false

def Component.name? : Component → Option Name
  | normal name => some name
  | _ => none

/-- What is between two separators. A dot is a component only where a path begins with it. -/
def component (first : Bool) (piece : Name) : Option Component :=
  if piece = [] then none
  else if piece = [46] then if first then some .curDir else none
  else if piece = [46, 46] then some .parentDir
  else some (.normal piece)

/-- A path that begins with a separator or with a drive is not relative. -/
def isRooted (path : List CodeUnit) : Bool := path.head?.any isSeparator || isDrive (path.take 2)

/-- `Path::components` -/
def components (path : List CodeUnit) : List Component :=
  let pieces := path.splitOnP isSeparator
  if isRooted path then .rooted :: pieces.filterMap (component false)
  else pieces.head?.toList.filterMap (component true) ++ pieces.tail.filterMap (component false)

/-- The path of an entry of the tree at `root` that has this relative path. -/
def targetAt (root relative : List CodeUnit) : List CodeUnit := if relative = [] then root else join root relative

/-- A name that Windows lets an entry have: no control characters, separators and colons in it. -/
structure PermittedName (name : Name) : Prop where
  nonempty : name ≠ []
  printable : ∀ c ∈ name, 32 ≤ c.val
  plain : ∀ c ∈ name, isSeparator c = false ∧ c ≠ 58
  notDot : name ≠ [46]
  notDots : name ≠ [46, 46]

/-! ## Reading a path -/

theorem relativePath_cons (name : Name) (rest : List Name) :
    relativePath (name :: rest) = name ++ rest.flatMap fun n => 92 :: n := by
  unfold relativePath
  induction rest generalizing name with
  | nil => simp
  | cons next rest ih => rw [List.intercalate_cons_cons, ih, List.flatMap_cons, List.append_assoc]; rfl

theorem PermittedName.piece {name : Name} (h : PermittedName name) (first : Bool) :
    component first name = some (.normal name) := by
  rw [component, if_neg h.nonempty, if_neg h.notDot, if_neg h.notDots]

theorem splitOnP_relativePath {name : Name} {rest : List Name} (h : ∀ n ∈ name :: rest, PermittedName n) :
    (relativePath (name :: rest)).splitOnP isSeparator = name :: rest := by
  induction rest generalizing name with
  | nil =>
    rw [relativePath_cons, List.flatMap_nil, List.append_nil]
    exact List.splitOnP_eq_singleton fun c hc => ((h name List.mem_cons_self).plain c hc).1
  | cons next rest ih =>
    have hsplit : relativePath (name :: next :: rest) = name ++ 92 :: relativePath (next :: rest) := by
      rw [relativePath_cons, relativePath_cons, List.flatMap_cons, List.cons_append]
    rw [hsplit, List.splitOnP_append_cons _ _ (by decide), ih fun n hn => h n (List.mem_cons_of_mem _ hn),
      List.splitOnP_eq_singleton fun c hc => ((h name List.mem_cons_self).plain c hc).1]
    rfl

theorem mem_relativePath {path : List Name} (h : ∀ n ∈ path, PermittedName n) :
    ∀ c ∈ relativePath path, c ≠ 58 := by
  intro c hc
  cases path with
  | nil => cases hc
  | cons name rest =>
    rw [relativePath_cons, List.mem_append, List.mem_flatMap] at hc
    rcases hc with hc | ⟨n, hn, hc⟩
    · exact ((h name List.mem_cons_self).plain c hc).2
    · rcases List.mem_cons.mp hc with rfl | hc
      · decide
      · exact ((h n (List.mem_cons_of_mem _ hn)).plain c hc).2

theorem isDrive_eq_false {path : List CodeUnit} (h : ∀ c ∈ path.getLast?, c ≠ 58) : isDrive path = false := by
  unfold isDrive
  split
  · next letter colon =>
    have hcolon : colon ≠ 58 := h colon rfl
    simp [hcolon]
  · rfl

theorem components_relativePath {path : List Name} (h : ∀ n ∈ path, PermittedName n) :
    components (relativePath path) = path.map .normal := by
  cases path with
  | nil => rfl
  | cons name rest =>
    have hname := h name List.mem_cons_self
    have hrooted : isRooted (relativePath (name :: rest)) = false := by
      rw [isRooted, isDrive_eq_false fun c hc =>
        mem_relativePath h c (List.mem_of_mem_take (List.mem_of_getLast? hc))]
      cases hfirst : name with
      | nil => exact absurd hfirst hname.nonempty
      | cons c cs =>
        rw [relativePath_cons]
        simp only [List.cons_append, List.head?_cons, Option.any_some, Bool.or_false]
        exact (hname.plain c (hfirst ▸ List.mem_cons_self)).1
    have hrest : rest.filterMap (component false) = rest.map .normal := by
      rw [← List.filterMap_eq_map]
      exact List.filterMap_congr fun n hn => (h n (List.mem_cons_of_mem _ hn)).piece false
    simp only [components, hrooted, Bool.false_eq_true, if_false, splitOnP_relativePath h, List.head?_cons,
      Option.toList_some, List.tail_cons, hrest, List.filterMap_cons, hname.piece true, List.filterMap_nil]
    rfl

theorem relativePath_injective {path path' : List Name} (h : ∀ n ∈ path, PermittedName n)
    (h' : ∀ n ∈ path', PermittedName n) (heq : relativePath path = relativePath path') : path = path' := by
  have hcomponents := congrArg (fun rel => (components rel).filterMap Component.name?) heq
  simpa [components_relativePath h, components_relativePath h', List.filterMap_map, Function.comp_def,
    Component.name?] using hcomponents

theorem join_append (root name rest : List CodeUnit) : join root (name ++ rest) = join root name ++ rest := by
  unfold join
  split
  · rfl
  · split <;> simp

/-- A path ends in a name: the next one is joined to it with a separator. -/
def EndsPlain (path : List CodeUnit) : Prop := ∃ c, path.getLast? = some c ∧ isSeparator c = false ∧ c ≠ 58

theorem endsPlain_join (path : List CodeUnit) {name : Name} (h : PermittedName name) :
    EndsPlain (join path name) := by
  obtain ⟨c, hc⟩ : ∃ c, name.getLast? = some c := Option.isSome_iff_exists.mp (List.getLast?_isSome.mpr h.nonempty)
  have hplain := h.plain c (List.mem_of_getLast? hc)
  refine ⟨c, ?_, hplain⟩
  unfold join
  split
  · exact hc
  · split
    · rw [List.getLast?_append, hc]
      rfl
    · rw [List.getLast?_append, List.getLast?_cons, hc]
      rfl

theorem pathAt_of_endsPlain {start : List CodeUnit} (hstart : EndsPlain start) {path : List Name}
    (h : ∀ n ∈ path, PermittedName n) : pathAt start path = start ++ path.flatMap fun n => 92 :: n := by
  induction path generalizing start with
  | nil => simp [pathAt]
  | cons name rest ih =>
    obtain ⟨hname, hrest⟩ := List.forall_mem_cons.mp h
    obtain ⟨c, hc, hseparator, hcolon⟩ := hstart
    have hjoin : join start name = start ++ 92 :: name := by
      have hdrive : isDrive start = false := isDrive_eq_false fun d hd => by
        rw [hc] at hd
        cases hd
        exact hcolon
      simp [join, hc, hseparator, hdrive]
    have hnext : pathAt start (name :: rest) = pathAt (join start name) rest := rfl
    rw [hnext, ih (endsPlain_join start hname) hrest, hjoin, List.append_assoc, List.flatMap_cons]

/-- The path of an entry is its relative path, joined to the root. -/
theorem targetAt_relativePath (root : List CodeUnit) {path : List Name} (h : ∀ n ∈ path, PermittedName n) :
    targetAt root (relativePath path) = pathAt root path := by
  cases path with
  | nil => rfl
  | cons name rest =>
    obtain ⟨hname, hrest⟩ := List.forall_mem_cons.mp h
    have hne : relativePath (name :: rest) ≠ [] := by
      rw [relativePath_cons]
      exact fun hnil => hname.nonempty (List.append_eq_nil_iff.mp hnil).1
    have hnext : pathAt root (name :: rest) = pathAt (join root name) rest := rfl
    rw [targetAt, if_neg hne, hnext, pathAt_of_endsPlain (endsPlain_join root hname) hrest, relativePath_cons,
      join_append]

/-! ## The length of a path -/

theorem length_join_le (path : List CodeUnit) (name : Name) :
    (join path name).length ≤ path.length + 1 + name.length := by
  unfold join
  split
  · omega
  · split
    · rw [List.length_append]
      omega
    · rw [List.length_append, List.length_cons]
      omega

theorem pathUnits_le (root : List CodeUnit) {path : List Name} (h : ∀ n ∈ path, PermittedName n) :
    pathUnits root path ≤ root.length + 1 + (relativePath path).length := by
  rw [pathUnits, ← targetAt_relativePath root h, targetAt]
  split
  · omega
  · exact length_join_le root _

/-- There is nothing in a relative path that is shorter than two digits. -/
theorem printable_relativePath {path : List Name} (h : ∀ n ∈ path, PermittedName n) :
    ∀ c ∈ relativePath path, 32 ≤ c.val := by
  intro c hc
  cases path with
  | nil => cases hc
  | cons name rest =>
    rw [relativePath_cons, List.mem_append, List.mem_flatMap] at hc
    rcases hc with hc | ⟨n, hn, hc⟩
    · exact (h name List.mem_cons_self).printable c hc
    · rcases List.mem_cons.mp hc with rfl | hc
      · decide
      · exact (h n (List.mem_cons_of_mem _ hn)).printable c hc

end Maintenance

end Xsoc
