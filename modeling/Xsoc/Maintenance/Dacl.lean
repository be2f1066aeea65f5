import Mathlib.Data.List.Perm.Basic
import Xsoc.Bounding.Cutting
import Xsoc.Bounding.Listing
import Xsoc.Error

/-!
# Access control lists

What the managed directories must grant, and the checks that they grant just that. Windows renders a descriptor as a
text `O:owner D:control(ace)(ace)...`, an entry as six fields between semicolons; the checks cut it up again.

* `programSecurityDescriptor`, `managedStateSecurityDescriptor` : the descriptors that are set;
* `parseProgramDacl`, `parseManagedDacl` : the checks, each the loop `checkAces` over a list of `Grant`s;
* `render`, `canonical` : a descriptor as a text, and an entry with its names and rights in one spelling;
* `dacl_checkers_exact` : what is accepted is the template and no more.
-/

set_option autoImplicit false

namespace Xsoc

namespace Maintenance

open Bounding

/-- A text of the security descriptor definition language. -/
abbrev Sddl := List Char

def programSecurityDescriptor (serviceSid : Sddl) : Sddl :=
  "O:SYD:P(A;OICI;FA;;;SY)(A;OICI;FA;;;BA)(A;OICI;0x1200a9;;;BU)(A;OICI;0x1200a9;;;".toList ++ serviceSid ++
    ")".toList

def managedStateSecurityDescriptor (serviceSid : Option Sddl) : Sddl :=
  let serviceAce := (serviceSid.map fun sid => "(A;OICI;0x1301bf;;;".toList ++ sid ++ ")".toList).getD []
  "O:SYD:P(A;OICI;FA;;;SY)(A;OICI;FA;;;BA)".toList ++ serviceAce ++ "(A;OICI;RC;;;OW)".toList

def managedSecurityDescriptorForTarget (descriptor : Sddl) (isDirectory : Bool) : Sddl :=
  if isDirectory then descriptor else replaceAll ";OICI;".toList ";;".toList descriptor

def isProtectedDaclControl (control : Sddl) : Bool := control = "P".toList || control = "PAI".toList

def hasExactAceInheritanceFlags (flags : Sddl) (isDirectory : Bool) : Bool :=
  if isDirectory then flags = "OICI".toList || flags = "CIOI".toList else flags.isEmpty

/-! ## The checks -/

inductive Trustee
  | system
  | admins
  | users
  | ownerRights
  | service
  deriving DecidableEq

/-- An arm of the match of a check: whom it is about, and what that trustee must be granted. -/
structure Grant where
  trustee : Trustee
  names : List Sddl
  rights : List Sddl
  duplicate : String
  excess : String

/-- What a check is about, with the texts of its errors. -/
structure DaclCheck where
  notSystem : String
  noDacl : String
  noAces : String
  unprotected : String
  malformed : String
  unexpectedAce : String
  inheritance : String
  objectSpecific : String
  unexpectedTrustee : String
  grants : List Grant

/-- The turn of the loop for an entry; `seen` holds the trustees whose flag is set. -/
def checkAce (k : DaclCheck) (isDirectory : Bool) (seen : List Trustee) (ace : Sddl) : Except Error (List Trustee) :=
  let text := s!"({String.ofList ace})"
  match ace.splitOn ';' with
  | [aceType, flags, rights, objectGuid, inheritObjectGuid, name] => do
    check (aceType = "A".toList) (.message (k.unexpectedAce ++ text))
    check (hasExactAceInheritanceFlags flags isDirectory = true) (.message (k.inheritance ++ text))
    check (objectGuid = [] ∧ inheritObjectGuid = []) (.message (k.objectSpecific ++ text))
    match k.grants.find? fun grant => grant.names.contains name with
    | some grant =>
      check (grant.trustee ∉ seen) (.message grant.duplicate)
      check (rights ∈ grant.rights) (.message grant.excess)
      return grant.trustee :: seen
    | none => .error (.message (k.unexpectedTrustee ++ String.ofList name))
  | _ => .error (.message (k.unexpectedAce ++ text))

/-- The loop over what follows each opening parenthesis. -/
def checkAces (k : DaclCheck) (isDirectory : Bool) : List Sddl → List Trustee → Except Error (List Trustee)
  | [], seen => .ok seen
  | piece :: rest, seen => do
    let ace ← okOr (.message k.malformed) (piece.splitOn ')').head?
    let seen ← checkAce k isDirectory seen ace
    checkAces k isDirectory rest seen

/-- The check up to its last steps, with the trustees whose flag is then set. -/
def parseDacl (k : DaclCheck) (sddl : Sddl) (isDirectory : Bool) : Except Error (List Trustee) := do
  check ("O:SY".toList.isPrefixOf sddl = true) (.message (k.notSystem ++ String.ofList sddl))
  let (_, dacl) ← okOr (.message k.noDacl) (splitOnce "D:".toList sddl)
  let (control, _) ← okOr (.message k.noAces) (splitOnce "(".toList dacl)
  check (isProtectedDaclControl control = true) (.message (k.unprotected ++ String.ofList sddl))
  checkAces k isDirectory ((dacl.splitOn '(').drop 1) []

def programDaclCheck (serviceSid : Sddl) : DaclCheck where
  notSystem := "program owner is not SYSTEM: "
  noDacl := "program security descriptor has no DACL"
  noAces := "program DACL contains no ACEs"
  unprotected := "program DACL has unexpected protection flags: "
  malformed := "malformed program DACL ACE"
  unexpectedAce := "unexpected program DACL ACE: "
  inheritance := "unexpected program DACL ACE: "
  objectSpecific := "unexpected program DACL ACE: "
  unexpectedTrustee := "unexpected program DACL trustee "
  grants := [
    { trustee := .system
      names := ["SY".toList, "S-1-5-18".toList]
      rights := ["FA".toList]
      duplicate := "duplicate program SYSTEM ACE"
      excess := "program SYSTEM ACE is not full access" },
    { trustee := .admins
      names := ["BA".toList, "S-1-5-32-544".toList]
      rights := ["FA".toList]
      duplicate := "duplicate program Administrators ACE"
      excess := "program Administrators ACE is not full access" },
    { trustee := .users
      names := ["BU".toList, "S-1-5-32-545".toList]
      rights := ["0x1200a9".toList, "0x001200a9".toList]
      duplicate := "duplicate program BUILTIN\\Users ACE"
      excess := "program BUILTIN\\Users ACE is not exactly read/execute" },
    { trustee := .service
      names := [serviceSid]
      rights := ["0x1200a9".toList, "0x001200a9".toList]
      duplicate := "duplicate program service SID ACE"
      excess := "program service ACE is not exactly read/execute" }]

def parseProgramDacl (sddl serviceSid : Sddl) (isDirectory : Bool) : Except Error Unit := do
  let seen ← parseDacl (programDaclCheck serviceSid) sddl isDirectory
  check (.system ∈ seen ∧ .admins ∈ seen ∧ .users ∈ seen ∧ .service ∈ seen) (.message
    "program DACL does not match the current SYSTEM, Administrators, Users and service SID template")

def managedDaclCheck (serviceSid : Sddl) : DaclCheck where
  notSystem := "managed state owner is not SYSTEM: "
  noDacl := "security descriptor has no DACL"
  noAces := "managed state DACL contains no ACEs"
  unprotected := "managed state DACL has unexpected protection flags: "
  malformed := "malformed DACL ACE"
  unexpectedAce := "unexpected DACL ACE: "
  inheritance := "managed state ACE flags do not match the target type: "
  objectSpecific := "managed state contains an object-specific ACE: "
  unexpectedTrustee := "unexpected state DACL trustee "
  grants := [
    { trustee := .system
      names := ["SY".toList, "S-1-5-18".toList]
      rights := ["FA".toList]
      duplicate := "managed state contains duplicate SYSTEM ACEs"
      excess := "SYSTEM does not have exactly full access" },
    { trustee := .admins
      names := ["BA".toList, "S-1-5-32-544".toList]
      rights := ["FA".toList]
      duplicate := "managed state contains duplicate Administrators ACEs"
      excess := "Administrators do not have exactly full access" },
    { trustee := .ownerRights
      names := ["OW".toList, "S-1-3-4".toList]
      rights := ["RC".toList]
      duplicate := "managed state contains duplicate OWNER RIGHTS ACEs"
      excess := "OWNER RIGHTS does not have ReadPermissions only" },
    { trustee := .service
      names := [serviceSid]
      rights := ["0x1301bf".toList, "0x001301bf".toList]
      duplicate := "managed state contains duplicate service SID ACEs"
      excess := "service SID does not have exactly Modify access" }]

def parseManagedDacl (sddl serviceSid : Sddl) (requireServiceAccess isDirectory : Bool) : Except Error Unit := do
  let seen ← parseDacl (managedDaclCheck serviceSid) sddl isDirectory
  check (.system ∈ seen ∧ .admins ∈ seen ∧ .ownerRights ∈ seen) (.message "managed state DACL is incomplete")
  check (requireServiceAccess = true → .service ∈ seen) (.message "managed state DACL lacks the service SID")
  check (requireServiceAccess = true ∨ .service ∉ seen)
    (.message "preserved state still grants the service SID")

/-! ## Descriptors as texts -/

structure Ace where
  aceType : Sddl
  flags : Sddl
  rights : Sddl
  objectGuid : Sddl
  inheritObjectGuid : Sddl
  trustee : Sddl
  deriving DecidableEq

namespace Ace

def fields (ace : Ace) : List Sddl :=
  [ace.aceType, ace.flags, ace.rights, ace.objectGuid, ace.inheritObjectGuid, ace.trustee]

def text (ace : Ace) : Sddl := [';'].intercalate ace.fields

end Ace

/-- An owner as Windows renders it: a two-letter alias or a security identifier. -/
inductive Owner
  | short (first second : Char)
  | sid (rest : Sddl)
  deriving DecidableEq

def Owner.text : Owner → Sddl
  | short first second => [first, second]
  | sid rest => "S-1-".toList ++ rest

def renderAce (ace : Ace) : Sddl := '(' :: ace.text ++ [')']

def render (owner : Owner) (control : Sddl) (aces : List Ace) : Sddl :=
  "O:".toList ++ owner.text ++ "D:".toList ++ control ++ aces.flatMap renderAce

/-- Free of the characters that structure a descriptor. -/
def Plain (text : Sddl) : Prop := ∀ c ∈ text, c ∉ ['(', ')', ';', ':']

instance (text : Sddl) : Decidable (Plain text) := inferInstanceAs (Decidable (∀ c ∈ text, _))

def Ace.Plain (ace : Ace) : Prop := ∀ field ∈ ace.fields, Maintenance.Plain field

instance (ace : Ace) : Decidable ace.Plain := inferInstanceAs (Decidable (∀ field ∈ ace.fields, _))

/-! ## Spellings -/

/-- The identifiers that have an alias. -/
def canonicalTrustee (name : Sddl) : Sddl :=
  if name = "S-1-5-18".toList then "SY".toList
  else if name = "S-1-5-32-544".toList then "BA".toList
  else if name = "S-1-5-32-545".toList then "BU".toList
  else if name = "S-1-3-4".toList then "OW".toList
  else name

def canonicalRights (rights : Sddl) : Sddl :=
  if rights = "0x001200a9".toList then "0x1200a9".toList
  else if rights = "0x001301bf".toList then "0x1301bf".toList
  else rights

def canonicalFlags (flags : Sddl) : Sddl := if flags = "CIOI".toList then "OICI".toList else flags

/-- The entry with its trustee, rights and flags in their first spelling. -/
def canonical (ace : Ace) : Ace :=
  { ace with
    flags := canonicalFlags ace.flags
    rights := canonicalRights ace.rights
    trustee := canonicalTrustee ace.trustee }

/-- The trustees that are not a service. -/
def wellKnownTrustees : List Sddl :=
  ["SY".toList, "S-1-5-18".toList, "BA".toList, "S-1-5-32-544".toList, "BU".toList, "S-1-5-32-545".toList,
    "OW".toList, "S-1-3-4".toList]

/-- The entry that grants a trustee its rights on a directory or a file. -/
def grantAce (isDirectory : Bool) (rights trustee : Sddl) : Ace where
  aceType := "A".toList
  flags := if isDirectory then "OICI".toList else []
  rights := rights
  objectGuid := []
  inheritObjectGuid := []
  trustee := trustee

def programTemplate (serviceSid : Sddl) (isDirectory : Bool) : List Ace := [
  grantAce isDirectory "FA".toList "SY".toList,
  grantAce isDirectory "FA".toList "BA".toList,
  grantAce isDirectory "0x1200a9".toList "BU".toList,
  grantAce isDirectory "0x1200a9".toList serviceSid]

def managedTemplate (serviceSid : Sddl) (requireServiceAccess isDirectory : Bool) : List Ace :=
  [grantAce isDirectory "FA".toList "SY".toList, grantAce isDirectory "FA".toList "BA".toList] ++
    (if requireServiceAccess then [grantAce isDirectory "0x1301bf".toList serviceSid] else []) ++
    [grantAce isDirectory "RC".toList "OW".toList]

/-! ## The cut of a descriptor -/

theorem Plain.not_mem {text : Sddl} {c : Char} (h : Plain text) (hc : c ∈ ['(', ')', ';', ':']) : c ∉ text :=
  fun hmem => h c hmem hc

theorem splitOn_text {ace : Ace} (h : ace.Plain) : ace.text.splitOn ';' = ace.fields := by
  apply List.splitOn_intercalate
  · exact fun field hfield => (h field hfield).not_mem (by simp)
  · exact List.cons_ne_nil _ _

theorem not_mem_text {ace : Ace} {c : Char} (h : ace.Plain) (hc : c ∈ ['(', ')', ';', ':']) (hne : c ≠ ';') :
    c ∉ ace.text := by
  have hfree (field : Sddl) (hfield : field ∈ ace.fields) : c ∉ field := (h field hfield).not_mem hc
  simp only [Ace.fields, List.mem_cons, List.not_mem_nil, or_false, forall_eq_or_imp, forall_eq] at hfree
  simp [Ace.text, Ace.fields, List.intercalate_cons_cons, hfree, hne]

theorem intercalate_open (control : Sddl) (aces : List Ace) :
    ['('].intercalate (control :: aces.map fun ace => ace.text ++ [')']) = control ++ aces.flatMap renderAce := by
  induction aces generalizing control with
  | nil => simp
  | cons ace rest ih =>
    rw [List.map_cons, List.intercalate_cons_cons, ih, List.flatMap_cons]
    simp [renderAce]

/-- The pieces between opening parentheses: the control flags, and the entries with what closes them. -/
theorem splitOn_dacl {control : Sddl} {aces : List Ace} (hcontrol : Plain control) (haces : ∀ ace ∈ aces, ace.Plain) :
    (control ++ aces.flatMap renderAce).splitOn '(' = control :: aces.map fun ace => ace.text ++ [')'] := by
  rw [← intercalate_open]
  apply List.splitOn_intercalate
  · intro piece hpiece
    rw [List.mem_cons, List.mem_map] at hpiece
    rcases hpiece with rfl | ⟨ace, hace, rfl⟩
    · exact hcontrol.not_mem (by simp)
    · simpa using not_mem_text (haces ace hace) (by simp) (by simp)
  · exact List.cons_ne_nil _ _

/-- The entry of a piece is what is before the parenthesis that closes it. -/
theorem head?_splitOn_piece {ace : Ace} (h : ace.Plain) : ((ace.text ++ [')']).splitOn ')').head? = some ace.text := by
  have hsplit : (ace.text ++ [')']).splitOn ')' = [ace.text, []] := by
    rw [show ace.text ++ [')'] = [')'].intercalate [ace.text, []] by simp]
    apply List.splitOn_intercalate
    · simpa using not_mem_text h (by simp) (by simp)
    · exact List.cons_ne_nil _ _
  rw [hsplit]
  rfl

/-! ## The loop -/

section

variable {k : DaclCheck} {isDirectory : Bool}

/-- The entry a grant asks for, in the first spelling. -/
def Grant.ace (isDirectory : Bool) (grant : Grant) : Ace :=
  grantAce isDirectory (grant.rights.headD []) (grant.names.headD [])

/-- The grants are of different trustees, and the spellings they name are those of the first. -/
structure DaclCheck.Lawful (k : DaclCheck) : Prop where
  trustees : (k.grants.map Grant.trustee).Nodup
  names : (k.grants.map fun grant => grant.names.headD []).Nodup
  name : ∀ grant ∈ k.grants, ∀ name, name ∈ grant.names ↔ canonicalTrustee name = grant.names.headD []
  right : ∀ grant ∈ k.grants, ∀ rights, rights ∈ grant.rights ↔ canonicalRights rights = grant.rights.headD []

theorem flags_iff {flags : Sddl} : hasExactAceInheritanceFlags flags isDirectory = true ↔
    canonicalFlags flags = if isDirectory then "OICI".toList else [] := by
  unfold hasExactAceInheritanceFlags canonicalFlags
  by_cases h : flags = "CIOI".toList
  · subst h
    cases isDirectory <;> decide
  · rw [if_neg h]
    cases isDirectory
    · simp
    · rw [if_pos rfl, if_pos rfl, decide_eq_false h, Bool.or_false, decide_eq_true_eq]

/-- The grant a name is found at is the one whose name it is. -/
theorem find?_grants_eq_some (hk : k.Lawful) {name : Sddl} {grant : Grant} :
    (k.grants.find? fun grant => grant.names.contains name) = some grant ↔
      grant ∈ k.grants ∧ canonicalTrustee name = grant.names.headD [] := by
  constructor
  · intro h
    have hmem := List.mem_of_find?_eq_some h
    have hname : name ∈ grant.names := by simpa using List.find?_some h
    exact ⟨hmem, (hk.name grant hmem name).mp hname⟩
  · rintro ⟨hmem, hname⟩
    have hin := (hk.name grant hmem name).mpr hname
    obtain ⟨found, hfound⟩ := Option.isSome_iff_exists.mp (show
      (k.grants.find? fun grant => grant.names.contains name).isSome = true by
        rw [List.find?_isSome]
        exact ⟨grant, hmem, by simpa using hin⟩)
    have hmem' := List.mem_of_find?_eq_some hfound
    have hname' : name ∈ found.names := by simpa using List.find?_some hfound
    rw [hfound, Option.some.injEq]
    exact List.inj_on_of_nodup_map hk.names hmem' hmem (((hk.name found hmem' name).mp hname').symm.trans hname)

/-- An entry is taken as that of a grant whose trustee was not seen before. -/
theorem checkAce_eq_ok (hk : k.Lawful) {ace : Ace} (hace : ace.Plain) {seen seen' : List Trustee} :
    checkAce k isDirectory seen ace.text = .ok seen' ↔ ∃ grant ∈ k.grants,
      canonical ace = grant.ace isDirectory ∧ grant.trustee ∉ seen ∧ seen' = grant.trustee :: seen := by
  unfold checkAce
  rw [splitOn_text hace]
  simp only [Ace.fields, Except.bind_eq_ok, check_eq_ok, exists_const]
  constructor
  · rintro ⟨htype, hflags, ⟨hobject, hinherit⟩, hgrant⟩
    cases hfind : k.grants.find? fun grant => grant.names.contains ace.trustee with
    | none =>
      rw [hfind] at hgrant
      cases hgrant
    | some grant =>
      rw [hfind] at hgrant
      simp only [Except.bind_eq_ok, check_eq_ok, exists_const] at hgrant
      obtain ⟨hseen, hrights, hnext⟩ := hgrant
      obtain ⟨hmem, hname⟩ := (find?_grants_eq_some hk).mp hfind
      refine ⟨grant, hmem, ?_, hseen, by cases hnext; rfl⟩
      rw [canonical, Grant.ace, grantAce, htype, hobject, hinherit, hname, flags_iff.mp hflags,
        (hk.right grant hmem _).mp hrights]
  · rintro ⟨grant, hmem, hcanonical, hseen, rfl⟩
    simp only [canonical, Grant.ace, grantAce, Ace.mk.injEq] at hcanonical
    obtain ⟨htype, hflags, hrights, hobject, hinherit, hname⟩ := hcanonical
    refine ⟨htype, flags_iff.mpr hflags, ⟨hobject, hinherit⟩, ?_⟩
    rw [(find?_grants_eq_some hk).mpr ⟨hmem, hname⟩]
    simp only [Except.bind_eq_ok, check_eq_ok, exists_const]
    exact ⟨hseen, (hk.right grant hmem _).mpr hrights, rfl⟩

/-- The loop takes the entries as those of different grants. -/
theorem checkAces_eq_ok (hk : k.Lawful) {aces : List Ace} (haces : ∀ ace ∈ aces, ace.Plain)
    {seen seen' : List Trustee} (hseen : seen.Nodup) :
    checkAces k isDirectory (aces.map fun ace => ace.text ++ [')']) seen = .ok seen' ↔
      ∃ grants : List Grant, grants ⊆ k.grants ∧ aces.map canonical = grants.map (Grant.ace isDirectory) ∧
        ((grants.map Grant.trustee).reverse ++ seen).Nodup ∧
        seen' = (grants.map Grant.trustee).reverse ++ seen := by
  induction aces generalizing seen with
  | nil =>
    simp only [List.map_nil, checkAces, Except.ok.injEq]
    constructor
    · rintro rfl
      exact ⟨[], by simp, rfl, by simpa using hseen, rfl⟩
    · rintro ⟨grants, -, hgrants, -, rfl⟩
      rw [eq_comm, List.map_eq_nil_iff] at hgrants
      rw [hgrants]
      rfl
  | cons ace rest ih =>
    rw [List.forall_mem_cons] at haces
    rw [List.map_cons, checkAces, head?_splitOn_piece haces.1, okOr_some]
    show (checkAce k isDirectory seen ace.text >>= fun seen => checkAces k isDirectory _ seen) = _ ↔ _
    simp only [Except.bind_eq_ok, checkAce_eq_ok hk haces.1]
    constructor
    · rintro ⟨-, ⟨grant, hmem, hace, hnew, rfl⟩, hrest⟩
      obtain ⟨grants, hsub, hmap, hnodup, rfl⟩ := (ih haces.2 (List.nodup_cons.mpr ⟨hnew, hseen⟩)).mp hrest
      refine ⟨grant :: grants, List.cons_subset.mpr ⟨hmem, hsub⟩, by rw [List.map_cons, List.map_cons, hace, hmap],
        ?_, by simp⟩
      simpa using hnodup
    · rintro ⟨grants, hsub, hmap, hnodup, rfl⟩
      cases grants with
      | nil => cases hmap
      | cons grant grants =>
        rw [List.map_cons, List.map_cons, List.cons.injEq] at hmap
        rw [List.cons_subset] at hsub
        have hassoc : ((grant :: grants).map Grant.trustee).reverse ++ seen =
            (grants.map Grant.trustee).reverse ++ grant.trustee :: seen := by simp
        rw [hassoc] at hnodup
        have hnext := (List.nodup_append.mp hnodup).2.1
        exact ⟨grant.trustee :: seen, ⟨grant, hsub.1, hmap.1, (List.nodup_cons.mp hnext).1, rfl⟩,
          (ih haces.2 hnext).mpr ⟨grants, hsub.2, hmap.2, hnodup, hassoc⟩⟩

/-! ## The whole check -/

theorem prefix_owner_iff {owner : Owner} {rest : Sddl} :
    "O:SY".toList.isPrefixOf ("O:".toList ++ (owner.text ++ rest)) = true ↔ owner = .short 'S' 'Y' := by
  rw [show "O:SY".toList = "O:".toList ++ ['S', 'Y'] by rfl, List.isPrefixOf_iff_prefix,
    List.prefix_append_right_inj]
  cases owner with
  | short first second =>
    rw [Owner.text, List.cons_append, List.cons_append, List.cons_prefix_cons, List.cons_prefix_cons]
    simp [eq_comm]
  | sid tail =>
    rw [Owner.text, show "S-1-".toList = 'S' :: '-' :: ['1', '-'] by rfl, List.cons_append, List.cons_append,
      List.cons_append, List.cons_append, List.cons_prefix_cons, List.cons_prefix_cons]
    simp

theorem isProtectedDaclControl_iff {control : Sddl} :
    isProtectedDaclControl control = true ↔ control = "P".toList ∨ control = "PAI".toList := by
  rw [isProtectedDaclControl, Bool.or_eq_true, decide_eq_true_eq, decide_eq_true_eq]

/-- The list follows the first `D:`: an owner that is the system holds none. -/
theorem splitOnce_render (control : Sddl) (aces : List Ace) :
    splitOnce "D:".toList (render (.short 'S' 'Y') control aces) =
      some ("O:SY".toList, control ++ aces.flatMap renderAce) := by
  unfold render
  rw [List.append_assoc _ control]
  rfl

theorem splitOnce_dacl {control : Sddl} (hcontrol : Plain control) (aces : List Ace) :
    (splitOnce "(".toList (control ++ aces.flatMap renderAce)).map Prod.fst =
      if aces = [] then none else some control := by
  have hfree : '(' ∉ control := hcontrol.not_mem (by simp)
  cases aces with
  | nil =>
    rw [List.flatMap_nil, List.append_nil, if_pos rfl]
    show (splitOnce ['('] control).map Prod.fst = none
    rw [splitOnce_singleton_eq_none hfree]
    rfl
  | cons ace rest =>
    rw [List.flatMap_cons, renderAce, if_neg (List.cons_ne_nil _ _)]
    show (splitOnce ['('] (control ++ '(' :: _)).map Prod.fst = some control
    rw [splitOnce_singleton_of_free _ hfree]
    rfl

theorem parseDacl_eq_ok (owner : Owner) {control : Sddl} {aces : List Ace} (hcontrol : Plain control)
    (haces : ∀ ace ∈ aces, ace.Plain) {seen : List Trustee} :
    parseDacl k (render owner control aces) isDirectory = .ok seen ↔
      owner = .short 'S' 'Y' ∧ (control = "P".toList ∨ control = "PAI".toList) ∧ aces ≠ [] ∧
        checkAces k isDirectory (aces.map fun ace => ace.text ++ [')']) [] = .ok seen := by
  have howner : "O:SY".toList.isPrefixOf (render owner control aces) = true ↔ owner = .short 'S' 'Y' := by
    unfold render
    rw [List.append_assoc, List.append_assoc, List.append_assoc, prefix_owner_iff]
  unfold parseDacl
  simp only [Except.bind_eq_ok, check_eq_ok, okOr_eq_ok, exists_const, howner]
  refine and_congr_right fun howner => ?_
  subst howner
  have hcut := splitOnce_dacl hcontrol aces
  simp only [splitOnce_render, Option.some.injEq]
  constructor
  · rintro ⟨_, rfl, ⟨flags, rest⟩, hflags, hprotected, hrest⟩
    rw [hflags] at hcut
    by_cases hnil : aces = []
    · rw [if_pos hnil] at hcut
      cases hcut
    · rw [if_neg hnil] at hcut
      cases hcut
      rw [splitOn_dacl hcontrol haces] at hrest
      exact ⟨isProtectedDaclControl_iff.mp hprotected, hnil, hrest⟩
  · rintro ⟨hprotected, hnil, hrest⟩
    rw [if_neg hnil, Option.map_eq_some_iff] at hcut
    obtain ⟨⟨flags, rest⟩, hcut, rfl⟩ := hcut
    refine ⟨_, rfl, _, hcut, isProtectedDaclControl_iff.mpr hprotected, ?_⟩
    rw [splitOn_dacl hcontrol haces]
    exact hrest

/-- A check ends with just the flags of `required` set if it is shown their template. -/
theorem parseDacl_render (hk : k.Lawful) {required : List Grant} (hrequired : required.Sublist k.grants)
    (hne : required ≠ []) (owner : Owner) {control : Sddl} {aces : List Ace} (hcontrol : Plain control)
    (haces : ∀ ace ∈ aces, ace.Plain) :
    (∃ seen, parseDacl k (render owner control aces) isDirectory = .ok seen ∧
      ∀ grant ∈ k.grants, grant.trustee ∈ seen ↔ grant ∈ required) ↔
    owner = .short 'S' 'Y' ∧ (control = "P".toList ∨ control = "PAI".toList) ∧
      (aces.map canonical).Perm (required.map (Grant.ace isDirectory)) := by
  have hgrants : k.grants.Nodup := List.Nodup.of_map _ hk.trustees
  simp only [parseDacl_eq_ok owner hcontrol haces, checkAces_eq_ok hk haces List.nodup_nil, List.append_nil]
  constructor
  · rintro ⟨-, ⟨howner, hprotected, -, grants, hsub, hmap, hnodup, rfl⟩, hflags⟩
    refine ⟨howner, hprotected, ?_⟩
    -- the grants of the entries are those of `required`, each once
    have hperm : grants.Perm required := by
      rw [List.perm_ext_iff_of_nodup (List.Nodup.of_map _ (List.nodup_reverse.mp hnodup)) (hrequired.nodup hgrants)]
      intro grant
      constructor
      · intro hgrant
        exact (hflags grant (hsub hgrant)).mp (List.mem_reverse.mpr (List.mem_map_of_mem hgrant))
      · intro hgrant
        have hmem := hrequired.subset hgrant
        have hseen := List.mem_reverse.mp ((hflags grant hmem).mpr hgrant)
        obtain ⟨other, hother, hsame⟩ := List.mem_map.mp hseen
        rwa [List.inj_on_of_nodup_map hk.trustees (hsub hother) hmem hsame] at hother
    rw [hmap]
    exact hperm.map _
  · rintro ⟨howner, hprotected, hperm⟩
    obtain ⟨grants, hgrantsPerm, hmap⟩ := exists_map_of_perm_map hperm
    have hnodup : (grants.map Grant.trustee).Nodup :=
      (hgrantsPerm.map _).nodup_iff.mpr ((hrequired.map _).nodup hk.trustees)
    refine ⟨_, ⟨howner, hprotected, ?_, grants, fun grant h => hrequired.subset (hgrantsPerm.subset h), hmap,
      List.nodup_reverse.mpr hnodup, rfl⟩, ?_⟩
    · rintro rfl
      rw [List.map_nil, List.nil_perm, List.map_eq_nil_iff] at hperm
      exact hne hperm
    · intro grant hgrant
      rw [List.mem_reverse]
      constructor
      · intro hseen
        obtain ⟨other, hother, hsame⟩ := List.mem_map.mp hseen
        have hmem := hgrantsPerm.subset hother
        rwa [List.inj_on_of_nodup_map hk.trustees (hrequired.subset hmem) hgrant hsame] at hmem
      · intro hmem
        exact List.mem_map_of_mem (hgrantsPerm.symm.subset hmem)

end

/-! ## The two checks -/

theorem canonicalRights_eq_iff {rights : Sddl} :
    (rights ∈ ["FA".toList] ↔ canonicalRights rights = "FA".toList) ∧
    (rights ∈ ["RC".toList] ↔ canonicalRights rights = "RC".toList) ∧
    (rights ∈ ["0x1200a9".toList, "0x001200a9".toList] ↔ canonicalRights rights = "0x1200a9".toList) ∧
    (rights ∈ ["0x1301bf".toList, "0x001301bf".toList] ↔ canonicalRights rights = "0x1301bf".toList) := by
  unfold canonicalRights
  by_cases hread : rights = "0x001200a9".toList
  · subst hread
    decide
  by_cases hmodify : rights = "0x001301bf".toList
  · subst hmodify
    decide
  rw [if_neg hread, if_neg hmodify]
  simp only [List.mem_cons, List.not_mem_nil, or_false, hread, hmodify, and_self]

theorem canonicalTrustee_eq_iff {name : Sddl} :
    (name ∈ ["SY".toList, "S-1-5-18".toList] ↔ canonicalTrustee name = "SY".toList) ∧
    (name ∈ ["BA".toList, "S-1-5-32-544".toList] ↔ canonicalTrustee name = "BA".toList) ∧
    (name ∈ ["BU".toList, "S-1-5-32-545".toList] ↔ canonicalTrustee name = "BU".toList) ∧
    (name ∈ ["OW".toList, "S-1-3-4".toList] ↔ canonicalTrustee name = "OW".toList) := by
  unfold canonicalTrustee
  split_ifs with hsystem hadmins husers howner
  · subst hsystem
    decide
  · subst hadmins
    decide
  · subst husers
    decide
  · subst howner
    decide
  · simp only [List.mem_cons, List.not_mem_nil, or_false, hsystem, hadmins, husers, howner, and_self]

/-- A service is not known under another name. -/
theorem canonicalTrustee_eq_service_iff {name serviceSid : Sddl} (hsid : serviceSid ∉ wellKnownTrustees) :
    name ∈ [serviceSid] ↔ canonicalTrustee name = serviceSid := by
  have hne {known : Sddl} (hknown : known ∈ wellKnownTrustees) : known ≠ serviceSid := by
    rintro rfl
    exact hsid hknown
  rw [List.mem_singleton]
  unfold canonicalTrustee
  split_ifs with hsystem hadmins husers howner
  · rw [hsystem]
    exact iff_of_false (hne (by decide)) (hne (by decide))
  · rw [hadmins]
    exact iff_of_false (hne (by decide)) (hne (by decide))
  · rw [husers]
    exact iff_of_false (hne (by decide)) (hne (by decide))
  · rw [howner]
    exact iff_of_false (hne (by decide)) (hne (by decide))
  · exact Iff.rfl

theorem nodup_names (known : List Sddl) {serviceSid : Sddl} (hsid : serviceSid ∉ wellKnownTrustees)
    (hknown : known ⊆ wellKnownTrustees) (hnodup : known.Nodup) : (known ++ [serviceSid]).Nodup := by
  refine hnodup.append (List.nodup_singleton _) fun name hname hsame => hsid ?_
  rw [List.mem_singleton] at hsame
  rw [← hsame]
  exact hknown hname

theorem lawful_programDaclCheck {serviceSid : Sddl} (hsid : serviceSid ∉ wellKnownTrustees) :
    (programDaclCheck serviceSid).Lawful := by
  refine ⟨?_, ?_, ?_, ?_⟩
  · show [Trustee.system, .admins, .users, .service].Nodup
    decide
  · exact nodup_names ["SY".toList, "BA".toList, "BU".toList] hsid (by decide) (by decide)
  · simp only [programDaclCheck, List.forall_mem_cons]
    exact ⟨fun _ => canonicalTrustee_eq_iff.1, fun _ => canonicalTrustee_eq_iff.2.1,
      fun _ => canonicalTrustee_eq_iff.2.2.1, fun _ => canonicalTrustee_eq_service_iff hsid, by simp⟩
  · simp only [programDaclCheck, List.forall_mem_cons]
    exact ⟨fun _ => canonicalRights_eq_iff.1, fun _ => canonicalRights_eq_iff.1,
      fun _ => canonicalRights_eq_iff.2.2.1, fun _ => canonicalRights_eq_iff.2.2.1, by simp⟩

theorem lawful_managedDaclCheck {serviceSid : Sddl} (hsid : serviceSid ∉ wellKnownTrustees) :
    (managedDaclCheck serviceSid).Lawful := by
  refine ⟨?_, ?_, ?_, ?_⟩
  · show [Trustee.system, .admins, .ownerRights, .service].Nodup
    decide
  · exact nodup_names ["SY".toList, "BA".toList, "OW".toList] hsid (by decide) (by decide)
  · simp only [managedDaclCheck, List.forall_mem_cons]
    exact ⟨fun _ => canonicalTrustee_eq_iff.1, fun _ => canonicalTrustee_eq_iff.2.1,
      fun _ => canonicalTrustee_eq_iff.2.2.2, fun _ => canonicalTrustee_eq_service_iff hsid, by simp⟩
  · simp only [managedDaclCheck, List.forall_mem_cons]
    exact ⟨fun _ => canonicalRights_eq_iff.1, fun _ => canonicalRights_eq_iff.1,
      fun _ => canonicalRights_eq_iff.2.1, fun _ => canonicalRights_eq_iff.2.2.2, by simp⟩

section

variable {serviceSid control : Sddl} {aces : List Ace} (hsid : serviceSid ∉ wellKnownTrustees) (owner : Owner)
  (hcontrol : Plain control) (haces : ∀ ace ∈ aces, ace.Plain) (requireServiceAccess isDirectory : Bool)

include hsid hcontrol haces

theorem parseProgramDacl_render :
    parseProgramDacl (render owner control aces) serviceSid isDirectory = .ok () ↔
      owner = .short 'S' 'Y' ∧ (control = "P".toList ∨ control = "PAI".toList) ∧
        (aces.map canonical).Perm (programTemplate serviceSid isDirectory) := by
  have hflags (seen : List Trustee) : (.system ∈ seen ∧ .admins ∈ seen ∧ .users ∈ seen ∧ .service ∈ seen) ↔
      ∀ grant ∈ (programDaclCheck serviceSid).grants, grant.trustee ∈ seen ↔
        grant ∈ (programDaclCheck serviceSid).grants := by
    have hin : (∀ grant ∈ (programDaclCheck serviceSid).grants, grant.trustee ∈ seen ↔
        grant ∈ (programDaclCheck serviceSid).grants) ↔
        ∀ grant ∈ (programDaclCheck serviceSid).grants, grant.trustee ∈ seen :=
      forall₂_congr fun grant hgrant => iff_true_right hgrant
    rw [hin]
    simp [programDaclCheck]
  unfold parseProgramDacl
  simp only [Except.bind_eq_ok, check_eq_ok, hflags]
  exact parseDacl_render (lawful_programDaclCheck hsid) (List.Sublist.refl _) (by simp [programDaclCheck]) owner
    hcontrol haces

theorem parseManagedDacl_render :
    parseManagedDacl (render owner control aces) serviceSid requireServiceAccess isDirectory = .ok () ↔
      owner = .short 'S' 'Y' ∧ (control = "P".toList ∨ control = "PAI".toList) ∧
        (aces.map canonical).Perm (managedTemplate serviceSid requireServiceAccess isDirectory) := by
  let required := (managedDaclCheck serviceSid).grants.filter fun grant =>
    requireServiceAccess || grant.trustee ≠ .service
  have hflags (seen : List Trustee) : ((.system ∈ seen ∧ .admins ∈ seen ∧ .ownerRights ∈ seen) ∧
      (requireServiceAccess = true → .service ∈ seen) ∧ (requireServiceAccess = true ∨ .service ∉ seen)) ↔
      ∀ grant ∈ (managedDaclCheck serviceSid).grants, grant.trustee ∈ seen ↔ grant ∈ required := by
    cases requireServiceAccess <;> simp [required, managedDaclCheck, and_assoc]
  have htemplate : (required.map (Grant.ace isDirectory)).Perm
      (managedTemplate serviceSid requireServiceAccess isDirectory) := by
    cases requireServiceAccess
    · exact List.Perm.refl _
    · exact List.Perm.cons _ (List.Perm.cons _ (List.Perm.swap _ _ _))
  have hrequired : required ≠ [] := by simp [required, managedDaclCheck]
  unfold parseManagedDacl
  simp only [Except.bind_eq_ok, check_eq_ok, exists_const, hflags]
  rw [parseDacl_render (lawful_managedDaclCheck hsid) List.filter_sublist hrequired owner hcontrol haces]
  exact and_congr_right fun _ => and_congr_right fun _ => ⟨fun h => h.trans htemplate, fun h => h.trans htemplate.symm⟩

end

/-! ## The descriptors that are set -/

def acesOf (grants : List (Sddl × Sddl)) (isDirectory : Bool) : List Ace :=
  grants.map fun (rights, trustee) => grantAce isDirectory rights trustee

def descriptorOf (grants : List (Sddl × Sddl)) (isDirectory : Bool) : Sddl :=
  render (.short 'S' 'Y') "P".toList (acesOf grants isDirectory)

theorem replaceAll_renderAce {rights trustee : Sddl} (hrights : Plain rights) (htrustee : Plain trustee) (rest : Sddl) :
    replaceAll ";OICI;".toList ";;".toList (renderAce (grantAce true rights trustee) ++ rest) =
      renderAce (grantAce false rights trustee) ++ replaceAll ";OICI;".toList ";;".toList rest := by
  have htext : renderAce (grantAce true rights trustee) ++ rest =
      "(A".toList ++ (";OICI;".toList ++ (rights ++ (';' :: ';' :: ';' :: (trustee ++ ')' :: rest)))) := by
    simp [renderAce, Ace.text, Ace.fields, grantAce, List.intercalate_cons_cons]
  have htext' (rest : Sddl) : renderAce (grantAce false rights trustee) ++ rest =
      "(A".toList ++ (";;".toList ++ (rights ++ (';' :: ';' :: ';' :: (trustee ++ ([')'] ++ rest))))) := by
    simp [renderAce, Ace.text, Ace.fields, grantAce, List.intercalate_cons_cons]
  have hpattern : ";OICI;".toList = ';' :: "OICI;".toList := by rfl
  -- the last semicolon starts no occurrence: what follows it holds none up to the parenthesis
  have hlast : ¬ ';' :: "OICI;".toList <+: ';' :: (trustee ++ ')' :: rest) := by
    rw [List.cons_prefix_cons]
    rintro ⟨-, h⟩
    have hinitial := prefix_of_prefix_append_cons (by decide) h
    have hfree : ';' ∉ trustee := htrustee.not_mem (by simp)
    exact hfree (hinitial.subset (by decide))
  rw [htext, htext', hpattern, replaceAll_append_of_free _ (by decide), replaceAll_pattern_append,
    replaceAll_append_of_free _ (hrights.not_mem (by simp)), replaceAll_cons_of_not_prefix,
    replaceAll_cons_of_not_prefix, replaceAll_cons_of_not_prefix hlast,
    replaceAll_append_of_free _ (htrustee.not_mem (by simp)), show ')' :: rest = [')'] ++ rest by rfl,
    replaceAll_append_of_free _ (by decide)]
  · simp
  · simp

theorem managedSecurityDescriptorForTarget_descriptorOf {grants : List (Sddl × Sddl)}
    (hgrants : ∀ grant ∈ grants, Plain grant.1 ∧ Plain grant.2) (isDirectory : Bool) :
    managedSecurityDescriptorForTarget (descriptorOf grants true) isDirectory = descriptorOf grants isDirectory := by
  cases isDirectory
  swap
  · rfl
  show replaceAll ";OICI;".toList ";;".toList (descriptorOf grants true) = _
  have haces : replaceAll ";OICI;".toList ";;".toList
      ((grants.map fun (rights, trustee) => grantAce true rights trustee).flatMap renderAce) =
      (grants.map fun (rights, trustee) => grantAce false rights trustee).flatMap renderAce := by
    induction grants with
    | nil => rfl
    | cons grant rest ih =>
      rw [List.forall_mem_cons] at hgrants
      rw [List.map_cons, List.map_cons, List.flatMap_cons, List.flatMap_cons,
        replaceAll_renderAce hgrants.1.1 hgrants.1.2, ih hgrants.2]
  unfold descriptorOf acesOf render
  rw [show ";OICI;".toList = ';' :: "OICI;".toList by rfl] at haces ⊢
  rw [replaceAll_append_of_free _ (by decide), haces]

/-- The text of an entry that is inherited. -/
def inheritedText (rights trustee : Sddl) : Sddl :=
  "(A;OICI;".toList ++ (rights ++ (";;;".toList ++ (trustee ++ ")".toList)))

theorem renderAce_inherited (rights trustee : Sddl) :
    renderAce (grantAce true rights trustee) = inheritedText rights trustee := by
  delta inheritedText
  rw [show "(A;OICI;".toList = '(' :: ("A".toList ++ [';'] ++ ("OICI".toList ++ [';'])) by decide +kernel,
    show ";;;".toList = [';', ';', ';'] by decide +kernel, show ")".toList = [')'] by decide +kernel]
  simp only [renderAce, Ace.text, Ace.fields, grantAce, List.intercalate_cons_cons, List.intercalate_singleton,
    if_true, List.append_assoc, List.cons_append, List.nil_append]

theorem descriptorOf_inherited (grants : List (Sddl × Sddl)) :
    descriptorOf grants true =
      "O:SYD:P".toList ++ grants.flatMap fun (rights, trustee) => inheritedText rights trustee := by
  unfold descriptorOf acesOf render
  rw [List.flatMap_map, show "O:".toList ++ (Owner.short 'S' 'Y').text ++ "D:".toList ++ "P".toList =
    "O:SYD:P".toList by decide +kernel]
  simp only [renderAce_inherited]

def programGrants (serviceSid : Sddl) : List (Sddl × Sddl) :=
  [("FA".toList, "SY".toList), ("FA".toList, "BA".toList), ("0x1200a9".toList, "BU".toList),
    ("0x1200a9".toList, serviceSid)]

theorem programSecurityDescriptor_eq (serviceSid : Sddl) :
    programSecurityDescriptor serviceSid = descriptorOf (programGrants serviceSid) true := by
  show "O:SYD:P(A;OICI;FA;;;SY)(A;OICI;FA;;;BA)(A;OICI;0x1200a9;;;BU)(A;OICI;0x1200a9;;;".toList ++ serviceSid ++
    ")".toList = _
  rw [descriptorOf_inherited,
    show "O:SYD:P(A;OICI;FA;;;SY)(A;OICI;FA;;;BA)(A;OICI;0x1200a9;;;BU)(A;OICI;0x1200a9;;;".toList =
      "O:SYD:P".toList ++ (inheritedText "FA".toList "SY".toList ++ (inheritedText "FA".toList "BA".toList ++
        (inheritedText "0x1200a9".toList "BU".toList ++
          ("(A;OICI;".toList ++ ("0x1200a9".toList ++ ";;;".toList))))) by decide +kernel]
  delta inheritedText
  simp only [programGrants, List.flatMap_cons, List.flatMap_nil, List.append_assoc, List.append_nil]

/-- The grants of the state, with or without its service. -/
def managedGrants (serviceSid : Option Sddl) : List (Sddl × Sddl) :=
  [("FA".toList, "SY".toList), ("FA".toList, "BA".toList)] ++
    (serviceSid.map fun sid => ("0x1301bf".toList, sid)).toList ++ [("RC".toList, "OW".toList)]

theorem managedStateSecurityDescriptor_eq (serviceSid : Option Sddl) :
    managedStateSecurityDescriptor serviceSid = descriptorOf (managedGrants serviceSid) true := by
  show "O:SYD:P(A;OICI;FA;;;SY)(A;OICI;FA;;;BA)".toList ++
    (serviceSid.map fun sid => "(A;OICI;0x1301bf;;;".toList ++ sid ++ ")".toList).getD [] ++
      "(A;OICI;RC;;;OW)".toList = _
  rw [descriptorOf_inherited,
    show "O:SYD:P(A;OICI;FA;;;SY)(A;OICI;FA;;;BA)".toList = "O:SYD:P".toList ++
      (inheritedText "FA".toList "SY".toList ++ inheritedText "FA".toList "BA".toList) by decide +kernel,
    show "(A;OICI;RC;;;OW)".toList = inheritedText "RC".toList "OW".toList by decide +kernel]
  cases serviceSid with
  | none =>
    simp only [managedGrants, Option.map_none, Option.getD_none, Option.toList_none, List.append_nil, List.cons_append,
      List.nil_append, List.flatMap_cons, List.flatMap_nil, List.append_assoc]
  | some sid =>
    have hservice : "(A;OICI;0x1301bf;;;".toList ++ sid ++ ")".toList = inheritedText "0x1301bf".toList sid := by
      rw [show "(A;OICI;0x1301bf;;;".toList = "(A;OICI;".toList ++ ("0x1301bf".toList ++ ";;;".toList)
        by decide +kernel]
      delta inheritedText
      simp only [List.append_assoc]
    simp only [managedGrants, ← hservice, Option.map_some, Option.getD_some, Option.toList_some, List.append_nil,
      List.cons_append, List.nil_append, List.flatMap_cons, List.flatMap_nil, List.append_assoc]

theorem plain_grantAce {rights trustee : Sddl} (hrights : Plain rights) (htrustee : Plain trustee)
    (isDirectory : Bool) : (grantAce isDirectory rights trustee).Plain := by
  intro field hfield
  simp only [Ace.fields, grantAce, List.mem_cons, List.not_mem_nil, or_false] at hfield
  rcases hfield with rfl | rfl | rfl | rfl | rfl | rfl
  · decide
  · cases isDirectory <;> decide
  · exact hrights
  · decide
  · decide
  · exact htrustee

theorem canonical_grantAce {rights trustee : Sddl} (hrights : canonicalRights rights = rights)
    (htrustee : canonicalTrustee trustee = trustee) (isDirectory : Bool) :
    canonical (grantAce isDirectory rights trustee) = grantAce isDirectory rights trustee := by
  unfold canonical
  rw [show (grantAce isDirectory rights trustee).rights = rights by rfl,
    show (grantAce isDirectory rights trustee).trustee = trustee by rfl, hrights, htrustee]
  cases isDirectory <;> rfl

/-- Grants without structuring characters, in their first spelling. -/
def Spelt (grants : List (Sddl × Sddl)) : Prop :=
  ∀ grant ∈ grants, Plain grant.1 ∧ Plain grant.2 ∧ canonicalRights grant.1 = grant.1 ∧
    canonicalTrustee grant.2 = grant.2

theorem Spelt.plain {grants : List (Sddl × Sddl)} (h : Spelt grants) (isDirectory : Bool) :
    ∀ ace ∈ acesOf grants isDirectory, ace.Plain := by
  intro ace hace
  obtain ⟨grant, hgrant, rfl⟩ := List.mem_map.mp hace
  exact plain_grantAce (h grant hgrant).1 (h grant hgrant).2.1 isDirectory

theorem Spelt.canonical {grants : List (Sddl × Sddl)} (h : Spelt grants) (isDirectory : Bool) :
    (acesOf grants isDirectory).map canonical = acesOf grants isDirectory := by
  unfold acesOf
  rw [List.map_map]
  exact List.map_congr_left fun grant hgrant =>
    canonical_grantAce (h grant hgrant).2.2.1 (h grant hgrant).2.2.2 isDirectory

section

variable {serviceSid : Sddl} (hsid : serviceSid ∉ wellKnownTrustees) (hplain : Plain serviceSid)

include hsid

theorem spelt_service : canonicalTrustee serviceSid = serviceSid :=
  (canonicalTrustee_eq_service_iff hsid).mp (List.mem_singleton_self _)

include hplain

theorem spelt_programGrants : Spelt (programGrants serviceSid) := by
  unfold Spelt programGrants
  simp only [List.forall_mem_cons]
  exact ⟨by decide +kernel, by decide +kernel, by decide +kernel,
    ⟨by decide, hplain, by decide, spelt_service hsid⟩, by simp⟩

theorem spelt_managedGrants (service : Bool) :
    Spelt (managedGrants (if service then some serviceSid else none)) := by
  cases service
  · show ∀ grant ∈ managedGrants none, _
    decide +kernel
  · unfold Spelt managedGrants
    simp only [if_true, Option.map_some, Option.toList_some, List.cons_append, List.nil_append, List.forall_mem_cons]
    exact ⟨by decide +kernel, by decide +kernel, ⟨by decide, hplain, by decide, spelt_service hsid⟩,
      by decide +kernel, by simp⟩

/-- A check of a descriptor that is set is one of the template's entries. -/
theorem canonical_acesOf_programGrants (isDirectory : Bool) :
    (acesOf (programGrants serviceSid) isDirectory).map canonical = programTemplate serviceSid isDirectory :=
  (spelt_programGrants hsid hplain).canonical isDirectory

theorem canonical_acesOf_managedGrants (service isDirectory : Bool) :
    (acesOf (managedGrants (if service then some serviceSid else none)) isDirectory).map canonical =
      managedTemplate serviceSid service isDirectory := by
  rw [(spelt_managedGrants hsid hplain service).canonical isDirectory]
  cases service <;> rfl

theorem forTarget_programSecurityDescriptor (isDirectory : Bool) :
    managedSecurityDescriptorForTarget (programSecurityDescriptor serviceSid) isDirectory =
      render (.short 'S' 'Y') "P".toList (acesOf (programGrants serviceSid) isDirectory) := by
  rw [programSecurityDescriptor_eq]
  exact managedSecurityDescriptorForTarget_descriptorOf
    (fun grant hgrant => ⟨(spelt_programGrants hsid hplain grant hgrant).1,
      (spelt_programGrants hsid hplain grant hgrant).2.1⟩) isDirectory

theorem forTarget_managedStateSecurityDescriptor (service isDirectory : Bool) :
    managedSecurityDescriptorForTarget
      (managedStateSecurityDescriptor (if service then some serviceSid else none)) isDirectory =
      render (.short 'S' 'Y') "P".toList
        (acesOf (managedGrants (if service then some serviceSid else none)) isDirectory) := by
  rw [managedStateSecurityDescriptor_eq]
  exact managedSecurityDescriptorForTarget_descriptorOf
    (fun grant hgrant => ⟨(spelt_managedGrants hsid hplain service grant hgrant).1,
      (spelt_managedGrants hsid hplain service grant hgrant).2.1⟩) isDirectory

end

/-- The users of a program directory have no place in the template of the state. -/
theorem not_perm_programTemplate {serviceSid : Sddl} (hsid : serviceSid ∉ wellKnownTrustees)
    (service isDirectory : Bool) :
    ¬ (programTemplate serviceSid isDirectory).Perm (managedTemplate serviceSid service isDirectory) := by
  intro h
  have husers : grantAce isDirectory "0x1200a9".toList "BU".toList ∈ managedTemplate serviceSid service isDirectory :=
    h.subset (by simp [programTemplate])
  have htrustee := List.mem_map_of_mem (f := Ace.trustee) husers
  have hsub : (managedTemplate serviceSid service isDirectory).map Ace.trustee ⊆
      ["SY".toList, "BA".toList, serviceSid, "OW".toList] := by
    cases service
    · show ["SY".toList, "BA".toList, "OW".toList] ⊆ _
      intro trustee hmem
      simp only [List.mem_cons, List.not_mem_nil, or_false] at hmem ⊢
      tauto
    · exact List.Subset.refl _
  have hmem : "BU".toList ∈ ["SY".toList, "BA".toList, serviceSid, "OW".toList] := hsub htrustee
  have hservice : "BU".toList = serviceSid := by
    simp only [List.mem_cons, List.not_mem_nil, or_false] at hmem
    rcases hmem with h | h | h | h
    · exact absurd h (by decide)
    · exact absurd h (by decide)
    · exact h
    · exact absurd h (by decide)
  exact hsid (hservice ▸ by decide)

theorem not_perm_managedTemplate (serviceSid : Sddl) (service isDirectory : Bool) :
    ¬ (managedTemplate serviceSid service isDirectory).Perm (managedTemplate serviceSid (!service) isDirectory) := by
  intro h
  have hlength := h.length_eq
  cases service
  · exact absurd hlength (by simp [managedTemplate])
  · exact absurd hlength (by simp [managedTemplate])

/-- The checks accept the descriptors whose owner is the system, that are protected, and whose entries are those of
the template. -/
theorem dacl_checkers_exact {serviceSid : Sddl} (hsid : serviceSid ∉ wellKnownTrustees)
    (requireServiceAccess isDirectory : Bool) :
    (∀ (owner : Owner) (control : Sddl) (aces : List Ace), Plain control → (∀ ace ∈ aces, ace.Plain) →
      (parseProgramDacl (render owner control aces) serviceSid isDirectory = .ok () ↔
        owner = .short 'S' 'Y' ∧ (control = "P".toList ∨ control = "PAI".toList) ∧
          (aces.map canonical).Perm (programTemplate serviceSid isDirectory)) ∧
      (parseManagedDacl (render owner control aces) serviceSid requireServiceAccess isDirectory = .ok () ↔
        owner = .short 'S' 'Y' ∧ (control = "P".toList ∨ control = "PAI".toList) ∧
          (aces.map canonical).Perm (managedTemplate serviceSid requireServiceAccess isDirectory))) ∧
    (Plain serviceSid →
      let program := managedSecurityDescriptorForTarget (programSecurityDescriptor serviceSid) isDirectory
      let managed := managedSecurityDescriptorForTarget
        (managedStateSecurityDescriptor (if requireServiceAccess then some serviceSid else none)) isDirectory
      parseProgramDacl program serviceSid isDirectory = .ok () ∧
      parseManagedDacl managed serviceSid requireServiceAccess isDirectory = .ok () ∧
      parseManagedDacl program serviceSid (!requireServiceAccess) isDirectory ≠ .ok () ∧
      parseManagedDacl managed serviceSid (!requireServiceAccess) isDirectory ≠ .ok ()) := by
  refine ⟨fun owner control aces hcontrol haces => ⟨parseProgramDacl_render hsid owner hcontrol haces isDirectory,
    parseManagedDacl_render hsid owner hcontrol haces requireServiceAccess isDirectory⟩, fun hplain => ?_⟩
  have hprogram := (spelt_programGrants hsid hplain).plain isDirectory
  have hmanaged := (spelt_managedGrants hsid hplain requireServiceAccess).plain isDirectory
  have hcontrol : Plain "P".toList := by decide
  simp only [forTarget_programSecurityDescriptor hsid hplain, forTarget_managedStateSecurityDescriptor hsid hplain]
  rw [parseProgramDacl_render hsid _ hcontrol hprogram, parseManagedDacl_render hsid _ hcontrol hmanaged, ne_eq,
    parseManagedDacl_render hsid _ hcontrol hprogram, ne_eq, parseManagedDacl_render hsid _ hcontrol hmanaged,
    canonical_acesOf_programGrants hsid hplain, canonical_acesOf_managedGrants hsid hplain]
  refine ⟨⟨rfl, .inl rfl, List.Perm.refl _⟩, ⟨rfl, .inl rfl, List.Perm.refl _⟩, ?_, ?_⟩
  · rintro ⟨-, -, hperm⟩
    exact not_perm_programTemplate hsid (!requireServiceAccess) isDirectory hperm
  · rintro ⟨-, -, hperm⟩
    exact not_perm_managedTemplate serviceSid requireServiceAccess isDirectory hperm

/-- Entries out of order and in other spellings. -/
def shuffledAces : List Ace := [
  ⟨"A".toList, "CIOI".toList, "0x001301bf".toList, [], [], "S-1-5-80-7".toList⟩,
  ⟨"A".toList, "OICI".toList, "FA".toList, [], [], "S-1-5-32-544".toList⟩,
  ⟨"A".toList, "OICI".toList, "RC".toList, [], [], "S-1-3-4".toList⟩,
  ⟨"A".toList, "CIOI".toList, "FA".toList, [], [], "SY".toList⟩]

theorem dacl_checkers_exact_directory :
    parseManagedDacl (render (.short 'S' 'Y') "PAI".toList shuffledAces) "S-1-5-80-7".toList true true = .ok () ∧
    parseManagedDacl (render (.short 'S' 'Y') "PAI".toList (shuffledAces ++ shuffledAces.take 1)) "S-1-5-80-7".toList
      true true ≠ .ok () ∧
    parseProgramDacl (programSecurityDescriptor "S-1-5-80-7".toList) "S-1-5-80-7".toList true = .ok () := by
  have h := @dacl_checkers_exact "S-1-5-80-7".toList (by decide) true true
  refine ⟨(h.1 _ _ _ (by decide) (by decide +kernel)).2.mpr ⟨rfl, .inr rfl, by decide +kernel⟩, fun hok => ?_,
    (h.2 (by decide)).1⟩
  exact absurd ((h.1 _ _ _ (by decide) (by decide +kernel)).2.mp hok).2.2 (by decide +kernel)

end Maintenance

end Xsoc
