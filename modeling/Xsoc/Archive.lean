import Mathlib.Logic.Relation
import Xsoc.Binding

/-!
# Archiving an incompatible account

The four files of the account are copied and removed one by one, the journal first and the token last. A crash or an
I/O error may come between any two writes, and the archiving may be started again.

* `Disk.entry` : what the directory has under a name, whatever a decoder makes of it;
* `run_archiveFile` : what archiving one file does; `Disk.cleared`, `cleared_of_mem` : the states that archiving passes
  through;
* `Retains` : nothing is lost; `retains_of_attempts` : however often the archiving is interrupted;
* `archive_safe_iff` : when the credential that is left behind still belongs together.
-/

set_option autoImplicit false

namespace Xsoc

open Durable

/-! ## Names and bytes -/

/-- What the directory holds, without what a decoder finds in it. -/
def File.erase {α : Type} : File α → File Unit
  | .absent => .absent
  | .refused why => .refused why
  | .holds contents => .holds ⟨contents.bytes, ()⟩

/-- What the directory has under the name of a file. -/
def Disk.entry (d : Disk) : StateFile → File Unit
  | .identity => d.identity.erase
  | .credential => d.credential.erase
  | .pairing => d.pairing.erase
  | .authorization => d.authorization.erase
  | .binding => d.binding.erase

/-- The files of the account, in the order in which they are archived. -/
def accountFiles : List StateFile := [.pairing, .authorization, .binding, .credential]

/-- No archive has the name that archiving `file` would give to its copy. -/
def FreshName (file : StateFile) (archiveId : Uuid) (d : Disk) : Prop :=
  ∀ a ∈ d.archives, a.1 ≠ archiveName file archiveId

/-- The directory with one more archive. -/
def Disk.copy (d : Disk) (name : String) (bytes : List UInt8) : Disk :=
  { d with archives := (name, bytes) :: d.archives }

section

variable {α : Type} {file : StateFile} {get : Disk → File α} {archiveId : Uuid} {d : Disk}

theorem erase_absent {f : File α} (h : f.erase = .absent) : f = .absent := by
  cases f with
  | absent => rfl
  | refused why => cases h
  | holds contents => cases h

/-- What archiving one file does. -/
inductive Archived (file : StateFile) (archiveId : Uuid) (d : Disk) : List Disk × Except Error (Option String) → Prop
  | absent (hentry : d.entry file = .absent) : Archived file archiveId d ([], .ok none)
  | refused (why : Refusal) (e : Error) (hentry : d.entry file = .refused why) :
    Archived file archiveId d ([], .error e)
  | taken (e : Error) (htaken : ¬ FreshName file archiveId d) : Archived file archiveId d ([], .error e)
  | moved (bytes : List UInt8) (hentry : d.entry file = .holds ⟨bytes, ()⟩) (hfresh : FreshName file archiveId d) :
      Archived file archiveId d ([d.copy (archiveName file archiveId) bytes,
        (d.copy (archiveName file archiveId) bytes).clear file], .ok (some (archiveName file archiveId)))

theorem run_archiveFile (hget : (get d).erase = d.entry file) :
    Archived file archiveId d (archiveFile file get archiveId d) := by
  have hany : d.archives.any (fun a => a.1 == archiveName file archiveId) = false ↔ FreshName file archiveId d := by
    simp [FreshName, List.any_eq_false]
  unfold archiveFile
  rw [Tx.run_bind, Tx.run_read]
  match hfile : get d with
  | .absent => exact .absent (by rw [← hget, hfile]; rfl)
  | .refused why => exact .refused why _ (by rw [← hget, hfile]; rfl)
  | .holds contents =>
    simp only [File.read, Tx.last_nil, List.nil_append, Tx.run_bind, Tx.run_read, Tx.run_ensure, Tx.run_write]
    by_cases hfresh : d.archives.any (fun a => a.1 == archiveName file archiveId) = false
    · simp only [if_pos hfresh, Tx.run_pure, List.nil_append, List.append_nil, Tx.last_cons, Tx.last_nil]
      exact .moved contents.bytes (by rw [← hget, hfile]; rfl) (hany.mp hfresh)
    · simp only [if_neg hfresh]
      exact .taken _ (fun h => hfresh (hany.mpr h))

end

/-! ## What is kept -/

/-- Nothing of `d` is lost in `s`: the identity and the archives stay, and every file of the account is still there,
byte for byte, under its name or under one that no archive of `d` had. -/
structure Retains (d s : Disk) : Prop where
  identity : s.identity = d.identity
  archives : d.archives <:+ s.archives
  evidence : ∀ file ∈ accountFiles, ∀ bytes, d.entry file = .holds ⟨bytes, ()⟩ →
    s.entry file = .holds ⟨bytes, ()⟩ ∨ ∃ name, (name, bytes) ∈ s.archives ∧ ∀ a ∈ d.archives, a.1 ≠ name

theorem Retains.refl (d : Disk) : Retains d d := ⟨rfl, List.suffix_refl _, fun _ _ _ h => Or.inl h⟩

theorem Retains.trans {d s t : Disk} (hs : Retains d s) (ht : Retains s t) : Retains d t where
  identity := ht.identity.trans hs.identity
  archives := hs.archives.trans ht.archives
  evidence file hfile bytes hentry := by
    rcases hs.evidence file hfile bytes hentry with hstill | ⟨name, hmem, hnew⟩
    · rcases ht.evidence file hfile bytes hstill with hstill | ⟨name, hmem, hnew⟩
      · exact Or.inl hstill
      · exact Or.inr ⟨name, hmem, fun a ha => hnew a (hs.archives.subset ha)⟩
    · exact Or.inr ⟨name, ht.archives.subset hmem, hnew⟩

theorem entry_copy (d : Disk) (name : String) (bytes : List UInt8) (file : StateFile) :
    (d.copy name bytes).entry file = d.entry file := by
  cases file <;> rfl

theorem entry_clear (d : Disk) {file other : StateFile} (hne : other ≠ file) :
    (d.clear file).entry other = d.entry other := by
  cases file <;> cases other <;> first | rfl | exact absurd rfl hne

theorem archives_clear (d : Disk) (file : StateFile) : (d.clear file).archives = d.archives := by
  cases file <;> rfl

theorem identity_clear (d : Disk) (file : StateFile) : (d.clear file).identity = d.identity := by
  cases file <;> rfl

theorem retains_copy (d : Disk) (name : String) (bytes : List UInt8) : Retains d (d.copy name bytes) where
  identity := rfl
  archives := List.suffix_cons _ _
  evidence file _ _ hentry := Or.inl ((entry_copy d name bytes file).trans hentry)

/-- The file may go once there is a copy of it under a fresh name. -/
theorem retains_moved {d : Disk} {file : StateFile} {bytes : List UInt8} {archiveId : Uuid}
    (hentry : d.entry file = .holds ⟨bytes, ()⟩) (hfresh : FreshName file archiveId d) :
    Retains d ((d.copy (archiveName file archiveId) bytes).clear file) where
  identity := identity_clear _ _
  archives := by
    rw [archives_clear]
    exact List.suffix_cons _ _
  evidence other _ b hother := by
    by_cases hsame : other = file
    · subst hsame
      rw [hentry] at hother
      cases hother
      refine Or.inr ⟨_, ?_, hfresh⟩
      rw [archives_clear]
      exact List.mem_cons_self
    · exact Or.inl ((entry_clear _ hsame).trans ((entry_copy _ _ _ _).trans hother))

/-! ## The states that archiving passes through -/

/-- The directory after the first `k` files of the account were archived. -/
def Disk.cleared (d : Disk) (archives : List (String × List UInt8)) (k : Nat) : Disk where
  identity := d.identity
  credential := if k ≤ 3 then d.credential else .absent
  pairing := if k = 0 then d.pairing else .absent
  authorization := if k ≤ 1 then d.authorization else .absent
  binding := if k ≤ 2 then d.binding else .absent
  archives := archives

/-- A state on the way, from which nothing of `d` is lost. -/
def OnTheWay (d s : Disk) : Prop := Retains d s ∧ ∃ archives k, s = d.cleared archives k

/-- The archive names of `archiveId` are free for the files from the `k`-th on. -/
def FreshFrom (k : Nat) (archiveId : Uuid) (d : Disk) : Prop := ∀ file ∈ accountFiles.drop k, FreshName file archiveId d

/-- Every file of the account can be read, or is absent. -/
def Disk.Readable (d : Disk) : Prop := ∀ file ∈ accountFiles, ∀ why, d.entry file ≠ .refused why

theorem archiveName_injective {file other : StateFile} {archiveId : Uuid}
    (h : archiveName file archiveId = archiveName other archiveId) : file = other := by
  have hname : file.name = other.name := by
    have hlist := congrArg String.toList h
    simp only [archiveName, String.toList_append, List.append_assoc] at hlist
    exact String.toList_inj.mp (List.append_cancel_right hlist)
  cases file <;> cases other <;> first | rfl | exact absurd hname (by decide)

section

variable {α : Type} {d : Disk} {archives : List (String × List UInt8)} {k : Nat} {file : StateFile}
    {get : Disk → File α}
  {archiveId : Uuid} {a : Writer} {h : Chronicle}

/-- **Archiving one file**, the `k`-th, where the ones before it are archived. -/
theorem wp_archiveStep {Q : Except Error (Option String) → Chronicle → Prop} (hk : accountFiles[k]? = some file)
    (hget : ∀ s, (get s).erase = s.entry file) (hnow : h.now = d.cleared archives k) (hret : Retains d h.now)
    (hok : ∀ x archives' k', k'.now = d.cleared archives' (k + 1) → Retains d k'.now →
      (FreshFrom k archiveId h.now → FreshFrom (k + 1) archiveId k'.now) → Q (.ok x) k')
    (herr : (d.Readable → ¬ FreshFrom k archiveId h.now) → ∀ e, Q (.error e) h) :
    Tx.wp (fun _ w => OnTheWay d w.state) a (archiveFile file get archiveId) Q h := by
  have hentry : (d.cleared archives k).entry file = d.entry file := by
    match k, hk with
    | 0, rfl | 1, rfl | 2, rfl | 3, rfl => rfl
  have hclear : ∀ l, (d.cleared l k).clear file = d.cleared l (k + 1) := by
    intro l
    match k, hk with
    | 0, rfl | 1, rfl | 2, rfl | 3, rfl => rfl
  have habsent : d.entry file = .absent → d.cleared archives k = d.cleared archives (k + 1) := by
    intro hfile
    match k, hk with
    | 0, rfl | 1, rfl | 2, rfl | 3, rfl =>
      have hgone := erase_absent hfile
      simp [Disk.cleared, hgone]
  have hmem : file ∈ accountFiles := List.mem_of_getElem? hk
  have hdrop : accountFiles.drop k = file :: accountFiles.drop (k + 1) := by
    match k, hk with
    | 0, rfl | 1, rfl | 2, rfl | 3, rfl => rfl
  have hrun : Archived file archiveId h.now (archiveFile file get archiveId h.now) := run_archiveFile (hget h.now)
  unfold Tx.wp
  generalize archiveFile file get archiveId h.now = r at hrun ⊢
  cases hrun with
  | absent hfile =>
    rw [hnow, hentry] at hfile
    refine ⟨trivial, hok none archives h (hnow.trans (habsent hfile)) hret (fun hfresh other hother => ?_)⟩
    exact hfresh other (by rw [hdrop]; exact List.mem_cons_of_mem _ hother)
  | refused why e hfile =>
    rw [hnow, hentry] at hfile
    exact ⟨trivial, herr (fun hread => absurd hfile (hread file hmem why)) e⟩
  | taken e htaken =>
    refine ⟨trivial, herr (fun _ hfresh => htaken (hfresh file ?_)) e⟩
    rw [hdrop]
    exact List.mem_cons_self
  | moved bytes hfile hfresh =>
    have hcopied := hret.trans (retains_copy h.now (archiveName file archiveId) bytes)
    have hmoved := hret.trans (retains_moved hfile hfresh)
    have hstate : (h.now.copy (archiveName file archiveId) bytes).clear file =
        d.cleared ((archiveName file archiveId, bytes) :: archives) (k + 1) := by
      rw [hnow]
      exact hclear _
    refine ⟨⟨⟨hcopied, (archiveName file archiveId, bytes) :: archives, k, ?_⟩, ⟨hmoved, _, _, hstate⟩, trivial⟩, ?_⟩
    · change h.now.copy _ _ = _
      rw [hnow]
      rfl
    · refine hok _ _ _ hstate hmoved (fun hall other hother => ?_)
      have hne : other ≠ file := by
        rintro rfl
        match k, hk with
        | 0, rfl | 1, rfl | 2, rfl | 3, rfl => exact absurd hother (by decide)
      intro x hx
      change x ∈ ((h.now.copy _ _).clear file).archives at hx
      rw [archives_clear] at hx
      rcases List.mem_cons.mp hx with rfl | hx
      · exact fun hname => hne (archiveName_injective hname.symm)
      · exact hall other (by rw [hdrop]; exact List.mem_cons_of_mem _ hother) x hx

/-- **Archiving the account**: every state on the way retains what was there; and where every file can be read, and the
names are fresh, the archiving completes. -/
theorem wp_archiveAll (d : Disk) (a : Writer) (i : Inputs) :
    Tx.wp (fun _ w => OnTheWay d w.state) a (archiveIncompatibleAccountState i) (fun r k =>
      (d.Readable → FreshFrom 0 i.archiveId d → ∃ names, r = .ok names) ∧
      ∀ names, r = .ok names → Retains d k.now ∧ ∃ archives, k.now = d.cleared archives 4) ⟨d, []⟩ := by
  unfold archiveIncompatibleAccountState
  simp only [Tx.wp_bind]
  have hfailed : ∀ {P : Prop} e names, (.error e : Except Error (List String)) = .ok names → P := by
    intro P e names h
    cases h
  have hnow : (⟨d, []⟩ : Chronicle).now = d.cleared d.archives 0 := rfl
  refine wp_archiveStep rfl (fun _ => rfl) hnow (Retains.refl d) ?_ ?_
  case refine_2 => exact fun hstop e => ⟨fun hread hfresh => absurd hfresh (hstop hread), hfailed e⟩
  intro x₁ l₁ h₁ hnow₁ hret₁ hfresh₁
  refine wp_archiveStep rfl (fun _ => rfl) hnow₁ hret₁ ?_ ?_
  case refine_2 => exact fun hstop e => ⟨fun hread hfresh => absurd (hfresh₁ hfresh) (hstop hread), hfailed e⟩
  intro x₂ l₂ h₂ hnow₂ hret₂ hfresh₂
  refine wp_archiveStep rfl (fun _ => rfl) hnow₂ hret₂ ?_ ?_
  case refine_2 => exact fun hstop e => ⟨fun hread hfresh => absurd (hfresh₂ (hfresh₁ hfresh)) (hstop hread), hfailed e⟩
  intro x₃ l₃ h₃ hnow₃ hret₃ hfresh₃
  refine wp_archiveStep rfl (fun _ => rfl) hnow₃ hret₃ ?_ ?_
  case refine_2 =>
    exact fun hstop e => ⟨fun hread hfresh => absurd (hfresh₃ (hfresh₂ (hfresh₁ hfresh))) (hstop hread), hfailed e⟩
  intro x₄ l₄ h₄ hnow₄ hret₄ _
  simp only [Tx.wp_pure]
  exact ⟨fun _ _ => ⟨_, rfl⟩, fun _ _ => ⟨hret₄, l₄, hnow₄⟩⟩

/-! ## Interrupted again and again -/

/-- A state that some number of attempts to archive, each cut short somewhere, leave. -/
def Attempted : Disk → Disk → Prop :=
  Relation.ReflTransGen (fun s t => ∃ i, t ∈ (archiveIncompatibleAccountState i).writes s)

theorem onTheWay_of_mem {s : Disk} {i : Inputs} {t : Disk}
    (ht : t ∈ (archiveIncompatibleAccountState i).writes s) : OnTheWay s t :=
  Tx.mem_of_wp (wp_archiveAll s ⟨.archiveIncompatibleAccountState, [], i⟩ i) t ht

theorem cleared_cleared (d : Disk) (l l' : List (String × List UInt8)) (k k' : Nat) :
    (d.cleared l k).cleared l' k' = d.cleared l' (max k k') := by
  have hle : ∀ n, max k k' ≤ n ↔ k ≤ n ∧ k' ≤ n := fun n => max_le_iff
  have hzero : max k k' = 0 ↔ k = 0 ∧ k' = 0 := by omega
  simp only [Disk.cleared, hle, hzero]
  congr 1 <;> split <;> split <;> simp_all

theorem onTheWay_of_attempted {s : Disk} (hs : Attempted d s) : OnTheWay d s := by
  induction hs with
  | refl => exact ⟨Retains.refl d, d.archives, 0, rfl⟩
  | tail _ hstep ih =>
    obtain ⟨i, ht⟩ := hstep
    obtain ⟨hret, l, k, rfl⟩ := ih
    obtain ⟨hret', l', k', rfl⟩ := onTheWay_of_mem ht
    exact ⟨hret.trans hret', l', max k k', cleared_cleared _ _ _ _ _⟩

theorem entry_cleared (d : Disk) (l : List (String × List UInt8)) (k : Nat) {file : StateFile}
    (hfile : file ∈ accountFiles) : (d.cleared l k).entry file = d.entry file ∨
      (d.cleared l k).entry file = .absent := by
  cases file with
  | identity => exact absurd hfile (by decide)
  | credential | pairing | authorization | binding =>
    simp only [Disk.entry, Disk.cleared]
    split
    · exact Or.inl rfl
    · exact Or.inr rfl

theorem Disk.Readable.cleared (hd : d.Readable) (l : List (String × List UInt8)) (k : Nat) :
    (d.cleared l k).Readable := by
  intro file hfile why hentry
  rcases entry_cleared d l k hfile with hsame | habs
  · exact hd file hfile why (hsame.symm.trans hentry)
  · rw [habs] at hentry
    cases hentry

/-- Binding, token and identity of a directory are those of one journal that was there. -/
structure Matching (ext : External) (h : Chronicle) (d : Disk) (j : Activating) : Prop where
  journal : Seen h (.activating j)
  binding : d.binding = j.binding.file
  credential : d.credential = (putCredential j.bearerSecret d).credential
  identity : d.identity = (putIdentity j.instanceId d).identity

theorem Genuine.matching {ext : External} {j : Activating} (hg : Genuine ext h j) : Matching ext h h.now j :=
  ⟨hg.journal, hg.binding, hg.credential, hg.identity⟩

/-- Archiving is safe at `h`: whatever attempts are cut short, nothing is lost, a directory that is authorized has the
credential of one activation, and the next attempt that is not cut short removes the account and has it archived. -/
structure ArchiveSafe (ext : External) (h : Chronicle) : Prop where
  retains : ∀ s, Attempted h.now s → Retains h.now s
  matching : ∀ s, Attempted h.now s → s.Settled → s.Authorized → ∃ j, Matching ext h s j
  completes : ∀ s i, Attempted h.now s → FreshFrom 0 i.archiveId s →
    ∃ names, (archiveIncompatibleAccountState i).result s = .ok names ∧
      ∀ file ∈ accountFiles, (Tx.last s ((archiveIncompatibleAccountState i).writes s)).entry file = .absent ∧
        ∀ bytes, h.now.entry file = .holds ⟨bytes, ()⟩ →
          ∃ name, (name, bytes) ∈ (Tx.last s ((archiveIncompatibleAccountState i).writes s)).archives

theorem completes_of_attempted {s : Disk} {i : Inputs} (hread : d.Readable) (hs : Attempted d s)
    (hfresh : FreshFrom 0 i.archiveId s) :
    ∃ names, (archiveIncompatibleAccountState i).result s = .ok names ∧
      ∀ file ∈ accountFiles, (Tx.last s ((archiveIncompatibleAccountState i).writes s)).entry file = .absent ∧
        ∀ bytes, d.entry file = .holds ⟨bytes, ()⟩ →
          ∃ name, (name, bytes) ∈ (Tx.last s ((archiveIncompatibleAccountState i).writes s)).archives := by
  obtain ⟨hret, l, k, rfl⟩ := onTheWay_of_attempted hs
  obtain ⟨-, hcomplete, hdone⟩ := wp_archiveAll (d.cleared l k) ⟨.archiveIncompatibleAccountState, [], i⟩ i
  rw [Tx.now_extend] at hdone
  obtain ⟨names, hok⟩ := hcomplete (hread.cleared l k) hfresh
  obtain ⟨hret', l', hlast⟩ := hdone names hok
  refine ⟨names, hok, fun file hfile => ?_⟩
  have hgone : (Tx.last (d.cleared l k) ((archiveIncompatibleAccountState i).writes (d.cleared l k))).entry file =
      .absent := by
    change (Tx.last _ (archiveIncompatibleAccountState i _).1).entry file = _
    rw [show Tx.last (d.cleared l k) (archiveIncompatibleAccountState i (d.cleared l k)).1 =
      (d.cleared l k).cleared l' 4 from hlast]
    cases file with
    | identity => exact absurd hfile (by decide)
    | credential | pairing | authorization | binding => rfl
  refine ⟨hgone, fun bytes hentry => ?_⟩
  rcases (hret.trans hret').evidence file hfile bytes hentry with hstill | ⟨name, hmem, -⟩
  · exact absurd (hstill.symm.trans hgone) nofun
  · exact ⟨name, hmem⟩

/-- A journal that is there is removed before anything else is. -/
theorem attempted_without_journal {i : Inputs} (hread : d.Readable) (hfresh : FreshFrom 0 i.archiveId d) :
    ∃ s, Attempted d s ∧ s.pairing = .absent ∧ s.authorization = d.authorization ∧ s.binding = d.binding ∧
      s.credential = d.credential ∧ s.identity = d.identity := by
  have hfile : FreshName .pairing i.archiveId d := hfresh .pairing (by decide)
  have hrun : Archived .pairing i.archiveId d (archiveFile .pairing Disk.pairing i.archiveId d) := run_archiveFile rfl
  have hwrites : ∀ ws x, archiveFile .pairing Disk.pairing i.archiveId d = (ws, .ok x) →
      ∀ s ∈ ws, s ∈ (archiveIncompatibleAccountState i).writes d := by
    intro ws x hpairing s hs
    unfold Tx.writes archiveIncompatibleAccountState
    rw [Tx.run_bind_ok hpairing]
    exact List.mem_append_left _ hs
  generalize hr : archiveFile .pairing Disk.pairing i.archiveId d = r at hrun
  cases hrun with
  | absent hentry => exact ⟨d, .refl, erase_absent hentry, rfl, rfl, rfl, rfl⟩
  | refused why e hentry => exact absurd hentry (hread .pairing (by decide) why)
  | taken e htaken => exact absurd hfile htaken
  | moved bytes hentry _ =>
    refine ⟨_, .single ⟨i, hwrites _ _ hr _ (List.mem_cons_of_mem _ List.mem_cons_self)⟩, rfl, rfl, rfl, rfl, rfl⟩

/-- **When archiving is safe.** Take any directory, after any history, whose account can be read. Archiving it, cut
short and started again however often, is safe exactly if the directory, when it is authorized, has the credential of
one activation, whatever its journal says. -/
theorem archive_safe_iff (ext : External) (h : Chronicle) (i : Inputs) (hread : h.now.Readable)
    (hfresh : FreshFrom 0 i.archiveId h.now) :
    ArchiveSafe ext h ↔ (h.now.Authorized → ∃ j, Matching ext h h.now j) := by
  constructor
  · intro hsafe hauth
    obtain ⟨s, hs, hjournal, hauthorization, hbinding, hcredential, hidentity⟩ :=
      attempted_without_journal hread hfresh
    have hsettled : s.Settled := by
      intro j hj
      rw [hjournal] at hj
      cases hj
    have hs_auth : s.Authorized := by
      unfold Disk.Authorized
      rw [hauthorization]
      exact hauth
    obtain ⟨j, hj⟩ := hsafe.matching s hs hsettled hs_auth
    exact ⟨j, hj.journal, hbinding.symm.trans hj.binding, hcredential.symm.trans hj.credential,
      hidentity.symm.trans hj.identity⟩
  · intro hmatching
    refine ⟨fun s hs => (onTheWay_of_attempted hs).1, ?_, fun s i hs hi => completes_of_attempted hread hs hi⟩
    intro s hs _ hauth
    obtain ⟨-, l, k, rfl⟩ := onTheWay_of_attempted hs
    by_cases hk : k ≤ 1
    · -- Up to here nothing but the journal is gone.
      have hauthorization : (h.now.cleared l k).authorization = h.now.authorization := if_pos hk
      have hbinding : (h.now.cleared l k).binding = h.now.binding := if_pos (by omega)
      have hcredential : (h.now.cleared l k).credential = h.now.credential := if_pos (by omega)
      unfold Disk.Authorized at hauth
      rw [hauthorization] at hauth
      obtain ⟨j, hj⟩ := hmatching hauth
      exact ⟨j, hj.journal, hbinding.trans hj.binding, hcredential.trans hj.credential, hj.identity⟩
    · have hgone : (h.now.cleared l k).authorization = .absent := if_neg hk
      obtain ⟨auth, hload, hok⟩ := hauth
      rw [hgone] at hload
      cases hload
      cases hok

end

/-! ## A torn account -/

/-- The history of a pairing that ends with instance 9. -/
def samplePaired : Chronicle :=
  (⟨Disk.empty, []⟩ : Chronicle).extend ⟨.pollExisting (sampleConfig false), [], sampleInputs 1⟩
    ((persistActiveCredentials sampleServer (samplePending 1) (uuidOf 9) (sampleInputs 1)).writes
      (putPairing sampleServer.serde (.pending (samplePending 1)) Disk.empty))

theorem matching_samplePaired :
    Matching sampleServer samplePaired samplePaired.now ((samplePending 1).activating (uuidOf 9)) where
  journal := by
    have hstates : (samplePaired.origin :: samplePaired.writes.map Write.state).any (fun d =>
        loadState d.pairing = .ok (some (.activating ((samplePending 1).activating (uuidOf 9))))) = true := by
      decide +kernel
    obtain ⟨d, hmem, hload⟩ := List.any_eq_true.mp hstates
    obtain ⟨m, hm, rfl⟩ := exists_le_of_mem hmem
    exact ⟨m, hm, decide_eq_true_eq.mp hload⟩
  binding := by decide +kernel
  credential := by decide +kernel
  identity := by decide +kernel

/-- A paired account is archived safely. -/
theorem archive_safe_paired : ArchiveSafe sampleServer samplePaired := by
  have hread : samplePaired.now.Readable := by
    have hall : ∀ file ∈ accountFiles, (samplePaired.now.entry file matches .refused _) = false := by decide +kernel
    intro file hfile why hentry
    have hfile := hall file hfile
    rw [hentry] at hfile
    cases hfile
  have hfresh : FreshFrom 0 (sampleInputs 2).archiveId samplePaired.now := by
    have harchives : samplePaired.now.archives = [] := by decide +kernel
    intro file _ a ha
    rw [harchives] at ha
    cases ha
  exact (archive_safe_iff sampleServer samplePaired (sampleInputs 2) hread hfresh).mpr
    (fun _ => ⟨_, matching_samplePaired⟩)

/-- Request 1 is paired as instance 9. Request 2 recovers it, and its commit is interrupted after the token. -/
def tear : List (Action Call Inputs Reply) :=
  begin_ 0 (sampleConfig false) (sampleHost "h") .fresh 1 ++ ask 1 (sampleConfig false) ++ answered 1 [1, 9] 1 ++
  begin_ 0 (sampleConfig false) (sampleHost (uuidOf 9).toString) .recoverIdentity 2 ++ ask 1 (sampleConfig false) ++
  [.reply 1 (jsonReply [1, 9]), .turn 1 { sampleInputs 99 with fault := some (2, .refused .other) }, .ret 1]

namespace Torn

open Rehearsal (Client)

/-- The directory once archiving was cut short after the journal. -/
def rest (w : Client) : Disk :=
  Tx.last w.history.now (((archiveIncompatibleAccountState (sampleInputs 98)).writes w.history.now).take 2)

/-- There is no journal, and the directory is authorized. -/
def settled (w : Client) : Bool :=
  (rest w).pairing = .absent &&
  (match localAuthStateUnlocked (rest w).authorization with
    | .ok auth => isAuthorized auth
    | .error _ => false)

/-- No journal that there was has both the binding and the token of what is left. -/
def mismatched (w : Client) : Bool :=
  (w.history.origin :: w.history.writes.map Write.state).all (fun d => match loadState d.pairing with
    | .ok (some (.activating j)) => (rest w).binding ≠ j.binding.file ||
        (rest w).credential ≠ (putCredential j.bearerSecret (rest w)).credential
    | _ => true)

/-- The directory once a new request was begun on what is left. -/
def begun (w : Client) : Disk :=
  Tx.last (rest w) ((prepareStart sampleServer (sampleConfig false) (sampleHost "h") (sampleInputs 3)).writes (rest w))

/-- The reporter that the service starts with then: the token is of request 2, and the binding of request 1. -/
def mixes (w : Client) : Bool :=
  match (existingReporterForRun sampleServer (sampleConfig false) (sampleInputs 4)).result (begun w) with
  | .ok (some s) => s.reporter.token = sampleToken 2 && s.credentialRevision = (uuidOf 1, uuidOf 7)
  | _ => false

def holds (w : Client) : Bool := settled w && mismatched w && mixes w

theorem attempted_rest (w : Client) : Attempted w.history.now (rest w) := by
  unfold rest
  rcases Tx.last_mem w.history.now (((archiveIncompatibleAccountState (sampleInputs 98)).writes w.history.now).take 2)
    with heq | hmem
  · rw [heq]
    exact .refl
  · exact .single ⟨_, List.mem_of_mem_take hmem⟩

theorem not_matching_of_mismatched {w : Client} (hw : mismatched w = true)
    (j : Activating) :
    ¬ Matching sampleServer w.history (rest w) j := by
  rintro ⟨⟨m, hm, hload⟩, hbinding, hcredential, -⟩
  have hall := List.all_eq_true.mp hw _ (now_mem_of_le hm)
  rw [hload] at hall
  simp [← hbinding, ← hcredential] at hall

end Torn

theorem torn : ∃ w, ReachFrom sampleServer (fun _ => False) Disk.empty w ∧ Torn.holds w = true :=
  exists_reachFrom sampleServer (fun _ => False) Disk.empty tear Torn.holds (by decide +kernel)

/-- Archiving an account whose commit was interrupted, and cut short in turn, leaves an authorized directory with the
binding of one request and the token of another; once a new request is begun, the service sends that token to the
endpoint of that binding. -/
theorem archive_tears_credential :
    ∃ w s, ReachFrom sampleServer (fun _ => False) Disk.empty w ∧ Attempted w.history.now s ∧ s.Settled ∧
      s.Authorized ∧ (∀ j, ¬ Matching sampleServer w.history s j) ∧
      ∃ config host i i' r, (existingReporterForRun sampleServer config i').result
          (Tx.last s ((prepareStart sampleServer config host i).writes s)) = .ok (some r) ∧
        r.reporter.token = sampleToken 2 ∧ r.credentialRevision = (uuidOf 1, uuidOf 7) := by
  obtain ⟨w, hr, hholds⟩ := torn
  simp only [Torn.holds, Bool.and_eq_true] at hholds
  obtain ⟨⟨hsettled, hmismatched⟩, hmixes⟩ := hholds
  obtain ⟨hjournal, hauth⟩ := (Bool.and_eq_true _ _).mp hsettled
  refine ⟨w, Torn.rest w, hr, Torn.attempted_rest w, ?_, ?_, Torn.not_matching_of_mismatched hmismatched, ?_⟩
  · intro j hj
    rw [decide_eq_true_eq.mp hjournal] at hj
    cases hj
  · split at hauth
    · rename_i auth hread
      exact ⟨auth, hread, hauth⟩
    · cases hauth
  · unfold Torn.mixes at hmixes
    split at hmixes
    · rename_i r hr
      simp only [Bool.and_eq_true, decide_eq_true_eq] at hmixes
      exact ⟨_, _, _, _, r, hr, hmixes⟩
    · cases hmixes

end Xsoc
