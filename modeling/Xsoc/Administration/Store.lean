import Xsoc.Administration.Commands
import Xsoc.Machines.Crowd

/-!
# Commands side by side

Commands and the service use the configuration, the state of pairing and the lock `maintenance.lock` of the state
directory at the same time, and any of them may end between two calls.

* `Shared`, `serve` : what they share, and what a call is answered and leaves;
* `Guarantee`, `Reliance` : what each of them keeps to, and may expect of the others;
* `Commit.Justified` : what a configuration that is stored comes from;
* `commits_justified` : this holds of every configuration that is ever stored.
-/

set_option autoImplicit false

namespace Xsoc

open Dialogue

namespace Administration

open Setup (Args Failure fail)

/-- `persist_durable_config` does not store what was said on the command line. -/
def persisted (c : ClientConfig) : ClientConfig := { c with replacePendingPairing := false }

/-- Who has stored what, and from what; what it took the place of, and what the state of pairing was then. -/
structure Commit where
  author : Nat
  basis : Basis
  written : ClientConfig
  replaced : Option ClientConfig
  pairing : LocalPairingStatus

structure Shared where
  stored : Option ClientConfig
  pairing : LocalPairingStatus
  /-- Who holds the lock of a state directory. -/
  holder : PathBuf → Option Nat
  /-- The latest first. -/
  commits : List Commit

namespace Shared

def setHolder (s : Shared) (dir : PathBuf) (o : Option Nat) : Shared :=
  { s with holder := Function.update s.holder dir o }

def commit (s : Shared) (author : Nat) (basis : Basis) (c : ClientConfig) : Shared :=
  { s with stored := some c, commits := ⟨author, basis, c, s.stored, s.pairing⟩ :: s.commits }

/-- A process that is gone holds no lock. -/
def bury (author : Nat) (s : Shared) : Shared :=
  { s with holder := fun dir => if s.holder dir = some author then none else s.holder dir }

end Shared

/-- A call that fails may have stored the configuration. -/
def Stores (s : Shared) (author : Nat) (basis : Basis) (c : ClientConfig) (failed : Prop) (t : Shared) : Prop :=
  t = s.commit author basis c ∨ (failed ∧ t = s)

/-- What a call is answered, and leaves. -/
def serve : Server Shared Nat Call Reply
  | s, _, .configExists, r, t => t = s ∧ ∀ b, r = .ok b → b = s.stored.isSome
  | s, _, .load, r, t => t = s ∧ ∀ c, r = .ok c → s.stored = some c
  | s, author, .acquire dir, r, t =>
    (r = .ok () ∧ s.holder dir = none ∧ t = s.setHolder dir (some author)) ∨ ((∃ e, r = .error e) ∧ t = s)
  | s, author, .release dir, _, t => t = if s.holder dir = some author then s.setHolder dir none else s
  | s, _, .localStatus _, r, t => t = s ∧ ∀ x, r = .ok x → x = s.pairing
  | s, _, .archiveIncompatible _, _, t => ∃ x, t = { s with pairing := x }
  | s, _, .start _ _ _, _, t => ∃ x, t = { s with pairing := x }
  | s, _, .activate _ _ _ _, _, t => ∃ x, t = { s with pairing := x }
  | s, _, .poll _, _, t => ∃ x, t = { s with pairing := x }
  | s, author, .commitActive basis c _ _ _ endpoint, r, t =>
    Stores s author basis (persisted (applyActiveConfig c endpoint)) (∃ e, r = .error e) t
  | s, author, .persist basis c, r, t => Stores s author basis (persisted c) (∃ e, r = .error e) t
  | s, _, _, _, t => t = s

/-- The service, and the other commands that hold the lock: whatever they do, they leave the configuration. -/
def underGuard (body : ClientConfig → Script Value) : Script Value := do
  let c ← load
  guarded c.stateDir (body c)

section

variable (revisionOf : ClientConfig → Except Failure String) (newConfig : ClientConfig) (dir : PathBuf)

/-- A client that is paired, or about to be. -/
def Bound (existing : LocalPairingStatus) : Prop :=
  existing.activeReportEndpoint.isSome = true ∨ existing.progress.isSome = true

def SameServer (c c' : ClientConfig) : Prop := c.endpoint = c'.endpoint ∧ c.pairingEndpoint = c'.pairingEndpoint

/-- It is stored, or was. -/
def Past (earlier : List Commit) (stored o : Option ClientConfig) : Prop :=
  stored = o ∨ ∃ commit ∈ earlier, commit.replaced = o

/-- Where a configuration comes from. -/
def Commit.Justified (commit : Commit) (earlier : List Commit) : Prop :=
  match commit.basis with
  | .created => Past earlier commit.replaced none ∧
      ∃ endpoint, commit.written = persisted { newConfig with endpoint := endpoint }
  | .edited current existing => ∃ c, commit.replaced = some c ∧ revisionOf c = revisionOf current ∧
      commit.written.stateDir = c.stateDir ∧ (Bound existing → SameServer commit.written current)
  | .applied expected => ∃ c, commit.replaced = some c ∧ revisionOf c = .ok expected ∧
      commit.written.stateDir = c.stateDir ∧ (Bound commit.pairing → SameServer commit.written c)
  | .paired loaded => Past earlier commit.replaced loaded ∧
      ∃ endpoint, commit.written = persisted (applyActiveConfig (loaded.getD newConfig) endpoint)

/-- The state directory is that of the configuration, also where there is none yet. -/
def InPlace (s : Shared) : Prop := (s.stored.getD newConfig).stateDir = dir

/-- What a process may do to what is shared. -/
structure Guarantee (author : Nat) (s t : Shared) : Prop where
  holders : ∀ p, p ≠ author → (t.holder dir = some p ↔ s.holder dir = some p)
  outside : s.holder dir ≠ some author →
    t.stored = s.stored ∧ t.pairing = s.pairing ∧ t.commits = s.commits
  commits : (t.commits = s.commits ∧ t.stored = s.stored) ∨
    ∃ commit : Commit, t.commits = commit :: s.commits ∧ t.stored = some commit.written ∧
      commit.replaced = s.stored ∧ commit.author = author ∧ commit.Justified revisionOf newConfig s.commits ∧
      commit.written.stateDir = dir

/-- What it may rely on. -/
structure Reliance (author : Nat) (s t : Shared) : Prop where
  holder : t.holder dir = some author ↔ s.holder dir = some author
  held : s.holder dir = some author → t.stored = s.stored ∧ t.pairing = s.pairing
  inPlace : InPlace newConfig dir s → InPlace newConfig dir t
  past : ∀ o, Past s.commits s.stored o → Past t.commits t.stored o

end

variable {revisionOf : ClientConfig → Except Failure String} {newConfig : ClientConfig} {dir : PathBuf} {author : Nat}
  {o : Option ClientConfig} {s t u : Shared}

/-! ## The contract -/

theorem Guarantee.inPlace (h : Guarantee revisionOf newConfig dir author s t) (hs : InPlace newConfig dir s) :
    InPlace newConfig dir t := by
  unfold InPlace at hs ⊢
  rcases h.commits with ⟨-, hstored⟩ | ⟨commit, -, hstored, -, -, -, hdir⟩
  · rwa [hstored]
  · rwa [hstored]

theorem InPlace.of_stored {c : ClientConfig} (h : InPlace newConfig dir s) (hc : s.stored = some c) :
    c.stateDir = dir := by
  unfold InPlace at h
  rwa [hc] at h

theorem InPlace.of_none (h : InPlace newConfig dir s) (hnone : s.stored = none) : newConfig.stateDir = dir := by
  unfold InPlace at h
  rwa [hnone] at h

theorem Guarantee.past (h : Guarantee revisionOf newConfig dir author s t) {o : Option ClientConfig}
    (ho : Past s.commits s.stored o) : Past t.commits t.stored o := by
  unfold Past at ho ⊢
  rcases h.commits with ⟨hcommits, hstored⟩ | ⟨commit, hcommits, -, hreplaced, -, -, -⟩
  · rwa [hcommits, hstored]
  · rw [hcommits]
    rcases ho with ho | ⟨e, he, heo⟩
    · exact Or.inr ⟨commit, List.mem_cons_self, hreplaced.trans ho⟩
    · exact Or.inr ⟨e, List.mem_cons_of_mem _ he, heo⟩

theorem Guarantee.reliance (h : Guarantee revisionOf newConfig dir author s t) {p : Nat} (hp : p ≠ author) :
    Reliance newConfig dir p s t where
  holder := h.holders p hp
  held hheld := by
    have hother : s.holder dir ≠ some author := fun heq => hp (Option.some.inj (hheld.symm.trans heq))
    exact ⟨(h.outside hother).1, (h.outside hother).2.1⟩
  inPlace := h.inPlace
  past _ := h.past

theorem Reliance.refl (newConfig : ClientConfig) (author : Nat) (s : Shared) : Reliance newConfig dir author s s :=
  ⟨Iff.rfl, fun _ => ⟨rfl, rfl⟩, id, fun _ => id⟩

theorem Reliance.trans (h : Reliance newConfig dir author s t) (h' : Reliance newConfig dir author t u) :
    Reliance newConfig dir author s u where
  holder := h'.holder.trans h.holder
  held hheld := by
    obtain ⟨hstored, hpairing⟩ := h.held hheld
    obtain ⟨hstored', hpairing'⟩ := h'.held (h.holder.mpr hheld)
    exact ⟨hstored'.trans hstored, hpairing'.trans hpairing⟩
  inPlace hs := h'.inPlace (h.inPlace hs)
  past o ho := h'.past o (h.past o ho)

/-- A step that stores nothing, and leaves the locks of the others. -/
theorem Guarantee.of_stored (hstored : t.stored = s.stored) (hcommits : t.commits = s.commits)
    (hpairing : s.holder dir ≠ some author → t.pairing = s.pairing)
    (hholder : ∀ p, p ≠ author → (t.holder dir = some p ↔ s.holder dir = some p)) :
    Guarantee revisionOf newConfig dir author s t :=
  ⟨hholder, fun hnot => ⟨hstored, hpairing hnot, hcommits⟩, Or.inl ⟨hcommits, hstored⟩⟩

theorem Guarantee.here : Guarantee revisionOf newConfig dir author s s :=
  .of_stored rfl rfl (fun _ => rfl) fun _ _ => Iff.rfl

/-! ## Single calls -/

theorem eq_of_looks {c : Call} {r : Reply c} (hlooks : c.looks = true) (h : serve s author c r t) : t = s := by
  cases c with
  | acquire | release | archiveIncompatible | start | activate | poll | commitActive | persist => cases hlooks
  | configExists | load | localStatus => exact h.1
  | clock | loadFile | prompt | stdinDocument | editJson | validate | localAuthState | queue | loadHostIdentity
  | clientIdentity | sleep => exact h

theorem pairing_of_calm {c : Call} {r : Reply c} (hcalm : c.calm = true) (h : serve s author c r t) :
    ∃ x, t = { s with pairing := x } := by
  cases c with
  | acquire | release | commitActive | persist => cases hcalm
  | archiveIncompatible | start | activate | poll => exact h
  | configExists | load | localStatus => exact ⟨s.pairing, h.1⟩
  | clock | loadFile | prompt | stdinDocument | editJson | validate | localAuthState | queue | loadHostIdentity
  | clientIdentity | sleep => exact ⟨s.pairing, h⟩

/-- What a process has seen was stored then. -/
def Knows (newConfig : ClientConfig) (dir : PathBuf) (o : Option ClientConfig) (s : Shared) : Prop :=
  InPlace newConfig dir s ∧ Past s.commits s.stored o

theorem Knows.later {o : Option ClientConfig} (h : Knows newConfig dir o s)
    (hrely : Reliance newConfig dir author s t) :
    Knows newConfig dir o t :=
  ⟨hrely.inPlace h.1, hrely.past o h.2⟩

theorem InPlace.knows (h : InPlace newConfig dir s) (ho : s.stored = o) : Knows newConfig dir o s := ⟨h, Or.inl ho⟩

/-- It holds the lock, too. -/
def Held (newConfig : ClientConfig) (dir : PathBuf) (author : Nat) (o : Option ClientConfig) (s : Shared) : Prop :=
  Knows newConfig dir o s ∧ s.holder dir = some author

theorem Held.later (h : Held newConfig dir author o s) (hrely : Reliance newConfig dir author s t) :
    Held newConfig dir author o t :=
  ⟨h.1.later hrely, hrely.holder.mpr h.2⟩

theorem Held.stored_later (h : Held newConfig dir author o s) (hrely : Reliance newConfig dir author s t) :
    t.stored = s.stored :=
  (hrely.held h.2).1

theorem held_of_calm {c : Call} {r : Reply c} (hcalm : c.calm = true) (hheld : Held newConfig dir author o s)
    (h : serve s author c r t) : Held newConfig dir author o t := by
  obtain ⟨x, rfl⟩ := pairing_of_calm hcalm h
  exact hheld

theorem guarantee_of_calm {c : Call} {r : Reply c} (hcalm : c.calm = true) (hheld : Held newConfig dir author o s)
    (h : serve s author c r t) : Guarantee revisionOf newConfig dir author s t := by
  obtain ⟨x, rfl⟩ := pairing_of_calm hcalm h
  exact .of_stored rfl rfl (fun hnot => absurd hheld.2 hnot) fun _ _ => Iff.rfl

theorem holder_setHolder (s : Shared) (dir : PathBuf) (o : Option Nat) (dir' : PathBuf) :
    (s.setHolder dir o).holder dir' = if dir' = dir then o else s.holder dir' := by
  unfold Shared.setHolder Function.update
  simp

/-- A lock that is free, or one's own, changes hands. -/
theorem guarantee_setHolder {dir : PathBuf} {o : Option Nat}
    (hfree : s.holder dir = none ∨ s.holder dir = some author) (ho : o = none ∨ o = some author) :
    Guarantee revisionOf newConfig dir author s (s.setHolder dir o) := by
  refine .of_stored rfl rfl (fun _ => rfl) fun p hp => ?_
  rw [holder_setHolder]
  split
  · next heq =>
    rw [heq]
    have hne : some author ≠ some p := fun h => hp (Option.some.inj h).symm
    rcases hfree with hfree | hfree <;> rcases ho with rfl | rfl <;> simp [hfree, hne]
  · exact Iff.rfl

theorem guarantee_release {dir : PathBuf} {r : Reply (.release dir)} (h : serve s author (.release dir) r t) :
    Guarantee revisionOf newConfig dir author s t := by
  have ht : t = if s.holder dir = some author then s.setHolder dir none else s := h
  subst ht
  split
  · next hheld => exact guarantee_setHolder (Or.inr hheld) (Or.inl rfl)
  · exact .here

theorem guarantee_bury (author : Nat) (s : Shared) : Guarantee revisionOf newConfig dir author s (s.bury author) := by
  refine .of_stored rfl rfl (fun _ => rfl) fun p hp => ?_
  unfold Shared.bury
  dsimp only
  split
  · next heq =>
    rw [heq]
    exact ⟨(fun h => by cases h), fun h => absurd (Option.some.inj h).symm hp⟩
  · exact Iff.rfl

theorem guarantee_commit {basis : Basis} {c : ClientConfig} (hheld : Held newConfig dir author o s)
    (hdir : c.stateDir = dir)
    (hjustified : Commit.Justified revisionOf newConfig ⟨author, basis, c, s.stored, s.pairing⟩ s.commits) :
    Guarantee revisionOf newConfig dir author s (s.commit author basis c) where
  holders _ _ := Iff.rfl
  outside hnot := absurd hheld.2 hnot
  commits := Or.inr ⟨_, rfl, rfl, rfl, rfl, hjustified, hdir⟩

theorem guarantee_stores {basis : Basis} {c : ClientConfig} {failed : Prop} (hheld : Held newConfig dir author o s)
    (hdir : c.stateDir = dir)
    (hjustified : Commit.Justified revisionOf newConfig ⟨author, basis, c, s.stored, s.pairing⟩ s.commits)
    (h : Stores s author basis c failed t) : Guarantee revisionOf newConfig dir author s t := by
  rcases h with rfl | ⟨-, rfl⟩
  · exact guarantee_commit hheld hdir hjustified
  · exact .here

/-! ## Rules of the calls -/

section

variable {α : Type} {Q : α → Shared → Prop} {P : Shared → Prop}

/-- What the others leave as it is. -/
def Stable (newConfig : ClientConfig) (dir : PathBuf) (author : Nat) (P : Shared → Prop) : Prop :=
  ∀ s t, P s → Reliance newConfig dir author s t → P t

theorem stable_inPlace : Stable newConfig dir author (InPlace newConfig dir) := fun _ _ hs hrely => hrely.inPlace hs

theorem stable_knows : Stable newConfig dir author (Knows newConfig dir o) := fun _ _ hs hrely => hs.later hrely

theorem stable_held : Stable newConfig dir author (Held newConfig dir author o) := fun _ _ hs hrely => hs.later hrely

/-- The process holds the lock, and this is stored. -/
def HeldWith (newConfig : ClientConfig) (dir : PathBuf) (author : Nat) (o : Option ClientConfig) (c : ClientConfig)
    (s : Shared) : Prop :=
  Held newConfig dir author o s ∧ s.stored = some c

theorem stable_heldWith {c : ClientConfig} : Stable newConfig dir author (HeldWith newConfig dir author o c) :=
  fun _ _ hs hrely => ⟨hs.1.later hrely, (hs.1.stored_later hrely).trans hs.2⟩

theorem keeps_look_bind {c : Call} {f : Reply c → Script α} (hlooks : c.looks = true)
    (hstable : Stable newConfig dir author P) (hs : P s)
    (h : ∀ s r, P s → serve s author c r s →
      (f r).Keeps serve (Reliance newConfig dir) (Guarantee revisionOf newConfig dir) author s Q) :
    (ask c >>= f).Keeps serve (Reliance newConfig dir) (Guarantee revisionOf newConfig dir) author s Q := by
  refine Op.keeps_ask_bind hstable hs fun s r t hP hserve => ?_
  obtain rfl := eq_of_looks hlooks hserve
  exact ⟨.here, h t r hP hserve⟩

/-- A part that only looks. -/
theorem keeps_looking_bind {β : Type} {q : Script β} {f : β → Script α} (honly : q.Only fun c => c.looks = true)
    (hstable : Stable newConfig dir author P) (hs : P s)
    (h : ∀ b s, P s → (f b).Keeps serve (Reliance newConfig dir) (Guarantee revisionOf newConfig dir) author s Q) :
    (q >>= f).Keeps serve (Reliance newConfig dir) (Guarantee revisionOf newConfig dir) author s Q := by
  refine Op.keeps_bind (Op.keeps_of_only hstable (fun s c r t hlooks hP hserve => ?_) honly hs) h
  obtain rfl := eq_of_looks hlooks hserve
  exact ⟨.here, hP⟩

/-- A part that stores nothing, under the lock. -/
theorem keeps_calm {q : Script α} (honly : q.Only fun c => c.calm = true) (hs : Held newConfig dir author o s) :
    q.Keeps serve (Reliance newConfig dir) (Guarantee revisionOf newConfig dir) author s
      fun _ t => Held newConfig dir author o t :=
  Op.keeps_of_only stable_held
    (fun _ _ _ _ hcalm hP hserve => ⟨guarantee_of_calm hcalm hP hserve, held_of_calm hcalm hP hserve⟩) honly hs

theorem keeps_calm_bind {β : Type} {q : Script β} {f : β → Script α} (honly : q.Only fun c => c.calm = true)
    (hs : Held newConfig dir author o s)
    (h : ∀ b s, Held newConfig dir author o s →
      (f b).Keeps serve (Reliance newConfig dir) (Guarantee revisionOf newConfig dir) author s Q) :
    (q >>= f).Keeps serve (Reliance newConfig dir) (Guarantee revisionOf newConfig dir) author s Q :=
  Op.keeps_bind (keeps_calm honly hs) h

/-- What is read was stored. -/
theorem keeps_load (hstable : Stable newConfig dir author P) (hs : P s) :
    load.Keeps serve (Reliance newConfig dir) (Guarantee revisionOf newConfig dir) author s fun c t => P t ∧
      t.stored = some c := by
  unfold load
  exact keeps_look_bind rfl hstable hs fun s r hP hserve c hc => ⟨hP, hserve.2 c hc⟩

theorem keeps_guarded {stateDir : PathBuf} {body : Script α} (hdir : stateDir = dir) (hs : Knows newConfig dir o s)
    (h : ∀ s, Held newConfig dir author o s →
      body.Keeps serve (Reliance newConfig dir) (Guarantee revisionOf newConfig dir) author s fun _ _ => True) :
    (guarded stateDir body).Keeps serve (Reliance newConfig dir) (Guarantee revisionOf newConfig dir) author s
      fun _ _ => True := by
  subst hdir
  unfold guarded
  refine Op.keeps_ask_bind stable_knows hs fun s r t hP hserve => ?_
  rcases hserve with ⟨rfl, hfree, rfl⟩ | ⟨⟨e, rfl⟩, rfl⟩
  · have hg : Guarantee revisionOf newConfig stateDir author s (s.setHolder stateDir (some author)) :=
      guarantee_setHolder (Or.inl hfree) (Or.inr rfl)
    have hheld : Held newConfig stateDir author o (s.setHolder stateDir (some author)) :=
      ⟨⟨hg.inPlace hP.1, hg.past hP.2⟩, by rw [holder_setHolder, if_pos rfl]⟩
    refine ⟨hg, Op.keeps_ofExcept_bind fun _ _ => Op.keeps_after (h _ hheld) fun t => ?_⟩
    exact Script.keeps_call (P := fun _ => True) (fun _ _ _ _ => trivial) trivial fun _ _ _ _ hserve =>
      ⟨guarantee_release hserve, trivial⟩
  · exact ⟨.here, fun _ h => by cases h⟩

end

/-! ## The commands -/

variable {storageError : Error → Failure} {missingOption : String → Failure}
  {validateServerBase : String → Except Failure String} {validateActivationCode : String → Except Failure Unit}

section

variable {P : Shared → Prop}

theorem keeps_persist {basis : Basis} {c : ClientConfig} (hstable : Stable newConfig dir author P) (hs : P s)
    (hP : ∀ s, P s → Held newConfig dir author o s ∧ c.stateDir = dir ∧
      Commit.Justified revisionOf newConfig ⟨author, basis, persisted c, s.stored, s.pairing⟩ s.commits) :
    (persist basis c).Keeps serve (Reliance newConfig dir)
      (Guarantee revisionOf newConfig dir) author s fun _ _ => True := by
  unfold persist
  refine Op.keeps_ask_bind hstable hs fun s r t hs hserve => ⟨?_, fun _ _ => trivial⟩
  obtain ⟨hheld, hdir, hjustified⟩ := hP s hs
  exact guarantee_stores (c := persisted c) hheld hdir hjustified hserve

theorem keeps_localStatus {c : ClientConfig} (hstable : Stable newConfig dir author P) (hs : P s) :
    (localStatus storageError c).Keeps serve (Reliance newConfig dir) (Guarantee revisionOf newConfig dir) author s
      fun x t => P t ∧ t.pairing = x := by
  unfold localStatus
  refine keeps_look_bind rfl hstable hs fun s r hP hserve x hx => ⟨hP, ?_⟩
  cases r with
  | ok y =>
    cases hx
    exact (hserve.2 _ rfl).symm
  | error e => cases hx

end

theorem keeps_initialConfig {args : Args} (hs : Knows newConfig dir o s) :
    (initialConfig validateServerBase args newConfig).Keeps serve (Reliance newConfig dir)
      (Guarantee revisionOf newConfig dir)
      author s fun c t => Knows newConfig dir o t ∧ ∃ endpoint, c = { newConfig with endpoint := endpoint } := by
  unfold initialConfig
  split
  · refine keeps_look_bind rfl stable_knows hs fun s r hs _ => Op.keeps_ofExcept_bind fun server _ => ?_
    exact Op.keeps_ofExcept_bind fun server _ => Op.keeps_pure ⟨hs, _, rfl⟩
  · exact Op.keeps_pure ⟨hs, newConfig.endpoint, rfl⟩

/-- Where there is no configuration, a new one is in place. -/
theorem stored_eq_none {r : Reply .configExists} (hserve : serve s author .configExists r s) (hr : r = .ok false) :
    s.stored = none := by
  refine Option.not_isSome_iff_eq_none.mp ?_
  rw [← hserve.2 false hr]
  exact Bool.false_ne_true

theorem keeps_configInit {args : Args} (hs : InPlace newConfig dir s) :
    (configInit validateServerBase revisionOf args newConfig).Keeps serve (Reliance newConfig dir)
      (Guarantee revisionOf newConfig dir) author s fun _ _ => True := by
  unfold configInit
  refine keeps_look_bind rfl stable_inPlace hs fun s r hs hserve => Op.keeps_ofExcept_bind fun there hthere => ?_
  split
  · exact Op.keeps_throw _ _
  · next habsent =>
    have hnone := stored_eq_none hserve (by rw [hthere, eq_false_of_ne_true habsent])
    have hdir := hs.of_none hnone
    refine Op.keeps_bind (keeps_initialConfig (hs.knows hnone)) ?_
    rintro c t ⟨ht, endpoint, rfl⟩
    refine keeps_looking_bind (only_validate _) stable_knows ht fun _ s hs => keeps_guarded hdir hs fun s hs => ?_
    refine Op.keeps_bind (keeps_persist stable_held hs fun s hs => ⟨hs, hdir, hs.1.2, endpoint, rfl⟩) fun _ _ _ => ?_
    exact Op.keeps_ofExcept_bind fun _ _ => Op.keeps_pure trivial

theorem checkServer_eq_ok {existing : LocalPairingStatus} {current candidate : ClientConfig}
    (h : checkServer existing current candidate = .ok ()) (hbound : Bound existing) : SameServer candidate current := by
  unfold checkServer at h
  split at h
  · cases h
  · next hnot =>
    have hor : (existing.activeReportEndpoint.isSome || existing.progress.isSome) = true :=
      Bool.or_eq_true_iff.mpr hbound
    rw [hor, Bool.true_and, Bool.or_eq_true, not_or] at hnot
    exact ⟨by simpa using hnot.1, by simpa using hnot.2⟩

theorem checkStateDir_eq_ok {current candidate : ClientConfig} (h : checkStateDir current candidate = .ok ()) :
    candidate.stateDir = current.stateDir := by
  unfold checkStateDir at h
  split at h
  · cases h
  · next hnot => exact not_not.mp hnot

theorem keeps_configEdit (hs : InPlace newConfig dir s) :
    (configEdit storageError revisionOf).Keeps serve (Reliance newConfig dir)
      (Guarantee revisionOf newConfig dir) author s
      fun _ _ => True := by
  unfold configEdit
  refine Op.keeps_bind (keeps_load stable_inPlace hs) fun current s ⟨hs, hstored⟩ => ?_
  have hcurrent := hs.of_stored hstored
  refine Op.keeps_ofExcept_bind fun before hbefore => ?_
  refine keeps_look_bind rfl stable_inPlace hs fun s r hs _ => Op.keeps_ofExcept_bind fun candidate _ => ?_
  refine keeps_looking_bind (only_validate _) stable_inPlace hs fun _ s hs => Op.keeps_ofExcept_bind fun _ hdir => ?_
  refine Op.keeps_bind (keeps_localStatus stable_inPlace hs) fun existing s ⟨hs, _⟩ => ?_
  refine Op.keeps_ofExcept_bind fun _ hserver => keeps_guarded hcurrent (hs.knows rfl) fun s hs => ?_
  refine Op.keeps_bind (keeps_load stable_held hs) fun reloaded s hs => Op.keeps_ofExcept_bind fun now hnow => ?_
  have hreloaded := hs.1.1.1.of_stored hs.2
  have hcandidate := checkStateDir_eq_ok hdir
  split
  · exact Op.keeps_throw _ _
  · next hsame =>
    refine Op.keeps_bind (keeps_persist (stable_heldWith (c := reloaded)) hs fun s hs =>
      ⟨hs.1, hcandidate.trans hcurrent, reloaded, hs.2, ?_, ?_, fun hbound => checkServer_eq_ok hserver hbound⟩)
      fun _ _ _ => Op.keeps_ofExcept_bind fun _ _ => Op.keeps_pure trivial
    · rw [hnow, hbefore, not_not.mp hsame]
    · exact (hcandidate.trans hcurrent).trans hreloaded.symm

theorem keeps_configApply {args : Args} (hs : InPlace newConfig dir s) :
    (configApply storageError missingOption revisionOf args).Keeps serve (Reliance newConfig dir)
      (Guarantee revisionOf newConfig dir) author s fun _ _ => True := by
  unfold configApply
  refine Op.keeps_ofExcept_bind fun file _ => keeps_look_bind rfl stable_inPlace hs fun s r hs _ => ?_
  refine Op.keeps_ofExcept_bind fun candidate _ => keeps_looking_bind
    (only_validate _) stable_inPlace hs fun _ s hs => ?_
  refine Op.keeps_bind (keeps_load stable_inPlace hs) fun first s ⟨hs, hstored⟩ => ?_
  refine keeps_guarded (hs.of_stored hstored) (hs.knows hstored) fun s hs => ?_
  refine Op.keeps_bind (keeps_load stable_held hs) fun current s hs => Op.keeps_ofExcept_bind fun _ hdir => ?_
  have hcurrent := hs.1.1.1.of_stored hs.2
  have hcandidate := checkStateDir_eq_ok hdir
  refine Op.keeps_bind (keeps_localStatus (stable_heldWith (c := current)) hs) fun existing s hs => ?_
  refine Op.keeps_ofExcept_bind fun _ hserver => Op.keeps_ofExcept_bind fun before hbefore => ?_
  refine Op.keeps_ofExcept_bind fun _ _ => Op.keeps_ofExcept_bind fun expected _ => ?_
  split
  · exact Op.keeps_throw _ _
  · next hsame =>
    have hstable : Stable newConfig dir author fun s => HeldWith newConfig dir author (some first) current s ∧
      s.pairing = existing :=
      fun s t hs hrely => ⟨stable_heldWith s t hs.1 hrely, (hrely.held hs.1.1.2).2.trans hs.2⟩
    refine Op.keeps_bind (keeps_persist hstable hs fun s hs =>
      ⟨hs.1.1, hcandidate.trans hcurrent, current, hs.1.2, ?_, hcandidate, fun hbound => ?_⟩)
      fun _ _ _ => Op.keeps_pure trivial
    · rw [hbefore, not_not.mp hsame]
    · exact checkServer_eq_ok hserver (hs.2 ▸ hbound)

/-- The same is stored of both once a binding is active. -/
def SameBut (c c' : ClientConfig) : Prop :=
  ∀ endpoint, persisted (applyActiveConfig c' endpoint) = persisted (applyActiveConfig c endpoint)

theorem SameBut.trans {c c' c'' : ClientConfig} (h : SameBut c c') (h' : SameBut c' c'') : SameBut c c'' :=
  fun endpoint => (h' endpoint).trans (h endpoint)

theorem SameBut.stateDir {c c' : ClientConfig} (h : SameBut c c') : c'.stateDir = c.stateDir := by
  have hdir : (persisted (applyActiveConfig c' "")).stateDir = (persisted (applyActiveConfig c "")).stateDir :=
    congrArg ClientConfig.stateDir (h "")
  exact hdir

theorem sameBut_withInput {args : Args} {c c' : ClientConfig} {input : Option PairInput}
    (h : withInput validateServerBase validateActivationCode args c input = .ok c') : SameBut c c' := by
  cases input with
  | none =>
    cases h
    exact fun _ => rfl
  | some i =>
    simp only [withInput] at h
    split at h
    · cases h
    · obtain ⟨server, -, h⟩ := Except.bind_eq_ok.mp h
      obtain ⟨_, -, h⟩ := Except.bind_eq_ok.mp h
      cases h
      exact fun _ => rfl

/-- Under the lock, only the endpoint and what is not stored change. -/
theorem keeps_confirmReplace {args : Args} {c : ClientConfig} (hs : Held newConfig dir author o s) :
    (confirmReplace missingOption args c).Keeps serve (Reliance newConfig dir)
      (Guarantee revisionOf newConfig dir) author s
      fun c' t => Held newConfig dir author o t ∧ SameBut c c' := by
  unfold confirmReplace
  split
  · split
    · refine Op.keeps_ofExcept_bind fun expected _ => keeps_look_bind rfl stable_held hs fun s r hs _ => ?_
      refine Op.keeps_ofExcept_bind fun binding _ => ?_
      split
      · exact Op.keeps_throw _ _
      · exact keeps_looking_bind (only_checkQueueEmpty c) stable_held hs fun _ s hs => Op.keeps_pure ⟨hs, fun _ => rfl⟩
    · exact Op.keeps_throw _ _
  · exact Op.keeps_pure ⟨hs, fun _ => rfl⟩

section

variable {loaded : Option ClientConfig} {c : ClientConfig}

theorem keeps_commitActive (hc : SameBut (loaded.getD newConfig) c)
    (hdir : (loaded.getD newConfig).stateDir = dir) (generation requestId instanceId : Uuid)
    (endpoint : String) (hs : Held newConfig dir author loaded s) :
    (commitActive (.paired loaded) c generation requestId instanceId endpoint).Keeps serve (Reliance newConfig dir)
      (Guarantee revisionOf newConfig dir) author s fun _ _ => True := by
  unfold commitActive
  refine Op.keeps_ask_bind stable_held hs fun s r t hs hserve => ⟨?_, ?_⟩
  · have hjustified : Commit.Justified revisionOf newConfig
        ⟨author, .paired loaded, persisted (applyActiveConfig c endpoint), s.stored, s.pairing⟩ s.commits :=
      ⟨hs.1.2, endpoint, hc endpoint⟩
    exact guarantee_stores (c := persisted (applyActiveConfig c endpoint)) hs (hc.stateDir.trans hdir) hjustified hserve
  · exact Op.keeps_ofExcept_bind fun _ _ => Op.keeps_pure trivial

theorem keeps_pollRequest (hc : SameBut (loaded.getD newConfig) c)
    (hdir : (loaded.getD newConfig).stateDir = dir) (n : Nat) (hs : Held newConfig dir author loaded s) :
    (pollRequest (.paired loaded) c n).Keeps serve (Reliance newConfig dir)
      (Guarantee revisionOf newConfig dir) author s
      fun _ _ => True := by
  induction n generalizing s with
  | zero => exact Op.keeps_throw _ _
  | succ n ih =>
    unfold pollRequest
    refine Op.keeps_ask_bind stable_held hs fun s r t hs hserve => ?_
    have ht := held_of_calm rfl hs hserve
    refine ⟨guarantee_of_calm rfl hs hserve, keeps_calm_bind (only_await _) ht fun progress s hs => ?_⟩
    refine Op.keeps_ofExcept_bind fun progress _ => ?_
    cases progress with
    | none => exact Op.keeps_throw _ _
    | some progress =>
      cases progress with
      | active generation requestId instanceId endpoint =>
        exact keeps_commitActive hc hdir generation requestId instanceId endpoint hs
      | waiting session =>
        refine keeps_look_bind rfl stable_held hs fun s r hs _ => ?_
        exact keeps_calm_bind (only_await _) hs fun _ s hs => ih hs
      | creating => exact ih hs
      | denied => exact Op.keeps_throw _ _
      | expired => exact Op.keeps_throw _ _

theorem sameBut_operationConfig (args : Args) (c : ClientConfig) : SameBut c (operationConfig args c) := by
  unfold operationConfig
  split
  · exact fun _ => rfl
  · exact fun _ => rfl

theorem keeps_attachTransaction (c : ClientConfig) (error : Failure) :
    (attachTransaction c error).Keeps serve (Reliance newConfig dir) (Guarantee revisionOf newConfig dir) author s
      fun _ _ => True := by
  unfold attachTransaction
  split
  · refine keeps_look_bind (P := fun _ => True) rfl (fun _ _ _ _ => trivial) trivial fun s r _ _ => ?_
    split
    · exact Op.keeps_throw _ _
    · exact Op.keeps_throw _ _
  · exact Op.keeps_throw _ _

theorem keeps_pairGuarded {args : Args} {input : Option PairInput} {deadline patience : Nat}
    (hc : SameBut (loaded.getD newConfig) c) (hdir : (loaded.getD newConfig).stateDir = dir)
    (hs : Held newConfig dir author loaded s) :
    (pairGuarded storageError missingOption args (.paired loaded) c input deadline patience).Keeps serve
      (Reliance newConfig dir) (Guarantee revisionOf newConfig dir) author s fun _ _ => True := by
  unfold pairGuarded
  refine keeps_calm_bind ((only_existingPairing args c).mono calm_of_idle) hs fun existing s hs =>
    Op.keeps_ofExcept_bind fun _ _ => ?_
  refine Op.keeps_bind (keeps_confirmReplace hs) fun c' s ⟨hs, hc'⟩ => ?_
  have hnew : (checkNewBinding args c').Only fun c => c.looks = true := by
    unfold checkNewBinding
    split
    · exact only_checkQueueEmpty c'
    · exact Op.only_pure _
  refine keeps_looking_bind hnew stable_held hs fun _ s hs => keeps_look_bind rfl stable_held hs fun s now hs _ => ?_
  split
  · refine Op.keeps_handle ?_ fun e t => keeps_attachTransaction c' e
    unfold operation
    refine keeps_calm_bind (only_beginRequest args _ input) hs fun _ s hs => ?_
    exact keeps_pollRequest ((hc.trans hc').trans (sameBut_operationConfig args c')) hdir patience hs
  · exact Op.keeps_throw _ _

end

theorem keeps_loadOrNew {args : Args} (hs : InPlace newConfig dir s) :
    (loadOrNew args).Keeps serve (Reliance newConfig dir) (Guarantee revisionOf newConfig dir) author s
      fun loaded t => Knows newConfig dir loaded t ∧ (loaded.getD newConfig).stateDir = dir := by
  unfold loadOrNew
  refine keeps_look_bind rfl stable_inPlace hs fun s r hs hthere => Op.keeps_ofExcept_bind fun there hr => ?_
  split
  · refine keeps_look_bind rfl stable_inPlace hs fun s r hs hserve => Op.keeps_ofExcept_bind fun c hc => ?_
    have hstored := hserve.2 c hc
    exact Op.keeps_pure ⟨hs.knows hstored, hs.of_stored hstored⟩
  · next habsent =>
    have hfalse : there = false := by
      cases there with
      | false => rfl
      | true => exact absurd rfl habsent
    have hnone := stored_eq_none hthere (by rw [hr, hfalse])
    exact Op.keeps_pure ⟨hs.knows hnone, hs.of_none hnone⟩

theorem keeps_pairCommand {args : Args} {patience : Nat} (hs : InPlace newConfig dir s) :
    (pairCommand storageError missingOption validateServerBase validateActivationCode args newConfig
      patience).Keeps serve (Reliance newConfig dir) (Guarantee revisionOf newConfig dir) author s fun _ _ => True := by
  unfold pairCommand
  refine Op.keeps_bind (keeps_loadOrNew hs) fun loaded s ⟨hs, hdir⟩ => ?_
  unfold pair
  refine keeps_look_bind rfl stable_knows hs fun s start hs _ => ?_
  refine keeps_look_bind rfl stable_knows hs fun s r hs _ => Op.keeps_ofExcept_bind fun _ _ => ?_
  split
  · exact Op.keeps_throw _ _
  · refine keeps_looking_bind (only_pairInput args) stable_knows hs fun input s hs => ?_
    refine Op.keeps_ofExcept_bind fun c hc => ?_
    have hsame := sameBut_withInput hc
    exact keeps_guarded (hsame.stateDir.trans hdir) hs fun s hs => keeps_pairGuarded hsame hdir hs

theorem keeps_underGuard {body : ClientConfig → Script Value} (hbody : ∀ c, (body c).Only fun c => c.calm = true)
    (hs : InPlace newConfig dir s) :
    (underGuard body).Keeps serve (Reliance newConfig dir)
      (Guarantee revisionOf newConfig dir) author s fun _ _ => True := by
  unfold underGuard
  refine Op.keeps_bind (keeps_load stable_inPlace hs) fun c s ⟨hs, hstored⟩ => ?_
  refine keeps_guarded (hs.of_stored hstored) (hs.knows rfl) fun s hs => ?_
  exact Script.Keeps.mono (fun _ _ _ _ _ => trivial) (keeps_calm (hbody c) hs)

/-! ## All of them -/

section

variable (revisionOf newConfig storageError missingOption validateServerBase validateActivationCode)

/-- What is run, any number of times. -/
inductive Program : Script Value → Prop
  | configInit (args : Args) : Program (configInit validateServerBase revisionOf args newConfig)
  | configEdit : Program (configEdit storageError revisionOf)
  | configApply (args : Args) : Program (configApply storageError missingOption revisionOf args)
  | pair (args : Args) (patience : Nat) :
    Program (pairCommand storageError missingOption validateServerBase validateActivationCode args newConfig patience)
  | underGuard (body : ClientConfig → Script Value) (hbody : ∀ c, (body c).Only fun c => c.calm = true) :
    Program (underGuard body)

end

theorem contract : Contract serve Shared.bury
    (Program revisionOf newConfig storageError missingOption validateServerBase validateActivationCode)
    (InPlace newConfig dir) (Reliance newConfig dir) (Guarantee revisionOf newConfig dir) where
  refl := Reliance.refl newConfig
  trans _ _ _ _ h h' := h.trans h'
  others _ _ _ _ hp hg := hg.reliance hp
  buried := guarantee_bury
  kept _ _ _ hs hg := hg.inPlace hs
  programs p s q hs hq := by
    cases hq with
    | configInit args => exact (keeps_configInit hs).mono fun _ _ _ => trivial
    | configEdit => exact (keeps_configEdit hs).mono fun _ _ _ => trivial
    | configApply args => exact (keeps_configApply hs).mono fun _ _ _ => trivial
    | pair args patience => exact (keeps_pairCommand hs).mono fun _ _ _ => trivial
    | underGuard body hbody => exact (keeps_underGuard hbody hs).mono fun _ _ _ => trivial

/-- What is stored comes from this, one configuration in the place of the one before. -/
def Lineage (revisionOf : ClientConfig → Except Failure String) (newConfig : ClientConfig)
    (first : Option ClientConfig) :
    List Commit → Option ClientConfig → Prop
  | [], stored => stored = first
  | commit :: earlier, stored => stored = some commit.written ∧ commit.Justified revisionOf newConfig earlier ∧
      Lineage revisionOf newConfig first earlier commit.replaced

/-- **Whatever runs at the same time**, and dies, each configuration that is stored takes the place of the one before,
and `edit` and `apply` of one with the revision that they are for: none of them undoes a change that it has not seen.
They keep the state directory; the server of a client that is paired, as `edit` has seen it to be and as it is when
`apply` stores, stays. What `pair` stores is what was stored when it began, but for the server. -/
theorem commits_justified {w : Crowd Shared Nat Call Reply (Except Failure Value)} (hcommits : s.commits = [])
    (hreach : Crowd.Reachable serve Shared.bury
      (Program revisionOf newConfig storageError missingOption validateServerBase validateActivationCode) s w) :
    Lineage revisionOf newConfig s.stored w.shared.commits w.shared.stored := by
  have hplace : InPlace newConfig (s.stored.getD newConfig).stateDir s := rfl
  refine (contract.inv_of_reachable hplace
    (J := fun t => Lineage revisionOf newConfig s.stored t.commits t.stored) ?_ ?_ hreach).2
  · rw [hcommits]
    exact rfl
  · rintro p t u - hlineage hg
    rcases hg.commits with ⟨hsame, hstored⟩ | ⟨commit, hcommits, hstored, hreplaced, -, hjustified, -⟩
    · rwa [hsame, hstored]
    · rw [hcommits, hstored]
      exact ⟨rfl, hjustified, hreplaced ▸ hlineage⟩

def sampleConfig (seconds : Nat) : ClientConfig :=
  ⟨"https://xsos.example/api/v1/xsoc/report", none, none, none, none, seconds, .text "/var/lib/xsoc", none, none,
    none, none,
    false⟩

def sampleShared : Shared := ⟨some (sampleConfig 30), ⟨none, none⟩, fun _ => none, []⟩

def sampleRevision (c : ClientConfig) : Except Failure String := .ok (if c.requestTimeoutSeconds = 30 then "a" else "b")

/-- An edit, until it has stored what the user makes of the configuration. -/
def editedDialogue : List (Exchange Call Reply) :=
  [⟨.load, (.ok (sampleConfig 30) : Except Failure ClientConfig)⟩,
    ⟨.editJson (sampleConfig 30), (.ok (sampleConfig 60) : Except Failure ClientConfig)⟩,
    ⟨.validate (sampleConfig 60), (.ok () : Except Failure Unit)⟩,
    ⟨.localStatus (sampleConfig 30), (.ok ⟨none, none⟩ : Except Error LocalPairingStatus)⟩,
    ⟨.acquire (sampleConfig 30).stateDir, (.ok () : Except Failure Unit)⟩,
    ⟨.load, (.ok (sampleConfig 30) : Except Failure ClientConfig)⟩,
    ⟨.persist (.edited (sampleConfig 30) ⟨none, none⟩) (sampleConfig 60), (.ok () : Except Failure Unit)⟩]

theorem served_editedDialogue :
    ∃ t, Crowd.Served serve 0 editedDialogue sampleShared t ∧ t.stored = some (sampleConfig 60) := by
  refine ⟨_, ⟨_, ⟨rfl, ?_⟩, _, rfl, _, rfl, _, ⟨rfl, ?_⟩, _, Or.inl ⟨rfl, rfl, rfl⟩, _, ⟨rfl, ?_⟩, _, Or.inl rfl, rfl⟩,
    rfl⟩
  · intro c h
    cases h
    rfl
  · intro x h
    cases h
    rfl
  · intro c h
    cases h
    rfl

/-- What is run there. -/
def SampleProgram : Script Value → Prop :=
  Program sampleRevision (sampleConfig 30) (fun _ => fail 8 "unsafe_or_corrupt_state")
    (fun _ => fail 2 "missing_option")
    .ok fun _ => .ok ()

theorem reaches_editedDialogue : ∃ p q, SampleProgram p ∧ p.Reaches editedDialogue q :=
  ⟨_, _, .configEdit, .of_call <| .of_call <| .of_call <| .of_call <| .of_call <| .of_call <| .of_call .refl⟩

theorem reachable_edited : ∃ w, Crowd.Reachable serve Shared.bury SampleProgram sampleShared w ∧
    w.shared.stored = some (sampleConfig 60) := by
  obtain ⟨p, q, hp, hq⟩ := reaches_editedDialogue
  obtain ⟨t, hserved, hstored⟩ := served_editedDialogue
  obtain ⟨w, hreach, rfl, -⟩ := Crowd.reachable_of_dialogue hp hq hserved
  exact ⟨w, hreach, hstored⟩

theorem commits_justified_edit : ∃ w : Crowd Shared Nat Call Reply (Except Failure Value),
    w.shared.stored = some (sampleConfig 60) ∧
      Lineage sampleRevision (sampleConfig 30) sampleShared.stored w.shared.commits w.shared.stored := by
  obtain ⟨w, hreach, hstored⟩ := reachable_edited
  exact ⟨w, hstored, commits_justified rfl hreach⟩

end Administration

end Xsoc
