import Mathlib.Algebra.BigOperators.Intervals
import Mathlib.Algebra.Order.Field.Rat
import Mathlib.Data.List.Induction
import Mathlib.Tactic.FieldSimp
import Mathlib.Tactic.Linarith

/-!
# The rates of disks

The counters of a volume are totals over its lifetime. A rate is the difference to the counters of the update before,
where the volume was there, and nothing where it was not or where its counters were reset.

* `DiskRates`, `update` : the code, with exact rates; `reports` : the lists that a run of updates leaves;
* `lastCounters`, `deltas` : the baseline of a volume, and the difference to it;
* `reports_eq` : what each update of a run reports;
* `Unbroken`, `Begins` : the volume is there in each of these updates, and was not counted on before them;
* `disk_rates_telescope` : over such updates, what is reported of a volume adds up to the difference of its counters.
-/

set_option autoImplicit false

namespace Xsoc

namespace DiskRates

/-! ## The code -/

/-- A disk, with exact rates. -/
structure DiskSnapshot where
  name : String
  mountPoint : String
  fileSystem : String
  totalBytes : Nat
  availableBytes : Nat
  readBytesTotal : Nat
  writtenBytesTotal : Nat
  readBytesPerSecond : ℚ
  writtenBytesPerSecond : ℚ
  isReadOnly : Bool

abbrev Identity := String × String × String

def DiskSnapshot.identity (d : DiskSnapshot) : Identity := (d.name, d.mountPoint, d.fileSystem)

def DiskSnapshot.counters (d : DiskSnapshot) : Nat × Nat := (d.readBytesTotal, d.writtenBytesTotal)

/-- The counters of the last update, by the identity of their volume. -/
abbrev Previous := Identity → Option (Nat × Nat)

/-- `checked_sub` -/
def checkedSub (a b : Nat) : Option Nat := if b ≤ a then some (a - b) else none

def perSecond (delta : Nat) (intervalSeconds : ℚ) : ℚ := delta / max intervalSeconds (1 / 1000)

/-- What was read and written since the last update. -/
def deltas (previous : Previous) (d : DiskSnapshot) : Option (Nat × Nat) := do
  let baseline ← previous d.identity
  let read ← checkedSub d.readBytesTotal baseline.1
  let written ← checkedSub d.writtenBytesTotal baseline.2
  return (read, written)

def rated (previous : Previous) (elapsedSeconds : ℚ) (d : DiskSnapshot) : DiskSnapshot :=
  let (read, written) := (deltas previous d).getD (0, 0)
  { d with
    readBytesPerSecond := perSecond read elapsedSeconds
    writtenBytesPerSecond := perSecond written elapsedSeconds }

/-- `DiskRates::update`: the disks with their rates, and the counters for the next update. -/
def update (previous : Previous) (disks : List DiskSnapshot) (elapsedSeconds : ℚ) : List DiskSnapshot × Previous :=
  (disks.map (rated previous elapsedSeconds),
    disks.foldl (fun current d => Function.update current d.identity (some d.counters)) fun _ => none)

/-- An update: the disks of a collection, and the time since the one before. -/
structure Update where
  disks : List DiskSnapshot
  elapsedSeconds : ℚ

/-- The lists that the updates of a run leave. -/
def reportsFrom (previous : Previous) : List Update → List (List DiskSnapshot)
  | [] => []
  | u :: updates =>
    let (disks, current) := update previous u.disks u.elapsedSeconds
    disks :: reportsFrom current updates

def reports (updates : List Update) : List (List DiskSnapshot) := reportsFrom (fun _ => none) updates

/-! ## The baseline of a volume -/

/-- The last disk of a list that has this identity. -/
def lastOf (id : Identity) (disks : List DiskSnapshot) : Option DiskSnapshot :=
  disks.reverse.find? fun d => d.identity = id

/-- Its counters. -/
def lastCounters (disks : List DiskSnapshot) : Previous := fun id => (lastOf id disks).map DiskSnapshot.counters

theorem update_previous (previous : Previous) (disks : List DiskSnapshot) (elapsedSeconds : ℚ) :
    (update previous disks elapsedSeconds).2 = lastCounters disks := by
  show disks.foldl _ _ = _
  funext id
  induction disks using List.reverseRecOn with
  | nil => rfl
  | append_singleton disks d ih =>
    rw [List.foldl_append, List.foldl_cons, List.foldl_nil, lastCounters, lastOf, List.reverse_append,
      List.reverse_singleton, List.singleton_append, List.find?_cons, Function.update_apply]
    by_cases h : d.identity = id
    · simp [h]
    · simp only [eq_comm (a := id), if_neg h, decide_eq_false h]
      exact ih

/-- The disks of the update before the n-th one, if there is one. -/
def disksBefore (updates : List Update) : Nat → List DiskSnapshot
  | 0 => []
  | n + 1 => (updates[n]?.map Update.disks).getD []

theorem reportsFrom_length (previous : Previous) (updates : List Update) :
    (reportsFrom previous updates).length = updates.length := by
  induction updates generalizing previous with
  | nil => rfl
  | cons u updates ih => exact congrArg (· + 1) (ih _)

theorem reportsFrom_get (updates : List Update) (n : Nat) (u : Update) (previous : Previous)
    (h : updates[n]? = some u) :
    (reportsFrom previous updates)[n]? = some (u.disks.map (rated
      (if n = 0 then previous else lastCounters (disksBefore updates n)) u.elapsedSeconds)) := by
  induction updates generalizing n previous with
  | nil => cases h
  | cons v updates ih =>
    cases n with
    | zero =>
      cases h
      rfl
    | succ n =>
      have hprev : (update previous v.disks v.elapsedSeconds).2 = lastCounters v.disks := update_previous ..
      show (reportsFrom (update previous v.disks v.elapsedSeconds).2 updates)[n]? = _
      rw [hprev, ih n _ h]
      cases n <;> rfl

theorem reports_get (updates : List Update) (n : Nat) (u : Update) (h : updates[n]? = some u) :
    (reports updates)[n]? = some (u.disks.map (rated (lastCounters (disksBefore updates n)) u.elapsedSeconds)) := by
  rw [reports, reportsFrom_get updates n u _ h]
  cases n <;> rfl

/-! ## The rates of an update -/

/-- `d` goes on from the last disk of its identity in the list before: neither counter has decreased. -/
def GoesOnFrom (baseline d : DiskSnapshot) : Prop :=
  baseline.readBytesTotal ≤ d.readBytesTotal ∧ baseline.writtenBytesTotal ≤ d.writtenBytesTotal

/-- `d` with these rates. -/
def withRates (d : DiskSnapshot) (read written : ℚ) : DiskSnapshot :=
  { d with readBytesPerSecond := read, writtenBytesPerSecond := written }

theorem checkedSub_eq_some {a b : Nat} (h : b ≤ a) : checkedSub a b = some (a - b) := if_pos h

theorem checkedSub_eq_none {a b : Nat} (h : ¬ b ≤ a) : checkedSub a b = none := if_neg h

theorem rated_of_goesOn {before : List DiskSnapshot} {d baseline : DiskSnapshot} (elapsedSeconds : ℚ)
    (h : lastOf d.identity before = some baseline) (hon : GoesOnFrom baseline d) :
    rated (lastCounters before) elapsedSeconds d = withRates d
      ((d.readBytesTotal - baseline.readBytesTotal : ℚ) / max elapsedSeconds (1 / 1000))
      ((d.writtenBytesTotal - baseline.writtenBytesTotal : ℚ) / max elapsedSeconds (1 / 1000)) := by
  have hd : deltas (lastCounters before) d =
      some (d.readBytesTotal - baseline.readBytesTotal, d.writtenBytesTotal - baseline.writtenBytesTotal) := by
    simp [deltas, lastCounters, h, DiskSnapshot.counters, checkedSub_eq_some hon.1, checkedSub_eq_some hon.2]
  simp only [rated, hd, Option.getD_some, withRates, perSecond, Nat.cast_sub hon.1, Nat.cast_sub hon.2]

theorem rated_of_not {before : List DiskSnapshot} {d : DiskSnapshot} (elapsedSeconds : ℚ)
    (h : ¬ ∃ baseline, lastOf d.identity before = some baseline ∧ GoesOnFrom baseline d) :
    rated (lastCounters before) elapsedSeconds d = withRates d 0 0 := by
  have hd : deltas (lastCounters before) d = none := by
    cases hl : lastOf d.identity before with
    | none => simp [deltas, lastCounters, hl]
    | some baseline =>
      have hnot : ¬ GoesOnFrom baseline d := fun hon => h ⟨baseline, hl, hon⟩
      by_cases hr : baseline.readBytesTotal ≤ d.readBytesTotal
      · have hw : ¬ baseline.writtenBytesTotal ≤ d.writtenBytesTotal := fun hw => hnot ⟨hr, hw⟩
        simp [deltas, lastCounters, hl, DiskSnapshot.counters, checkedSub_eq_none hw]
      · simp [deltas, lastCounters, hl, DiskSnapshot.counters, checkedSub_eq_none hr]
  simp [rated, hd, withRates, perSecond]

@[simp]
theorem rated_identity (previous : Previous) (elapsedSeconds : ℚ) (d : DiskSnapshot) :
    (rated previous elapsedSeconds d).identity = d.identity := rfl

/-- The rates do not change which disk of a list is the last one of its identity. -/
theorem lastOf_map_rated (previous : Previous) (elapsedSeconds : ℚ) (disks : List DiskSnapshot) (id : Identity) :
    lastOf id (disks.map (rated previous elapsedSeconds)) = (lastOf id disks).map (rated previous elapsedSeconds) := by
  rw [lastOf, ← List.map_reverse, List.find?_map]
  rfl

theorem lastOf_identity {disks : List DiskSnapshot} {id : Identity} {d : DiskSnapshot} (h : lastOf id disks = some d) :
    d.identity = id := by
  simpa using List.find?_some h

/-! ## Runs of a volume -/

/-- The disks of the n-th update. -/
def disksAt (updates : List Update) (n : Nat) : List DiskSnapshot := (updates[n]?.map Update.disks).getD []

/-- The time that its rates are about. -/
def elapsedAt (updates : List Update) (n : Nat) : ℚ := (updates[n]?.map Update.elapsedSeconds).getD 0

/-- The list that it leaves. -/
def reportAt (updates : List Update) (n : Nat) : List DiskSnapshot := (reports updates)[n]?.getD []

/-- The volume goes on from the n-th update to the next one. -/
def GoesOn (updates : List Update) (id : Identity) (n : Nat) : Prop :=
  ∃ d d', lastOf id (disksAt updates n) = some d ∧ lastOf id (disksAt updates (n + 1)) = some d' ∧ GoesOnFrom d d'

/-- A maximal run of the volume, from the m-th update to the n-th one. -/
structure UnbrokenRun (updates : List Update) (id : Identity) (m n : Nat) : Prop where
  le : m ≤ n
  present : (lastOf id (disksAt updates m)).isSome
  goesOn : ∀ i, m ≤ i → i < n → GoesOn updates id i
  begins : ∀ i, m = i + 1 → ¬ GoesOn updates id i
  ends : ¬ GoesOn updates id n

/-- What is counted of a volume. -/
inductive Direction
  | read
  | written

def DiskSnapshot.total (d : DiskSnapshot) : Direction → Nat
  | .read => d.readBytesTotal
  | .written => d.writtenBytesTotal

def DiskSnapshot.rate (d : DiskSnapshot) : Direction → ℚ
  | .read => d.readBytesPerSecond
  | .written => d.writtenBytesPerSecond

/-- What the list that the n-th update leaves says of the volume, in bytes: by its last disk. -/
def reportedLast (updates : List Update) (id : Identity) (dir : Direction) (n : Nat) : ℚ :=
  ((lastOf id (reportAt updates n)).elim 0 fun d => d.rate dir) * elapsedAt updates n

/-- The same by all disks of the list that have its identity. -/
def reportedAll (updates : List Update) (id : Identity) (dir : Direction) (n : Nat) : ℚ :=
  (((reportAt updates n).filter (·.identity = id)).map fun d => d.rate dir).sum * elapsedAt updates n

theorem disksBefore_succ (updates : List Update) (n : Nat) : disksBefore updates (n + 1) = disksAt updates n := rfl

theorem reportAt_eq (updates : List Update) (n : Nat) :
    reportAt updates n =
      (disksAt updates n).map (rated (lastCounters (disksBefore updates n)) (elapsedAt updates n)) := by
  unfold reportAt disksAt elapsedAt
  cases h : updates[n]? with
  | some u =>
    rw [reports_get updates n u h]
    rfl
  | none =>
    have hlen : (reports updates).length = updates.length := reportsFrom_length _ _
    rw [List.getElem?_eq_none (hlen ▸ List.getElem?_eq_none_iff.mp h)]
    rfl

theorem rated_rate {before : List DiskSnapshot} {d baseline : DiskSnapshot} (elapsedSeconds : ℚ)
    (h : lastOf d.identity before = some baseline) (hon : GoesOnFrom baseline d) (dir : Direction) :
    (rated (lastCounters before) elapsedSeconds d).rate dir =
      (d.total dir - baseline.total dir : ℚ) / max elapsedSeconds (1 / 1000) := by
  rw [rated_of_goesOn elapsedSeconds h hon]
  cases dir <;> rfl

theorem rated_rate_of_not {before : List DiskSnapshot} {d : DiskSnapshot} (elapsedSeconds : ℚ)
    (h : ¬ ∃ baseline, lastOf d.identity before = some baseline ∧ GoesOnFrom baseline d) (dir : Direction) :
    (rated (lastCounters before) elapsedSeconds d).rate dir = 0 := by
  rw [rated_of_not elapsedSeconds h]
  cases dir <;> rfl

theorem reportedLast_eq {updates : List Update} {id : Identity} {n : Nat} {d : DiskSnapshot} (dir : Direction)
    (h : lastOf id (disksAt updates n) = some d) :
    reportedLast updates id dir n =
      (rated (lastCounters (disksBefore updates n)) (elapsedAt updates n) d).rate dir * elapsedAt updates n := by
  rw [reportedLast, reportAt_eq, lastOf_map_rated, h]
  rfl

/-- An update reports what was counted since the one before. -/
theorem reportedLast_succ {updates : List Update} {id : Identity} {n : Nat} {d d' : DiskSnapshot} (dir : Direction)
    (hd : lastOf id (disksAt updates n) = some d) (hd' : lastOf id (disksAt updates (n + 1)) = some d')
    (hon : GoesOnFrom d d') (helapsed : 1 / 1000 ≤ elapsedAt updates (n + 1)) :
    reportedLast updates id dir (n + 1) = d'.total dir - d.total dir := by
  have hbase : lastOf d'.identity (disksBefore updates (n + 1)) = some d := by
    rw [lastOf_identity hd', disksBefore_succ, hd]
  have hpos : (0 : ℚ) < elapsedAt updates (n + 1) := lt_of_lt_of_le (by norm_num) helapsed
  rw [reportedLast_eq dir hd', rated_rate _ hbase hon, max_eq_left helapsed]
  field_simp

/-- The first update of a run reports nothing. -/
theorem reportedLast_begins {updates : List Update} {id : Identity} {m n : Nat} (h : UnbrokenRun updates id m n)
    (dir : Direction) : reportedLast updates id dir m = 0 := by
  obtain ⟨d, hd⟩ := Option.isSome_iff_exists.mp h.present
  have hnot : ¬ ∃ baseline, lastOf d.identity (disksBefore updates m) = some baseline ∧ GoesOnFrom baseline d := by
    rintro ⟨baseline, hb, hon⟩
    rw [lastOf_identity hd] at hb
    cases m with
    | zero => cases hb
    | succ i => exact h.begins i rfl ⟨baseline, d, hb, hd, hon⟩
  rw [reportedLast_eq dir hd, rated_rate_of_not _ hnot, zero_mul]

/-- The counters of a volume grow while it goes on. -/
theorem goesOn_grows {updates : List Update} {id : Identity} {m n : Nat} {first : DiskSnapshot} (hle : m ≤ n)
    (hfirst : lastOf id (disksAt updates m) = some first) (hon : ∀ i, m ≤ i → i < n → GoesOn updates id i) :
    ∃ last, lastOf id (disksAt updates n) = some last ∧ GoesOnFrom first last := by
  induction n, hle using Nat.le_induction with
  | base => exact ⟨first, hfirst, le_refl _, le_refl _⟩
  | succ n hle ih =>
    obtain ⟨d, hd, hgrown⟩ := ih fun i h1 h2 => hon i h1 (by omega)
    obtain ⟨d₁, d', hd₁, hd', hfrom⟩ := hon n hle (by omega)
    cases hd.symm.trans hd₁
    exact ⟨d', hd', hgrown.1.trans hfrom.1, hgrown.2.trans hfrom.2⟩

/-- What a later update of a run reports begins where the report of an earlier one has ended, or after it. -/
theorem UnbrokenRun.apart {updates : List Update} {id : Identity} {m n i j : Nat} (h : UnbrokenRun updates id m n)
    (hi : m ≤ i) (hij : i < j) (hj : j ≤ n) :
    ∃ d baseline, lastOf id (disksAt updates i) = some d ∧ lastOf id (disksBefore updates j) = some baseline ∧
      GoesOnFrom d baseline := by
  obtain ⟨first, hfirst⟩ := Option.isSome_iff_exists.mp h.present
  obtain ⟨d, hd, -⟩ := goesOn_grows hi hfirst fun k h1 h2 => h.goesOn k h1 (by omega)
  obtain ⟨j, rfl⟩ : ∃ k, j = k + 1 := ⟨j - 1, by omega⟩
  obtain ⟨baseline, hb, hgrown⟩ :=
    goesOn_grows (Nat.le_of_lt_succ hij) hd fun k h1 h2 => h.goesOn k (by omega) (by omega)
  exact ⟨d, baseline, hd, hb, hgrown⟩

/-- While a volume goes on, the reports of the updates add up to the difference of its counters. -/
theorem reportedLast_sum {updates : List Update} {id : Identity} {m n : Nat} {first : DiskSnapshot} (dir : Direction)
    (hle : m ≤ n) (hfirst : lastOf id (disksAt updates m) = some first)
    (hon : ∀ i, m ≤ i → i < n → GoesOn updates id i)
    (helapsed : ∀ i, m < i → i ≤ n → 1 / 1000 ≤ elapsedAt updates i) :
    ∃ last, lastOf id (disksAt updates n) = some last ∧
      ∑ i ∈ Finset.Ico m n, reportedLast updates id dir (i + 1) = last.total dir - first.total dir := by
  induction n, hle using Nat.le_induction with
  | base => exact ⟨first, hfirst, by simp⟩
  | succ n hle ih =>
    obtain ⟨d, hd, hsum⟩ := ih (fun i h1 h2 => hon i h1 (by omega)) fun i h1 h2 => helapsed i h1 (by omega)
    obtain ⟨d₁, d', hd₁, hd', hfrom⟩ := hon n hle (by omega)
    cases hd.symm.trans hd₁
    refine ⟨d', hd', ?_⟩
    rw [Finset.sum_Ico_succ_top hle, hsum, reportedLast_succ dir hd hd' hfrom (helapsed _ (by omega) (le_refl _))]
    exact sub_add_sub_cancel' _ _ _

/-- With the update that begins the run, which reports nothing. -/
theorem reportedLast_sum_run {updates : List Update} {id : Identity} {m n : Nat} (dir : Direction)
    (h : UnbrokenRun updates id m n) (helapsed : ∀ i, m ≤ i → i ≤ n → 1 / 1000 ≤ elapsedAt updates i) :
    ∃ first last, lastOf id (disksAt updates m) = some first ∧ lastOf id (disksAt updates n) = some last ∧
      ∑ i ∈ Finset.Icc m n, reportedLast updates id dir i = last.total dir - first.total dir := by
  obtain ⟨first, hfirst⟩ := Option.isSome_iff_exists.mp h.present
  obtain ⟨last, hlast, hsum⟩ := reportedLast_sum dir h.le hfirst h.goesOn fun i h1 h2 => helapsed i (by omega) h2
  refine ⟨first, last, hfirst, hlast, ?_⟩
  have hicc : Finset.Icc m n = Finset.Ico m (n + 1) := by
    ext i
    simp
  rw [hicc, Finset.sum_eq_sum_Ico_succ_bot (Nat.lt_succ_of_le h.le), reportedLast_begins h, zero_add, ← hsum,
    Finset.sum_Ico_add' (fun i => reportedLast updates id dir i) m n 1]

/-- A list that names the volume at most once says by all its disks what it says by the last one. -/
theorem reportedAll_eq {updates : List Update} {id : Identity} {n : Nat} (dir : Direction)
    (h : ((disksAt updates n).filter (·.identity = id)).length ≤ 1) :
    reportedAll updates id dir n = reportedLast updates id dir n := by
  have hlast : lastOf id (reportAt updates n) = ((reportAt updates n).filter (·.identity = id)).getLast? := by
    rw [lastOf, ← List.head?_filter, List.filter_reverse, List.head?_reverse]
  have hlen : ((reportAt updates n).filter (·.identity = id)).length ≤ 1 := by
    rw [reportAt_eq, List.filter_map, List.length_map]
    exact h
  rw [reportedAll, reportedLast, hlast]
  generalize (reportAt updates n).filter (·.identity = id) = named at hlen ⊢
  match named, hlen with
  | [], _ => rfl
  | [d], _ => simp

/-! ## The account of a run -/

/-- In every run of updates, a disk has the rates of the difference to the counters of its volume in the update right
before, where the volume was there and no counter has decreased, and none otherwise. So over a maximal run of a volume
the first update reports nothing, what two updates report does not overlap, and all that is reported adds up to the last
counter less the first one: by the last disk of its identity in every list, and by all disks where no list names the
volume twice. -/
theorem disk_rates_telescope (updates : List Update) :
    (∀ n u, updates[n]? = some u → ∃ report, (reports updates)[n]? = some report ∧
      report.length = u.disks.length ∧ ∀ (k : Nat) d, u.disks[k]? = some d →
        (∀ baseline, lastOf d.identity (disksBefore updates n) = some baseline → GoesOnFrom baseline d →
          report[k]? = some (withRates d
            ((d.readBytesTotal - baseline.readBytesTotal : ℚ) / max u.elapsedSeconds (1 / 1000))
            ((d.writtenBytesTotal - baseline.writtenBytesTotal : ℚ) / max u.elapsedSeconds (1 / 1000)))) ∧
        ((¬ ∃ baseline, lastOf d.identity (disksBefore updates n) = some baseline ∧ GoesOnFrom baseline d) →
          report[k]? = some (withRates d 0 0))) ∧
    ∀ id m n, UnbrokenRun updates id m n →
      (∀ dir, reportedLast updates id dir m = 0) ∧
      (∀ i j, m ≤ i → i < j → j ≤ n → ∃ d baseline, lastOf id (disksAt updates i) = some d ∧
        lastOf id (disksBefore updates j) = some baseline ∧ GoesOnFrom d baseline) ∧
      ((∀ i, m ≤ i → i ≤ n → 1 / 1000 ≤ elapsedAt updates i) →
        ∃ first last, lastOf id (disksAt updates m) = some first ∧ lastOf id (disksAt updates n) = some last ∧
          ∀ dir, ∑ i ∈ Finset.Icc m n, reportedLast updates id dir i = last.total dir - first.total dir ∧
            ((∀ i, m ≤ i → i ≤ n → ((disksAt updates i).filter (·.identity = id)).length ≤ 1) →
              ∑ i ∈ Finset.Icc m n, reportedAll updates id dir i = last.total dir - first.total dir)) := by
  refine ⟨fun n u hu => ⟨_, reports_get updates n u hu, List.length_map _, fun k d hd => ⟨?_, ?_⟩⟩, ?_⟩
  · intro baseline hb hon
    rw [List.getElem?_map, hd, Option.map_some, rated_of_goesOn _ hb hon]
  · intro hnot
    rw [List.getElem?_map, hd, Option.map_some, rated_of_not _ hnot]
  · intro id m n h
    refine ⟨reportedLast_begins h, fun i j hi hij hj => h.apart hi hij hj, fun helapsed => ?_⟩
    obtain ⟨first, last, hfirst, hlast, hread⟩ := reportedLast_sum_run .read h helapsed
    have hsum : ∀ dir, ∑ i ∈ Finset.Icc m n, reportedLast updates id dir i = last.total dir - first.total dir := by
      intro dir
      obtain ⟨first', last', hfirst', hlast', hdir⟩ := reportedLast_sum_run dir h helapsed
      cases hfirst.symm.trans hfirst'
      cases hlast.symm.trans hlast'
      exact hdir
    refine ⟨first, last, hfirst, hlast, fun dir => ⟨hsum dir, fun hone => ?_⟩⟩
    rw [← hsum dir]
    apply Finset.sum_congr rfl
    intro i hi
    obtain ⟨h1, h2⟩ := Finset.mem_Icc.mp hi
    exact reportedAll_eq dir (hone i h1 h2)

/-- A volume with these counters. -/
def sampleDisk (read written : Nat) : DiskSnapshot :=
  ⟨"disk-a", "/media/disk-a", "ext4", 1000, 500, read, written, 0, 0, false⟩

/-- The second of these lists names the volume twice, as a bind mount over its own mount point does. -/
def namedTwice : List Update := [⟨[sampleDisk 0 0], 1⟩, ⟨[sampleDisk 10 0, sampleDisk 10 0], 1⟩]

theorem reportAt_namedTwice :
    reportAt namedTwice 0 = [sampleDisk 0 0] ∧
    reportAt namedTwice 1 = [withRates (sampleDisk 10 0) 10 0, withRates (sampleDisk 10 0) 10 0] := by
  have hbase : lastOf (sampleDisk 10 0).identity [sampleDisk 0 0] = some (sampleDisk 0 0) := rfl
  have hon : GoesOnFrom (sampleDisk 0 0) (sampleDisk 10 0) := ⟨Nat.zero_le _, le_refl _⟩
  have hten : rated (lastCounters [sampleDisk 0 0]) 1 (sampleDisk 10 0) = withRates (sampleDisk 10 0) 10 0 := by
    rw [rated_of_goesOn 1 hbase hon]
    norm_num [sampleDisk]
  constructor
  · rw [reportAt_eq]
    show [rated (lastCounters []) 1 (sampleDisk 0 0)] = _
    rw [rated_of_not _ (by rintro ⟨baseline, h, -⟩; cases h)]
    rfl
  · rw [reportAt_eq]
    show [rated (lastCounters [sampleDisk 0 0]) 1 (sampleDisk 10 0),
      rated (lastCounters [sampleDisk 0 0]) 1 (sampleDisk 10 0)] = _
    rw [hten]

/-- Both of its disks report what was read since the first list, and the run reports twice what was read in it. -/
theorem delta_reported_twice :
    UnbrokenRun namedTwice (sampleDisk 0 0).identity 0 1 ∧
    (∀ i, 0 ≤ i → i ≤ 1 → 1 / 1000 ≤ elapsedAt namedTwice i) ∧
    lastOf (sampleDisk 0 0).identity (disksAt namedTwice 0) = some (sampleDisk 0 0) ∧
    lastOf (sampleDisk 0 0).identity (disksAt namedTwice 1) = some (sampleDisk 10 0) ∧
    (reportAt namedTwice 1).map (fun d => d.rate .read) = [10, 10] ∧
    ∑ i ∈ Finset.Icc 0 1, reportedAll namedTwice (sampleDisk 0 0).identity .read i ≠
      (sampleDisk 10 0).total .read - (sampleDisk 0 0).total .read := by
  obtain ⟨hzero, hone⟩ := reportAt_namedTwice
  refine ⟨⟨by omega, rfl, ?_, ?_, ?_⟩, ?_, rfl, rfl, ?_, ?_⟩
  · intro i _ hi
    cases Nat.lt_one_iff.mp hi
    exact ⟨_, _, rfl, rfl, Nat.zero_le _, le_refl _⟩
  · intro i hi
    cases hi
  · rintro ⟨d, d', -, h, -⟩
    cases h
  · intro i _ hi
    obtain rfl | rfl : i = 0 ∨ i = 1 := by omega
    all_goals norm_num [elapsedAt, namedTwice]
  · rw [hone]
    rfl
  · have hsum : ∑ i ∈ Finset.Icc 0 1, reportedAll namedTwice (sampleDisk 0 0).identity .read i = 20 := by
      rw [show Finset.Icc 0 1 = {0, 1} from rfl, Finset.sum_pair (by decide), reportedAll, reportedAll, hzero, hone]
      norm_num [sampleDisk, withRates, DiskSnapshot.identity, DiskSnapshot.rate, elapsedAt, namedTwice]
    rw [hsum]
    norm_num [sampleDisk, DiskSnapshot.total]

end DiskRates

end Xsoc
