import Xsoc.Collectors.Backoff
import Xsoc.Collectors.Smart
import Xsoc.Machines.Background

/-!
# The slow scans

The scan of the disks' health, the hardware inventory and macOS' report of the graphics adapters take longer than a
sample may. Each has a collector that the sampler polls, and a thread does the work.

* `Smart.policy`, `NativeInventory.policy`, `MacosInventory.policy` : what the three collectors are made with;
* `Smart.step`, `NativeInventory.step`, `MacosInventory.step` : how the sampler polls them, and what the threads do;
* `scans_in_background` : what they do in every run.
-/

set_option autoImplicit false

namespace Xsoc

open Background Machines

open Backoff (Instant Duration seconds)

/-! ## The health of the disks -/

namespace Smart

/-- `SmartConfig`, without the executable. -/
structure Schedule where
  enabled : Bool
  intervalSeconds : Nat

abbrev ResultSet := List DiskHealth × Capability

/-- The time that has passed is compared in whole seconds. -/
def policy (config : Schedule) : Policy ResultSet Unit where
  enabled := config.enabled
  initial := ([], unavailable .notPresent
    (if config.enabled then "SMART scan has not completed yet" else "SMART collection disabled in configuration"))
  stopped := ([], unavailable .transient "SMART worker stopped")
  unstarted := ([], unavailable .transient "could not start SMART worker")
  unit := seconds 1
  unit_pos := by decide
  delay := fun _ => max config.intervalSeconds 60

/-- `SmartCollector::poll`, and what its threads do. -/
def step (config : Schedule) : World ResultSet → Event ResultSet Unit → Option (World ResultSet) :=
  Background.step (policy config)

end Smart

/-! ## The hardware inventory -/

namespace NativeInventory

/-- A poll is told how long the scans are to be apart. -/
def policy : Policy Inventory Nat where
  enabled := true
  initial := empty .notPresent "hardware inventory scan is pending"
  stopped := empty .transient "hardware inventory worker stopped"
  unstarted := empty .transient "could not start hardware inventory worker"
  unit := 1
  unit_pos := by decide
  delay := fun intervalSeconds => seconds (max intervalSeconds 1)

/-- `InventoryCollector::poll`, and what its threads do. -/
def step : World Inventory → Event Inventory Nat → Option (World Inventory) := Background.step policy

end NativeInventory

/-! ## The graphics adapters of macOS -/

namespace MacosInventory

abbrev Adapters := List GpuSnapshot × Capability

def unavailable (kind : CapabilityErrorKind) (message : String) : Capability :=
  .unavailable "system.gpu" "macos-system-profiler" kind message

def policy : Policy Adapters Unit where
  enabled := true
  initial := ([], unavailable .notPresent "System Report inventory has not completed yet")
  stopped := ([], unavailable .transient "System Report worker stopped")
  unstarted := ([], unavailable .transient "could not start System Report worker")
  unit := 1
  unit_pos := by decide
  delay := fun _ => seconds 300

/-- `InventoryCollector::poll`, and what its threads do. -/
def step : World Adapters → Event Adapters Unit → Option (World Adapters) := Background.step policy

end MacosInventory

/-! ## Runs -/

variable {τ ι : Type}

/-- What holds after a run: one thread runs at most, and each was started in its time after the one before. -/
structure Spaced (p : Policy τ ι) (delay : Attempt τ → Duration) (w : World τ) : Prop where
  single : ∀ before a after, w.attempts = before ++ a :: after → a.worker.ended = false → after = []
  apart : w.attempts.Pairwise fun a b => a.started + delay b ≤ b.asked
  disabled : p.enabled = false → w.attempts = []

/-- What a poll leaves and returns: the outcome of the latest attempt that has one; and unless a thread is at work, one
was started, or it is not yet time. -/
structure Polled (p : Policy τ ι) (delay : Duration) (asked : Instant) (w : World τ) : Prop where
  returns : w.collector.cached = shown p w.attempts
  prompt : p.enabled = true → w.collector.pending = none → ∃ a ∈ w.attempts, asked < a.started + delay

variable {p : Policy τ ι} {w w' : World τ}

theorem polled_of_step (h : Background.Consistent p w) {told : ι} {asked started : Instant} {spawned : Bool}
    {delay : Duration}
    (hdelay : p.delay told * p.unit = delay) (hpos : 0 < delay)
    (hstep : Background.step p w (.poll told asked started spawned) = some w') : Polled p delay asked w' := by
  simp only [Background.step] at hstep
  split at hstep
  · next hclock =>
    cases hstep
    refine ⟨(h.knows.poll told asked started spawned).2, fun henabled hpending => ?_⟩
    rcases h.prompt henabled told spawned hclock.2 with hsome | ⟨a, ha, hnow | hlater⟩
    · rw [hpending] at hsome
      cases hsome
    · exact ⟨a, ha, Nat.lt_of_le_of_lt hnow (Nat.lt_add_of_pos_right hpos)⟩
    · exact ⟨a, ha, hdelay ▸ hlater⟩
  · cases hstep

theorem spaced_of_run {clock : Instant} {events : List (Event τ ι)}
    (hrun : Machines.run (Background.step p) (World.new p clock) events = some w) : Spaced p Attempt.delay w :=
  have h := consistent_of_run hrun
  ⟨fun _ _ _ heq hrunning => h.knows.single heq hrunning, h.spaced, h.disabled⟩

/-- Every wait is as long as it always is. -/
theorem spaced_of_run_of_delay {clock : Instant} {events : List (Event τ Unit)} {p : Policy τ Unit} {delay : Duration}
    (hdelay : p.delay () * p.unit = delay)
    (hrun : Machines.run (Background.step p) (World.new p clock) events = some w) : Spaced p (fun _ => delay) w := by
  have h := consistent_of_run hrun
  refine ⟨fun _ _ _ heq hrunning => h.knows.single heq hrunning, h.spaced.imp_of_mem ?_, h.disabled⟩
  intro a b _ hb hapart
  obtain ⟨told, htold⟩ := h.delays b hb
  rw [htold, hdelay] at hapart
  exact hapart

theorem seconds_pos {n : Nat} (h : 0 < n) : 0 < seconds n := Nat.mul_pos h (by decide)

/-- **The slow scans are made in the background**, in every run of a collector and its threads, whatever these do and
whenever the collector is polled: there is one scan at a time, and the next one starts no sooner than it may; what a
poll returns is the outcome of the latest scan that has one; and a poll leaves a scan at work unless it is not yet
time. -/
theorem scans_in_background :
    (∀ (config : Smart.Schedule) (clock : Instant) (events : List (Event Smart.ResultSet Unit))
      (w : World Smart.ResultSet),
      Machines.run (Smart.step config) (World.new (Smart.policy config) clock) events = some w →
      Spaced (Smart.policy config) (fun _ => seconds (max config.intervalSeconds 60)) w ∧
        ∀ asked started spawned w', Smart.step config w (.poll () asked started spawned) = some w' →
          Polled (Smart.policy config) (seconds (max config.intervalSeconds 60)) asked w') ∧
    (∀ (clock : Instant) (events : List (Event Inventory Nat)) (w : World Inventory),
      Machines.run NativeInventory.step (World.new NativeInventory.policy clock) events = some w →
      Spaced NativeInventory.policy Attempt.delay w ∧
        ∀ intervalSeconds asked started spawned w',
          NativeInventory.step w (.poll intervalSeconds asked started spawned) = some w' →
          Polled NativeInventory.policy (seconds (max intervalSeconds 1)) asked w') ∧
    ∀ (clock : Instant) (events : List (Event MacosInventory.Adapters Unit)) (w : World MacosInventory.Adapters),
      Machines.run MacosInventory.step (World.new MacosInventory.policy clock) events = some w →
      Spaced MacosInventory.policy (fun _ => seconds 300) w ∧
        ∀ asked started spawned w', MacosInventory.step w (.poll () asked started spawned) = some w' →
          Polled MacosInventory.policy (seconds 300) asked w' := by
  refine ⟨?_, ?_, ?_⟩
  · intro config clock events w hrun
    have hdelay :
        (Smart.policy config).delay () * (Smart.policy config).unit = seconds (max config.intervalSeconds 60) := by
      simp [Smart.policy, seconds]
    refine ⟨spaced_of_run_of_delay hdelay hrun, fun asked started spawned w' hstep => ?_⟩
    exact polled_of_step (consistent_of_run hrun) hdelay (seconds_pos (by omega)) hstep
  · intro clock events w hrun
    refine ⟨spaced_of_run hrun, fun intervalSeconds asked started spawned w' hstep => ?_⟩
    exact polled_of_step (consistent_of_run hrun) (Nat.mul_one _) (seconds_pos (by omega)) hstep
  · intro clock events w hrun
    refine ⟨spaced_of_run_of_delay (Nat.mul_one _) hrun, fun asked started spawned w' hstep => ?_⟩
    exact polled_of_step (consistent_of_run hrun) (Nat.mul_one _) (seconds_pos (by decide)) hstep

/-- The first scan has ended, and it is not yet time for the next one. -/
def scannedOnce (clock : Instant) (collector : Collector Inventory) : World Inventory :=
  ⟨collector, [⟨0, 1, seconds 60, .sent (NativeInventory.empty .notPresent "no modules")⟩], clock⟩

theorem scans_in_background_once :
    Spaced NativeInventory.policy Attempt.delay
        (scannedOnce 1 ⟨some 0, some 1, NativeInventory.empty .notPresent "hardware inventory scan is pending"⟩) ∧
      Polled NativeInventory.policy (seconds 60) (seconds 10)
        (scannedOnce (seconds 10) ⟨none, some 1, NativeInventory.empty .notPresent "no modules"⟩) := by
  obtain ⟨hspaced, hpolled⟩ := scans_in_background.2.1 0
    [.poll 60 0 1 true, .send 0 (NativeInventory.empty .notPresent "no modules")]
    (scannedOnce 1 ⟨some 0, some 1, NativeInventory.empty .notPresent "hardware inventory scan is pending"⟩) rfl
  exact ⟨hspaced, hpolled 60 (seconds 10) (seconds 10) true _ rfl⟩

end Xsoc
