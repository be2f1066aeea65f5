import Xsoc.Report.Hardware

/-!
# Bounding the scalars and texts of a report

`normalizeScalarsAndText` brings each scalar and text of a report within the contract, `boundCpu` the processor's
cores and counts.

* `NetworkSnapshot.Bounded` and the like : what is settled about an entry;
* `ClientReport.Normal` : what is settled about the report;
* `normalizeScalarsAndText_settles`, `boundCpu_settles` : the passes settle it.
-/

set_option autoImplicit false

namespace Xsoc

open Bounding

section

variable (wire : Wire)

/-! ## The time and the interval -/

def boundInterval (x : F64) : Marked F64 :=
  if x.isFinite then compared (fun x => x.clamp wire.minIntervalSeconds wire.maxIntervalSeconds) x
  else ⟨wire.minIntervalSeconds, true⟩

def IntervalBounded (x : F64) : Prop := F64.Within wire.minIntervalSeconds wire.maxIntervalSeconds x

theorem boundInterval_settles : Settles (boundInterval wire) (IntervalBounded wire) Eq := by
  have hmin := wire.minInterval_finite
  have hmax := wire.maxInterval_finite
  refine Settles.ofFixed (fun x => ?_) (fun {x} h => ?_) (fun {x} h => ?_)
  · unfold boundInterval
    split
    · next hx => exact F64.within_clamp hx hmin hmax wire.interval_le
    · exact ⟨hmin, F64.le_refl hmin, wire.interval_le⟩
  · have hfix := F64.clamp_eq_self hmin hmax h
    rw [boundInterval, if_pos h.finite]
    exact Marked.eq_pure hfix (by simp [compared, hfix])
  · unfold boundInterval at h
    split at h
    · next hx =>
      have heq : x.clamp wire.minIntervalSeconds wire.maxIntervalSeconds = x :=
        not_not.mp (decide_eq_false_iff_not.mp h)
      have := F64.within_clamp hx hmin hmax wire.interval_le
      rwa [heq] at this
    · cases h

/-- `Duration::minutes(5)` -/
def clockTolerance : Int := 5 * 60 * 1000000000

/-- A time too far ahead of the clock is replaced by the clock's, where the caller asks for it. -/
def boundCollectedAt (clampFutureTimestamp : Bool) (now : DateTime) (t : DateTime) : Marked DateTime :=
  if clampFutureTimestamp then reset (fun t => decide (clockTolerance < t - now)) now t else pure t

def Timely (clampFutureTimestamp : Bool) (now : DateTime) (t : DateTime) : Prop :=
  clampFutureTimestamp = true → t - now ≤ clockTolerance

theorem boundCollectedAt_settles (clamp : Bool) (now : DateTime) :
    Settles (boundCollectedAt clamp now) (Timely clamp now) Eq := by
  cases clamp with
  | false => exact ⟨fun _ h => absurd h Bool.false_ne_true, fun _ => rfl, fun _ => rfl⟩
  | true =>
    have h : Settles (reset (fun t => decide (clockTolerance < t - now)) now) _ Eq :=
      Settles.reset (by simp [clockTolerance])
    exact h.congr fun t => by simp [Timely]

/-! ## The host and the memory -/

def boundHost (host : HostIdentity) : Marked HostIdentity := do
  return { host with
    os := ← boundRequiredText wire.maxHostOsBytes "unknown" host.os
    osVersion := ← boundOptionalText wire.maxHostVersionBytes host.osVersion
    kernelVersion := ← boundOptionalText wire.maxHostVersionBytes host.kernelVersion
    arch := ← boundRequiredText wire.maxHostArchBytes "unknown" host.arch
    clientVersion := ← boundRequiredText wire.maxClientVersionBytes "unknown" host.clientVersion }

structure HostIdentity.Bounded (host : HostIdentity) : Prop where
  os : Text.Required wire.maxHostOsBytes host.os
  osVersion : ∀ s ∈ host.osVersion, Text.Within wire.maxHostVersionBytes s
  kernelVersion : ∀ s ∈ host.kernelVersion, Text.Within wire.maxHostVersionBytes s
  arch : Text.Required wire.maxHostArchBytes host.arch
  clientVersion : Text.Required wire.maxClientVersionBytes host.clientVersion

theorem boundHost_settles : Settles (boundHost wire) (HostIdentity.Bounded wire) Eq := by
  have hos := boundRequiredText_settles unknown_fallback (wire.texts wire.maxHostOsBytes (by simp))
  have harch := boundRequiredText_settles unknown_fallback (wire.texts wire.maxHostArchBytes (by simp))
  have hversion := boundRequiredText_settles unknown_fallback (wire.texts wire.maxClientVersionBytes (by simp))
  have htext := boundOptionalText_settles wire.maxHostVersionBytes
  refine Settles.ofFixed (fun host => ?_) (fun {host} h => ?_) (fun {host} h => ?_)
  · simp only [boundHost, Marked.bind_value, Marked.pure_value]
    constructor <;> dsimp only
    exacts [hos.result _, htext.result _, htext.result _, harch.result _, hversion.result _]
  · simp only [boundHost, hos.fixed h.os, htext.fixed h.osVersion, htext.fixed h.kernelVersion, harch.fixed h.arch,
      hversion.fixed h.clientVersion, Marked.pure_bind]
  · simp only [boundHost, Marked.bind_changed, Marked.pure_changed, Bool.or_eq_false_iff] at h
    obtain ⟨h1, h2, h3, h4, h5, -⟩ := h
    exact ⟨hos.ok h1, htext.ok h2, htext.ok h3, harch.ok h4, hversion.ok h5⟩

/-- No more than there is. -/
def boundPart (total : Nat) : Nat → Marked Nat := reset (fun part => decide (total < part)) total

theorem boundPart_settles (total : Nat) : Settles (boundPart total) (· ≤ total) Eq := by
  have h : Settles (boundPart total) _ Eq := Settles.reset (by simp)
  exact h.congr fun part => by simp

def boundMemory (m : MemorySnapshot) : Marked MemorySnapshot := do
  return { m with
    usedBytes := ← boundPart m.totalBytes m.usedBytes
    availableBytes := ← boundPart m.totalBytes m.availableBytes
    swapUsedBytes := ← boundPart m.swapTotalBytes m.swapUsedBytes }

structure MemorySnapshot.Bounded (m : MemorySnapshot) : Prop where
  usedBytes : m.usedBytes ≤ m.totalBytes
  availableBytes : m.availableBytes ≤ m.totalBytes
  swapUsedBytes : m.swapUsedBytes ≤ m.swapTotalBytes

theorem boundMemory_settles : Settles boundMemory MemorySnapshot.Bounded Eq := by
  refine Settles.ofFixed (fun m => ?_) (fun {m} h => ?_) (fun {m} h => ?_)
  · simp only [boundMemory, Marked.bind_value, Marked.pure_value]
    constructor <;> dsimp only
    exacts [(boundPart_settles _).result _, (boundPart_settles _).result _, (boundPart_settles _).result _]
  · simp only [boundMemory, (boundPart_settles _).fixed h.usedBytes, (boundPart_settles _).fixed h.availableBytes,
      (boundPart_settles _).fixed h.swapUsedBytes, Marked.pure_bind]
  · simp only [boundMemory, Marked.bind_changed, Marked.pure_changed, Bool.or_eq_false_iff] at h
    obtain ⟨h1, h2, h3, -⟩ := h
    exact ⟨(boundPart_settles _).ok h1, (boundPart_settles _).ok h2, (boundPart_settles _).ok h3⟩

/-! ## The entries of the collections -/

def boundCapability (c : Capability) : Marked Capability := do
  return { c with
    name := ← boundRequiredText wire.maxCapabilityNameBytes "unknown.capability" c.name
    source := ← boundRequiredText wire.maxCapabilitySourceBytes "unknown" c.source
    message := ← boundOptionalNonemptyText wire.maxCapabilityMessageBytes c.message }

structure Capability.Bounded (c : Capability) : Prop where
  name : Text.Required wire.maxCapabilityNameBytes c.name
  source : Text.Required wire.maxCapabilitySourceBytes c.source
  message : Text.Optional wire.maxCapabilityMessageBytes c.message

theorem boundCapability_settles : Settles (boundCapability wire) (Capability.Bounded wire) Eq := by
  have hname : Settles (boundRequiredText wire.maxCapabilityNameBytes "unknown.capability") _ Eq :=
    boundRequiredText_settles (.ofString (by decide) (by decide)) (by have := wire.capabilityName; omega)
  have hsource : Settles (boundRequiredText wire.maxCapabilitySourceBytes "unknown") _ Eq :=
    boundRequiredText_settles unknown_fallback (by have := wire.capabilitySource; omega)
  have hmessage := boundOptionalNonemptyText_settles wire.maxCapabilityMessageBytes
  refine Settles.ofFixed (fun c => ?_) (fun {c} h => ?_) (fun {c} h => ?_)
  · simp only [boundCapability, Marked.bind_value, Marked.pure_value]
    constructor <;> dsimp only
    exacts [hname.result _, hsource.result _, hmessage.result _]
  · simp only [boundCapability, hname.fixed h.name, hsource.fixed h.source, hmessage.fixed h.message,
      Marked.pure_bind]
  · simp only [boundCapability, Marked.bind_changed, Marked.pure_changed, Bool.or_eq_false_iff] at h
    exact ⟨hname.ok h.1, hsource.ok h.2.1, hmessage.ok h.2.2.1⟩

def boundNetwork (n : NetworkSnapshot) : Marked NetworkSnapshot := do
  return { n with
    name := ← boundRequiredText wire.maxNetworkNameBytes "unnamed-network" n.name
    receivedBytesPerSecond := ← boundNonnegative wire.keepsNegativeZero n.receivedBytesPerSecond
    transmittedBytesPerSecond := ← boundNonnegative wire.keepsNegativeZero n.transmittedBytesPerSecond }

structure NetworkSnapshot.Bounded (n : NetworkSnapshot) : Prop where
  name : Text.Required wire.maxNetworkNameBytes n.name
  receivedBytesPerSecond : F64.Nonnegative wire.keepsNegativeZero n.receivedBytesPerSecond
  transmittedBytesPerSecond : F64.Nonnegative wire.keepsNegativeZero n.transmittedBytesPerSecond

theorem boundNetwork_settles : Settles (boundNetwork wire) (NetworkSnapshot.Bounded wire) Eq := by
  have hname : Settles (boundRequiredText wire.maxNetworkNameBytes "unnamed-network") _ Eq :=
    boundRequiredText_settles (.ofString (by decide) (by decide)) (wire.texts _ (by simp))
  have hrate := boundNonnegative_settles wire.keepsNegativeZero
  refine Settles.ofFixed (fun n => ?_) (fun {n} h => ?_) (fun {n} h => ?_)
  · simp only [boundNetwork, Marked.bind_value, Marked.pure_value]
    constructor <;> dsimp only
    exacts [hname.result _, hrate.result _, hrate.result _]
  · simp only [boundNetwork, hname.fixed h.name, hrate.fixed h.receivedBytesPerSecond,
      hrate.fixed h.transmittedBytesPerSecond, Marked.pure_bind]
  · simp only [boundNetwork, Marked.bind_changed, Marked.pure_changed, Bool.or_eq_false_iff] at h
    exact ⟨hname.ok h.1, hrate.ok h.2.1, hrate.ok h.2.2.1⟩

def boundDisk (d : DiskSnapshot) : Marked DiskSnapshot := do
  return { d with
    name := ← boundDescriptiveText wire.maxDiskNameBytes d.name
    mountPoint := ← boundRequiredText wire.maxMountPointBytes "unknown" d.mountPoint
    fileSystem := ← boundDescriptiveText wire.maxFileSystemBytes d.fileSystem
    availableBytes := ← boundPart d.totalBytes d.availableBytes
    readBytesPerSecond := ← boundNonnegative wire.keepsNegativeZero d.readBytesPerSecond
    writtenBytesPerSecond := ← boundNonnegative wire.keepsNegativeZero d.writtenBytesPerSecond }

structure DiskSnapshot.Bounded (d : DiskSnapshot) : Prop where
  name : Text.Within wire.maxDiskNameBytes d.name
  mountPoint : Text.Required wire.maxMountPointBytes d.mountPoint
  fileSystem : Text.Within wire.maxFileSystemBytes d.fileSystem
  availableBytes : d.availableBytes ≤ d.totalBytes
  readBytesPerSecond : F64.Nonnegative wire.keepsNegativeZero d.readBytesPerSecond
  writtenBytesPerSecond : F64.Nonnegative wire.keepsNegativeZero d.writtenBytesPerSecond

theorem boundDisk_settles : Settles (boundDisk wire) (DiskSnapshot.Bounded wire) Eq := by
  have hname := boundDescriptiveText_settles wire.maxDiskNameBytes
  have hmount := boundRequiredText_settles unknown_fallback (wire.texts wire.maxMountPointBytes (by simp))
  have hsystem := boundDescriptiveText_settles wire.maxFileSystemBytes
  have hrate := boundNonnegative_settles wire.keepsNegativeZero
  refine Settles.ofFixed (fun d => ?_) (fun {d} h => ?_) (fun {d} h => ?_)
  · simp only [boundDisk, Marked.bind_value, Marked.pure_value]
    constructor <;> dsimp only
    exacts [hname.result _, hmount.result _, hsystem.result _, (boundPart_settles _).result _, hrate.result _,
      hrate.result _]
  · simp only [boundDisk, hname.fixed h.name, hmount.fixed h.mountPoint, hsystem.fixed h.fileSystem,
      (boundPart_settles _).fixed h.availableBytes, hrate.fixed h.readBytesPerSecond,
      hrate.fixed h.writtenBytesPerSecond, Marked.pure_bind]
  · simp only [boundDisk, Marked.bind_changed, Marked.pure_changed, Bool.or_eq_false_iff] at h
    obtain ⟨h1, h2, h3, h4, h5, h6, -⟩ := h
    exact ⟨hname.ok h1, hmount.ok h2, hsystem.ok h3, (boundPart_settles _).ok h4, hrate.ok h5, hrate.ok h6⟩

def boundTemperature (t : TemperatureSnapshot) : Marked TemperatureSnapshot := do
  return { t with
    id := ← boundDescriptiveText wire.maxTemperatureIdBytes t.id
    label := ← boundDescriptiveText wire.maxTemperatureLabelBytes t.label
    source := ← boundDescriptiveText wire.maxTemperatureSourceBytes t.source
    celsius := ← boundOptionalRange F64.absoluteZero F64.thousand t.celsius
    maxCelsius := ← boundOptionalRange F64.absoluteZero F64.thousand t.maxCelsius
    criticalCelsius := ← boundOptionalRange F64.absoluteZero F64.thousand t.criticalCelsius }

structure TemperatureSnapshot.Bounded (t : TemperatureSnapshot) : Prop where
  id : Text.Within wire.maxTemperatureIdBytes t.id
  label : Text.Within wire.maxTemperatureLabelBytes t.label
  source : Text.Within wire.maxTemperatureSourceBytes t.source
  celsius : F64.Optional F64.absoluteZero F64.thousand t.celsius
  maxCelsius : F64.Optional F64.absoluteZero F64.thousand t.maxCelsius
  criticalCelsius : F64.Optional F64.absoluteZero F64.thousand t.criticalCelsius

theorem boundTemperature_settles : Settles (boundTemperature wire) (TemperatureSnapshot.Bounded wire) Eq := by
  have hid := boundDescriptiveText_settles wire.maxTemperatureIdBytes
  have hlabel := boundDescriptiveText_settles wire.maxTemperatureLabelBytes
  have hsource := boundDescriptiveText_settles wire.maxTemperatureSourceBytes
  have hcelsius := boundOptionalRange_settles F64.absoluteZero F64.thousand
  refine Settles.ofFixed (fun t => ?_) (fun {t} h => ?_) (fun {t} h => ?_)
  · simp only [boundTemperature, Marked.bind_value, Marked.pure_value]
    constructor <;> dsimp only
    exacts [hid.result _, hlabel.result _, hsource.result _, hcelsius.result _, hcelsius.result _, hcelsius.result _]
  · simp only [boundTemperature, hid.fixed h.id, hlabel.fixed h.label, hsource.fixed h.source,
      hcelsius.fixed h.celsius, hcelsius.fixed h.maxCelsius, hcelsius.fixed h.criticalCelsius, Marked.pure_bind]
  · simp only [boundTemperature, Marked.bind_changed, Marked.pure_changed, Bool.or_eq_false_iff] at h
    obtain ⟨h1, h2, h3, h4, h5, h6, -⟩ := h
    exact ⟨hid.ok h1, hlabel.ok h2, hsource.ok h3, hcelsius.ok h4, hcelsius.ok h5, hcelsius.ok h6⟩

/-- More in use than there is, where both are known. -/
def exceeds (total used : Option Nat) : Bool :=
  match used, total with
  | some used, some total => total < used
  | _, _ => false

theorem exceeds_self (total : Option Nat) : exceeds total total = false := by
  cases total <;> simp [exceeds]

def boundGpu (g : GpuSnapshot) : Marked GpuSnapshot := do
  return { g with
    id := ← boundDescriptiveText wire.maxGpuIdBytes g.id
    vendor := ← boundDescriptiveText wire.maxGpuVendorBytes g.vendor
    name := ← boundDescriptiveText wire.maxGpuNameBytes g.name
    source := ← boundDescriptiveText wire.maxGpuSourceBytes g.source
    utilizationPercent := ← boundOptionalRange F64.zero F64.hundred g.utilizationPercent
    memoryUsedBytes := ← reset (exceeds g.memoryTotalBytes) g.memoryTotalBytes g.memoryUsedBytes
    temperatureCelsius := ← boundOptionalRange F64.absoluteZero F64.thousand g.temperatureCelsius
    powerWatts := ← boundOptionalNonnegative g.powerWatts
    coreClockMhz := ← boundOptionalNonnegative g.coreClockMhz
    memoryClockMhz := ← boundOptionalNonnegative g.memoryClockMhz
    pcieRxBytesPerSecond := ← boundOptionalNonnegative g.pcieRxBytesPerSecond
    pcieTxBytesPerSecond := ← boundOptionalNonnegative g.pcieTxBytesPerSecond }

structure GpuSnapshot.Bounded (g : GpuSnapshot) : Prop where
  id : Text.Within wire.maxGpuIdBytes g.id
  vendor : Text.Within wire.maxGpuVendorBytes g.vendor
  name : Text.Within wire.maxGpuNameBytes g.name
  source : Text.Within wire.maxGpuSourceBytes g.source
  utilizationPercent : F64.Optional F64.zero F64.hundred g.utilizationPercent
  memoryUsedBytes : exceeds g.memoryTotalBytes g.memoryUsedBytes = false
  temperatureCelsius : F64.Optional F64.absoluteZero F64.thousand g.temperatureCelsius
  powerWatts : F64.Optional F64.zero F64.max g.powerWatts
  coreClockMhz : F64.Optional F64.zero F64.max g.coreClockMhz
  memoryClockMhz : F64.Optional F64.zero F64.max g.memoryClockMhz
  pcieRxBytesPerSecond : F64.Optional F64.zero F64.max g.pcieRxBytesPerSecond
  pcieTxBytesPerSecond : F64.Optional F64.zero F64.max g.pcieTxBytesPerSecond

theorem boundGpu_settles : Settles (boundGpu wire) (GpuSnapshot.Bounded wire) Eq := by
  have hid := boundDescriptiveText_settles wire.maxGpuIdBytes
  have hvendor := boundDescriptiveText_settles wire.maxGpuVendorBytes
  have hname := boundDescriptiveText_settles wire.maxGpuNameBytes
  have hsource := boundDescriptiveText_settles wire.maxGpuSourceBytes
  have hpercent := boundOptionalRange_settles F64.zero F64.hundred
  have hcelsius := boundOptionalRange_settles F64.absoluteZero F64.thousand
  have hnumber : Settles boundOptionalNonnegative _ Eq := boundOptionalRange_settles F64.zero F64.max
  have hused : ∀ total, Settles (reset (exceeds total) total) _ Eq := fun total => Settles.reset (exceeds_self total)
  refine Settles.ofFixed (fun g => ?_) (fun {g} h => ?_) (fun {g} h => ?_)
  · simp only [boundGpu, Marked.bind_value, Marked.pure_value]
    constructor <;> dsimp only
    exacts [hid.result _, hvendor.result _, hname.result _, hsource.result _, hpercent.result _, (hused _).result _,
      hcelsius.result _, hnumber.result _, hnumber.result _, hnumber.result _, hnumber.result _, hnumber.result _]
  · simp only [boundGpu, hid.fixed h.id, hvendor.fixed h.vendor, hname.fixed h.name, hsource.fixed h.source,
      hpercent.fixed h.utilizationPercent, (hused _).fixed h.memoryUsedBytes, hcelsius.fixed h.temperatureCelsius,
      hnumber.fixed h.powerWatts, hnumber.fixed h.coreClockMhz, hnumber.fixed h.memoryClockMhz,
      hnumber.fixed h.pcieRxBytesPerSecond, hnumber.fixed h.pcieTxBytesPerSecond, Marked.pure_bind]
  · simp only [boundGpu, Marked.bind_changed, Marked.pure_changed, Bool.or_eq_false_iff] at h
    obtain ⟨h1, h2, h3, h4, h5, h6, h7, h8, h9, h10, h11, h12, -⟩ := h
    exact ⟨hid.ok h1, hvendor.ok h2, hname.ok h3, hsource.ok h4, hpercent.ok h5, (hused _).ok h6, hcelsius.ok h7,
      hnumber.ok h8, hnumber.ok h9, hnumber.ok h10, hnumber.ok h11, hnumber.ok h12⟩

/-! ## The report -/

/-- `normalize_scalars_and_text` -/
def normalizeScalarsAndText (clampFutureTimestamp : Bool) (now : DateTime) (r : ClientReport) :
    Marked ClientReport := do
  return { r with
    intervalSeconds := ← boundInterval wire r.intervalSeconds
    collectedAt := ← boundCollectedAt clampFutureTimestamp now r.collectedAt
    host := ← boundHost wire r.host
    system := { r.system with
      cpu := { r.system.cpu with usagePercent := ← boundPercent r.system.cpu.usagePercent }
      memory := ← boundMemory r.system.memory
      networks := ← each (boundNetwork wire) r.system.networks
      disks := ← each (boundDisk wire) r.system.disks
      temperatures := ← each (boundTemperature wire) r.system.temperatures
      gpus := ← each (boundGpu wire) r.system.gpus }
    capabilities := ← each (boundCapability wire) r.capabilities }

structure ClientReport.Normal (clampFutureTimestamp : Bool) (now : DateTime) (r : ClientReport) : Prop where
  intervalSeconds : IntervalBounded wire r.intervalSeconds
  collectedAt : Timely clampFutureTimestamp now r.collectedAt
  host : r.host.Bounded wire
  usagePercent : r.system.cpu.usagePercent.Percent
  memory : r.system.memory.Bounded
  networks : ∀ n ∈ r.system.networks, n.Bounded wire
  disks : ∀ d ∈ r.system.disks, d.Bounded wire
  temperatures : ∀ t ∈ r.system.temperatures, t.Bounded wire
  gpus : ∀ g ∈ r.system.gpus, g.Bounded wire
  capabilities : ∀ c ∈ r.capabilities, c.Bounded wire

theorem normalizeScalarsAndText_settles (clamp : Bool) (now : DateTime) :
    Settles (normalizeScalarsAndText wire clamp now) (ClientReport.Normal wire clamp now) Eq := by
  have hinterval := boundInterval_settles wire
  have htime := boundCollectedAt_settles clamp now
  have hhost := boundHost_settles wire
  have husage := boundPercent_settles
  have hmemory := boundMemory_settles
  have hnetworks := (boundNetwork_settles wire).each
  have hdisks := (boundDisk_settles wire).each
  have htemperatures := (boundTemperature_settles wire).each
  have hgpus := (boundGpu_settles wire).each
  have hcapabilities := (boundCapability_settles wire).each
  refine Settles.ofFixed (fun r => ?_) (fun {r} h => ?_) (fun {r} h => ?_)
  · simp only [normalizeScalarsAndText, Marked.bind_value, Marked.pure_value]
    constructor <;> dsimp only
    exacts [hinterval.result _, htime.result _, hhost.result _, husage.result _, hmemory.result _,
      hnetworks.result _, hdisks.result _, htemperatures.result _, hgpus.result _, hcapabilities.result _]
  · simp only [normalizeScalarsAndText, hinterval.fixed h.intervalSeconds, htime.fixed h.collectedAt,
      hhost.fixed h.host, husage.fixed h.usagePercent, hmemory.fixed h.memory, hnetworks.fixed h.networks,
      hdisks.fixed h.disks, htemperatures.fixed h.temperatures, hgpus.fixed h.gpus,
      hcapabilities.fixed h.capabilities, Marked.pure_bind]
  · simp only [normalizeScalarsAndText, Marked.bind_changed, Marked.pure_changed, Bool.or_eq_false_iff] at h
    obtain ⟨h1, h2, h3, h4, h5, h6, h7, h8, h9, h10, -⟩ := h
    exact ⟨hinterval.ok h1, htime.ok h2, hhost.ok h3, husage.ok h4, hmemory.ok h5, hnetworks.ok h6, hdisks.ok h7,
      htemperatures.ok h8, hgpus.ok h9, hcapabilities.ok h10⟩

/-! ## The processor -/

def boundCores (usagePercent : F64) (l : List F64) : Marked (List F64) := do
  let l ← reset List.isEmpty [usagePercent] l
  let l ← each boundPercent l
  truncate wire.maxCpuCores l

structure CoresBounded (l : List F64) : Prop where
  nonempty : l ≠ []
  each : ∀ x ∈ l, x.Percent
  length : l.length ≤ wire.maxCpuCores

theorem boundCores_settles (usagePercent : F64) :
    Settles (boundCores wire usagePercent) (CoresBounded wire) Eq := by
  have hcut := boundPercent_settles.each.andThen (Settles.truncate wire.maxCpuCores)
    (fun l h x hx => h x (List.mem_of_mem_take (by rwa [truncate_value] at hx))) Eq.trans
  have hfirst : Settles (reset List.isEmpty [usagePercent]) _ Eq := Settles.reset rfl
  have hall := hfirst.andThen hcut ?_ Eq.trans
  · refine hall.congr fun l => ⟨fun h => ⟨?_, h.2.1, h.2.2⟩, fun h => ⟨?_, h.each, h.length⟩⟩
    · simpa using h.1
    · simpa using h.nonempty
  · intro l h
    have hcores := wire.cpuCores
    rw [List.isEmpty_eq_false_iff] at h ⊢
    rw [Marked.bind_value, truncate_value, ne_eq, List.take_eq_nil_iff]
    rintro (hzero | hnil)
    · omega
    · exact h (List.map_eq_nil_iff.mp hnil)

/-- The cores are bounded first; the counts follow from them. -/
def boundCpu (cpu : CpuSnapshot) : Marked CpuSnapshot := do
  let cores ← boundCores wire cpu.usagePercent cpu.perCorePercent
  return { cpu with
    perCorePercent := cores
    logicalCount := ← reset (fun n => n != cores.length) cores.length cpu.logicalCount
    physicalCount := ← reset (fun o => o.any fun n => n == 0 || cores.length < n) none cpu.physicalCount }

structure CpuSnapshot.Bounded (cpu : CpuSnapshot) : Prop where
  perCorePercent : CoresBounded wire cpu.perCorePercent
  logicalCount : cpu.logicalCount = cpu.perCorePercent.length
  physicalCount : ∀ n ∈ cpu.physicalCount, 1 ≤ n ∧ n ≤ cpu.perCorePercent.length

theorem boundCpu_settles : Settles (boundCpu wire) (CpuSnapshot.Bounded wire) Eq := by
  have hcores := boundCores_settles wire
  have hlogical : ∀ n : Nat, Settles (reset (fun k => k != n) n) (fun k => k = n) Eq :=
    fun n => (Settles.reset (by simp)).congr fun k => by simp
  have hphysical : ∀ n : Nat, Settles (reset (fun o => o.any fun k => k == 0 || n < k) none)
      (fun o : Option Nat => ∀ k ∈ o, 1 ≤ k ∧ k ≤ n) Eq := by
    refine fun n => (Settles.reset rfl).congr fun o => ?_
    cases o with
    | none => simp
    | some k => simp; omega
  refine Settles.ofFixed (fun cpu => ?_) (fun {cpu} h => ?_) (fun {cpu} h => ?_)
  · simp only [boundCpu, Marked.bind_value, Marked.pure_value]
    constructor <;> dsimp only
    exacts [(hcores _).result _, (hlogical _).result _, (hphysical _).result _]
  · simp only [boundCpu, (hcores _).fixed h.perCorePercent, (hlogical _).fixed h.logicalCount,
      (hphysical _).fixed h.physicalCount, Marked.pure_bind]
  · simp only [boundCpu, Marked.bind_changed, Marked.pure_changed, Bool.or_eq_false_iff] at h
    obtain ⟨h1, h2, h3, -⟩ := h
    have hsame := (hcores cpu.usagePercent).honest h1
    rw [← hsame] at h2 h3
    exact ⟨(hcores _).ok h1, (hlogical _).ok h2, (hphysical _).ok h3⟩

end

end Xsoc
