import Xsoc.Pairing.State
import Xsoc.Report.Values

/-!
# Records of a report

The wire DTOs of a report, and what the shared protocol crate and the platform give the client to bound them with.

* `ClientReport` : a report, with its collections of `NetworkSnapshot`, `DiskSnapshot`, `TemperatureSnapshot`,
  `GpuSnapshot` and `Capability`, and with the `HardwareSnapshot`;
* `Limits` : the constants of the contract;
* `Wire` : the limits, the JSON texts, and which zero the platform keeps.
-/

set_option autoImplicit false

namespace Xsoc

instance : BEq F64 := ⟨F64.same⟩

inductive CapabilityErrorKind
  | driverMissing
  | invalidData
  | notPresent
  | permissionDenied
  | transient
  | unsupported
  deriving DecidableEq, BEq, Repr

structure Capability where
  name : String
  available : Bool
  source : String
  errorKind : Option CapabilityErrorKind
  message : Option String
  deriving DecidableEq, BEq

namespace Capability

def ofAvailable (name source : String) : Capability := ⟨name, true, source, none, none⟩

def unavailable (name source : String) (kind : CapabilityErrorKind) (message : String) : Capability :=
  ⟨name, false, source, some kind, some message⟩

end Capability

structure NetworkSnapshot where
  name : String
  receivedBytesTotal : Nat
  transmittedBytesTotal : Nat
  receivedBytesPerSecond : F64
  transmittedBytesPerSecond : F64
  packetsReceivedTotal : Nat
  packetsTransmittedTotal : Nat
  receiveErrorsTotal : Nat
  transmitErrorsTotal : Nat
  deriving DecidableEq, BEq

structure DiskSnapshot where
  name : String
  mountPoint : String
  fileSystem : String
  totalBytes : Nat
  availableBytes : Nat
  readBytesTotal : Nat
  writtenBytesTotal : Nat
  readBytesPerSecond : F64
  writtenBytesPerSecond : F64
  isReadOnly : Bool
  deriving DecidableEq, BEq

structure TemperatureSnapshot where
  id : String
  label : String
  celsius : Option F64
  maxCelsius : Option F64
  criticalCelsius : Option F64
  source : String
  deriving DecidableEq, BEq

structure GpuSnapshot where
  id : String
  vendor : String
  name : String
  utilizationPercent : Option F64
  memoryTotalBytes : Option Nat
  memoryUsedBytes : Option Nat
  temperatureCelsius : Option F64
  powerWatts : Option F64
  coreClockMhz : Option F64
  memoryClockMhz : Option F64
  pcieRxBytesPerSecond : Option F64
  pcieTxBytesPerSecond : Option F64
  source : String
  deriving DecidableEq, BEq

structure CpuSnapshot where
  usagePercent : F64
  logicalCount : Nat
  physicalCount : Option Nat
  perCorePercent : List F64
  deriving DecidableEq, BEq

structure MemorySnapshot where
  totalBytes : Nat
  usedBytes : Nat
  availableBytes : Nat
  swapTotalBytes : Nat
  swapUsedBytes : Nat
  deriving DecidableEq, BEq

structure ClientHealth where
  spoolPendingBatches : Nat
  collectorErrors : Nat
  deriving DecidableEq, BEq

/-! ## Hardware -/

structure CpuHardware where
  model : Option String
  vendor : Option String
  frequencyMhz : Option F64
  maxFrequencyMhz : Option F64
  perCoreFrequencyMhz : List (Option F64)
  /-- Over one, five and fifteen minutes. -/
  loadAverage : Option (F64 × F64 × F64)
  deriving DecidableEq, BEq

structure NetworkHardware where
  name : String
  macAddress : Option String
  ipAddresses : List String
  mtu : Option Nat
  linkSpeedMbps : Option F64
  operationalState : Option String
  deriving DecidableEq, BEq

structure PhysicalNetworkAdapter where
  id : String
  name : String
  interfaceName : Option String
  macAddress : Option String
  linkSpeedMbps : Option F64
  source : String
  deriving DecidableEq, BEq

inductive SensorKind
  | voltageVolts
  | currentAmps
  | fanRpm
  | powerWatts
  | energyJoules
  deriving DecidableEq, BEq, Repr

structure HardwareSensor where
  id : String
  label : String
  kind : SensorKind
  value : F64
  source : String
  deriving DecidableEq, BEq

structure DiskHealth where
  device : String
  model : Option String
  serialNumber : Option String
  protocol : Option String
  collectedAt : DateTime
  healthy : Option Bool
  temperatureCelsius : Option F64
  percentageUsed : Option F64
  availableSparePercent : Option F64
  criticalWarning : Option Nat
  powerOnHours : Option Nat
  powerCycles : Option Nat
  unsafeShutdowns : Option Nat
  mediaErrors : Option Nat
  bytesRead : Option Nat
  bytesWritten : Option Nat
  source : String
  deriving DecidableEq, BEq

structure MemoryModule where
  id : String
  locator : Option String
  model : Option String
  vendor : Option String
  memoryType : Option String
  moduleVersion : Option String
  formFactor : Option String
  capacityBytes : Option Nat
  speedMtS : Option F64
  configuredSpeedMtS : Option F64
  reportedSpeed : Option String
  source : String
  deriving DecidableEq, BEq

inductive HardwareDeviceKind
  | audio
  | bluetooth
  | monitor
  | thunderbolt
  | usbController
  | usbDevice
  deriving DecidableEq, BEq, Repr

structure HardwareDevice where
  id : String
  kind : HardwareDeviceKind
  name : String
  model : Option String
  vendor : Option String
  vendorId : Option String
  productId : Option String
  revision : Option String
  version : Option String
  bus : Option String
  driver : Option String
  connection : Option String
  speedMbps : Option F64
  source : String
  deriving DecidableEq, BEq

structure HardwareSnapshot where
  collectedAt : DateTime
  cpu : CpuHardware
  networks : List NetworkHardware
  physicalNetworks : List PhysicalNetworkAdapter
  sensors : List HardwareSensor
  diskHealth : List DiskHealth
  inventoryCollectedAt : Option DateTime
  memoryModules : List MemoryModule
  devices : List HardwareDevice
  deriving DecidableEq, BEq

/-! ## Reports -/

structure SystemSnapshot where
  hardware : Option HardwareSnapshot
  uptimeSeconds : Nat
  cpu : CpuSnapshot
  memory : MemorySnapshot
  networks : List NetworkSnapshot
  disks : List DiskSnapshot
  temperatures : List TemperatureSnapshot
  gpus : List GpuSnapshot
  deriving DecidableEq, BEq

structure ClientReport where
  schemaVersion : Nat
  reportId : String
  collectedAt : DateTime
  host : HostIdentity
  intervalSeconds : F64
  system : SystemSnapshot
  capabilities : List Capability
  client : ClientHealth
  deriving DecidableEq, BEq

/-! ## The contract -/

/-- `TRUNCATED_CAPABILITY` -/
def truncatedCapability : String := "client.report.truncated"

/-- `TRUNCATED_SOURCE` -/
def truncatedSource : String := "xsoc"

/-- `TRUNCATED_MESSAGE` -/
def truncatedMessage : String := "one or more collected values were bounded to the current report contract"

/-- The constants of the shared protocol crate, with what the client relies on: a required text holds something, the
truncation diagnostic fits, and so do the entries with the greatest metrics. -/
structure Limits where
  schemaVersion : Nat
  maxBodyBytes : Nat
  minIntervalSeconds : F64
  /-- `CLIENT_REPORT_MAX_INTERVAL_SECONDS as f64` -/
  maxIntervalSeconds : F64
  maxHostOsBytes : Nat
  maxHostVersionBytes : Nat
  maxHostArchBytes : Nat
  maxClientVersionBytes : Nat
  maxCapabilityNameBytes : Nat
  maxCapabilitySourceBytes : Nat
  maxCapabilityMessageBytes : Nat
  maxNetworkNameBytes : Nat
  maxDiskNameBytes : Nat
  maxMountPointBytes : Nat
  maxFileSystemBytes : Nat
  maxTemperatureIdBytes : Nat
  maxTemperatureLabelBytes : Nat
  maxTemperatureSourceBytes : Nat
  maxGpuIdBytes : Nat
  maxGpuVendorBytes : Nat
  maxGpuNameBytes : Nat
  maxGpuSourceBytes : Nat
  maxHardwareText : Nat
  maxCpuCores : Nat
  maxCapabilities : Nat
  maxNetworks : Nat
  maxDisks : Nat
  maxTemperatures : Nat
  maxGpus : Nat
  maxMemoryModules : Nat
  maxHardwareDevices : Nat
  maxHardwareNetworks : Nat
  maxHardwareSensors : Nat
  maxHardwareDisks : Nat
  minInterval_finite : minIntervalSeconds.isFinite = true
  maxInterval_finite : maxIntervalSeconds.isFinite = true
  interval_le : minIntervalSeconds.le maxIntervalSeconds = true
  texts : ∀ n ∈ [maxHostOsBytes, maxHostArchBytes, maxClientVersionBytes, maxNetworkNameBytes, maxMountPointBytes,
    maxHardwareText], 1 ≤ n
  /-- A longer name does not become the diagnostic's when it is cut: a character has at most four bytes. -/
  capabilityName : 23 + 4 ≤ maxCapabilityNameBytes
  capabilitySource : 4 ≤ maxCapabilitySourceBytes
  capabilityMessage : 72 ≤ maxCapabilityMessageBytes
  cpuCores : 1 ≤ maxCpuCores
  cpuCores_fits : maxCpuCores < 2 ^ 32
  capabilities : 1 ≤ maxCapabilities
  peaks : 2 ≤ maxNetworks ∧ 2 ≤ maxDisks ∧ 1 ≤ maxTemperatures ∧ 2 ≤ maxGpus

/-- What `serde_json` writes and reads, and what the platform does, beside the limits. -/
structure Wire extends Limits where
  /-- Which of the two zeros `max(0.0)` returns for `-0.0`. -/
  keepsNegativeZero : Bool
  capabilityJson : Capability → Option (List UInt8)
  networkJson : NetworkSnapshot → Option (List UInt8)
  diskJson : DiskSnapshot → Option (List UInt8)
  temperatureJson : TemperatureSnapshot → Option (List UInt8)
  gpuJson : GpuSnapshot → Option (List UInt8)
  toVec : ClientReport → Except String (List UInt8)
  fromSlice : List UInt8 → Option ClientReport
  /-- `from_slice::<Value>`, then `schema_version` as an unsigned number: nothing when either is not there. -/
  schemaVersionOf : List UInt8 → Option Nat

end Xsoc
