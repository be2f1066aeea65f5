import Xsoc.Json
import Xsoc.Report.Records

/-!
# Reports as JSON text

The compact form in which `serde_json` writes a report, and a `Wire` that writes and reads it. Numbers are written
where they are whole, times where they are whole seconds of the first day, and reports where they have no hardware.

* `compactObject`, `compactArray` : the form;
* `ClientReport.json` : a report, and `Capability.json` and the like : its entries;
* `compactWire` : a wire with these texts, which reads the given reports back.
-/

set_option autoImplicit false

namespace Xsoc
namespace Json

/-- The bytes of a text. -/
def bytes (s : String) : List UInt8 := s.toByteArray.data.toList

def digits (n : Nat) : List UInt8 := (Nat.toDigits 10 n).map fun c => UInt8.ofNat c.toNat

/-- One byte of a JSON string: only bytes of one-byte characters are ever escaped. -/
def escapeByte (b : UInt8) : List UInt8 :=
  if b < 32 ∨ b = 34 ∨ b = 92 then utf8 (escapeChar (Char.ofNat b.toNat)) else [b]

def compactText (s : String) : List UInt8 := 34 :: ((bytes s).flatMap escapeByte ++ [34])

def compactNull : List UInt8 := bytes "null"

/-- With commas between. -/
def separated : List (List UInt8) → List UInt8
  | [] => []
  | [x] => x
  | x :: xs => x ++ 44 :: separated xs

def compactObject (fields : List (String × Option (List UInt8))) : Option (List UInt8) := do
  let items ← fields.mapM fun (name, value) => value.map fun value => compactText name ++ 58 :: value
  return 123 :: (separated items ++ [125])

end Json

open Json

/-- What has a JSON text, where it is written here. -/
class Written (α : Type) where
  json : α → Option (List UInt8)

open Written

instance : Written String := ⟨fun s => some (compactText s)⟩

instance : Written Nat := ⟨fun n => some (digits n)⟩

instance : Written Bool := ⟨fun b => some (if b then bytes "true" else bytes "false")⟩

/-- `null` where there is nothing. -/
instance {α : Type} [Written α] : Written (Option α) := ⟨fun o => o.elim (some compactNull) json⟩

instance {α : Type} [Written α] : Written (List α) :=
  ⟨fun xs => (xs.mapM json).map fun items => 91 :: (separated items ++ [93])⟩

/-! ## Numbers and times -/

/-- The number that an `f64` is, but for its sign, where it is whole. -/
def F64.whole (x : F64) : Option Nat :=
  let exponent := x.magnitude / 2 ^ 52
  let mantissa := 2 ^ 52 + x.magnitude % 2 ^ 52
  if x.magnitude = 0 then some 0
  else if 1023 ≤ exponent ∧ exponent ≤ 1075 ∧ mantissa % 2 ^ (1075 - exponent) = 0 then
    some (mantissa / 2 ^ (1075 - exponent))
  else none

instance : Written F64 where
  json x :=
    if x.isFinite then x.whole.map fun n => (if x.isNegative then [45] else []) ++ digits n ++ bytes ".0"
    else some compactNull

def twoDigits (n : Nat) : List UInt8 := digits (n / 10) ++ digits (n % 10)

/-- A time of the first day, in whole seconds. -/
instance : Written DateTime where
  json t :=
    if 0 ≤ t ∧ t < 86400 * 1000000000 ∧ t % 1000000000 = 0 then
      let seconds := (t / 1000000000).toNat
      some (bytes "\"1970-01-01T" ++ twoDigits (seconds / 3600) ++ 58 :: twoDigits (seconds / 60 % 60) ++
        58 :: twoDigits (seconds % 60) ++ bytes "Z\"")
    else none

/-! ## Records -/

def CapabilityErrorKind.text : CapabilityErrorKind → String
  | driverMissing => "driver_missing"
  | invalidData => "invalid_data"
  | notPresent => "not_present"
  | permissionDenied => "permission_denied"
  | transient => "transient"
  | unsupported => "unsupported"

instance : Written Capability where
  json c := compactObject [("name", json c.name), ("available", json c.available), ("source", json c.source),
    ("error_kind", json (c.errorKind.map CapabilityErrorKind.text)),
    ("message", json c.message)]

instance : Written NetworkSnapshot where
  json n := compactObject [("name", json n.name), ("received_bytes_total", json n.receivedBytesTotal),
    ("transmitted_bytes_total", json n.transmittedBytesTotal),
    ("received_bytes_per_second", json n.receivedBytesPerSecond),
    ("transmitted_bytes_per_second", json n.transmittedBytesPerSecond),
    ("packets_received_total", json n.packetsReceivedTotal),
    ("packets_transmitted_total", json n.packetsTransmittedTotal),
    ("receive_errors_total", json n.receiveErrorsTotal), ("transmit_errors_total", json n.transmitErrorsTotal)]

instance : Written DiskSnapshot where
  json d := compactObject [("name", json d.name), ("mount_point", json d.mountPoint),
    ("file_system", json d.fileSystem),
    ("total_bytes", json d.totalBytes), ("available_bytes", json d.availableBytes),
    ("read_bytes_total", json d.readBytesTotal), ("written_bytes_total", json d.writtenBytesTotal),
    ("read_bytes_per_second", json d.readBytesPerSecond), ("written_bytes_per_second", json d.writtenBytesPerSecond),
    ("is_read_only", json d.isReadOnly)]

instance : Written TemperatureSnapshot where
  json t := compactObject [("id", json t.id), ("label", json t.label), ("celsius", json t.celsius),
    ("max_celsius", json t.maxCelsius),
    ("critical_celsius", json t.criticalCelsius), ("source", json t.source)]

instance : Written GpuSnapshot where
  json g := compactObject [("id", json g.id), ("vendor", json g.vendor), ("name", json g.name),
    ("utilization_percent", json g.utilizationPercent),
    ("memory_total_bytes", json g.memoryTotalBytes),
    ("memory_used_bytes", json g.memoryUsedBytes),
    ("temperature_celsius", json g.temperatureCelsius),
    ("power_watts", json g.powerWatts), ("core_clock_mhz", json g.coreClockMhz),
    ("memory_clock_mhz", json g.memoryClockMhz),
    ("pcie_rx_bytes_per_second", json g.pcieRxBytesPerSecond),
    ("pcie_tx_bytes_per_second", json g.pcieTxBytesPerSecond), ("source", json g.source)]

instance : Written HostIdentity where
  json h := compactObject [("id", json h.id), ("os", json h.os), ("os_version", json h.osVersion),
    ("kernel_version", json h.kernelVersion), ("arch", json h.arch),
    ("client_version", json h.clientVersion)]

instance : Written CpuSnapshot where
  json c := compactObject [("usage_percent", json c.usagePercent), ("logical_count", json c.logicalCount),
    ("physical_count", json c.physicalCount),
    ("per_core_percent", json c.perCorePercent)]

instance : Written MemorySnapshot where
  json m := compactObject [("total_bytes", json m.totalBytes), ("used_bytes", json m.usedBytes),
    ("available_bytes", json m.availableBytes), ("swap_total_bytes", json m.swapTotalBytes),
    ("swap_used_bytes", json m.swapUsedBytes)]

instance : Written SystemSnapshot where
  json s := compactObject [("hardware", if s.hardware.isNone then some compactNull else none),
    ("uptime_seconds", json s.uptimeSeconds), ("cpu", json s.cpu), ("memory", json s.memory),
    ("networks", json s.networks), ("disks", json s.disks),
    ("temperatures", json s.temperatures),
    ("gpus", json s.gpus)]

instance : Written ClientHealth where
  json c := compactObject [("spool_pending_batches", json c.spoolPendingBatches),
    ("collector_errors", json c.collectorErrors)]

instance : Written ClientReport where
  json r := compactObject [("schema_version", json r.schemaVersion), ("report_id", json r.reportId),
    ("collected_at", json r.collectedAt), ("host", json r.host), ("interval_seconds", json r.intervalSeconds),
    ("system", json r.system), ("capabilities", json r.capabilities),
    ("client", json r.client)]

/-! ## A wire -/

/-- Limits with room for every report of the examples. -/
def roomyLimits : Limits where
  schemaVersion := 2
  maxBodyBytes := 262144
  minIntervalSeconds := ⟨0x3FF0000000000000⟩
  maxIntervalSeconds := ⟨0x40AC200000000000⟩
  maxHostOsBytes := 256
  maxHostVersionBytes := 256
  maxHostArchBytes := 64
  maxClientVersionBytes := 64
  maxCapabilityNameBytes := 128
  maxCapabilitySourceBytes := 128
  maxCapabilityMessageBytes := 512
  maxNetworkNameBytes := 256
  maxDiskNameBytes := 256
  maxMountPointBytes := 1024
  maxFileSystemBytes := 64
  maxTemperatureIdBytes := 256
  maxTemperatureLabelBytes := 256
  maxTemperatureSourceBytes := 128
  maxGpuIdBytes := 256
  maxGpuVendorBytes := 64
  maxGpuNameBytes := 256
  maxGpuSourceBytes := 128
  maxHardwareText := 256
  maxCpuCores := 1024
  maxCapabilities := 64
  maxNetworks := 64
  maxDisks := 64
  maxTemperatures := 64
  maxGpus := 32
  maxMemoryModules := 64
  maxHardwareDevices := 256
  maxHardwareNetworks := 64
  maxHardwareSensors := 256
  maxHardwareDisks := 64
  minInterval_finite := by decide
  maxInterval_finite := by decide
  interval_le := by decide
  texts := by decide
  capabilityName := by decide
  capabilitySource := by decide
  capabilityMessage := by decide
  cpuCores := by decide
  cpuCores_fits := by decide
  capabilities := by decide
  peaks := by decide

/-- A wire with these texts, which reads back the given reports. -/
def compactWire (reports : List ClientReport) : Wire where
  toLimits := roomyLimits
  keepsNegativeZero := false
  capabilityJson := json
  networkJson := json
  diskJson := json
  temperatureJson := json
  gpuJson := json
  toVec r := (json r).elim (.error "not written here") .ok
  fromSlice body := reports.find? fun r => json r == some body
  schemaVersionOf body := (reports.find? fun r => json r == some body).map ClientReport.schemaVersion

/-- A small report. -/
def quietReport : ClientReport where
  schemaVersion := 2
  reportId := "7d444840-9dc0-41d1-b245-5ffdce74fad2"
  collectedAt := 0
  host := ⟨"123e4567-e89b-42d3-a456-426614174000", "linux", none, none, "x86_64", "1.0.0"⟩
  intervalSeconds := ⟨0x4024000000000000⟩
  system :=
    { hardware := none
      uptimeSeconds := 1
      cpu := ⟨⟨0x4024000000000000⟩, 1, some 1, [⟨0x4024000000000000⟩]⟩
      memory := ⟨100, 50, 50, 0, 0⟩
      networks := []
      disks := []
      temperatures := []
      gpus := [] }
  capabilities := [Capability.ofAvailable "system.cpu" "sysinfo"]
  client := ⟨0, 0⟩

/-- An interface with these rates. -/
def quietNetwork (name : String) (received transmitted : F64) : NetworkSnapshot :=
  ⟨name, 0, 0, received, transmitted, 0, 0, 0, 0⟩

/-- A report with three interfaces: one receives the most, and another one transmits the most. -/
def networkReport : ClientReport :=
  { quietReport with
    system := { quietReport.system with
      networks := [quietNetwork "eth0" ⟨0x3FF0000000000000⟩ F64.hundred, quietNetwork "lo" F64.zero F64.zero,
        quietNetwork "wlan0" F64.thousand ⟨0x3FF0000000000000⟩] } }

end Xsoc
