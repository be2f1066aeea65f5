import Xsoc.Bounding.Ranked
import Xsoc.Report.Records
import Mathlib.Data.Prod.Lex

/-!
# Bounding the hardware snapshot

`boundHardware` brings the hardware of a report within the contract: first each record, then each collection.

* `keepsAddress` : the addresses that stay, as `std::net` parses them;
* `MemoryModule.Bounded` and the like : what is settled about a record;
* `HardwareSnapshot.Bounded` : what is settled about the snapshot at the time of its report;
* `boundHardware_settles` : `boundHardware` settles it, up to the order of memory modules and devices.
-/

set_option autoImplicit false

namespace Xsoc

open Bounding

/-! ## Addresses -/

/-- `char::to_digit` -/
def toDigit (radix : Nat) (c : Char) : Option Nat :=
  let value :=
    if '0' ≤ c ∧ c ≤ '9' then some (c.toNat - 48)
    else if 'a' ≤ c ∧ c ≤ 'z' then some (c.toNat - 87)
    else if 'A' ≤ c ∧ c ≤ 'Z' then some (c.toNat - 55)
    else none
  value.filter (· < radix)

/-- `read_number`: what is left after a number below the bound. -/
def readNumber (radix maxDigits bound : Nat) (allowZeroPrefix : Bool) (cs : List Char) : Option (List Char) :=
  let digits := cs.takeWhile fun c => (toDigit radix c).isSome
  let value := (digits.filterMap (toDigit radix)).foldl (fun n d => n * radix + d) 0
  if digits = [] ∨ maxDigits < digits.length ∨ bound ≤ value ∨
      allowZeroPrefix = false ∧ digits.head? = some '0' ∧ 1 < digits.length then none
  else some (cs.drop digits.length)

/-- `read_separator`: all but the first are preceded by a separator. -/
def readSeparator (separator : Char) (index : Nat) (read : List Char → Option (List Char)) (cs : List Char) :
    Option (List Char) :=
  if index = 0 then read cs
  else if cs.head? = some separator then read cs.tail else none

/-- `read_ipv4_addr` -/
def readIpv4 (cs : List Char) : Option (List Char) :=
  [0, 1, 2, 3].foldlM (fun cs index => readSeparator '.' index (readNumber 10 3 256 false) cs) cs

/-- `read_groups`: how many groups, whether the last two are an IPv4 address, and what is left. -/
def readGroups : Nat → Nat → List Char → Nat × Bool × List Char
  | 0, index, cs => (index, false, cs)
  | left + 1, index, cs =>
    match (if left = 0 then none else readSeparator ':' index readIpv4 cs) with
    | some rest => (index + 2, true, rest)
    | none =>
      match readSeparator ':' index (readNumber 16 4 65536 true) cs with
      | some rest => readGroups left (index + 1) rest
      | none => (index, false, cs)

/-- `read_ipv6_addr` -/
def readIpv6 (cs : List Char) : Option (List Char) :=
  match readGroups 8 0 cs with
  | (8, _, rest) => some rest
  | (_, true, _) => none
  | (n, false, ':' :: ':' :: rest) => some (readGroups (8 - (n + 1)) 0 rest).2.2
  | _ => none

/-- `parse::<IpAddr>`, and the longest prefix of such an address. -/
def parseIpAddr (cs : List Char) : Option Nat :=
  match readIpv4 cs with
  | some rest => if rest = [] then some 32 else none
  | none => if readIpv6 cs = some [] then some 128 else none

/-- `parse::<u8>` -/
def parseU8 (cs : List Char) : Option Nat :=
  let digits := if cs.head? = some '+' then cs.tail else cs
  if digits = [] ∨ digits.any (fun c => (toDigit 10 c).isNone) then none
  else
    let value := (digits.filterMap (toDigit 10)).foldl (fun n d => n * 10 + d) 0
    if value < 256 then some value else none

/-- The test of `ip_addresses.retain`. -/
def keepsAddress (address : String) : Bool :=
  let cs := address.toList
  let ip := cs.takeWhile (· ≠ '/')
  match parseIpAddr ip, parseU8 (cs.drop (ip.length + 1)) with
  | some longest, some length => '/' ∈ cs && length ≤ longest
  | _, _ => false

example : keepsAddress "10.0.0.1/24" = true ∧ keepsAddress "fe80::1/64" = true ∧ keepsAddress "10.0.0.1" = false := by
  decide +kernel

/-! ## What is settled about values -/

/-- A text that says something, where there is one. -/
abbrev Text.Optional (maximum : Nat) (o : Option String) : Prop := ∀ s ∈ o, Text.Required maximum s

/-- A number within bounds, where there is one. -/
abbrev F64.Optional (min max : F64) (o : Option F64) : Prop := ∀ x ∈ o, F64.Within min max x

/-- A time that is not after another. -/
abbrev NotAfter (limit : DateTime) (t : DateTime) : Prop := decide (limit < t) = false

def boundTime (limit : DateTime) : DateTime → Marked DateTime := reset (fun t => decide (limit < t)) limit

theorem boundTime_settles (limit : DateTime) : Settles (boundTime limit) (NotAfter limit) Eq :=
  Settles.reset (by simp)

theorem Text.Fallback.ofString {s : String} (h : (s.toList.all fun c => !isControl c) = true)
    (hs : (match s.toList with | c :: _ => c.utf8Size == 1 && !isWhitespace c | [] => false) = true) :
    Text.Fallback s := by
  refine ⟨fun c hc => by simpa using List.all_eq_true.mp h c hc, ?_⟩
  cases hcs : s.toList with
  | nil => simp [hcs] at hs
  | cons c cs => exact ⟨c, cs, rfl, by simpa [hcs] using hs⟩

theorem unknown_fallback : Text.Fallback "unknown" := .ofString (by decide) (by decide)

section

variable (wire : Wire)

def hardwareText (fallback : String) : String → Marked String := boundRequiredText wire.maxHardwareText fallback

def hardwareDetail : Option String → Marked (Option String) := boundOptionalNonemptyText wire.maxHardwareText

theorem hardwareText_settles {fallback : String} (h : Text.Fallback fallback) :
    Settles (hardwareText wire fallback) (Text.Required wire.maxHardwareText) Eq :=
  boundRequiredText_settles h (wire.texts _ (by simp))

theorem hardwareDetail_settles : Settles (hardwareDetail wire) (Text.Optional wire.maxHardwareText) Eq :=
  boundOptionalNonemptyText_settles _

/-! ## Memory modules and devices -/

def boundMemoryModule (m : MemoryModule) : Marked MemoryModule := do
  return { m with
    id := ← hardwareText wire "unknown-memory" m.id
    source := ← hardwareText wire "unknown" m.source
    locator := ← hardwareDetail wire m.locator
    model := ← hardwareDetail wire m.model
    vendor := ← hardwareDetail wire m.vendor
    memoryType := ← hardwareDetail wire m.memoryType
    moduleVersion := ← hardwareDetail wire m.moduleVersion
    formFactor := ← hardwareDetail wire m.formFactor
    reportedSpeed := ← hardwareDetail wire m.reportedSpeed
    capacityBytes := ← reset (· == some 0) none m.capacityBytes
    speedMtS := ← cleanNumber F64.minPositive F64.tenMillion m.speedMtS
    configuredSpeedMtS := ← cleanNumber F64.minPositive F64.tenMillion m.configuredSpeedMtS }

structure MemoryModule.Bounded (m : MemoryModule) : Prop where
  id : Text.Required wire.maxHardwareText m.id
  source : Text.Required wire.maxHardwareText m.source
  locator : Text.Optional wire.maxHardwareText m.locator
  model : Text.Optional wire.maxHardwareText m.model
  vendor : Text.Optional wire.maxHardwareText m.vendor
  memoryType : Text.Optional wire.maxHardwareText m.memoryType
  moduleVersion : Text.Optional wire.maxHardwareText m.moduleVersion
  formFactor : Text.Optional wire.maxHardwareText m.formFactor
  reportedSpeed : Text.Optional wire.maxHardwareText m.reportedSpeed
  capacityBytes : (m.capacityBytes == some 0) = false
  speedMtS : F64.Optional F64.minPositive F64.tenMillion m.speedMtS
  configuredSpeedMtS : F64.Optional F64.minPositive F64.tenMillion m.configuredSpeedMtS

theorem boundMemoryModule_settles : Settles (boundMemoryModule wire) (MemoryModule.Bounded wire) Eq := by
  have hid := hardwareText_settles wire (.ofString (by decide) (by decide) : Text.Fallback "unknown-memory")
  have hsource := hardwareText_settles wire unknown_fallback
  have htext := hardwareDetail_settles wire
  have hcapacity : Settles (reset (· == some 0) none) (fun o : Option Nat => (o == some 0) = false) Eq :=
    Settles.reset rfl
  have hspeed : Settles (cleanNumber F64.minPositive F64.tenMillion) _ Eq := cleanNumber_settles (by decide) (by decide)
  refine Settles.ofFixed (fun m => ?_) (fun {m} h => ?_) (fun {m} h => ?_)
  · simp only [boundMemoryModule, Marked.bind_value, Marked.pure_value]
    constructor <;> dsimp only
    exacts [hid.result _, hsource.result _, htext.result _, htext.result _, htext.result _, htext.result _,
      htext.result _, htext.result _, htext.result _, hcapacity.result _, hspeed.result _, hspeed.result _]
  · simp only [boundMemoryModule, hid.fixed h.id, hsource.fixed h.source, htext.fixed h.locator, htext.fixed h.model,
      htext.fixed h.vendor, htext.fixed h.memoryType, htext.fixed h.moduleVersion, htext.fixed h.formFactor,
      htext.fixed h.reportedSpeed, hcapacity.fixed h.capacityBytes, hspeed.fixed h.speedMtS,
      hspeed.fixed h.configuredSpeedMtS, Marked.pure_bind]
  · simp only [boundMemoryModule, Marked.bind_changed, Marked.pure_changed, Bool.or_eq_false_iff] at h
    obtain ⟨h1, h2, h3, h4, h5, h6, h7, h8, h9, h10, h11, h12, -⟩ := h
    exact ⟨hid.ok h1, hsource.ok h2, htext.ok h3, htext.ok h4, htext.ok h5, htext.ok h6, htext.ok h7, htext.ok h8,
      htext.ok h9, hcapacity.ok h10, hspeed.ok h11, hspeed.ok h12⟩

def MemoryModule.sortKey (m : MemoryModule) : List Nat ×ₗ List Nat := toLex (textKey m.source, textKey m.id)

def boundMemoryModules (l : List MemoryModule) : Marked (List MemoryModule) := do
  let l ← each (boundMemoryModule wire) l
  let l ← arranged (sortBy MemoryModule.sortKey) l
  let l ← resized (dedupAdjacent fun m => (m.source, m.id)) l
  truncate wire.maxMemoryModules l

structure MemoryModulesBounded (l : List MemoryModule) : Prop where
  each : ∀ m ∈ l, m.Bounded wire
  distinct : l.Pairwise fun m n => m.sortKey < n.sortKey
  length : l.length ≤ wire.maxMemoryModules

theorem MemoryModule.sortKey_eq_iff (m n : MemoryModule) :
    m.sortKey = n.sortKey ↔ (m.source, m.id) = (n.source, n.id) := by
  rw [sortKey, sortKey, toLex_inj, Prod.mk.injEq, Prod.mk.injEq]
  exact ⟨fun h => ⟨textKey_injective h.1, textKey_injective h.2⟩, fun h => ⟨congrArg _ h.1, congrArg _ h.2⟩⟩

theorem boundMemoryModules_settles : Settles (boundMemoryModules wire) (MemoryModulesBounded wire) List.Perm := by
  have hsort := Settles.sortDedup MemoryModule.sortKey (fun _ _ => id) (fun _ _ => le_of_lt) MemoryModule.sortKey_eq_iff
  have htail := hsort.andThen (Settles.truncate wire.maxMemoryModules).perm
    (fun l h => by rw [truncate_value]; exact h.sublist (List.take_sublist _ _)) List.Perm.trans
  have hall := (boundMemoryModule_settles wire).each.perm.andThen htail
    (fun l h m hm => h m ?_) List.Perm.trans
  · exact hall.congr fun l => ⟨fun h => ⟨h.1, h.2.1, h.2.2⟩, fun h => ⟨h.each, h.distinct, h.length⟩⟩
  · simp only [Marked.bind_value, truncate_value, resized_value] at hm
    exact (mem_sortBy _).mp ((dedupAdjacent_sublist _ _).subset (List.mem_of_mem_take hm))

def boundHardwareDevice (d : HardwareDevice) : Marked HardwareDevice := do
  return { d with
    id := ← hardwareText wire "unknown-device" d.id
    name := ← hardwareText wire "unknown-device" d.name
    source := ← hardwareText wire "unknown" d.source
    model := ← hardwareDetail wire d.model
    vendor := ← hardwareDetail wire d.vendor
    vendorId := ← hardwareDetail wire d.vendorId
    productId := ← hardwareDetail wire d.productId
    revision := ← hardwareDetail wire d.revision
    version := ← hardwareDetail wire d.version
    bus := ← hardwareDetail wire d.bus
    driver := ← hardwareDetail wire d.driver
    connection := ← hardwareDetail wire d.connection
    speedMbps := ← cleanNumber F64.minPositive F64.billion d.speedMbps }

structure HardwareDevice.Bounded (d : HardwareDevice) : Prop where
  id : Text.Required wire.maxHardwareText d.id
  name : Text.Required wire.maxHardwareText d.name
  source : Text.Required wire.maxHardwareText d.source
  model : Text.Optional wire.maxHardwareText d.model
  vendor : Text.Optional wire.maxHardwareText d.vendor
  vendorId : Text.Optional wire.maxHardwareText d.vendorId
  productId : Text.Optional wire.maxHardwareText d.productId
  revision : Text.Optional wire.maxHardwareText d.revision
  version : Text.Optional wire.maxHardwareText d.version
  bus : Text.Optional wire.maxHardwareText d.bus
  driver : Text.Optional wire.maxHardwareText d.driver
  connection : Text.Optional wire.maxHardwareText d.connection
  speedMbps : F64.Optional F64.minPositive F64.billion d.speedMbps

theorem boundHardwareDevice_settles : Settles (boundHardwareDevice wire) (HardwareDevice.Bounded wire) Eq := by
  have hdevice := hardwareText_settles wire (.ofString (by decide) (by decide) : Text.Fallback "unknown-device")
  have hsource := hardwareText_settles wire unknown_fallback
  have htext := hardwareDetail_settles wire
  have hspeed : Settles (cleanNumber F64.minPositive F64.billion) _ Eq := cleanNumber_settles (by decide) (by decide)
  refine Settles.ofFixed (fun d => ?_) (fun {d} h => ?_) (fun {d} h => ?_)
  · simp only [boundHardwareDevice, Marked.bind_value, Marked.pure_value]
    constructor <;> dsimp only
    exacts [hdevice.result _, hdevice.result _, hsource.result _, htext.result _, htext.result _, htext.result _,
      htext.result _, htext.result _, htext.result _, htext.result _, htext.result _, htext.result _, hspeed.result _]
  · simp only [boundHardwareDevice, hdevice.fixed h.id, hdevice.fixed h.name, hsource.fixed h.source,
      htext.fixed h.model, htext.fixed h.vendor, htext.fixed h.vendorId, htext.fixed h.productId,
      htext.fixed h.revision, htext.fixed h.version, htext.fixed h.bus, htext.fixed h.driver,
      htext.fixed h.connection, hspeed.fixed h.speedMbps, Marked.pure_bind]
  · simp only [boundHardwareDevice, Marked.bind_changed, Marked.pure_changed, Bool.or_eq_false_iff] at h
    obtain ⟨h1, h2, h3, h4, h5, h6, h7, h8, h9, h10, h11, h12, h13, -⟩ := h
    exact ⟨hdevice.ok h1, hdevice.ok h2, hsource.ok h3, htext.ok h4, htext.ok h5, htext.ok h6, htext.ok h7,
      htext.ok h8, htext.ok h9, htext.ok h10, htext.ok h11, htext.ok h12, hspeed.ok h13⟩

def HardwareDevice.sortKey (d : HardwareDevice) : List Nat ×ₗ List Nat := toLex (textKey d.source, textKey d.id)

def HardwareDevice.identity (d : HardwareDevice) : String × String × HardwareDeviceKind := (d.source, d.id, d.kind)

def boundDevices (l : List HardwareDevice) : Marked (List HardwareDevice) := do
  let l ← each (boundHardwareDevice wire) l
  let l ← arranged (sortBy HardwareDevice.sortKey) l
  let l ← resized (retainFirst HardwareDevice.identity []) l
  truncate wire.maxHardwareDevices l

structure DevicesBounded (l : List HardwareDevice) : Prop where
  each : ∀ d ∈ l, d.Bounded wire
  sorted : InOrder HardwareDevice.sortKey l
  distinct : (l.map HardwareDevice.identity).Nodup
  length : l.length ≤ wire.maxHardwareDevices

theorem boundDevices_settles : Settles (boundDevices wire) (DevicesBounded wire) List.Perm := by
  have htruncate := (Settles.truncate (α := HardwareDevice) wire.maxHardwareDevices).perm
  have hdistinct := (Settles.retainFirst HardwareDevice.identity).perm.andThen htruncate
    (fun l h => by rw [truncate_value]; exact h.sublist ((List.take_sublist _ _).map _)) List.Perm.trans
  have hsorted := (Settles.sortBy HardwareDevice.sortKey).andThen hdistinct ?_ List.Perm.trans
  have hall := (boundHardwareDevice_settles wire).each.perm.andThen hsorted
    (fun l h d hd => h d ?_) List.Perm.trans
  · exact hall.congr fun l => ⟨fun h => ⟨h.1, h.2.1, h.2.2.1, h.2.2.2⟩, fun h =>
      ⟨h.each, h.sorted, h.distinct, h.length⟩⟩
  · simp only [Marked.bind_value, truncate_value, resized_value] at hd
    exact (mem_sortBy _).mp ((retainFirst_sublist _ _ _).subset (List.mem_of_mem_take hd))
  · intro l h
    simp only [Marked.bind_value, truncate_value, resized_value]
    exact h.sublist ((List.take_sublist _ _).trans (retainFirst_sublist _ _ _))

/-! ## The processor, networks, sensors and disks -/

def boundFrequencies (l : List (Option F64)) : Marked (List (Option F64)) :=
  truncate wire.maxCpuCores l >>= each (cleanNumber F64.zero F64.max)

def boundCpuHardware (c : CpuHardware) : Marked CpuHardware := do
  return { c with
    model := ← hardwareDetail wire c.model
    vendor := ← hardwareDetail wire c.vendor
    frequencyMhz := ← cleanNumber F64.zero F64.max c.frequencyMhz
    maxFrequencyMhz := ← cleanNumber F64.zero F64.max c.maxFrequencyMhz
    perCoreFrequencyMhz := ← boundFrequencies wire c.perCoreFrequencyMhz
    loadAverage := ← reset (fun o => o.any fun (one, five, fifteen) =>
      [one, five, fifteen].any fun v => !v.isFinite || v.lt F64.zero) none c.loadAverage }

structure CpuHardware.Bounded (c : CpuHardware) : Prop where
  model : Text.Optional wire.maxHardwareText c.model
  vendor : Text.Optional wire.maxHardwareText c.vendor
  frequencyMhz : F64.Optional F64.zero F64.max c.frequencyMhz
  maxFrequencyMhz : F64.Optional F64.zero F64.max c.maxFrequencyMhz
  perCoreFrequencyMhz : c.perCoreFrequencyMhz.length ≤ wire.maxCpuCores ∧
    ∀ v ∈ c.perCoreFrequencyMhz, F64.Optional F64.zero F64.max v
  loadAverage : (c.loadAverage.any fun (one, five, fifteen) =>
    [one, five, fifteen].any fun v => !v.isFinite || v.lt F64.zero) = false

theorem boundCpuHardware_settles : Settles (boundCpuHardware wire) (CpuHardware.Bounded wire) Eq := by
  have htext := hardwareDetail_settles wire
  have hnumber : Settles (cleanNumber F64.zero F64.max) _ Eq := cleanNumber_settles (by decide) (by decide)
  have hcores : Settles (boundFrequencies wire) _ Eq := (Settles.truncate wire.maxCpuCores).andThen hnumber.each
    (fun l h => by rwa [each_value, List.length_map]) Eq.trans
  have hload : Settles (reset (fun o : Option (F64 × F64 × F64) => o.any fun (one, five, fifteen) =>
    [one, five, fifteen].any fun v => !v.isFinite || v.lt F64.zero) none) _ Eq := Settles.reset rfl
  refine Settles.ofFixed (fun c => ?_) (fun {c} h => ?_) (fun {c} h => ?_)
  · simp only [boundCpuHardware, Marked.bind_value, Marked.pure_value]
    constructor <;> dsimp only
    exacts [htext.result _, htext.result _, hnumber.result _, hnumber.result _, hcores.result _, hload.result _]
  · simp only [boundCpuHardware, htext.fixed h.model, htext.fixed h.vendor, hnumber.fixed h.frequencyMhz,
      hnumber.fixed h.maxFrequencyMhz, hcores.fixed h.perCoreFrequencyMhz, hload.fixed h.loadAverage,
      Marked.pure_bind]
  · simp only [boundCpuHardware, Marked.bind_changed, Marked.pure_changed, Bool.or_eq_false_iff] at h
    obtain ⟨h1, h2, h3, h4, h5, h6, -⟩ := h
    exact ⟨htext.ok h1, htext.ok h2, hnumber.ok h3, hnumber.ok h4, hcores.ok h5, hload.ok h6⟩

def boundNetworkHardware (n : NetworkHardware) : Marked NetworkHardware := do
  return { n with
    name := ← hardwareText wire "unknown" n.name
    macAddress := ← hardwareDetail wire n.macAddress
    operationalState := ← hardwareDetail wire n.operationalState
    linkSpeedMbps := ← cleanNumber F64.zero F64.max n.linkSpeedMbps
    ipAddresses := ← boundAddresses n.ipAddresses }
where
  boundAddresses (l : List String) : Marked (List String) := truncate 64 l >>= resized (List.filter keepsAddress)

structure NetworkHardware.Bounded (n : NetworkHardware) : Prop where
  name : Text.Required wire.maxHardwareText n.name
  macAddress : Text.Optional wire.maxHardwareText n.macAddress
  operationalState : Text.Optional wire.maxHardwareText n.operationalState
  linkSpeedMbps : F64.Optional F64.zero F64.max n.linkSpeedMbps
  ipAddresses : n.ipAddresses.length ≤ 64 ∧ ∀ a ∈ n.ipAddresses, keepsAddress a = true

theorem boundNetworkHardware_settles : Settles (boundNetworkHardware wire) (NetworkHardware.Bounded wire) Eq := by
  have hname := hardwareText_settles wire unknown_fallback
  have htext := hardwareDetail_settles wire
  have hspeed : Settles (cleanNumber F64.zero F64.max) _ Eq := cleanNumber_settles (by decide) (by decide)
  have haddresses : Settles boundNetworkHardware.boundAddresses _ Eq :=
    (Settles.truncate 64).andThen (Settles.retain keepsAddress)
      (fun l h => (List.filter_sublist.length_le).trans h) Eq.trans
  refine Settles.ofFixed (fun n => ?_) (fun {n} h => ?_) (fun {n} h => ?_)
  · simp only [boundNetworkHardware, Marked.bind_value, Marked.pure_value]
    constructor <;> dsimp only
    exacts [hname.result _, htext.result _, htext.result _, hspeed.result _, haddresses.result _]
  · simp only [boundNetworkHardware, hname.fixed h.name, htext.fixed h.macAddress, htext.fixed h.operationalState,
      hspeed.fixed h.linkSpeedMbps, haddresses.fixed h.ipAddresses, Marked.pure_bind]
  · simp only [boundNetworkHardware, Marked.bind_changed, Marked.pure_changed, Bool.or_eq_false_iff] at h
    obtain ⟨h1, h2, h3, h4, h5, -⟩ := h
    exact ⟨hname.ok h1, htext.ok h2, htext.ok h3, hspeed.ok h4, haddresses.ok h5⟩

def boundNetworkHardwares (l : List NetworkHardware) : Marked (List NetworkHardware) :=
  truncate wire.maxHardwareNetworks l >>= each (boundNetworkHardware wire)

def boundPhysicalNetwork (n : PhysicalNetworkAdapter) : Marked PhysicalNetworkAdapter := do
  return { n with
    id := ← hardwareText wire "unknown-adapter" n.id
    name := ← hardwareText wire "unknown-adapter" n.name
    interfaceName := ← hardwareDetail wire n.interfaceName
    macAddress := ← hardwareDetail wire n.macAddress
    linkSpeedMbps := ← cleanNumber F64.zero F64.max n.linkSpeedMbps
    source := ← hardwareText wire "unknown" n.source }

structure PhysicalNetworkAdapter.Bounded (n : PhysicalNetworkAdapter) : Prop where
  id : Text.Required wire.maxHardwareText n.id
  name : Text.Required wire.maxHardwareText n.name
  interfaceName : Text.Optional wire.maxHardwareText n.interfaceName
  macAddress : Text.Optional wire.maxHardwareText n.macAddress
  linkSpeedMbps : F64.Optional F64.zero F64.max n.linkSpeedMbps
  source : Text.Required wire.maxHardwareText n.source

theorem boundPhysicalNetwork_settles :
    Settles (boundPhysicalNetwork wire) (PhysicalNetworkAdapter.Bounded wire) Eq := by
  have hadapter := hardwareText_settles wire (.ofString (by decide) (by decide) : Text.Fallback "unknown-adapter")
  have hsource := hardwareText_settles wire unknown_fallback
  have htext := hardwareDetail_settles wire
  have hspeed : Settles (cleanNumber F64.zero F64.max) _ Eq := cleanNumber_settles (by decide) (by decide)
  refine Settles.ofFixed (fun n => ?_) (fun {n} h => ?_) (fun {n} h => ?_)
  · simp only [boundPhysicalNetwork, Marked.bind_value, Marked.pure_value]
    constructor <;> dsimp only
    exacts [hadapter.result _, hadapter.result _, htext.result _, htext.result _, hspeed.result _, hsource.result _]
  · simp only [boundPhysicalNetwork, hadapter.fixed h.id, hadapter.fixed h.name, htext.fixed h.interfaceName,
      htext.fixed h.macAddress, hspeed.fixed h.linkSpeedMbps, hsource.fixed h.source, Marked.pure_bind]
  · simp only [boundPhysicalNetwork, Marked.bind_changed, Marked.pure_changed, Bool.or_eq_false_iff] at h
    obtain ⟨h1, h2, h3, h4, h5, h6, -⟩ := h
    exact ⟨hadapter.ok h1, hadapter.ok h2, htext.ok h3, htext.ok h4, hspeed.ok h5, hsource.ok h6⟩

def PhysicalNetworkAdapter.identity (n : PhysicalNetworkAdapter) : String × String := (n.source, n.id)

def boundPhysicalNetworks (l : List PhysicalNetworkAdapter) : Marked (List PhysicalNetworkAdapter) := do
  let l ← each (boundPhysicalNetwork wire) l
  let l ← resized (retainFirst PhysicalNetworkAdapter.identity []) l
  truncate wire.maxHardwareNetworks l

/-- A sensor's value counts when it is a number, and below zero only for voltages and currents. -/
def HardwareSensor.readable (s : HardwareSensor) : Bool :=
  s.value.isFinite && (F64.zero.le s.value || s.kind == .voltageVolts || s.kind == .currentAmps)

def boundSensor (s : HardwareSensor) : Marked HardwareSensor := do
  return { s with
    id := ← hardwareText wire "unknown" s.id
    label := ← hardwareText wire "unknown" s.label
    source := ← hardwareText wire "unknown" s.source }

structure HardwareSensor.Bounded (s : HardwareSensor) : Prop where
  id : Text.Required wire.maxHardwareText s.id
  label : Text.Required wire.maxHardwareText s.label
  source : Text.Required wire.maxHardwareText s.source

theorem boundSensor_settles : Settles (boundSensor wire) (HardwareSensor.Bounded wire) Eq := by
  have htext := hardwareText_settles wire unknown_fallback
  refine Settles.ofFixed (fun s => ?_) (fun {s} h => ?_) (fun {s} h => ?_)
  · simp only [boundSensor, Marked.bind_value, Marked.pure_value]
    constructor <;> dsimp only
    exacts [htext.result _, htext.result _, htext.result _]
  · simp only [boundSensor, htext.fixed h.id, htext.fixed h.label, htext.fixed h.source, Marked.pure_bind]
  · simp only [boundSensor, Marked.bind_changed, Marked.pure_changed, Bool.or_eq_false_iff] at h
    exact ⟨htext.ok h.1, htext.ok h.2.1, htext.ok h.2.2.1⟩

/-- The texts of a sensor do not decide whether it is read. -/
theorem readable_boundSensor (s : HardwareSensor) : (boundSensor wire s).value.readable = s.readable := by
  simp only [boundSensor, Marked.bind_value, Marked.pure_value, HardwareSensor.readable]

def HardwareSensor.identity (s : HardwareSensor) : String × String := (s.source, s.id)

def boundSensors (l : List HardwareSensor) : Marked (List HardwareSensor) := do
  let l ← truncate wire.maxHardwareSensors l
  let l ← resized (List.filter HardwareSensor.readable) l
  let l ← each (boundSensor wire) l
  resized (retainFirst HardwareSensor.identity []) l

def boundDiskHealth (reportTime : DateTime) (d : DiskHealth) : Marked DiskHealth := do
  return { d with
    collectedAt := ← boundTime reportTime d.collectedAt
    device := ← hardwareText wire "unknown" d.device
    source := ← hardwareText wire "unknown" d.source
    model := ← hardwareDetail wire d.model
    serialNumber := ← hardwareDetail wire d.serialNumber
    protocol := ← hardwareDetail wire d.protocol
    temperatureCelsius := ← cleanNumber F64.absoluteZero F64.thousand d.temperatureCelsius
    percentageUsed := ← cleanNumber F64.zero F64.maxByte d.percentageUsed
    availableSparePercent := ← cleanNumber F64.zero F64.hundred d.availableSparePercent }

structure DiskHealth.Bounded (reportTime : DateTime) (d : DiskHealth) : Prop where
  collectedAt : NotAfter reportTime d.collectedAt
  device : Text.Required wire.maxHardwareText d.device
  source : Text.Required wire.maxHardwareText d.source
  model : Text.Optional wire.maxHardwareText d.model
  serialNumber : Text.Optional wire.maxHardwareText d.serialNumber
  protocol : Text.Optional wire.maxHardwareText d.protocol
  temperatureCelsius : F64.Optional F64.absoluteZero F64.thousand d.temperatureCelsius
  percentageUsed : F64.Optional F64.zero F64.maxByte d.percentageUsed
  availableSparePercent : F64.Optional F64.zero F64.hundred d.availableSparePercent

theorem boundDiskHealth_settles (reportTime : DateTime) :
    Settles (boundDiskHealth wire reportTime) (DiskHealth.Bounded wire reportTime) Eq := by
  have htime := boundTime_settles reportTime
  have hname := hardwareText_settles wire unknown_fallback
  have htext := hardwareDetail_settles wire
  have hcelsius : Settles (cleanNumber F64.absoluteZero F64.thousand) _ Eq :=
    cleanNumber_settles (by decide) (by decide)
  have hused : Settles (cleanNumber F64.zero F64.maxByte) _ Eq := cleanNumber_settles (by decide) (by decide)
  have hspare : Settles (cleanNumber F64.zero F64.hundred) _ Eq := cleanNumber_settles (by decide) (by decide)
  refine Settles.ofFixed (fun d => ?_) (fun {d} h => ?_) (fun {d} h => ?_)
  · simp only [boundDiskHealth, Marked.bind_value, Marked.pure_value]
    constructor <;> dsimp only
    exacts [htime.result _, hname.result _, hname.result _, htext.result _, htext.result _, htext.result _,
      hcelsius.result _, hused.result _, hspare.result _]
  · simp only [boundDiskHealth, htime.fixed h.collectedAt, hname.fixed h.device, hname.fixed h.source,
      htext.fixed h.model, htext.fixed h.serialNumber, htext.fixed h.protocol, hcelsius.fixed h.temperatureCelsius,
      hused.fixed h.percentageUsed, hspare.fixed h.availableSparePercent, Marked.pure_bind]
  · simp only [boundDiskHealth, Marked.bind_changed, Marked.pure_changed, Bool.or_eq_false_iff] at h
    obtain ⟨h1, h2, h3, h4, h5, h6, h7, h8, h9, -⟩ := h
    exact ⟨htime.ok h1, hname.ok h2, hname.ok h3, htext.ok h4, htext.ok h5, htext.ok h6, hcelsius.ok h7,
      hused.ok h8, hspare.ok h9⟩

def boundDiskHealths (reportTime : DateTime) (l : List DiskHealth) : Marked (List DiskHealth) :=
  truncate wire.maxHardwareDisks l >>= each (boundDiskHealth wire reportTime)

/-! ## The collections -/

/-- At most so many elements, each of them settled. -/
structure AtMost {α : Type} (maximum : Nat) (ok : α → Prop) (l : List α) : Prop where
  length : l.length ≤ maximum
  each : ∀ x ∈ l, ok x

theorem truncateEach_settles {α : Type} {f : α → Marked α} {ok : α → Prop} (maximum : Nat) (h : Settles f ok Eq) :
    Settles (fun l => truncate maximum l >>= each f) (AtMost maximum ok) Eq :=
  ((Settles.truncate maximum).andThen h.each (fun l hl => by rwa [each_value, List.length_map]) Eq.trans).congr
    fun _ => ⟨fun h => ⟨h.1, h.2⟩, fun h => ⟨h.length, h.each⟩⟩

theorem boundNetworkHardwares_settles : Settles (boundNetworkHardwares wire)
    (AtMost wire.maxHardwareNetworks (NetworkHardware.Bounded wire)) Eq :=
  truncateEach_settles _ (boundNetworkHardware_settles wire)

theorem boundDiskHealths_settles (reportTime : DateTime) : Settles (boundDiskHealths wire reportTime)
    (AtMost wire.maxHardwareDisks (DiskHealth.Bounded wire reportTime)) Eq :=
  truncateEach_settles _ (boundDiskHealth_settles wire reportTime)

structure PhysicalNetworksBounded (l : List PhysicalNetworkAdapter) : Prop where
  each : ∀ n ∈ l, n.Bounded wire
  distinct : (l.map PhysicalNetworkAdapter.identity).Nodup
  length : l.length ≤ wire.maxHardwareNetworks

theorem boundPhysicalNetworks_settles : Settles (boundPhysicalNetworks wire) (PhysicalNetworksBounded wire) Eq := by
  have hdistinct := (Settles.retainFirst PhysicalNetworkAdapter.identity).andThen
    (Settles.truncate wire.maxHardwareNetworks)
    (fun l h => by rw [truncate_value]; exact h.sublist ((List.take_sublist _ _).map _)) Eq.trans
  have hall := (boundPhysicalNetwork_settles wire).each.andThen hdistinct (fun l h n hn => h n ?_) Eq.trans
  · exact hall.congr fun l => ⟨fun h => ⟨h.1, h.2.1, h.2.2⟩, fun h => ⟨h.each, h.distinct, h.length⟩⟩
  · simp only [Marked.bind_value, truncate_value, resized_value] at hn
    exact (retainFirst_sublist _ _ _).subset (List.mem_of_mem_take hn)

structure SensorsBounded (l : List HardwareSensor) : Prop where
  length : l.length ≤ wire.maxHardwareSensors
  readable : ∀ s ∈ l, s.readable = true
  each : ∀ s ∈ l, s.Bounded wire
  distinct : (l.map HardwareSensor.identity).Nodup

theorem boundSensors_settles : Settles (boundSensors wire) (SensorsBounded wire) Eq := by
  have hsub : ∀ l : List HardwareSensor, (retainFirst HardwareSensor.identity [] l).Sublist l := retainFirst_sublist _ _
  have hdistinct := (boundSensor_settles wire).each.andThen (Settles.retainFirst HardwareSensor.identity)
    (fun l h s hs => h s ((hsub l).subset hs)) Eq.trans
  have hread := (Settles.retain HardwareSensor.readable).andThen hdistinct ?_ Eq.trans
  have hall := (Settles.truncate (α := HardwareSensor) wire.maxHardwareSensors).andThen hread ?_ Eq.trans
  · exact hall.congr fun l =>
      ⟨fun h => ⟨h.1, h.2.1, h.2.2.1, h.2.2.2⟩, fun h => ⟨h.length, h.readable, h.each, h.distinct⟩⟩
  · intro l h
    simp only [Marked.bind_value, resized_value, each_value]
    refine ((hsub _).length_le).trans ?_
    rw [List.length_map]
    exact (List.filter_sublist.length_le).trans h
  · intro l h s hs
    simp only [Marked.bind_value, resized_value, each_value] at hs
    obtain ⟨t, ht, rfl⟩ := List.mem_map.mp ((hsub _).subset hs)
    rw [readable_boundSensor]
    exact h t ht

/-! ## The snapshot -/

/-- `bound_hardware` -/
def boundHardware (reportTime : DateTime) (h : HardwareSnapshot) : Marked HardwareSnapshot := do
  return { h with
    inventoryCollectedAt := ← optional (boundTime reportTime) h.inventoryCollectedAt
    memoryModules := ← boundMemoryModules wire h.memoryModules
    devices := ← boundDevices wire h.devices
    collectedAt := ← boundTime reportTime h.collectedAt
    cpu := ← boundCpuHardware wire h.cpu
    networks := ← boundNetworkHardwares wire h.networks
    physicalNetworks := ← boundPhysicalNetworks wire h.physicalNetworks
    sensors := ← boundSensors wire h.sensors
    diskHealth := ← boundDiskHealths wire reportTime h.diskHealth }

structure HardwareSnapshot.Bounded (reportTime : DateTime) (h : HardwareSnapshot) : Prop where
  inventoryCollectedAt : ∀ t ∈ h.inventoryCollectedAt, NotAfter reportTime t
  memoryModules : MemoryModulesBounded wire h.memoryModules
  devices : DevicesBounded wire h.devices
  collectedAt : NotAfter reportTime h.collectedAt
  cpu : h.cpu.Bounded wire
  networks : AtMost wire.maxHardwareNetworks (NetworkHardware.Bounded wire) h.networks
  physicalNetworks : PhysicalNetworksBounded wire h.physicalNetworks
  sensors : SensorsBounded wire h.sensors
  diskHealth : AtMost wire.maxHardwareDisks (DiskHealth.Bounded wire reportTime) h.diskHealth

/-- The same hardware, but for the order of memory modules and devices. -/
structure HardwareSnapshot.Same (h h' : HardwareSnapshot) : Prop where
  memoryModules : h.memoryModules.Perm h'.memoryModules
  devices : h.devices.Perm h'.devices
  rest : { h' with memoryModules := h.memoryModules, devices := h.devices } = h

theorem boundHardware_settles (reportTime : DateTime) :
    Settles (boundHardware wire reportTime) (HardwareSnapshot.Bounded wire reportTime) HardwareSnapshot.Same := by
  have htime := boundTime_settles reportTime
  have hinventory := htime.optional
  have hmemory := boundMemoryModules_settles wire
  have hdevices := boundDevices_settles wire
  have hcpu := boundCpuHardware_settles wire
  have hnetworks := boundNetworkHardwares_settles wire
  have hphysical := boundPhysicalNetworks_settles wire
  have hsensors := boundSensors_settles wire
  have hdisks := boundDiskHealths_settles wire reportTime
  constructor
  · intro h
    simp only [boundHardware, Marked.bind_value, Marked.pure_value]
    constructor <;> dsimp only
    exacts [hinventory.result _, hmemory.result _, hdevices.result _, htime.result _, hcpu.result _,
      hnetworks.result _, hphysical.result _, hsensors.result _, hdisks.result _]
  · intro h hb
    simp only [boundHardware, hinventory.fixed hb.inventoryCollectedAt, hmemory.fixed hb.memoryModules,
      hdevices.fixed hb.devices, htime.fixed hb.collectedAt, hcpu.fixed hb.cpu, hnetworks.fixed hb.networks,
      hphysical.fixed hb.physicalNetworks, hsensors.fixed hb.sensors, hdisks.fixed hb.diskHealth, Marked.pure_bind]
  · intro h hc
    simp only [boundHardware, Marked.bind_changed, Marked.pure_changed, Bool.or_eq_false_iff] at hc
    obtain ⟨h1, h2, h3, h4, h5, h6, h7, h8, h9, -⟩ := hc
    simp only [boundHardware, Marked.bind_value, Marked.pure_value, ← hinventory.honest h1, ← htime.honest h4,
      ← hcpu.honest h5, ← hnetworks.honest h6, ← hphysical.honest h7, ← hsensors.honest h8, ← hdisks.honest h9]
    exact ⟨hmemory.honest h2, hdevices.honest h3, rfl⟩

end

end Xsoc
