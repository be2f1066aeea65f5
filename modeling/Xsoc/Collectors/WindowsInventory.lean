import Xsoc.Bounding.Cutting
import Xsoc.Collectors.Document
import Xsoc.Collectors.GpuMerge
import Xsoc.Collectors.Inventory
import Xsoc.Error
import Xsoc.Report.Rendering

/-!
# The inventory report of Windows

A script lists the memory, the plug and play devices, the monitors and the sound devices. The classes and names of the
plug and play devices say which kind they are of; monitors and sound devices that are not among them are added.

* `gatherMemory`, `gatherPnp`, `gatherMonitor`, `gatherSound` : what is made of the four lists;
* `parseWindows` : the report;
* `pnpKeys`, `windowsKeys` : what the entries of a report name; `gatherWindows_keys` : it is what is found;
* `uniqueKeys_parseWindows` : the inventory has unique keys as long as no kind comes back among the plug and play
  entries.
-/

set_option autoImplicit false

namespace Xsoc

open Bounding

namespace NativeInventory

/-! ## Texts -/

/-- `String::from_utf16_lossy` -/
def fromUtf16Lossy : List Nat → List Char
  | [] => []
  | u :: us =>
    if u < 0xD800 ∨ 0xE000 ≤ u then Char.ofNat u :: fromUtf16Lossy us
    else
      match us with
      | [] => ['\uFFFD']
      | v :: vs =>
        if u < 0xDC00 ∧ 0xDC00 ≤ v ∧ v < 0xE000 then
          Char.ofNat ((u - 0xD800) * 0x400 + (v - 0xDC00) + 0x10000) :: fromUtf16Lossy vs
        else '\uFFFD' :: fromUtf16Lossy (v :: vs)

def toUppercase (s : String) : String := String.ofList (s.toList.map Char.toUpper)

/-- The digest, the decimal numbers and the documents, which are read outside of the client. -/
structure Platform where
  sha256 : List UInt8 → List UInt8
  /-- `str::parse::<f64>` -/
  parseF64 : String → Option F64
  /-- `serde_json::from_slice` -/
  fromSlice : List UInt8 → Option Value

section

variable (limits : Limits) (platform : Platform)

/-! ## The fields -/

def text (value : Value) (keys : List String) : Option String :=
  keys.findSome? fun key => do
    let s ← (← value.get key).asStr
    Hardware.text limits s

def positive (value : Value) (key : String) : Option F64 := do
  let value ← value.get key
  let number ← value.asF64.orElse fun _ => value.asStr.bind platform.parseF64
  if number.isFinite && F64.zero.lt number then some number else none

/-- `windows_form_factor`: another enumeration than that of SMBIOS. -/
def windowsFormFactor : Nat → Option String
  | 2 => some "SIP"
  | 3 => some "DIP"
  | 4 => some "ZIP"
  | 5 => some "SOJ"
  | 6 => some "Proprietary Card"
  | 7 => some "SIMM"
  | 8 => some "DIMM"
  | 9 => some "TSOP"
  | 10 => some "PGA"
  | 11 => some "RIMM"
  | 12 => some "SO-DIMM"
  | 13 => some "SRIMM"
  | 14 => some "SMD"
  | 15 => some "SSMP"
  | 16 => some "QFP"
  | 17 => some "TQFP"
  | 18 => some "SOIC"
  | 19 => some "LCC"
  | 20 => some "PLCC"
  | 21 => some "BGA"
  | 22 => some "FPBGA"
  | 23 => some "LGA"
  | _ => none

/-- `utf16_array` -/
def utf16Array (value : Value) (key : String) : Option String := do
  let items ← (← value.get key).asArray
  let units := items.filterMap fun v => v.asU64.filter fun n => decide (n < 2 ^ 16)
  Hardware.text limits (String.ofList (fromUtf16Lossy (units.takeWhile (· ≠ 0))))

/-- `windows_ids`: vendor, product and revision. -/
def windowsIds (value : String) : Option String × Option String × Option String :=
  let value := (toUppercase value).toList
  let token (start : String) (length : Nat) : Option String := do
    let (_, rest) ← splitOnce start.toList value
    let code := rest.take length
    if code.length = length ∧ code.all isAsciiHexdigit then some (String.ofList (code.map Char.toLower)) else none
  ((token "VEN_" 4).orElse fun _ => token "VID_" 4, (token "DEV_" 4).orElse fun _ => token "PID_" 4,
    (token "REV_" 4).orElse fun _ => token "REV_" 2)

/-- `windows_device_id` -/
def windowsDeviceId (value : Value) (key : String) : Option String := do
  let s ← (← value.get key).asStr
  let id := trim s.toList
  if id ≠ [] ∧ byteLen id ≤ 4096 ∧ id.any isControl = false then some (toUppercase (String.ofList id)) else none

/-- `id.split_once('\\').map(|(bus, _)| bus)` -/
def busOf (id : String) : Option String := (splitOnce ['\\'] id.toList).map fun (bus, _) => String.ofList bus

/-! ## The lists -/

def gatherMemory (items : List Value) : List MemoryModule :=
  (items.take limits.maxMemoryModules).zipIdx.map fun (value, index) =>
    let id := (text limits value ["Tag", "DeviceLocator"]).getD (toString index)
    { id := stableId limits platform.sha256 s!"cim:{id}:{index}"
      locator := text limits value ["DeviceLocator", "BankLabel"]
      model := (text limits value ["PartNumber"]).bind (firmwareText limits)
      vendor := (text limits value ["Manufacturer"]).bind (firmwareText limits)
      memoryType := ((value.get "SMBIOSMemoryType").bind Value.asU64).bind memoryType
      formFactor := ((value.get "FormFactor").bind Value.asU64).bind windowsFormFactor
      moduleVersion := (text limits value ["Version"]).bind (firmwareText limits)
      capacityBytes := ((value.get "Capacity").bind fun v =>
        v.asU64.orElse fun _ => v.asStr.bind parseU64).filter fun n => decide (0 < n)
      speedMtS := positive platform value "Speed"
      configuredSpeedMtS := positive platform value "ConfiguredClockSpeed"
      reportedSpeed := none
      source := "windows-cim" }

/-- The kind of a plug and play device, if it is of one that is listed. Enumerators and paired peripherals do not
identify a radio chip. -/
def pnpKind (id name pnpClass : String) : Option HardwareDeviceKind :=
  let lower := (toLowercase name).toList
  let starts (start : String) : Bool := start.toList.isPrefixOf (toUppercase id).toList
  if contains lower "thunderbolt".toList || contains lower "usb4".toList then some .thunderbolt
  else
    match toLowercase pnpClass with
    | "usb" => if starts "PCI\\" then some .usbController else some .usbDevice
    | "bluetooth" => if starts "USB\\" || starts "PCI\\" || starts "ACPI\\" then some .bluetooth else none
    | "media" => some .audio
    | "audioendpoint" => some .audio
    | "monitor" => some .monitor
    | _ => none

def nameOf (value : Value) (id : String) : String :=
  ((text limits value ["Name"]).orElse fun _ => Hardware.text limits id).getD "unknown"

/-- A device that was found under its identifier. -/
def pnpDevice (value : Value) (id : String) : Option HardwareDevice := do
  let name := nameOf limits value id
  let kind ← pnpKind id name ((text limits value ["PNPClass"]).getD "")
  let hardwareId := ((((value.get "HardwareID").bind Value.asArray).bind List.head?).bind Value.asStr).getD id
  let (vendorId, productId, revision) := windowsIds hardwareId
  some { device limits platform.sha256 id kind name "windows-cim-pnp" with
    model := some name
    vendor := text limits value ["Manufacturer"]
    driver := text limits value ["Service"]
    vendorId := vendorId
    productId := productId
    revision := revision
    bus := busOf id }

/-- What was found so far. -/
structure Gathered where
  memoryModules : List MemoryModule
  devices : List HardwareDevice
  failures : Failures

def Failures.ofDevices (failures : Failures) (kind : CapabilityErrorKind) : Failures :=
  { failures with devices := fun _ => some kind }

def Failures.ofKind (failures : Failures) (device : HardwareDeviceKind) (kind : CapabilityErrorKind) : Failures :=
  { failures with devices := Function.update failures.devices device (some kind) }

def gatherPnp (g : Gathered) (value : Value) : Gathered :=
  match windowsDeviceId value "PNPDeviceID" with
  | none => { g with failures := Failures.ofDevices g.failures .invalidData }
  | some id => { g with devices := g.devices ++ (pnpDevice limits platform value id).toList }

/-- The identifier of a monitor instance, without the number behind it. -/
def monitorId (instanceName : String) : String :=
  match splitOnce ['_'] instanceName.toList.reverse with
  | some (suffix, id) => if suffix ≠ [] ∧ suffix.all Char.isDigit then String.ofList id.reverse else instanceName
  | none => instanceName

/-- What the instance says of a monitor. -/
def describeMonitor (value : Value) (item : HardwareDevice) : HardwareDevice :=
  let item := { item with
    vendor := utf16Array limits value "ManufacturerName"
    productId := utf16Array limits value "ProductCodeID" }
  match utf16Array limits value "UserFriendlyName" with
  | some name => { item with name := name, model := some name }
  | none => item

def gatherMonitor (g : Gathered) (value : Value) : Gathered :=
  match windowsDeviceId value "InstanceName" with
  | none => { g with failures := Failures.ofKind g.failures .monitor .invalidData }
  | some instanceName =>
    let id := monitorId instanceName
    let stable := stableId limits platform.sha256 id
    let additional := device limits platform.sha256 id .monitor
      ((utf16Array limits value "UserFriendlyName").getD id) "windows-wmi-monitor"
    match g.devices.findIdx? fun d => d.kind == .monitor && d.id == stable with
    | some index =>
      let devices := g.devices.modify index (describeMonitor limits value)
      -- a monitor that was added before is added once more
      if (devices[index]?).any fun item => item.source == "windows-wmi-monitor" then
        { g with devices := devices ++ [additional] }
      else { g with devices := devices }
    | none => { g with devices := g.devices ++ [describeMonitor limits value additional] }

def gatherSound (g : Gathered) (value : Value) : Gathered :=
  match windowsDeviceId value "PNPDeviceID" with
  | none => g
  | some id =>
    let stable := stableId limits platform.sha256 id
    if g.devices.any fun d => d.kind == .audio && d.id == stable then g
    else
      let name := nameOf limits value id
      let (vendorId, productId, revision) := windowsIds id
      { g with devices := g.devices ++ [{ device limits platform.sha256 id .audio name "windows-cim-sound" with
          model := some name
          vendor := text limits value ["Manufacturer"]
          vendorId := vendorId
          productId := productId
          revision := revision
          bus := busOf id }] }

/-! ## The report -/

/-- What the script says of a list that it could not read. -/
def errorOf (report : Value) (key : String) : Option CapabilityErrorKind :=
  ((report.get "errors").bind (Value.get key)).map fun v =>
    if v.asStr = some "permission_denied" then .permissionDenied else .transient

def itemsOf (report : Value) (key : String) : Except CapabilityErrorKind (List Value) :=
  ((report.get key).bind Value.asArray).elim (.error .invalidData) .ok

/-- The loops of `parse_windows`. -/
def gatherWindows (report : Value) : Except CapabilityErrorKind Gathered := do
  let memory ← itemsOf report "memory"
  let pnp ← itemsOf report "pnp"
  let g := (pnp.take 1024).foldl (gatherPnp limits platform)
    ⟨gatherMemory limits platform memory, [], ⟨errorOf report "memory", fun _ => none⟩⟩
  let failures := match errorOf report "pnp" with
    | some kind => Failures.ofDevices g.failures kind
    | none => g.failures
  let failures := match errorOf report "monitors" with
    | some kind => Failures.ofKind failures .monitor kind
    | none => failures
  let monitors ← itemsOf report "monitors"
  let g := (monitors.take 64).foldl (gatherMonitor limits platform) { g with failures := failures }
  let failures := match errorOf report "sound" with
    | some kind => Failures.ofKind g.failures .audio kind
    | none => g.failures
  let sound ← itemsOf report "sound"
  return (sound.take 256).foldl (gatherSound limits platform) { g with failures := failures }

/-- `parse_windows` -/
def parseWindows (now : DateTime) (bytes : List UInt8) : Except CapabilityErrorKind Inventory := do
  let report ← (platform.fromSlice bytes).elim (.error .invalidData) .ok
  let g ← gatherWindows limits platform report
  return finish limits now g.memoryModules g.devices "windows-cim" g.failures

end

/-! ## The keys that a report names -/

section

variable (limits : Limits) (platform : Platform)

/-- The key of a plug and play entry that is listed. -/
def pnpKey (value : Value) : Option Key := do
  let id ← windowsDeviceId value "PNPDeviceID"
  let kind ← pnpKind id (nameOf limits value id) ((text limits value ["PNPClass"]).getD "")
  some (stableId limits platform.sha256 id, kind)

def monitorKey (value : Value) : Option Key :=
  (windowsDeviceId value "InstanceName").map fun id => (stableId limits platform.sha256 (monitorId id), .monitor)

def soundKey (value : Value) : Option Key :=
  (windowsDeviceId value "PNPDeviceID").map fun id => (stableId limits platform.sha256 id, .audio)

def entriesOf (report : Value) (key : String) : List Value := ((report.get key).bind Value.asArray).getD []

/-- What the plug and play entries name, in the order of the report. -/
def pnpKeys (report : Value) : List Key := ((entriesOf report "pnp").take 1024).filterMap (pnpKey limits platform)

/-- The monitors that are no plug and play entries. -/
def furtherMonitors (report : Value) : List Key :=
  (((entriesOf report "monitors").take 64).filterMap (monitorKey limits platform)).filter
    fun key => decide (key ∉ pnpKeys limits platform report)

/-- The sound devices that are no plug and play entries, each of them once. -/
def furtherSounds (report : Value) : List Key :=
  ((((entriesOf report "sound").take 256).filterMap (soundKey limits platform)).filter
    fun key => decide (key ∉ pnpKeys limits platform report)).eraseDups

/-- All that the entries of a report name. -/
def windowsKeys (report : Value) : List Key :=
  pnpKeys limits platform report ++ (furtherMonitors limits platform report ++ furtherSounds limits platform report)

variable {limits platform}

theorem gatherPnp_devices (values : List Value) (g : Gathered) :
    (values.foldl (gatherPnp limits platform) g).devices.map (fun d => (deviceKey d, d.source)) =
      g.devices.map (fun d => (deviceKey d, d.source)) ++
        (values.filterMap (pnpKey limits platform)).map fun key => (key, "windows-cim-pnp") := by
  induction values generalizing g with
  | nil => exact (List.append_nil _).symm
  | cons value values ih =>
    have hstep : (gatherPnp limits platform g value).devices.map (fun d => (deviceKey d, d.source)) =
        g.devices.map (fun d => (deviceKey d, d.source)) ++
          (pnpKey limits platform value).toList.map fun key => (key, "windows-cim-pnp") := by
      unfold gatherPnp pnpKey
      cases windowsDeviceId value "PNPDeviceID" with
      | none => exact (List.append_nil _).symm
      | some id =>
        show (g.devices ++ (pnpDevice limits platform value id).toList).map _ = _
        rw [List.map_append]
        unfold pnpDevice
        cases hkind : pnpKind id (nameOf limits value id) ((text limits value ["PNPClass"]).getD "") with
        | none => simp [hkind]
        | some kind => simp [hkind, deviceKey, device]
    rw [List.foldl_cons, ih, hstep, List.append_assoc, ← List.map_append, List.filterMap_cons]
    cases pnpKey limits platform value <;> rfl

theorem describeMonitor_same (value : Value) (item : HardwareDevice) :
    (deviceKey (describeMonitor limits value item), (describeMonitor limits value item).source) =
      (deviceKey item, item.source) := by
  unfold describeMonitor
  split <;> rfl

/-- What was found is that of the plug and play entries `named`, and then that of the monitors `further`. -/
def MonitorsBehind (named further : List Key) (devices : List HardwareDevice) : Prop :=
  devices.map (fun d => (deviceKey d, d.source)) =
    named.map (fun key => (key, "windows-cim-pnp")) ++ further.map fun key => (key, "windows-wmi-monitor")

/-- A monitor is found where it is named, and among the plug and play entries first. -/
theorem MonitorsBehind.found {named further : List Key} {devices : List HardwareDevice} {key : Key} {index : Nat}
    (h : MonitorsBehind named further devices)
    (hfound : devices.findIdx? (fun d => d.kind == key.2 && d.id == key.1) = some index) :
    ∃ d, devices[index]? = some d ∧ (d.source = "windows-wmi-monitor" ↔ key ∉ named) := by
  obtain ⟨hlt, hkey, hfirst⟩ := List.findIdx?_eq_some_iff_getElem.mp hfound
  have hat (i : Nat) : (devices[i]?).map (fun d => (deviceKey d, d.source)) =
      (named.map (fun key => (key, "windows-cim-pnp")) ++ further.map fun key => (key, "windows-wmi-monitor"))[i]? := by
    rw [← List.getElem?_map, h]
  have hkey' : deviceKey devices[index] = key := by
    simp only [Bool.and_eq_true, beq_iff_eq] at hkey
    exact Prod.ext hkey.2 hkey.1
  refine ⟨devices[index], List.getElem?_eq_getElem hlt, ?_⟩
  have hthis := hat index
  rw [List.getElem?_eq_getElem hlt, Option.map_some, hkey'] at hthis
  by_cases hin : index < named.length
  · rw [List.getElem?_append_left (by rwa [List.length_map]), List.getElem?_map, List.getElem?_eq_getElem hin,
      Option.map_some, Option.some.injEq, Prod.mk.injEq] at hthis
    rw [hthis.2, hthis.1]
    constructor
    · exact fun hsource => absurd hsource (by decide)
    · exact fun hnot => absurd (List.getElem_mem hin) hnot
  · rw [List.getElem?_append_right (by rw [List.length_map]; omega), List.getElem?_map] at hthis
    obtain ⟨key', -, hsource⟩ := Option.map_eq_some_iff.mp hthis.symm
    refine ⟨fun _ hmem => ?_, fun _ => (congrArg Prod.snd hsource).symm⟩
    -- it would have been found before
    obtain ⟨j, hj, hkeyj⟩ := List.getElem_of_mem hmem
    have hj' : j < devices.length := by omega
    have hthat := hat j
    rw [List.getElem?_eq_getElem hj', Option.map_some, List.getElem?_append_left (by rwa [List.length_map]),
      List.getElem?_map, List.getElem?_eq_getElem hj, Option.map_some, Option.some.injEq, Prod.mk.injEq, hkeyj] at hthat
    refine hfirst j (by omega) ?_
    simp only [Bool.and_eq_true, beq_iff_eq]
    exact ⟨congrArg Prod.snd hthat.1, congrArg Prod.fst hthat.1⟩

/-- A monitor that is added comes behind. -/
theorem MonitorsBehind.push {named further : List Key} {devices : List HardwareDevice}
    {item : HardwareDevice} {key : Key}
    (h : MonitorsBehind named further devices) (hitem : (deviceKey item, item.source) = (key, "windows-wmi-monitor"))
    (hnot : key ∉ named) :
    MonitorsBehind named (further ++ [key].filter fun key => decide (key ∉ named)) (devices ++ [item]) := by
  rw [List.filter_cons_of_pos (by simpa using hnot), List.filter_nil, MonitorsBehind, List.map_append, h,
    List.map_singleton, hitem, List.map_append, List.append_assoc]
  rfl

theorem MonitorsBehind.describe {named further : List Key} {devices : List HardwareDevice}
    (h : MonitorsBehind named further devices) (index : Nat) (value : Value) :
    MonitorsBehind named further (devices.modify index (describeMonitor limits value)) := by
  rw [MonitorsBehind, ← h]
  refine List.ext_getElem? fun i => ?_
  rw [List.getElem?_map, List.getElem?_map, List.getElem?_modify]
  cases devices[i]? with
  | none => split <;> rfl
  | some d =>
    split
    · exact congrArg some (describeMonitor_same value d)
    · rfl

theorem gatherMonitor_devices {named further : List Key} {g : Gathered} (h : MonitorsBehind named further g.devices)
    (value : Value) :
    MonitorsBehind named (further ++ (monitorKey limits platform value).toList.filter fun key => decide (key ∉ named))
      (gatherMonitor limits platform g value).devices := by
  unfold gatherMonitor monitorKey
  cases windowsDeviceId value "InstanceName" with
  | none => simpa using h
  | some id =>
    rw [Option.map_some, Option.toList_some]
    dsimp only
    have hadditional := device_same limits platform.sha256 (monitorId id) .monitor
      ((utf16Array limits value "UserFriendlyName").getD (monitorId id)) "windows-wmi-monitor"
    generalize device limits platform.sha256 (monitorId id) .monitor
      ((utf16Array limits value "UserFriendlyName").getD (monitorId id)) "windows-wmi-monitor" =
        additional at hadditional ⊢
    generalize stableId limits platform.sha256 (monitorId id) = stable at hadditional ⊢
    cases hfound : g.devices.findIdx? fun d => d.kind == .monitor && d.id == stable with
    | some index =>
      obtain ⟨d, hd, hsource⟩ := @MonitorsBehind.found named further g.devices (stable, .monitor) index h hfound
      have hsame : (describeMonitor limits value d).source = d.source :=
        congrArg Prod.snd (describeMonitor_same value d)
      have hdescribed := @MonitorsBehind.describe limits _ _ _ h index value
      dsimp only
      rw [List.getElem?_modify_eq, hd]
      by_cases hin : (stable, HardwareDeviceKind.monitor) ∈ named
      · have hother : d.source ≠ "windows-wmi-monitor" := fun heq => hsource.mp heq hin
        rw [if_neg (by simpa [hsame] using hother), List.filter_cons_of_neg (by simpa using hin), List.filter_nil,
          List.append_nil]
        exact hdescribed
      · rw [if_pos (by simpa [hsame] using hsource.mpr hin)]
        exact hdescribed.push hadditional hin
    | none =>
      refine h.push ((describeMonitor_same value additional).trans hadditional) fun hin => ?_
      have hmem : ((stable, HardwareDeviceKind.monitor), "windows-cim-pnp") ∈
          g.devices.map fun d => (deviceKey d, d.source) := by
        rw [h]
        exact List.mem_append_left _ (List.mem_map_of_mem hin)
      obtain ⟨d, hd, heq⟩ := List.mem_map.mp hmem
      have hkey : deviceKey d = (stable, .monitor) := congrArg Prod.fst heq
      have hnot := List.findIdx?_eq_none_iff.mp hfound d hd
      have hid : d.id = stable := congrArg Prod.fst hkey
      have hkind : d.kind = .monitor := congrArg Prod.snd hkey
      simp [hid, hkind] at hnot

theorem gatherMonitor_fold {named further : List Key} (values : List Value) {g : Gathered}
    (h : MonitorsBehind named further g.devices) :
    MonitorsBehind named
      (further ++ (values.filterMap (monitorKey limits platform)).filter fun key => decide (key ∉ named))
      (values.foldl (gatherMonitor limits platform) g).devices := by
  induction values generalizing g further with
  | nil => rwa [List.filterMap_nil, List.filter_nil, List.append_nil]
  | cons value values ih =>
    have hrest := ih (@gatherMonitor_devices limits platform _ _ _ h value)
    rw [List.append_assoc, ← List.filter_append] at hrest
    rw [List.filterMap_cons]
    cases hkey : monitorKey limits platform value with
    | none => rwa [hkey] at hrest
    | some key => rwa [hkey] at hrest

theorem gatherSound_devices (g : Gathered) (value : Value) :
    (gatherSound limits platform g value).devices.map deviceKey = g.devices.map deviceKey ++
      (soundKey limits platform value).toList.filter fun key => decide (key ∉ g.devices.map deviceKey) := by
  unfold gatherSound soundKey
  cases windowsDeviceId value "PNPDeviceID" with
  | none => exact (List.append_nil _).symm
  | some id =>
    rw [Option.map_some, Option.toList_some]
    have hany : (g.devices.any fun d => d.kind == .audio && d.id == stableId limits platform.sha256 id) = true ↔
        (stableId limits platform.sha256 id, HardwareDeviceKind.audio) ∈ g.devices.map deviceKey := by
      simp only [List.any_eq_true, Bool.and_eq_true, beq_iff_eq, List.mem_map, deviceKey, Prod.mk.injEq]
      exact exists_congr fun d => and_congr_right fun _ => and_comm
    show (ite _ _ _ : Gathered).devices.map _ = _
    split
    · next hin =>
      rw [List.filter_cons_of_neg (by simpa using hany.mp hin), List.filter_nil, List.append_nil]
    · next hout =>
      rw [List.filter_cons_of_pos (by simpa using mt hany.mpr hout), List.filter_nil, List.map_append]
      rfl

theorem gatherSound_fold (values : List Value) (keys : List Key) {g : Gathered} (h : g.devices.map deviceKey = keys) :
    (values.foldl (gatherSound limits platform) g).devices.map deviceKey =
      keys ++ ((values.filterMap (soundKey limits platform)).filter fun key => decide (key ∉ keys)).eraseDups := by
  induction values generalizing g keys with
  | nil => exact h.trans (List.append_nil _).symm
  | cons value values ih =>
    have hstep := @gatherSound_devices limits platform g value
    rw [h] at hstep
    rw [List.foldl_cons, ih _ hstep, List.filterMap_cons]
    cases soundKey limits platform value with
    | none =>
      rw [Option.toList_none, List.filter_nil, List.append_nil]
    | some key =>
      rw [Option.toList_some]
      by_cases hin : key ∈ keys
      · rw [List.filter_cons_of_neg (by simpa using hin), List.filter_nil, List.append_nil,
          List.filter_cons_of_neg (by simpa using hin)]
      · have hlater : (values.filterMap (soundKey limits platform)).filter (fun key' => decide (key' ∉ keys ++ [key])) =
            ((values.filterMap (soundKey limits platform)).filter fun key' => decide (key' ∉ keys)).filter
              fun key' => !key' == key := by
          rw [List.filter_filter]
          refine List.filter_congr fun key' _ => ?_
          rw [Bool.eq_iff_iff]
          simp [and_comm]
        rw [List.filter_cons_of_pos (by simpa using hin), List.filter_nil, hlater,
          List.filter_cons_of_pos (by simpa using hin), List.eraseDups_cons, List.append_assoc, List.singleton_append]

theorem entriesOf_eq {report : Value} {key : String} {items : List Value} (h : itemsOf report key = .ok items) :
    entriesOf report key = items := by
  unfold itemsOf at h
  unfold entriesOf
  cases hitems : (report.get key).bind Value.asArray with
  | none =>
    rw [hitems] at h
    cases h
  | some items' =>
    rw [hitems] at h
    exact Except.ok.inj h

/-- The devices that are found are those that the entries name. -/
theorem gatherWindows_keys {report : Value} {g : Gathered} (h : gatherWindows limits platform report = .ok g) :
    g.devices.map deviceKey = windowsKeys limits platform report := by
  unfold gatherWindows at h
  obtain ⟨memory, -, h⟩ := Except.bind_eq_ok.mp h
  obtain ⟨pnp, hpnp, h⟩ := Except.bind_eq_ok.mp h
  obtain ⟨monitors, hmonitors, h⟩ := Except.bind_eq_ok.mp h
  obtain ⟨sound, hsound, h⟩ := Except.bind_eq_ok.mp h
  have hnamed : MonitorsBehind (pnpKeys limits platform report) [] ((pnp.take 1024).foldl (gatherPnp limits platform)
      ⟨gatherMemory limits platform memory, [], ⟨errorOf report "memory", fun _ => none⟩⟩).devices := by
    rw [MonitorsBehind, gatherPnp_devices, pnpKeys, entriesOf_eq hpnp, List.map_nil, List.map_nil, List.nil_append,
      List.append_nil]
  generalize (pnp.take 1024).foldl (gatherPnp limits platform)
    ⟨gatherMemory limits platform memory, [], ⟨errorOf report "memory", fun _ => none⟩⟩ = gathered at h hnamed
  have hmonitored (failures : Failures) : ((monitors.take 64).foldl (gatherMonitor limits platform)
      { gathered with failures := failures }).devices.map deviceKey =
        pnpKeys limits platform report ++ furtherMonitors limits platform report := by
    have hfold := @gatherMonitor_fold limits platform _ _ (monitors.take 64)
        { gathered with failures := failures } hnamed
    have hkeys := congrArg (List.map Prod.fst) hfold
    simp only [List.map_append, List.map_map, Function.comp_def, List.map_id', List.nil_append] at hkeys
    rw [hkeys, furtherMonitors, entriesOf_eq hmonitors]
  rw [← Except.ok.inj h]
  refine Eq.trans (gatherSound_fold (sound.take 256)
    (pnpKeys limits platform report ++ furtherMonitors limits platform report) (hmonitored _)) ?_
  rw [windowsKeys, furtherSounds, entriesOf_eq hsound, List.append_assoc]
  congr 3
  refine List.filter_congr fun key hkey => ?_
  -- no sound device is a monitor
  obtain ⟨value, -, hvalue⟩ := List.mem_filterMap.mp hkey
  obtain ⟨id, -, rfl⟩ := Option.map_eq_some_iff.mp hvalue
  have hother : (stableId limits platform.sha256 id, HardwareDeviceKind.audio) ∉
      furtherMonitors limits platform report := by
    intro hmem
    obtain ⟨value', -, hvalue'⟩ := List.mem_filterMap.mp (List.mem_filter.mp hmem).1
    obtain ⟨id', -, heq⟩ := Option.map_eq_some_iff.mp hvalue'
    cases congrArg Prod.snd heq
  simp [hother]

/-- Monitors and sound devices that are added come in runs of their own. -/
theorem windowsKeys_inRuns (report : Value) :
    FollowedInRuns (pnpKeys limits platform report) (windowsKeys limits platform report) := by
  intro id
  have hmonitors : ∀ kind ∈ kindsAt id (furtherMonitors limits platform report), kind = .monitor := by
    intro kind hkind
    obtain ⟨value, -, hvalue⟩ := List.mem_filterMap.mp (List.mem_filter.mp (mem_kindsAt.mp hkind)).1
    obtain ⟨id', -, heq⟩ := Option.map_eq_some_iff.mp hvalue
    exact (congrArg Prod.snd heq).symm
  have hsounds : ∀ kind ∈ kindsAt id (furtherSounds limits platform report), kind = .audio := by
    intro kind hkind
    obtain ⟨value, -, hvalue⟩ :=
      List.mem_filterMap.mp (List.mem_filter.mp (List.mem_eraseDups.mp (mem_kindsAt.mp hkind))).1
    obtain ⟨id', -, heq⟩ := Option.map_eq_some_iff.mp hvalue
    exact (congrArg Prod.snd heq).symm
  refine ⟨_, kindsAt_append id _ _, ?_, ?_⟩
  · rw [kindsAt_append]
    refine (InRuns.of_forall_eq hmonitors).append (.of_forall_eq hsounds) fun kind hmonitor hsound => ?_
    cases (hmonitors kind hmonitor).symm.trans (hsounds kind hsound)
  · intro kind hnamed hfurther
    have hmem := mem_kindsAt.mp hnamed
    rcases List.mem_append.mp (mem_kindsAt.mp hfurther) with hmonitor | hsound
    · exact of_decide_eq_true (List.mem_filter.mp hmonitor).2 hmem
    · exact of_decide_eq_true (List.mem_filter.mp (List.mem_eraseDups.mp hsound)).2 hmem

/-- The inventory of a Windows report has unique keys if and only if of the kinds of its plug and play entries none
comes back under one identifier. -/
theorem uniqueKeys_parseWindows (now : DateTime) {bytes : List UInt8} {report : Value} {g : Gathered}
    (hreport : platform.fromSlice bytes = some report) (hg : gatherWindows limits platform report = .ok g) :
    ∃ inventory, parseWindows limits platform now bytes = .ok inventory ∧
      (UniqueKeys inventory (capabilities "windows-cim" g.failures g.memoryModules.length) ↔
        NoKindComesBack limits (pnpKeys limits platform report) (windowsKeys limits platform report)) := by
  refine ⟨finish limits now g.memoryModules g.devices "windows-cim" g.failures, ?_, ?_⟩
  · unfold parseWindows
    rw [hreport]
    show (gatherWindows limits platform report >>= _) = _
    rw [hg]
    rfl
  · rw [uniqueKeys_finish, gatherWindows_keys hg, noKindComesBack_iff (windowsKeys_inRuns report)]

end

end NativeInventory

end Xsoc
