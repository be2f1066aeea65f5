import Xsoc.Collectors.MacosReport
import Xsoc.Config

/-!
# The inventory of macOS

The nodes of a system report are memory modules, displays, radios, controllers and devices, by the category they are of.
A launchd account outside of the graphical session sees no displays in it; then they are read from the registry.

* `capacity`, `usbSpeedMbps` : the labels of a report;
* `memoryModule`, `nodeDevices` : what a node describes, by its category;
* `parseMacos` : the report; `complete` : the displays of the registry, where the report has none;
* `macosNames` : the identifiers and kinds that the nodes name; `nodup_macosNames` : none of them is named twice;
* `uniqueKeys_parseMacos`, `nodup_complete` : so no key is in the inventory twice.
-/

set_option autoImplicit false

namespace Xsoc

open Bounding

namespace NativeInventory

namespace Macos

section

variable (limits : Limits) (platform : Platform)

/-! ## Labels -/

/-- `str::split_whitespace`, where `word` was read so far. -/
def splitFrom (word : List Char) : List Char → List (List Char)
  | [] => if word = [] then [] else [word]
  | c :: cs =>
    if isWhitespace c then if word = [] then splitFrom [] cs else word :: splitFrom [] cs
    else splitFrom (word ++ [c]) cs

def splitWhitespace (label : String) : List String := (splitFrom [] label.toList).map String.ofList

def byteFactor (unit : String) : Option F64 :=
  match toUppercase unit with
  | "KB" | "KIB" => some (F64.ofNat 1024)
  | "MB" | "MIB" => some (F64.ofNat (1024 ^ 2))
  | "GB" | "GIB" => some (F64.ofNat (1024 ^ 3))
  | "TB" | "TIB" => some (F64.ofNat (1024 ^ 4))
  | "B" => some (F64.ofNat 1)
  | _ => none

def capacity (label : String) : Option Nat := do
  let tokens := splitWhitespace label
  let number ← platform.parseF64 (← tokens[0]?)
  let factor ← byteFactor (← tokens[1]?)
  let size := number.mul factor
  if size.isFinite && F64.zero.lt size && size.lt (F64.ofNat (2 ^ 64)) then some size.floor else none

/-- `0.001` -/
def thousandth : F64 := ⟨0x3F50624DD2F1A9FC⟩

def speedFactor : String → Option F64
  | "Gb/s" => some F64.thousand
  | "Mb/s" => some (F64.ofNat 1)
  | "Kb/s" => some thousandth
  | _ => none

def usbSpeedMbps (label : String) : Option F64 := do
  let tokens := splitWhitespace label
  let number ← platform.parseF64 (← tokens[0]?)
  let factor ← speedFactor (← tokens[1]?)
  let speed := number.mul factor
  if tokens[2]?.isNone && speed.isFinite && F64.zero.lt speed then some speed else none

/-! ## Nodes -/

/-- The module of a node of the memory, if it has a size. -/
def memoryModule (node : ReportNode) : Option MemoryModule := do
  let (path, value) := node
  let size ← capacity platform (← text limits value ["dimm_size", "SPMemoryDataType"])
  let reportedSpeed := text limits value ["dimm_speed"]
  some {
    id := stableId limits platform.sha256 path
    locator := text limits value ["_name"]
    model := text limits value ["dimm_part_number"]
    vendor := text limits value ["dimm_manufacturer"]
    memoryType := text limits value ["dimm_type"]
    moduleVersion := text limits value ["dimm_firmware_version"]
    formFactor := none
    capacityBytes := some size
    speedMtS := (reportedSpeed.bind fun s => (stripSuffix s " MT/s").bind platform.parseF64).filter
      fun v => v.isFinite && F64.zero.lt v
    configuredSpeedMtS := none
    reportedSpeed := reportedSpeed
    source := "macos-system-profiler" }

/-- The device that a node is, before it is described. -/
def reported (id : String) (kind : HardwareDeviceKind) (name : String) : HardwareDevice :=
  device limits platform.sha256 id kind name "macos-system-profiler"

def monitorsOf (value : Value) : List Value :=
  (((value.get "spdisplays_ndrvs").bind Value.asArray).getD []).take 64

def displayId (path : String) (i : Nat) : String := s!"{path}/display:{i}"

def displays (path : String) (value : Value) : List HardwareDevice :=
  (monitorsOf value).zipIdx.map fun (monitor, i) =>
    let name := (text limits monitor ["_name"]).getD "Monitor"
    { reported limits platform (displayId path i) .monitor name with
      model := some name
      vendorId := text limits monitor ["spdisplays_display-vendor-id"]
      productId := text limits monitor ["spdisplays_display-product-id"]
      connection := text limits monitor ["spdisplays_connection_type"]
      bus := some "Display" }

/-- What describes a radio. The lists of paired devices are skipped. -/
def controllerOf (value : Value) : Value := (value.get "controller_properties").getD value

def chipsetOf (value : Value) : Option String := text limits (controllerOf value) ["controller_chipset", "chipset"]

def bluetoothDevice (path : String) (value : Value) : Option HardwareDevice := do
  let chipset ← chipsetOf limits value
  some { reported limits platform path .bluetooth chipset with
    model := some chipset
    vendorId := text limits (controllerOf value) ["controller_vendorID"]
    productId := text limits (controllerOf value) ["controller_productID"]
    revision := text limits (controllerOf value) ["controller_firmwareVersion"]
    bus := text limits (controllerOf value) ["controller_transport"] }

def usbDriver (value : Value) : Option String := text limits value ["Driver", "host_controller"]

def isController (category : String) (value : Value) : Bool :=
  (value.get "host_controller").isSome ||
    (category == "SPUSBHostDataType" && (usbDriver limits value).isSome && (value.get "USBDeviceKeyProductID").isNone)

def usbKind (category : String) (value : Value) : HardwareDeviceKind :=
  if isController limits category value then .usbController else .usbDevice

def usbName (value : Value) : Option String := (text limits value ["_name"]).orElse fun _ => usbDriver limits value

/-- The driver of a host controller is no model of a chip. -/
def usbDevice (category path : String) (value : Value) : Option HardwareDevice := do
  let name ← usbName limits value
  some { reported limits platform path (usbKind limits category value) name with
    model := if isController limits category value then none else some name
    driver := usbDriver limits value
    vendor := text limits value ["USBDeviceKeyVendorName", "manufacturer"]
    vendorId := text limits value ["USBDeviceKeyVendorID", "vendor_id", "pci_vendor"]
    productId := text limits value ["USBDeviceKeyProductID", "product_id", "pci_device"]
    revision := text limits value ["USBDeviceKeyProductVersion", "version", "pci_revision"]
    speedMbps := (text limits value ["USBDeviceKeyLinkSpeed"]).bind (usbSpeedMbps platform)
    bus := some "USB" }

def routerName (value : Value) : Option String := text limits value ["device_name_key", "device_name", "_name"]

def thunderboltDevice (path : String) (value : Value) : Option HardwareDevice := do
  let name ← routerName limits value
  some { reported limits platform path .thunderbolt name with
    model := text limits value ["device_name_key", "device_name"]
    vendor := text limits value ["vendor_name_key", "vendor_name"]
    revision := text limits value ["firmware_version_key", "firmware_version"]
    bus := some "Thunderbolt/USB4" }

/-- An item with items of its own is none that sounds. -/
def audioName (value : Value) : Option String :=
  if (value.get "_items").isSome then none else text limits value ["_name"]

def audioDevice (path : String) (value : Value) : Option HardwareDevice := do
  let name ← audioName limits value
  some { reported limits platform path .audio name with
    model := some name
    vendor := text limits value ["coreaudio_device_manufacturer"]
    bus := text limits value ["coreaudio_device_transport"] }

/-- The devices of a node, by its category. -/
def nodeDevices (category : String) (node : ReportNode) : List HardwareDevice :=
  match category with
  | "SPDisplaysDataType" => displays limits platform node.1 node.2
  | "SPBluetoothDataType" => (bluetoothDevice limits platform node.1 node.2).toList
  | "SPUSBDataType" | "SPUSBHostDataType" => (usbDevice limits platform category node.1 node.2).toList
  | "SPThunderboltDataType" => (thunderboltDevice limits platform node.1 node.2).toList
  | "SPAudioDataType" => (audioDevice limits platform node.1 node.2).toList
  | _ => []

/-! ## The report -/

/-- The nodes of a report in the order they are looked at, each with its category. -/
def categorized (report : Value) : List (String × ReportNode) :=
  (categories report).flatMap fun category => (categoryNodes limits report category).map fun node => (category, node)

/-- The category that the devices of a kind are of. -/
def categoryOf (report : Value) : HardwareDeviceKind → String
  | .thunderbolt => "SPThunderboltDataType"
  | .monitor => "SPDisplaysDataType"
  | .bluetooth => "SPBluetoothDataType"
  | .usbController | .usbDevice => usbCategory report
  | .audio => "SPAudioDataType"

/-- What is wrong with a category that the report does not have. -/
def missing (report : Value) (category : String) : Option CapabilityErrorKind :=
  if ((report.get category).bind Value.asArray).isNone then some .notPresent else none

/-- The loop of `parse_macos`. -/
def gatherMacos (report : Value) : Gathered where
  memoryModules :=
    ((categoryNodes limits report "SPMemoryDataType").filterMap (memoryModule limits platform)).take
      limits.maxMemoryModules
  devices := (categorized limits report).flatMap fun (category, node) => nodeDevices limits platform category node
  failures := ⟨missing report "SPMemoryDataType", fun kind => missing report (categoryOf report kind)⟩

/-- `parse_macos` -/
def parseMacos (now : DateTime) (bytes : List UInt8) : Except CapabilityErrorKind Inventory := do
  let report ← (platform.fromSlice bytes).elim (.error .invalidData) .ok
  if !report.isObject then .error .invalidData
  else
    let g := gatherMacos limits platform report
    return finish limits now g.memoryModules g.devices "macos-system-profiler" g.failures

/-! ## The registry -/

/-- A display in the registry: its path, and the attributes of the product that it is. -/
structure Registered where
  path : String
  productName : Option String
  legacyManufacturerId : Option Int
  productId : Option Int

/-- `numeric_id` -/
def numericId (n : Int) : Option String :=
  if 0 ≤ n ∧ n < 2 ^ 16 then some (String.ofList ("0x".toList ++ paddedHex 4 n.toNat)) else none

def registeredDevice (entry : Registered) : Option HardwareDevice := do
  let name ← entry.productName.bind (Hardware.text limits)
  some { device limits platform.sha256 s!"iokit:{entry.path}" .monitor name "macos-iokit-display" with
    model := some name
    vendorId := entry.legacyManufacturerId.bind numericId
    productId := entry.productId.bind numericId }

/-- `displays` -/
def registeredDisplays (entries : List Registered) : List HardwareDevice :=
  dedupAdjacent HardwareDevice.id
    (sortBy (fun d => textKey d.id) ((entries.take 64).filterMap (registeredDevice limits platform)))

/-- The capability of the monitors is available. -/
def showMonitors (capabilities : List Capability) : List Capability :=
  capabilities.modify (capabilities.findIdx fun c => c.name == "hardware.monitors")
    fun _ => .ofAvailable "hardware.monitors" "macos-iokit-display"

/-- `complete`: the report stays in charge where it has displays. -/
def complete (now : DateTime) (entries : List Registered) (inventory : Inventory) : Inventory :=
  if inventory.devices.any fun d => d.kind == .monitor then inventory
  else
    let remaining := limits.maxHardwareDevices - inventory.devices.length
    let displays := registeredDisplays limits platform entries
    if displays.isEmpty || remaining == 0 then inventory
    else
      { inventory with
        devices := inventory.devices ++ displays.take remaining
        collectedAt := some (inventory.collectedAt.getD now)
        capabilities := showMonitors inventory.capabilities }

/-- `collect`, where the program printed `captured` or could not be run. -/
def collect (now : DateTime) (captured : Except CapabilityErrorKind (List UInt8)) (entries : List Registered) :
    Inventory :=
  let inventory := match captured.bind (parseMacos limits platform now) with
    | .ok inventory => inventory
    | .error kind => empty kind "native hardware report could not be read"
  complete limits platform now entries inventory

/-! ## What the nodes name -/

/-- What a node names, by its category. -/
def nodeNames (category : String) (node : ReportNode) : List Key :=
  match category with
  | "SPDisplaysDataType" =>
    (List.range (monitorsOf node.2).length).map fun i => (displayId node.1 i, HardwareDeviceKind.monitor)
  | "SPBluetoothDataType" => if (chipsetOf limits node.2).isSome then [(node.1, .bluetooth)] else []
  | "SPUSBDataType" | "SPUSBHostDataType" =>
    if (usbName limits node.2).isSome then [(node.1, usbKind limits category node.2)] else []
  | "SPThunderboltDataType" => if (routerName limits node.2).isSome then [(node.1, .thunderbolt)] else []
  | "SPAudioDataType" => if (audioName limits node.2).isSome then [(node.1, .audio)] else []
  | _ => []

def macosNames (report : Value) : List Key :=
  (categorized limits report).flatMap fun (category, node) => nodeNames limits category node

variable {limits platform}

theorem deviceKey_displays (path : String) (value : Value) :
    (displays limits platform path value).map deviceKey =
      (List.range (monitorsOf value).length).map fun i =>
        (stableId limits platform.sha256 (displayId path i), .monitor) := by
  have hindices : (monitorsOf value).zipIdx.map Prod.snd = List.range (monitorsOf value).length := by
    rw [List.zipIdx_map_snd, List.range_eq_range']
  rw [displays, List.map_map, ← hindices, List.map_map]
  rfl

/-- The keys of the devices of a node are those of what it names. -/
theorem deviceKey_nodeDevices (category : String) (node : ReportNode) :
    (nodeDevices limits platform category node).map deviceKey =
      (nodeNames limits category node).map (stableKey limits platform.sha256) := by
  unfold nodeDevices nodeNames
  split
  · rw [deviceKey_displays, List.map_map]
    rfl
  · unfold bluetoothDevice
    cases chipsetOf limits node.2 <;> rfl
  · unfold usbDevice
    cases usbName limits node.2 <;> rfl
  · unfold usbDevice
    cases usbName limits node.2 <;> rfl
  · unfold thunderboltDevice
    cases routerName limits node.2 <;> rfl
  · unfold audioDevice
    cases audioName limits node.2 <;> rfl
  · rfl

theorem deviceKey_gatherMacos (report : Value) :
    (gatherMacos limits platform report).devices.map deviceKey =
      (macosNames limits report).map (stableKey limits platform.sha256) := by
  rw [gatherMacos, macosNames, List.map_flatMap, List.map_flatMap]
  congr 1
  funext entry
  exact deviceKey_nodeDevices entry.1 entry.2

/-- A node names itself, but for a display, which it names by its place. -/
def NamedBy (path : String) (name : Key) : Prop :=
  name.1 = path ∧ name.2 ≠ .monitor ∨ ∃ i, name = (displayId path i, .monitor)

theorem usbKind_ne_monitor (category : String) (value : Value) : usbKind limits category value ≠ .monitor := by
  unfold usbKind
  split
  · exact fun h => by cases h
  · exact fun h => by cases h

theorem namedBy_nodeNames {category : String} {node : ReportNode} {name : Key}
    (h : name ∈ nodeNames limits category node) : NamedBy node.1 name := by
  have hself {found : Bool} {kind : HardwareDeviceKind} (hkind : kind ≠ .monitor)
      (hname : name ∈ if found then [(node.1, kind)] else []) : NamedBy node.1 name := by
    cases found with
    | false => cases hname
    | true =>
      rw [List.mem_singleton.mp hname]
      exact Or.inl ⟨rfl, hkind⟩
  unfold nodeNames at h
  split at h
  · obtain ⟨i, -, rfl⟩ := List.mem_map.mp h
    exact Or.inr ⟨i, rfl⟩
  · exact hself (by decide) h
  · exact hself (usbKind_ne_monitor _ _) h
  · exact hself (usbKind_ne_monitor _ _) h
  · exact hself (by decide) h
  · exact hself (by decide) h
  · cases h

/-- A display has its place behind the last slash of its identifier. -/
theorem displayId_inj {path path' : String} {i j : Nat} (h : displayId path i = displayId path' j) :
    path = path' ∧ i = j := by
  have hspelt (path : String) (i : Nat) :
      (displayId path i).toList = path.toList ++ '/' :: ("display:".toList ++ Nat.toDigits 10 i) := by
    simp only [displayId, String.toList_append, toString, Nat.toList_repr, List.append_assoc]
    rfl
  have hfree (i : Nat) : '/' ∉ ("display:".toList ++ Nat.toDigits 10 i).reverse := by
    rw [List.mem_reverse, List.mem_append, not_or]
    refine ⟨by decide, fun hmem => ?_⟩
    have hdigit : Char.isDigit '/' = true := Nat.isDigit_of_mem_toDigits (by omega) (by omega) hmem
    cases hdigit
  have hlists := congrArg (fun s => s.toList.reverse) h
  simp only [hspelt, List.reverse_append, List.reverse_cons, List.append_assoc, List.singleton_append] at hlists
  have hcut (path : String) (i : Nat) : splitOnce ['/'] ((Nat.toDigits 10 i).reverse ++
      ("display:".toList.reverse ++ '/' :: path.toList.reverse)) =
        some (("display:".toList ++ Nat.toDigits 10 i).reverse, path.toList.reverse) := by
    rw [← List.append_assoc, ← List.reverse_append]
    exact splitOnce_singleton_of_free _ (hfree i)
  have hsame := (hcut path i).symm.trans ((congrArg _ hlists).trans (hcut path' j))
  rw [Option.some.injEq, Prod.mk.injEq] at hsame
  refine ⟨String.toList_injective (List.reverse_injective hsame.2), ?_⟩
  have hdigits := List.append_cancel_left (List.reverse_injective hsame.1)
  rw [← Nat.ofDigitChars_ten_toDigits (n := i), hdigits, Nat.ofDigitChars_ten_toDigits]

theorem NamedBy.unique {path path' : String} {name : Key} (h : NamedBy path name) (h' : NamedBy path' name) :
    path = path' := by
  rcases h with ⟨hpath, hkind⟩ | ⟨i, rfl⟩
  · rcases h' with ⟨hpath', -⟩ | ⟨j, rfl⟩
    · exact hpath.symm.trans hpath'
    · exact absurd rfl hkind
  · rcases h' with ⟨-, hkind⟩ | ⟨j, hname⟩
    · exact absurd rfl hkind
    · exact (displayId_inj (congrArg Prod.fst hname)).1

theorem nodup_nodeNames (category : String) (node : ReportNode) : (nodeNames limits category node).Nodup := by
  have hself (found : Bool) (name : Key) : (if found then [name] else []).Nodup := by
    cases found with
    | false => exact List.nodup_nil
    | true => exact List.nodup_singleton _
  unfold nodeNames
  split
  · refine (List.nodup_range).map fun i j hij => ?_
    exact (displayId_inj (congrArg Prod.fst hij)).2
  · exact hself _ _
  · exact hself _ _
  · exact hself _ _
  · exact hself _ _
  · exact hself _ _
  · exact List.nodup_nil

/-- No node of a report names what another one does. -/
theorem nodup_macosNames (report : Value) : (macosNames limits report).Nodup := by
  have hpaths : ((categorized limits report).map fun entry => entry.2.1).Nodup := by
    have hnodes : (categorized limits report).map Prod.snd = reportNodes limits report := by
      rw [categorized, reportNodes, List.map_flatMap]
      congr 1
      funext category
      rw [List.map_map]
      exact List.map_id _
    have hunique : ((reportNodes limits report).map Prod.fst).Nodup := nodup_reportNodes report
    rwa [← hnodes, List.map_map] at hunique
  rw [macosNames, List.nodup_flatMap]
  refine ⟨fun entry _ => nodup_nodeNames entry.1 entry.2, ?_⟩
  refine (List.pairwise_map.mp hpaths).imp fun {entry entry'} hne => ?_
  intro name hname hname'
  exact hne ((namedBy_nodeNames hname).unique (namedBy_nodeNames hname'))

theorem head_macosNames {report : Value} {name : Key} (h : name ∈ macosNames limits report) :
    name.1.toList.head? = some 'S' := by
  obtain ⟨entry, hentry, hname⟩ := List.mem_flatMap.mp h
  have hhead : entry.2.1.toList.head? = some 'S' := by
    obtain ⟨category, hcategory, hmem⟩ := List.mem_flatMap.mp hentry
    obtain ⟨node, hnode, rfl⟩ := List.mem_map.mp hmem
    exact head_reportNodes (List.mem_flatMap.mpr ⟨category, hcategory, hnode⟩)
  rcases namedBy_nodeNames hname with ⟨hpath, -⟩ | ⟨i, rfl⟩
  · rwa [hpath]
  · show (displayId entry.2.1 i).toList.head? = _
    rw [displayId, String.toList_append, String.toList_append, List.append_assoc, List.head?_append]
    show entry.2.1.toList.head?.or _ = _
    rw [hhead]
    rfl

/-! ## The keys of an inventory -/

theorem nodup_gatherMacos {report : Value} (h : ToldApart limits platform.sha256 (macosNames limits report)) :
    ((gatherMacos limits platform report).devices.map deviceKey).Nodup := by
  rw [deviceKey_gatherMacos]
  exact (nodup_macosNames report).map_on fun _ hname _ hname' heq => h.stableKey_inj hname hname' heq

/-- What is read from a report has unique keys. -/
theorem uniqueKeys_parseMacos (now : DateTime) {bytes : List UInt8} {report : Value}
    (hreport : platform.fromSlice bytes = some report) (hobject : report.isObject = true)
    (h : ToldApart limits platform.sha256 (macosNames limits report)) :
    ∃ inventory, parseMacos limits platform now bytes = .ok inventory ∧
      UniqueKeys inventory (capabilities "macos-system-profiler" (gatherMacos limits platform report).failures
        (gatherMacos limits platform report).memoryModules.length) := by
  refine ⟨_, ?_, (uniqueKeys_finish limits now _ _ _ _).mpr (noKindComesBack_of_nodup (nodup_gatherMacos h))⟩
  unfold parseMacos
  rw [hreport]
  show (if (!report.isObject) = true then _ else _) = _
  rw [hobject]
  rfl

theorem nodup_registeredDisplays (entries : List Registered) :
    ((registeredDisplays limits platform entries).map HardwareDevice.id).Nodup := by
  have hcongr (inst : DecidableEq (List Nat)) (l : List HardwareDevice) :
      dedupAdjacent HardwareDevice.id l = @dedupAdjacent _ _ inst (fun d => textKey d.id) l :=
    dedupAdjacent_congr (fun d d' => textKey_inj.symm) l
  rw [registeredDisplays, hcongr (fun _ _ => LinearOrder.toDecidableEq _ _), List.Nodup, List.pairwise_map]
  have hsorted := inOrder_sortBy (fun d : HardwareDevice => textKey d.id)
    ((entries.take 64).filterMap (registeredDevice limits platform))
  exact (pairwise_lt_dedupAdjacent hsorted).imp fun {d d'} hlt heq => hlt.ne (congrArg textKey heq)

theorem kind_registeredDisplays {entries : List Registered} {d : HardwareDevice}
    (h : d ∈ registeredDisplays limits platform entries) : d.kind = .monitor := by
  have hmem := (sortBy_perm _ _).subset ((dedupAdjacent_sublist _ _).subset h)
  obtain ⟨entry, -, hd⟩ := List.mem_filterMap.mp hmem
  obtain ⟨name, -, hd⟩ := Option.bind_eq_some_iff.mp hd
  rw [← Option.some.inj hd]
  rfl

/-- The displays of the registry are none that the report has. -/
theorem nodup_complete {inventory : Inventory} (now : DateTime) (entries : List Registered)
    (h : (inventory.devices.map deviceKey).Nodup) :
    ((complete limits platform now entries inventory).devices.map deviceKey).Nodup := by
  unfold complete
  split
  · exact h
  next hnone =>
  dsimp only
  split
  · exact h
  · rw [List.map_append, List.nodup_append]
    refine ⟨h, ?_, ?_⟩
    · have hids := (@nodup_registeredDisplays limits platform entries).sublist
        ((List.take_sublist (limits.maxHardwareDevices - inventory.devices.length) _).map _)
      exact List.Nodup.of_map Prod.fst (by rwa [List.map_map])
    · rintro _ hkey _ hkey' rfl
      obtain ⟨d, hd, rfl⟩ := List.mem_map.mp hkey
      obtain ⟨d', hd', heq⟩ := List.mem_map.mp hkey'
      have hkind : d.kind = .monitor :=
        (congrArg Prod.snd heq).symm.trans (kind_registeredDisplays ((List.take_sublist _ _).subset hd'))
      exact hnone (List.any_eq_true.mpr ⟨d, hd, by rw [hkind]; rfl⟩)

end

end Macos

end NativeInventory

end Xsoc
