import Xsoc.Collectors.MacosDevices
import Xsoc.Collectors.Smbios

/-!
# The inventory of Linux

The devices are read from sysfs. Each bus and class of devices is a directory of links, and each link leads to a
directory of attributes; what is below `virtual` is no device. The vendors and products have names in local lists.

* `Files` : the files that are read; `entries`, `physical`, `attr` : a directory, where a link leads, an attribute;
* `Ids.parse`, `Ids.identify`, `identifyParent` : the names of vendors and products;
* `pciDevice`, `usbDevice`, `thunderboltDevice`, `drmDevice`, `bluetoothDevice`, `soundDevices` : the devices;
* `collectWithIds`, `collect` : the inventory;
* `pciNames`, `linuxNames` : what the links name; only those of PCI can name a device of more than one kind;
* `uniqueKeys_collect` : the inventory has unique keys as long as no kind comes back among the PCI devices of one name;
* `inventory_keys_unique_iff` : the inventories of the three platforms.
-/

set_option autoImplicit false

namespace Xsoc

open Bounding

namespace NativeInventory

namespace Linux

/-! ## Files -/

/-- A path, component by component. -/
abbrev Path := List String

/-- `io::ErrorKind`, as far as it is told apart. -/
inductive ErrorKind
  | permissionDenied
  | notFound
  | invalidData
  | other

def classify : ErrorKind → CapabilityErrorKind
  | .permissionDenied => .permissionDenied
  | .notFound => .notPresent
  | .invalidData => .invalidData
  | .other => .transient

/-- The files, as they are read. -/
structure Files where
  /-- `fs::read_dir`: the names in a directory. -/
  readDir : Path → Except ErrorKind (List (Except ErrorKind String))
  /-- The bytes of a file. -/
  contents : Path → Except ErrorKind (List UInt8)
  /-- `fs::read_link` -/
  readLink : Path → Option Path
  /-- `Path::canonicalize` -/
  canonicalize : Path → Option Path

section

variable (limits : Limits) (platform : Platform) (files : Files)

def read (path : Path) (limit : Nat) : Except ErrorKind (List UInt8) := do
  let bytes ← files.contents path
  if limit < bytes.length then .error .invalidData else .ok bytes

def attr (path : Path) (name : String) : Option String := do
  let bytes ← (read files (path ++ [name]) 4096).toOption
  Hardware.text limits (fromUtf8Lossy bytes)

/-- The paths in a directory, in their order. -/
def entries (path : Path) : Except CapabilityErrorKind (List Path) :=
  match files.readDir path with
  | .error error => .error (classify error)
  | .ok names =>
    match (names.take 4096).mapM id with
    | .error error => .error (classify error)
    | .ok names => .ok ((sortBy textKey names).map fun name => path ++ [name])

/-- `path.file_name().unwrap()` -/
def fileName (path : Path) : String := path.getLast?.getD ""

/-- `path.display()` -/
def display (path : Path) : String := String.join (path.map fun name => s!"/{name}")

def driver (path : Path) : Option String := do
  let target ← files.readLink (path ++ ["driver"])
  let name ← target.getLast?
  Hardware.text limits name

/-- `trim_start_matches("0x")` -/
def trimMark : List Char → List Char
  | '0' :: 'x' :: cs => trimMark cs
  | cs => cs

def hex (value : Option String) (width : Nat) : Option String := do
  let value ← value
  let value := trimMark value.toList
  if byteLen value = width ∧ value.all isAsciiHexdigit then some (String.ofList (value.map Char.toLower)) else none

def number (value : Option String) : Option F64 :=
  (value.bind platform.parseF64).filter fun v => v.isFinite && F64.zero.lt v

/-- Where a path leads, if it is to a device. -/
def physical (sysfs path : Path) : Option Path := do
  let path ← files.canonicalize path
  let root ← files.canonicalize (sysfs ++ ["devices"])
  let relative ← List.dropPrefix? path root
  if relative.head? = some "virtual" then none else some path

def startsWith (s start : String) : Bool := start.toList.isPrefixOf s.toList

/-! ## The names of vendors and products -/

/-- `Ids` -/
structure Ids where
  vendors : String → Option String
  products : String × String → Option String

def Ids.default : Ids := ⟨fun _ => none, fun _ => none⟩

/-- `str::lines`, where `line` was read so far. -/
def linesFrom (line : List Char) : List Char → List (List Char)
  | [] => if line = [] then [] else [line]
  | c :: cs =>
    if c = '\n' then (if line.getLast? = some '\r' then line.dropLast else line) :: linesFrom [] cs
    else linesFrom (line ++ [c]) cs

def lines (value : String) : List (List Char) := linesFrom [] value.toList

/-- `split_once("  ")`, where there is a number and a name. -/
def numbered (line : List Char) : Option (String × String) := do
  let (id, name) ← splitOnce [' ', ' '] line
  let id ← hex (some (String.ofList id)) 4
  let name ← Hardware.text limits (String.ofList name)
  some (id, name)

/-- A line of a list: a vendor, or, behind a tab, a product of the last one. -/
def Ids.line (state : Ids × Option String) (line : List Char) : Ids × Option String :=
  let (ids, vendor) := state
  if line.head? = some '#' ∨ line = [] then state
  else if line.head? ≠ some '\t' then
    match numbered limits line with
    | some (id, name) => ({ ids with vendors := Function.update ids.vendors id (some name) }, some id)
    | none => (ids, none)
  else if ['\t', '\t'].isPrefixOf line then state
  else
    match vendor, numbered limits line.tail with
    | some vendor, some (id, name) =>
      ({ ids with products := Function.update ids.products (vendor, id) (some name) }, some vendor)
    | vendor, _ => (ids, vendor)

def Ids.parse (value : String) : Ids := ((lines value).foldl (Ids.line limits) (Ids.default, none)).1

def Ids.load (paths : List Path) : Ids :=
  match paths.findSome? fun path => (read files path (4 * 1024 * 1024)).toOption with
  | some bytes => Ids.parse limits (fromUtf8Lossy bytes)
  | none => Ids.default

def Ids.identify (ids : Ids) (item : HardwareDevice) : HardwareDevice :=
  match item.vendorId with
  | some vendor =>
    { item with
      vendor := item.vendor.orElse fun _ => ids.vendors vendor
      model := item.model.orElse fun _ => item.productId.bind fun product => ids.products (vendor, product) }
  | none => item

/-- The first of the directories that is of a USB or PCI device says what an item is part of. -/
def identifyAmong (pci usb : Ids) : List Path → HardwareDevice → HardwareDevice
  | [], item => item
  | parent :: parents, item =>
    let item := { item with driver := item.driver.orElse fun _ => driver limits files parent }
    match hex (attr limits files parent "idVendor") 4 with
    | some vendor =>
      usb.identify { item with
        vendorId := some vendor
        productId := hex (attr limits files parent "idProduct") 4
        model := attr limits files parent "product"
        vendor := attr limits files parent "manufacturer"
        bus := some "USB"
        version := attr limits files parent "version"
        revision := attr limits files parent "bcdDevice" }
    | none =>
      match hex (attr limits files parent "vendor") 4 with
      | some vendor =>
        pci.identify { item with
          vendorId := some vendor
          productId := hex (attr limits files parent "device") 4
          bus := some "PCI"
          revision := hex (attr limits files parent "revision") 2 }
      | none => identifyAmong pci usb parents item

def identifyParent (sysfs path : Path) (pci usb : Ids) (item : HardwareDevice) : HardwareDevice :=
  identifyAmong limits files pci usb
    (path.inits.reverse.takeWhile fun parent => (sysfs ++ ["devices"]).isPrefixOf parent) item

/-! ## Displays -/

/-- `edid`: vendor, product, name and version. -/
def edid (bytes : List UInt8) : Option (String × String × Option String × String) :=
  let block := bytes.take 128
  if block.length ≠ 128 ∨ block.take 8 ≠ [0, 255, 255, 255, 255, 255, 255, 0] ∨ block.foldl (· + ·) 0 ≠ 0 then none
  else
    let at_ (i : Nat) : Nat := (block.getD i 0).toNat
    let code := 256 * at_ 8 + at_ 9
    let letters := [code / 1024 % 32, code / 32 % 32, code % 32]
    if letters.any fun v => decide (v < 1 ∨ 26 < v) then none
    else
      let vendor := String.ofList (letters.map fun v => Char.ofNat ('A'.toNat + v - 1))
      let product := String.ofList (paddedHex 4 (at_ 10 + 256 * at_ 11))
      let descriptors := [54, 72, 90, 108].map fun start => (block.drop start).take 18
      let name := descriptors.findSome? fun d =>
        if d.take 5 = [0, 0, 0, 0xfc, 0] then Hardware.text limits (fromUtf8Lossy (d.drop 5)) else none
      let major := at_ 18
      let minor := at_ 19
      some (vendor, product, name, s!"EDID {major}.{minor}")

/-! ## The devices -/

/-- What is found at a link, before it is described. -/
def found (id : String) (kind : HardwareDeviceKind) (name source : String) : HardwareDevice :=
  device limits platform.sha256 id kind name source

def named (item : HardwareDevice) (name : String) : HardwareDevice := { item with name := name }

def pciId (place : Path) : String := "pci:" ++ fileName place

/-- A PCI device, before it is known of which kind it is. -/
def pciItem (pci : Ids) (place : Path) : HardwareDevice :=
  pci.identify { found limits platform (pciId place) .usbController "PCI controller" "linux-sysfs-pci" with
    vendorId := hex (attr limits files place "vendor") 4
    productId := hex (attr limits files place "device") 4
    revision := hex (attr limits files place "revision") 2
    driver := driver limits files place
    bus := some "PCI" }

/-- The kind of a PCI device, if it is of one that is listed. -/
def pciKind (pci : Ids) (place : Path) : Option HardwareDeviceKind :=
  let pciClass := (attr limits files place "class").getD ""
  let item := pciItem limits platform files pci place
  let model := (toLowercase (item.model.getD "")).toList
  if startsWith pciClass "0x0c03" then some .usbController
  else if startsWith pciClass "0x0401" || startsWith pciClass "0x0403" then some .audio
  else if item.driver == some "thunderbolt" || contains model "thunderbolt".toList || contains model "usb4".toList then
    some .thunderbolt
  else none

def pciLabel : HardwareDeviceKind → String
  | .audio => "audio"
  | .thunderbolt => "Thunderbolt"
  | _ => "USB controller"

def pciDevice (pci : Ids) (place : Path) : Option HardwareDevice :=
  (pciKind limits platform files pci place).map fun kind =>
    let item := pciItem limits platform files pci place
    let label := pciLabel kind
    let vendor := item.vendorId.getD "????"
    let product := item.productId.getD "????"
    named { item with kind := kind } (item.model.getD s!"PCI {label} {vendor}:{product}")

/-- A USB device, and no interface of one. -/
def usbPlace (sysfs path : Path) : Option Path := do
  let place ← physical files sysfs path
  if (fileName place).toList.contains ':' then none
  else if (hex (attr limits files place "idVendor") 4).isNone then none
  else some place

def usbId (place : Path) : String := "usb:" ++ fileName place

def usbDevice (usb : Ids) (place : Path) : HardwareDevice :=
  let item := usb.identify { found limits platform (usbId place) .usbDevice "USB device" "linux-sysfs-usb" with
    vendorId := hex (attr limits files place "idVendor") 4
    productId := hex (attr limits files place "idProduct") 4
    vendor := attr limits files place "manufacturer"
    model := attr limits files place "product"
    version := attr limits files place "version"
    revision := attr limits files place "bcdDevice"
    bus := some "USB"
    driver := driver limits files place
    speedMbps := number platform (attr limits files place "speed") }
  let vendor := item.vendorId.getD "????"
  let product := item.productId.getD "????"
  named item (item.model.getD s!"USB {vendor}:{product}")

/-- A Thunderbolt router, by its key. -/
def thunderboltPlace (sysfs path : Path) : Option (String × Path) := do
  let key := fileName path
  if !key.toList.contains '-' || key.toList.contains ':' then none
  else
    let place ← physical files sysfs path
    some (key, place)

def thunderboltId (key : String) : String := "thunderbolt:" ++ key

def thunderboltDevice (key : String) (place : Path) : HardwareDevice :=
  let item := found limits platform (thunderboltId key) .thunderbolt "Thunderbolt router" "linux-sysfs-thunderbolt"
  let model := attr limits files place "device_name"
  { item with
    model := model
    vendor := attr limits files place "vendor_name"
    vendorId := attr limits files place "vendor"
    productId := attr limits files place "device"
    revision := attr limits files place "nvm_version"
    version := (attr limits files place "generation").map fun v => s!"Thunderbolt {v}"
    bus := some "Thunderbolt/USB4"
    name := model.getD item.name
    driver := driver limits files place }

/-- A connector with a display. -/
def drmPlace (sysfs path : Path) : Option Path :=
  if attr limits files path "status" = some "connected" then physical files sysfs path else none

def drmId (place : Path) : String := "drm:" ++ fileName place

/-- A display, and what is wrong with what it says of itself. -/
def drmDevice (place : Path) : HardwareDevice × Option CapabilityErrorKind :=
  let key := fileName place
  let item := { found limits platform (drmId place) .monitor key "linux-drm-edid" with
    connection := some key
    bus := some "Display" }
  match read files (place ++ ["edid"]) (32 * 1024) with
  | .error error => (item, some (classify error))
  | .ok bytes =>
    if bytes.isEmpty then (item, none)
    else
      match edid limits bytes with
      | some (vendor, product, name, version) =>
        ({ item with
          vendor := some vendor
          vendorId := some vendor
          productId := some product
          model := name
          version := some version
          name := name.getD item.name }, none)
      | none => (item, some .invalidData)

/-- `hci`, and the number of a radio. -/
def isRadio (key : String) : Bool :=
  startsWith key "hci" && (key.toList.drop 3).all Char.isDigit && !(key.toList.drop 3).isEmpty

/-- A radio, by its key. -/
def bluetoothPlace (sysfs path : Path) : Option (String × Path) := do
  let key := fileName path
  if !isRadio key then none
  else
    let place ← physical files sysfs (path ++ ["device"])
    some (key, place)

def bluetoothId (key : String) (place : Path) : String := "bluetooth:" ++ key ++ ":" ++ display place

def bluetoothDevice (sysfs : Path) (pci usb : Ids) (key : String) (place : Path) : HardwareDevice :=
  let item := identifyParent limits files sysfs place pci usb
    (found limits platform (bluetoothId key place) .bluetooth s!"Bluetooth {key}" "linux-sysfs-bluetooth")
  named item (item.model.getD item.name)

/-- A sound card, by its key and its number. -/
def soundPlace (sysfs path : Path) : Option (String × String × Path) := do
  let key := fileName path
  let index ← List.dropPrefix? key.toList "card".toList
  if index.isEmpty || !index.all Char.isDigit then none
  else
    let place ← physical files sysfs (path ++ ["device"])
    some (key, String.ofList index, place)

def soundId (key : String) (place : Path) : String := "alsa:" ++ key ++ ":" ++ display place

def codecId (key codec : String) : String := "alsa:" ++ key ++ ":" ++ codec

def cardPath (procfs : Path) (index : String) : Path := procfs ++ ["asound", "card" ++ index]

/-- The codecs of a card that say what they are. -/
def codecs (card : Path) : List (String × String) :=
  match entries files card with
  | .error _ => []
  | .ok paths =>
    (paths.filter fun path => startsWith (fileName path) "codec#").filterMap fun path => do
      let bytes ← (read files path (64 * 1024)).toOption
      let model ← (lines (fromUtf8Lossy bytes)).findSome? fun line => do
        let model ← List.dropPrefix? line "Codec: ".toList
        Hardware.text limits (String.ofList model)
      some (fileName path, model)

/-- A codec of a sound card. It can be of another vendor than the card. -/
def codecDevice (item : HardwareDevice) (key codec model : String) : HardwareDevice :=
  { item with
    id := stableId limits platform.sha256 (codecId key codec)
    model := some model
    name := model
    vendor := none
    vendorId := none
    productId := none }

/-- The codecs of a sound card, and the card. -/
def soundDevices (sysfs procfs : Path) (pci usb : Ids) (key index : String) (place : Path) : List HardwareDevice :=
  let item := identifyParent limits files sysfs place pci usb
    (found limits platform (soundId key place) .audio s!"Audio {key}" "linux-alsa")
  let card := cardPath procfs index
  let label := attr limits files card "id"
  (codecs limits files card).map (fun (codec, model) => codecDevice limits platform item key codec model) ++
    [named item ((item.model.orElse fun _ => label).getD item.name)]

/-! ## The scan -/

/-- The paths of a bus or a class, and none where it cannot be read. -/
def listed (path : Path) : List Path := ((entries files path).toOption).getD []

/-- What is wrong with a bus or a class. -/
def failureOf (path : Path) : Option CapabilityErrorKind :=
  match entries files path with
  | .error kind => some kind
  | .ok _ => none

def pciPlaces (sysfs : Path) : List Path :=
  (listed files (sysfs ++ ["bus", "pci", "devices"])).filterMap (physical files sysfs)

def usbPlaces (sysfs : Path) : List Path :=
  (listed files (sysfs ++ ["bus", "usb", "devices"])).filterMap (usbPlace limits files sysfs)

def thunderboltPlaces (sysfs : Path) : List (String × Path) :=
  (listed files (sysfs ++ ["bus", "thunderbolt", "devices"])).filterMap (thunderboltPlace files sysfs)

def drmPlaces (sysfs : Path) : List Path :=
  (listed files (sysfs ++ ["class", "drm"])).filterMap (drmPlace limits files sysfs)

def bluetoothPlaces (sysfs : Path) : List (String × Path) :=
  (listed files (sysfs ++ ["class", "bluetooth"])).filterMap (bluetoothPlace files sysfs)

def soundPlaces (sysfs : Path) : List (String × String × Path) :=
  (listed files (sysfs ++ ["class", "sound"])).filterMap (soundPlace files sysfs)

/-- The devices in the order they are found. -/
def gatherLinux (sysfs procfs : Path) (pci usb : Ids) : List HardwareDevice :=
  (pciPlaces files sysfs).filterMap (pciDevice limits platform files pci) ++
    (usbPlaces limits files sysfs).map (usbDevice limits platform files usb) ++
    (thunderboltPlaces files sysfs).map (fun (key, place) => thunderboltDevice limits platform files key place) ++
    (drmPlaces limits files sysfs).map (fun place => (drmDevice limits platform files place).1) ++
    (bluetoothPlaces files sysfs).map
      (fun (key, place) => bluetoothDevice limits platform files sysfs pci usb key place) ++
    (soundPlaces files sysfs).flatMap
      fun (key, index, place) => soundDevices limits platform files sysfs procfs pci usb key index place

/-- What is wrong with the devices of each kind. Of what is wrong with displays the last is told. -/
def linuxFailures (sysfs : Path) : HardwareDeviceKind → Option CapabilityErrorKind
  | .thunderbolt => failureOf files (sysfs ++ ["bus", "thunderbolt", "devices"])
  | .monitor =>
    (((drmPlaces limits files sysfs).filterMap fun place => (drmDevice limits platform files place).2).getLast?).orElse
      fun _ => failureOf files (sysfs ++ ["class", "drm"])
  | .bluetooth => failureOf files (sysfs ++ ["class", "bluetooth"])
  | .usbController => failureOf files (sysfs ++ ["bus", "pci", "devices"])
  | .usbDevice => failureOf files (sysfs ++ ["bus", "usb", "devices"])
  | .audio => failureOf files (sysfs ++ ["class", "sound"])

/-- The memory modules, and what is wrong with them. -/
def memory (sysfs : Path) : Except Smbios.Panic (List MemoryModule × Option CapabilityErrorKind) :=
  match read files (sysfs ++ ["firmware", "dmi", "tables", "DMI"]) (1024 * 1024) with
  | .ok bytes => Smbios.parse limits bytes
  | .error error => .ok ([], some (classify error))

/-- `collect_with_ids` -/
def collectWithIds (now : DateTime) (sysfs procfs : Path) (pci usb : Ids) : Except Smbios.Panic Inventory := do
  let (memoryModules, memoryFailure) ← memory limits files sysfs
  return linuxFinish limits now memoryModules (gatherLinux limits platform files sysfs procfs pci usb)
    ⟨memoryFailure, linuxFailures limits platform files sysfs⟩

/-- `collect` -/
def collect (now : DateTime) (sysfs procfs : Path) : Except Smbios.Panic Inventory :=
  let load (name : String) : Ids := Ids.load limits files
    [["usr", "share", "hwdata", name], ["usr", "share", "misc", name], ["usr", "share", name]]
  collectWithIds limits platform files now sysfs procfs (load "pci.ids") (load "usb.ids")

/-! ## What the links name -/

/-- What the links of PCI name, in their order. -/
def pciNames (sysfs : Path) (pci : Ids) : List Key :=
  (pciPlaces files sysfs).filterMap fun place =>
    (pciKind limits platform files pci place).map fun kind => (pciId place, kind)

/-- What a sound card names: its codecs and itself. -/
def soundNames (procfs : Path) (key index : String) (place : Path) : List Key :=
  (codecs limits files (cardPath procfs index)).map (fun codec => (codecId key codec.1, HardwareDeviceKind.audio)) ++
    [(soundId key place, .audio)]

/-- What the other links name. -/
def furtherNames (sysfs procfs : Path) : List Key :=
  (usbPlaces limits files sysfs).map (fun place => (usbId place, .usbDevice)) ++
    (thunderboltPlaces files sysfs).map (fun (key, _) => (thunderboltId key, .thunderbolt)) ++
    (drmPlaces limits files sysfs).map (fun place => (drmId place, .monitor)) ++
    (bluetoothPlaces files sysfs).map (fun (key, place) => (bluetoothId key place, .bluetooth)) ++
    (soundPlaces files sysfs).flatMap fun (key, index, place) => soundNames limits files procfs key index place

def linuxNames (sysfs procfs : Path) (pci : Ids) : List Key :=
  pciNames limits platform files sysfs pci ++ furtherNames limits files sysfs procfs

variable {limits platform files}

theorem deviceKey_found (id : String) (kind : HardwareDeviceKind) (name source : String) :
    deviceKey (found limits platform id kind name source) = stableKey limits platform.sha256 (id, kind) :=
  rfl

theorem deviceKey_named (item : HardwareDevice) (name : String) : deviceKey (named item name) = deviceKey item := rfl

theorem deviceKey_codecDevice (item : HardwareDevice) (key codec model : String) :
    deviceKey (codecDevice limits platform item key codec model) =
      (stableId limits platform.sha256 (codecId key codec), item.kind) :=
  rfl

theorem Ids.deviceKey_identify (ids : Ids) (item : HardwareDevice) :
    deviceKey (ids.identify item) = deviceKey item := by
  unfold Ids.identify
  cases item.vendorId <;> rfl

theorem deviceKey_identifyAmong (pci usb : Ids) (parents : List Path) (item : HardwareDevice) :
    deviceKey (identifyAmong limits files pci usb parents item) = deviceKey item := by
  induction parents generalizing item with
  | nil => rfl
  | cons parent parents ih =>
    unfold identifyAmong
    cases hex (attr limits files parent "idVendor") 4 with
    | some vendor => exact Ids.deviceKey_identify _ _
    | none =>
      cases hex (attr limits files parent "vendor") 4 with
      | some vendor => exact Ids.deviceKey_identify _ _
      | none => exact ih _

theorem deviceKey_pciDevice (pci : Ids) (place : Path) :
    (pciDevice limits platform files pci place).map deviceKey =
      ((pciKind limits platform files pci place).map fun kind => (pciId place, kind)).map
        (stableKey limits platform.sha256) := by
  have hitem : deviceKey (pciItem limits platform files pci place) =
      stableKey limits platform.sha256 (pciId place, .usbController) := by
    rw [pciItem, Ids.deviceKey_identify]
    rfl
  rw [pciDevice, Option.map_map, Option.map_map]
  congr 1
  funext kind
  rw [Function.comp_apply, deviceKey_named]
  exact congrArg (fun key : Key => (key.1, kind)) hitem

theorem deviceKey_usbDevice (usb : Ids) (place : Path) :
    deviceKey (usbDevice limits platform files usb place) =
      stableKey limits platform.sha256 (usbId place, .usbDevice) := by
  rw [usbDevice, deviceKey_named, Ids.deviceKey_identify]
  rfl

theorem deviceKey_drmDevice (place : Path) :
    deviceKey (drmDevice limits platform files place).1 = stableKey limits platform.sha256 (drmId place, .monitor) := by
  unfold drmDevice
  cases read files (place ++ ["edid"]) (32 * 1024) with
  | error error => rfl
  | ok bytes =>
    dsimp only
    split
    · rfl
    · cases edid limits bytes <;> rfl

theorem deviceKey_bluetoothDevice (sysfs : Path) (pci usb : Ids) (key : String) (place : Path) :
    deviceKey (bluetoothDevice limits platform files sysfs pci usb key place) =
      stableKey limits platform.sha256 (bluetoothId key place, .bluetooth) := by
  rw [bluetoothDevice, deviceKey_named, identifyParent, deviceKey_identifyAmong, deviceKey_found]

theorem deviceKey_soundDevices (sysfs procfs : Path) (pci usb : Ids) (key index : String) (place : Path) :
    (soundDevices limits platform files sysfs procfs pci usb key index place).map deviceKey =
      (soundNames limits files procfs key index place).map (stableKey limits platform.sha256) := by
  rw [soundDevices]
  have hitem : deviceKey (identifyParent limits files sysfs place pci usb
      (found limits platform (soundId key place) .audio s!"Audio {key}" "linux-alsa")) =
        stableKey limits platform.sha256 (soundId key place, .audio) := by
    rw [identifyParent, deviceKey_identifyAmong, deviceKey_found]
  generalize identifyParent limits files sysfs place pci usb
    (found limits platform (soundId key place) .audio s!"Audio {key}" "linux-alsa") = item at hitem ⊢
  have hkind : item.kind = .audio := congrArg Prod.snd hitem
  rw [soundNames, List.map_append, List.map_append, List.map_map, List.map_map, List.map_singleton, List.map_singleton,
    deviceKey_named, hitem]
  congr 2
  funext codec
  rw [Function.comp_apply, Function.comp_apply, deviceKey_codecDevice, hkind]
  rfl

/-- The keys of what is found are those of what is named. -/
theorem deviceKey_gatherLinux (sysfs procfs : Path) (pci usb : Ids) :
    (gatherLinux limits platform files sysfs procfs pci usb).map deviceKey =
      (linuxNames limits platform files sysfs procfs pci).map (stableKey limits platform.sha256) := by
  simp only [gatherLinux, linuxNames, pciNames, furtherNames, List.map_append, List.map_filterMap, List.map_map,
    List.map_flatMap, List.append_assoc, deviceKey_pciDevice]
  refine congrArg₂ (· ++ ·) rfl (congrArg₂ (· ++ ·) ?_ (congrArg₂ (· ++ ·) rfl (congrArg₂ (· ++ ·) ?_
    (congrArg₂ (· ++ ·) ?_ ?_))))
  · exact congrArg (List.map · _) (funext fun place => deviceKey_usbDevice usb place)
  · exact congrArg (List.map · _) (funext fun place => deviceKey_drmDevice place)
  · exact congrArg (List.map · _) (funext fun entry => deviceKey_bluetoothDevice sysfs pci usb entry.1 entry.2)
  · refine congrArg (List.flatMap · _) (funext fun entry => ?_)
    exact deviceKey_soundDevices sysfs procfs pci usb entry.1 entry.2.1 entry.2.2

/-! ## The keys of an inventory -/

/-- With what the names of a source begin, and the kind of its devices. -/
def sources : List (Option Char × HardwareDeviceKind) :=
  [(some 'u', .usbDevice), (some 't', .thunderbolt), (some 'd', .monitor), (some 'b', .bluetooth), (some 'a', .audio)]

theorem head_pciNames {sysfs : Path} {pci : Ids} {name : Key} (h : name ∈ pciNames limits platform files sysfs pci) :
    name.1.toList.head? = some 'p' := by
  obtain ⟨place, -, hname⟩ := List.mem_filterMap.mp h
  obtain ⟨kind, -, rfl⟩ := Option.map_eq_some_iff.mp hname
  show (pciId place).toList.head? = _
  rw [pciId, String.toList_append]
  rfl

/-- Each other source has devices of one kind. -/
theorem head_furtherNames {sysfs procfs : Path} {name : Key} (h : name ∈ furtherNames limits files sysfs procfs) :
    (name.1.toList.head?, name.2) ∈ sources := by
  have hspelt (kind : HardwareDeviceKind) (c : Char) (start rest : String) (hstart : start.toList.head? = some c)
      (hsource : (some c, kind) ∈ sources) (hid : name = (start ++ rest, kind)) :
      (name.1.toList.head?, name.2) ∈ sources := by
    rw [hid, String.toList_append, List.head?_append, hstart]
    exact hsource
  simp only [furtherNames, List.append_assoc, List.mem_append, List.mem_map, List.mem_flatMap] at h
  rcases h with ⟨place, -, rfl⟩ | ⟨entry, -, rfl⟩ | ⟨place, -, rfl⟩ | ⟨entry, -, rfl⟩ | ⟨entry, -, h⟩
  · exact hspelt .usbDevice 'u' "usb:" _ rfl (by decide) rfl
  · exact hspelt .thunderbolt 't' "thunderbolt:" _ rfl (by decide) rfl
  · exact hspelt .monitor 'd' "drm:" _ rfl (by decide) rfl
  · refine hspelt .bluetooth 'b' "bluetooth:" (entry.1 ++ ":" ++ display entry.2) rfl (by decide) ?_
    rw [bluetoothId, String.append_assoc, String.append_assoc, String.append_assoc]
  · rcases List.mem_append.mp h with hcodec | hcard
    · obtain ⟨codec, -, rfl⟩ := List.mem_map.mp hcodec
      refine hspelt .audio 'a' "alsa:" (entry.1 ++ ":" ++ codec.1) rfl (by decide) ?_
      rw [codecId, String.append_assoc, String.append_assoc, String.append_assoc]
    · refine hspelt .audio 'a' "alsa:" (entry.1 ++ ":" ++ display entry.2.2) rfl (by decide) ?_
      rw [List.mem_singleton.mp hcard, soundId, String.append_assoc, String.append_assoc, String.append_assoc]

theorem head_linuxNames {sysfs procfs : Path} {pci : Ids} {name : Key}
    (h : name ∈ linuxNames limits platform files sysfs procfs pci) : name.1.toList.head? ≠ some 'i' := by
  rcases List.mem_append.mp h with hpci | hfurther
  · rw [head_pciNames hpci]
    decide
  · have hno : ∀ source ∈ sources, source.1 ≠ some 'i' := by decide
    exact hno _ (head_furtherNames hfurther)

/-- Behind the kinds of the PCI devices of an identifier there are none. -/
theorem linuxNames_inRuns {sysfs procfs : Path} {pci : Ids}
    (h : ToldApart limits platform.sha256 (linuxNames limits platform files sysfs procfs pci)) :
    FollowedInRuns ((pciNames limits platform files sysfs pci).map (stableKey limits platform.sha256))
      ((linuxNames limits platform files sysfs procfs pci).map (stableKey limits platform.sha256)) := by
  have hfurther {name : Key} (hname : name ∈ furtherNames limits files sysfs procfs) :
      name ∈ linuxNames limits platform files sysfs procfs pci :=
    List.mem_append_right _ hname
  intro id
  refine ⟨kindsAt id ((furtherNames limits files sysfs procfs).map (stableKey limits platform.sha256)), ?_, ?_, ?_⟩
  · rw [linuxNames, List.map_append, kindsAt_append]
  · -- all names of the identifier are of one source
    have hsource (kind kind' : HardwareDeviceKind)
        (hkind : kind ∈ kindsAt id ((furtherNames limits files sysfs procfs).map (stableKey limits platform.sha256)))
        (hkind' : kind' ∈ kindsAt id ((furtherNames limits files sysfs procfs).map
          (stableKey limits platform.sha256))) :
        kind = kind' := by
      obtain ⟨name, hname, hkey⟩ := List.mem_map.mp (mem_kindsAt.mp hkind)
      obtain ⟨name', hname', hkey'⟩ := List.mem_map.mp (mem_kindsAt.mp hkind')
      rw [stableKey, Prod.mk.injEq] at hkey hkey'
      have hsame := h name (hfurther hname) name' (hfurther hname') (hkey.1.trans hkey'.1.symm)
      have hat := head_furtherNames hname
      have hat' := head_furtherNames hname'
      rw [← hsame] at hat'
      rw [← hkey.2, ← hkey'.2]
      have hone : ∀ source ∈ sources, ∀ source' ∈ sources, source.1 = source'.1 → source.2 = source'.2 := by decide
      exact hone _ hat _ hat' rfl
    cases hkinds : kindsAt id ((furtherNames limits files sysfs procfs).map (stableKey limits platform.sha256)) with
    | nil => exact InRuns.of_forall_eq (y := .audio) fun _ hmem => absurd hmem List.not_mem_nil
    | cons kind kinds =>
      rw [hkinds] at hsource
      exact InRuns.of_forall_eq fun kind' hkind' => hsource kind' kind hkind' List.mem_cons_self
  · intro kind hpci hother
    obtain ⟨name, hname, hkey⟩ := List.mem_map.mp (mem_kindsAt.mp hpci)
    obtain ⟨name', hname', hkey'⟩ := List.mem_map.mp (mem_kindsAt.mp hother)
    rw [stableKey, Prod.mk.injEq] at hkey hkey'
    have hsame := h name (List.mem_append_left _ hname) name' (hfurther hname') (hkey.1.trans hkey'.1.symm)
    have hat := head_furtherNames hname'
    rw [← hsame, head_pciNames hname] at hat
    have hno : ∀ source ∈ sources, source.1 ≠ some 'p' := by decide
    exact hno _ hat rfl

theorem nodup_pciNames {sysfs : Path} {pci : Ids} (h : ((pciPlaces files sysfs).map fileName).Nodup) :
    (pciNames limits platform files sysfs pci).Nodup := by
  rw [List.Nodup, List.pairwise_map] at h
  refine List.Pairwise.filterMap _ (fun place place' hne name hname name' hname' heq => ?_) h
  obtain ⟨kind, -, rfl⟩ := Option.map_eq_some_iff.mp hname
  obtain ⟨kind', -, rfl⟩ := Option.map_eq_some_iff.mp hname'
  have hid : pciId place = pciId place' := congrArg Prod.fst heq
  exact hne ((String.append_right_inj _).mp hid)

/-! ## The keys of an inventory -/

/-- The inventory of a scan has unique keys if and only if of the kinds of the PCI devices none comes back under one
identifier. Where their names are distinct, none does. -/
theorem uniqueKeys_collectWithIds (now : DateTime) (sysfs procfs : Path) (pci usb : Ids)
    (h : ToldApart limits platform.sha256 (linuxNames limits platform files sysfs procfs pci)) :
    ∃ inventory memoryFailure, collectWithIds limits platform files now sysfs procfs pci usb = .ok inventory ∧
      (UniqueKeys inventory (linuxCapabilities ⟨memoryFailure, linuxFailures limits platform files sysfs⟩
          inventory.memoryModules.length) ↔
        NoKindComesBack limits ((pciNames limits platform files sysfs pci).map (stableKey limits platform.sha256))
          ((linuxNames limits platform files sysfs procfs pci).map (stableKey limits platform.sha256))) ∧
      (((pciPlaces files sysfs).map fileName).Nodup →
        UniqueKeys inventory (linuxCapabilities ⟨memoryFailure, linuxFailures limits platform files sysfs⟩
          inventory.memoryModules.length)) := by
  obtain ⟨⟨memoryModules, memoryFailure⟩, hmemory⟩ : ∃ found, memory limits files sysfs = .ok found := by
    unfold memory
    cases read files (sysfs ++ ["firmware", "dmi", "tables", "DMI"]) (1024 * 1024) with
    | ok bytes => exact Smbios.exists_parse bytes
    | error error => exact ⟨_, rfl⟩
  have hkeys := uniqueKeys_linuxFinish limits now memoryModules (gatherLinux limits platform files sysfs procfs pci usb)
    ⟨memoryFailure, linuxFailures limits platform files sysfs⟩
  rw [deviceKey_gatherLinux, noKindComesBack_iff (linuxNames_inRuns h)] at hkeys
  refine ⟨_, memoryFailure, ?_, hkeys, fun hnames => hkeys.mpr (noKindComesBack_of_nodup ?_)⟩
  · rw [collectWithIds, hmemory]
    rfl
  · refine (nodup_pciNames hnames).map_on fun name hname name' hname' heq => ?_
    exact h.stableKey_inj (List.mem_append_left _ hname) (List.mem_append_left _ hname') heq

end

end Linux

/-! ## The three platforms -/

/-- Where the stable identifiers tell apart what a scan names, an inventory has distinct keys, which its capabilities
count: on macOS always, also with the displays of the registry; on Windows if and only if of the kinds of its plug and
play entries none comes back under one identifier, other than behind the limit; on Linux if and only if this holds of
the PCI devices, as it does where they have distinct names. -/
theorem inventory_keys_unique_iff (limits : Limits) (platform : Platform) (now : DateTime) :
    (∀ bytes report g, platform.fromSlice bytes = some report → gatherWindows limits platform report = .ok g →
      ∃ inventory, parseWindows limits platform now bytes = .ok inventory ∧
        (UniqueKeys inventory (capabilities "windows-cim" g.failures g.memoryModules.length) ↔
          NoKindComesBack limits (pnpKeys limits platform report) (windowsKeys limits platform report))) ∧
    (∀ bytes report, platform.fromSlice bytes = some report → report.isObject = true →
      ToldApart limits platform.sha256 (Macos.macosNames limits report) →
      ∃ inventory, Macos.parseMacos limits platform now bytes = .ok inventory ∧
        UniqueKeys inventory (capabilities "macos-system-profiler" (Macos.gatherMacos limits platform report).failures
          (Macos.gatherMacos limits platform report).memoryModules.length) ∧
        ∀ entries, ((Macos.complete limits platform now entries inventory).devices.map deviceKey).Nodup) ∧
    ∀ files sysfs procfs pci usb,
      ToldApart limits platform.sha256 (Linux.linuxNames limits platform files sysfs procfs pci) →
      ∃ inventory memoryFailure,
        Linux.collectWithIds limits platform files now sysfs procfs pci usb = .ok inventory ∧
        (UniqueKeys inventory (linuxCapabilities ⟨memoryFailure, Linux.linuxFailures limits platform files sysfs⟩
            inventory.memoryModules.length) ↔
          NoKindComesBack limits
            ((Linux.pciNames limits platform files sysfs pci).map (stableKey limits platform.sha256))
            ((Linux.linuxNames limits platform files sysfs procfs pci).map (stableKey limits platform.sha256))) ∧
        (((Linux.pciPlaces files sysfs).map Linux.fileName).Nodup →
          UniqueKeys inventory (linuxCapabilities ⟨memoryFailure, Linux.linuxFailures limits platform files sysfs⟩
            inventory.memoryModules.length)) := by
  refine ⟨fun bytes report g => uniqueKeys_parseWindows now, ?_, ?_⟩
  · intro bytes report hreport hobject h
    obtain ⟨inventory, hparse, hkeys⟩ := Macos.uniqueKeys_parseMacos now hreport hobject h
    exact ⟨inventory, hparse, hkeys, fun entries => Macos.nodup_complete now entries hkeys.unique⟩
  · exact fun files sysfs procfs pci usb => Linux.uniqueKeys_collectWithIds now sysfs procfs pci usb

/-- A plug and play device of class `Monitor`. -/
def pnpEntry (name : String) : Value :=
  .object [("PNPDeviceID", .string "DISPLAY\\1"), ("Name", .string name), ("PNPClass", .string "Monitor")]

/-- The report names one display with each of these names. -/
def displayNamed (names : List String) : Value :=
  .object [("memory", .array []), ("pnp", .array (names.map pnpEntry)), ("monitors", .array []), ("sound", .array []),
    ("errors", .object [])]

/-- Two displays at one adapter, and a speaker. -/
def macosSample : Value :=
  .object [("SPDisplaysDataType", .array [.object [("spdisplays_ndrvs", .array [.null, .null])]]),
    ("SPAudioDataType", .array [.object [("_name", .string "Speaker")]])]

def samplePlatform : Platform where
  sha256 := id
  parseF64 _ := none
  fromSlice
    | [] => some (displayNamed ["Thunderbolt", "PnP", "Thunderbolt"])
    | [_] => some (displayNamed ["Thunderbolt", "PnP"])
    | _ => some macosSample

/-- Two USB controllers. -/
def sampleFiles : Linux.Files where
  readDir path :=
    if path = ["sys", "bus", "pci", "devices"] then .ok [.ok "0000:00:1f.3", .ok "0000:00:14.0"] else .error .notFound
  contents path := if path.getLast? = some "class" then .ok (utf8 "0x0c0330".toList) else .error .notFound
  readLink _ := none
  canonicalize path :=
    if ["sys", "bus", "pci", "devices"].isPrefixOf path then some (["sys", "devices", "pci0000:00"] ++ path.drop 4)
    else some path

theorem sample_keys_unique :
    (∃ inventory capabilities, parseWindows roomyLimits samplePlatform 0 [1] = .ok inventory ∧
      UniqueKeys inventory capabilities) ∧
    (∃ inventory capabilities, Macos.parseMacos roomyLimits samplePlatform 0 [1, 2] = .ok inventory ∧
      UniqueKeys inventory capabilities) ∧
    ∃ inventory capabilities, Linux.collectWithIds roomyLimits samplePlatform sampleFiles 0 ["sys"] ["proc"]
      Linux.Ids.default Linux.Ids.default = .ok inventory ∧ UniqueKeys inventory capabilities := by
  obtain ⟨hwindows, hmacos, hlinux⟩ := inventory_keys_unique_iff roomyLimits samplePlatform 0
  have hinjective : Function.Injective samplePlatform.sha256 := Function.injective_id
  refine ⟨?_, ?_, ?_⟩
  · obtain ⟨inventory, hparse, hkeys⟩ := hwindows [1] (displayNamed ["Thunderbolt", "PnP"]) _ rfl rfl
    have hdistinct : (pnpKeys roomyLimits samplePlatform (displayNamed ["Thunderbolt", "PnP"])).Nodup := by
      decide +kernel
    exact ⟨inventory, _, hparse, hkeys.mpr (noKindComesBack_of_nodup hdistinct)⟩
  · have hnames : ToldApart roomyLimits samplePlatform.sha256 (Macos.macosNames roomyLimits macosSample) :=
      toldApart_of_injective hinjective fun name hname => by
        rw [Macos.head_macosNames hname]
        decide
    obtain ⟨inventory, hparse, hkeys, -⟩ := hmacos [1, 2] macosSample rfl rfl hnames
    exact ⟨inventory, _, hparse, hkeys⟩
  · have hnames : ToldApart roomyLimits samplePlatform.sha256
        (Linux.linuxNames roomyLimits samplePlatform sampleFiles ["sys"] ["proc"] Linux.Ids.default) :=
      toldApart_of_injective hinjective fun name hname => Linux.head_linuxNames hname
    obtain ⟨inventory, memoryFailure, hcollect, -, hkeys⟩ := hlinux sampleFiles ["sys"] ["proc"] Linux.Ids.default
      Linux.Ids.default hnames
    have hdistinct : ((Linux.pciPlaces sampleFiles ["sys"]).map Linux.fileName).Nodup := by
      decide +kernel
    exact ⟨inventory, _, hcollect, hkeys hdistinct⟩

/-- The display is there twice with one kind, which is counted twice. -/
theorem thrice_named_twice_kept :
    ((parseWindows roomyLimits samplePlatform 0 []).toOption.map fun inventory => inventory.devices.map deviceKey) =
      some [("DISPLAY\\1", .thunderbolt), ("DISPLAY\\1", .monitor), ("DISPLAY\\1", .thunderbolt)] ∧
    ∀ inventory capabilities, parseWindows roomyLimits samplePlatform 0 [] = .ok inventory →
      ¬ UniqueKeys inventory capabilities := by
  have hkeys : ((parseWindows roomyLimits samplePlatform 0 []).toOption.map fun inventory =>
      inventory.devices.map deviceKey) =
      some [("DISPLAY\\1", .thunderbolt), ("DISPLAY\\1", .monitor), ("DISPLAY\\1", .thunderbolt)] := by
    decide +kernel
  refine ⟨hkeys, fun inventory capabilities hparse hunique => ?_⟩
  rw [hparse] at hkeys
  have hlist : inventory.devices.map deviceKey = _ := Option.some.inj hkeys
  have hnodup := hunique.unique
  rw [hlist] at hnodup
  revert hnodup
  decide

end NativeInventory

end Xsoc
