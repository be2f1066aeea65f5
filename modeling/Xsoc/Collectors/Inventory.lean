import Xsoc.Bounding.Runs
import Xsoc.Report.Records

/-!
# The hardware inventory

The devices of an inventory come from several native sources, which may name one device more than once. They are sorted
by their identifier, and of neighbours with one identifier and kind the first one is kept.

* `Hardware.text`, `firmwareText`, `stableId` : the texts of an inventory;
* `capability`, `finish`, `linuxFinish` : the end of a scan, on Windows and macOS and on Linux;
* `UniqueKeys` : no identifier and kind is there twice, and the capabilities count the devices;
* `NoKindComesBack` : of the kinds that are named by an identifier, each comes in one run;
* `uniqueKeys_finish`, `uniqueKeys_linuxFinish` : the latter is what the former takes;
* `noKindComesBack_iff` : what is added in runs of its own does not matter for that.
-/

set_option autoImplicit false

namespace Xsoc

open Bounding

/-! ## Texts -/

/-- `hardware::text` -/
def Hardware.text (limits : Limits) (value : String) : Option String :=
  let value := String.ofList ((trim value.toList).filter fun c => !isControl c)
  let value := truncateUtf8 limits.maxHardwareText value
  if value.toList.isEmpty then none else some value

structure Inventory where
  collectedAt : Option DateTime
  memoryModules : List MemoryModule
  devices : List HardwareDevice
  capabilities : List Capability

namespace NativeInventory

/-- `NAMES` -/
def names : List String :=
  ["hardware.memory", "hardware.thunderbolt", "hardware.monitors", "hardware.bluetooth", "hardware.usb_controllers",
    "hardware.usb_devices", "hardware.audio"]

/-- `Inventory::empty` -/
def empty (kind : CapabilityErrorKind) (message : String) : Inventory where
  collectedAt := none
  memoryModules := []
  devices := []
  capabilities := names.map fun name => .unavailable name "platform-inventory" kind message

/-- What firmware says when it has nothing to say. -/
def fillers : List String :=
  ["unknown", "not specified", "not available", "none", "n/a", "other", "to be filled by o.e.m.", "default string"]

/-- `firmware_text` -/
def firmwareText (limits : Limits) (value : String) : Option String := do
  let value ← Hardware.text limits value
  if fillers.contains (String.ofList (value.toList.map Char.toLower)) then none else some value

/-- `memory_type` -/
def memoryType : Nat → Option String
  | 3 => some "DRAM"
  | 15 => some "SDRAM"
  | 18 => some "DDR"
  | 19 => some "DDR2"
  | 20 => some "DDR2 FB-DIMM"
  | 24 => some "DDR3"
  | 25 => some "FBD2"
  | 26 => some "DDR4"
  | 27 => some "LPDDR"
  | 28 => some "LPDDR2"
  | 29 => some "LPDDR3"
  | 30 => some "LPDDR4"
  | 32 => some "HBM"
  | 33 => some "HBM2"
  | 34 => some "DDR5"
  | 35 => some "LPDDR5"
  | 36 => some "HBM3"
  | _ => none

/-- `stable_id`: a text that does not fit stands for itself by its digest. -/
def stableId (limits : Limits) (sha256 : List UInt8 → List UInt8) (value : String) : String :=
  if byteLen value.toList ≤ limits.maxHardwareText ∧ value.toList.any isControl = false ∧ value.toList ≠ [] then value
  else String.ofList ("inventory:".toList ++ hex (sha256 (utf8 value.toList)))

/-- `device` -/
def device (limits : Limits) (sha256 : List UInt8 → List UInt8) (id : String) (kind : HardwareDeviceKind)
    (name source : String) : HardwareDevice where
  id := stableId limits sha256 id
  kind := kind
  name := (Hardware.text limits name).getD "unknown"
  model := none
  vendor := none
  vendorId := none
  productId := none
  revision := none
  version := none
  bus := none
  driver := none
  connection := none
  speedMbps := none
  source := source

/-! ## The end of a scan -/

instance lawful_kind : LawfulBEq HardwareDeviceKind where
  rfl {kind} := by cases kind <;> rfl
  eq_of_beq {kind kind'} h := by
    cases kind <;> cases kind' <;> first | rfl | cases h

def capability (name source : String) (count : Nat) (failure : Option CapabilityErrorKind) : Capability :=
  match failure with
  | some kind =>
    .unavailable name source kind "some inventory data could not be read; readable devices are retained"
  | none =>
    if count = 0 then .unavailable name source .notPresent "no devices exposed by this provider"
    else .ofAvailable name source

/-- `NAMES`, but for the memory, and the kinds they are of. -/
def deviceNames : List (String × HardwareDeviceKind) :=
  [("hardware.thunderbolt", .thunderbolt), ("hardware.monitors", .monitor), ("hardware.bluetooth", .bluetooth),
    ("hardware.usb_controllers", .usbController), ("hardware.usb_devices", .usbDevice), ("hardware.audio", .audio)]

/-- What went wrong with the memory, and with the devices of each kind. -/
structure Failures where
  memory : Option CapabilityErrorKind
  devices : HardwareDeviceKind → Option CapabilityErrorKind

/-- The capabilities of `finish`, by these counts. -/
def capabilities (source : String) (failures : Failures) (modules : Nat) (count : HardwareDeviceKind → Nat) :
    List Capability :=
  capability "hardware.memory" source modules failures.memory ::
    deviceNames.map fun (name, kind) => capability name source (count kind) (failures.devices kind)

/-- Those of a Linux scan. The bus of a kind can be absent while a device of it is identified. -/
def linuxCapabilities (failures : Failures) (modules : Nat) (count : HardwareDeviceKind → Nat) : List Capability :=
  capability "hardware.memory" "linux-smbios" modules failures.memory ::
    deviceNames.map fun (name, kind) => capability name "linux-sysfs" (count kind)
      ((failures.devices kind).filter fun failure => decide (count kind = 0) || failure != .notPresent)

/-- What the duplicates of a device have in common: its identifier and its kind. -/
abbrev Key := String × HardwareDeviceKind

def deviceKey (d : HardwareDevice) : Key := (d.id, d.kind)

theorem device_same (limits : Limits) (sha256 : List UInt8 → List UInt8) (id : String) (kind : HardwareDeviceKind)
    (name source : String) :
    (deviceKey (device limits sha256 id kind name source), (device limits sha256 id kind name source).source) =
      ((stableId limits sha256 id, kind), source) :=
  rfl

/-- The sort, the removal of duplicates and the cut. -/
def finishDevices (limits : Limits) (devices : List HardwareDevice) : List HardwareDevice :=
  (dedupAdjacent deviceKey (sortBy (fun d => textKey d.id) devices)).take limits.maxHardwareDevices

def countOf (devices : List HardwareDevice) (kind : HardwareDeviceKind) : Nat :=
  (devices.filter fun d => d.kind == kind).length

def finish (limits : Limits) (now : DateTime) (memoryModules : List MemoryModule) (devices : List HardwareDevice)
    (source : String) (failures : Failures) : Inventory :=
  let devices := finishDevices limits devices
  { collectedAt := some now
    memoryModules := memoryModules
    devices := devices
    capabilities := capabilities source failures memoryModules.length (countOf devices) }

/-- The end of `linux::collect`. -/
def linuxFinish (limits : Limits) (now : DateTime) (memoryModules : List MemoryModule) (devices : List HardwareDevice)
    (failures : Failures) : Inventory :=
  let devices := finishDevices limits devices
  { collectedAt := some now
    memoryModules := memoryModules
    devices := devices
    capabilities := linuxCapabilities failures memoryModules.length (countOf devices) }

/-! ## The keys of the devices -/

/-- How many devices of a kind there are, as their keys tell them apart. -/
def distinctOf (devices : List HardwareDevice) (kind : HardwareDeviceKind) : Nat :=
  ((devices.filter fun d => d.kind == kind).map deviceKey).dedup.length

/-- No key is there twice, and the capabilities are those of the number of distinct devices of each kind. -/
structure UniqueKeys (inventory : Inventory) (capabilities : (HardwareDeviceKind → Nat) → List Capability) :
    Prop where
  unique : (inventory.devices.map deviceKey).Nodup
  counted : inventory.capabilities = capabilities (distinctOf inventory.devices)

/-- The key of what a scan names. -/
def stableKey (limits : Limits) (sha256 : List UInt8 → List UInt8) (name : Key) : Key :=
  (stableId limits sha256 name.1, name.2)

/-- Of these names, those that differ have different stable identifiers. -/
def ToldApart (limits : Limits) (sha256 : List UInt8 → List UInt8) (names : List Key) : Prop :=
  ∀ name ∈ names, ∀ name' ∈ names, stableId limits sha256 name.1 = stableId limits sha256 name'.1 → name.1 = name'.1

theorem ToldApart.stableKey_inj {limits : Limits} {sha256 : List UInt8 → List UInt8} {names : List Key}
    (h : ToldApart limits sha256 names) {name name' : Key} (hname : name ∈ names) (hname' : name' ∈ names)
    (heq : stableKey limits sha256 name = stableKey limits sha256 name') : name = name' := by
  rw [stableKey, stableKey, Prod.mk.injEq] at heq
  exact Prod.ext (h name hname name' hname' heq.1) heq.2

/-- Only the digest can give one stable identifier to two texts that do not look like one. -/
theorem stableId_eq {limits : Limits} {sha256 : List UInt8 → List UInt8} {id id' : String}
    (hid : id.toList.head? ≠ some 'i') (hid' : id'.toList.head? ≠ some 'i') (hne : id ≠ id')
    (h : stableId limits sha256 id = stableId limits sha256 id') :
      sha256 (utf8 id.toList) = sha256 (utf8 id'.toList) := by
  have hmixed {id : String} (hid : id.toList.head? ≠ some 'i') (cs : List Char) :
      id ≠ String.ofList ("inventory:".toList ++ cs) := by
    intro heq
    refine hid ?_
    rw [heq, String.toList_ofList]
    rfl
  unfold stableId at h
  split at h
  · split at h
    · exact absurd h hne
    · exact absurd h (hmixed hid _)
  · split at h
    · exact absurd h.symm (hmixed hid' _)
    · have hhex := List.append_cancel_left (String.ofList_injective h)
      have hbytes := congrArg unhex hhex
      rw [unhex_hex, unhex_hex] at hbytes
      exact Option.some.inj hbytes

/-- So a digest that tells all texts apart tells such names apart. -/
theorem toldApart_of_injective {limits : Limits} {sha256 : List UInt8 → List UInt8} {names : List Key}
    (h : Function.Injective sha256) (hnames : ∀ name ∈ names, name.1.toList.head? ≠ some 'i') :
    ToldApart limits sha256 names := by
  intro name hname name' hname' heq
  by_contra hne
  have hdigest := h (stableId_eq (hnames name hname) (hnames name' hname') hne heq)
  exact hne (String.toList_injective (utf8_injective hdigest))

/-- The kinds of what is named by an identifier, in the order it is named. -/
def kindsAt (id : String) (keys : List Key) : List HardwareDeviceKind :=
  (keys.filter fun key => decide (key.1 = id)).map Prod.snd

theorem mem_kindsAt {id : String} {kind : HardwareDeviceKind} {keys : List Key} :
    kind ∈ kindsAt id keys ↔ (id, kind) ∈ keys := by
  simp [kindsAt]

theorem kindsAt_append (id : String) (keys keys' : List Key) :
    kindsAt id (keys ++ keys') = kindsAt id keys ++ kindsAt id keys' := by
  rw [kindsAt, List.filter_append, List.map_append]
  rfl

/-- How many places of an inventory the smaller identifiers take: each has one for each run of equal keys. -/
def placesBelow (id : String) (keys : List Key) : Nat :=
  runsBelow (fun key : Key => textKey key.1) Prod.snd keys (textKey id)

/-- Among the kinds that `named` has under one identifier, none comes back after another one; but for what is cut off,
because what comes before it in `all` fills the inventory. -/
def NoKindComesBack (limits : Limits) (named all : List Key) : Prop :=
  ∀ id before kind after, kindsAt id named = before ++ kind :: after → kind ∈ before → before.getLast? ≠ some kind →
    limits.maxHardwareDevices ≤ placesBelow id all + (dedupAdjacent (fun kind => kind) before).length

theorem textKey_inj {s t : String} : textKey s = textKey t ↔ s = t :=
  ⟨textKey_injective, congrArg textKey⟩

/-- The key with the bytes of the identifier tells apart what the key does. -/
theorem keyed_iff (key key' : Key) :
    keyed (fun key : Key => textKey key.1) Prod.snd key = keyed (fun key : Key => textKey key.1) Prod.snd key' ↔
      key = key' := by
  rw [keyed, keyed, Prod.mk.injEq, textKey_inj, Prod.ext_iff]

/-- The keys of what is left are those that are left of the keys. -/
theorem finishDevices_keys (limits : Limits) (devices : List HardwareDevice) :
    (finishDevices limits devices).map deviceKey =
      (dedupAdjacent (fun key => key) (sortBy (fun key => textKey key.1) (devices.map deviceKey))).take
        limits.maxHardwareDevices := by
  have hsort : sortBy (fun key : Key => textKey key.1) (devices.map deviceKey) =
      (sortBy (fun d => textKey d.id) devices).map deviceKey := sortBy_map (fun _ => rfl) devices
  rw [finishDevices, List.map_take, hsort, dedupAdjacent_map fun _ => rfl]

/-- What is named by one identifier has this identifier throughout. -/
theorem filter_eq_map_kindsAt (id : String) (keys : List Key) :
    keys.filter (fun key => decide (key.1 = id)) = (kindsAt id keys).map fun kind => (id, kind) := by
  rw [kindsAt, List.map_map]
  have hsame : ∀ key ∈ keys.filter (fun key => decide (key.1 = id)), (id, key.2) = key := by
    intro key hkey
    rw [← of_decide_eq_true (List.mem_filter.mp hkey).2]
  exact (List.map_id _).symm.trans (List.map_congr_left fun key hkey => (hsame key hkey).symm)

/-- A kind comes back in the one sense where it does in the other. -/
theorem comesBack_iff (id : String) (keys : List Key) (n : Nat) :
    (∀ before key after, ComesBack (fun key : Key => textKey key.1) Prod.snd keys (textKey id) before key after →
      n ≤ runsBelow (fun key : Key => textKey key.1) Prod.snd keys (textKey id) +
        (dedupAdjacent (fun key : Key => key) before).length) ↔
    ∀ before kind after, kindsAt id keys = before ++ kind :: after → kind ∈ before → before.getLast? ≠ some kind →
      n ≤ placesBelow id keys + (dedupAdjacent (fun kind => kind) before).length := by
  have hgroup (inst : DecidableEq (List Nat)) :
      (keys.filter fun key => @decide (textKey key.1 = textKey id) (inst _ _)) =
        (kindsAt id keys).map fun kind => (id, kind) := by
    rw [← filter_eq_map_kindsAt]
    simp only [textKey_inj]
  have hlength (before : List HardwareDeviceKind) :
      dedupAdjacent (fun key : Key => key) (before.map fun kind => (id, kind)) =
        (dedupAdjacent (fun kind => kind) before).map fun kind => (id, kind) := by
    have hcongr : dedupAdjacent (fun kind => ((id, kind) : Key)) before = dedupAdjacent (fun kind => kind) before :=
      dedupAdjacent_congr (fun kind kind' => by rw [Prod.mk.injEq, and_iff_right rfl]) before
    rw [← hcongr]
    exact dedupAdjacent_map (fun _ => rfl) before
  have hkinds (before : List HardwareDeviceKind) :
      (before.map fun kind => ((id, kind) : Key)).map Prod.snd = before := by
    rw [List.map_map]
    exact List.map_id before
  constructor
  · intro h before kind after hsplit hmem hlast
    have hback := h (before.map fun kind => (id, kind)) (id, kind) (after.map fun kind => (id, kind)) ⟨?_, ?_, ?_⟩
    · rwa [hlength, List.length_map] at hback
    · refine (hgroup _).trans ?_
      rw [hsplit, List.map_append, List.map_cons]
    · rwa [hkinds]
    · rwa [← List.getLast?_map, hkinds]
  · intro h before key after hback
    have hsplit := (hgroup _).symm.trans hback.split
    obtain ⟨before', rest, hkinds', rfl, hrest⟩ := List.map_eq_append_iff.mp hsplit
    obtain ⟨kind, after', rfl, rfl, rfl⟩ := List.map_eq_cons_iff.mp hrest
    have hearlier := hback.earlier
    have hlast := hback.last
    rw [hkinds] at hearlier
    rw [← List.getLast?_map, hkinds] at hlast
    have hn := h before' kind after' hkinds' hearlier hlast
    rwa [hlength, List.length_map]

theorem nodup_finishDevices (limits : Limits) (devices : List HardwareDevice) :
    ((finishDevices limits devices).map deviceKey).Nodup ↔
      NoKindComesBack limits (devices.map deviceKey) (devices.map deviceKey) := by
  have hdedup (inst : DecidableEq (List Nat × HardwareDeviceKind)) (l : List Key) :
      @dedupAdjacent _ _ inst (keyed (fun key : Key => textKey key.1) Prod.snd) l = dedupAdjacent (fun key => key) l :=
    dedupAdjacent_congr keyed_iff l
  have hnodup (l : List Key) : (l.map (keyed (fun key : Key => textKey key.1) Prod.snd)).Nodup ↔ l.Nodup := by
    simp only [List.Nodup, List.pairwise_map, ne_eq, keyed_iff]
  have hruns := @nodup_runs_sortBy _ _ _ _ _ (fun key : Key => textKey key.1) Prod.snd (devices.map deviceKey)
    limits.maxHardwareDevices
  simp only [hdedup, hnodup] at hruns
  rw [finishDevices_keys, hruns]
  constructor
  · intro h id
    exact (comesBack_iff id _ _).mp (h (textKey id))
  · intro h k before key after hback
    have hk : textKey key.1 = k := by
      have hmem : key ∈ before ++ key :: after := by simp
      rw [← hback.split] at hmem
      simpa using (List.mem_filter.mp hmem).2
    subst hk
    exact (comesBack_iff key.1 _ _).mpr (h key.1) before key after hback

/-- Behind the kinds that `named` has under an identifier, further ones come in runs of their own. -/
def FollowedInRuns (named all : List Key) : Prop :=
  ∀ id, ∃ rest, kindsAt id all = kindsAt id named ++ rest ∧ InRuns rest ∧ (kindsAt id named).Disjoint rest

/-- What comes in runs of its own does not come back. -/
theorem noKindComesBack_iff {limits : Limits} {named all : List Key} (h : FollowedInRuns named all) :
    NoKindComesBack limits all all ↔ NoKindComesBack limits named all := by
  constructor
  · intro hall id before kind after hsplit hmem hlast
    obtain ⟨rest, hrest, -, -⟩ := h id
    refine hall id before kind (after ++ rest) ?_ hmem hlast
    rw [hrest, hsplit, List.append_assoc, List.cons_append]
  · intro hnamed id before kind after hsplit hmem hlast
    obtain ⟨rest, hrest, hruns, hdisjoint⟩ := h id
    obtain ⟨after', hnamed'⟩ := comesBack_append hruns hdisjoint (hrest.symm.trans hsplit) hmem hlast
    exact hnamed id before kind after' hnamed' hmem hlast

/-- Where no key is named twice, none comes back. -/
theorem noKindComesBack_of_nodup {limits : Limits} {named all : List Key} (h : named.Nodup) :
    NoKindComesBack limits named all := by
  intro id before kind after hsplit hmem
  have hkeys : ((kindsAt id named).map fun kind => (id, kind)).Nodup := by
    rw [← filter_eq_map_kindsAt]
    exact h.sublist List.filter_sublist
  have hnodup := hkeys.of_map
  rw [hsplit, List.nodup_append] at hnodup
  exact absurd rfl (hnodup.2.2 kind hmem kind List.mem_cons_self)

/-- Where the keys are distinct, the devices of a kind are as many as their keys. -/
theorem countOf_eq_distinctOf {devices : List HardwareDevice} (h : (devices.map deviceKey).Nodup) :
    countOf devices = distinctOf devices := by
  funext kind
  have hkind : ((devices.filter fun d => d.kind == kind).map deviceKey).Nodup :=
    h.sublist (List.filter_sublist.map deviceKey)
  rw [distinctOf, hkind.dedup, List.length_map, countOf]

/-- What a scan on Windows or macOS ends with has unique keys if and only if no kind comes back. -/
theorem uniqueKeys_finish (limits : Limits) (now : DateTime) (memoryModules : List MemoryModule)
    (devices : List HardwareDevice) (source : String) (failures : Failures) :
    UniqueKeys (finish limits now memoryModules devices source failures)
      (capabilities source failures memoryModules.length) ↔
      NoKindComesBack limits (devices.map deviceKey) (devices.map deviceKey) := by
  rw [← nodup_finishDevices]
  constructor
  · exact fun h => h.unique
  · intro h
    exact ⟨h, congrArg (capabilities source failures memoryModules.length) (countOf_eq_distinctOf h)⟩

/-- The same on Linux. -/
theorem uniqueKeys_linuxFinish (limits : Limits) (now : DateTime) (memoryModules : List MemoryModule)
    (devices : List HardwareDevice) (failures : Failures) :
    UniqueKeys (linuxFinish limits now memoryModules devices failures)
      (linuxCapabilities failures memoryModules.length) ↔
      NoKindComesBack limits (devices.map deviceKey) (devices.map deviceKey) := by
  rw [← nodup_finishDevices]
  constructor
  · exact fun h => h.unique
  · intro h
    exact ⟨h, congrArg (linuxCapabilities failures memoryModules.length) (countOf_eq_distinctOf h)⟩

end NativeInventory

end Xsoc
