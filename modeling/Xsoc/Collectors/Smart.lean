import Mathlib.Data.List.Nodup
import Xsoc.Collectors.Document
import Xsoc.Collectors.Inventory
import Xsoc.Json
import Xsoc.Report.Rendering

/-!
# The health of the disks

`smartctl` lists the devices, and each one is then asked by its name and, behind a controller that several disks share,
by its type. The two are also what the report names the disk by.

* `deviceIdentity` : that name; `selectorOf` : what is asked of a listed device;
* `visit`, `collectWithRunner` : the code, over a runner of the program; `logged` : a runner that keeps the calls;
* `accepted_eq`, `calls_eq` : a run asks once of each selector, up to the deadline;
* `Clash` : a name that spells another selector's name and type; `deviceIdentity_eq_iff` : the only way to be named
  alike;
* `smart_identities_distinct_iff` : the disks have distinct identities as long as no two selectors clash.
-/

set_option autoImplicit false

namespace Xsoc

open Bounding

namespace Smart

/-- What is asked of `smartctl`: the name of a device, and its type where it has one. -/
abbrev Selector := String × Option String

/-- What is outside of the client. -/
structure Platform where
  sha256 : List UInt8 → List UInt8
  size : ∀ bytes, (sha256 bytes).length = 32
  /-- The greatest `critical_warning` that a report has room for. -/
  maxCriticalWarning : Nat

/-- The program that is run: what it answers to these arguments, with its exit code, and the clock. -/
structure Runner (σ : Type) where
  run : σ → List String → Except CapabilityErrorKind (Value × Int32) × σ
  expired : σ → Bool
  now : σ → DateTime

section

variable (limits : Limits) (platform : Platform)

/-! ## The code -/

/-- `hardware::text`, of a string. -/
def text (value : Value) : Option String := value.asStr.bind (Hardware.text limits)

def unavailable (kind : CapabilityErrorKind) (message : String) : Capability :=
  Capability.unavailable "hardware.disk_health" "smartctl-json" kind message

/-- `serde_json::to_vec(&(name, kind))` -/
def toVec (name kind : String) : List UInt8 :=
  utf8 ('[' :: (Json.quote name.toList ++ ',' :: (Json.quote kind.toList ++ [']'])))

/-- `{name} [type={kind}]` -/
def bracketed (name kind : String) : String := name ++ " [type=" ++ kind ++ "]"

/-- `smartctl:{digest}` -/
def hashed (name kind : String) : String :=
  "smartctl:" ++ String.ofList (hex (platform.sha256 (toVec name kind)))

/-- `device_identity` -/
def deviceIdentity : Selector → String
  | (name, none) => name
  | (name, some kind) =>
    if byteLen (bracketed name kind).toList ≤ limits.maxHardwareText then bracketed name kind
    else hashed platform name kind

/-- Whether a name or a type can be an argument of the program. -/
def Plain (s : String) : Prop :=
  s.toList ≠ [] ∧ byteLen s.toList ≤ limits.maxHardwareText ∧ s.toList.any isControl = false

instance (s : String) : Decidable (Plain limits s) := inferInstanceAs (Decidable (_ ∧ _))

def nameOf (device : Value) : Option String :=
  (device.field "name").asStr.filter fun name => decide (Plain limits name ∧ name.toList.head? ≠ some '-')

/-- The type, which may be missing, but is a text where it is not. -/
def kindOf (device : Value) : Option (Option String) :=
  match device.get "type" with
  | none => some none
  | some .null => some none
  | some (.string kind) => if Plain limits kind then some (some kind) else none
  | some _ => none

/-- The selector of a listed device. A device without a name is passed over. -/
def selectorOf (device : Value) : Except (Option Capability) Selector :=
  match nameOf limits device with
  | none => .error none
  | some name =>
    match kindOf limits device with
    | none => .error (some (unavailable .invalidData "invalid SMART device type"))
    | some kind => .ok (name, kind)

def scanArgs : List String := ["--scan", "--json"]

def probeArgs : Selector → List String
  | (name, kind) =>
    ["--json", "--info", "--health", "--attributes", "--nocheck=standby,0"] ++
      (match kind with
        | some kind => ["--device", kind]
        | none => []) ++ [name]

/-- `counter`: exact digits, where there are any, go before a number that JSON may have rounded. -/
def counter (v : Value) (key : String) : Option Nat :=
  match (v.get (key ++ "_s")).bind Value.asStr with
  | some s => parseU64 s
  | none => (v.field key).asU64

/-- `nvme_bytes` -/
def nvmeBytes (v : Value) (key : String) : Option Nat :=
  ((counter v key).map (· * 512000)).filter fun n => decide (n < 2 ^ 64)

/-- `smart_error` -/
def smartError (v : Value) : Capability :=
  let denied := (((v.field "smartctl").field "messages").asArray.getD []).any fun m =>
    let s := (toLowercase (((m.field "string").asStr).getD "")).toList
    contains s "permission denied".toList || contains s "access is denied".toList || contains s "access denied".toList
  unavailable (if denied then .permissionDenied else .transient)
    "smartctl could not read all requested data; check device access and driver support"

/-- `parse_disk` -/
def parseDisk (now : DateTime) (device : String) (v : Value) : Option DiskHealth :=
  let nvme := v.field "nvme_smart_health_information_log"
  let passed := (v.field "smart_status").field "passed"
  let temperature := v.field "temperature"
  if passed.isNull && !nvme.isObject && !temperature.isObject then none
  else some
    { device := device
      model := (text limits (v.field "model_name")).or (text limits (v.field "product"))
      serialNumber := text limits (v.field "serial_number")
      protocol := text limits ((v.field "device").field "protocol")
      collectedAt := now
      healthy := passed.asBool
      temperatureCelsius := (temperature.field "current").asF64.or (nvme.field "temperature").asF64
      percentageUsed := (nvme.field "percentage_used").asF64
      availableSparePercent := (nvme.field "available_spare").asF64
      criticalWarning := (counter nvme "critical_warning").filter fun n => decide (n ≤ platform.maxCriticalWarning)
      powerOnHours := (counter (v.field "power_on_time") "hours").or (counter nvme "power_on_hours")
      powerCycles := (counter v "power_cycle_count").or (counter nvme "power_cycles")
      unsafeShutdowns := counter nvme "unsafe_shutdowns"
      mediaErrors := counter nvme "media_errors"
      bytesRead := nvmeBytes nvme "data_units_read"
      bytesWritten := nvmeBytes nvme "data_units_written"
      source := "smartctl-json" }

/-- How far the collection has come. -/
structure Progress (σ : Type) where
  disks : List DiskHealth
  /-- The first one. -/
  failure : Option Capability
  seen : List Selector
  state : σ

variable {σ : Type} (runner : Runner σ)

/-- The question to the program, and what becomes of its answer. -/
def probe (selector : Selector) (p : Progress σ) : Progress σ :=
  match runner.run p.state (probeArgs selector) with
  | (.ok (json, code), state) =>
    { disks := p.disks ++ (parseDisk limits platform (runner.now state) (deviceIdentity limits platform selector)
        json).toList
      failure := if code &&& 7 ≠ 0 then p.failure.or (some (smartError json)) else p.failure
      seen := p.seen ++ [selector]
      state := state }
  | (.error kind, state) =>
    { p with
      failure := p.failure.or (some (unavailable kind
        "one or more SMART devices could not be read within the collection deadline"))
      seen := p.seen ++ [selector]
      state := state }

/-- The devices one after the other. Members of a RAID share a path, and a path that was asked before with the same type
is not asked again. The clock is looked at after each question. -/
def visit : List Value → Progress σ → Progress σ
  | [], p => p
  | device :: devices, p =>
    match selectorOf limits device with
    | .error failure => visit devices { p with failure := p.failure.or failure }
    | .ok selector =>
      if selector ∈ p.seen then visit devices p
      else
        let p := probe limits platform runner selector p
        if runner.expired p.state then p else visit devices p

/-- What is reported of the devices that were visited. -/
def conclude (devices : List Value) (p : Progress σ) : (List DiskHealth × Capability) × σ :=
  let failure := if limits.maxHardwareDisks < devices.length then
      p.failure.or (some (unavailable .invalidData "SMART device count exceeds report limit"))
    else p.failure
  let capability := failure.getD <|
    if p.disks.isEmpty then
      unavailable .notPresent "no readable SMART health data; devices may be asleep or inaccessible"
    else Capability.ofAvailable "hardware.disk_health" "smartctl-json"
  ((p.disks, capability), p.state)

/-- `collect_with_runner` -/
def collectWithRunner (state : σ) : (List DiskHealth × Capability) × σ :=
  match runner.run state scanArgs with
  | (.error kind, state) => (([], unavailable kind "SMART device scan failed or timed out"), state)
  | (.ok (scan, code), state) =>
    if code &&& 7 ≠ 0 then (([], smartError scan), state)
    else
      match (scan.field "devices").asArray with
      | some devices =>
        conclude limits devices
          (visit limits platform runner (devices.take limits.maxHardwareDisks) ⟨[], none, [], state⟩)
      | none =>
        if (scan.field "devices").isNull then (([], unavailable .notPresent "no SMART devices found"), state)
        else (([], unavailable .invalidData "invalid SMART device list"), state)

end

/-! ## Names alike -/

section

variable (limits : Limits) (platform : Platform)

/-- Two selectors of which one spells what the other one is named by: a name with brackets, or with the digest of a name
and type that are too long; or two names and types that are split at different brackets. -/
inductive Clash : Selector → Selector → Prop
  | bracketed {name kind : String} (hshort : byteLen (bracketed name kind).toList ≤ limits.maxHardwareText) :
    Clash (bracketed name kind, none) (name, some kind)
  | hashed {name kind : String} (hlong : limits.maxHardwareText < byteLen (bracketed name kind).toList) :
    Clash (hashed platform name kind, none) (name, some kind)
  | shifted {name between kind : String}
    (hshort : byteLen (bracketed name (between ++ " [type=" ++ kind)).toList ≤ limits.maxHardwareText) :
    Clash (name ++ " [type=" ++ between, some kind) (name, some (between ++ " [type=" ++ kind))

/-- The digest tells apart the selectors that are named by it. -/
def CollisionFree (selectors : List Selector) : Prop :=
  ∀ name kind name' kind', (name, some kind) ∈ selectors → (name', some kind') ∈ selectors →
    limits.maxHardwareText < byteLen (bracketed name kind).toList →
    limits.maxHardwareText < byteLen (bracketed name' kind').toList →
    platform.sha256 (toVec name kind) = platform.sha256 (toVec name' kind') → toVec name kind = toVec name' kind'

end

variable {limits : Limits} {platform : Platform}

theorem toList_bracketed (name kind : String) :
    (bracketed name kind).toList = name.toList ++ ' ' :: "[type=".toList ++ (kind.toList ++ [']']) := by
  rw [bracketed, String.toList_append, String.toList_append, String.toList_append, List.append_assoc]
  rfl

theorem toList_hashed (name kind : String) :
    (hashed platform name kind).toList = "smartctl:".toList ++ hex (platform.sha256 (toVec name kind)) := by
  rw [hashed, String.toList_append]
  exact congrArg ("smartctl:".toList ++ ·) String.toList_ofList

theorem length_digest (name kind : String) : (hex (platform.sha256 (toVec name kind))).length = 64 := by
  rw [length_hex, platform.size]

theorem byteLen_hashed (name kind : String) : byteLen (hashed platform name kind).toList = 73 := by
  have hmark : byteLen "smartctl:".toList = 9 := by decide
  rw [toList_hashed, byteLen_append, hmark, byteLen_eq_length fun c hc => utf8Size_of_isLowerHex
    (isLowerHex_of_mem_hex hc), length_digest]

/-- One ends with a bracket, the other one with a digit. -/
theorem bracketed_ne_hashed (name kind name' kind' : String) : bracketed name kind ≠ hashed platform name' kind' := by
  intro h
  have hlist := congrArg (fun s => s.toList.getLast?) h
  have hdigits : hex (platform.sha256 (toVec name' kind')) ≠ [] :=
    List.ne_nil_of_length_pos (by rw [length_digest]; omega)
  simp only [toList_bracketed, toList_hashed] at hlist
  rw [← List.append_assoc, List.getLast?_concat, List.getLast?_append_of_ne_nil _ hdigits] at hlist
  exact absurd (isLowerHex_of_mem_hex (List.mem_of_getLast? hlist.symm)) (by decide)

theorem toVec_injective {name kind name' kind' : String} (hname : Plain limits name) (hkind : Plain limits kind)
    (hname' : Plain limits name') (hkind' : Plain limits kind') (h : toVec name kind = toVec name' kind') :
    name = name' ∧ kind = kind' := by
  have hprintable {s : String} (hs : Plain limits s) : ∀ c ∈ s.toList, 32 ≤ c.toNat := by
    intro c hc
    have hcontrol := List.any_eq_false.mp hs.2.2 c hc
    simp only [isControl, Bool.or_eq_true, decide_eq_true_eq, not_or] at hcontrol
    omega
  have hlist := (List.cons.inj (utf8_injective h)).2
  obtain ⟨hnames, hrest⟩ := Json.quote_append_inj (hprintable hname) (hprintable hname') hlist
  obtain ⟨hkinds, -⟩ := Json.quote_append_inj (hprintable hkind) (hprintable hkind') (List.cons.inj hrest).2
  exact ⟨String.toList_inj.mp hnames, String.toList_inj.mp hkinds⟩

/-- Two selectors that are named by brackets are named alike where one has the brackets of the other one in it. -/
theorem bracketed_eq {name kind name' kind' : String} (h : bracketed name kind = bracketed name' kind') :
    name = name' ∧ kind = kind' ∨
      (∃ between, name = name' ++ " [type=" ++ between ∧ kind' = between ++ " [type=" ++ kind) ∨
        ∃ between, name' = name ++ " [type=" ++ between ∧ kind = between ++ " [type=" ++ kind' := by
  have hlist := congrArg String.toList h
  rw [toList_bracketed, toList_bracketed] at hlist
  have hspell {n n' k k' : String} {between : List Char}
      (hn : n.toList = n'.toList ++ ' ' :: "[type=".toList ++ between)
      (hk : k'.toList ++ [']'] = between ++ ' ' :: "[type=".toList ++ (k.toList ++ [']'])) :
      ∃ between, n = n' ++ " [type=" ++ between ∧ k' = between ++ " [type=" ++ k := by
    obtain ⟨between, rfl⟩ : ∃ s : String, s.toList = between := ⟨String.ofList between, String.toList_ofList⟩
    refine ⟨between, String.toList_inj.mp ?_, String.toList_inj.mp ?_⟩
    · rw [hn, String.toList_append, String.toList_append]
      rfl
    · rw [← List.append_assoc] at hk
      rw [List.append_cancel_right hk, String.toList_append, String.toList_append]
      rfl
  rcases append_mark_eq (by decide) hlist with ⟨hn, hk⟩ | ⟨between, hn, hk⟩ | ⟨between, hn, hk⟩
  · exact Or.inl ⟨String.toList_inj.mp hn, String.toList_inj.mp (List.append_cancel_right hk)⟩
  · exact Or.inr (Or.inl (hspell hn hk))
  · exact Or.inr (Or.inr (hspell hn hk))

theorem Clash.deviceIdentity_eq {s t : Selector} (h : Clash limits platform s t) :
    deviceIdentity limits platform s = deviceIdentity limits platform t := by
  cases h with
  | bracketed hshort => exact (if_pos hshort).symm
  | hashed hlong => exact (if_neg (Nat.not_le.mpr hlong)).symm
  | @shifted name between kind hshort =>
    have hsame : Smart.bracketed (name ++ " [type=" ++ between) kind =
        Smart.bracketed name (between ++ " [type=" ++ kind) := by
      simp only [Smart.bracketed, String.append_assoc]
    show (if _ then _ else _) = (if _ then _ else _)
    rw [hsame, if_pos hshort, if_pos hshort]

theorem Clash.ne {s t : Selector} (h : Clash limits platform s t) : s ≠ t := by
  cases h with
  | bracketed hshort => exact fun heq => by cases (Prod.mk.inj heq).2
  | hashed hlong => exact fun heq => by cases (Prod.mk.inj heq).2
  | @shifted name between kind hshort =>
    intro heq
    have hlen := congrArg (fun s => s.toList.length) (Prod.mk.inj heq).1
    have hmark : " [type=".toList.length = 7 := by decide
    simp only [String.toList_append, List.length_append, hmark] at hlen
    omega

/-- What the code takes for a selector. -/
structure Acceptable (limits : Limits) (selector : Selector) : Prop where
  name : Plain limits selector.1
  kind : ∀ kind, selector.2 = some kind → Plain limits kind

/-- Two selectors are named alike just where they are the same or clash. -/
theorem eq_or_clash {s t : Selector} (hs : Acceptable limits s) (ht : Acceptable limits t)
    (hsha : CollisionFree limits platform [s, t])
    (h : deviceIdentity limits platform s = deviceIdentity limits platform t) :
    s = t ∨ Clash limits platform s t ∨ Clash limits platform t s := by
  obtain ⟨name, kind⟩ := s
  obtain ⟨name', kind'⟩ := t
  -- a name without a type is what the other selector is named by
  have hbare {n n' k' : String} (hn : n = deviceIdentity limits platform (n', some k')) :
      Clash limits platform (n, none) (n', some k') := by
    subst hn
    by_cases hshort : byteLen (bracketed n' k').toList ≤ limits.maxHardwareText
    · rw [show deviceIdentity limits platform (n', some k') = bracketed n' k' from if_pos hshort]
      exact .bracketed hshort
    · rw [show deviceIdentity limits platform (n', some k') = hashed platform n' k' from if_neg hshort]
      exact .hashed (Nat.not_le.mp hshort)
  cases kind with
  | none =>
    cases kind' with
    | none => exact Or.inl (Prod.ext h rfl)
    | some kind' => exact Or.inr (Or.inl (hbare h))
  | some kind =>
    cases kind' with
    | none => exact Or.inr (Or.inr (hbare h.symm))
    | some kind' =>
      unfold deviceIdentity at h
      by_cases hshort : byteLen (bracketed name kind).toList ≤ limits.maxHardwareText <;>
        by_cases hshort' : byteLen (bracketed name' kind').toList ≤ limits.maxHardwareText
      · simp only [if_pos hshort, if_pos hshort'] at h
        rcases bracketed_eq h with ⟨rfl, rfl⟩ | ⟨between, rfl, rfl⟩ | ⟨between, rfl, rfl⟩
        · exact Or.inl rfl
        · exact Or.inr (Or.inl (.shifted hshort'))
        · exact Or.inr (Or.inr (.shifted hshort))
      · simp only [if_pos hshort, if_neg hshort'] at h
        exact absurd h (bracketed_ne_hashed _ _ _ _)
      · simp only [if_neg hshort, if_pos hshort'] at h
        exact absurd h.symm (bracketed_ne_hashed _ _ _ _)
      · simp only [if_neg hshort, if_neg hshort'] at h
        have hdigits := congrArg String.toList h
        rw [toList_hashed, toList_hashed] at hdigits
        have hdigest := congrArg unhex (List.append_cancel_left hdigits)
        rw [unhex_hex, unhex_hex] at hdigest
        have hsame := hsha name kind name' kind' (by simp) (by simp) (Nat.not_le.mp hshort) (Nat.not_le.mp hshort')
          (Option.some.inj hdigest)
        obtain ⟨rfl, rfl⟩ := toVec_injective hs.name (hs.kind kind rfl) ht.name (ht.kind kind' rfl) hsame
        exact Or.inl rfl

theorem byteLen_deviceIdentity {selector : Selector} (h : Acceptable limits selector)
    (hroom : 73 ≤ limits.maxHardwareText) :
    byteLen (deviceIdentity limits platform selector).toList ≤ limits.maxHardwareText := by
  obtain ⟨name, kind⟩ := selector
  cases kind with
  | none => exact h.name.2.1
  | some kind =>
    unfold deviceIdentity
    by_cases hshort : byteLen (bracketed name kind).toList ≤ limits.maxHardwareText
    · simp only [if_pos hshort]
      exact hshort
    · simp only [if_neg hshort, byteLen_hashed]
      exact hroom

/-! ## A run -/

section

variable (limits : Limits) (platform : Platform) {σ : Type} (runner : Runner σ)

/-- The runner, with the calls kept. -/
def logged : Runner (σ × List (List String)) where
  run state args := ((runner.run state.1 args).1, ((runner.run state.1 args).2, state.2 ++ [args]))
  expired state := runner.expired state.1
  now state := runner.now state.1

/-- The scan answers with these devices. -/
def Lists (state : σ) (devices : List Value) : Prop :=
  ∃ scan code, (runner.run state scanArgs).1 = .ok (scan, code) ∧ code &&& 7 = 0 ∧
    (scan.field "devices").asArray = some devices

/-- What the loop has come to. -/
def visited (state : σ) (devices : List Value) : Progress σ :=
  visit limits platform runner (devices.take limits.maxHardwareDisks) ⟨[], none, [], (runner.run state scanArgs).2⟩

/-- The distinct selectors of the listed devices, in the order they are met. -/
def selectors (devices : List Value) : List Selector :=
  collect ((devices.take limits.maxHardwareDisks).map fun device => (selectorOf limits device).toOption)

/-- The selectors that a run accepted. -/
def accepted (state : σ) (devices : List Value) : List Selector := (visited limits platform runner state devices).seen

/-- A run tells the disks apart: the accepted selectors have distinct identities, which fit into a report, the disks are
reported under them, and there is one call for each after that for the scan. -/
structure TellsApart (state : σ) (devices : List Value) : Prop where
  distinct : ((accepted limits platform runner state devices).map (deviceIdentity limits platform)).Nodup
  bounded : ∀ selector ∈ accepted limits platform runner state devices,
    byteLen (deviceIdentity limits platform selector).toList ≤ limits.maxHardwareText
  reported : ((collectWithRunner limits platform runner state).1.1.map DiskHealth.device).Sublist
    ((accepted limits platform runner state devices).map (deviceIdentity limits platform))
  asked : (collectWithRunner limits platform (logged runner) (state, [])).2.2 =
    scanArgs :: (accepted limits platform runner state devices).map probeArgs
  once : ((accepted limits platform runner state devices).map probeArgs).Nodup

end

section

variable {σ : Type} {runner : Runner σ}

theorem probeArgs_injective : Function.Injective probeArgs := by
  rintro ⟨name, kind⟩ ⟨name', kind'⟩ h
  cases kind <;> cases kind' <;> simp [probeArgs] at h <;> simp [h]

theorem plain_of_kindOf {device : Value} {kind : String} (h : kindOf limits device = some (some kind)) :
    Plain limits kind := by
  unfold kindOf at h
  split at h
  · cases h
  · cases h
  · split at h
    · rename_i hplain
      cases h
      exact hplain
    · cases h
  · cases h

theorem acceptable_selectorOf {device : Value} {selector : Selector} (h : selectorOf limits device = .ok selector) :
    Acceptable limits selector := by
  unfold selectorOf at h
  cases hname : nameOf limits device with
  | none =>
    rw [hname] at h
    cases h
  | some name =>
    cases hkind : kindOf limits device with
    | none =>
      rw [hname, hkind] at h
      cases h
    | some kind =>
      rw [hname, hkind] at h
      cases h
      have hplain := (Option.filter_eq_some_iff.mp hname).2
      rw [decide_eq_true_eq] at hplain
      refine ⟨hplain.1, fun kind' heq => ?_⟩
      rw [show kind = some kind' from heq] at hkind
      exact plain_of_kindOf hkind

/-- The progress of a run whose calls are kept. -/
structure Tracks (limits : Limits) (platform : Platform) (calls : List (List String))
    (p : Progress (σ × List (List String))) : Prop where
  nodup : p.seen.Nodup
  acceptable : ∀ selector ∈ p.seen, Acceptable limits selector
  reported : (p.disks.map DiskHealth.device).Sublist (p.seen.map (deviceIdentity limits platform))
  asked : p.state.2 = calls ++ p.seen.map probeArgs

theorem device_parseDisk {now : DateTime} {device : String} {v : Value} {disk : DiskHealth}
    (h : parseDisk limits platform now device v = some disk) : disk.device = device := by
  simp only [parseDisk] at h
  split at h
  · cases h
  · cases h
    rfl

theorem Tracks.probe {calls : List (List String)} {selector : Selector} {p : Progress (σ × List (List String))}
    (h : Tracks limits platform calls p) (hnew : selector ∉ p.seen) (hacceptable : Acceptable limits selector) :
    Tracks limits platform calls (probe limits platform (logged runner) selector p) := by
  have hnodup : (p.seen ++ [selector]).Nodup := by
    rw [List.nodup_append]
    refine ⟨h.nodup, List.nodup_singleton selector, ?_⟩
    rintro s hs t ht rfl
    exact hnew (List.mem_singleton.mp ht ▸ hs)
  have hall : ∀ s ∈ p.seen ++ [selector], Acceptable limits s := by
    intro s hs
    rcases List.mem_append.mp hs with hs | hs
    · exact h.acceptable s hs
    · exact List.mem_singleton.mp hs ▸ hacceptable
  have hasked : p.state.2 ++ [probeArgs selector] = calls ++ (p.seen ++ [selector]).map probeArgs := by
    rw [h.asked, List.map_append, List.append_assoc]
    rfl
  have hreported {disks : List DiskHealth}
      (hdisks : (disks.map DiskHealth.device).Sublist [deviceIdentity limits platform selector]) :
      ((p.disks ++ disks).map DiskHealth.device).Sublist
        ((p.seen ++ [selector]).map (deviceIdentity limits platform)) := by
    rw [List.map_append, List.map_append]
    exact h.reported.append hdisks
  unfold Smart.probe
  cases hrun : (runner.run p.state.1 (probeArgs selector)).1 with
  | ok answer =>
    simp only [logged, hrun]
    refine ⟨hnodup, hall, hreported ?_, hasked⟩
    cases hdisk : parseDisk limits platform (runner.now (runner.run p.state.1 (probeArgs selector)).2)
        (deviceIdentity limits platform selector) answer.1 with
    | none => exact List.nil_sublist _
    | some disk =>
      rw [← device_parseDisk hdisk]
      exact List.Sublist.refl _
  | error kind =>
    simp only [logged, hrun]
    refine ⟨hnodup, hall, ?_, hasked⟩
    have hnone : ((p.disks ++ []).map DiskHealth.device).Sublist
        ((p.seen ++ [selector]).map (deviceIdentity limits platform)) := hreported (List.nil_sublist _)
    rwa [List.append_nil] at hnone

/-- A run asks no selector twice, and reports the disks by the selectors that it asks. -/
theorem Tracks.visit {calls : List (List String)} (devices : List Value) {p : Progress (σ × List (List String))}
    (h : Tracks limits platform calls p) :
      Tracks limits platform calls (visit limits platform (logged runner) devices p) := by
  induction devices generalizing p with
  | nil => exact h
  | cons device devices ih =>
    unfold Smart.visit
    cases hselector : selectorOf limits device with
    | error failure => exact ih ⟨h.nodup, h.acceptable, h.reported, h.asked⟩
    | ok selector =>
      by_cases hseen : selector ∈ p.seen
      · simp only [if_pos hseen]
        exact ih h
      · simp only [if_neg hseen]
        have hprobe := @Tracks.probe _ _ _ runner _ _ _ h hseen (acceptable_selectorOf hselector)
        split
        · exact hprobe
        · exact ih hprobe

theorem seen_probe (selector : Selector) (p : Progress σ) :
    (probe limits platform runner selector p).seen = p.seen ++ [selector] := by
  unfold probe
  split <;> rfl

/-- A run accepts the selectors in the order they are met, all of them unless the time is over. -/
theorem seen_visit (devices : List Value) (p : Progress σ) :
    (visit limits platform runner devices p).seen <+:
        (devices.map fun device => (selectorOf limits device).toOption).foldl insertNew p.seen ∧
      ((∀ state, runner.expired state = false) → (visit limits platform runner devices p).seen =
        (devices.map fun device => (selectorOf limits device).toOption).foldl insertNew p.seen) := by
  induction devices generalizing p with
  | nil => exact ⟨List.prefix_rfl, fun _ => rfl⟩
  | cons device devices ih =>
    unfold visit
    rw [List.map_cons, List.foldl_cons]
    cases hselector : selectorOf limits device with
    | error failure => exact ih _
    | ok selector =>
      by_cases hseen : selector ∈ p.seen
      · have hsame : insertNew p.seen (Except.ok selector : Except (Option Capability) Selector).toOption = p.seen :=
          insertNew_of_mem hseen
        simp only [if_pos hseen, hsame]
        exact ih p
      · have hnext : insertNew p.seen (Except.ok selector : Except (Option Capability) Selector).toOption =
            (probe limits platform runner selector p).seen := by
          rw [seen_probe]
          exact insertNew_of_not_mem hseen
        simp only [if_neg hseen, hnext]
        split
        · rename_i hexpired
          refine ⟨prefix_foldl_insertNew _ _, fun hnever => ?_⟩
          rw [hnever] at hexpired
          cases hexpired
        · exact ih _

/-! ## The calls that are kept -/

/-- The progress without the calls. -/
def forget (p : Progress (σ × List (List String))) : Progress σ := ⟨p.disks, p.failure, p.seen, p.state.1⟩

theorem forget_probe (selector : Selector) (p : Progress (σ × List (List String))) :
    forget (probe limits platform (logged runner) selector p) = probe limits platform runner selector (forget p) := by
  unfold probe
  cases hrun : runner.run p.state.1 (probeArgs selector) with
  | mk answer state => cases answer <;> simp [logged, forget, hrun]

theorem forget_visit (devices : List Value) (p : Progress (σ × List (List String))) :
    forget (visit limits platform (logged runner) devices p) = visit limits platform runner devices (forget p) := by
  induction devices generalizing p with
  | nil => rfl
  | cons device devices ih =>
    unfold visit
    cases hselector : selectorOf limits device with
    | error failure => exact ih _
    | ok selector =>
      by_cases hseen : selector ∈ p.seen
      · have hseen' : selector ∈ (forget p).seen := hseen
        simp only [if_pos hseen, if_pos hseen']
        exact ih p
      · have hseen' : selector ∉ (forget p).seen := hseen
        have hexpired : runner.expired (probe limits platform runner selector (forget p)).state =
            (logged runner).expired (probe limits platform (logged runner) selector p).state := by
          rw [← forget_probe]
          rfl
        simp only [if_neg hseen, if_neg hseen', hexpired]
        split
        · exact forget_probe selector p
        · rw [ih, forget_probe]

end

/-! ## The identities of a run -/

section

variable {σ : Type} {runner : Runner σ} {state : σ} {devices : List Value}

theorem collectWithRunner_of_lists (h : Lists runner state devices) :
    collectWithRunner limits platform runner state =
      conclude limits devices (visited limits platform runner state devices) := by
  obtain ⟨scan, code, hrun, hcode, hdevices⟩ := h
  unfold collectWithRunner visited
  cases hstate : runner.run state scanArgs with
  | mk answer next =>
    rw [hstate] at hrun
    subst hrun
    simp [hcode, hdevices]

theorem lists_logged (h : Lists runner state devices) (calls : List (List String)) :
    Lists (logged runner) (state, calls) devices := h

theorem forget_visited (calls : List (List String)) :
    forget (visited limits platform (logged runner) (state, calls) devices) =
      visited limits platform runner state devices :=
  forget_visit _ _

/-- The calls are kept and nothing else is changed. -/
theorem collectWithRunner_logged (h : Lists runner state devices) (calls : List (List String)) :
    (collectWithRunner limits platform (logged runner) (state, calls)).1 =
      (collectWithRunner limits platform runner state).1 := by
  rw [collectWithRunner_of_lists h, collectWithRunner_of_lists (lists_logged h calls),
    ← @forget_visited _ _ _ runner state devices calls]
  rfl

theorem tracks_visited : Tracks limits platform [scanArgs]
    (visited limits platform (logged runner) (state, []) devices) := by
  apply Tracks.visit
  exact ⟨List.nodup_nil, fun selector h => (by cases h), List.Sublist.refl _, rfl⟩

theorem accepted_eq : accepted limits platform runner state devices =
    (visited limits platform (logged runner) (state, []) devices).seen := by
  rw [accepted, ← @forget_visited _ _ _ runner state devices []]
  rfl

/-- All that a run is to do but to name the selectors apart, it does. -/
theorem tellsApart_iff (hroom : 73 ≤ limits.maxHardwareText) (h : Lists runner state devices) :
    TellsApart limits platform runner state devices ↔
      ((accepted limits platform runner state devices).map (deviceIdentity limits platform)).Nodup := by
  have htracks := @tracks_visited limits platform σ runner state devices
  constructor
  · exact TellsApart.distinct
  · intro hdistinct
    refine ⟨hdistinct, ?_, ?_, ?_, ?_⟩
    · intro selector hselector
      rw [accepted_eq] at hselector
      exact byteLen_deviceIdentity (htracks.acceptable selector hselector) hroom
    · rw [← collectWithRunner_logged h [], collectWithRunner_of_lists (lists_logged h []), accepted_eq]
      exact htracks.reported
    · rw [collectWithRunner_of_lists (lists_logged h []), accepted_eq]
      exact htracks.asked
    · rw [accepted_eq]
      exact htracks.nodup.map probeArgs_injective

theorem accepted_initial : accepted limits platform runner state devices <+: selectors limits devices :=
  (seen_visit _ _).1

theorem accepted_of_never (hnever : ∀ state, runner.expired state = false) :
    accepted limits platform runner state devices = selectors limits devices :=
  (seen_visit _ _).2 hnever

theorem acceptable_of_mem {selector : Selector} (h : selector ∈ selectors limits devices) :
    Acceptable limits selector := by
  obtain ⟨device, -, hdevice⟩ := List.mem_map.mp (mem_collect.mp h)
  cases hselector : selectorOf limits device with
  | error failure =>
    rw [hselector] at hdevice
    cases hdevice
  | ok accepted =>
    rw [hselector] at hdevice
    cases hdevice
    exact acceptable_selectorOf hselector

end

/-- A program that lists these devices and answers the same of each, in no time. -/
def answering (devices : List Value) (answer : Value) : Runner Unit where
  run _ args := (.ok (if args = scanArgs then .object [("devices", .array devices)] else answer, 0), ())
  expired _ := false
  now _ := 0

theorem lists_answering (devices : List Value) (answer : Value) : Lists (answering devices answer) () devices :=
  ⟨_, 0, rfl, by decide, rfl⟩

/-- Of the devices that a scan lists, every run tells the disks apart if and only if no two of their selectors clash. -/
theorem smart_identities_distinct_iff (limits : Limits) (platform : Platform) (devices : List Value)
    (hroom : 73 ≤ limits.maxHardwareText) (hsha : CollisionFree limits platform (selectors limits devices)) :
    (∀ {σ : Type} (runner : Runner σ) (state : σ), Lists runner state devices →
      TellsApart limits platform runner state devices) ↔
    ∀ s ∈ selectors limits devices, ∀ t ∈ selectors limits devices, ¬ Clash limits platform s t := by
  constructor
  · intro h s hs t ht hclash
    have hrun := h (answering devices .null) () (lists_answering devices .null)
    have hdistinct := hrun.distinct
    rw [accepted_of_never fun _ => rfl] at hdistinct
    exact hclash.ne (List.inj_on_of_nodup_map hdistinct hs ht hclash.deviceIdentity_eq)
  · intro h σ runner state hlists
    rw [tellsApart_iff hroom hlists]
    have hall : ((selectors limits devices).map (deviceIdentity limits platform)).Nodup := by
      apply List.Nodup.map_on
      · intro s hs t ht heq
        have hpair : CollisionFree limits platform [s, t] := by
          have hmem : ∀ u ∈ [s, t], u ∈ selectors limits devices := by
            simp [hs, ht]
          exact fun name kind name' kind' hu hv => hsha name kind name' kind' (hmem _ hu) (hmem _ hv)
        rcases eq_or_clash (acceptable_of_mem hs) (acceptable_of_mem ht) hpair heq with rfl | hclash | hclash
        · rfl
        · exact absurd hclash (h s hs t ht)
        · exact absurd hclash (h t ht s hs)
      · exact nodup_collect _
    exact hall.sublist (accepted_initial.sublist.map _)

/-- A digest that is not asked for in the examples. -/
def samplePlatform : Platform where
  sha256 bytes := (bytes ++ List.replicate 32 0).take 32
  size bytes := by simp
  maxCriticalWarning := 255

/-- Two members of a RAID. -/
def members : List Value :=
  [.object [("name", .string "/dev/bus/0"), ("type", .string "megaraid,0")],
    .object [("name", .string "/dev/bus/0"), ("type", .string "megaraid,1")]]

def healthy : Value := .object [("smart_status", .object [("passed", .bool true)])]

theorem members_told_apart : TellsApart roomyLimits samplePlatform (answering members healthy) () members := by
  have hselectors : selectors roomyLimits members =
      [("/dev/bus/0", some "megaraid,0"), ("/dev/bus/0", some "megaraid,1")] := by
    decide +kernel
  have hshort : ∀ name kind, (name, some kind) ∈ selectors roomyLimits members →
      ¬ roomyLimits.maxHardwareText < byteLen (bracketed name kind).toList := by
    rw [hselectors]
    intro name kind h
    simp only [List.mem_cons, Prod.mk.injEq, Option.some.injEq, List.not_mem_nil, or_false] at h
    rcases h with ⟨rfl, rfl⟩ | ⟨rfl, rfl⟩ <;> decide +kernel
  have hsha : CollisionFree roomyLimits samplePlatform (selectors roomyLimits members) :=
    fun name kind _ _ h _ hlong => absurd hlong (hshort name kind h)
  have hnodup : ((selectors roomyLimits members).map (deviceIdentity roomyLimits samplePlatform)).Nodup := by
    rw [hselectors]
    decide +kernel
  refine (smart_identities_distinct_iff roomyLimits samplePlatform members (by decide) hsha).mpr ?_
    (answering members healthy) () (lists_answering _ _)
  intro s hs t ht hclash
  exact hclash.ne (List.inj_on_of_nodup_map hnodup hs ht hclash.deviceIdentity_eq)

/-- A member of a RAID, and a device whose path spells it. -/
def spelled : List Value :=
  [.object [("name", .string "/dev/bus/0"), ("type", .string "megaraid,0")],
    .object [("name", .string "/dev/bus/0 [type=megaraid,0]")]]

theorem spelled_identity_twice :
    Lists (answering spelled healthy) () spelled ∧
    CollisionFree roomyLimits samplePlatform (selectors roomyLimits spelled) ∧
    accepted roomyLimits samplePlatform (answering spelled healthy) () spelled =
      [("/dev/bus/0", some "megaraid,0"), ("/dev/bus/0 [type=megaraid,0]", none)] ∧
    (collectWithRunner roomyLimits samplePlatform (answering spelled healthy) ()).1.1.map DiskHealth.device =
      ["/dev/bus/0 [type=megaraid,0]", "/dev/bus/0 [type=megaraid,0]"] ∧
    ¬ TellsApart roomyLimits samplePlatform (answering spelled healthy) () spelled := by
  have haccepted : accepted roomyLimits samplePlatform (answering spelled healthy) () spelled =
      [("/dev/bus/0", some "megaraid,0"), ("/dev/bus/0 [type=megaraid,0]", none)] := by
    decide +kernel
  refine ⟨lists_answering _ _, ?_, haccepted, by decide +kernel, ?_⟩
  · have hselectors : selectors roomyLimits spelled =
        [("/dev/bus/0", some "megaraid,0"), ("/dev/bus/0 [type=megaraid,0]", none)] := by
      decide +kernel
    rw [hselectors]
    intro name kind name' kind' h h'
    simp only [List.mem_cons, Prod.mk.injEq, Option.some.injEq, List.not_mem_nil, or_false, reduceCtorEq,
      and_false] at h h'
    rw [h.1, h.2, h'.1, h'.2]
    exact fun _ _ _ => rfl
  · intro h
    have hdistinct := h.distinct
    rw [haccepted] at hdistinct
    revert hdistinct
    decide +kernel

end Smart

end Xsoc
