import Xsoc.Report.Postcondition

/-!
# Reports that equal themselves

The derived `==` of a report compares its numbers as IEEE 754 does, so a report with a NaN is not equal to itself.
One within the contract is.

* `NetworkSnapshot.Bounded.beq_self` and the like : the records, from the inside out;
* `ClientReport.WithinContract.beq_self` : the report;
* `RightSelf` : what something is equal to is equal to itself, for every record of a report.
-/

set_option autoImplicit false

namespace Xsoc

theorem list_beq_self {α : Type} [BEq α] {l : List α} (h : ∀ x ∈ l, (x == x) = true) : (l == l) = true := by
  induction l with
  | nil => rfl
  | cons x l ih =>
    rw [List.cons_beq_cons, h x List.mem_cons_self, ih fun y hy => h y (List.mem_cons_of_mem x hy), Bool.and_true]

theorem option_beq_self {α : Type} [BEq α] {o : Option α} (h : ∀ x ∈ o, (x == x) = true) : (o == o) = true := by
  cases o with
  | none => rfl
  | some x => exact h x rfl

theorem F64.beq_self {x : F64} (h : x.isFinite = true) : (x == x) = true := F64.same_self h

theorem F64.Within.beq_self {min max x : F64} (h : F64.Within min max x) : (x == x) = true := F64.beq_self h.finite

theorem F64.Optional.beq_self {min max : F64} {o : Option F64} (h : F64.Optional min max o) : (o == o) = true :=
  option_beq_self fun x hx => (h x hx).beq_self

section

variable {wire : Wire}

/-! ## The entries of the collections -/

theorem CapabilityErrorKind.beq_self (k : CapabilityErrorKind) : (k == k) = true := by cases k <;> rfl

theorem Capability.beq_self (c : Capability) : (c == c) = true := by
  have hkind : (c.errorKind == c.errorKind) = true := option_beq_self fun k _ => k.beq_self
  show instBEqCapability.beq c c = true
  simp [instBEqCapability.beq, hkind]

theorem NetworkSnapshot.Bounded.beq_self {n : NetworkSnapshot} (h : n.Bounded wire) : (n == n) = true := by
  have hreceived := F64.beq_self h.receivedBytesPerSecond.finite
  have htransmitted := F64.beq_self h.transmittedBytesPerSecond.finite
  show instBEqNetworkSnapshot.beq n n = true
  simp [instBEqNetworkSnapshot.beq, hreceived, htransmitted]

theorem DiskSnapshot.Bounded.beq_self {d : DiskSnapshot} (h : d.Bounded wire) : (d == d) = true := by
  have hread := F64.beq_self h.readBytesPerSecond.finite
  have hwritten := F64.beq_self h.writtenBytesPerSecond.finite
  show instBEqDiskSnapshot.beq d d = true
  simp [instBEqDiskSnapshot.beq, hread, hwritten]

theorem TemperatureSnapshot.Bounded.beq_self {t : TemperatureSnapshot} (h : t.Bounded wire) : (t == t) = true := by
  show instBEqTemperatureSnapshot.beq t t = true
  simp [instBEqTemperatureSnapshot.beq, h.celsius.beq_self, h.maxCelsius.beq_self, h.criticalCelsius.beq_self]

theorem GpuSnapshot.Bounded.beq_self {g : GpuSnapshot} (h : g.Bounded wire) : (g == g) = true := by
  show instBEqGpuSnapshot.beq g g = true
  simp [instBEqGpuSnapshot.beq, h.utilizationPercent.beq_self, h.temperatureCelsius.beq_self, h.powerWatts.beq_self,
    h.coreClockMhz.beq_self, h.memoryClockMhz.beq_self, h.pcieRxBytesPerSecond.beq_self,
    h.pcieTxBytesPerSecond.beq_self]

theorem CpuSnapshot.Bounded.beq_self {c : CpuSnapshot} (h : c.Bounded wire) (husage : c.usagePercent.Percent) :
    (c == c) = true := by
  have hcores : (c.perCorePercent == c.perCorePercent) = true :=
    list_beq_self fun x hx => (h.perCorePercent.each x hx).beq_self
  show instBEqCpuSnapshot.beq c c = true
  simp [instBEqCpuSnapshot.beq, husage.beq_self, hcores]

theorem MemorySnapshot.beq_self (m : MemorySnapshot) : (m == m) = true := by
  show instBEqMemorySnapshot.beq m m = true
  simp [instBEqMemorySnapshot.beq]

theorem ClientHealth.beq_self (c : ClientHealth) : (c == c) = true := by
  show instBEqClientHealth.beq c c = true
  simp [instBEqClientHealth.beq]

/-! ## The hardware -/

theorem CpuHardware.Bounded.beq_self {c : CpuHardware} (h : c.Bounded wire) : (c == c) = true := by
  have hcores : (c.perCoreFrequencyMhz == c.perCoreFrequencyMhz) = true :=
    list_beq_self fun o ho => F64.Optional.beq_self (h.perCoreFrequencyMhz.2 o ho)
  have hload : (c.loadAverage == c.loadAverage) = true := by
    refine option_beq_self ?_
    rintro ⟨one, five, fifteen⟩ hloads
    have hfinite := h.loadAverage
    rw [Option.mem_def] at hloads
    simp only [hloads, Option.any_some, List.any_cons, List.any_nil, Bool.or_false, Bool.or_eq_false_iff,
      Bool.not_eq_false'] at hfinite
    obtain ⟨⟨hone, -⟩, ⟨hfive, -⟩, hfifteen, -⟩ := hfinite
    show (one == one && (five == five && fifteen == fifteen)) = true
    rw [F64.beq_self hone, F64.beq_self hfive, F64.beq_self hfifteen]
    rfl
  show instBEqCpuHardware.beq c c = true
  simp [instBEqCpuHardware.beq, h.frequencyMhz.beq_self, h.maxFrequencyMhz.beq_self, hcores, hload]

theorem NetworkHardware.Bounded.beq_self {n : NetworkHardware} (h : n.Bounded wire) : (n == n) = true := by
  show instBEqNetworkHardware.beq n n = true
  simp [instBEqNetworkHardware.beq, h.linkSpeedMbps.beq_self]

theorem PhysicalNetworkAdapter.Bounded.beq_self {n : PhysicalNetworkAdapter} (h : n.Bounded wire) :
    (n == n) = true := by
  show instBEqPhysicalNetworkAdapter.beq n n = true
  simp [instBEqPhysicalNetworkAdapter.beq, h.linkSpeedMbps.beq_self]

theorem SensorKind.beq_self (k : SensorKind) : (k == k) = true := by cases k <;> rfl

theorem HardwareSensor.beq_self {s : HardwareSensor} (h : s.readable = true) : (s == s) = true := by
  have hvalue : s.value.isFinite = true := (Bool.and_eq_true_iff.mp h).1
  show instBEqHardwareSensor.beq s s = true
  simp [instBEqHardwareSensor.beq, s.kind.beq_self, F64.beq_self hvalue]

theorem DiskHealth.Bounded.beq_self {t : DateTime} {d : DiskHealth} (h : d.Bounded wire t) : (d == d) = true := by
  show instBEqDiskHealth.beq d d = true
  simp [instBEqDiskHealth.beq, h.temperatureCelsius.beq_self, h.percentageUsed.beq_self,
    h.availableSparePercent.beq_self]

theorem MemoryModule.Bounded.beq_self {m : MemoryModule} (h : m.Bounded wire) : (m == m) = true := by
  show instBEqMemoryModule.beq m m = true
  simp [instBEqMemoryModule.beq, h.speedMtS.beq_self, h.configuredSpeedMtS.beq_self]

theorem HardwareDeviceKind.beq_self (k : HardwareDeviceKind) : (k == k) = true := by cases k <;> rfl

theorem HardwareDevice.Bounded.beq_self {d : HardwareDevice} (h : d.Bounded wire) : (d == d) = true := by
  show instBEqHardwareDevice.beq d d = true
  simp [instBEqHardwareDevice.beq, d.kind.beq_self, h.speedMbps.beq_self]

theorem HardwareSnapshot.Bounded.beq_self {t : DateTime} {h : HardwareSnapshot} (hb : h.Bounded wire t) :
    (h == h) = true := by
  have hnetworks : (h.networks == h.networks) = true := list_beq_self fun n hn => (hb.networks.each n hn).beq_self
  have hphysical : (h.physicalNetworks == h.physicalNetworks) = true :=
    list_beq_self fun n hn => (hb.physicalNetworks.each n hn).beq_self
  have hsensors : (h.sensors == h.sensors) = true :=
    list_beq_self fun s hs => HardwareSensor.beq_self (hb.sensors.readable s hs)
  have hdisks : (h.diskHealth == h.diskHealth) = true :=
    list_beq_self fun d hd => (hb.diskHealth.each d hd).beq_self
  have hmodules : (h.memoryModules == h.memoryModules) = true :=
    list_beq_self fun m hm => (hb.memoryModules.each m hm).beq_self
  have hdevices : (h.devices == h.devices) = true := list_beq_self fun d hd => (hb.devices.each d hd).beq_self
  show instBEqHardwareSnapshot.beq h h = true
  simp [instBEqHardwareSnapshot.beq, hb.cpu.beq_self, hnetworks, hphysical, hsensors, hdisks, hmodules, hdevices]

/-! ## The report -/

theorem ClientReport.WithinContract.beq_self {r : ClientReport} (h : r.WithinContract wire) : (r == r) = true := by
  have hhardware : (r.system.hardware == r.system.hardware) = true :=
    option_beq_self fun s hs => (h.hardware s hs).1.beq_self
  have hcpu : (r.system.cpu == r.system.cpu) = true := h.cpu.beq_self h.usagePercent
  have hnetworks : (r.system.networks == r.system.networks) = true :=
    list_beq_self fun n hn => (h.networks.each n hn).beq_self
  have hdisks : (r.system.disks == r.system.disks) = true := list_beq_self fun d hd => (h.disks.each d hd).beq_self
  have htemperatures : (r.system.temperatures == r.system.temperatures) = true :=
    list_beq_self fun t ht => (h.temperatures.each t ht).beq_self
  have hgpus : (r.system.gpus == r.system.gpus) = true := list_beq_self fun g hg => (h.gpus.each g hg).beq_self
  have hsystem : (r.system == r.system) = true := by
    show instBEqSystemSnapshot.beq r.system r.system = true
    simp [instBEqSystemSnapshot.beq, hhardware, hcpu, MemorySnapshot.beq_self, hnetworks, hdisks, htemperatures,
      hgpus]
  have hcapabilities : (r.capabilities == r.capabilities) = true := list_beq_self fun c _ => c.beq_self
  have hinterval : (r.intervalSeconds == r.intervalSeconds) = true := h.intervalSeconds.beq_self
  show instBEqClientReport.beq r r = true
  simp [instBEqClientReport.beq, hsystem, hcapabilities, hinterval, ClientHealth.beq_self]

end

/-! ## What something is equal to -/

/-- `==` is no equivalence on numbers, but nothing is equal to what is not equal to itself. -/
class RightSelf (α : Type) [BEq α] : Prop where
  self : ∀ {x y : α}, (x == y) = true → (y == y) = true

open RightSelf

instance {α : Type} [BEq α] [ReflBEq α] : RightSelf α := ⟨fun _ => BEq.rfl⟩

instance : RightSelf F64 where
  self {x y} h := by
    have h : x.same y = true := h
    simp only [F64.same, Bool.and_eq_true, Bool.not_eq_true', beq_iff_eq] at h
    show y.same y = true
    simp [F64.same, h.1.2]

instance {α : Type} [BEq α] [RightSelf α] : RightSelf (Option α) where
  self {x y} h := by
    cases x <;> cases y
    · rfl
    · cases h
    · cases h
    · next x y =>
      have h : (x == y) = true := h
      exact (self h : (y == y) = true)

instance {α : Type} [BEq α] [RightSelf α] : RightSelf (List α) where
  self {x y} h := by
    induction x generalizing y with
    | nil =>
      cases y with
      | nil => rfl
      | cons y l => cases h
    | cons x k ih =>
      cases y with
      | nil => cases h
      | cons y l =>
        rw [List.cons_beq_cons, Bool.and_eq_true] at h ⊢
        exact ⟨self h.1, ih h.2⟩

instance {α β : Type} [BEq α] [BEq β] [RightSelf α] [RightSelf β] : RightSelf (α × β) where
  self {x y} h := by
    have h : (x.1 == y.1 && x.2 == y.2) = true := h
    show (y.1 == y.1 && y.2 == y.2) = true
    rw [Bool.and_eq_true] at h ⊢
    exact ⟨self h.1, self h.2⟩

instance : RightSelf CapabilityErrorKind := ⟨fun {_ y} _ => y.beq_self⟩

instance : RightSelf SensorKind := ⟨fun {_ y} _ => y.beq_self⟩

instance : RightSelf HardwareDeviceKind := ⟨fun {_ y} _ => y.beq_self⟩

instance : RightSelf Capability where
  self {x y} h := by
    have h : instBEqCapability.beq x y = true := h
    show instBEqCapability.beq y y = true
    simp only [instBEqCapability.beq, Bool.and_eq_true] at h ⊢
    exact ⟨self h.1, self h.2.1, self h.2.2.1, self h.2.2.2.1, self h.2.2.2.2⟩

instance : RightSelf NetworkSnapshot where
  self {x y} h := by
    have h : instBEqNetworkSnapshot.beq x y = true := h
    show instBEqNetworkSnapshot.beq y y = true
    simp only [instBEqNetworkSnapshot.beq, Bool.and_eq_true] at h ⊢
    exact ⟨self h.1, self h.2.1, self h.2.2.1, self h.2.2.2.1, self h.2.2.2.2.1, self h.2.2.2.2.2.1,
      self h.2.2.2.2.2.2.1, self h.2.2.2.2.2.2.2.1, self h.2.2.2.2.2.2.2.2⟩

instance : RightSelf DiskSnapshot where
  self {x y} h := by
    have h : instBEqDiskSnapshot.beq x y = true := h
    show instBEqDiskSnapshot.beq y y = true
    simp only [instBEqDiskSnapshot.beq, Bool.and_eq_true] at h ⊢
    exact ⟨self h.1, self h.2.1, self h.2.2.1, self h.2.2.2.1, self h.2.2.2.2.1, self h.2.2.2.2.2.1,
      self h.2.2.2.2.2.2.1, self h.2.2.2.2.2.2.2.1, self h.2.2.2.2.2.2.2.2.1, self h.2.2.2.2.2.2.2.2.2⟩

instance : RightSelf TemperatureSnapshot where
  self {x y} h := by
    have h : instBEqTemperatureSnapshot.beq x y = true := h
    show instBEqTemperatureSnapshot.beq y y = true
    simp only [instBEqTemperatureSnapshot.beq, Bool.and_eq_true] at h ⊢
    exact ⟨self h.1, self h.2.1, self h.2.2.1, self h.2.2.2.1, self h.2.2.2.2.1, self h.2.2.2.2.2⟩

instance : RightSelf GpuSnapshot where
  self {x y} h := by
    have h : instBEqGpuSnapshot.beq x y = true := h
    show instBEqGpuSnapshot.beq y y = true
    simp only [instBEqGpuSnapshot.beq, Bool.and_eq_true] at h ⊢
    exact ⟨self h.1, self h.2.1, self h.2.2.1, self h.2.2.2.1, self h.2.2.2.2.1, self h.2.2.2.2.2.1,
      self h.2.2.2.2.2.2.1, self h.2.2.2.2.2.2.2.1, self h.2.2.2.2.2.2.2.2.1, self h.2.2.2.2.2.2.2.2.2.1,
      self h.2.2.2.2.2.2.2.2.2.2.1, self h.2.2.2.2.2.2.2.2.2.2.2.1, self h.2.2.2.2.2.2.2.2.2.2.2.2⟩

instance : RightSelf CpuSnapshot where
  self {x y} h := by
    have h : instBEqCpuSnapshot.beq x y = true := h
    show instBEqCpuSnapshot.beq y y = true
    simp only [instBEqCpuSnapshot.beq, Bool.and_eq_true] at h ⊢
    exact ⟨self h.1, self h.2.1, self h.2.2.1, self h.2.2.2⟩

instance : RightSelf MemorySnapshot where
  self {x y} h := by
    have h : instBEqMemorySnapshot.beq x y = true := h
    show instBEqMemorySnapshot.beq y y = true
    simp only [instBEqMemorySnapshot.beq, Bool.and_eq_true] at h ⊢
    exact ⟨self h.1, self h.2.1, self h.2.2.1, self h.2.2.2.1, self h.2.2.2.2⟩

instance : RightSelf ClientHealth where
  self {x y} h := by
    have h : instBEqClientHealth.beq x y = true := h
    show instBEqClientHealth.beq y y = true
    simp only [instBEqClientHealth.beq, Bool.and_eq_true] at h ⊢
    exact ⟨self h.1, self h.2⟩

instance : RightSelf CpuHardware where
  self {x y} h := by
    have h : instBEqCpuHardware.beq x y = true := h
    show instBEqCpuHardware.beq y y = true
    simp only [instBEqCpuHardware.beq, Bool.and_eq_true] at h ⊢
    exact ⟨self h.1, self h.2.1, self h.2.2.1, self h.2.2.2.1, self h.2.2.2.2.1, self h.2.2.2.2.2⟩

instance : RightSelf NetworkHardware where
  self {x y} h := by
    have h : instBEqNetworkHardware.beq x y = true := h
    show instBEqNetworkHardware.beq y y = true
    simp only [instBEqNetworkHardware.beq, Bool.and_eq_true] at h ⊢
    exact ⟨self h.1, self h.2.1, self h.2.2.1, self h.2.2.2.1, self h.2.2.2.2.1, self h.2.2.2.2.2⟩

instance : RightSelf PhysicalNetworkAdapter where
  self {x y} h := by
    have h : instBEqPhysicalNetworkAdapter.beq x y = true := h
    show instBEqPhysicalNetworkAdapter.beq y y = true
    simp only [instBEqPhysicalNetworkAdapter.beq, Bool.and_eq_true] at h ⊢
    exact ⟨self h.1, self h.2.1, self h.2.2.1, self h.2.2.2.1, self h.2.2.2.2.1, self h.2.2.2.2.2⟩

instance : RightSelf HardwareSensor where
  self {x y} h := by
    have h : instBEqHardwareSensor.beq x y = true := h
    show instBEqHardwareSensor.beq y y = true
    simp only [instBEqHardwareSensor.beq, Bool.and_eq_true] at h ⊢
    exact ⟨self h.1, self h.2.1, self h.2.2.1, self h.2.2.2.1, self h.2.2.2.2⟩

instance : RightSelf DiskHealth where
  self {x y} h := by
    have h : instBEqDiskHealth.beq x y = true := h
    show instBEqDiskHealth.beq y y = true
    simp only [instBEqDiskHealth.beq, Bool.and_eq_true] at h ⊢
    exact ⟨self h.1, self h.2.1, self h.2.2.1, self h.2.2.2.1, self h.2.2.2.2.1, self h.2.2.2.2.2.1,
      self h.2.2.2.2.2.2.1, self h.2.2.2.2.2.2.2.1, self h.2.2.2.2.2.2.2.2.1, self h.2.2.2.2.2.2.2.2.2.1,
      self h.2.2.2.2.2.2.2.2.2.2.1, self h.2.2.2.2.2.2.2.2.2.2.2.1, self h.2.2.2.2.2.2.2.2.2.2.2.2.1,
      self h.2.2.2.2.2.2.2.2.2.2.2.2.2.1, self h.2.2.2.2.2.2.2.2.2.2.2.2.2.2.1,
      self h.2.2.2.2.2.2.2.2.2.2.2.2.2.2.2.1, self h.2.2.2.2.2.2.2.2.2.2.2.2.2.2.2.2⟩

instance : RightSelf MemoryModule where
  self {x y} h := by
    have h : instBEqMemoryModule.beq x y = true := h
    show instBEqMemoryModule.beq y y = true
    simp only [instBEqMemoryModule.beq, Bool.and_eq_true] at h ⊢
    exact ⟨self h.1, self h.2.1, self h.2.2.1, self h.2.2.2.1, self h.2.2.2.2.1, self h.2.2.2.2.2.1,
      self h.2.2.2.2.2.2.1, self h.2.2.2.2.2.2.2.1, self h.2.2.2.2.2.2.2.2.1, self h.2.2.2.2.2.2.2.2.2.1,
      self h.2.2.2.2.2.2.2.2.2.2.1, self h.2.2.2.2.2.2.2.2.2.2.2⟩

instance : RightSelf HardwareDevice where
  self {x y} h := by
    have h : instBEqHardwareDevice.beq x y = true := h
    show instBEqHardwareDevice.beq y y = true
    simp only [instBEqHardwareDevice.beq, Bool.and_eq_true] at h ⊢
    exact ⟨self h.1, self h.2.1, self h.2.2.1, self h.2.2.2.1, self h.2.2.2.2.1, self h.2.2.2.2.2.1,
      self h.2.2.2.2.2.2.1, self h.2.2.2.2.2.2.2.1, self h.2.2.2.2.2.2.2.2.1, self h.2.2.2.2.2.2.2.2.2.1,
      self h.2.2.2.2.2.2.2.2.2.2.1, self h.2.2.2.2.2.2.2.2.2.2.2.1, self h.2.2.2.2.2.2.2.2.2.2.2.2.1,
      self h.2.2.2.2.2.2.2.2.2.2.2.2.2⟩

instance : RightSelf HardwareSnapshot where
  self {x y} h := by
    have h : instBEqHardwareSnapshot.beq x y = true := h
    show instBEqHardwareSnapshot.beq y y = true
    simp only [instBEqHardwareSnapshot.beq, Bool.and_eq_true] at h ⊢
    exact ⟨self h.1, self h.2.1, self h.2.2.1, self h.2.2.2.1, self h.2.2.2.2.1, self h.2.2.2.2.2.1,
      self h.2.2.2.2.2.2.1, self h.2.2.2.2.2.2.2.1, self h.2.2.2.2.2.2.2.2⟩

instance : RightSelf SystemSnapshot where
  self {x y} h := by
    have h : instBEqSystemSnapshot.beq x y = true := h
    show instBEqSystemSnapshot.beq y y = true
    simp only [instBEqSystemSnapshot.beq, Bool.and_eq_true] at h ⊢
    exact ⟨self h.1, self h.2.1, self h.2.2.1, self h.2.2.2.1, self h.2.2.2.2.1, self h.2.2.2.2.2.1,
      self h.2.2.2.2.2.2.1, self h.2.2.2.2.2.2.2⟩

instance : RightSelf ClientReport where
  self {x y} h := by
    have h : instBEqClientReport.beq x y = true := h
    show instBEqClientReport.beq y y = true
    simp only [instBEqClientReport.beq, Bool.and_eq_true] at h ⊢
    exact ⟨self h.1, self h.2.1, self h.2.2.1, self h.2.2.2.1, self h.2.2.2.2.1, self h.2.2.2.2.2.1,
      self h.2.2.2.2.2.2.1, self h.2.2.2.2.2.2.2⟩

end Xsoc
