import Xsoc.Bounding.Grouping
import Xsoc.Collectors.Numerals
import Xsoc.Report.Records

/-!
# The metrics of a report

A report is also sent as OTLP metrics. The encoder pushes one data point after the other, and the points of one metric
name, unit and kind are gathered in one metric.

* `MetricSet.gauge`, `MetricSet.sum` : the code; `pushTo` : what both of them do;
* `Push`, `pushes` : the points that the encoder pushes, in their order; `encodeReport` : the request;
* `groups_pushTo` : to push is to add to a group; `groups_foldl` : the metrics are the groups of what was pushed;
* `catalogue`, `catalogued` : the names that the encoder uses, each with one unit and one kind;
* `otlp_regroups` : the metrics are the points that were pushed, by their names.
-/

set_option autoImplicit false

namespace Xsoc

open Bounding

namespace Otlp

/-! ## The messages -/

/-- `any_value::Value` -/
inductive AnyValue
  | string (s : String)
  | bool (b : Bool)
  | int (n : Int)
  | double (x : F64)
  deriving DecidableEq

structure KeyValue where
  key : String
  value : Option AnyValue
  deriving DecidableEq

/-- `number_data_point::Value` -/
inductive Number
  | asDouble (x : F64)
  | asInt (n : Int)
  deriving DecidableEq

structure NumberDataPoint where
  attributes : List KeyValue
  startTimeUnixNano : Nat
  timeUnixNano : Nat
  value : Option Number
  flags : Nat
  deriving DecidableEq

/-- `metric::Data`; a sum with its temporality, and whether it is monotonic. -/
inductive Data
  | gauge (dataPoints : List NumberDataPoint)
  | sum (dataPoints : List NumberDataPoint) (aggregationTemporality : Int) (isMonotonic : Bool)
  deriving DecidableEq

structure Metric where
  name : String
  description : String
  unit : String
  data : Option Data
  deriving DecidableEq

structure InstrumentationScope where
  name : String
  version : String
  attributes : List KeyValue
  droppedAttributesCount : Nat

structure ScopeMetrics where
  scope : Option InstrumentationScope
  metrics : List Metric
  schemaUrl : String

structure Resource where
  attributes : List KeyValue
  droppedAttributesCount : Nat

structure ResourceMetrics where
  resource : Option Resource
  scopeMetrics : List ScopeMetrics
  schemaUrl : String

structure ExportMetricsServiceRequest where
  resourceMetrics : List ResourceMetrics

/-- `AggregationTemporality::Cumulative` -/
def cumulative : Int := 2

def attr (key value : String) : KeyValue := ⟨key, some (.string value)⟩

def withAttr (attributes : List KeyValue) (key value : String) : List KeyValue := attributes ++ [attr key value]

def numberPoint (value : F64) (startTime time : Nat) (attributes : List KeyValue) : NumberDataPoint :=
  ⟨attributes, startTime, time, some (.asDouble value), 0⟩

def point (value : F64) (time : Nat) (attributes : List KeyValue) : NumberDataPoint :=
    numberPoint value 0 time attributes

/-! ## The set of metrics -/

inductive MetricKind
  | gauge
  | sum
  deriving DecidableEq

/-- `MetricKind::of` -/
def MetricKind.of (metric : Metric) : Option MetricKind :=
  match metric.data with
  | some (.gauge _) => some .gauge
  | some (.sum _ _ _) => some .sum
  | none => none

namespace Metric

def points (metric : Metric) : List NumberDataPoint :=
  match metric.data with
  | some (.gauge points) => points
  | some (.sum points _ _) => points
  | none => []

/-- `existing.data_points.push(..)` -/
def append (dataPoint : NumberDataPoint) (metric : Metric) : Metric :=
  match metric.data with
  | some (.gauge points) => { metric with data := some (.gauge (points ++ [dataPoint])) }
  | some (.sum points temporality monotonic) =>
    { metric with data := some (.sum (points ++ [dataPoint]) temporality monotonic) }
  | none => metric

end Metric

abbrev MetricSet := List Metric

namespace MetricSet

/-- `slot`: where the metric is that more points are added to. -/
def slot (metrics : MetricSet) (name unit : String) (kind : MetricKind) : Option Nat :=
  metrics.findIdx? fun metric =>
    metric.name == name && metric.unit == unit && decide (MetricKind.of metric = some kind)

/-- A point is pushed to its metric, or comes with a new one. -/
def pushTo (metrics : MetricSet) (name unit : String) (kind : MetricKind) (dataPoint : NumberDataPoint)
    (data : Data) : MetricSet :=
  match slot metrics name unit kind with
  | some i => metrics.modify i (Metric.append dataPoint)
  | none => metrics ++ [⟨name, "", unit, some data⟩]

def gauge (metrics : MetricSet) (name unit : String) (value : F64) (time : Nat) (attributes : List KeyValue) :
    MetricSet :=
  let dataPoint := point value time attributes
  pushTo metrics name unit .gauge dataPoint (.gauge [dataPoint])

def sum (metrics : MetricSet) (name unit : String) (value startTime time : Nat) (attributes : List KeyValue) :
    MetricSet :=
  let dataPoint := numberPoint (F64.ofNat value) startTime time attributes
  pushTo metrics name unit .sum dataPoint (.sum [dataPoint] cumulative true)

end MetricSet

/-! ## The encoder -/

/-- A call of `gauge` or `sum`. -/
inductive Push
  | gauge (name unit : String) (value : F64) (time : Nat) (attributes : List KeyValue)
  | sum (name unit : String) (value startTime time : Nat) (attributes : List KeyValue)

/-- The call is made. -/
def Push.into (metrics : MetricSet) : Push → MetricSet
  | .gauge name unit value time attributes => metrics.gauge name unit value time attributes
  | .sum name unit value startTime time attributes => metrics.sum name unit value startTime time attributes

/-- `collected_at`, in nanoseconds that fit; none before the epoch. -/
def timeOf (collectedAt : DateTime) : Nat :=
  let nanos := if -2 ^ 63 ≤ collectedAt ∧ collectedAt < 2 ^ 63 then collectedAt else 0
  (max nanos 0).toNat

/-- The start of a counter is not known. -/
def startTime : Nat := 0

def networkPushes (time : Nat) (network : NetworkSnapshot) : List Push :=
  let attributes := [attr "network.interface.name" network.name]
  [.sum "system.network.io" "By" network.receivedBytesTotal startTime time
      (withAttr attributes "network.io.direction" "receive"),
    .sum "system.network.io" "By" network.transmittedBytesTotal startTime time
      (withAttr attributes "network.io.direction" "transmit")]

def diskPushes (time : Nat) (disk : DiskSnapshot) : List Push :=
  let attributes := [attr "system.device" disk.name, attr "system.filesystem.mountpoint" disk.mountPoint]
  [.gauge "system.filesystem.usage" "By" (F64.ofNat (disk.totalBytes - disk.availableBytes)) time
      (withAttr attributes "system.filesystem.state" "used"),
    .sum "system.disk.io" "By" disk.readBytesTotal startTime time (withAttr attributes "disk.io.direction" "read"),
    .sum "system.disk.io" "By" disk.writtenBytesTotal startTime time (withAttr attributes "disk.io.direction" "write")]

def temperaturePushes (time : Nat) (temperature : TemperatureSnapshot) : List Push :=
  (temperature.celsius.map fun value => Push.gauge "hw.temperature" "Cel" value time
    [attr "sensor.id" temperature.id, attr "sensor.label" temperature.label,
      attr "telemetry.source" temperature.source]).toList

/-- `append_gpu_metrics` -/
def gpuPushes (time : Nat) (gpu : GpuSnapshot) : List Push :=
  let attrs := [attr "gpu.id" gpu.id, attr "gpu.vendor" gpu.vendor, attr "gpu.name" gpu.name]
  (gpu.utilizationPercent.map fun value =>
      Push.gauge "hw.gpu.utilization" "1" (value.div F64.hundred) time attrs).toList ++
    (gpu.memoryUsedBytes.map fun value =>
      Push.gauge "hw.gpu.memory.usage" "By" (F64.ofNat value) time attrs).toList ++
    (gpu.memoryTotalBytes.map fun value =>
      Push.gauge "hw.gpu.memory.limit" "By" (F64.ofNat value) time attrs).toList ++
    (gpu.temperatureCelsius.map fun value => Push.gauge "hw.gpu.temperature" "Cel" value time attrs).toList ++
    (gpu.powerWatts.map fun value => Push.gauge "hw.gpu.power" "W" value time attrs).toList

/-- What the encoder pushes, in its order. -/
def pushes (report : ClientReport) : List Push :=
  let time := timeOf report.collectedAt
  [.gauge "system.cpu.utilization" "1" (report.system.cpu.usagePercent.div F64.hundred) time [],
      .gauge "system.memory.usage" "By" (F64.ofNat report.system.memory.usedBytes) time
        [attr "system.memory.state" "used"],
      .gauge "system.memory.limit" "By" (F64.ofNat report.system.memory.totalBytes) time [],
      .gauge "system.uptime" "s" (F64.ofNat report.system.uptimeSeconds) time []] ++
    report.system.networks.flatMap (networkPushes time) ++
    report.system.disks.flatMap (diskPushes time) ++
    report.system.temperatures.flatMap (temperaturePushes time) ++
    report.system.gpus.flatMap (gpuPushes time)

/-- `otel_os_type` -/
def otelOsType : String → String
  | "macos" => "darwin"
  | other => other

/-- `otel_host_arch` -/
def otelHostArch (value : String) : String :=
  if value = "x86_64" then "amd64"
  else if value = "aarch64" then "arm64"
  else if value ∈ ["x86", "i386", "i586", "i686"] then "x86"
  else value

/-- `encode_report` -/
def encodeReport (report : ClientReport) : ExportMetricsServiceRequest where
  resourceMetrics := [
    { resource := some
        { attributes := [attr "host.id" report.host.id, attr "os.type" (otelOsType report.host.os),
            attr "host.arch" (otelHostArch report.host.arch), attr "service.name" "xsoc",
            attr "service.version" report.host.clientVersion]
          droppedAttributesCount := 0 }
      scopeMetrics := [
        { scope := some ⟨"xsoc.hostmetrics", report.host.clientVersion, [], 0⟩
          metrics := (pushes report).foldl Push.into []
          schemaUrl := "https://xsos.local/schemas/hostmetrics/1" }]
      schemaUrl := "https://opentelemetry.io/schemas/1.36.0" }]

/-! ## The metrics are groups -/

namespace Push

def name : Push → String
  | .gauge name _ _ _ _ => name
  | .sum name _ _ _ _ _ => name

def unit : Push → String
  | .gauge _ unit _ _ _ => unit
  | .sum _ unit _ _ _ _ => unit

def kind : Push → MetricKind
  | .gauge _ _ _ _ _ => .gauge
  | .sum _ _ _ _ _ _ => .sum

/-- The data point, with its own value and attributes. -/
def point : Push → NumberDataPoint
  | .gauge _ _ value time attributes => Otlp.point value time attributes
  | .sum _ _ value startTime time attributes => numberPoint (F64.ofNat value) startTime time attributes

/-- What the points of one metric have in common. -/
def key (push : Push) : String × String × Option MetricKind := (push.name, push.unit, some push.kind)

end Push

def Metric.key (metric : Metric) : String × String × Option MetricKind :=
  (metric.name, metric.unit, MetricKind.of metric)

/-- A metric as a group of points. -/
def groupOf (metric : Metric) : (String × String × Option MetricKind) × List NumberDataPoint :=
  (metric.key, metric.points)

theorem groupOf_append {metric : Metric} {kind : MetricKind} (dataPoint : NumberDataPoint)
    (h : MetricKind.of metric = some kind) :
    groupOf (metric.append dataPoint) = (metric.key, metric.points ++ [dataPoint]) := by
  obtain ⟨name, description, unit, data⟩ := metric
  cases data with
  | none => cases h
  | some data => cases data <;> rfl

/-- To push a point is to add it to its group. -/
theorem groups_pushTo {metrics : MetricSet} {name unit : String} {kind : MetricKind} {dataPoint : NumberDataPoint}
    {data : Data} (hdata : groupOf ⟨name, "", unit, some data⟩ = ((name, unit, some kind), [dataPoint])) :
    (metrics.pushTo name unit kind dataPoint data).map groupOf =
      addTo (name, unit, some kind) dataPoint (metrics.map groupOf) := by
  unfold MetricSet.pushTo MetricSet.slot
  induction metrics with
  | nil => exact congrArg (fun g => [g]) hdata
  | cons metric metrics ih =>
    have hkey : (metric.name == name && metric.unit == unit && decide (MetricKind.of metric = some kind)) = true ↔
        (groupOf metric).1 = (name, unit, some kind) := by
      simp [groupOf, Metric.key, and_assoc]
    rw [List.findIdx?_cons, List.map_cons, addTo]
    by_cases h : (groupOf metric).1 = (name, unit, some kind)
    · have hkind : MetricKind.of metric = some kind := (Prod.mk.inj (Prod.mk.inj h).2).2
      rw [if_pos (hkey.mpr h), if_pos h]
      exact congrArg (· :: metrics.map groupOf) (groupOf_append dataPoint hkind)
    · rw [if_neg (fun heq => h (hkey.mp heq)), if_neg h, ← ih]
      cases metrics.findIdx? _ with
      | none => rfl
      | some i => rfl

theorem groups_into (metrics : MetricSet) (push : Push) :
    (push.into metrics).map groupOf = addTo push.key push.point (metrics.map groupOf) := by
  cases push <;> exact groups_pushTo rfl

/-- The metrics are the groups of what was pushed. -/
theorem groups_foldl (pushes : List Push) :
    (pushes.foldl Push.into []).map groupOf = group (pushes.map fun push => (push.key, push.point)) := by
  induction pushes using List.reverseRecOn with
  | nil => rfl
  | append_singleton pushes push ih =>
    rw [List.foldl_append, List.map_append, List.map_singleton, group_concat, ← ih]
    exact groups_into _ push

/-! ## The names of the encoder -/

/-- Each metric of the encoder, with its unit and its kind. -/
def catalogue : List (String × String × Option MetricKind) :=
  [("system.cpu.utilization", "1", some .gauge), ("system.memory.usage", "By", some .gauge),
    ("system.memory.limit", "By", some .gauge), ("system.uptime", "s", some .gauge),
    ("system.network.io", "By", some .sum), ("system.filesystem.usage", "By", some .gauge),
    ("system.disk.io", "By", some .sum), ("hw.temperature", "Cel", some .gauge),
    ("hw.gpu.utilization", "1", some .gauge), ("hw.gpu.memory.usage", "By", some .gauge),
    ("hw.gpu.memory.limit", "By", some .gauge), ("hw.gpu.temperature", "Cel", some .gauge),
    ("hw.gpu.power", "W", some .gauge)]

theorem nodup_catalogue : (catalogue.map Prod.fst).Nodup := by decide +kernel

theorem catalogued {report : ClientReport} {push : Push} (h : push ∈ pushes report) : push.key ∈ catalogue := by
  simp only [pushes, List.mem_append, List.mem_flatMap] at h
  rcases h with (((h | ⟨network, -, h⟩) | ⟨disk, -, h⟩) | ⟨temperature, -, h⟩) | ⟨gpu, -, h⟩
  · simp only [List.mem_cons, List.not_mem_nil, or_false] at h
    rcases h with rfl | rfl | rfl | rfl <;> simp [catalogue, Push.key, Push.name, Push.unit, Push.kind]
  · simp only [networkPushes, List.mem_cons, List.not_mem_nil, or_false] at h
    rcases h with rfl | rfl <;> simp [catalogue, Push.key, Push.name, Push.unit, Push.kind]
  · simp only [diskPushes, List.mem_cons, List.not_mem_nil, or_false] at h
    rcases h with rfl | rfl | rfl <;> simp [catalogue, Push.key, Push.name, Push.unit, Push.kind]
  · simp only [temperaturePushes, Option.mem_toList, Option.map_eq_some_iff] at h
    obtain ⟨value, -, rfl⟩ := h
    simp [catalogue, Push.key, Push.name, Push.unit, Push.kind]
  · simp only [gpuPushes, List.mem_append, Option.mem_toList, Option.map_eq_some_iff] at h
    rcases h with (((⟨value, -, rfl⟩ | ⟨value, -, rfl⟩) | ⟨value, -, rfl⟩) | ⟨value, -, rfl⟩) | ⟨value, -, rfl⟩ <;>
      simp [catalogue, Push.key, Push.name, Push.unit, Push.kind]

/-- In the catalogue a name has one unit and one kind. -/
theorem eq_of_name {k k' : String × String × Option MetricKind} (hk : k ∈ catalogue) (hk' : k' ∈ catalogue)
    (h : k.1 = k'.1) : k = k' :=
  List.inj_on_of_nodup_map nodup_catalogue hk hk' h

/-! ## The metrics of a report -/

/-- The metrics hold just what was pushed: each name is there once, with one unit and one kind, and not without a point;
its points are those pushed under that name, in their order, and together they are all that was pushed. -/
structure Regroups (metrics : List Metric) (pushes : List Push) : Prop where
  unique : (metrics.map Metric.name).Nodup
  nonempty : ∀ metric ∈ metrics, metric.points ≠ []
  own : ∀ metric ∈ metrics,
    metric.points = (pushes.filter fun push => decide (push.name = metric.name)).map Push.point
  uniform : ∀ metric ∈ metrics, ∀ push ∈ pushes, push.name = metric.name →
    push.unit = metric.unit ∧ MetricKind.of metric = some push.kind
  complete : ∀ push ∈ pushes, ∃ metric ∈ metrics, metric.name = push.name
  same : (metrics.flatMap Metric.points).Perm (pushes.map Push.point)

theorem regroups_foldl {pushes : List Push} (hcatalogued : ∀ push ∈ pushes, push.key ∈ catalogue) :
    Regroups (pushes.foldl Push.into []) pushes := by
  let metrics := pushes.foldl Push.into []
  let pairs := pushes.map fun push => (push.key, push.point)
  have hgroups : metrics.map groupOf = group pairs := groups_foldl pushes
  have hkeys : (metrics.map Metric.key).Nodup := by
    have hnodup := nodup_keys_group pairs
    rwa [← hgroups, List.map_map] at hnodup
  have hmem {metric : Metric} (h : metric ∈ metrics) :
      metric.points ≠ [] ∧ metric.points = valuesOf metric.key pairs :=
    mem_group.mp (hgroups ▸ List.mem_map.mpr ⟨metric, h, rfl⟩)
  -- a metric has a point, so its name is one of the catalogue
  have hkey {metric : Metric} (h : metric ∈ metrics) : metric.key ∈ catalogue := by
    obtain ⟨hne, hvalues⟩ := hmem h
    obtain ⟨dataPoint, hpoint⟩ := List.exists_mem_of_ne_nil _ hne
    rw [hvalues, valuesOf, List.mem_map] at hpoint
    obtain ⟨pair, hpair, -⟩ := hpoint
    rw [List.mem_filter, decide_eq_true_eq] at hpair
    obtain ⟨push, hpush, rfl⟩ := List.mem_map.mp hpair.1
    exact hpair.2 ▸ hcatalogued push hpush
  have hname {metric : Metric} {push : Push} (h : metric ∈ metrics) (hpush : push ∈ pushes) :
      push.key = metric.key ↔ push.name = metric.name :=
    ⟨congrArg Prod.fst, fun heq => eq_of_name (hcatalogued push hpush) (hkey h) heq⟩
  refine ⟨?_, fun metric h => (hmem h).1, ?_, ?_, ?_, ?_⟩
  · have hnames : metrics.map Metric.name = (metrics.map Metric.key).map Prod.fst := by
      rw [List.map_map]
      rfl
    show (metrics.map Metric.name).Nodup
    rw [hnames]
    apply hkeys.map_on
    intro k hk k' hk' heq
    obtain ⟨metric, h, rfl⟩ := List.mem_map.mp hk
    obtain ⟨metric', h', rfl⟩ := List.mem_map.mp hk'
    exact eq_of_name (hkey h) (hkey h') heq
  · intro metric h
    rw [(hmem h).2, valuesOf, List.filter_map, List.map_map]
    show (pushes.filter fun push => decide (push.key = metric.key)).map Push.point = _
    congr 1
    apply List.filter_congr
    intro push hpush
    rw [decide_eq_decide]
    exact hname h hpush
  · intro metric h push hpush heq
    have hsame := (hname h hpush).mpr heq
    have hrest := (Prod.mk.inj hsame).2
    exact ⟨(Prod.mk.inj hrest).1, (Prod.mk.inj hrest).2.symm⟩
  · intro push hpush
    have hin : push.key ∈ (group pairs).map Prod.fst := by
      rw [keys_group, mem_collect, List.map_map]
      exact List.mem_map.mpr ⟨push, hpush, rfl⟩
    rw [← hgroups, List.map_map] at hin
    obtain ⟨metric, h, heq⟩ := List.mem_map.mp hin
    exact ⟨metric, h, congrArg Prod.fst heq⟩
  · have hperm := values_group_perm pairs
    rwa [← hgroups, List.flatMap_map, List.map_map] at hperm

/-- The request for a report has one scope, and its metrics are the points that the encoder pushes for the report,
regrouped by their names. -/
theorem otlp_regroups (report : ClientReport) :
    ∃ metrics, (encodeReport report).resourceMetrics.map
      (fun resource => resource.scopeMetrics.map ScopeMetrics.metrics) =
        [[metrics]] ∧
      Regroups metrics (pushes report) :=
  ⟨_, rfl, regroups_foldl fun _ => catalogued⟩

end Otlp

end Xsoc
