import Xsoc.Bounding.Listing
import Xsoc.Report.Compliance
import Xsoc.Report.Rendering

/-!
# The host-driven client

On a phone the native application takes the samples, and the adapter makes reports of them. Each report has to tell what
such a client cannot do: it does not see the whole system, and it is no daemon.

* `prepareReport` : the report of a sample, as it is sent;
* `Disclosed` : a report has exactly one capability of a boundary's name, and it is the boundary's;
* `Kept` : the capabilities of a report leave it so, when it is bounded;
* `prepare_report_discloses_iff` : the two are the same, where the body fits without its hardware.
-/

set_option autoImplicit false

namespace Xsoc

open Bounding

inductive MobilePlatform
  | android
  | ios
  | ipadOs
  deriving DecidableEq, Repr

def MobilePlatform.wireName : MobilePlatform → String
  | android => "android"
  | ios => "ios"
  | ipadOs => "ipados"

structure MobileHostDescriptor where
  hostId : String
  platform : MobilePlatform
  osVersion : Option String
  arch : String
  deriving DecidableEq

structure MobileSample where
  collectedAt : DateTime
  intervalSeconds : F64
  system : SystemSnapshot
  capabilities : List Capability
  spoolPendingBatches : Nat

structure MobileReportPayload where
  report : ClientReport
  body : List UInt8
  deriving DecidableEq

attribute [ext] MobileReportPayload

inductive MobileAdapterError
  | invalidHostId
  | emptyArchitecture
  | invalidReport (text : String)
  deriving DecidableEq

/-- Its host has a canonical identity and an architecture. -/
structure MobileHostAdapter where
  host : HostIdentity
  canonical : ∃ id : Uuid, host.id = id.toString
  architecture : trim host.arch.toList ≠ []
  deriving DecidableEq

/-- `MobileHostAdapter::new`, in a client of this version. -/
def MobileHostAdapter.new (clientVersion : String) (descriptor : MobileHostDescriptor) :
    Except MobileAdapterError MobileHostAdapter :=
  match Uuid.parseStr descriptor.hostId with
  | none => .error .invalidHostId
  | some parsed =>
    if hid : parsed.toString = descriptor.hostId then
      if harch : trim descriptor.arch.toList = [] then .error .emptyArchitecture
      else .ok ⟨⟨descriptor.hostId, descriptor.platform.wireName, descriptor.osVersion, none, descriptor.arch,
        clientVersion⟩, ⟨parsed, hid.symm⟩, harch⟩
    else .error .invalidHostId

/-! ## The boundaries -/

def wholeSystem : Capability :=
  Capability.unavailable "collection.scope.whole_system" "mobile-host" .unsupported
    "mobile telemetry is limited to information visible to the application sandbox"

def backgroundDaemon : Capability :=
  Capability.unavailable "client.background.daemon" "mobile-host" .unsupported
    "execution and background delivery are controlled by the host application and operating system"

/-- `insert_boundary_capability` -/
def insertBoundaryCapability (capabilities : List Capability) (boundary : Capability) : List Capability :=
  capabilities.filter (fun c => c.name ≠ boundary.name) ++ [boundary]

/-- What a collector met, other than that there is nothing to collect. -/
def Capability.isCollectorError (c : Capability) : Bool :=
  !c.available && (c.errorKind == some .transient || c.errorKind == some .invalidData)

section

variable (wire : Wire) (display : Error → String) (adapter : MobileHostAdapter) (now : DateTime) (reportId : Uuid)

def mobileCapabilities (sample : MobileSample) : List Capability :=
  insertBoundaryCapability (insertBoundaryCapability sample.capabilities wholeSystem) backgroundDaemon

/-- The report, before it is bounded. -/
def mobileReport (sample : MobileSample) : ClientReport where
  schemaVersion := wire.schemaVersion
  reportId := reportId.toString
  collectedAt := sample.collectedAt
  host := adapter.host
  intervalSeconds := sample.intervalSeconds
  system := sample.system
  capabilities := mobileCapabilities sample
  client := ⟨sample.spoolPendingBatches, (mobileCapabilities sample).countP Capability.isCollectorError⟩

/-- `prepare_report`, at the time `now`, with a fresh report id. -/
def prepareReport (sample : MobileSample) : Except MobileAdapterError MobileReportPayload :=
  match encodeReportBody wire now (mobileReport wire adapter reportId sample) with
  | .ok (report, body) => .ok ⟨report, body⟩
  | .error error => .error (.invalidReport (display error))

/-- Exactly one capability has the boundary's name, and it is unavailable with the boundary's source. -/
def Disclosed (boundary : Capability) (r : ClientReport) : Prop :=
  ∃ c, r.capabilities.filter (fun c => c.name = boundary.name) = [c] ∧ c.available = false ∧
    c.source = boundary.source

/-! ## What bounding leaves of a boundary -/

/-- The capabilities of a report, with bounded texts. -/
def boundedCapabilities (r : ClientReport) : List Capability :=
  r.capabilities.map fun c => (boundCapability wire c).value

/-- How many names and sources among the capabilities come before those of `c`. -/
def ahead (l : List Capability) (c : Capability) : Nat :=
  (l.map Capability.group).dedup.countP fun g => g < c.group

/-- The body fits, at the latest when the hardware is dropped. -/
def Fits (r : ClientReport) : Prop :=
  tooLong wire (boundBeforeFitting wire true now r).value = false ∨
    tooLong wire (boundBeforeFitting wire true now r).value.withoutHardware = false

instance (r : ClientReport) : Decidable (Fits wire now r) := by
  unfold Fits
  infer_instance

/-- How many capabilities there may be: the contract's number, less the diagnostic where a report that does not keep to
the contract has none. -/
def room (r : ClientReport) : Nat :=
  if alreadyMarked r = true ∨ Compliant wire true now r then wire.maxCapabilities else wire.maxCapabilities - 1

/-- Of `room` capabilities the boundary is one, and no capability that reads as the boundary is available. -/
structure Shown (room : Nat) (boundary : Capability) (r : ClientReport) : Prop where
  inside : ahead (boundedCapabilities wire r) boundary < room
  genuine : ∀ c ∈ boundedCapabilities wire r, c.name = boundary.name → c.source = boundary.source →
    c.available = false

/-- And there is no room for a capability that has the boundary's name with another source. -/
structure Kept (room : Nat) (boundary : Capability) (r : ClientReport) : Prop extends Shown wire room boundary r where
  alone : ∀ c ∈ boundedCapabilities wire r, c.name = boundary.name → c.source ≠ boundary.source →
    room ≤ ahead (boundedCapabilities wire r) c

/-! ## Sorted capabilities, and those that are left -/

/-- Sorted, with one capability for each name and source. -/
def sortedCapabilities (l : List Capability) : List Capability :=
  dedupAdjacent (fun c => (c.name, c.source)) (orderCapabilities wire l)

theorem boundCapabilities_eq_take (l : List Capability) :
    (boundCapabilities wire l).value = (sortedCapabilities wire l).take wire.maxCapabilities := by
  simp only [boundCapabilities, Marked.bind_value, truncate_value, resized_value]
  rfl

theorem distinct_sortedCapabilities (l : List Capability) : Distinct (sortedCapabilities wire l) := by
  have hresult := (sortedCapabilities_settles wire).result l
  rwa [Marked.bind_value, resized_value] at hresult

theorem mem_of_mem_sortedCapabilities {l : List Capability} {c : Capability} (h : c ∈ sortedCapabilities wire l) :
    c ∈ l :=
  (mem_sortBy _).mp ((dedupAdjacent_sublist _ _).subset h)

theorem Distinct.eq_of_group {l : List Capability} (h : Distinct l) {c d : Capability} (hc : c ∈ l) (hd : d ∈ l)
    (hcd : c.group = d.group) : c = d := by
  have hnodup : (l.map Capability.group).Nodup := List.pairwise_map.mpr (h.imp ne_of_lt)
  exact List.inj_on_of_nodup_map hnodup hc hd hcd

/-- Of each name and source one capability stays, and it is available if any of them is. -/
theorem exists_mem_sortedCapabilities {l : List Capability} {c : Capability} (hc : c ∈ l) :
    ∃ d ∈ sortedCapabilities wire l, d.group = c.group ∧ d.sortKey wire ≤ c.sortKey wire := by
  obtain ⟨d, hd, hsame, hle⟩ := exists_le_mem_dedupAdjacent (μ := String × String)
    (inOrder_sortBy (Capability.sortKey wire) l) ((mem_sortBy _).mpr hc)
  exact ⟨d, hd, (Capability.group_eq_iff d c).mpr hsame, hle⟩

theorem available_of_sortKey_le {c d : Capability} (hgroup : c.group = d.group)
    (hle : c.sortKey wire ≤ d.sortKey wire) (hd : d.available = true) : c.available = true := by
  rw [Capability.sortKey, Capability.sortKey, Prod.Lex.toLex_le_toLex] at hle
  have hrest := (hle.resolve_left (by rw [hgroup]; exact lt_irrefl _)).2
  rw [Prod.Lex.toLex_le_toLex, hd] at hrest
  cases hc : c.available with
  | true => rfl
  | false =>
    rw [hc] at hrest
    rcases hrest with hlt | ⟨heq, -⟩
    · exact absurd (show true < false from hlt) (by decide)
    · exact absurd (show true = false from heq) (by decide)

theorem ahead_eq_countP (l : List Capability) (c : Capability) :
    ahead l c = (sortedCapabilities wire l).countP fun d => d.group < c.group := by
  have hperm : ((sortedCapabilities wire l).map Capability.group).Perm (l.map Capability.group).dedup := by
    have hnodup : ((sortedCapabilities wire l).map Capability.group).Nodup :=
      List.pairwise_map.mpr ((distinct_sortedCapabilities wire l).imp ne_of_lt)
    refine (List.perm_ext_iff_of_nodup hnodup (List.nodup_dedup _)).mpr fun g => ?_
    rw [List.mem_dedup, List.mem_map, List.mem_map]
    constructor
    · rintro ⟨d, hd, rfl⟩
      exact ⟨d, mem_of_mem_sortedCapabilities wire hd, rfl⟩
    · rintro ⟨d, hd, rfl⟩
      obtain ⟨e, he, hsame, -⟩ := exists_mem_sortedCapabilities wire hd
      exact ⟨e, he, hsame⟩
  rw [ahead, ← hperm.countP_eq, List.countP_map]
  rfl

/-- Among the first `k` of the sorted capabilities are those with fewer than `k` names and sources before them. -/
theorem mem_take_sortedCapabilities {l : List Capability} {c : Capability}
    (hc : c ∈ sortedCapabilities wire l) {k : Nat} :
    c ∈ (sortedCapabilities wire l).take k ↔ ahead l c < k := by
  rw [ahead_eq_countP wire]
  exact mem_take_iff_countP_lt (distinct_sortedCapabilities wire l) hc

/-- What has another name than the diagnostic is not moved by it. -/
theorem filter_take_fullCapabilities {name : String} (hname : name ≠ truncatedCapability) {due : Bool}
    {v : ClientReport}
    {k : Nat} (hk : k ≤ wire.maxCapabilities) :
    ((fullCapabilities wire due v).take k).filter (fun c => c.name = name) =
      ((sortedCapabilities wire v.capabilities).take (k - if due then 1 else 0)).filter (fun c => c.name = name) := by
  unfold fullCapabilities
  rw [boundCapabilities_eq_take]
  cases due with
  | false => rw [if_neg Bool.false_ne_true, if_neg Bool.false_ne_true, List.take_take, min_eq_left hk, Nat.sub_zero]
  | true =>
    have hmarker : ∀ c : Capability, c.isMarker = true → decide (c.name = name) = false := fun c hc =>
      decide_eq_false fun heq => hname (heq.symm.trans (beq_iff_eq.mp hc))
    have hsorted : InOrder (Capability.sortKey wire)
        ((sortedCapabilities wire v.capabilities).take wire.maxCapabilities) :=
      ((distinct_sortedCapabilities wire _).inOrder wire).sublist (List.take_sublist _ _)
    obtain ⟨before, after, hsplit, hsort, hbefore⟩ := sortBy_concat hsorted truncationMarker
    -- what does not come after the diagnostic has its name
    have hmarks : ∀ c ∈ before, c.isMarker = true := by
      intro c hc
      by_contra hc'
      rw [Bool.not_eq_true] at hc'
      have hlt : truncationMarker.sortKey wire < c.sortKey wire :=
        Capability.sortKey_lt_of_group_lt (Capability.group_lt_of_isMarker isMarker_truncationMarker hc')
      exact absurd (hbefore c hc) (not_le.mpr hlt)
    have hfilter : ((before ++ truncationMarker :: after).take k).filter (fun c => c.name = name) =
        ((before ++ after).take (k - 1)).filter (fun c => c.name = name) :=
      filter_take_insert (p := fun c : Capability => decide (c.name = name)) (hmarker _ isMarker_truncationMarker)
        (fun c hc => hmarker c (hmarks c hc)) k
    rw [if_pos rfl, if_pos rfl, orderCapabilities, hsort, hfilter, ← hsplit, List.take_take, min_eq_left (by omega)]

/-! ## What is left of a report -/

theorem fitBody_withoutHardware {minima : Minima} {r : ClientReport} (hlong : tooLong wire r = true)
    (hfits : tooLong wire r.withoutHardware = false) : fitBody wire minima r = r.withoutHardware := by
  rw [fitBody_eq_loops wire minima hlong, shrinkLoop, dif_neg (by simp [hfits]), removeLoop_eq_self wire hfits]

theorem room_eq (r : ClientReport) :
    room wire now r = wire.maxCapabilities - if markDue wire true now r then 1 else 0 := by
  have hchanged : (boundBeforeFitting wire true now r).changed = false ↔ Compliant wire true now r :=
    bound_report_changed_iff wire true now r
  unfold room markDue
  by_cases hcompliant : Compliant wire true now r
  · rw [if_pos (Or.inr hcompliant), hchanged.mpr hcompliant, Bool.false_and, if_neg Bool.false_ne_true, Nat.sub_zero]
  · have hraised : (boundBeforeFitting wire true now r).changed = true := by simpa using mt hchanged.mp hcompliant
    rw [hraised, Bool.true_and]
    cases hmarked : alreadyMarked r with
    | true => rw [if_pos (Or.inl rfl), Bool.not_true, if_neg Bool.false_ne_true, Nat.sub_zero]
    | false => rw [if_neg (by simp [hcompliant]), Bool.not_false, if_pos rfl]

/-- The capabilities of a bounded report are the first of all, and as many as there may be where the body fits. -/
theorem capabilities_boundReport (r : ClientReport) : ∃ k ≤ wire.maxCapabilities,
    (boundReport wire now r).value.capabilities =
      (fullCapabilities wire (markDue wire true now r) (boundValues wire true now r).value).take k ∧
    (Fits wire now r → k = wire.maxCapabilities) := by
  by_cases hfits : Fits wire now r
  · refine ⟨wire.maxCapabilities, Nat.le_refl _, ?_, fun _ => rfl⟩
    rw [← capabilities_boundBeforeFitting wire true now r]
    show (fitBody wire _ (boundBeforeFitting wire true now r).value).capabilities = _
    by_cases hlong : tooLong wire (boundBeforeFitting wire true now r).value = true
    · have hwithout := hfits.resolve_left (by simp [hlong])
      rw [fitBody_withoutHardware wire hlong hwithout]
      rfl
    · rw [fitBody_eq_self wire (Bool.eq_false_iff.mpr hlong)]
  · obtain ⟨k, hk, heq⟩ := (boundReport_trimmed wire true now r).capabilities
    exact ⟨k, hk, heq, fun h => absurd h hfits⟩

/-- Of the sorted capabilities the first stay, as many as there is room for. -/
theorem filter_capabilities_boundReport {name : String} (hname : name ≠ truncatedCapability) (r : ClientReport) :
    ∃ m ≤ room wire now r, (boundReport wire now r).value.capabilities.filter (fun c => c.name = name) =
        ((sortedCapabilities wire (boundedCapabilities wire r)).take m).filter (fun c => c.name = name) ∧
      (Fits wire now r → m = room wire now r) := by
  obtain ⟨k, hk, heq, hfits⟩ := capabilities_boundReport wire now r
  refine ⟨k - if markDue wire true now r then 1 else 0, ?_, ?_, fun h => ?_⟩
  · rw [room_eq]
    exact Nat.sub_le_sub_right hk _
  · rw [heq, filter_take_fullCapabilities wire hname hk, capabilities_boundValues]
    rfl
  · rw [room_eq, hfits h]

theorem ahead_congr {l : List Capability} {c d : Capability} (h : c.group = d.group) : ahead l c = ahead l d := by
  rw [ahead, ahead, h]

/-- Where the first `m` of the sorted capabilities stay, a boundary that reads as itself is disclosed exactly if it is
kept among them. -/
theorem disclosed_iff_kept {boundary : Capability} {r b : ClientReport} {m : Nat}
    (hfilter : b.capabilities.filter (fun c => c.name = boundary.name) =
      ((sortedCapabilities wire (boundedCapabilities wire r)).take m).filter (fun c => c.name = boundary.name))
    (hmem : ∃ c ∈ boundedCapabilities wire r, c.group = boundary.group) :
    Disclosed boundary b ↔ Kept wire m boundary r := by
  obtain ⟨b, hb, hgroup⟩ := hmem
  -- of the capabilities that read as the boundary, one is among the sorted
  obtain ⟨x, hx, hsame, -⟩ := exists_mem_sortedCapabilities wire hb
  have hxboundary : x.group = boundary.group := hsame.trans hgroup
  obtain ⟨hxname, hxsource⟩ := Prod.mk.inj ((Capability.group_eq_iff x boundary).mp hxboundary)
  have hdistinct := distinct_sortedCapabilities wire (boundedCapabilities wire r)
  have hinside : x ∈ (sortedCapabilities wire (boundedCapabilities wire r)).take m ↔
      ahead (boundedCapabilities wire r) boundary < m := by
    rw [mem_take_sortedCapabilities wire hx, ahead_congr hxboundary]
  have honly : ∀ c ∈ sortedCapabilities wire (boundedCapabilities wire r), c.name = boundary.name →
      c.source = boundary.source → c = x := fun c hc hcname hcsource =>
    hdistinct.eq_of_group hc hx ((Capability.group_eq_iff c x).mpr (by rw [hcname, hcsource, hxname, hxsource]))
  rw [Disclosed, hfilter]
  constructor
  · rintro ⟨c, hone, hoff, hsource⟩
    have hfirst : ∀ d, d ∈ [c] ↔ d ∈ (sortedCapabilities wire (boundedCapabilities wire r)).take m ∧
        d.name = boundary.name := fun d => by rw [← hone, List.mem_filter, decide_eq_true_eq]
    obtain ⟨hc, hcname⟩ := (hfirst c).mp List.mem_cons_self
    obtain rfl := honly c (List.mem_of_mem_take hc) hcname hsource
    refine ⟨⟨hinside.mp hc, fun d hd hdname hdsource => ?_⟩, fun d hd hdname hdsource => ?_⟩
    · obtain ⟨e, he, hed, hle⟩ := exists_mem_sortedCapabilities wire hd
      obtain ⟨hename, hesource⟩ := Prod.mk.inj ((Capability.group_eq_iff e d).mp hed)
      obtain rfl := honly e he (hename.trans hdname) (hesource.trans hdsource)
      by_contra hon
      rw [available_of_sortKey_le wire hed hle (by simpa using hon)] at hoff
      cases hoff
    · obtain ⟨e, he, hed, -⟩ := exists_mem_sortedCapabilities wire hd
      obtain ⟨hename, hesource⟩ := Prod.mk.inj ((Capability.group_eq_iff e d).mp hed)
      by_contra hlt
      rw [not_le, ← ahead_congr hed, ← mem_take_sortedCapabilities wire he] at hlt
      have heq : e = c := List.mem_singleton.mp ((hfirst e).mpr ⟨hlt, hename.trans hdname⟩)
      exact hdsource (hesource.symm.trans (heq ▸ hsource))
  · rintro ⟨⟨hin, hgenuine⟩, halone⟩
    refine ⟨x, ?_, hgenuine x (mem_of_mem_sortedCapabilities wire hx) hxname hxsource, hxsource⟩
    have hnodup : (sortedCapabilities wire (boundedCapabilities wire r)).Nodup :=
      hdistinct.imp fun hlt heq => absurd (heq ▸ hlt) (lt_irrefl _)
    have hfirst : (((sortedCapabilities wire (boundedCapabilities wire r)).take m).filter
        fun c => c.name = boundary.name).Nodup := (hnodup.sublist (List.take_sublist _ _)).filter _
    refine List.perm_singleton.mp ((List.perm_ext_iff_of_nodup hfirst (List.nodup_singleton x)).mpr fun c => ?_)
    rw [List.mem_filter, decide_eq_true_eq, List.mem_singleton]
    constructor
    · rintro ⟨hc, hcname⟩
      have hsorted := List.mem_of_mem_take hc
      by_contra hne
      have hother : c.source ≠ boundary.source := fun hcsource => hne (honly c hsorted hcname hcsource)
      exact absurd ((mem_take_sortedCapabilities wire hsorted).mp hc)
        (not_lt.mpr (halone c (mem_of_mem_sortedCapabilities wire hsorted) hcname hother))
    · rintro rfl
      exact ⟨hinside.mpr hin, hxname⟩

/-- A name and a source within the contract are left as they are. -/
theorem group_boundCapability {c : Capability} (hname : Text.Required wire.maxCapabilityNameBytes c.name)
    (hsource : Text.Required wire.maxCapabilitySourceBytes c.source) :
    (boundCapability wire c).value.group = c.group := by
  have hnames : Settles (boundRequiredText wire.maxCapabilityNameBytes "unknown.capability") _ Eq :=
    boundRequiredText_settles (.ofString (by decide) (by decide)) (by have := wire.capabilityName; omega)
  have hsources : Settles (boundRequiredText wire.maxCapabilitySourceBytes "unknown") _ Eq :=
    boundRequiredText_settles unknown_fallback (by have := wire.capabilitySource; omega)
  rw [Capability.group_eq_iff]
  simp only [boundCapability, Marked.bind_value, Marked.pure_value, hnames.fixed hname, hsources.fixed hsource]

theorem required_wholeSystem (h : 29 ≤ wire.maxCapabilityNameBytes) :
    Text.Required wire.maxCapabilityNameBytes wholeSystem.name :=
  ⟨⟨Nat.le_trans (by decide +kernel : byteLen wholeSystem.name.toList ≤ 29) h, by decide +kernel⟩, by decide +kernel⟩

theorem required_backgroundDaemon (h : 29 ≤ wire.maxCapabilityNameBytes) :
    Text.Required wire.maxCapabilityNameBytes backgroundDaemon.name :=
  ⟨⟨Nat.le_trans (by decide +kernel : byteLen backgroundDaemon.name.toList ≤ 29) h, by decide +kernel⟩,
    by decide +kernel⟩

theorem required_mobileHost (h : 11 ≤ wire.maxCapabilitySourceBytes) :
    Text.Required wire.maxCapabilitySourceBytes "mobile-host" :=
  ⟨⟨Nat.le_trans (by decide +kernel : byteLen "mobile-host".toList ≤ 11) h, by decide +kernel⟩, by decide +kernel⟩

theorem wholeSystem_mem (sample : MobileSample) : wholeSystem ∈ mobileCapabilities sample := by
  rw [mobileCapabilities, insertBoundaryCapability, insertBoundaryCapability, List.mem_append, List.mem_filter]
  exact Or.inl ⟨List.mem_append_right _ List.mem_cons_self, by decide +kernel⟩

theorem backgroundDaemon_mem (sample : MobileSample) : backgroundDaemon ∈ mobileCapabilities sample := by
  rw [mobileCapabilities, insertBoundaryCapability]
  exact List.mem_append_right _ List.mem_cons_self

/-- A boundary that the adapter inserts reads as itself when it has been bounded. -/
theorem reads_boundary {boundary : Capability} {sample : MobileSample} (hmem : boundary ∈ mobileCapabilities sample)
    (hname : Text.Required wire.maxCapabilityNameBytes boundary.name)
    (hsource : Text.Required wire.maxCapabilitySourceBytes boundary.source) :
    ∃ c ∈ boundedCapabilities wire (mobileReport wire adapter reportId sample), c.group = boundary.group :=
  ⟨_, List.mem_map.mpr ⟨boundary, hmem, rfl⟩, group_boundCapability wire hname hsource⟩

theorem prepareReport_eq_ok {sample : MobileSample} {payload : MobileReportPayload} :
    prepareReport wire display adapter now reportId sample = .ok payload ↔
      payload.report = (boundReport wire now (mobileReport wire adapter reportId sample)).value ∧
        wire.toVec payload.report = .ok payload.body ∧ payload.body.length ≤ wire.maxBodyBytes := by
  have hencode : prepareReport wire display adapter now reportId sample = .ok payload ↔
      encodeReportBody wire now (mobileReport wire adapter reportId sample) = .ok (payload.report, payload.body) := by
    unfold prepareReport
    cases encodeReportBody wire now (mobileReport wire adapter reportId sample) with
    | error e => simp
    | ok encoded => simp only [Except.ok.injEq, MobileReportPayload.ext_iff, Prod.ext_iff]
  rw [hencode, encodeReportBody, encodeReportBodyInner_eq_ok]
  constructor
  · rintro ⟨-, hreport, hbody⟩
    exact ⟨hreport.symm, hbody⟩
  · rintro ⟨hreport, hbody⟩
    exact ⟨rfl, hreport.symm, hbody⟩

theorem Shown.mono {m k : Nat} (hle : m ≤ k) {boundary : Capability} {r : ClientReport}
    (h : Shown wire m boundary r) : Shown wire k boundary r :=
  ⟨h.inside.trans_le hle, h.genuine⟩

/-- What a bounded report tells of a boundary that reads as itself. -/
theorem disclosed_boundReport {boundary : Capability} (hname : boundary.name ≠ truncatedCapability) {r : ClientReport}
    (hmem : ∃ c ∈ boundedCapabilities wire r, c.group = boundary.group) :
    (Disclosed boundary (boundReport wire now r).value → Shown wire (room wire now r) boundary r) ∧
      (Fits wire now r →
        (Disclosed boundary (boundReport wire now r).value ↔ Kept wire (room wire now r) boundary r)) := by
  obtain ⟨m, hle, hfilter, hfits⟩ := filter_capabilities_boundReport wire now hname r
  have hiff := disclosed_iff_kept wire hfilter hmem
  exact ⟨fun h => (hiff.mp h).toShown.mono wire hle, fun h => hfits h ▸ hiff⟩

/-- **What a report discloses.** A report that discloses both boundaries has room for each of them, and no capability of
the sample that reads as one is available. Where the body fits, at the latest without its hardware, both boundaries are
disclosed exactly if that is so, and there is no room for a capability that has the name of one with another source. -/
theorem prepare_report_discloses_iff (hname : 29 ≤ wire.maxCapabilityNameBytes)
    (hsource : 11 ≤ wire.maxCapabilitySourceBytes) {sample : MobileSample} {payload : MobileReportPayload}
    (h : prepareReport wire display adapter now reportId sample = .ok payload) :
    (Disclosed wholeSystem payload.report ∧ Disclosed backgroundDaemon payload.report →
      Shown wire (room wire now (mobileReport wire adapter reportId sample)) wholeSystem
          (mobileReport wire adapter reportId sample) ∧
        Shown wire (room wire now (mobileReport wire adapter reportId sample)) backgroundDaemon
          (mobileReport wire adapter reportId sample)) ∧
    (Fits wire now (mobileReport wire adapter reportId sample) →
      (Disclosed wholeSystem payload.report ∧ Disclosed backgroundDaemon payload.report ↔
        Kept wire (room wire now (mobileReport wire adapter reportId sample)) wholeSystem
            (mobileReport wire adapter reportId sample) ∧
          Kept wire (room wire now (mobileReport wire adapter reportId sample)) backgroundDaemon
            (mobileReport wire adapter reportId sample))) := by
  obtain ⟨hwhole, hwhole'⟩ := disclosed_boundReport wire now (by decide +kernel) (reads_boundary wire adapter reportId
    (wholeSystem_mem sample) (required_wholeSystem wire hname) (required_mobileHost wire hsource))
  obtain ⟨hdaemon, hdaemon'⟩ := disclosed_boundReport wire now (by decide +kernel) (reads_boundary wire adapter reportId
    (backgroundDaemon_mem sample) (required_backgroundDaemon wire hname) (required_mobileHost wire hsource))
  rw [((prepareReport_eq_ok wire display adapter now reportId).mp h).1]
  exact ⟨fun hboth => ⟨hwhole hboth.1, hdaemon hboth.2⟩, fun hfits => and_congr (hwhole' hfits) (hdaemon' hfits)⟩

end

/-! ## A phone -/

def phoneDescriptor : MobileHostDescriptor where
  hostId := "123e4567-e89b-42d3-a456-426614174000"
  platform := .android
  osVersion := none
  arch := "aarch64"

def phoneAdapter : MobileHostAdapter where
  host := ⟨"123e4567-e89b-42d3-a456-426614174000", "android", none, none, "aarch64", "1.0.0"⟩
  canonical := ⟨⟨[0x12, 0x3e, 0x45, 0x67, 0xe8, 0x9b, 0x42, 0xd3, 0xa4, 0x56, 0x42, 0x66, 0x14, 0x17, 0x40, 0x00], rfl⟩,
    by decide +kernel⟩
  architecture := by decide +kernel

/-- A sample whose host claims the whole system, with a line break in the name. -/
def phoneSample : MobileSample where
  collectedAt := 0
  intervalSeconds := ⟨0x4024000000000000⟩
  system := quietReport.system
  capabilities := [Capability.ofAvailable "collection.scope.whole_system\n" "mobile-host"]
  spoolPendingBatches := 0

/-- What becomes of it. -/
def phoneReport : ClientReport where
  schemaVersion := 2
  reportId := "00000000-0000-0000-0000-000000000000"
  collectedAt := 0
  host := phoneAdapter.host
  intervalSeconds := ⟨0x4024000000000000⟩
  system := quietReport.system
  capabilities := [truncationMarker, backgroundDaemon,
    Capability.ofAvailable "collection.scope.whole_system" "mobile-host"]
  client := ⟨0, 1⟩

def phonePayload : MobileReportPayload := ⟨phoneReport, (Written.json phoneReport).getD []⟩

theorem phone_prepared : prepareReport (compactWire []) (fun _ => "") phoneAdapter 0 Uuid.nil phoneSample =
    .ok phonePayload := by
  have hbounded : phoneReport =
      (boundReport (compactWire []) 0 (mobileReport (compactWire []) phoneAdapter Uuid.nil phoneSample)).value := by
    decide +kernel
  have hwritten : (Written.json phoneReport : Option (List UInt8)).isSome = true := by decide +kernel
  have hlength : phonePayload.body.length ≤ 262144 := by decide +kernel
  refine (prepareReport_eq_ok _ _ _ _ _).mpr ⟨hbounded, ?_, hlength⟩
  obtain ⟨body, hbody⟩ := Option.isSome_iff_exists.mp hwritten
  have hwrite : (compactWire []).toVec phoneReport =
      (Written.json phoneReport : Option (List UInt8)).elim (Except.error "not written here") Except.ok := rfl
  rw [phonePayload, hwrite, hbody]
  rfl

/-- The report that the phone's sample is made into. -/
def phoneSampleReport : ClientReport := mobileReport (compactWire []) phoneAdapter Uuid.nil phoneSample

theorem prepare_report_discloses_phone :
    Disclosed wholeSystem phonePayload.report ∧ Disclosed backgroundDaemon phonePayload.report ↔
      Kept (compactWire []) (room (compactWire []) 0 phoneSampleReport) wholeSystem phoneSampleReport ∧
        Kept (compactWire []) (room (compactWire []) 0 phoneSampleReport) backgroundDaemon phoneSampleReport :=
  (prepare_report_discloses_iff (compactWire []) (fun _ => "") phoneAdapter 0 Uuid.nil (by decide) (by decide)
    phone_prepared).2 (by decide +kernel)

/-- The line break hides the name from the adapter, and bounding takes it away: the report of an adapter that was made
in the usual way says that the whole system is seen. -/
theorem prepare_report_overridden : MobileHostAdapter.new "1.0.0" phoneDescriptor = .ok phoneAdapter ∧
    prepareReport (compactWire []) (fun _ => "") phoneAdapter 0 Uuid.nil phoneSample = .ok phonePayload ∧
    ¬ (Disclosed wholeSystem phonePayload.report ∧ Disclosed backgroundDaemon phonePayload.report) := by
  refine ⟨by decide +kernel, phone_prepared, ?_⟩
  rintro ⟨⟨c, hfilter, hoff, -⟩, -⟩
  have hall : ∀ d ∈ phonePayload.report.capabilities.filter (fun d => d.name = wholeSystem.name),
      d.available = true := by
    decide +kernel
  rw [hfilter] at hall
  rw [hall c List.mem_cons_self] at hoff
  cases hoff

end Xsoc
