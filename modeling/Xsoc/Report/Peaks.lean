import Xsoc.Report.Pass
import Xsoc.Report.Rendering

/-!
# Peaks of the summary metrics

* `summaryPeaks` : the greatest value of each of the seven metrics;
* `anchorForm` : a bounded report with nothing but the diagnostic and the entries that lead;
* `bound_report_keeps_peaks` : where the anchor form fits, the bounded report fits and has the peaks of all entries.
-/

set_option autoImplicit false

namespace Xsoc

open Bounding

/-- The greatest value of each metric, where there is one. -/
structure SummaryPeaks where
  networks : List (WithBot F64)
  disks : List (WithBot F64)
  temperatures : List (WithBot F64)
  gpus : List (WithBot F64)

def summaryPeaks (s : SystemSnapshot) : SummaryPeaks where
  networks := networkMetrics.map fun metric => peak metric s.networks
  disks := diskMetrics.map fun metric => peak metric s.disks
  temperatures := temperatureMetrics.map fun metric => peak metric s.temperatures
  gpus := gpuMetrics.map fun metric => peak metric s.gpus

section

variable (wire : Wire)

/-- The minima that the body of a bounded report is fitted with. -/
def fittingMinima (clampFutureTimestamp : Bool) (now : DateTime) (r : ClientReport) : Minima :=
  let bounded := (boundBeforeFitting wire clampFutureTimestamp now r).value
  (anchors wire (boundValues wire clampFutureTimestamp now r).value bounded).withMarker bounded

/-- The bounded form of a report, restricted to the diagnostic and the leading entries, without hardware. -/
def anchorForm (clampFutureTimestamp : Bool) (now : DateTime) (r : ClientReport) : ClientReport :=
  restricted (fittingMinima wire clampFutureTimestamp now r) (boundBeforeFitting wire clampFutureTimestamp now r).value

theorem atLeast_fittingMinima (clamp : Bool) (now : DateTime) (r : ClientReport) :
    AtLeast (fittingMinima wire clamp now r) (boundBeforeFitting wire clamp now r).value :=
  ⟨capabilityMinimum_le _, Nat.min_le_right _ _, Nat.min_le_right _ _, Nat.min_le_right _ _, Nat.min_le_right _ _⟩

/-- The leaders are few enough for the count limit, so cutting no further than to them keeps the peaks. -/
theorem peaks_of_take {α : Type} {key : α → List Nat} {metrics : List (α → Option F64)} {l bounded fitted : List α}
    {maximum k : Nat} (hmax : metrics.length ≤ maximum) (hbounded : bounded = (prioritize key metrics l).1.take maximum)
    (hfitted : fitted = (prioritize key metrics l).1.take k)
    (hleast : min (prioritize key metrics l).2 bounded.length ≤ fitted.length) :
    (metrics.map fun metric => peak metric fitted) = metrics.map fun metric => peak metric l := by
  have hanchors := (prioritize_snd_le key metrics l).trans hmax
  have hlength := prioritize_snd_le_length key metrics l
  have hk : (prioritize key metrics l).2 ≤ k := by
    rw [hbounded, hfitted, List.length_take, List.length_take, length_prioritize] at hleast
    omega
  rw [hfitted]
  exact List.map_congr_left fun metric hmetric => peak_take_prioritize key metrics hmetric l hk

/-- What the values of a report are bounded to does not reorder or drop any entry. -/
theorem summaryPeaks_boundValues (clamp : Bool) (now : DateTime) (r : ClientReport) :
    summaryPeaks (boundValues wire clamp now r).value.system =
      summaryPeaks (normalizeScalarsAndText wire clamp now r).value.system := by
  simp only [boundValues, boundParts, Marked.bind_value, Marked.pure_value, summaryPeaks]

theorem bound_report_keeps_peaks (now : DateTime) (r : ClientReport)
    (hfits : serializedLen wire (anchorForm wire true now r) ≤ wire.maxBodyBytes) :
    serializedLen wire (boundReport wire now r).value ≤ wire.maxBodyBytes ∧
      summaryPeaks (boundReport wire now r).value.system =
        summaryPeaks (normalizeScalarsAndText wire true now r).value.system := by
  obtain ⟨hbody, hleast⟩ := fitBody_keeps wire (atLeast_fittingMinima wire true now r)
    ((tooLong_eq_false wire).mpr hfits)
  refine ⟨(tooLong_eq_false wire).mp hbody, ?_⟩
  have hbounded := system_boundBeforeFitting wire true now r
  rw [boundCollections_value] at hbounded
  obtain ⟨-, ⟨n, -, hnetworks⟩, ⟨d, -, hdisks⟩, ⟨t, -, htemperatures⟩, ⟨g, -, hgpus⟩, -, -, -⟩ :=
    boundReport_trimmed wire true now r
  obtain ⟨hmaxn, hmaxd, hmaxt, hmaxg⟩ := wire.peaks
  rw [← summaryPeaks_boundValues]
  unfold summaryPeaks
  rw [SummaryPeaks.mk.injEq]
  exact ⟨peaks_of_take hmaxn (congrArg SystemSnapshot.networks hbounded) hnetworks hleast.networks,
    peaks_of_take hmaxd (congrArg SystemSnapshot.disks hbounded) hdisks hleast.disks,
    peaks_of_take hmaxt (congrArg SystemSnapshot.temperatures hbounded) htemperatures hleast.temperatures,
    peaks_of_take hmaxg (congrArg SystemSnapshot.gpus hbounded) hgpus hleast.gpus⟩

end

/-- A wire with room for two interfaces. -/
def narrowWire : Wire :=
  { compactWire [] with toLimits := { roomyLimits with maxNetworks := 2, peaks := by decide } }

/-- Of three interfaces the two with the peaks are left. -/
theorem bound_report_keeps_network_peaks :
    summaryPeaks (boundReport narrowWire 0 networkReport).value.system =
      summaryPeaks (normalizeScalarsAndText narrowWire true 0 networkReport).value.system :=
  (bound_report_keeps_peaks narrowWire 0 networkReport (by decide +kernel)).2

end Xsoc
