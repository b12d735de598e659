import DriverTelemetry.Config.Basic
import DriverTelemetry.Metric.Basic

/-!
# Anomalies

A sample is anomalous for a metric if the metric has had enough updates and the sample deviates
from the metric's baseline by more than a multiple of the baseline. The baseline of a gauge-like
metric is its level; that of a counter, a rate or a histogram is the mean of what it has been given
so far. A timer has none.
-/

namespace DriverTelemetry

namespace Anomaly

/-- When a sample counts as anomalous. -/
structure Policy where
  enabled : Bool := true
  /-- The multiple of the baseline that a deviation has to exceed. -/
  multiplier : Nat := 3
  baselineWindow : Nat := 10
  deriving DecidableEq

def Policy.ofConfig (c : Config) : Policy where
  enabled := c.anomalyDetection
  multiplier := c.anomaly.multiplier.toNat
  baselineWindow := c.anomaly.baselineWindow.toNat

/-- An anomalous sample. -/
structure Verdict where
  metric : MetricId
  name : Name
  value : Int
  baseline : Int
  deviation : Nat
  deriving DecidableEq

def Verdict.text (v : Verdict) : String :=
  s!"Anomaly detected in metric '{v.name.text}': value {v.value} deviates {v.deviation} from baseline {v.baseline}"

/-- The integer mean of a total over a count, unless the count is zero. -/
def mean? (total count : Nat) : Option Int :=
  if count = 0 then none else some (total / count : Nat)

def baseline? (m : Metric) : Option Int :=
  match m.value with
  | .gauge v | .memory v | .bandwidth v => some v
  | .counter total => mean? total m.updateCount
  | .rate r => mean? r.total m.updateCount
  | .histogram h => mean? h.sum h.count
  | .timer _ => none

/-- Compares a sample with the metric as it is before the sample is applied. -/
def check (policy : Policy) (m : Metric) (sample : Int) : Option Verdict :=
  if policy.enabled ∧ policy.baselineWindow ≤ m.updateCount then
    (baseline? m).bind fun baseline =>
      let deviation := (sample - baseline).natAbs
      if policy.multiplier * baseline.natAbs < deviation then
        some { metric := m.id, name := m.name, value := sample, baseline, deviation }
      else none
  else none

end Anomaly

end DriverTelemetry
