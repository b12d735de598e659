import DriverTelemetry.Metric.Value
import DriverTelemetry.Subsystem
import DriverTelemetry.Text.Bounded

/-!
# Metrics

A metric is addressed by its number. Numbers are given out from 1; the number 0 stands for no
metric.
-/

namespace DriverTelemetry

/-- The number of a metric. -/
structure MetricId where
  /-- The number itself; 0 for no metric. -/
  number : Nat
  deriving DecidableEq, Inhabited

namespace MetricId

def none : MetricId := ⟨0⟩

def isValid (id : MetricId) : Bool := id.number != 0

def text (id : MetricId) : String := toString id.number

end MetricId

/-- A registered metric. -/
structure Metric where
  id : MetricId
  name : Name
  description : Description
  subsystem : Subsystem
  enabled : Bool := true
  registeredNs : Nat
  lastUpdateNs : Nat := 0
  updateCount : Nat := 0
  overheadNs : Nat := 0
  value : MetricValue
  deriving DecidableEq

namespace Metric

def kind (m : Metric) : MetricKind := m.value.kind

def updated (m : Metric) (value : MetricValue) (nowNs : Nat) : Metric :=
  { m with value, lastUpdateNs := nowNs, updateCount := m.updateCount + 1 }

end Metric

end DriverTelemetry
