/-!
# Metric kinds

The seven kinds of metric. Counter-like kinds are added to, gauge-like kinds are set and adjusted;
timers and histograms take samples.
-/

namespace DriverTelemetry

/-- The kind of a metric, fixed when it is registered. -/
inductive MetricKind where
  | counter | gauge | rate | timer | histogram | memory | bandwidth
  deriving DecidableEq, Inhabited

namespace MetricKind

/-- Every kind, in order. -/
def all : List MetricKind := [counter, gauge, rate, timer, histogram, memory, bandwidth]

def name : MetricKind → String
  | counter => "counter"
  | gauge => "gauge"
  | rate => "rate"
  | timer => "timer"
  | histogram => "histogram"
  | memory => "memory"
  | bandwidth => "bandwidth"

def ordinal (k : MetricKind) : Nat := k.ctorIdx

def ofName? (name : String) : Option MetricKind := all.find? (·.name == name)

def isCounterLike : MetricKind → Bool
  | counter | rate => true
  | _ => false

def isGaugeLike : MetricKind → Bool
  | gauge | memory | bandwidth => true
  | _ => false

def unit : MetricKind → String
  | memory => "bytes"
  | bandwidth => "B/s"
  | counter | rate => "count"
  | gauge | timer | histogram => ""

end MetricKind

end DriverTelemetry
