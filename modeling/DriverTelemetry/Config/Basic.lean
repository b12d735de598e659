import DriverTelemetry.Config.Error

/-!
# Configuration

Flags, sampling hints, thresholds and table capacities of a telemetry core. Capacities and the
collectors are read once, when a core starts; everything else can be changed while it runs.
`Config.validate` applies the rules of `Config.faults` in order and reports the first that is
broken.
-/

namespace DriverTelemetry

/-- The background collectors that a core starts. -/
structure Collectors where
  performance : Bool := false
  health : Bool := false
  /-- Reports anomalies, scans for leaks and runs the predictive pass. -/
  analytics : Bool := false
  deriving DecidableEq, Inhabited

namespace Collectors

def none : Collectors := {}

def all : Collectors := { performance := true, health := true, analytics := true }

def union (a b : Collectors) : Collectors where
  performance := a.performance || b.performance
  health := a.health || b.health
  analytics := a.analytics || b.analytics

def names (c : Collectors) : List String :=
  (if c.performance then ["performance"] else [])
    ++ (if c.health then ["health"] else [])
    ++ (if c.analytics then ["analytics"] else [])

def isEmpty (c : Collectors) : Bool := !(c.performance || c.health || c.analytics)

end Collectors

/-- Advisory sample rates. -/
structure SamplingHints where
  performanceHz : UInt32 := 1000
  memoryHz : UInt32 := 10
  ioHz : UInt32 := 100
  /-- Whether the performance collector may slow down when updates become expensive. -/
  adaptive : Bool := true
  deriving DecidableEq, Inhabited

/-- The CPU percentages above which a driver is in trouble. -/
structure AlertThresholds where
  alert : UInt32 := 80
  critical : UInt32 := 95
  deriving DecidableEq, Inhabited

/-- The settings of the anomaly check. -/
structure AnomalySettings where
  /-- How many times the baseline a deviation has to exceed. -/
  multiplier : UInt32 := 3
  baselineWindow : UInt32 := 10
  deriving DecidableEq, Inhabited

/-- A complete configuration; the field defaults are the default configuration. -/
structure Config where
  /-- The master switch: when off, metric updates succeed and do nothing. -/
  enabled : Bool := true
  collectionIntervalMs : UInt32 := 100
  realTimeMonitoring : Bool := true
  anomalyDetection : Bool := true
  predictiveAnalytics : Bool := true
  sampling : SamplingHints := {}
  alerts : AlertThresholds := {}
  anomaly : AnomalySettings := {}
  eventCapacity : UInt32 := 10000
  metricCapacity : UInt32 := 1024
  trackingCapacity : UInt32 := 10000
  collectors : Collectors := Collectors.all
  healthCheckIntervalMs : UInt32 := 1000
  analyticsIntervalMs : UInt32 := 5000
  predictionEvery : UInt32 := 10
  /-- Age in milliseconds after which a live allocation is a leak. -/
  leakThresholdMs : UInt64 := 30000
  /-- How long shutting down waits for a collector, in milliseconds. -/
  shutdownGraceMs : UInt32 := 2000
  /-- Failing evaluations in a row before a new driver is restarted. -/
  recoveryThreshold : UInt32 := 3
  autoRecovery : Bool := true
  deriving DecidableEq, Inhabited

namespace Config

/-- The default configuration without collectors: every tick is driven by hand. -/
def manual : Config := { collectors := Collectors.none }

def withCollectors (c : Config) (collectors : Collectors) : Config := { c with collectors }

def withEventCapacity (c : Config) (capacity : UInt32) : Config :=
  { c with eventCapacity := capacity }

def withMetricCapacity (c : Config) (capacity : UInt32) : Config :=
  { c with metricCapacity := capacity }

def withTrackingCapacity (c : Config) (capacity : UInt32) : Config :=
  { c with trackingCapacity := capacity }

def withAnomalyDetection (c : Config) (on : Bool) : Config := { c with anomalyDetection := on }

def withAnomaly (c : Config) (multiplier baselineWindow : UInt32) : Config :=
  { c with anomaly := { multiplier, baselineWindow } }

def withAlerts (c : Config) (alert critical : UInt32) : Config :=
  { c with alerts := { alert, critical } }

def withIntervals (c : Config) (collectionMs healthMs analyticsMs : UInt32) : Config :=
  { c with
    collectionIntervalMs := collectionMs
    healthCheckIntervalMs := healthMs
    analyticsIntervalMs := analyticsMs }

def withRecovery (c : Config) (auto : Bool) (threshold : UInt32) : Config :=
  { c with autoRecovery := auto, recoveryThreshold := threshold }

/-- The rules a configuration can break, each with whether it is broken, in the order in which
they are reported. -/
def faults (c : Config) : List (Bool × ConfigError) :=
  [(c.collectionIntervalMs == 0, .zeroInterval "collection_interval_ms"),
   (c.healthCheckIntervalMs == 0, .zeroInterval "health_check_interval_ms"),
   (c.analyticsIntervalMs == 0, .zeroInterval "analytics_interval_ms"),
   (c.predictionEvery == 0, .zeroInterval "prediction_every"),
   (c.eventCapacity == 0, .zeroCapacity "event_capacity"),
   (c.metricCapacity == 0, .zeroCapacity "metric_capacity"),
   (c.trackingCapacity == 0, .zeroCapacity "memory_tracking_capacity"),
   (decide (c.alerts.critical > 100 ∨ c.alerts.alert > 100), .thresholdRange),
   (decide (c.alerts.alert > c.alerts.critical), .thresholdOrder),
   (c.anomaly.multiplier == 0, .zeroMultiplier),
   (c.recoveryThreshold == 0, .zeroInterval "recovery_threshold")]

/-- Reports the first rule that the configuration breaks. -/
def validate (c : Config) : Except ConfigError Unit :=
  match c.faults.find? (·.1) with
  | some (_, e) => .error e
  | none => .ok ()

end Config

end DriverTelemetry
