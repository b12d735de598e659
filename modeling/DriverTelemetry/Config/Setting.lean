import DriverTelemetry.Config.Basic
import DriverTelemetry.Text.Blank
import DriverTelemetry.Text.Numeral
import DriverTelemetry.Word

/-!
# Settings

The settings that configuration text can assign. A setting has a section and a key, by which
`Setting.find?` finds it; it reads its value from text (`Setting.assign?`) and answers the value
that a configuration has for it (`Setting.value`).
-/

namespace DriverTelemetry

/-- A setting of the configuration text. -/
inductive Setting where
  | enabled | collectionIntervalMs | realTimeMonitoring | anomalyDetection | predictiveAnalytics
  | eventCapacity | metricCapacity | trackingCapacity | collectors | healthCheckIntervalMs
  | analyticsIntervalMs | predictionEvery | leakThresholdMs | shutdownGraceMs | recoveryThreshold
  | autoRecovery | performanceHz | memoryHz | ioHz | adaptive | alertThreshold | criticalThreshold
  | multiplier | baselineWindow
  deriving DecidableEq

/-- What a configuration has for a setting. -/
inductive SettingValue where
  | flag (on : Bool)
  | count (n : Nat)
  | collectors (set : Collectors)
  deriving DecidableEq

namespace Setting

def all : List Setting :=
  [enabled, collectionIntervalMs, realTimeMonitoring, anomalyDetection, predictiveAnalytics,
   eventCapacity, metricCapacity, trackingCapacity, collectors, healthCheckIntervalMs,
   analyticsIntervalMs, predictionEvery, leakThresholdMs, shutdownGraceMs, recoveryThreshold,
   autoRecovery, performanceHz, memoryHz, ioHz, adaptive, alertThreshold, criticalThreshold,
   multiplier, baselineWindow]

/-- The section of a setting; the top level has the empty name. -/
def sectionName : Setting → String
  | performanceHz | memoryHz | ioHz | adaptive => "sampling"
  | alertThreshold | criticalThreshold => "alerts"
  | multiplier | baselineWindow => "anomaly"
  | _ => ""

def key : Setting → String
  | enabled => "enabled"
  | collectionIntervalMs => "collection_interval_ms"
  | realTimeMonitoring => "real_time_monitoring"
  | anomalyDetection => "anomaly_detection"
  | predictiveAnalytics => "predictive_analytics"
  | eventCapacity => "event_capacity"
  | metricCapacity => "metric_capacity"
  | trackingCapacity => "memory_tracking_capacity"
  | collectors => "collectors"
  | healthCheckIntervalMs => "health_check_interval_ms"
  | analyticsIntervalMs => "analytics_interval_ms"
  | predictionEvery => "prediction_every"
  | leakThresholdMs => "leak_threshold_ms"
  | shutdownGraceMs => "shutdown_grace_ms"
  | recoveryThreshold => "recovery_threshold"
  | autoRecovery => "auto_recovery"
  | performanceHz => "performance_hz"
  | memoryHz => "memory_hz"
  | ioHz => "io_hz"
  | adaptive => "adaptive"
  | alertThreshold => "alert_threshold"
  | criticalThreshold => "critical_threshold"
  | multiplier => "k"
  | baselineWindow => "baseline_window"

def find? (sectionName key : List Char) : Option Setting :=
  all.find? fun s => s.sectionName.toList == sectionName && s.key.toList == key

/-- Every setting is found by its own section and key, so no two settings share both. -/
theorem find?_key (s : Setting) : find? s.sectionName.toList s.key.toList = some s := by
  cases s <;> rfl

/-- Reads `true` or `1`, `false` or `0`. -/
def readFlag? (value : List Char) : Option Bool :=
  if value = "true".toList ∨ value = "1".toList then some true
  else if value = "false".toList ∨ value = "0".toList then some false
  else none

def readCount? (value : List Char) : Option UInt32 :=
  (Numeral.read? Word.largestHalf value).map UInt32.ofNat

def readLongCount? (value : List Char) : Option UInt64 :=
  (Numeral.read? Word.largest value).map UInt64.ofNat

/-- Reads the name of a collector, or `all` or `none`. -/
def readCollector? (name : List Char) : Option Collectors :=
  if name = "performance".toList then some { performance := true }
  else if name = "health".toList then some { health := true }
  else if name = "analytics".toList then some { analytics := true }
  else if name = "all".toList then some Collectors.all
  else if name = "none".toList then some Collectors.none
  else none

/-- Reads names of collectors with bars between them; blank names count for nothing. -/
def readCollectors? (value : List Char) : Option Collectors :=
  let names := ((value.splitOn '|').map Text.trim).filter (!·.isEmpty)
  names.foldlM (fun set name => (readCollector? name).map set.union) Collectors.none

/-- Assigns a value given as text, unless the text is no value of the setting. -/
def assign? (s : Setting) (value : List Char) (c : Config) : Option Config :=
  match s with
  | enabled => (readFlag? value).map fun b => { c with enabled := b }
  | collectionIntervalMs => (readCount? value).map fun n => { c with collectionIntervalMs := n }
  | realTimeMonitoring => (readFlag? value).map fun b => { c with realTimeMonitoring := b }
  | anomalyDetection => (readFlag? value).map fun b => { c with anomalyDetection := b }
  | predictiveAnalytics => (readFlag? value).map fun b => { c with predictiveAnalytics := b }
  | eventCapacity => (readCount? value).map fun n => { c with eventCapacity := n }
  | metricCapacity => (readCount? value).map fun n => { c with metricCapacity := n }
  | trackingCapacity => (readCount? value).map fun n => { c with trackingCapacity := n }
  | collectors => (readCollectors? value).map fun s => { c with collectors := s }
  | healthCheckIntervalMs => (readCount? value).map fun n => { c with healthCheckIntervalMs := n }
  | analyticsIntervalMs => (readCount? value).map fun n => { c with analyticsIntervalMs := n }
  | predictionEvery => (readCount? value).map fun n => { c with predictionEvery := n }
  | leakThresholdMs => (readLongCount? value).map fun n => { c with leakThresholdMs := n }
  | shutdownGraceMs => (readCount? value).map fun n => { c with shutdownGraceMs := n }
  | recoveryThreshold => (readCount? value).map fun n => { c with recoveryThreshold := n }
  | autoRecovery => (readFlag? value).map fun b => { c with autoRecovery := b }
  | performanceHz =>
    (readCount? value).map fun n => { c with sampling := { c.sampling with performanceHz := n } }
  | memoryHz =>
    (readCount? value).map fun n => { c with sampling := { c.sampling with memoryHz := n } }
  | ioHz => (readCount? value).map fun n => { c with sampling := { c.sampling with ioHz := n } }
  | adaptive =>
    (readFlag? value).map fun b => { c with sampling := { c.sampling with adaptive := b } }
  | alertThreshold =>
    (readCount? value).map fun n => { c with alerts := { c.alerts with alert := n } }
  | criticalThreshold =>
    (readCount? value).map fun n => { c with alerts := { c.alerts with critical := n } }
  | multiplier =>
    (readCount? value).map fun n => { c with anomaly := { c.anomaly with multiplier := n } }
  | baselineWindow =>
    (readCount? value).map fun n => { c with anomaly := { c.anomaly with baselineWindow := n } }

def value (s : Setting) (c : Config) : SettingValue :=
  match s with
  | enabled => .flag c.enabled
  | collectionIntervalMs => .count c.collectionIntervalMs.toNat
  | realTimeMonitoring => .flag c.realTimeMonitoring
  | anomalyDetection => .flag c.anomalyDetection
  | predictiveAnalytics => .flag c.predictiveAnalytics
  | eventCapacity => .count c.eventCapacity.toNat
  | metricCapacity => .count c.metricCapacity.toNat
  | trackingCapacity => .count c.trackingCapacity.toNat
  | collectors => .collectors c.collectors
  | healthCheckIntervalMs => .count c.healthCheckIntervalMs.toNat
  | analyticsIntervalMs => .count c.analyticsIntervalMs.toNat
  | predictionEvery => .count c.predictionEvery.toNat
  | leakThresholdMs => .count c.leakThresholdMs.toNat
  | shutdownGraceMs => .count c.shutdownGraceMs.toNat
  | recoveryThreshold => .count c.recoveryThreshold.toNat
  | autoRecovery => .flag c.autoRecovery
  | performanceHz => .count c.sampling.performanceHz.toNat
  | memoryHz => .count c.sampling.memoryHz.toNat
  | ioHz => .count c.sampling.ioHz.toNat
  | adaptive => .flag c.sampling.adaptive
  | alertThreshold => .count c.alerts.alert.toNat
  | criticalThreshold => .count c.alerts.critical.toNat
  | multiplier => .count c.anomaly.multiplier.toNat
  | baselineWindow => .count c.anomaly.baselineWindow.toNat

end Setting

end DriverTelemetry
