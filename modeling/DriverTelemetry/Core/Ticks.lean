import DriverTelemetry.Core.Allocations
import DriverTelemetry.Core.Drivers

/-!
# Collector ticks

The work of the three background collectors, one tick at a time: sampling the platform, evaluating
every driver, and the analytics cycle of anomaly sweep, leak scan and predictive pass.
-/

namespace DriverTelemetry

/-- The outcome of an analytics cycle. -/
structure AnalyticsCycle where
  anomalies : Nat
  leaks : Nat
  predicted : Bool
  deriving DecidableEq

namespace Core

def setAnalyticsHook (hook : AnalyticsHook) : Action Unit :=
  change fun c => { c with analyticsHook := some hook }

/-- Sets a gauge in a sample; answers the failure unless the gauge is merely disabled. -/
def sampleGauge (id : MetricId) (level : Int) : Action (Option TelemetryError) := do
  match ← (updateGauge id level).run with
  | .ok () | .error (.invalidParam _) => return none
  | .error e => return some e

/-- Closes the rate windows and tells the listener about every enabled metric. -/
def rollRates : Action Unit := do
  let hook := (← get).core.analyticsHook
  let now ← readClock
  change fun c => { c with registry := c.registry.rollRates now }
  modify fun s =>
    { s with env := s.env.tellTrends hook (s.core.registry.enabledMetrics.map (·.id)) }

/-- Samples the platform and closes rate windows. Each gauge is set by itself; the first failure is
answered after the windows have been closed. -/
def collectPerformanceSample : Call Unit := do
  ensureReady
  let ids := (← get).core.predefined
  let memory ← readMemoryUsage
  let platform := (← get).env.platform
  let first ← sampleGauge ids.memoryUsage (min memory SignedWord.greatest)
  let second ← sampleGauge ids.cpuUsage platform.cpuPercent
  let third ← sampleGauge ids.deviceCount platform.deviceCount
  rollRates
  match first <|> second <|> third with
  | some e => throw e
  | none => pure ()

/-- Reports every waiting verdict; answers how many there were. -/
def detectAnomalies : Call Nat := do
  ensureReady
  let (verdicts, registry) := (← get).core.registry.takePending
  change fun c => { c with registry }
  verdicts.forM fun v => (reportAnomaly v : Action Unit)
  return verdicts.length

def predict : Action Unit := do
  modify fun s =>
    { s with
      env := s.env.tellPredictions s.core.analyticsHook
        (s.core.registry.enabledMetrics.map (·.id)) }
  count fun s => { s with predictionsMade := s.predictionsMade + 1 }

def runAnalyticsCycle : Call AnalyticsCycle := do
  ensureReady
  let config := (← get).core.config
  let anomalies ← if config.anomalyDetection then detectAnomalies else pure 0
  let leaks := (← scanLeaks config.leakThresholdMs.toNat).newLeaks
  let cycle := (← get).core.analyticsCycles + 1
  change fun c => { c with analyticsCycles := cycle }
  let predicted := config.predictiveAnalytics && cycle % config.predictionEvery.toNat == 0
  if predicted then predict
  return { anomalies, leaks, predicted }

end Core

end DriverTelemetry
