import DriverTelemetry.Core.Events

/-!
# Metric calls

Registering, updating and reading metrics through a core. An update is refused or applied by the
registry; the core adds the master switch, the measurement of what the update costs, and the
report of anomalies.
-/

namespace DriverTelemetry

namespace Core

def registerMetric (name description : String) (kind : MetricKind) (subsystem : Subsystem) :
    Call MetricId := do
  ensureReady
  let now ← readClock
  let id ← onRegistry (·.register name description kind subsystem now)
  let _ ← emit .info subsystem fun p =>
    { p.setMessage s!"Registered metric '{name}' (ID: {id.text}, Type: {kind.name})" with
      metric := some id }
  return id

/-- Applies an update to the registry and measures what it costs; with the master switch off it
does nothing and answers `none`. -/
def applyUpdate {α : Type} (id : MetricId)
    (f : Registry → Nat → Except TelemetryError (α × Registry)) : Call (Option α) := do
  ensureReady
  if (← get).core.enabled then
    let start ← readClock
    let a ← onRegistry fun r => f r start
    let overheadNs := (← readClock) - start
    change fun c => { c with registry := c.registry.noteOverhead id overheadNs }
    count (·.recordUpdate overheadNs)
    return some a
  else return none

def updateCounter (id : MetricId) (amount : Nat) : Call Unit := do
  let _ ← applyUpdate id fun r now => (r.addCount id amount now).map ((), ·)

def adjustGauge (id : MetricId) (delta : Int) : Call Unit := do
  let _ ← applyUpdate id fun r now => r.adjustLevel id delta now

def recordHistogram (id : MetricId) (sample : Nat) : Call Unit := do
  let _ ← applyUpdate id fun r now => (r.recordSample id sample now).map ((), ·)

def updateTimer (id : MetricId) (durationNs : Nat) : Call Unit := do
  let _ ← applyUpdate id fun r now => (r.recordDuration id durationNs now).map ((), ·)

/-- Counts an anomaly and logs it under the subsystem of its metric. -/
def reportAnomaly (v : Anomaly.Verdict) : Action Unit := do
  count fun s => { s with anomaliesDetected := s.anomaliesDetected + 1 }
  let subsystem := (((← get).core.registry.find? v.metric).map (·.subsystem)).getD .core
  let _ ← emit .anomaly subsystem fun p => { p.setMessage v.text with metric := some v.metric }

/-- Sets a gauge-like metric and reports the level if it is anomalous. -/
def updateGauge (id : MetricId) (level : Int) : Call Unit := do
  match ← applyUpdate id fun r now => r.setLevel id level now with
  | some (some verdict) => reportAnomaly verdict
  | _ => pure ()

def setMetricEnabled (id : MetricId) (enabled : Bool) : Call Unit := do
  ensureReady
  onRegistry fun r => (r.setEnabled id enabled).map ((), ·)

def lookup (id : MetricId) : Call Metric := do
  ensureReady
  readRegistry (·.get id)

/-- The number of the first metric of a name; a core that accepts no calls finds none. -/
def findMetric? (c : Core) (name : String) : Option MetricId :=
  if c.initialized then c.registry.findByName? name else none

def ratePerSecond (id : MetricId) : Call Nat := do
  ensureReady
  let now ← readClock
  readRegistry (·.ratePerSecond id now)

end Core

end DriverTelemetry
