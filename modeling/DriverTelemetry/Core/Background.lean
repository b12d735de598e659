import DriverTelemetry.Core.Ticks

/-!
# Background collectors

A running collector alternates between ticks and sleep. Time passes for it in slices of at most
10 ms of sleep; a tick takes a slice of its own. The performance collector doubles its period, up to
eightfold, while metric updates are expensive, and halves it again when they are not.
-/

namespace DriverTelemetry

namespace Collector

/-- The longest sleep in one slice, in milliseconds. -/
def sliceMs : Nat := 10

/-- The cost of an update above which the performance collector slows down. -/
def overheadBudgetNs : Nat := 10000

def stretchLimit : Nat := 8

def nextStretch (config : Config) (overheadNs stretch : Nat) : Nat :=
  if !config.sampling.adaptive then 1
  else if overheadBudgetNs < overheadNs then min (stretch * 2) stretchLimit
  else max (stretch / 2) 1

end Collector

namespace Core

/-- Whether a collector goes on after a tick: any failure but that of a core that is shut down is
passed over. -/
def goesOn {α : Type} : Except TelemetryError α → Bool
  | .error .notInitialized => false
  | _ => true

/-- Replaces a running collector by its next state, or takes it out. -/
def putCollector (kind : CollectorKind) (next : Option Collector) : Action Unit :=
  change fun c =>
    { c with
      collectors := c.collectors.filterMap fun old => if old.kind = kind then next else some old }

/-- One tick of a collector; answers its state after the tick unless it ends. -/
def tick (collector : Collector) : Action (Option Collector) := do
  match collector.kind with
  | .performance =>
    let config := (← get).core.config
    let alive ← if config.realTimeMonitoring then goesOn <$> collectPerformanceSample.run else pure true
    let stretch :=
      Collector.nextStretch config (← get).core.counters.currentOverheadNs collector.stretch
    let pauseMs := config.collectionIntervalMs.toNat * stretch
    return if alive then some { collector with pauseMs, stretch } else none
  | .health =>
    let alive ← goesOn <$> checkAllDriverHealth.run
    let pauseMs := (← get).core.config.healthCheckIntervalMs.toNat
    return if alive then some { collector with pauseMs } else none
  | .analytics =>
    let alive ← goesOn <$> runAnalyticsCycle.run
    let pauseMs := (← get).core.config.analyticsIntervalMs.toNat
    return if alive then some { collector with pauseMs } else none

/-- Lets one slice of time pass for the collector of a kind, if it is running. -/
def slice (kind : CollectorKind) : Action Unit := do
  match (← get).core.collectors.find? (·.kind = kind) with
  | none => pure ()
  | some collector =>
    if 0 < collector.pauseMs then
      let left := collector.pauseMs - min collector.pauseMs Collector.sliceMs
      putCollector kind (some { collector with pauseMs := left })
    else putCollector kind (← tick collector)

def backgroundSlice : Action Unit := do
  slice .performance
  slice .health
  slice .analytics

end Core

end DriverTelemetry
