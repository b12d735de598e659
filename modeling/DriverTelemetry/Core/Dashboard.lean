import DriverTelemetry.Core.Basic

/-!
# Dashboard

An aggregated view of a core: how many drivers are well, the sums of their indicators, and the
largest counters and gauges.
-/

namespace DriverTelemetry

/-- A metric on the dashboard. -/
structure TopMetric where
  id : MetricId
  name : Name
  kind : MetricKind
  magnitude : Nat
  deriving DecidableEq

/-- The aggregated view of a core. -/
structure Dashboard where
  healthy : Nat
  degraded : Nat
  failed : Nat
  interruptsPerSec : Nat
  ioPerSec : Nat
  averageCpuPercent : Nat
  memoryKb : Nat
  /-- The sum of the error rates; only the low 64 bits are kept. -/
  errorsPerMinute : Nat
  criticalEvents : Nat
  anomalies : Nat
  top : List TopMetric
  deriving DecidableEq

namespace Dashboard

/-- The metrics that the dashboard lists at most. -/
def topLimit : Nat := 10

def isRanked (m : Metric) : Bool := m.enabled && (m.kind.isCounterLike || m.kind.isGaugeLike)

def entry (m : Metric) : TopMetric where
  id := m.id
  name := m.name
  kind := m.kind
  magnitude := m.value.magnitude

/-- The order of the ranking: the larger magnitude first, among equals the smaller number. -/
def precedes (a b : TopMetric) : Bool :=
  decide (b.magnitude < a.magnitude ∨ b.magnitude = a.magnitude ∧ a.id.number ≤ b.id.number)

/-- The ranked metrics of a registry, first to last. -/
def ranking (r : Registry) : List TopMetric := ((r.metrics.filter isRanked).map entry).mergeSort precedes

def total (f : PerformanceIndicators → Nat) (drivers : List DriverHealth) : Nat :=
  drivers.foldr (fun d sum => f d.performance + sum) 0

def countIn (statuses : List HealthStatus) (drivers : List DriverHealth) : Nat :=
  drivers.countP fun d => statuses.contains d.status

def ofCore (c : Core) : Dashboard :=
  let drivers := c.health.drivers
  { healthy := countIn [.healthy] drivers
    degraded := countIn [.degraded, .warning] drivers
    failed := countIn [.critical, .failed] drivers
    interruptsPerSec := Word.wrap (total (·.interruptRate) drivers)
    ioPerSec := Word.wrap (total (·.ioRate) drivers)
    averageCpuPercent := Word.wrap (total (·.cpuPercent) drivers) / drivers.length % (Word.largestHalf + 1)
    memoryKb := Word.wrap (total (·.memoryKb) drivers)
    errorsPerMinute := Word.wrap (total (·.errorsPerMinute) drivers)
    criticalEvents := c.events.countWhere (·.severity == .critical)
    anomalies := c.counters.anomaliesDetected
    top := (ranking c.registry).take topLimit }

end Dashboard

namespace Core

def dashboard : Call Dashboard := do
  ensureReady
  return Dashboard.ofCore (← get).core

end Core

end DriverTelemetry
