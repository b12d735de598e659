import DriverTelemetry.Core.Environment
import DriverTelemetry.Event.Ring
import DriverTelemetry.Health.Table
import DriverTelemetry.Memory.Tracker
import DriverTelemetry.Metric.Registry

/-!
# The telemetry core

A core joins a metric registry, an event ring, a health table and an allocation tracker. A `Call`
on a core runs in its environment, answers or fails, and in either case leaves a core and an
environment behind. Calls are composed of the small steps below, each of which touches one table.
-/

namespace DriverTelemetry

/-- The numbers of the metrics that every core registers when it starts. -/
structure PredefinedMetrics where
  driverLoadTime : MetricId := .none
  interruptLatency : MetricId := .none
  memoryUsage : MetricId := .none
  cpuUsage : MetricId := .none
  ioThroughput : MetricId := .none
  errorRate : MetricId := .none
  deviceCount : MetricId := .none
  trackedMemory : MetricId := .none
  deriving DecidableEq

def PredefinedMetrics.ids (p : PredefinedMetrics) : List (String × MetricId) :=
  [("driver_load_time", p.driverLoadTime), ("interrupt_latency", p.interruptLatency),
   ("memory_usage", p.memoryUsage), ("cpu_usage", p.cpuUsage), ("io_throughput", p.ioThroughput),
   ("error_rate", p.errorRate), ("device_count", p.deviceCount),
   ("tracked_memory", p.trackedMemory)]

/-- Counters over the life of a core. -/
structure LifetimeCounters where
  metricsCollected : Nat := 0
  eventsLogged : Nat := 0
  healthChecks : Nat := 0
  anomaliesDetected : Nat := 0
  predictionsMade : Nat := 0
  leaksDetected : Nat := 0
  untrackedFrees : Nat := 0
  recoveriesAttempted : Nat := 0
  currentOverheadNs : Nat := 0
  peakOverheadNs : Nat := 0
  /-- How long all metric updates took; only the low 64 bits are kept. -/
  totalOverheadNs : Nat := 0
  deriving DecidableEq

/-- Counts a metric update that took `overheadNs`. -/
def LifetimeCounters.recordUpdate (s : LifetimeCounters) (overheadNs : Nat) : LifetimeCounters :=
  { s with
    metricsCollected := s.metricsCollected + 1
    currentOverheadNs := overheadNs
    peakOverheadNs := max s.peakOverheadNs overheadNs
    totalOverheadNs := Word.wrap (s.totalOverheadNs + overheadNs) }

/-- The background collectors by what they do. -/
inductive CollectorKind where
  | performance | health | analytics
  deriving DecidableEq

/-- A background collector of a core. -/
structure Collector where
  kind : CollectorKind
  /-- How long it still sleeps before its next tick, in milliseconds. -/
  pauseMs : Nat := 0
  stretch : Nat := 1
  deriving DecidableEq

/-- A telemetry core. -/
structure Core where
  number : Nat
  config : Config
  initialized : Bool := true
  enabled : Bool
  registry : Registry
  events : EventRing
  health : HealthTable
  tracker : AllocationTracker
  counters : LifetimeCounters := {}
  /-- The predefined metrics; all zero until they are registered and after a shutdown. -/
  predefined : PredefinedMetrics := {}
  collectors : List Collector := []
  restartHook : Option HookRef := none
  analyticsHook : Option AnalyticsHook := none
  analyticsCycles : Nat := 0
  reservedBytes : Nat

/-- A core in its environment. -/
structure System where
  env : Environment
  core : Core

abbrev Action (α : Type) := StateM System α

/-- A call: it answers or fails, and in either case leaves a system behind. -/
abbrev Call (α : Type) := ExceptT TelemetryError (StateM System) α

namespace System

def call {α : Type} (s : System) (c : Call α) : Except TelemetryError α × System := c.run.run s

end System

namespace Core

def change (f : Core → Core) : Action Unit := modify fun s => { s with core := f s.core }

def count (f : LifetimeCounters → LifetimeCounters) : Action Unit :=
  change fun c => { c with counters := f c.counters }

/-- Fails unless the core accepts calls. -/
def ensureReady : Call Unit := do
  if (← get).core.initialized then pure () else throw .notInitialized

def readClock : Action Nat := do
  let s ← get
  let (now, platform) := s.env.platform.readClock
  set { s with env.platform := platform }
  return now

/-- Works on the registry; a failure leaves it as it was. -/
def onRegistry {α : Type} (f : Registry → Except TelemetryError (α × Registry)) : Call α := do
  let s ← get
  match f s.core.registry with
  | .ok (a, registry) =>
    set { s with core.registry := registry }
    return a
  | .error e => throw e

/-- Works on the health table; a failure leaves it as it was. -/
def onHealth {α : Type} (f : HealthTable → Except TelemetryError (α × HealthTable)) : Call α := do
  let s ← get
  match f s.core.health with
  | .ok (a, health) =>
    set { s with core.health := health }
    return a
  | .error e => throw e

/-- Works on the allocation tracker; a failure leaves it as it was. -/
def onTracker {α : Type} (f : AllocationTracker → Except TelemetryError (α × AllocationTracker)) :
    Call α := do
  let s ← get
  match f s.core.tracker with
  | .ok (a, tracker) =>
    set { s with core.tracker := tracker }
    return a
  | .error e => throw e

def readRegistry {α : Type} (f : Registry → Except TelemetryError α) : Call α := do
  match f (← get).core.registry with
  | .ok a => return a
  | .error e => throw e

def readHealth {α : Type} (f : HealthTable → Except TelemetryError α) : Call α := do
  match f (← get).core.health with
  | .ok a => return a
  | .error e => throw e

end Core

end DriverTelemetry
