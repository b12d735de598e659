import DriverTelemetry.Core.Metrics
import DriverTelemetry.Core.Shutdown

/-!
# Starting a core

Starting validates the configuration, reserves memory for the three tables and creates them,
registers the predefined metrics and starts the collectors. Whatever fails, everything acquired
until then is given back.
-/

namespace DriverTelemetry

/-- An environment with the bytes that have been reserved on its platform so far. -/
structure Reservation where
  env : Environment
  bytes : Nat := 0

namespace Reservation

def reserve (bytes : Nat) : ExceptT TelemetryError (StateM Reservation) Unit := do
  let r ← get
  match r.env.platform.reserve bytes with
  | .ok platform => set { r with env.platform := platform, bytes := r.bytes + bytes }
  | .error e => throw (.ofPlatform e)

/-- Asks the allocator for the slots of a table. -/
def allocate : ExceptT TelemetryError (StateM Reservation) Unit := do
  let r ← get
  match r.env.tablesLeft with
  | none => pure ()
  | some 0 => throw .allocationFailed
  | some (left + 1) => set { r with env.tablesLeft := some left }

/-- Reserves memory for a table and then creates the table. -/
def acquire {α : Type} (bytes : Nat) (create : Except TelemetryError α) :
    ExceptT TelemetryError (StateM Reservation) α := do
  reserve bytes
  let table ← create
  allocate
  return table

def cancel (r : Reservation) : Environment :=
  { r.env with platform := r.env.platform.release r.bytes }

end Reservation

namespace Core

/-- The tables of a core. -/
structure Tables where
  registry : Registry
  events : EventRing
  tracker : AllocationTracker

/-- The bytes of the tables that a configuration asks for: registry, ring, tracker. -/
def tableFootprints (config : Config) : List Nat :=
  [Registry.footprint config.metricCapacity.toNat,
   EventRing.footprint config.eventCapacity.toNat,
   AllocationTracker.footprint config.trackingCapacity.toNat]

def acquireTables (config : Config) : ExceptT TelemetryError (StateM Reservation) Tables := do
  let metricSlots := config.metricCapacity.toNat
  let eventSlots := config.eventCapacity.toNat
  let trackingSlots := config.trackingCapacity.toNat
  let registry ← Reservation.acquire (Registry.footprint metricSlots)
    (Registry.create metricSlots (.ofConfig config))
  let events ← Reservation.acquire (EventRing.footprint eventSlots) (EventRing.create eventSlots)
  let tracker ← Reservation.acquire (AllocationTracker.footprint trackingSlots)
    (AllocationTracker.create trackingSlots)
  return { registry, events, tracker }

def registerPredefined : Call Unit := do
  let driverLoadTime ←
    registerMetric "driver_load_time" "Driver loading time in microseconds" .timer .core
  let interruptLatency ←
    registerMetric "interrupt_latency" "Interrupt processing latency in nanoseconds" .histogram
      .core
  let memoryUsage ← registerMetric "memory_usage" "Driver memory usage in bytes" .gauge .core
  let cpuUsage ← registerMetric "cpu_usage" "Driver CPU usage percentage" .gauge .core
  let ioThroughput ←
    registerMetric "io_throughput" "I/O throughput in bytes per second" .rate .core
  let errorRate ← registerMetric "error_rate" "Error rate per minute" .rate .core
  let deviceCount ← registerMetric "device_count" "Number of active devices" .gauge .core
  let trackedMemory ←
    registerMetric "tracked_memory" "Bytes held by tracked allocations" .memory .core
  change fun c =>
    { c with
      predefined :=
        { driverLoadTime, interruptLatency, memoryUsage, cpuUsage, ioThroughput, errorRate,
          deviceCount, trackedMemory } }

/-- The collectors that a configuration asks for, in the order in which they are started. The
analytics collector sleeps before its first tick. -/
def collectorsOf (config : Config) : List Collector :=
  (if config.collectors.performance then [{ kind := .performance }] else [])
    ++ (if config.collectors.health then [{ kind := .health }] else [])
    ++ (if config.collectors.analytics then
          [{ kind := .analytics, pauseMs := config.analyticsIntervalMs.toNat }] else [])

def startCollector (collector : Collector) : Call Unit := do
  let s ← get
  match s.env.platform.spawn with
  | .ok platform =>
    set
      { s with
        env.platform := platform
        core.collectors := s.core.collectors ++ [collector] }
  | .error e => throw (← platformError e)

def bootstrap : Call Unit := do
  registerPredefined
  (collectorsOf (← get).core.config).forM startCollector

def announce : Call Unit := do
  let config := (← get).core.config
  let metricSlots := config.metricCapacity.toNat
  let eventSlots := config.eventCapacity.toNat
  let _ ← log .info .core
    s!"Driver telemetry system initialized with {metricSlots} metric slots, {eventSlots} event slots"

/-- The core that stands on the tables, before its metrics are registered. -/
def ofTables (number : Nat) (config : Config) (tables : Tables) (reservedBytes : Nat) : Core where
  number := number
  config := config
  enabled := config.enabled
  registry := tables.registry
  events := tables.events
  health := { alerts := config.alerts }
  tracker := tables.tracker
  reservedBytes := reservedBytes

/-- Puts a new core on its tables, if they can be acquired; otherwise gives back what has been
reserved for them. -/
def prepare (number : Nat) (config : Config) (env : Environment) :
    Except (TelemetryError × Environment) System :=
  match config.validate with
  | .error e => .error (e.toTelemetryError, env)
  | .ok () =>
    match (acquireTables config).run.run { env } with
    | (.error e, r) => .error (e, r.cancel)
    | (.ok tables, r) => .ok { env := r.env, core := ofTables number config tables r.bytes }

/-- Completes a core on its tables; a core that cannot be completed is shut down. -/
def complete (s : System) : Except TelemetryError Unit × System :=
  match s.call bootstrap with
  | (.error e, s) => (.error e, s.retire)
  | (.ok (), s) => s.call announce

def start (number : Nat) (config : Config) (env : Environment) :
    Except TelemetryError Core × Environment :=
  match prepare number config env with
  | .error (e, env) => (.error e, env)
  | .ok s =>
    match complete s with
    | (.error e, s) => (.error e, s.env)
    | (.ok (), s) => (.ok s.core, s.env)

end Core

end DriverTelemetry
