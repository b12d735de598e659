import DriverTelemetry.Core.Basic

/-!
# Statistics

A snapshot of the lifetime counters of a core and of how full its tables are.
-/

namespace DriverTelemetry

/-- The lifetime counters and the occupancy of the tables at one moment. -/
structure Snapshot where
  metricsCollected : Nat
  eventsLogged : Nat
  healthChecks : Nat
  anomaliesDetected : Nat
  predictionsMade : Nat
  leaksDetected : Nat
  untrackedFrees : Nat
  recoveriesAttempted : Nat
  currentOverheadNs : Nat
  peakOverheadNs : Nat
  averageOverheadNs : Nat
  metricCount : Nat
  driverCount : Nat
  eventsBuffered : Nat
  eventsOverwritten : Nat
  trackedAllocations : Nat
  trackedBytes : Nat
  deriving DecidableEq

def Snapshot.fields (s : Snapshot) : List (String × Nat) :=
  [("metrics_collected", s.metricsCollected), ("events_logged", s.eventsLogged),
   ("health_checks", s.healthChecks), ("anomalies_detected", s.anomaliesDetected),
   ("predictions_made", s.predictionsMade), ("leaks_detected", s.leaksDetected),
   ("untracked_frees", s.untrackedFrees), ("recoveries_attempted", s.recoveriesAttempted),
   ("current_overhead_ns", s.currentOverheadNs), ("peak_overhead_ns", s.peakOverheadNs),
   ("average_overhead_ns", s.averageOverheadNs), ("metric_count", s.metricCount),
   ("driver_count", s.driverCount), ("events_buffered", s.eventsBuffered),
   ("events_overwritten", s.eventsOverwritten), ("tracked_allocations", s.trackedAllocations),
   ("tracked_bytes", s.trackedBytes)]

namespace Core

def snapshot (c : Core) : Snapshot where
  metricsCollected := c.counters.metricsCollected
  eventsLogged := c.counters.eventsLogged
  healthChecks := c.counters.healthChecks
  anomaliesDetected := c.counters.anomaliesDetected
  predictionsMade := c.counters.predictionsMade
  leaksDetected := c.counters.leaksDetected
  untrackedFrees := c.counters.untrackedFrees
  recoveriesAttempted := c.counters.recoveriesAttempted
  currentOverheadNs := c.counters.currentOverheadNs
  peakOverheadNs := c.counters.peakOverheadNs
  averageOverheadNs := c.counters.totalOverheadNs / c.counters.metricsCollected
  metricCount := c.registry.size
  driverCount := c.health.size
  eventsBuffered := c.events.size
  eventsOverwritten := c.events.overwritten
  trackedAllocations := c.tracker.liveCount
  trackedBytes := c.tracker.liveBytes

def debugText (c : Core) : String :=
  s!"TelemetryManager \x7b initialized: {c.initialized}, events: {c.events.debugText} \x7d"

end Core

end DriverTelemetry
