import DriverTelemetry.Core.Basic

/-!
# Reconfiguration

A running core takes over a valid configuration, except for the capacities and the collectors,
which stay what they were when it started. The change happens in two steps: the stored
configuration with the copies that belong to it, and then the thresholds of the health table.
-/

namespace DriverTelemetry

namespace Core

/-- What a core applies of a configuration: everything but what is fixed at the start. -/
def applicable (current new : Config) : Config :=
  { new with
    eventCapacity := current.eventCapacity
    metricCapacity := current.metricCapacity
    trackingCapacity := current.trackingCapacity
    collectors := current.collectors }

/-- Stores what applies of a configuration, with the anomaly policy and the master switch. -/
def installConfig (config : Config) (c : Core) : Core :=
  let applied := applicable c.config config
  { c with
    config := applied
    enabled := applied.enabled
    registry := c.registry.setPolicy (.ofConfig applied) }

def installAlerts (alerts : AlertThresholds) (c : Core) : Core :=
  { c with health := c.health.setAlerts alerts }

def configure (config : Config) : Call Unit := do
  ensureReady
  match config.validate with
  | .error e => throw e.toTelemetryError
  | .ok () =>
    change (installConfig config)
    change (installAlerts config.alerts)

end Core

end DriverTelemetry
