import DriverTelemetry.Core.Benchmark
import DriverTelemetry.Core.Configure
import DriverTelemetry.Core.Dashboard
import DriverTelemetry.Core.Snapshot
import DriverTelemetry.Core.StandardMetrics
import DriverTelemetry.Core.Start
import DriverTelemetry.Core.SystemCheck
import DriverTelemetry.Core.Timers

/-!
# Calls on a core

Everything a producer or a supervisor can ask of a telemetry core.
-/
