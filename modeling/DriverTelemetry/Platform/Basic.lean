import DriverTelemetry.Platform.Error
import DriverTelemetry.Platform.Threads

/-!
# Platforms

The services that do not depend on what a machine measures: memory is granted up to a budget,
stacks are captured, and threads are kept in a table.
-/

namespace DriverTelemetry

/-- The states of a platform of some sort, with its services. -/
class Platform (P : Type) where
  reserve : P → (bytes : Nat) → Except PlatformError P
  release : P → (bytes : Nat) → P
  reserved : P → Nat
  captureStack : P → (room : Nat) → List Nat
  cpuId : P → Nat
  threads : P → ThreadTable
  setThreads : P → ThreadTable → P
  debugText : P → String

end DriverTelemetry
