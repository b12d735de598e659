import DriverTelemetry.Metric.Kind
import DriverTelemetry.Platform.Error

/-!
# Telemetry errors

Why a call on the telemetry core fails. Each cause has a small negative status code, which callers
can carry across a boundary that knows only numbers.
-/

namespace DriverTelemetry

/-- A bounded table that can run out of room. -/
inductive Resource where
  | metrics | allocationRecords | drivers
  deriving DecidableEq

def Resource.name : Resource → String
  | metrics => "Metrics"
  | allocationRecords => "AllocationRecords"
  | drivers => "Drivers"

def Resource.ofName? (name : String) : Option Resource :=
  [metrics, allocationRecords, drivers].find? (·.name == name)

/-- Why a call failed. -/
inductive TelemetryError where
  /-- A zero id, an empty name, a value out of range or a disabled metric. -/
  | invalidParam (what : String)
  /-- An unknown metric or driver, or an address that no live allocation has. -/
  | notFound
  | kindMismatch (actual : MetricKind)
  | capacityExhausted (resource : Resource)
  /-- The core has not been started, or has been shut down. -/
  | notInitialized
  | allocationFailed
  | internalError (what : String)
  deriving DecidableEq

namespace TelemetryError

def code : TelemetryError → Int
  | invalidParam _ => -1
  | notFound => -2
  | kindMismatch _ => -3
  | capacityExhausted _ => -4
  | notInitialized => -5
  | allocationFailed => -6
  | internalError _ => -7

def causeName : TelemetryError → String
  | invalidParam _ => "InvalidParam"
  | notFound => "NotFound"
  | kindMismatch _ => "KindMismatch"
  | capacityExhausted _ => "CapacityExhausted"
  | notInitialized => "NotInitialized"
  | allocationFailed => "AllocationFailed"
  | internalError _ => "InternalError"

/-- The cause of that name, about `what` it says it is about. -/
def ofCauseName? (name what : String) : Option TelemetryError :=
  match name with
  | "InvalidParam" => some (invalidParam what)
  | "NotFound" => some notFound
  | "KindMismatch" => (MetricKind.ofName? what).map kindMismatch
  | "CapacityExhausted" => (Resource.ofName? what).map capacityExhausted
  | "NotInitialized" => some notInitialized
  | "AllocationFailed" => some allocationFailed
  | "InternalError" => some (internalError what)
  | _ => none

def message : TelemetryError → String
  | invalidParam what => s!"invalid parameter: {what}"
  | notFound => "not found"
  | kindMismatch actual => s!"operation not valid for {actual.name} metric"
  | capacityExhausted resource => s!"capacity exhausted: {resource.name}"
  | notInitialized => "telemetry not initialized"
  | allocationFailed => "allocation failed"
  | internalError what => s!"internal error: {what}"

/-- The status code of an outcome: 0 on success. -/
def status {α : Type} : Except TelemetryError α → Int
  | .ok _ => 0
  | .error e => e.code

def ofPlatform : PlatformError → TelemetryError
  | .outOfMemory _ | .threadSpawnFailed => allocationFailed
  | .unsupported service => internalError service

end TelemetryError

end DriverTelemetry
