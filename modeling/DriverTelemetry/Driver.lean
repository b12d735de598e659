import DriverTelemetry.Config.Basic

/-!
# Drivers

What the core sees of a driver: a handle with a name, and the readings that the handle reports when
it is asked.
-/

namespace DriverTelemetry

/-- The number of a registered driver, counted from 1. -/
structure DriverId where
  number : Nat
  deriving DecidableEq, Inhabited

/-- The number after `driver#`. -/
def DriverId.text (id : DriverId) : String := s!"driver#{id.number}"

/-- The values read from a driver in one go. -/
structure DriverReadings where
  cpuPercent : Nat := 0
  memoryBytes : Nat := 0
  interruptRate : Nat := 0
  ioRate : Nat := 0
  errorsPerMinute : Nat := 0
  crashes : Nat := 0
  hangs : Nat := 0
  timeouts : Nat := 0
  deriving DecidableEq, Inhabited

/-- The place of a driver handle among those of an environment. -/
structure HandleRef where
  index : Nat
  deriving DecidableEq, Inhabited

/-- A driver as the driver framework exposes it. -/
structure DriverHandle where
  name : String
  readings : DriverReadings
  /-- Whether the handle reports only what every handle must: such a handle has no I/O rate, no
  timeouts and no error rate. -/
  minimal : Bool := false
  deriving DecidableEq, Inhabited

def DriverHandle.read (h : DriverHandle) : DriverReadings :=
  if h.minimal then { h.readings with ioRate := 0, errorsPerMinute := 0, timeouts := 0 }
  else h.readings

end DriverTelemetry
