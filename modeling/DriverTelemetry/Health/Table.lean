import DriverTelemetry.Error
import DriverTelemetry.Health.Record

/-!
# Health table

The health records of up to 256 drivers; the `i`-th driver registered has the number `i`. The table
is given readings and decides what they mean: an operation that fails leaves it as it was.
-/

namespace DriverTelemetry

/-- The table of health records. -/
structure HealthTable where
  alerts : AlertThresholds
  drivers : List DriverHealth := []
  deriving DecidableEq

namespace HealthTable

def driverLimit : Nat := 256

def setAlerts (t : HealthTable) (alerts : AlertThresholds) : HealthTable := { t with alerts }

/-- The record of a number, if there is one. -/
def find? (t : HealthTable) (id : DriverId) : Option DriverHealth :=
  if id.number = 0 then none else t.drivers[id.number - 1]?

def get (t : HealthTable) (id : DriverId) : Except TelemetryError DriverHealth :=
  match t.find? id with
  | some d => .ok d
  | none => .error .notFound

/-- Changes the record of a number, if there is one. -/
def modify (t : HealthTable) (id : DriverId) (f : DriverHealth → DriverHealth) : HealthTable :=
  if id.number = 0 then t else { t with drivers := t.drivers.modify (id.number - 1) f }

def apply (t : HealthTable) (id : DriverId) (readings : DriverReadings) (nowNs : Nat) :
    Except TelemetryError (Evaluation × HealthTable) := do
  let d ← t.get id
  let after := d.evaluated readings t.alerts nowNs
  return (after.outcome d.status, t.modify id fun _ => after)

/-- Registers a driver under the next number and evaluates it once. -/
def register (t : HealthTable) (name : String) (handle : HandleRef) (readings : DriverReadings)
    (auto : Bool) (threshold : Nat) (nowNs : Nat) :
    Except TelemetryError (Evaluation × HealthTable) :=
  if driverLimit ≤ t.drivers.length then .error (.capacityExhausted .drivers)
  else
    let id : DriverId := ⟨t.drivers.length + 1⟩
    let d : DriverHealth :=
      { id, name := .ofString name, handle, registeredNs := nowNs, recovery := { auto, threshold } }
    { t with drivers := t.drivers ++ [d] }.apply id readings nowNs

/-- Notes a restart that succeeded; answers the number of restarts attempted. -/
def recordRestart (t : HealthTable) (id : DriverId) : Except TelemetryError (Nat × HealthTable) := do
  let d ← t.get id
  return (d.restarted.recovery.restarts, t.modify id DriverHealth.restarted)

/-- Gives up on a driver; answers the status it had. -/
def markFailed (t : HealthTable) (id : DriverId) (nowNs : Nat) (attemptedRestart : Bool) :
    Except TelemetryError (HealthStatus × HealthTable) := do
  let d ← t.get id
  return (d.status, t.modify id (·.givenUp nowNs attemptedRestart))

def setAutoRecovery (t : HealthTable) (id : DriverId) (auto : Bool) (threshold : Nat) :
    Except TelemetryError HealthTable := do
  if threshold = 0 then throw (.invalidParam "recovery threshold")
  let _ ← t.get id
  return t.modify id fun d => { d with recovery := { d.recovery with auto, threshold } }

/-- Attributes a leak to a driver, if it is registered. -/
def noteLeak (t : HealthTable) (id : DriverId) : HealthTable :=
  t.modify id fun d =>
    { d with reliability := { d.reliability with leaks := d.reliability.leaks + 1 } }

/-- Every registered driver with its handle, in the order of their numbers. -/
def handles (t : HealthTable) : List (DriverId × HandleRef) :=
  t.drivers.map fun d => (d.id, d.handle)

def size (t : HealthTable) : Nat := t.drivers.length

def failingCount (t : HealthTable) : Nat := t.drivers.countP (·.status.isFailing)

def release (t : HealthTable) : HealthTable := { t with drivers := [] }

end HealthTable

end DriverTelemetry
