import DriverTelemetry.Driver
import DriverTelemetry.Health.Status
import DriverTelemetry.Text.Bounded

/-!
# Health records

What is kept about a registered driver, and the outcome of evaluating it.
-/

namespace DriverTelemetry

/-- The latest performance indicators of a driver. -/
structure PerformanceIndicators where
  cpuPercent : Nat := 0
  memoryKb : Nat := 0
  interruptRate : Nat := 0
  ioRate : Nat := 0
  errorsPerMinute : Nat := 0
  deriving DecidableEq

def PerformanceIndicators.ofReadings (r : DriverReadings) : PerformanceIndicators where
  cpuPercent := r.cpuPercent
  memoryKb := r.memoryBytes / 1024
  interruptRate := r.interruptRate
  ioRate := r.ioRate
  errorsPerMinute := r.errorsPerMinute

/-- The reliability counters of a driver. -/
structure ReliabilityCounters where
  crashes : Nat := 0
  hangs : Nat := 0
  timeouts : Nat := 0
  leaks : Nat := 0
  uptimeNs : Nat := 0
  lastErrorNs : Option Nat := none
  deriving DecidableEq

/-- The recovery policy of a driver and the counts it goes by. -/
structure RecoveryState where
  auto : Bool := false
  /-- The failing evaluations in a row that call for recovery. -/
  threshold : Nat := 0
  restarts : Nat := 0
  recoveries : Nat := 0
  failures : Nat := 0
  deriving DecidableEq

/-- The health record of a driver. -/
structure DriverHealth where
  id : DriverId
  name : Name
  handle : HandleRef
  status : HealthStatus := .unknown
  registeredNs : Nat
  lastCheckNs : Nat := 0
  performance : PerformanceIndicators := {}
  reliability : ReliabilityCounters := {}
  recovery : RecoveryState
  deriving DecidableEq

/-- The outcome of evaluating a driver. -/
structure Evaluation where
  id : DriverId
  name : Name
  before : HealthStatus
  after : HealthStatus
  failures : Nat
  /-- Whether they have reached the threshold, with the driver not given up already. -/
  recoveryDue : Bool
  autoRecovery : Bool
  handle : HandleRef
  deriving DecidableEq

def Evaluation.changed (e : Evaluation) : Bool := e.before != e.after

namespace DriverHealth

/-- The time at which a status last worsened, after a step from `before` to `after`. -/
def worsenedNs (last : Option Nat) (before after : HealthStatus) (nowNs : Nat) : Option Nat :=
  if before < after ∧ HealthStatus.healthy < after then some nowNs else last

def evaluated (d : DriverHealth) (r : DriverReadings) (alerts : AlertThresholds) (nowNs : Nat) :
    DriverHealth :=
  let after := d.status.next (HealthStatus.observe r.cpuPercent r.crashes alerts)
  { d with
    performance := .ofReadings r
    reliability :=
      { d.reliability with
        crashes := r.crashes
        hangs := r.hangs
        timeouts := r.timeouts
        uptimeNs := nowNs - d.registeredNs
        lastErrorNs := worsenedNs d.reliability.lastErrorNs d.status after nowNs }
    status := after
    lastCheckNs := nowNs
    recovery :=
      { d.recovery with failures := if after.isFailing then d.recovery.failures + 1 else 0 } }

/-- The outcome of an evaluation that led from the status `before` to this record. -/
def outcome (d : DriverHealth) (before : HealthStatus) : Evaluation where
  id := d.id
  name := d.name
  before := before
  after := d.status
  failures := d.recovery.failures
  recoveryDue := d.status != .failed && decide (d.recovery.threshold ≤ d.recovery.failures)
  autoRecovery := d.recovery.auto
  handle := d.handle

def restarted (d : DriverHealth) : DriverHealth :=
  { d with
    recovery :=
      { d.recovery with
        restarts := d.recovery.restarts + 1
        recoveries := d.recovery.recoveries + 1
        failures := 0 } }

/-- The record after giving up, with or without an attempt to restart. -/
def givenUp (d : DriverHealth) (nowNs : Nat) (attemptedRestart : Bool) : DriverHealth :=
  { d with
    status := .failed
    reliability := { d.reliability with lastErrorNs := some nowNs }
    recovery :=
      { d.recovery with
        failures := 0
        restarts := if attemptedRestart then d.recovery.restarts + 1 else d.recovery.restarts } }

end DriverHealth

end DriverTelemetry
