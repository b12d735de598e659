import DriverTelemetry.Health.Record
import DriverTelemetry.Text.Quoted

/-!
# Health records for developers

The developer's view of health records and evaluations: every field under its name, with names of
drivers in quotes.
-/

namespace DriverTelemetry

def optionalText : Option Nat → String
  | some n => s!"Some({n})"
  | none => "None"

def PerformanceIndicators.debugText (p : PerformanceIndicators) : String :=
  s!"PerformanceIndicators \x7b cpu_usage_percent: {p.cpuPercent}, memory_usage_kb: {p.memoryKb}, interrupt_rate: {p.interruptRate}, io_operations_per_sec: {p.ioRate}, errors_per_minute: {p.errorsPerMinute} \x7d"

def ReliabilityCounters.debugText (r : ReliabilityCounters) : String :=
  s!"ReliabilityCounters \x7b crash_count: {r.crashes}, hang_count: {r.hangs}, timeout_count: {r.timeouts}, memory_leaks: {r.leaks}, uptime_ns: {r.uptimeNs}, last_error_ns: {optionalText r.lastErrorNs} \x7d"

def RecoveryState.debugText (r : RecoveryState) : String :=
  s!"RecoveryPolicy \x7b auto_recovery: {r.auto}, threshold: {r.threshold}, restart_count: {r.restarts}, recovery_count: {r.recoveries}, consecutive_failures: {r.failures} \x7d"

def DriverHealth.debugText (d : DriverHealth) : String :=
  s!"DriverHealth \x7b id: DriverId({d.id.number}), name: {Text.quoted d.name.text}, status: {d.status.name}, last_check_ns: {d.lastCheckNs}, performance: {d.performance.debugText}, reliability: {d.reliability.debugText}, recovery: {d.recovery.debugText} \x7d"

/-- The developer's view of an evaluation, which leaves out the driver's policy and handle. -/
def Evaluation.debugText (e : Evaluation) : String :=
  s!"Evaluation \x7b id: DriverId({e.id.number}), name: {Text.quoted e.name.text}, from: {e.before.name}, to: {e.after.name}, failures: {e.failures}, recovery_due: {e.recoveryDue}, .. \x7d"

end DriverTelemetry
