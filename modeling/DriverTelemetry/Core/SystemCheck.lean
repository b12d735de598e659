import DriverTelemetry.Core.Allocations
import DriverTelemetry.Core.Report
import DriverTelemetry.Core.Shutdown

/-!
# System check

A one-shot check of memory, leaks and drivers that counts the issues it finds.
-/

namespace DriverTelemetry

namespace Core

def highMemoryBytes : Nat := 1024 * 1024 * 1024

/-- Logs memory usage that is too high; answers the number of issues, 0 or 1. -/
def checkMemory : Call Nat := do
  let bytes ← readMemoryUsage
  if highMemoryBytes < bytes then
    let _ ← log .warning .core s!"High memory usage detected: {bytes} bytes"
    return 1
  else return 0

/-- Counts issues: memory usage that is too high, new leaks, and each driver in a failing
status. -/
def systemHealthCheck : Call Nat := do
  let _ ← log .info .core "Starting comprehensive system health check"
  let memoryIssues ← checkMemory
  let thresholdMs := (← get).core.config.leakThresholdMs.toNat
  let leakIssues := if 0 < (← scanLeaks thresholdMs).newLeaks then 1 else 0
  let issues := memoryIssues + leakIssues + (← get).core.health.failingCount
  let _ ← generateReport Report.defaultLimit
  let _ ← log .info .core s!"System health check completed, {issues} issues found"
  return issues

end Core

end DriverTelemetry
