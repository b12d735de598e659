import DriverTelemetry.Core.Metrics

/-!
# Timers

A token remembers when an operation started. Stopping it answers how long the operation took, logs
operations of 10 ms or more, and gives the duration to the metric that the token is bound to.
-/

namespace DriverTelemetry

/-- A measurement that has started. -/
structure TimerToken where
  operation : Name
  startNs : Nat
  metric : Option MetricId := none
  deriving DecidableEq

def TimerToken.bind (t : TimerToken) (id : MetricId) : TimerToken := { t with metric := some id }

def longOperationNs : Nat := 10 * nsPerMs

namespace Core

def startTimer (operation : String) : Call TimerToken := do
  ensureReady
  let now ← readClock
  return { operation := .ofString operation, startNs := now }

def startTimerFor (operation : String) (id : MetricId) : Call TimerToken := do
  return (← startTimer operation).bind id

def logLongOperation (t : TimerToken) (durationNs : Nat) : Action Unit := do
  let us := durationNs / nsPerUs
  let _ ← emit .performance .core fun p =>
    { p.setMessage s!"Long operation detected: '{t.operation.text}' took {us} µs" with
      metric := t.metric }

/-- Stops a measurement. A long operation is logged before its duration goes to the metric, whether
or not the metric takes it; with the master switch off only the duration is answered. -/
def stopTimer (t : TimerToken) : Call Nat := do
  ensureReady
  let durationNs := (← readClock) - t.startNs
  if (← get).core.enabled then
    if longOperationNs ≤ durationNs then logLongOperation t durationNs
    match t.metric with
    | some id => updateTimer id durationNs
    | none => pure ()
  return durationNs

end Core

end DriverTelemetry
