import DriverTelemetry.Core.Basic

/-!
# Logging events

Producers log events in one of three forms: a text, pieces of text written one after the other, or
a whole record. Whatever is logged also goes to the developer log.
-/

namespace DriverTelemetry

namespace Core

/-- Adds an event to the ring and to the developer log, with its origin read from the platform. -/
def emit (severity : Severity) (subsystem : Subsystem) (fill : Payload → Payload) :
    Action EventId := do
  let s ← get
  let (event, events, platform) := s.core.events.pushFrom s.env.platform severity subsystem fill
  set
    { s with
      env.platform := platform
      env.log := s.env.log ++ [(severity.logLevel, event.text)]
      core.events := events
      core.counters.eventsLogged := s.core.counters.eventsLogged + 1 }
  return event.id

def emitText (severity : Severity) (subsystem : Subsystem) (message : String) : Action Unit := do
  let _ ← emit severity subsystem (·.setMessage message)

def log (severity : Severity) (subsystem : Subsystem) (message : String) : Call EventId := do
  ensureReady
  emit severity subsystem (·.setMessage message)

def logPieces (severity : Severity) (subsystem : Subsystem) (pieces : List String) :
    Call EventId := do
  ensureReady
  emit severity subsystem (·.writeMessage pieces)

def logEvent (record : EventRecord) : Call EventId := do
  ensureReady
  emit record.severity record.subsystem record.fill

def logError (subsystem : Subsystem) (code : Nat) (message : String) : Call EventId :=
  logEvent { severity := .error, subsystem, message, code := some code }

/-- Logs a critical event if a condition does not hold. A core that accepts no calls logs
nothing. -/
def check (holds : Bool) (condition file : String) (line : Nat) (subsystem : Subsystem) :
    Action Unit := do
  if !holds && (← get).core.initialized then
    emitText .critical subsystem s!"Assertion failed: {condition} at {file}:{line}"

/-- The events in the ring, oldest first. -/
def drainEvents : Call (List Event) := do
  ensureReady
  return (← get).core.events.toList

/-- The newest events in the ring, oldest first. -/
def recentEvents (count : Nat) : Call (List Event) := do
  ensureReady
  return (← get).core.events.newest count

/-- Records that an internal invariant does not hold; answers the error to fail with. -/
def internalError (what : String) : Action TelemetryError := do
  emitText .critical .core s!"Internal error: {what}"
  return .internalError what

/-- The error for a refusal of the platform; a missing service is recorded as internal. -/
def platformError (e : PlatformError) : Action TelemetryError :=
  match TelemetryError.ofPlatform e with
  | .internalError what => internalError what
  | other => return other

end Core

end DriverTelemetry
