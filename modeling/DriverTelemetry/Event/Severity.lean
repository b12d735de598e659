/-!
# Event severities

How much an event matters. Severities are ordered as they are declared; from `error` on an event
carries a stack trace.
-/

namespace DriverTelemetry

/-- The levels of the developer log that events are copied to. -/
inductive LogLevel where
  | info | warn | error
  deriving DecidableEq

def LogLevel.name : LogLevel → String
  | info => "INFO"
  | warn => "WARN"
  | error => "ERROR"

/-- The severity of an event. -/
inductive Severity where
  | info | warning | error | critical | performance | anomaly | recovery
  deriving DecidableEq, Inhabited

namespace Severity

/-- Every severity, in order. -/
def all : List Severity := [info, warning, error, critical, performance, anomaly, recovery]

def name : Severity → String
  | info => "Info"
  | warning => "Warning"
  | error => "Error"
  | critical => "Critical"
  | performance => "Performance"
  | anomaly => "Anomaly"
  | recovery => "Recovery"

def label : Severity → String
  | info => "INFO"
  | warning => "WARNING"
  | error => "ERROR"
  | critical => "CRITICAL"
  | performance => "PERFORMANCE"
  | anomaly => "ANOMALY"
  | recovery => "RECOVERY"

def ordinal (s : Severity) : Nat := s.ctorIdx

def ofName? (name : String) : Option Severity := all.find? (·.name == name)

def capturesStack (s : Severity) : Bool := decide (error.ordinal ≤ s.ordinal)

/-- The level of the developer log at which events of this severity appear. -/
def logLevel : Severity → LogLevel
  | info | recovery => .info
  | warning | performance | anomaly => .warn
  | error | critical => .error

end Severity

end DriverTelemetry
