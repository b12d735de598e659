import DriverTelemetry.Event.Severity
import DriverTelemetry.Metric.Basic

/-!
# Diagnostic events

An event has a number, a severity, the subsystem that emitted it, an origin (time, thread,
processor and stack) and a payload that its producer fills in.
-/

namespace DriverTelemetry

/-- The number of an event, counted from 1 over the life of a ring. -/
structure EventId where
  number : Nat
  deriving DecidableEq, Inhabited

def EventId.text (id : EventId) : String := s!"#{id.number}"

/-- Where and when an event was emitted. -/
structure Origin where
  timestampNs : Nat := 0
  thread : Nat := 0
  cpu : Nat := 0
  /-- Return addresses, for severities that capture a stack. -/
  stack : List Nat := []
  deriving DecidableEq

/-- What a producer writes into an event. -/
structure Payload where
  message : Message := .empty
  /-- Details; empty when there are none. -/
  details : Details := .empty
  metric : Option MetricId := none
  code : Option Nat := none
  deriving DecidableEq

namespace Payload

def blank : Payload := {}

def setMessage (p : Payload) (text : String) : Payload :=
  { p with message := (p.message.copy text).1 }

def writeMessage (p : Payload) (pieces : List String) : Payload :=
  { p with message := (p.message.write pieces).1 }

def setDetails (p : Payload) (text : String) : Payload :=
  { p with details := (p.details.copy text).1 }

def reset (p : Payload) : Payload :=
  { p with message := p.message.clear, details := p.details.clear, metric := none, code := none }

end Payload

/-- An event as a ring holds it. -/
structure Event where
  id : EventId
  severity : Severity
  subsystem : Subsystem
  origin : Origin
  payload : Payload
  deriving DecidableEq

namespace Event

/-- The slot of a ring before its first use. -/
def unused : Event where
  id := ⟨0⟩
  severity := .info
  subsystem := .core
  origin := {}
  payload := .blank

/-- The details, if there are any. -/
def details? (e : Event) : Option String :=
  if e.payload.details.isEmpty then none else some e.payload.details.text

def text (e : Event) : String :=
  s!"[{e.origin.timestampNs}] {e.severity.label} {e.subsystem.name}: {e.payload.message.text}"

/-- Whether numbers increase strictly, and times do not decrease, along a list of events. -/
def inOrder : List Event → Bool
  | a :: b :: rest =>
    decide (a.id.number < b.id.number ∧ a.origin.timestampNs ≤ b.origin.timestampNs)
      && inOrder (b :: rest)
  | _ => true

end Event

/-- An event as a producer submits it whole. -/
structure EventRecord where
  severity : Severity
  subsystem : Subsystem
  message : String
  details : Option String := none
  metric : Option MetricId := none
  code : Option Nat := none

namespace EventRecord

def fill (r : EventRecord) (p : Payload) : Payload :=
  let p := p.setMessage r.message
  let p := match r.details with
    | some details => p.setDetails details
    | none => p
  { p with metric := r.metric, code := r.code }

end EventRecord

end DriverTelemetry
