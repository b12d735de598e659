import DriverTelemetry.Event.Basic
import DriverTelemetry.Platform.Simulated
import DriverTelemetry.Table

/-!
# Event ring

A ring holds the newest events, up to its capacity. Slots come into use one after the other; once
all are in use, a new event takes the slot of the oldest one, which `head` points to.
`EventRing.toList` is the view of a ring: its events, oldest first.
-/

namespace DriverTelemetry

/-- A bounded store of the newest events. -/
structure EventRing where
  capacity : Nat
  slots : Array Event := #[]
  head : Nat := 0
  nextId : Nat := 1
  overwritten : Nat := 0
  deriving DecidableEq

namespace EventRing

def bytesPerSlot : Nat := 968

def footprint (capacity : Nat) : Nat := capacity * bytesPerSlot

def create (capacity : Nat) : Except TelemetryError EventRing := do
  Table.checkCapacity "event capacity" capacity bytesPerSlot
  return { capacity }

def size (r : EventRing) : Nat := r.slots.size

def at? (r : EventRing) (offset : Nat) : Option Event := r.slots[(r.head + offset) % r.capacity]?

/-- The events, oldest first. -/
def toList (r : EventRing) : List Event := (List.range r.size).filterMap r.at?

/-- The newest `count` events, oldest first. -/
def newest (r : EventRing) (count : Nat) : List Event :=
  ((List.range r.size).drop (r.size - count)).filterMap r.at?

def countWhere (r : EventRing) (p : Event → Bool) : Nat := r.slots.countP p

/-- Writes an event into a slot, whatever the slot held: the payload is cleared before the producer
fills it. -/
def write (slot : Event) (id : EventId) (severity : Severity) (subsystem : Subsystem)
    (origin : Origin) (fill : Payload → Payload) : Event :=
  { slot with id, severity, subsystem, origin, payload := fill slot.payload.reset }

/-- Adds an event, in a fresh slot while there is one and else in the slot of the oldest event;
answers the event as the ring holds it. -/
def push (r : EventRing) (severity : Severity) (subsystem : Subsystem) (origin : Origin)
    (fill : Payload → Payload) : Event × EventRing :=
  let id : EventId := ⟨r.nextId⟩
  if r.slots.size < r.capacity then
    let event := write .unused id severity subsystem origin fill
    (event, { r with slots := r.slots.push event, nextId := r.nextId + 1 })
  else
    let event := write (r.slots[r.head]?.getD .unused) id severity subsystem origin fill
    (event,
      { r with
        slots := r.slots.setIfInBounds r.head event
        head := (r.head + 1) % r.capacity
        nextId := r.nextId + 1
        overwritten := r.overwritten + 1 })

/-- Adds an event whose origin is read from a platform: the stack, if the severity captures one, the
thread, the processor and last the clock. -/
def pushFrom (r : EventRing) (p : SimulatedPlatform) (severity : Severity) (subsystem : Subsystem)
    (fill : Payload → Payload) : Event × EventRing × SimulatedPlatform :=
  let stack := if severity.capturesStack then p.captureStack maxStackDepth else []
  let (now, p) := p.readClock
  let origin : Origin := { timestampNs := now, thread := p.thread, cpu := p.cpuId, stack }
  let (event, r) := r.push severity subsystem origin fill
  (event, r, p)

def release (r : EventRing) : EventRing := { r with slots := #[], head := 0 }

def debugText (r : EventRing) : String :=
  s!"EventRing \x7b capacity: {r.capacity}, len: {r.size}, next_id: {r.nextId} \x7d"

end EventRing

end DriverTelemetry
