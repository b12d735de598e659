import DriverTelemetry.Metric.Anomaly
import DriverTelemetry.Table

/-!
# Metric registry

A table of metrics with a fixed number of slots; the `i`-th metric registered has the number `i`.
Samples for counters, rates and histograms are checked as they are applied, and verdicts wait in a
queue of at most 64 until they are taken; a full queue drops its oldest verdict. An operation that
fails answers an error and no registry, so it cannot have changed anything.
-/

namespace DriverTelemetry

/-- The table of registered metrics. -/
structure Registry where
  capacity : Nat
  policy : Anomaly.Policy
  metrics : List Metric := []
  pending : List Anomaly.Verdict := []
  droppedVerdicts : Nat := 0
  deriving DecidableEq

namespace Registry

/-- The verdicts that wait at most. -/
def pendingLimit : Nat := 64

def bytesPerSlot : Nat := 544

def footprint (capacity : Nat) : Nat := capacity * bytesPerSlot

def create (capacity : Nat) (policy : Anomaly.Policy) : Except TelemetryError Registry := do
  Table.checkCapacity "metric capacity" capacity bytesPerSlot
  return { capacity, policy }

def register (r : Registry) (name description : String) (kind : MetricKind)
    (subsystem : Subsystem) (nowNs : Nat) : Except TelemetryError (MetricId × Registry) :=
  if name.isEmpty then .error (.invalidParam "metric name")
  else if r.capacity ≤ r.metrics.length then .error (.capacityExhausted .metrics)
  else
    let id : MetricId := ⟨r.metrics.length + 1⟩
    let metric : Metric :=
      { id
        name := .ofString name
        description := .ofString description
        subsystem
        registeredNs := nowNs
        value := .initial kind nowNs }
    .ok (id, { r with metrics := r.metrics ++ [metric] })

/-- The metric of a number, if there is one. -/
def find? (r : Registry) (id : MetricId) : Option Metric :=
  if id.number = 0 then none else r.metrics[id.number - 1]?

def get (r : Registry) (id : MetricId) : Except TelemetryError Metric :=
  match r.find? id with
  | some m => .ok m
  | none => .error .notFound

/-- The metric of a number, if it can be updated. -/
def live (r : Registry) (id : MetricId) : Except TelemetryError Metric :=
  if id.number = 0 then .error (.invalidParam "metric id 0")
  else
    match r.find? id with
    | none => .error .notFound
    | some m => if m.enabled then .ok m else .error (.invalidParam "metric disabled")

/-- Changes the metric of a number, if there is one. -/
def modify (r : Registry) (id : MetricId) (f : Metric → Metric) : Registry :=
  if id.number = 0 then r else { r with metrics := r.metrics.modify (id.number - 1) f }

/-- Applies an update to the value of an enabled metric; answers the metric as it was and the
registry after it. -/
def update (r : Registry) (id : MetricId) (nowNs : Nat) (f : MetricValue → Option MetricValue) :
    Except TelemetryError (Metric × Registry) := do
  let m ← r.live id
  match f m.value with
  | none => .error (.kindMismatch m.kind)
  | some value => .ok (m, r.modify id fun m => m.updated value nowNs)

/-- Lets a verdict wait; a full queue drops its oldest one. -/
def enqueue (r : Registry) (v : Anomaly.Verdict) : Registry :=
  if r.pending.length < pendingLimit then { r with pending := r.pending ++ [v] }
  else { r with pending := r.pending.tail ++ [v], droppedVerdicts := r.droppedVerdicts + 1 }

/-- Lets the verdict on a sample wait, if there is one. -/
def enqueue? (r : Registry) (v : Option Anomaly.Verdict) : Registry :=
  match v with
  | some v => r.enqueue v
  | none => r

def addCount (r : Registry) (id : MetricId) (amount nowNs : Nat) :
    Except TelemetryError Registry := do
  let (before, after) ← r.update id nowNs (MetricValue.addCount? amount)
  return after.enqueue? (Anomaly.check r.policy before amount)

/-- Sets a gauge-like metric; answers the verdict on the new level. -/
def setLevel (r : Registry) (id : MetricId) (level : Int) (nowNs : Nat) :
    Except TelemetryError (Option Anomaly.Verdict × Registry) := do
  let (before, after) ← r.update id nowNs (MetricValue.setLevel? level)
  return (Anomaly.check r.policy before level, after)

/-- Adds a signed amount to a gauge-like metric; answers the new level. -/
def adjustLevel (r : Registry) (id : MetricId) (delta : Int) (nowNs : Nat) :
    Except TelemetryError (Int × Registry) := do
  let (before, after) ← r.update id nowNs (MetricValue.adjustLevel? delta)
  return (SignedWord.satAdd (before.value.level?.getD 0) delta, after)

def recordSample (r : Registry) (id : MetricId) (sample nowNs : Nat) :
    Except TelemetryError Registry := do
  let (before, after) ← r.update id nowNs (MetricValue.recordSample? sample)
  return after.enqueue? (Anomaly.check r.policy before sample)

def recordDuration (r : Registry) (id : MetricId) (durationNs nowNs : Nat) :
    Except TelemetryError Registry := do
  let (_, after) ← r.update id nowNs (MetricValue.recordDuration? durationNs)
  return after

/-- Notes how long the last update of a metric took. -/
def noteOverhead (r : Registry) (id : MetricId) (overheadNs : Nat) : Registry :=
  r.modify id fun m => { m with overheadNs }

def setEnabled (r : Registry) (id : MetricId) (enabled : Bool) :
    Except TelemetryError Registry := do
  let _ ← r.get id
  return r.modify id fun m => { m with enabled }

/-- The number of the first metric whose stored name is exactly `name`. -/
def findByName? (r : Registry) (name : String) : Option MetricId :=
  (r.metrics.find? (·.name.text == name)).map (·.id)

def ratePerSecond (r : Registry) (id : MetricId) (nowNs : Nat) : Except TelemetryError Nat := do
  let m ← r.get id
  match m.value with
  | .rate window => .ok (window.perSecond nowNs)
  | v => .error (.kindMismatch v.kind)

def rollRates (r : Registry) (nowNs : Nat) : Registry :=
  { r with metrics := r.metrics.map fun m => { m with value := m.value.roll nowNs } }

def isLive (r : Registry) (id : MetricId) : Bool :=
  match r.find? id with
  | some m => m.enabled
  | none => false

/-- Takes the waiting verdicts; those on metrics that no longer accept updates are discarded. -/
def takePending (r : Registry) : List Anomaly.Verdict × Registry :=
  (r.pending.filter (r.isLive ·.metric), { r with pending := [] })

/-- Replaces the policy. Waiting verdicts are dropped when the check is turned off. -/
def setPolicy (r : Registry) (policy : Anomaly.Policy) : Registry :=
  { r with policy, pending := if policy.enabled then r.pending else [] }

def release (r : Registry) : Registry := { r with metrics := [], pending := [] }

def size (r : Registry) : Nat := r.metrics.length

/-- The metrics that accept updates, in the order of their numbers. -/
def enabledMetrics (r : Registry) : List Metric := r.metrics.filter (·.enabled)

end Registry

end DriverTelemetry
