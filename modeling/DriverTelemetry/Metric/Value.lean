import DriverTelemetry.Metric.Histogram
import DriverTelemetry.Metric.Kind
import DriverTelemetry.Platform.Clock

/-!
# Metric values

The value that a metric of each kind accumulates, and the updates that a kind accepts. An update
that does not fit the kind of a value answers `none`.
-/

namespace DriverTelemetry

/-- Durations accumulated by a timer. -/
structure TimerStats where
  totalNs : Nat := 0
  calls : Nat := 0
  /-- The shortest duration; the largest word while there is none. -/
  minNs : Nat := Word.largest
  maxNs : Nat := 0
  deriving DecidableEq

namespace TimerStats

def empty : TimerStats := {}

def record (t : TimerStats) (durationNs : Nat) : TimerStats where
  totalNs := Word.satAdd t.totalNs durationNs
  calls := t.calls + 1
  minNs := min t.minNs durationNs
  maxNs := max t.maxNs durationNs

def ofSamples (durationsNs : List Nat) : TimerStats := durationsNs.foldl record empty

/-- The mean duration; 0 without durations. -/
def averageNs (t : TimerStats) : Nat := t.totalNs / t.calls

end TimerStats

/-- A counter that also measures its rate over windows of at least a second. -/
structure RateWindow where
  total : Nat := 0
  startNs : Nat := 0
  base : Nat := 0
  lastRate : Option Nat := none
  deriving DecidableEq

namespace RateWindow

def openedAt (nowNs : Nat) : RateWindow := { startNs := nowNs }

/-- Counts an amount; the total stops at the largest word. -/
def add (r : RateWindow) (amount : Nat) : RateWindow := { r with total := Word.satAdd r.total amount }

def age (r : RateWindow) (nowNs : Nat) : Nat := nowNs - r.startNs

/-- The rate over the current window alone; 0 if it has no age. -/
def currentRate (r : RateWindow) (nowNs : Nat) : Nat :=
  if r.age nowNs = 0 then 0
  else min ((r.total - r.base) * nsPerSec / r.age nowNs) Word.largest

/-- The rate per second: that of the last closed window while the current one is younger than a
second, else that of the current window. -/
def perSecond (r : RateWindow) (nowNs : Nat) : Nat :=
  match r.lastRate with
  | some rate => if r.age nowNs < nsPerSec then rate else r.currentRate nowNs
  | none => r.currentRate nowNs

/-- Closes the current window and opens the next one, if it is at least a second old. -/
def roll (r : RateWindow) (nowNs : Nat) : RateWindow :=
  if nsPerSec ≤ r.age nowNs then
    { total := r.total, startNs := nowNs, base := r.total, lastRate := some (r.currentRate nowNs) }
  else r

end RateWindow

/-- The value of a metric; its constructor is the kind. -/
inductive MetricValue where
  | counter (total : Nat)
  | gauge (level : Int)
  | rate (window : RateWindow)
  | timer (stats : TimerStats)
  | histogram (h : Histogram)
  | memory (bytes : Int)
  | bandwidth (bytesPerSecond : Int)
  deriving DecidableEq

namespace MetricValue

def initial (kind : MetricKind) (nowNs : Nat) : MetricValue :=
  match kind with
  | .counter => counter 0
  | .gauge => gauge 0
  | .rate => rate (RateWindow.openedAt nowNs)
  | .timer => timer TimerStats.empty
  | .histogram => histogram Histogram.empty
  | .memory => memory 0
  | .bandwidth => bandwidth 0

def kind : MetricValue → MetricKind
  | counter _ => .counter
  | gauge _ => .gauge
  | rate _ => .rate
  | timer _ => .timer
  | histogram _ => .histogram
  | memory _ => .memory
  | bandwidth _ => .bandwidth

def level? : MetricValue → Option Int
  | gauge v | memory v | bandwidth v => some v
  | _ => none

def total? : MetricValue → Option Nat
  | counter n => some n
  | rate r => some r.total
  | _ => none

def magnitude : MetricValue → Nat
  | counter n => n
  | gauge v | memory v | bandwidth v => v.natAbs
  | rate r => r.total
  | timer t => t.totalNs
  | histogram h => h.sum

def addCount? (amount : Nat) : MetricValue → Option MetricValue
  | counter n => some (counter (Word.satAdd n amount))
  | rate r => some (rate (r.add amount))
  | _ => none

def setLevel? (v : Int) : MetricValue → Option MetricValue
  | gauge _ => some (gauge v)
  | memory _ => some (memory v)
  | bandwidth _ => some (bandwidth v)
  | _ => none

def adjustLevel? (delta : Int) : MetricValue → Option MetricValue
  | gauge v => some (gauge (SignedWord.satAdd v delta))
  | memory v => some (memory (SignedWord.satAdd v delta))
  | bandwidth v => some (bandwidth (SignedWord.satAdd v delta))
  | _ => none

def recordSample? (sample : Nat) : MetricValue → Option MetricValue
  | histogram h => some (histogram (h.record sample))
  | _ => none

def recordDuration? (durationNs : Nat) : MetricValue → Option MetricValue
  | timer t => some (timer (t.record durationNs))
  | _ => none

def roll (nowNs : Nat) : MetricValue → MetricValue
  | rate r => rate (r.roll nowNs)
  | v => v

end MetricValue

end DriverTelemetry
