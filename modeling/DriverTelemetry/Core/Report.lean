import DriverTelemetry.Core.Snapshot
import DriverTelemetry.Text.Blank

/-!
# Report

A report on a core in plain ASCII text. Its lines are kept from the first on while they fit into a
limit of bytes; no line ends in a blank.
-/

namespace DriverTelemetry

namespace Report

def defaultLimit : Nat := 4096

def formatVersion : String := "2.0"

/-- A character as the report writes it: anything beyond ASCII becomes a question mark. -/
def ascii (c : Char) : Char := if c.toNat < 128 then c else '?'

/-- A line as the report writes it, without the blanks at its end. -/
def line (text : String) : List Char := (Text.trimEnd text.toList).map ascii

/-- The lines that fit into `room` bytes with a line feed each: those in front of the first that
does not. -/
def fitting : (room : Nat) → List (List Char) → List (List Char)
  | _, [] => []
  | room, l :: rest =>
    if l.length + 1 ≤ room then l :: fitting (room - (l.length + 1)) rest else []

def joined (lines : List (List Char)) : String := String.ofList (lines.flatMap (· ++ ['\n']))

def valueText (v : MetricValue) (nowNs : Nat) : String :=
  match v with
  | .counter n => toString n
  | .gauge v => toString v
  | .rate r => s!"{r.total} ({r.perSecond nowNs}/s)"
  | .timer t =>
    if t.calls = 0 then "calls=0"
    else s!"avg={t.averageNs} ns, min={t.minNs} ns, max={t.maxNs} ns, calls={t.calls}"
  | .histogram h =>
    if h.count = 0 then "count=0"
    else s!"count={h.count}, min={h.min}, max={h.max}, mean={h.mean}"
  | .memory v => s!"{v} bytes"
  | .bandwidth v => s!"{v} B/s"

def metricLine (nowNs : Nat) (m : Metric) : String :=
  s!"  {m.name.text}: {valueText m.value nowNs}"

def overview (s : Snapshot) : List String :=
  ["=== Helix Driver Telemetry Report ===",
   "",
   "System Overview:",
   s!"  Telemetry Version: {formatVersion}",
   s!"  Total Metrics: {s.metricCount}",
   s!"  Active Drivers: {s.driverCount}",
   s!"  Collection Overhead: {s.currentOverheadNs} ns",
   "",
   "Statistics:",
   s!"  Metrics Collected: {s.metricsCollected}",
   s!"  Events Logged: {s.eventsLogged}",
   s!"  Health Checks: {s.healthChecks}",
   s!"  Anomalies Detected: {s.anomaliesDetected}",
   s!"  Predictions Made: {s.predictionsMade}",
   "",
   "Key Metrics:"]

def lines (c : Core) (nowNs : Nat) : List (List Char) :=
  (overview c.snapshot ++ c.registry.enabledMetrics.map (metricLine nowNs)).map line

/-- The report on a core, in at most `limit` bytes. -/
def render (c : Core) (nowNs limit : Nat) : String := joined (fitting limit (lines c nowNs))

end Report

namespace Core

def generateReport (limit : Nat) : Call String := do
  ensureReady
  if limit = 0 then throw (.invalidParam "report limit")
  let now ← readClock
  return Report.render (← get).core now limit

end Core

end DriverTelemetry
