import DriverTelemetry.Core.Metrics
import DriverTelemetry.Text.Numeral

/-!
# Tracking allocations

Allocations and frees go to the tracker, and their sizes to the predefined metric `tracked_memory`.
A leak scan logs every new leak and, if there is one, a summary of all outstanding leaks.
-/

namespace DriverTelemetry

/-- The outcome of a leak scan for its caller. -/
structure LeakSummary where
  newLeaks : Nat
  leaks : Nat
  bytes : Nat
  deriving DecidableEq

namespace Core

/-- Adds a signed amount to `tracked_memory`, if it is registered. That it takes no updates is no
failure: the tracker itself is what counts. -/
def adjustTrackedMemory (delta : Int) : Action Unit := do
  let id := (← get).core.predefined.trackedMemory
  if id.isValid then
    let _ ← (adjustGauge id delta).run

def trackAlloc (address size : Nat) (file : String) (line : Nat) (owner : Option DriverId) :
    Call Unit := do
  ensureReady
  let now ← readClock
  let thread := (← get).env.platform.thread
  onTracker fun t =>
    (t.trackAlloc { address, size, allocatedNs := now, file, line, thread, owner }).map ((), ·)
  adjustTrackedMemory (SignedWord.wrap size)

/-- Marks the newest live allocation of an address as freed. An address that has none is logged. -/
def trackFree (address : Nat) : Call Unit := do
  ensureReady
  match (← get).core.tracker.trackFree address with
  | .ok (record, tracker) =>
    change fun c => { c with tracker }
    adjustTrackedMemory (SignedWord.wrap (-SignedWord.wrap record.size))
  | .error e =>
    if e = .notFound then
      count fun s => { s with untrackedFrees := s.untrackedFrees + 1 }
      emitText .warning .core
        s!"Attempted to free untracked memory address {Numeral.hexadecimal address}"
    throw e

def reportLeak (leak : Leak) : Action Unit := do
  let address := Numeral.hexadecimal leak.address
  let ageMs := leak.ageNs / nsPerMs
  let _ ← emit .warning .core fun p =>
    (p.setMessage
      s!"Memory leak detected: {leak.size} bytes at {address} (allocated at {leak.file}:{leak.line})"
    ).setDetails s!"age {ageMs} ms"
  match leak.owner with
  | some owner => change fun c => { c with health := c.health.noteLeak owner }
  | none => pure ()

def scanLeaks (thresholdMs : Nat) : Call LeakSummary := do
  ensureReady
  let now ← readClock
  let (scan, tracker) := (← get).core.tracker.scan now (Word.satMul thresholdMs nsPerMs)
  change fun c => { c with tracker }
  scan.newLeaks.forM fun leak => (reportLeak leak : Action Unit)
  let summary : LeakSummary :=
    { newLeaks := scan.newLeaks.length, leaks := scan.outstanding, bytes := scan.outstandingBytes }
  if 0 < summary.newLeaks then
    count fun s => { s with leaksDetected := s.leaksDetected + summary.newLeaks }
    emitText .error .core
      s!"Memory leak summary: {summary.leaks} leaks totaling {summary.bytes} bytes"
  return summary

end Core

end DriverTelemetry
