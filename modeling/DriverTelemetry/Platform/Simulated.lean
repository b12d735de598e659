import DriverTelemetry.Platform.Basic
import DriverTelemetry.Platform.Clock

/-!
# Simulated platform

A deterministic platform. Its clock moves when it is told to, and by `stepNs` before every reading;
its samplers answer what they were last set to; its stack traces are made up; memory is granted up
to a budget, and threads until a set number of them has been started.
-/

namespace DriverTelemetry

/-- The return addresses that a stack trace holds at most. -/
def maxStackDepth : Nat := 16

/-- A platform whose every answer is set by hand. -/
structure SimulatedPlatform where
  clockNs : Nat := 0
  stepNs : Nat := 0
  thread : Nat := 1
  cpuId : Nat := 0
  memoryBytes : Nat := 0
  cpuPercent : Nat := 0
  deviceCount : Nat := 0
  stackDepth : Nat := 4
  budget : Nat := Word.largest
  reserved : Nat := 0
  /-- Why threads are refused, once no more may be started. -/
  spawnRefusal : Option PlatformError := none
  spawnsLeft : Nat := Word.largest
  threads : ThreadTable := {}
  deriving DecidableEq

namespace SimulatedPlatform

/-- The first of the return addresses in a stack trace. -/
def textBase : Nat := 0xffffffff81000000

def frameSize : Nat := 0x40

/-- Where wall-clock time starts: the beginning of 2026. -/
def wallOriginNs : Nat := 1767225600 * nsPerSec

def readClock (p : SimulatedPlatform) : Nat × SimulatedPlatform :=
  let now := Word.wrap (p.clockNs + p.stepNs)
  (now, { p with clockNs := now })

def advanceNs (p : SimulatedPlatform) (ns : Nat) : SimulatedPlatform :=
  { p with clockNs := Word.wrap (p.clockNs + ns) }

/-- Moves the clock by milliseconds. -/
def advanceMs (p : SimulatedPlatform) (ms : Nat) : SimulatedPlatform :=
  p.advanceNs (Word.wrap (ms * nsPerMs))

def wallTime (p : SimulatedPlatform) : WallTime := .ofNanos (Word.wrap (wallOriginNs + p.clockNs))

def setStackDepth (p : SimulatedPlatform) (depth : Nat) : SimulatedPlatform :=
  { p with stackDepth := min depth maxStackDepth }

/-- A stack trace with room for `room` return addresses. -/
def captureStack (p : SimulatedPlatform) (room : Nat) : List Nat :=
  (List.range (min p.stackDepth room)).map fun frame => textBase + frame * frameSize

/-- Reserves memory, unless that exceeds the budget or the largest word. -/
def reserve (p : SimulatedPlatform) (bytes : Nat) : Except PlatformError SimulatedPlatform :=
  if p.reserved + bytes ≤ Word.largest ∧ p.reserved + bytes ≤ p.budget then
    .ok { p with reserved := p.reserved + bytes }
  else .error (.outOfMemory bytes)

def release (p : SimulatedPlatform) (bytes : Nat) : SimulatedPlatform :=
  { p with reserved := p.reserved - bytes }

/-- Starts a thread for the core, unless threads are refused by now. -/
def spawn (p : SimulatedPlatform) : Except PlatformError SimulatedPlatform :=
  match p.spawnRefusal with
  | none => .ok p
  | some refusal =>
    if p.spawnsLeft = 0 then .error refusal else .ok { p with spawnsLeft := p.spawnsLeft - 1 }

/-- Starting a thread reserves no memory. -/
theorem reserved_spawn {p q : SimulatedPlatform} (h : p.spawn = .ok q) :
    q.reserved = p.reserved := by
  unfold spawn at h
  split at h
  · cases h
    rfl
  · split at h
    · cases h
    · cases h
      rfl

def debugText (p : SimulatedPlatform) : String :=
  s!"MockPlatform \x7b now_ns: {p.clockNs}, reserved: {p.reserved} \x7d"

instance : Platform SimulatedPlatform where
  reserve := reserve
  release := release
  reserved := reserved
  captureStack := captureStack
  cpuId := cpuId
  threads := threads
  setThreads p threads := { p with threads }
  debugText := debugText

end SimulatedPlatform

end DriverTelemetry
