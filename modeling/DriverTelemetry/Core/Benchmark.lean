import DriverTelemetry.Core.Events

/-!
# Benchmark

An operation is run a number of times, and its durations by the platform's clock are summarised.
-/

namespace DriverTelemetry

/-- The summary of a benchmark. -/
structure BenchmarkResult where
  iterations : Nat
  totalNs : Nat := 0
  minNs : Nat := Word.largest
  maxNs : Nat := 0
  deriving DecidableEq

namespace BenchmarkResult

def add (b : BenchmarkResult) (elapsedNs : Nat) : BenchmarkResult where
  iterations := b.iterations + 1
  totalNs := Word.satAdd b.totalNs elapsedNs
  minNs := min b.minNs elapsedNs
  maxNs := max b.maxNs elapsedNs

def averageNs (b : BenchmarkResult) : Nat := b.totalNs / b.iterations

end BenchmarkResult

namespace Core

def measure (operation : Action Unit) : Action Nat := do
  let start ← readClock
  operation
  return (← readClock) - start

/-- Measures `left` more runs of an operation, which is told how many came before. -/
def measureRuns (operation : Nat → Action Unit) :
    (left : Nat) → (soFar : BenchmarkResult) → Action BenchmarkResult
  | 0, soFar => return soFar
  | left + 1, soFar => do
    let elapsedNs ← measure (operation soFar.iterations)
    measureRuns operation left (soFar.add elapsedNs)

def benchmark (name : String) (iterations : Nat) (operation : Nat → Action Unit) :
    Call BenchmarkResult := do
  ensureReady
  if iterations = 0 then throw (.invalidParam "benchmark iterations")
  let b ← measureRuns operation iterations { iterations := 0 }
  let _ ← log .info .core
    s!"Benchmark '{name}': {iterations} iterations, avg={b.averageNs} ns, min={b.minNs} ns, max={b.maxNs} ns"
  return b

end Core

end DriverTelemetry
