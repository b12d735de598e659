import DriverTelemetry.Word

/-!
# Time

Times are counted in nanoseconds, wall-clock time in seconds and nanoseconds since 1970.
-/

namespace DriverTelemetry

def nsPerSec : Nat := 1000000000

/-- Nanoseconds in a millisecond. -/
def nsPerMs : Nat := 1000000

def nsPerUs : Nat := 1000

/-- Wall-clock time. -/
structure WallTime where
  secs : Nat
  nanos : Nat
  deriving DecidableEq

namespace WallTime

def ofNanos (ns : Nat) : WallTime := ⟨ns / nsPerSec, ns % nsPerSec⟩

/-- All nanoseconds together, up to the largest word. -/
def toNanos (t : WallTime) : Nat := Word.satAdd (Word.satMul t.secs nsPerSec) t.nanos

/-- Splitting and adding up give back any time of 64 bits. -/
theorem toNanos_ofNanos {ns : Nat} (h : ns ≤ Word.largest) : (ofNanos ns).toNanos = ns := by
  have hdiv := Nat.div_add_mod ns nsPerSec
  have hcomm := Nat.mul_comm nsPerSec (ns / nsPerSec)
  simp only [toNanos, ofNanos, Word.satAdd, Word.satMul]
  omega

end WallTime

end DriverTelemetry
