/-!
# Machine words

Counters, byte counts and clock readings are natural numbers, gauges are integers; the operations
below are the ones that know that a value has 64 bits. An addition either stops at the end of the
range (`Word.satAdd`, `SignedWord.satAdd`) or keeps the low 64 bits (`Word.wrap`,
`SignedWord.wrap`).
-/

namespace DriverTelemetry

namespace Word

def count : Nat := 18446744073709551616

def largest : Nat := 18446744073709551615

def largestHalf : Nat := 4294967295

def satAdd (a b : Nat) : Nat := min (a + b) largest

def satMul (a b : Nat) : Nat := min (a * b) largest

def wrap (n : Nat) : Nat := n % count

theorem satAdd_le_largest (a b : Nat) : satAdd a b ≤ largest := Nat.min_le_right _ _

theorem le_satAdd {a : Nat} (b : Nat) (h : a ≤ largest) : a ≤ satAdd a b := by
  unfold satAdd; omega

/-- Saturating additions may be regrouped: only the sum of the addends matters. -/
theorem satAdd_satAdd (a b c : Nat) : satAdd (satAdd a b) c = satAdd a (b + c) := by
  unfold satAdd; omega

end Word

namespace SignedWord

def least : Int := -9223372036854775808

def greatest : Int := 9223372036854775807

def clamp (n : Int) : Int := max least (min n greatest)

def satAdd (a b : Int) : Int := clamp (a + b)

def wrap (n : Int) : Int := n.bmod Word.count

theorem clamp_of_mem {n : Int} (hl : least ≤ n) (hg : n ≤ greatest) : clamp n = n := by
  unfold clamp; omega

theorem least_le_clamp (n : Int) : least ≤ clamp n := by
  unfold clamp; omega

theorem clamp_le_greatest (n : Int) : clamp n ≤ greatest := by
  unfold clamp least greatest; omega

end SignedWord

end DriverTelemetry
