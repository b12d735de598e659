import DriverTelemetry.Word

/-!
# Histograms

A histogram counts samples in 32 buckets by their highest set bit, so that bucket `i` holds the
samples from `2 ^ i` to `2 ^ (i + 1) - 1`; zero shares the first bucket and the last one is open.
-/

namespace DriverTelemetry

/-- Samples counted by powers of two. -/
structure Histogram where
  sum : Nat := 0
  count : Nat := 0
  /-- The least sample; the largest word while there is none. -/
  min : Nat := Word.largest
  max : Nat := 0
  buckets : List Nat := List.replicate 32 0
  deriving DecidableEq

namespace Histogram

def bucketCount : Nat := 32

def empty : Histogram := {}

/-- The bucket of a value: its highest set bit, at most the last bucket. -/
def bucketIndex (value : Nat) : Nat := Min.min (Nat.log2 value) (bucketCount - 1)

def record (h : Histogram) (value : Nat) : Histogram where
  sum := Word.satAdd h.sum value
  count := h.count + 1
  min := Min.min h.min value
  max := Max.max h.max value
  buckets := h.buckets.modify (bucketIndex value) (· + 1)

def ofSamples (samples : List Nat) : Histogram := samples.foldl record empty

/-- The integer mean; 0 without samples. -/
def mean (h : Histogram) : Nat := h.sum / h.count

/-- The first of the buckets, numbered from `index`, at which `seen` and the counts up to it reach
`target`. -/
def bucketReaching (target : Nat) : (buckets : List Nat) → (index seen : Nat) → Option Nat
  | [], _, _ => none
  | n :: rest, index, seen =>
    if target ≤ seen + n then some index else bucketReaching target rest (index + 1) (seen + n)

/-- The rank of the sample that `p` percent of `count` samples do not exceed: at least the first. -/
def rank (count p : Nat) : Nat := Max.max 1 ((count * Min.min p 100 + 99) / 100)

/-- A bound on the sample of the percentile's rank: the upper end of its bucket, at most the
greatest sample; 0 without samples. -/
def percentile (h : Histogram) (p : Nat) : Nat :=
  if h.count = 0 then 0
  else
    match bucketReaching (rank h.count p) h.buckets 0 0 with
    | none => h.max
    | some i => if i = bucketCount - 1 then h.max else Min.min ((1 <<< (i + 1)) - 1) h.max

end Histogram

end DriverTelemetry
