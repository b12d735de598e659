import DriverTelemetry.Metric.Value
import Mathlib

/-!
# What metric values accumulate

A `Change` is the effect of one update, and `MetricValue.apply?` the value after it.
`MetricValue.Accounts` says what a value must be, kind by kind, after a list of changes: sums that
stop at the largest word, extremes, numbers of samples in a range, and for a gauge the last level
set with the later adjustments on top. A new value accounts for no changes, and each further change
keeps the accounts.
-/

namespace DriverTelemetry

inductive Change where
  | added (amount : UInt64)
  | set (level : Int64)
  | adjusted (delta : Int64)
  | sampled (sample : UInt64)
  | timed (durationNs : UInt64)
  deriving DecidableEq

/-- The value after a change, if the change fits the kind. -/
def MetricValue.apply? : Change → MetricValue → Option MetricValue
  | .added amount => addCount? amount.toNat
  | .set level => setLevel? level.toInt
  | .adjusted delta => adjustLevel? delta.toInt
  | .sampled sample => recordSample? sample.toNat
  | .timed durationNs => recordDuration? durationNs.toNat

/-- Extremes of a list of words, as they are kept while there is none: the largest word and zero. -/
structure Extremes (least greatest : Nat) (samples : List Nat) : Prop where
  least_le : ∀ n ∈ samples, least ≤ n
  le_greatest : ∀ n ∈ samples, n ≤ greatest
  mem : samples ≠ [] → least ∈ samples ∧ greatest ∈ samples
  empty : samples = [] → least = Word.largest ∧ greatest = 0

theorem Extremes.nil : Extremes Word.largest 0 [] where
  least_le := by simp
  le_greatest := by simp
  mem := fun h => absurd rfl h
  empty := fun _ => ⟨rfl, rfl⟩

theorem Extremes.snoc {least greatest n : Nat} {samples : List Nat}
    (h : Extremes least greatest samples) (hn : n ≤ Word.largest) :
    Extremes (min least n) (max greatest n) (samples ++ [n]) := by
  by_cases hnil : samples = []
  · obtain ⟨rfl, rfl⟩ := h.empty hnil
    subst hnil
    rw [Nat.min_eq_right hn, Nat.zero_max]
    exact ⟨by simp, by simp, by simp, by simp⟩
  · obtain ⟨hleast, hgreatest⟩ := h.mem hnil
    refine ⟨?_, ?_, ?_, by simp⟩
    · intro m hm
      rcases List.mem_append.1 hm with hm | hm
      · exact (Nat.min_le_left _ _).trans (h.least_le m hm)
      · rw [List.mem_singleton.1 hm]
        exact Nat.min_le_right _ _
    · intro m hm
      rcases List.mem_append.1 hm with hm | hm
      · exact (h.le_greatest m hm).trans (Nat.le_max_left _ _)
      · rw [List.mem_singleton.1 hm]
        exact Nat.le_max_right _ _
    · intro _
      constructor
      · rcases Nat.le_total least n with hle | hle
        · simp [Nat.min_eq_left hle, hleast]
        · simp [Nat.min_eq_right hle]
      · rcases Nat.le_total greatest n with hle | hle
        · simp [Nat.max_eq_right hle]
        · simp [Nat.max_eq_left hle, hgreatest]

namespace Word

/-- A sum that has stopped at the largest word goes on as the sum of everything. -/
theorem satAdd_min_sum (samples : List Nat) (n : Nat) :
    satAdd (min samples.sum largest) n = min (samples ++ [n]).sum largest := by
  simp only [satAdd, List.sum_append, List.sum_cons, List.sum_nil]
  omega

theorem toNat_le_largest (n : UInt64) : n.toNat ≤ largest := by
  have hlt := n.toNat_lt
  unfold largest
  omega

end Word

namespace TimerStats

structure Summarises (t : TimerStats) (durations : List Nat) : Prop where
  calls_eq : t.calls = durations.length
  totalNs_eq : t.totalNs = min durations.sum Word.largest
  extremes : Extremes t.minNs t.maxNs durations

theorem summarises_empty : empty.Summarises [] where
  calls_eq := rfl
  totalNs_eq := rfl
  extremes := .nil

theorem Summarises.record {t : TimerStats} {durations : List Nat} (h : t.Summarises durations)
    {n : Nat} (hn : n ≤ Word.largest) : (t.record n).Summarises (durations ++ [n]) where
  calls_eq := by simp [TimerStats.record, h.calls_eq]
  totalNs_eq := by rw [← Word.satAdd_min_sum, ← h.totalNs_eq]; rfl
  extremes := h.extremes.snoc hn

end TimerStats

namespace Histogram

/-- The samples that belong into a bucket: from `2 ^ i` up to the next power of two, where zero is
counted with one; the last bucket has no upper end. -/
def inBucket (i n : Nat) : Bool :=
  if i < 31 then decide (2 ^ i ≤ Max.max n 1 ∧ Max.max n 1 < 2 ^ (i + 1)) else decide (2 ^ 31 ≤ n)

structure Summarises (h : Histogram) (samples : List Nat) : Prop where
  count_eq : h.count = samples.length
  sum_eq : h.sum = Min.min samples.sum Word.largest
  extremes : Extremes h.min h.max samples
  length_buckets : h.buckets.length = 32
  bucket_eq : ∀ i < 32, h.buckets[i]? = some (samples.countP (inBucket i))
  sum_buckets : h.buckets.sum = h.count

theorem bucketIndex_lt (n : Nat) : bucketIndex n < 32 := by
  unfold bucketIndex bucketCount
  omega

theorem bucketIndex_eq_iff {i : Nat} (hi : i < 32) (n : Nat) :
    bucketIndex n = i ↔ inBucket i n = true := by
  -- zero is counted with one, and both have the highest bit 0
  have hlog : Nat.log2 n = Nat.log2 (Max.max n 1) := by
    rcases Nat.eq_zero_or_pos n with rfl | hpos
    · rfl
    · rw [Nat.max_eq_left hpos]
  have hne : Max.max n 1 ≠ 0 := by omega
  have hindex : bucketIndex n = Min.min (Nat.log2 (Max.max n 1)) 31 := by
    rw [bucketIndex, hlog]
    rfl
  rw [hindex, inBucket]
  by_cases hlast : i < 31
  · have heq : Min.min (Nat.log2 (Max.max n 1)) 31 = i ↔ Nat.log2 (Max.max n 1) = i := by omega
    rw [if_pos hlast, heq, Nat.log2_eq_iff hne, decide_eq_true_iff]
  · have hi31 : i = 31 := by omega
    have heq : Min.min (Nat.log2 (Max.max n 1)) 31 = 31 ↔ 31 ≤ Nat.log2 (Max.max n 1) := by omega
    rw [if_neg hlast, hi31, heq, Nat.le_log2 hne, decide_eq_true_iff]
    omega

theorem summarises_empty : empty.Summarises [] where
  count_eq := rfl
  sum_eq := rfl
  extremes := .nil
  length_buckets := rfl
  bucket_eq := by
    intro i hi
    change (List.replicate 32 0)[i]? = some 0
    rw [List.getElem?_replicate, if_pos hi]
  sum_buckets := rfl

theorem sum_modify_succ {l : List Nat} {i : Nat} (hi : i < l.length) :
    (l.modify i (· + 1)).sum = l.sum + 1 := by
  induction l generalizing i with
  | nil => simp at hi
  | cons n rest ih =>
    cases i with
    | zero =>
      simp only [List.modify_zero_cons, List.sum_cons]
      omega
    | succ i =>
      simp only [List.length_cons, Nat.add_lt_add_iff_right] at hi
      simp only [List.modify_succ_cons, List.sum_cons, ih hi]
      omega

theorem Summarises.record {h : Histogram} {samples : List Nat} (hs : h.Summarises samples)
    {n : Nat} (hn : n ≤ Word.largest) : (h.record n).Summarises (samples ++ [n]) where
  count_eq := by simp [Histogram.record, hs.count_eq]
  sum_eq := by rw [← Word.satAdd_min_sum, ← hs.sum_eq]; rfl
  extremes := hs.extremes.snoc hn
  length_buckets := by simp [Histogram.record, hs.length_buckets]
  bucket_eq := by
    intro i hi
    have hiff := bucketIndex_eq_iff hi n
    simp only [Histogram.record, List.getElem?_modify, hs.bucket_eq i hi, List.countP_append,
      List.countP_singleton, Option.map_eq_map, Option.map_some]
    by_cases hin : bucketIndex n = i
    · rw [if_pos hin, if_pos (hiff.1 hin)]
    · rw [if_neg hin, if_neg fun htrue => hin (hiff.2 htrue)]
      rfl
  sum_buckets := by
    have hlt : bucketIndex n < h.buckets.length := by
      rw [hs.length_buckets]
      exact bucketIndex_lt n
    simp [Histogram.record, sum_modify_succ hlt, hs.sum_buckets]

end Histogram

namespace Change

/-- The total that amounts add up to, as far as a word goes. -/
def IsTotal (total : Nat) (changes : List Change) : Prop :=
  ∃ amounts : List UInt64, changes = amounts.map added ∧
    total = min (amounts.map (·.toNat)).sum Word.largest

/-- The level after settings and adjustments: the last level set, or zero, with the later amounts
added one by one within the signed range. -/
def IsLevel (level : Int) (changes : List Change) : Prop :=
  ∃ (earlier : List Change) (base : Int) (deltas : List Int64),
    changes = earlier ++ deltas.map adjusted ∧
    (earlier = [] ∧ base = 0 ∨ ∃ before last, earlier = before ++ [set last] ∧ base = last.toInt) ∧
    (∀ c ∈ changes, ∃ x, c = set x ∨ c = adjusted x) ∧
    level = (deltas.map (·.toInt)).foldl SignedWord.satAdd base

theorem isTotal_nil : IsTotal 0 [] := ⟨[], rfl, rfl⟩

theorem isLevel_nil : IsLevel 0 [] := ⟨[], 0, [], rfl, .inl ⟨rfl, rfl⟩, by simp, rfl⟩

variable {changes : List Change}

theorem IsTotal.added {total : Nat} (h : IsTotal total changes) (amount : UInt64) :
    IsTotal (Word.satAdd total amount.toNat) (changes ++ [added amount]) := by
  obtain ⟨amounts, rfl, rfl⟩ := h
  refine ⟨amounts ++ [amount], by simp, ?_⟩
  rw [Word.satAdd_min_sum]
  simp

theorem IsLevel.set {level : Int} (h : IsLevel level changes) (x : Int64) :
    IsLevel x.toInt (changes ++ [set x]) := by
  obtain ⟨-, -, -, -, -, hkind, -⟩ := h
  refine ⟨changes ++ [.set x], x.toInt, [], by simp, .inr ⟨changes, x, rfl, rfl⟩, ?_, rfl⟩
  intro c hc
  rcases List.mem_append.1 hc with hc | hc
  · exact hkind c hc
  · exact ⟨x, .inl (List.mem_singleton.1 hc)⟩

theorem IsLevel.adjusted {level : Int} (h : IsLevel level changes) (x : Int64) :
    IsLevel (SignedWord.satAdd level x.toInt) (changes ++ [adjusted x]) := by
  obtain ⟨earlier, base, deltas, hchanges, hbase, hkind, rfl⟩ := h
  refine ⟨earlier, base, deltas ++ [x], by simp [hchanges], hbase, ?_, by simp⟩
  intro c hc
  rcases List.mem_append.1 hc with hc | hc
  · exact hkind c hc
  · exact ⟨x, .inr (List.mem_singleton.1 hc)⟩

/-- A total does not decrease when more amounts are added. -/
theorem IsTotal.le_of_append {total later : Nat} {more : List Change} (h : IsTotal total changes)
    (hlater : IsTotal later (changes ++ more)) : total ≤ later := by
  obtain ⟨amounts, hchanges, rfl⟩ := h
  obtain ⟨all, hall, rfl⟩ := hlater
  -- a list of changes determines the amounts, so the later ones go on from the earlier ones
  have hprefix : amounts <+: all := by
    have hmap : amounts.map Change.added <+: all.map Change.added :=
      ⟨more, by rw [← hchanges, hall]⟩
    have hinj : Function.Injective Change.added := fun a b hab => Change.added.inj hab
    exact (List.prefix_map_iff_of_injective hinj).1 hmap
  obtain ⟨rest, rfl⟩ := hprefix
  simp only [List.map_append, List.sum_append]
  omega

end Change

namespace MetricValue

/-- A value that is what a list of changes makes of a new one. -/
def Accounts (changes : List Change) : MetricValue → Prop
  | counter total => Change.IsTotal total changes
  | rate window => Change.IsTotal window.total changes
  | gauge level | memory level | bandwidth level => Change.IsLevel level changes
  | timer t =>
    ∃ durations : List UInt64, changes = durations.map .timed ∧
      t.Summarises (durations.map (·.toNat))
  | histogram h =>
    ∃ samples : List UInt64, changes = samples.map .sampled ∧ h.Summarises (samples.map (·.toNat))

theorem accounts_initial (kind : MetricKind) (nowNs : Nat) : (initial kind nowNs).Accounts [] := by
  cases kind with
  | counter | rate => exact Change.isTotal_nil
  | gauge | memory | bandwidth => exact Change.isLevel_nil
  | timer => exact ⟨[], rfl, TimerStats.summarises_empty⟩
  | histogram => exact ⟨[], rfl, Histogram.summarises_empty⟩

@[simp] theorem kind_initial (kind : MetricKind) (nowNs : Nat) :
    (initial kind nowNs).kind = kind := by
  cases kind <;> rfl

variable {v v' : MetricValue} {changes : List Change} {c : Change}

theorem Accounts.apply? (h : v.Accounts changes) (happly : v.apply? c = some v') :
    v'.Accounts (changes ++ [c]) := by
  cases c with
  | added amount =>
    cases v <;> cases happly
    · exact Change.IsTotal.added h amount
    · exact Change.IsTotal.added h amount
  | set level =>
    cases v <;> cases happly
    · exact Change.IsLevel.set h level
    · exact Change.IsLevel.set h level
    · exact Change.IsLevel.set h level
  | adjusted delta =>
    cases v <;> cases happly
    · exact Change.IsLevel.adjusted h delta
    · exact Change.IsLevel.adjusted h delta
    · exact Change.IsLevel.adjusted h delta
  | sampled sample =>
    cases v <;> cases happly
    obtain ⟨samples, rfl, hs⟩ := h
    have hnext := hs.record (Word.toNat_le_largest sample)
    exact ⟨samples ++ [sample], by simp, by simpa using hnext⟩
  | timed durationNs =>
    cases v <;> cases happly
    obtain ⟨durations, rfl, hs⟩ := h
    have hnext := hs.record (Word.toNat_le_largest durationNs)
    exact ⟨durations ++ [durationNs], by simp, by simpa using hnext⟩

theorem kind_of_apply? (happly : v.apply? c = some v') : v'.kind = v.kind := by
  cases c <;> cases v <;> cases happly <;> rfl

theorem Accounts.roll (h : v.Accounts changes) (nowNs : Nat) : (v.roll nowNs).Accounts changes := by
  cases v with
  | rate window =>
    have htotal : (window.roll nowNs).total = window.total := by
      unfold RateWindow.roll
      split <;> rfl
    change Change.IsTotal (window.roll nowNs).total changes
    rw [htotal]
    exact h
  | _ => exact h

@[simp] theorem kind_roll (v : MetricValue) (nowNs : Nat) : (v.roll nowNs).kind = v.kind := by
  cases v <;> rfl

theorem Accounts.isTotal {total : Nat} (h : v.Accounts changes) (ht : v.total? = some total) :
    Change.IsTotal total changes := by
  cases v <;> cases ht <;> exact h

/-- Whether a value has a total depends on its kind alone. -/
theorem isSome_total? (v : MetricValue) : v.total?.isSome = v.kind.isCounterLike := by
  cases v <;> rfl

end MetricValue

end DriverTelemetry
