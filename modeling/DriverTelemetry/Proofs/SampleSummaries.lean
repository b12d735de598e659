import DriverTelemetry.Proofs.Accumulation

/-!
# What a summary tells of its samples

A timer and a histogram keep no samples, only how many there were, their sum as far as a word goes,
their extremes and, in a histogram, how many fell into each bucket. A mean is therefore right as
long as the sum has not stopped: `Extremes.least_le_mean_iff` says exactly how long it stays above
the least sample. A percentile is right up to the width of a bucket, and what carries this is
`Histogram.le_countP_iff`: as the buckets follow the order of the samples, the numbers in the first
buckets tell into which bucket the sample of a rank falls.
-/

namespace DriverTelemetry

variable {samples : List Nat}

/-- What a summary says of some samples, it says of any further words that it takes. -/
theorem summary_foldl {σ : Type} {Summary : σ → List Nat → Prop} {take : σ → Nat → σ}
    (htake : ∀ {s samples n}, Summary s samples → n ≤ Word.largest →
      Summary (take s n) (samples ++ [n])) {s : σ} (h : Summary s samples) {more : List Nat}
    (hmore : ∀ n ∈ more, n ≤ Word.largest) : Summary (more.foldl take s) (samples ++ more) := by
  induction more generalizing s samples with
  | nil => simpa using h
  | cons n rest ih =>
    have hrest := ih (htake h (hmore n List.mem_cons_self)) fun m hm =>
      hmore m (List.mem_cons_of_mem n hm)
    rwa [List.append_assoc] at hrest

theorem Word.le_largest_of_mem {samples : List UInt64} :
    ∀ n ∈ samples.map (·.toNat), n ≤ largest := by
  intro n hn
  obtain ⟨sample, -, rfl⟩ := List.mem_map.1 hn
  exact toNat_le_largest sample

theorem TimerStats.summarises_ofSamples (durations : List UInt64) :
    (ofSamples (durations.map (·.toNat))).Summarises (durations.map (·.toNat)) :=
  summary_foldl (fun h hn => h.record hn) summarises_empty Word.le_largest_of_mem

theorem Histogram.summarises_ofSamples (samples : List UInt64) :
    (ofSamples (samples.map (·.toNat))).Summarises (samples.map (·.toNat)) :=
  summary_foldl (fun h hn => h.record hn) summarises_empty Word.le_largest_of_mem

section Mean

variable {least greatest : Nat}

/-- A sum that stops short takes the mean down only. -/
theorem Extremes.mean_le_greatest (h : Extremes least greatest samples) :
    min samples.sum Word.largest / samples.length ≤ greatest := by
  have hsum : samples.sum ≤ samples.length * greatest := by
    simpa using List.sum_le_card_nsmul samples greatest h.le_greatest
  exact Nat.div_le_of_le_mul ((Nat.min_le_left _ _).trans hsum)

/-- A mean stays above the least sample as long as that many of the least sample make a word. -/
theorem Extremes.least_le_mean_iff (h : Extremes least greatest samples) (hne : samples ≠ []) :
    least ≤ min samples.sum Word.largest / samples.length ↔
      samples.length * least ≤ Word.largest := by
  have hsum : samples.length * least ≤ samples.sum := by
    simpa using List.card_nsmul_le_sum samples least h.least_le
  rw [Nat.le_div_iff_mul_le (List.length_pos_iff.2 hne), Nat.mul_comm, Nat.le_min]
  exact and_iff_right hsum

/-- **A mean lies between the extremes, but for a sum that has stopped short.** The mean of a timer
or a histogram that has taken some samples is never above the greatest of them; and it is not below
the least of them if and only if as many times the least sample fit into a word, as they do when
the sum of the samples does. -/
theorem means_lie_between_extremes {samples : List UInt64} (hne : samples ≠ []) :
    let t : TimerStats := .ofSamples (samples.map (·.toNat))
    let h : Histogram := .ofSamples (samples.map (·.toNat))
    let values := samples.map (·.toNat)
    (t.averageNs ≤ t.maxNs ∧ (t.minNs ≤ t.averageNs ↔ samples.length * t.minNs ≤ Word.largest)) ∧
      (h.mean ≤ h.max ∧ (h.min ≤ h.mean ↔ samples.length * h.min ≤ Word.largest)) ∧
      (values.sum ≤ Word.largest → t.minNs ≤ t.averageNs ∧ h.min ≤ h.mean) := by
  intro t h values
  have hvalues : values ≠ [] := by simpa [values] using hne
  have hlength : values.length = samples.length := List.length_map _
  have ht : t.Summarises values := TimerStats.summarises_ofSamples samples
  have hh : h.Summarises values := Histogram.summarises_ofSamples samples
  have htmean : t.averageNs = min values.sum Word.largest / values.length := by
    rw [TimerStats.averageNs, ht.totalNs_eq, ht.calls_eq]
  have hhmean : h.mean = min values.sum Word.largest / values.length := by
    rw [Histogram.mean, hh.sum_eq, hh.count_eq]
  have htmin := ht.extremes.least_le_mean_iff hvalues
  have hhmin := hh.extremes.least_le_mean_iff hvalues
  rw [htmean, hhmean, ← hlength]
  refine ⟨⟨ht.extremes.mean_le_greatest, htmin⟩, ⟨hh.extremes.mean_le_greatest, hhmin⟩,
    fun hfits => ⟨htmin.2 ?_, hhmin.2 ?_⟩⟩
  · have hsum := List.card_nsmul_le_sum values t.minNs ht.extremes.least_le
    exact (by simpa using hsum : _ ≤ values.sum).trans hfits
  · have hsum := List.card_nsmul_le_sum values h.min hh.extremes.least_le
    exact (by simpa using hsum : _ ≤ values.sum).trans hfits

/-- A sum that has stopped short may still be large enough. -/
theorem means_lie_between_extremes_of_largest :
    let samples : List UInt64 := [18446744073709551615, 5]
    let values := samples.map (·.toNat)
    let t := TimerStats.ofSamples values
    let h := Histogram.ofSamples values
    samples ≠ [] ∧ Word.largest < values.sum ∧ t.minNs ≤ t.averageNs ∧ t.averageNs ≤ t.maxNs ∧
      h.min ≤ h.mean ∧ h.mean ≤ h.max := by
  intro samples values t h
  have hne : samples ≠ [] := by decide
  obtain ⟨⟨htmax, htmin⟩, ⟨hhmax, hhmin⟩, -⟩ := means_lie_between_extremes hne
  exact ⟨hne, by decide, htmin.2 (by decide), htmax, hhmin.2 (by decide), hhmax⟩

/-- Two samples of the largest word have half of it as their mean. -/
theorem mean_of_largest_below_least :
    let values := [18446744073709551615, 18446744073709551615]
    let t := TimerStats.ofSamples values
    let h := Histogram.ofSamples values
    t.minNs = 18446744073709551615 ∧ t.averageNs = 9223372036854775807 ∧
      ¬ (t.minNs ≤ t.averageNs ∧ t.averageNs ≤ t.maxNs) ∧
      ¬ (h.min ≤ h.mean ∧ h.mean ≤ h.max) := by
  decide

end Mean

namespace Histogram

/-- The `k`-th smallest of some samples, counted from 1. -/
def smallest (samples : List Nat) (k : Nat) : Nat :=
  (samples.insertionSort (· ≤ ·)).getD (k - 1) 0

/-- The nearest-rank percentile: the least sample that `p` percent of the samples do not exceed. -/
def nearestRank (samples : List Nat) (p : Nat) : Nat :=
  smallest samples (Max.max 1 (samples.length * Min.min p 100 ⌈/⌉ 100))

section Rank

variable {P : Nat → Bool} {l : List Nat} {i k x : Nat}

/-- In order, the samples with a property that smaller ones share come first. -/
theorem lt_countP_iff (hP : ∀ a b, a ≤ b → P b = true → P a = true) (hl : l.Pairwise (· ≤ ·))
    (hx : l[i]? = some x) : i < l.countP P ↔ P x = true := by
  induction l generalizing i with
  | nil => cases hx
  | cons a rest ih =>
    obtain ⟨hleast, hrest⟩ := List.pairwise_cons.1 hl
    by_cases ha : P a = true
    · rw [List.countP_cons_of_pos ha]
      cases i with
      | zero =>
        cases hx
        exact iff_of_true (Nat.succ_pos _) ha
      | succ i => exact Nat.succ_lt_succ_iff.trans (ih hrest hx)
    · -- what comes after a sample without the property does not have it either
      have hnone : ∀ b ∈ a :: rest, ¬ P b = true := by
        intro b hb hPb
        obtain rfl | hb := List.mem_cons.1 hb
        · exact ha hPb
        · exact ha (hP a b (hleast b hb) hPb)
      rw [List.countP_eq_zero.2 hnone]
      exact iff_of_false (Nat.not_lt_zero i) (hnone x (List.mem_of_getElem? hx))

theorem getElem?_insertionSort (hpos : 1 ≤ k) (hk : k ≤ samples.length) :
    (samples.insertionSort (· ≤ ·))[k - 1]? = some (smallest samples k) := by
  have hlt : k - 1 < (samples.insertionSort (· ≤ ·)).length := by
    rw [List.length_insertionSort]
    omega
  rw [smallest, List.getD_eq_getElem _ _ hlt, List.getElem?_eq_getElem hlt]

theorem smallest_mem (hpos : 1 ≤ k) (hk : k ≤ samples.length) : smallest samples k ∈ samples :=
  (List.mem_insertionSort (· ≤ ·)).1 (List.mem_of_getElem? (getElem?_insertionSort hpos hk))

/-- There are `k` samples with a property that smaller ones share just if the `k`-th smallest
has it. -/
theorem le_countP_iff (hP : ∀ a b, a ≤ b → P b = true → P a = true) (hpos : 1 ≤ k)
    (hk : k ≤ samples.length) : k ≤ samples.countP P ↔ P (smallest samples k) = true := by
  have hiff := lt_countP_iff hP (List.pairwise_insertionSort (· ≤ ·) samples)
    (getElem?_insertionSort hpos hk)
  rw [(List.perm_insertionSort (· ≤ ·) samples).countP_eq] at hiff
  rw [← hiff]
  omega

theorem smallest_mono {k' : Nat} (hpos : 1 ≤ k) (hle : k ≤ k') (hk : k' ≤ samples.length) :
    smallest samples k ≤ smallest samples k' := by
  let P : Nat → Bool := fun n => decide (n ≤ smallest samples k')
  have hP : ∀ a b, a ≤ b → P b = true → P a = true := fun a b hab hb =>
    decide_eq_true (hab.trans (of_decide_eq_true hb))
  have hmany : k' ≤ samples.countP P :=
    (le_countP_iff hP (hpos.trans hle) hk).2 (decide_eq_true le_rfl)
  exact of_decide_eq_true ((le_countP_iff hP hpos (hle.trans hk)).1 (hle.trans hmany))

theorem one_le_rank (count p : Nat) : 1 ≤ rank count p := Nat.le_max_left _ _

theorem rank_le {count : Nat} (hcount : 1 ≤ count) (p : Nat) : rank count p ≤ count := by
  have hmul : count * Min.min p 100 ≤ count * 100 := Nat.mul_le_mul_left _ (Nat.min_le_right _ _)
  unfold rank
  omega

theorem rank_mono {p q : Nat} (hle : p ≤ q) (count : Nat) : rank count p ≤ rank count q := by
  have hmul : count * Min.min p 100 ≤ count * Min.min q 100 :=
    Nat.mul_le_mul_left _ (by omega)
  unfold rank
  omega

theorem nearestRank_eq (samples : List Nat) (p : Nat) :
    nearestRank samples p = smallest samples (rank samples.length p) :=
  rfl

end Rank

section Bucket

variable {h : Histogram} {i : Nat}

theorem bucketIndex_mono {m n : Nat} (hle : m ≤ n) : bucketIndex m ≤ bucketIndex n := by
  have hlog : Nat.log2 m ≤ Nat.log2 n := by
    rw [Nat.log2_eq_log_two, Nat.log2_eq_log_two]
    exact Nat.log_mono_right hle
  unfold bucketIndex
  omega

theorem countP_bucketIndex_lt_succ (samples : List Nat) (i : Nat) :
    samples.countP (decide <| bucketIndex · < i + 1) =
      samples.countP (decide <| bucketIndex · < i) +
        samples.countP (decide <| bucketIndex · = i) := by
  induction samples with
  | nil => rfl
  | cons n rest ih =>
    simp only [List.countP_cons, ih, decide_eq_true_eq]
    split_ifs <;> omega

/-- The first buckets hold the samples that belong before the next one. -/
theorem Summarises.sum_take_buckets (hs : h.Summarises samples) (hi : i ≤ 32) :
    (h.buckets.take i).sum = samples.countP (decide <| bucketIndex · < i) := by
  induction i with
  | zero => simp
  | succ i ih =>
    have hin : samples.countP (inBucket i) = samples.countP (decide <| bucketIndex · = i) := by
      refine List.countP_congr fun n _ => ?_
      rw [decide_eq_true_eq, bucketIndex_eq_iff (by omega)]
    rw [List.take_add_one, hs.bucket_eq i (by omega), List.sum_append, ih (by omega),
      countP_bucketIndex_lt_succ, hin]
    simp

theorem bucketReaching_eq {target : Nat} {buckets : List Nat} (hi : i < buckets.length)
    (index : Nat) {seen : Nat} (hbefore : seen + (buckets.take i).sum < target)
    (hreached : target ≤ seen + (buckets.take (i + 1)).sum) :
    bucketReaching target buckets index seen = some (index + i) := by
  induction buckets generalizing i index seen with
  | nil => cases hi
  | cons n rest ih =>
    cases i with
    | zero =>
      rw [bucketReaching, if_pos (by simpa using hreached)]
      rfl
    | succ i =>
      simp only [List.take_succ_cons, List.sum_cons, List.length_cons] at hbefore hreached hi
      have hrest : bucketReaching target rest (index + 1) (seen + n) = some (index + 1 + i) :=
        ih (by omega) _ (by omega) (by omega)
      rw [bucketReaching, if_neg (by omega), hrest, Nat.add_right_comm, Nat.add_assoc]

/-- The end of the bucket of a sample: the greatest value of the bucket, or the greatest sample if
the bucket is open or ends after it. -/
def bucketEnd (h : Histogram) (v : Nat) : Nat :=
  if 2 ^ 31 ≤ v then h.max else Min.min (2 ^ (bucketIndex v + 1) - 1) h.max

theorem bucketIndex_eq_last_iff (v : Nat) : bucketIndex v = 31 ↔ 2 ^ 31 ≤ v := by
  rw [bucketIndex_eq_iff (by omega), inBucket, if_neg (by omega), decide_eq_true_eq]

theorem bucketIndex_lt_last {v : Nat} (hv : ¬ 2 ^ 31 ≤ v) : bucketIndex v < 31 := by
  have hlast := bucketIndex_lt v
  have hne := mt (bucketIndex_eq_last_iff v).1 hv
  omega

theorem lt_two_pow_bucketIndex_succ {v : Nat} (hv : ¬ 2 ^ 31 ≤ v) :
    v < 2 ^ (bucketIndex v + 1) := by
  have hin := (bucketIndex_eq_iff (bucketIndex_lt v) v).1 rfl
  rw [inBucket, if_pos (bucketIndex_lt_last hv), decide_eq_true_eq] at hin
  omega

/-- The scan over the buckets stops at the bucket of the sample that has the rank. -/
theorem Summarises.percentile_eq (hs : h.Summarises samples) (hne : samples ≠ []) (p : Nat) :
    h.percentile p = h.bucketEnd (nearestRank samples p) := by
  have hpos : 1 ≤ samples.length := List.length_pos_iff.2 hne
  have hcount : ¬ h.count = 0 := by
    rw [hs.count_eq]
    omega
  have hfirst : 1 ≤ rank samples.length p := one_le_rank _ p
  have hrank : rank samples.length p ≤ samples.length := rank_le hpos p
  rw [nearestRank_eq]
  let v := smallest samples (rank samples.length p)
  have hearlier : ∀ i a b, a ≤ b → decide (bucketIndex b < i) = true →
      decide (bucketIndex a < i) = true := fun i a b hab hb =>
    decide_eq_true ((bucketIndex_mono hab).trans_lt (of_decide_eq_true hb))
  have hlast : bucketIndex v < 32 := bucketIndex_lt v
  have hbefore : (h.buckets.take (bucketIndex v)).sum < rank samples.length p := by
    rw [hs.sum_take_buckets hlast.le]
    refine Nat.lt_of_not_le fun hle => ?_
    have hlt := (le_countP_iff (hearlier _) hfirst hrank).1 hle
    exact Nat.lt_irrefl _ (of_decide_eq_true hlt)
  have hreached : rank samples.length p ≤ (h.buckets.take (bucketIndex v + 1)).sum := by
    rw [hs.sum_take_buckets hlast]
    exact (le_countP_iff (hearlier _) hfirst hrank).2 (decide_eq_true (Nat.lt_succ_self _))
  have hscan : bucketReaching (rank h.count p) h.buckets 0 0 = some (bucketIndex v) := by
    rw [hs.count_eq, bucketReaching_eq (by rwa [hs.length_buckets]) 0 (by omega) (by omega),
      Nat.zero_add]
  rw [percentile, if_neg hcount, hscan]
  change (if bucketIndex v = 31 then h.max else Min.min (1 <<< (bucketIndex v + 1) - 1) h.max) = _
  rw [Nat.one_shiftLeft]
  simp only [bucketIndex_eq_last_iff]
  rfl

theorem bucketEnd_le_max (h : Histogram) (v : Nat) : h.bucketEnd v ≤ h.max := by
  unfold bucketEnd
  split
  · exact Nat.le_refl _
  · exact Nat.min_le_right _ _

theorem le_bucketEnd {v : Nat} (hmax : v ≤ h.max) : v ≤ h.bucketEnd v := by
  unfold bucketEnd
  split
  · exact hmax
  · rename_i hv
    have hupper := lt_two_pow_bucketIndex_succ hv
    omega

theorem bucketEnd_mono (h : Histogram) {v w : Nat} (hle : v ≤ w) :
    h.bucketEnd v ≤ h.bucketEnd w := by
  by_cases hw : 2 ^ 31 ≤ w
  · rw [bucketEnd, bucketEnd, if_pos hw]
    exact bucketEnd_le_max h v
  · have hv : ¬ 2 ^ 31 ≤ v := by omega
    have hpow : 2 ^ (bucketIndex v + 1) ≤ 2 ^ (bucketIndex w + 1) :=
      Nat.pow_le_pow_right (by decide) (Nat.succ_le_succ (bucketIndex_mono hle))
    rw [bucketEnd, bucketEnd, if_neg hv, if_neg hw]
    omega

/-- The end of a bucket is in the bucket, unless it is the greatest sample. -/
theorem bucketIndex_bucketEnd (h : Histogram) (v : Nat) :
    bucketIndex (h.bucketEnd v) = bucketIndex v ∨ h.bucketEnd v = h.max := by
  by_cases hv : 2 ^ 31 ≤ v
  · exact .inr (if_pos hv)
  · rw [bucketEnd, if_neg hv]
    obtain hmin | hmin := Nat.le_total (2 ^ (bucketIndex v + 1) - 1) h.max
    · left
      have hlt := bucketIndex_lt_last hv
      have hpow : 2 ^ (bucketIndex v + 1) = 2 ^ bucketIndex v * 2 := pow_succ _ _
      have hpos : 0 < 2 ^ bucketIndex v := Nat.two_pow_pos _
      rw [Nat.min_eq_left hmin, bucketIndex_eq_iff (by omega), inBucket, if_pos hlt,
        decide_eq_true_eq]
      omega
    · exact .inr (Nat.min_eq_right hmin)

end Bucket

/-- **A percentile brackets the true one.** For fewer than `2 ^ 57` samples, so that the rank is
computed within a word, the percentile of a histogram is the end of the bucket that holds the
nearest-rank percentile of the samples, or the greatest sample if that is less or the bucket is
open. So it is not below the true one nor above the greatest sample, and it grows with `p`. -/
theorem percentile_brackets_nearest_rank {samples : List UInt64} (hne : samples ≠ [])
    (hfew : samples.length < 2 ^ 57) (p : Nat) :
    let values := samples.map (·.toNat)
    let h := ofSamples values
    let v := nearestRank values p
    h.count * Min.min p 100 ≤ Word.largest ∧
      IsGreatest {n | n ∈ values} h.max ∧
      h.percentile p =
        (if 2 ^ 31 ≤ v then h.max else Min.min (2 ^ (bucketIndex v + 1) - 1) h.max) ∧
      v ≤ h.percentile p ∧ h.percentile p ≤ h.max ∧
      (bucketIndex (h.percentile p) = bucketIndex v ∨ h.percentile p = h.max) ∧
      ∀ q, p ≤ q → h.percentile p ≤ h.percentile q := by
  intro values h v
  have hs : h.Summarises values := summarises_ofSamples samples
  have hvalues : values ≠ [] := by simpa [values] using hne
  have hpos : 1 ≤ values.length := List.length_pos_iff.2 hvalues
  have hcount : h.count < 2 ^ 57 := by
    rw [hs.count_eq, List.length_map]
    exact hfew
  have hmem : v ∈ values := smallest_mem (one_le_rank _ p) (rank_le hpos p)
  have hpercentile := hs.percentile_eq hvalues
  refine ⟨?_, ⟨(hs.extremes.mem hvalues).2, hs.extremes.le_greatest⟩, hpercentile p, ?_, ?_, ?_,
    fun q hle => ?_⟩
  · have hmul : h.count * Min.min p 100 ≤ h.count * 100 :=
      Nat.mul_le_mul_left _ (Nat.min_le_right _ _)
    unfold Word.largest
    omega
  · rw [hpercentile]
    exact le_bucketEnd (hs.extremes.le_greatest v hmem)
  · rw [hpercentile]
    exact bucketEnd_le_max h v
  · rw [hpercentile]
    exact bucketIndex_bucketEnd h v
  · rw [hpercentile, hpercentile]
    exact bucketEnd_mono h (smallest_mono (one_le_rank _ p) (rank_mono hle _) (rank_le hpos q))

/-- The median of three samples, one of them in the open bucket, is 5, and the end of its
bucket 7. -/
theorem percentile_brackets_nearest_rank_of_three :
    let samples : List UInt64 := [1099511627776, 0, 5]
    let values := samples.map (·.toNat)
    let h := ofSamples values
    samples ≠ [] ∧ samples.length < 2 ^ 57 ∧ nearestRank values 50 = 5 ∧ h.percentile 50 = 7 ∧
      h.percentile 50 ≤ h.percentile 250 ∧ h.percentile 250 = h.max := by
  intro samples values h
  have hne : samples ≠ [] := by decide
  have hfew : samples.length < 2 ^ 57 := by decide
  obtain ⟨-, -, hend, -, -, -, hmono⟩ := percentile_brackets_nearest_rank hne hfew 50
  obtain ⟨-, -, hlast, -⟩ := percentile_brackets_nearest_rank hne hfew 250
  have hmedian : nearestRank values 50 = 5 := by decide
  have hgreatest : nearestRank values 250 = 1099511627776 := by decide
  refine ⟨hne, hfew, hmedian, hend.trans ?_, hmono 250 (by decide), hlast.trans ?_⟩
  · rw [hmedian]
    decide
  · rw [hgreatest]
    decide

end Histogram

end DriverTelemetry
