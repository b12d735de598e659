import DriverTelemetry.Core.Benchmark
import DriverTelemetry.Proofs.SampleSummaries
import DriverTelemetry.Proofs.TransitionEvents

/-!
# Summaries of benchmarks

A benchmark is a list of laps: the readings of the clock right before and right after each run of
the operation. What is summarised is how long the laps were. If the readings never go back, the laps
lie one after the other within a word, so that their sum is one (`Lap.sum_elapsedNs_le`); hence the
sum that the benchmark keeps is exact, and its mean lies between its extremes.
-/

namespace DriverTelemetry

/-- The readings of the clock around one run of an operation. -/
structure Lap where
  startNs : Nat
  stopNs : Nat
  deriving DecidableEq

namespace Lap

def elapsedNs (lap : Lap) : Nat := lap.stopNs - lap.startNs

/-- What the clock has read during some laps, in order. -/
def readings (laps : List Lap) : List Nat := laps.flatMap fun lap => [lap.startNs, lap.stopNs]

/-- Laps that follow one another take no longer together than from the first to the last reading. -/
theorem sum_elapsedNs_le {fromNs toNs : Nat} {laps : List Lap}
    (hclock : (fromNs :: readings laps).Pairwise (· ≤ ·))
    (hto : ∀ now ∈ fromNs :: readings laps, now ≤ toNs) :
    fromNs + (laps.map elapsedNs).sum ≤ toNs := by
  induction laps generalizing fromNs with
  | nil => exact hto fromNs List.mem_cons_self
  | cons lap rest ih =>
    obtain ⟨hfrom, hlap⟩ := List.pairwise_cons.1 hclock
    obtain ⟨hstart, hstop⟩ := List.pairwise_cons.1 hlap
    have hle : fromNs ≤ lap.startNs := hfrom _ List.mem_cons_self
    have hlong : lap.startNs ≤ lap.stopNs := hstart _ List.mem_cons_self
    have hrest : lap.stopNs + (rest.map elapsedNs).sum ≤ toNs :=
      ih hstop fun now hnow => hto now (List.mem_cons_of_mem _ (List.mem_cons_of_mem _ hnow))
    calc fromNs + ((lap :: rest).map elapsedNs).sum
        = fromNs + (lap.stopNs - lap.startNs) + (rest.map elapsedNs).sum := by
          rw [List.map_cons, List.sum_cons, ← Nat.add_assoc]
          rfl
      _ ≤ toNs := by omega

end Lap

namespace System

/-- Runs an operation once, between two readings of the clock. -/
def lap (operation : Nat → Action Unit) (s : System) (i : Nat) : Lap × System :=
  let (startNs, s) := Core.readClock.run s
  let s := ((operation i).run s).2
  let (stopNs, s) := Core.readClock.run s
  ({ startNs, stopNs }, s)

/-- Runs an operation once for each number of a list, in that order. -/
def laps (operation : Nat → Action Unit) : List Nat → System → List Lap × System
  | [], s => ([], s)
  | i :: rest, s =>
    let (lap, s) := s.lap operation i
    let (laps, s) := laps operation rest s
    (lap :: laps, s)

variable (operation : Nat → Action Unit) (numbers : List Nat) (s : System)

theorem length_laps : (laps operation numbers s).1.length = numbers.length := by
  induction numbers generalizing s with
  | nil => rfl
  | cons i rest ih => exact congrArg (· + 1) (ih _)

theorem readClock_le (s : System) : (Core.readClock.run s).1 ≤ Word.largest :=
  Nat.le_of_lt_succ (Nat.mod_lt _ (by decide))

theorem readings_laps_le : ∀ now ∈ Lap.readings (laps operation numbers s).1,
    now ≤ Word.largest := by
  induction numbers generalizing s with
  | nil => simp [laps, Lap.readings]
  | cons i rest ih =>
    intro now hnow
    simp only [laps, Lap.readings, List.flatMap_cons, List.mem_append, List.mem_cons,
      List.not_mem_nil, or_false] at hnow
    rcases hnow with (rfl | rfl) | hnow
    · exact readClock_le _
    · exact readClock_le _
    · exact ih _ now hnow

/-- As long as the clock never goes back, the durations add up to a word. -/
theorem sum_elapsedNs_le {operation : Nat → Action Unit} {numbers : List Nat} {s : System}
    (hclock : (Lap.readings (laps operation numbers s).1).Pairwise (· ≤ ·)) :
    ((laps operation numbers s).1.map Lap.elapsedNs).sum ≤ Word.largest := by
  have hle := readings_laps_le operation numbers s
  have hsum := Lap.sum_elapsedNs_le (List.pairwise_cons.2 ⟨fun _ _ => Nat.zero_le _, hclock⟩)
    (List.forall_mem_cons.2 ⟨Nat.zero_le _, hle⟩)
  rwa [Nat.zero_add] at hsum

/-- What every run of the operation counts up by one, and readings of the clock leave alone, has
been counted up by the number of laps. -/
theorem count_laps {runs : System → Nat} (hclock : ∀ t, runs (Core.readClock.run t).2 = runs t)
    (hrun : ∀ i t, runs ((operation i).run t).2 = runs t + 1) :
    runs (laps operation numbers s).2 = runs s + numbers.length := by
  induction numbers generalizing s with
  | nil => rfl
  | cons i rest ih =>
    have hlap : runs (s.lap operation i).2 = runs s + 1 := by
      rw [← hclock s, ← hrun i]
      exact hclock _
    calc runs (laps operation (i :: rest) s).2
        = runs (s.lap operation i).2 + rest.length := ih _
      _ = runs s + (i :: rest).length := by rw [hlap, List.length_cons]; omega

end System

namespace BenchmarkResult

/-- A benchmark keeps what a timer keeps. -/
def stats (b : BenchmarkResult) : TimerStats where
  totalNs := b.totalNs
  calls := b.iterations
  minNs := b.minNs
  maxNs := b.maxNs

theorem summarises_foldl {durations : List Nat} (h : ∀ n ∈ durations, n ≤ Word.largest) :
    (durations.foldl add { iterations := 0 }).stats.Summarises durations :=
  let Summary (b : BenchmarkResult) (ns : List Nat) : Prop := b.stats.Summarises ns
  have hempty : Summary { iterations := 0 } [] := TimerStats.summarises_empty
  have htake : ∀ {b ns n}, Summary b ns → n ≤ Word.largest → Summary (b.add n) (ns ++ [n]) :=
    fun hb hn => TimerStats.Summarises.record hb hn
  summary_foldl htake hempty h

/-- As long as the sum of the durations is a word, the summary is exact. -/
theorem exact_of_sum_le {durations : List Nat} (hne : durations ≠ [])
    (hfits : durations.sum ≤ Word.largest) :
    let b := durations.foldl add { iterations := 0 }
    b.iterations = durations.length ∧ b.totalNs = durations.sum ∧
      IsLeast {d | d ∈ durations} b.minNs ∧ IsGreatest {d | d ∈ durations} b.maxNs ∧
      durations.length * b.minNs ≤ b.totalNs ∧ b.totalNs ≤ durations.length * b.maxNs ∧
      b.minNs ≤ b.averageNs ∧ b.averageNs ≤ b.maxNs := by
  intro b
  have hwords : ∀ d ∈ durations, d ≤ Word.largest := fun d hd =>
    (List.le_sum_of_mem hd).trans hfits
  have hs : b.stats.Summarises durations := summarises_foldl hwords
  obtain ⟨hleast, hgreatest⟩ := hs.extremes.mem hne
  have hcount : b.iterations = durations.length := hs.calls_eq
  have htotal : b.totalNs = durations.sum := hs.totalNs_eq.trans (Nat.min_eq_left hfits)
  have hlow : durations.length * b.minNs ≤ b.totalNs := by
    rw [htotal]
    simpa using List.card_nsmul_le_sum durations b.minNs hs.extremes.least_le
  have hhigh : b.totalNs ≤ durations.length * b.maxNs := by
    rw [htotal]
    simpa using List.sum_le_card_nsmul durations b.maxNs hs.extremes.le_greatest
  refine ⟨hcount, htotal, ⟨hleast, hs.extremes.least_le⟩, ⟨hgreatest, hs.extremes.le_greatest⟩,
    hlow, hhigh, ?_, ?_⟩
  · rw [averageNs, hcount, Nat.le_div_iff_mul_le (List.length_pos_iff.2 hne), Nat.mul_comm]
    exact hlow
  · rw [averageNs, hcount]
    exact Nat.div_le_of_le_mul hhigh

end BenchmarkResult

namespace Core

theorem run_measureRuns (operation : Nat → Action Unit) (left : Nat) (soFar : BenchmarkResult)
    (s : System) :
    (measureRuns operation left soFar).run s =
      let (laps, t) := System.laps operation (List.range' soFar.iterations left) s
      ((laps.map Lap.elapsedNs).foldl BenchmarkResult.add soFar, t) := by
  induction left generalizing soFar s with
  | zero => rfl
  | succ left ih => exact ih (soFar.add (s.lap operation soFar.iterations).1.elapsedNs) _

/-- The message about a benchmark that has been completed. -/
def benchmarkText (name : String) (iterations : Nat) (b : BenchmarkResult) : String :=
  s!"Benchmark '{name}': {iterations} iterations, avg={b.averageNs} ns, min={b.minNs} ns, max={b.maxNs} ns"

variable {name : String} {n : Nat} {operation : Nat → Action Unit} {s : System}

/-- The message is logged unless the core has been shut down. -/
theorem call_announce (t : System) (name : String) (n : Nat) (b : BenchmarkResult) :
    t.call (log .info .core (benchmarkText name n b) >>= fun _ => pure b) =
      if t.core.initialized then
        (.ok b, ((emit .info .core (·.setMessage (benchmarkText name n b))).run t).2)
      else (.error .notInitialized, t) := by
  split
  · rename_i hlive
    rw [System.call_andThen_ok (System.call_log_ok hlive _ _ _)]
    rfl
  · rename_i hdown
    have hunready : t.core.initialized = false := Bool.eq_false_iff.2 hdown
    rw [System.call_andThen_error (System.call_log_error hunready _ _ _)]

/-- A benchmark on a core that accepts calls is its laps, and then a message about their summary. -/
theorem call_benchmark (hready : s.core.initialized = true) (hpos : 1 ≤ n) :
    let run := s.laps operation (List.range n)
    let b := (run.1.map Lap.elapsedNs).foldl BenchmarkResult.add { iterations := 0 }
    s.call (benchmark name n operation) =
      run.2.call (log .info .core (benchmarkText name n b) >>= fun _ => pure b) := by
  intro run b
  have hmeasured : (measureRuns operation n { iterations := 0 }).run s = (b, run.2) := by
    rw [run_measureRuns, ← List.range_eq_range']
  unfold benchmark
  rw [System.call_ready hready, if_neg (Nat.ne_of_gt hpos), System.call_lift_andThen, hmeasured]
  rfl

/-- **The summary of a benchmark is exact.** On a core that accepts calls, `n` iterations run the
operation once for each number below `n`; unless one of the runs has shut the core down, the summary
is answered and one message logged. If the readings of the clock around the runs never go back,
the total is the sum of the durations, which is a word, least and greatest are theirs, and the mean
lies between. Without iterations, or on a core that accepts no calls, nothing is run or logged. -/
theorem benchmark_summary_exact (s : System) (name : String) (n : Nat)
    (operation : Nat → Action Unit) :
    let bench := s.call (benchmark name n operation)
    let (laps, t) := s.laps operation (List.range n)
    let durations := laps.map Lap.elapsedNs
    (s.core.initialized = false → bench = (.error .notInitialized, s)) ∧
      (s.core.initialized = true → n = 0 →
        bench = (.error (.invalidParam "benchmark iterations"), s)) ∧
      (s.core.initialized = true → 1 ≤ n →
        laps.length = n ∧
          (∀ runs : System → Nat, (∀ u, runs (readClock.run u).2 = runs u) →
            (∀ i u, runs ((operation i).run u).2 = runs u + 1) → runs t = runs s + n) ∧
          ∃ b : BenchmarkResult,
            bench = (if t.core.initialized then
              (.ok b, ((emit .info .core (·.setMessage (benchmarkText name n b))).run t).2)
              else (.error .notInitialized, t)) ∧
            ((Lap.readings laps).Pairwise (· ≤ ·) →
              b.iterations = n ∧ b.totalNs = durations.sum ∧ durations.sum ≤ Word.largest ∧
                IsLeast {d | d ∈ durations} b.minNs ∧ IsGreatest {d | d ∈ durations} b.maxNs ∧
                n * b.minNs ≤ b.totalNs ∧ b.totalNs ≤ n * b.maxNs ∧
                b.minNs ≤ b.averageNs ∧ b.averageNs ≤ b.maxNs)) := by
  intro bench
  dsimp only
  refine ⟨fun hunready => System.call_unready hunready _, fun hready hzero => ?_,
    fun hready hpos => ?_⟩
  · simp only [bench]
    unfold benchmark
    rw [System.call_ready hready, if_pos hzero]
    rfl
  · let run := s.laps operation (List.range n)
    let durations := run.1.map Lap.elapsedNs
    have hcount : run.1.length = n := by
      rw [System.length_laps, List.length_range]
    have hlength : durations.length = n := by rw [List.length_map, hcount]
    refine ⟨hcount, fun runs hread hrun => ?_,
      durations.foldl BenchmarkResult.add { iterations := 0 }, ?_, fun hclock => ?_⟩
    · rw [System.count_laps _ _ _ hread hrun, List.length_range]
    · exact (call_benchmark hready hpos).trans (call_announce run.2 name n _)
    · have hne : durations ≠ [] := List.length_pos_iff.1 (by omega)
      have hexact := BenchmarkResult.exact_of_sum_le hne (System.sum_elapsedNs_le hclock)
      rw [hlength] at hexact
      obtain ⟨hiterations, htotal, hbounds⟩ := hexact
      exact ⟨hiterations, htotal, System.sum_elapsedNs_le hclock, hbounds⟩

/-- An operation that takes 100 ns, then 200 ns, then 300 ns. -/
theorem benchmark_summary_exact_of_three :
    let s : System :=
      { env := {}
        core := ofTables 0 .manual
          { registry := { capacity := 8, policy := {} }
            events := { capacity := 4 }
            tracker := { capacity := 1 } } 0 }
    let operation := fun i : Nat =>
      (modify fun s : System =>
        { s with env.platform := s.env.platform.advanceNs ((i + 1) * 100) } : Action Unit)
    ∃ b t, s.call (benchmark "probe" 3 operation) = (.ok b, t) ∧
      b.totalNs = 600 ∧ 3 * b.minNs ≤ 600 ∧ 600 ≤ 3 * b.maxNs := by
  intro s operation
  obtain ⟨-, -, b, hbench, hexact⟩ :=
    (benchmark_summary_exact s "probe" 3 operation).2.2 rfl (by decide)
  obtain ⟨-, htotal, -, -, -, hlow, hhigh, -⟩ := hexact (by decide)
  have hsum : b.totalNs = 600 := htotal.trans (by decide)
  exact ⟨b, _, hbench, hsum, hsum ▸ hlow, hsum ▸ hhigh⟩

end Core

end DriverTelemetry
