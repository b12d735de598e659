import DriverTelemetry.Metric.Value
import Mathlib

/-!
# Rates by windows

A rate counts amounts and measures them over windows that follow one another. A `RateHistory` keeps
beside it what came in during each window, without any bound, and `RateWindow.Shows` says what the
fields of the rate are by that history. Each call keeps this, so after every sequence of calls the
windows divide all that was added among them, and what is reported are their rates.
-/

namespace DriverTelemetry

/-- A call on a rate. -/
inductive RateCall where
  | add (amount : Nat)
  | roll (nowNs : Nat)
  | read (nowNs : Nat)

namespace RateCall

def time? : RateCall → Option Nat
  | add _ => none
  | roll nowNs | read nowNs => some nowNs

def added? : RateCall → Option Nat
  | add amount => some amount
  | roll _ | read _ => none

end RateCall

/-- A window: when it was opened, what had been added in all before that, and the amounts added
since. -/
structure RateSpan where
  startNs : Nat
  earlier : Nat := 0
  amounts : List Nat := []

namespace RateSpan

def base (w : RateSpan) : Nat := min w.earlier Word.largest

def total (w : RateSpan) : Nat := min (w.earlier + w.amounts.sum) Word.largest

/-- The units added in the window that were not lost to saturation. -/
def counted (w : RateSpan) : Nat := w.total - w.base

theorem base_le_total (w : RateSpan) : w.base ≤ w.total := by
  unfold base total
  omega

theorem counted_le_largest (w : RateSpan) : w.counted ≤ Word.largest := by
  unfold counted total
  omega

/-- As long as the total is not at its end, nothing is lost. -/
theorem counted_eq_sum {w : RateSpan} (h : w.earlier + w.amounts.sum ≤ Word.largest) :
    w.counted = w.amounts.sum := by
  unfold counted total base
  omega

theorem counted_mul_nsPerSec_lt (w : RateSpan) : w.counted * nsPerSec < 2 ^ 128 := by
  have hmul := Nat.mul_le_mul_right nsPerSec w.counted_le_largest
  have hlt : Word.largest * nsPerSec < 2 ^ 128 := by decide
  omega

end RateSpan

/-- A window that has been closed. -/
structure ClosedSpan extends RateSpan where
  endNs : Nat

namespace ClosedSpan

def elapsedNs (w : ClosedSpan) : Nat := w.endNs - w.startNs

def rate (w : ClosedSpan) : Nat := w.counted * nsPerSec / w.elapsedNs

/-- Over a second and more, the units per second are no more than the units. -/
theorem rate_le_counted {w : ClosedSpan} (h : nsPerSec ≤ w.elapsedNs) : w.rate ≤ w.counted := by
  apply Nat.div_le_of_le_mul
  rw [Nat.mul_comm]
  exact Nat.mul_le_mul_right _ h

/-- The windows follow one another: each begins when the one before it has ended, a second or more
after its own beginning, with all that was added by then. The last ends at `toNs`, when `added` had
been added. -/
def Consecutive : (fromNs earlier : Nat) → List ClosedSpan → (toNs added : Nat) → Prop
  | fromNs, earlier, [], toNs, added => fromNs = toNs ∧ earlier = added
  | fromNs, earlier, w :: rest, toNs, added =>
    w.startNs = fromNs ∧ w.earlier = earlier ∧ w.startNs + nsPerSec ≤ w.endNs ∧
      Consecutive w.endNs (w.earlier + w.amounts.sum) rest toNs added

namespace Consecutive

variable {fromNs earlier toNs added : Nat} {ws : List ClosedSpan} {w : ClosedSpan}

theorem snoc (h : Consecutive fromNs earlier ws w.startNs w.earlier)
    (hage : w.startNs + nsPerSec ≤ w.endNs) :
    Consecutive fromNs earlier (ws ++ [w]) w.endNs (w.earlier + w.amounts.sum) := by
  induction ws generalizing fromNs earlier with
  | nil => exact ⟨h.1.symm, h.2.symm, hage, rfl, rfl⟩
  | cons v rest ih => exact ⟨h.1, h.2.1, h.2.2.1, ih h.2.2.2⟩

theorem nsPerSec_le (h : Consecutive fromNs earlier ws toNs added) (hw : w ∈ ws) :
    nsPerSec ≤ w.elapsedNs := by
  induction ws generalizing fromNs earlier with
  | nil => simp at hw
  | cons v rest ih =>
    obtain ⟨-, -, hage, hrest⟩ := h
    rcases List.mem_cons.1 hw with rfl | hw
    · unfold elapsedNs
      omega
    · exact ih hrest hw

theorem added_eq (h : Consecutive fromNs earlier ws toNs added) :
    added = earlier + (ws.flatMap (·.amounts)).sum := by
  induction ws generalizing fromNs earlier with
  | nil => exact h.2.symm
  | cons v rest ih =>
    obtain ⟨-, rfl, -, hrest⟩ := h
    rw [ih hrest, List.flatMap_cons, List.sum_append, Nat.add_assoc]

theorem le_added (h : Consecutive fromNs earlier ws toNs added) (hw : w ∈ ws) :
    w.earlier + w.amounts.sum ≤ added := by
  induction ws generalizing fromNs earlier with
  | nil => simp at hw
  | cons v rest ih =>
    obtain ⟨-, -, -, hrest⟩ := h
    rcases List.mem_cons.1 hw with rfl | hw
    · rw [hrest.added_eq]
      exact Nat.le_add_right _ _
    · exact ih hrest hw

/-- What the windows count is what the total has grown by. -/
theorem sum_counted (h : Consecutive fromNs earlier ws toNs added) :
    min earlier Word.largest + (ws.map (·.counted)).sum = min added Word.largest := by
  induction ws generalizing fromNs earlier with
  | nil => rw [h.2, List.map_nil, List.sum_nil, Nat.add_zero]
  | cons v rest ih =>
    obtain ⟨-, rfl, -, hrest⟩ := h
    have hcounted : v.base + v.counted = v.total := Nat.add_sub_of_le v.base_le_total
    rw [List.map_cons, List.sum_cons, ← Nat.add_assoc, ← ih hrest]
    exact congrArg (· + _) hcounted

end Consecutive

end ClosedSpan

/-- The windows of a rate: those closed, in their order, and the current one. -/
structure RateHistory where
  closed : List ClosedSpan := []
  current : RateSpan

namespace RateHistory

def openedAt (nowNs : Nat) : RateHistory where
  current := { startNs := nowNs }

def perform (h : RateHistory) : RateCall → RateHistory
  | .add amount => { h with current.amounts := h.current.amounts ++ [amount] }
  | .roll nowNs =>
    if h.current.startNs + nsPerSec ≤ nowNs then
      { closed := h.closed ++ [{ h.current with endNs := nowNs }]
        current := { startNs := nowNs, earlier := h.current.earlier + h.current.amounts.sum } }
    else h
  | .read _ => h

def after (h : RateHistory) (calls : List RateCall) : RateHistory := calls.foldl perform h

/-- What the windows hold together, after calls on a rate that was opened at `startNs`. -/
structure Complete (startNs : Nat) (calls : List RateCall) (h : RateHistory) : Prop where
  consecutive : ClosedSpan.Consecutive startNs 0 h.closed h.current.startNs h.current.earlier
  start_mem : h.current.startNs ∈ startNs :: calls.filterMap RateCall.time?
  amounts_eq : h.closed.flatMap (·.amounts) ++ h.current.amounts = calls.filterMap RateCall.added?

variable {startNs : Nat} {calls : List RateCall} {h : RateHistory}

theorem complete_openedAt (startNs : Nat) : Complete startNs [] (openedAt startNs) where
  consecutive := ⟨rfl, rfl⟩
  start_mem := List.mem_cons_self
  amounts_eq := rfl

theorem Complete.perform (hc : h.Complete startNs calls) (call : RateCall) :
    (h.perform call).Complete startNs (calls ++ [call]) := by
  have hstart : h.current.startNs ∈ startNs :: (calls ++ [call]).filterMap RateCall.time? := by
    have hmem := hc.start_mem
    rw [List.filterMap_append, ← List.cons_append]
    exact List.mem_append_left _ hmem
  -- a call that adds nothing and closes nothing leaves all as it is
  have hidle : call.added? = none → h.Complete startNs (calls ++ [call]) := fun hnone =>
    { hc with
      start_mem := hstart
      amounts_eq := by
        rw [List.filterMap_append, List.filterMap_cons_none hnone, List.filterMap_nil,
          List.append_nil]
        exact hc.amounts_eq }
  cases call with
  | add amount =>
    exact
      { consecutive := hc.consecutive
        start_mem := hstart
        amounts_eq := by
          rw [List.filterMap_append, ← hc.amounts_eq, List.append_assoc]
          rfl }
  | read nowNs => exact hidle rfl
  | roll nowNs =>
    simp only [RateHistory.perform]
    split
    · rename_i hage
      exact
        { consecutive := hc.consecutive.snoc hage
          start_mem := by simp [RateCall.time?]
          amounts_eq := by
            rw [List.filterMap_append, ← hc.amounts_eq, List.flatMap_append]
            simp [RateCall.added?] }
    · exact hidle rfl

theorem complete_after (startNs : Nat) (calls : List RateCall) :
    ((openedAt startNs).after calls).Complete startNs calls := by
  induction calls using List.reverseRecOn with
  | nil => exact complete_openedAt startNs
  | append_singleton calls call ih =>
    have hsnoc : (openedAt startNs).after (calls ++ [call]) =
        ((openedAt startNs).after calls).perform call := by
      simp [after, List.foldl_append]
    rw [hsnoc]
    exact ih.perform call

theorem Complete.sum_added_eq (hc : h.Complete startNs calls) :
    (calls.filterMap RateCall.added?).sum = h.current.earlier + h.current.amounts.sum := by
  rw [hc.consecutive.added_eq, Nat.zero_add, ← List.sum_append, hc.amounts_eq]

/-- What the closed windows count is what the total had come to when the current one was opened. -/
theorem Complete.sum_counted (hc : h.Complete startNs calls) :
    (h.closed.map (·.counted)).sum = h.current.base := by
  have hsum := hc.consecutive.sum_counted
  rwa [Nat.zero_min, Nat.zero_add] at hsum

/-- Nothing is lost in any window as long as all that is added fits into a word. -/
theorem Complete.counted_eq_sum (hc : h.Complete startNs calls)
    (hfits : (calls.filterMap RateCall.added?).sum ≤ Word.largest) {w : ClosedSpan}
    (hw : w ∈ h.closed) : w.counted = w.amounts.sum := by
  have hle := hc.consecutive.le_added hw
  have hadded := hc.sum_added_eq
  exact RateSpan.counted_eq_sum (by omega)

end RateHistory

namespace RateWindow

def perform (r : RateWindow) : RateCall → RateWindow
  | .add amount => r.add amount
  | .roll nowNs => r.roll nowNs
  | .read _ => r

def after (r : RateWindow) (calls : List RateCall) : RateWindow := calls.foldl perform r

/-- The fields of a rate, by its windows. -/
structure Shows (r : RateWindow) (h : RateHistory) : Prop where
  total_eq : r.total = h.current.total
  startNs_eq : r.startNs = h.current.startNs
  base_eq : r.base = h.current.base
  lastRate_eq : r.lastRate = h.closed.getLast?.map ClosedSpan.rate

variable {r : RateWindow} {h : RateHistory}

theorem Shows.delta_eq (hs : r.Shows h) : r.total - r.base = h.current.counted := by
  rw [hs.total_eq, hs.base_eq, RateSpan.counted]

/-- A window that is closed has a rate within a word. -/
theorem Shows.currentRate_of_le (hs : r.Shows h) {nowNs : Nat}
    (hage : h.current.startNs + nsPerSec ≤ nowNs) :
    r.currentRate nowNs = ClosedSpan.rate { h.current with endNs := nowNs } := by
  let w : ClosedSpan := { h.current with endNs := nowNs }
  have helapsed : r.age nowNs = w.elapsedNs := by
    rw [age, hs.startNs_eq]
    rfl
  have hlong : nsPerSec ≤ w.elapsedNs := by
    change nsPerSec ≤ nowNs - h.current.startNs
    omega
  have hle : w.rate ≤ Word.largest :=
    (ClosedSpan.rate_le_counted hlong).trans w.counted_le_largest
  have hpos : w.elapsedNs ≠ 0 := by
    unfold nsPerSec at hlong
    omega
  rw [RateWindow.currentRate, helapsed, if_neg hpos, hs.delta_eq]
  exact Nat.min_eq_left hle

theorem shows_openedAt (startNs : Nat) : (openedAt startNs).Shows (.openedAt startNs) where
  total_eq := rfl
  startNs_eq := rfl
  base_eq := rfl
  lastRate_eq := rfl

theorem Shows.roll_of_lt (hs : r.Shows h) {nowNs : Nat}
    (hage : nowNs < h.current.startNs + nsPerSec) : r.roll nowNs = r := by
  have hsecond : 0 < nsPerSec := by decide
  have hyoung : ¬ nsPerSec ≤ r.age nowNs := by
    rw [age, hs.startNs_eq]
    omega
  rw [RateWindow.roll, if_neg hyoung]

theorem Shows.roll_of_le (hs : r.Shows h) {nowNs : Nat}
    (hage : h.current.startNs + nsPerSec ≤ nowNs) :
    r.roll nowNs =
      { total := r.total, startNs := nowNs, base := r.total
        lastRate := some (ClosedSpan.rate { h.current with endNs := nowNs }) } := by
  rw [RateWindow.roll, if_pos, hs.currentRate_of_le hage]
  rw [age, hs.startNs_eq]
  omega

/-- A window of a second and more is closed with its rate. -/
theorem Shows.roll_eq (hs : r.Shows h) {nowNs : Nat} (hold : nsPerSec ≤ nowNs - r.startNs) :
    let delta := r.total - r.base
    let rate := delta * nsPerSec / (nowNs - r.startNs)
    rate ≤ delta ∧
      r.roll nowNs =
        { total := r.total, startNs := nowNs, base := r.total, lastRate := some rate } := by
  let w : ClosedSpan := { h.current with endNs := nowNs }
  have hlength : w.elapsedNs = nowNs - r.startNs := by
    rw [hs.startNs_eq]
    rfl
  have hrate : w.rate = (r.total - r.base) * nsPerSec / (nowNs - r.startNs) := by
    rw [ClosedSpan.rate, hlength, hs.delta_eq]
  have hle : w.rate ≤ w.counted := ClosedSpan.rate_le_counted (hlength ▸ hold)
  have hage : h.current.startNs + nsPerSec ≤ nowNs := by
    have hsecond : 0 < nsPerSec := by decide
    rw [← hs.startNs_eq]
    omega
  intro delta rate
  rw [show rate = w.rate from hrate.symm]
  exact ⟨hle.trans_eq hs.delta_eq.symm, hs.roll_of_le hage⟩

theorem Shows.perSecond_of_getLast? (hs : r.Shows h) {w : ClosedSpan}
    (hw : h.closed.getLast? = some w) {nowNs : Nat} (hyoung : r.age nowNs < nsPerSec) :
    r.perSecond nowNs = w.rate := by
  have hlast : r.lastRate = some w.rate := by
    rw [hs.lastRate_eq, hw]
    rfl
  rw [RateWindow.perSecond, hlast]
  exact if_pos hyoung

theorem Shows.perSecond_eq_currentRate (hs : r.Shows h) {nowNs : Nat}
    (hown : h.closed = [] ∨ nsPerSec ≤ r.age nowNs) : r.perSecond nowNs = r.currentRate nowNs := by
  unfold RateWindow.perSecond
  rcases hown with hnone | hold
  · rw [hs.lastRate_eq, hnone]
    rfl
  · split
    · exact if_neg (Nat.not_lt.2 hold)
    · rfl

theorem Shows.perform (hs : r.Shows h) (call : RateCall) :
    (r.perform call).Shows (h.perform call) := by
  cases call with
  | add amount =>
    exact
      { total_eq := by
          simp only [RateWindow.perform, RateWindow.add, RateHistory.perform, hs.total_eq,
            RateSpan.total, Word.satAdd, List.sum_append, List.sum_singleton]
          omega
        startNs_eq := hs.startNs_eq
        base_eq := hs.base_eq
        lastRate_eq := hs.lastRate_eq }
  | read nowNs => exact hs
  | roll nowNs =>
    simp only [RateWindow.perform, RateHistory.perform]
    split
    · rename_i hage
      rw [hs.roll_of_le hage]
      exact
        { total_eq := by simpa [RateSpan.total] using hs.total_eq
          startNs_eq := rfl
          base_eq := by simpa [RateSpan.base, RateSpan.total] using hs.total_eq
          lastRate_eq := by simp }
    · rename_i hage
      rw [hs.roll_of_lt (by omega)]
      exact hs

theorem shows_after (startNs : Nat) (calls : List RateCall) :
    ((openedAt startNs).after calls).Shows ((RateHistory.openedAt startNs).after calls) := by
  induction calls using List.reverseRecOn with
  | nil => exact shows_openedAt startNs
  | append_singleton calls call ih =>
    simp only [after, RateHistory.after, List.foldl_append, List.foldl_cons, List.foldl_nil] at ih ⊢
    exact ih.perform call

/-- **What is added is counted in one window each, and rates are those of the windows.** After any
calls at times up to `nowNs` on a rate opened at `startNs`, the closed windows and the current one
divide the amounts among them, and what they count adds up to the total. A roll at `nowNs` either
changes nothing or closes a window of at least a second, with the rate of that window; a reading at
`nowNs` is the rate of the last closed window while the current one is younger than a second, and
else that of the current one. The products stay below 128 bits. -/
theorem rates_are_those_of_windows (startNs : Nat) (calls : List RateCall) (nowNs : Nat)
    (hclock : ∀ t ∈ startNs :: calls.filterMap RateCall.time?, t ≤ nowNs) :
    let r := (openedAt startNs).after calls
    let h := (RateHistory.openedAt startNs).after calls
    let added := calls.filterMap RateCall.added?
    let delta := r.total - r.base
    let elapsed := nowNs - r.startNs
    h.Complete startNs calls ∧ r.Shows h ∧
      r.startNs ≤ nowNs ∧ r.base ≤ r.total ∧ r.total = min added.sum Word.largest ∧
      (h.closed.map (·.counted)).sum + delta = r.total ∧
      (added.sum ≤ Word.largest → ∀ w ∈ h.closed, w.counted = w.amounts.sum) ∧
      (∀ w ∈ h.closed, nsPerSec ≤ w.elapsedNs ∧ w.rate ≤ w.counted ∧ w.counted ≤ Word.largest) ∧
      delta * nsPerSec < 2 ^ 128 ∧
      (elapsed < nsPerSec → r.roll nowNs = r) ∧
      (nsPerSec ≤ elapsed →
        delta * nsPerSec / elapsed ≤ delta ∧
          r.roll nowNs =
            { total := r.total, startNs := nowNs, base := r.total
              lastRate := some (delta * nsPerSec / elapsed) }) ∧
      (elapsed < nsPerSec → ∀ w ∈ h.closed.getLast?, r.perSecond nowNs = w.rate) ∧
      (h.closed = [] ∨ nsPerSec ≤ elapsed →
        r.perSecond nowNs =
          if elapsed = 0 then 0 else min (delta * nsPerSec / elapsed) Word.largest) := by
  intro r h added delta elapsed
  have hc : h.Complete startNs calls := RateHistory.complete_after startNs calls
  have hs : r.Shows h := shows_after startNs calls
  have hstart : r.startNs ≤ nowNs := by
    rw [hs.startNs_eq]
    exact hclock _ hc.start_mem
  have hbase : r.base ≤ r.total := by
    rw [hs.base_eq, hs.total_eq]
    exact h.current.base_le_total
  refine ⟨hc, hs, hstart, hbase, ?_, ?_, fun hfits w hw => hc.counted_eq_sum hfits hw, ?_, ?_,
    fun hyoung => if_neg (Nat.not_le.2 hyoung), fun hold => hs.roll_eq hold,
    fun hyoung w hw => hs.perSecond_of_getLast? hw hyoung,
    fun hown => hs.perSecond_eq_currentRate hown⟩
  · rw [hs.total_eq, hc.sum_added_eq]
    rfl
  · rw [hc.sum_counted, ← hs.base_eq]
    exact Nat.add_sub_of_le hbase
  · intro w hw
    have hlong := hc.consecutive.nsPerSec_le hw
    exact ⟨hlong, ClosedSpan.rate_le_counted hlong, w.counted_le_largest⟩
  · rw [show delta = h.current.counted from hs.delta_eq]
    exact h.current.counted_mul_nsPerSec_lt

/-- A rate of 500 in the first second and 10 in the next, which is still open: a reading just after
the first gives 500, and one two seconds later 5. -/
theorem rates_are_those_of_windows_of_two_seconds :
    let calls : List RateCall :=
      [.add 500, .read 500000000, .roll 500000000, .roll 1000000000, .add 10]
    let r := (openedAt 0).after calls
    (∀ t ∈ 0 :: calls.filterMap RateCall.time?, t ≤ 1000001000) ∧
      r.perSecond 1000001000 = 500 ∧ r.perSecond 3000000000 = 5 ∧
      r.roll 3000000000 =
        { total := 510, startNs := 3000000000, base := 510, lastRate := some 5 } := by
  intro calls r
  have hyoung : ∀ t ∈ 0 :: calls.filterMap RateCall.time?, t ≤ 1000001000 := by decide
  have hold : ∀ t ∈ 0 :: calls.filterMap RateCall.time?, t ≤ 3000000000 := by decide
  obtain ⟨-, -, -, -, -, -, -, -, -, -, -, hread, -⟩ :=
    rates_are_those_of_windows 0 calls 1000001000 hyoung
  obtain ⟨-, -, -, -, -, -, -, -, -, -, hroll, -, hown⟩ :=
    rates_are_those_of_windows 0 calls 3000000000 hold
  have hfive := hown (.inr (by decide))
  have hclosed := (hroll (by decide)).2
  exact ⟨hyoung, hread (by decide) _ rfl, hfive.trans (by decide),
    hclosed.trans (by decide +kernel)⟩

end RateWindow

end DriverTelemetry
