import DriverTelemetry.Platform.Hosted
import DriverTelemetry.Platform.Simulated
import Mathlib

/-!
# Memory on a budget

The hosted and the simulated platform grant memory by conditions of their own. What the two come to
is the law of a `BudgetedPlatform`: a reservation is granted as long as it stays within the budget.
From this law alone follow the answers to any calls, so that platforms of either sort on the same
budget cannot be told apart by them, and the account of what is reserved.
-/

namespace DriverTelemetry

/-- A request for memory, or its return. -/
inductive MemoryCall where
  | reserve (bytes : Nat)
  | release (bytes : Nat)
  deriving DecidableEq

namespace MemoryCall

/-- The bytes that a call takes, by its answer. -/
def taken : MemoryCall → Except PlatformError Unit → Nat
  | reserve bytes, .ok () => bytes
  | _, _ => 0

/-- The bytes that a call returns. -/
def returned : MemoryCall → Nat
  | reserve _ => 0
  | release bytes => bytes

end MemoryCall

namespace Platform

variable {P : Type} [Platform P]

/-- Performs one call; answers it. -/
def perform (p : P) : MemoryCall → Except PlatformError Unit × P
  | .reserve bytes =>
    match reserve p bytes with
    | .ok p => (.ok (), p)
    | .error e => (.error e, p)
  | .release bytes => (.ok (), release p bytes)

/-- The platform after calls that have been made one after the other. -/
def after (p : P) (calls : List MemoryCall) : P := calls.foldl (fun p c => (perform p c).2) p

/-- The answers to calls made one after the other, each with the bytes that are reserved after
it. -/
def replies : P → List MemoryCall → List (Except PlatformError Unit × Nat)
  | _, [] => []
  | p, c :: rest => ((perform p c).1, reserved (perform p c).2) :: replies (perform p c).2 rest

/-- The bytes of the reservations that are granted in the course of calls. -/
def granted : P → List MemoryCall → Nat
  | _, [] => 0
  | p, c :: rest => c.taken (perform p c).1 + granted (perform p c).2 rest

/-- No call returns more than is reserved when it is made. -/
def Covers : P → List MemoryCall → Prop
  | _, [] => True
  | p, c :: rest => c.returned ≤ reserved p ∧ Covers (perform p c).2 rest

instance decidableCovers : (p : P) → (calls : List MemoryCall) → Decidable (Covers p calls)
  | _, [] => .isTrue trivial
  | p, c :: rest =>
    have := decidableCovers (perform p c).2 rest
    inferInstanceAs (Decidable (c.returned ≤ reserved p ∧ Covers (perform p c).2 rest))

/-- A platform that grants what stays within a budget, and nothing else. -/
structure GrantsWithin (budget : Nat) (p : P) : Prop where
  reserved_le : reserved p ≤ budget
  refused_iff : ∀ bytes, (∃ e, (perform p (.reserve bytes)).1 = .error e) ↔
    budget < reserved p + bytes
  refusal : ∀ bytes e, (perform p (.reserve bytes)).1 = .error e →
    e = .outOfMemory bytes ∧ (perform p (.reserve bytes)).2 = p

end Platform

/-- A sort of platform that grants memory up to a budget, if that is a word. Calls change what is
reserved, and nothing else. -/
class BudgetedPlatform (P : Type) [Platform P] where
  budget : P → Nat
  withReserved : P → Nat → P
  reserved_withReserved : ∀ p bytes, Platform.reserved (withReserved p bytes) = bytes
  budget_withReserved : ∀ p bytes, budget (withReserved p bytes) = budget p
  reserve_eq : ∀ p bytes, budget p ≤ Word.largest → Platform.reserve p bytes =
    if Platform.reserved p + bytes ≤ budget p then
      .ok (withReserved p (Platform.reserved p + bytes))
    else .error (.outOfMemory bytes)
  release_eq : ∀ p bytes, Platform.release p bytes = withReserved p (Platform.reserved p - bytes)

theorem HostedPlatform.reserve_of_budget_le {p : HostedPlatform} (h : p.budget ≤ Word.largest)
    (bytes : Nat) :
    p.reserve bytes =
      if p.reserved + bytes ≤ p.budget then .ok { p with reserved := p.reserved + bytes }
      else .error (.outOfMemory bytes) := by
  unfold reserve checkedSum?
  by_cases hword : p.reserved + bytes ≤ Word.largest
  · rw [if_pos hword, Option.filter_some]
    by_cases hfits : p.reserved + bytes ≤ p.budget
    · simp only [hfits, decide_true, if_true]
    · simp only [hfits, decide_false, Bool.false_eq_true, if_false]
  · -- a sum that is no word is beyond every budget that is one
    rw [if_neg hword, if_neg (by omega)]
    rfl

theorem SimulatedPlatform.reserve_of_budget_le {p : SimulatedPlatform}
    (h : p.budget ≤ Word.largest) (bytes : Nat) :
    p.reserve bytes =
      if p.reserved + bytes ≤ p.budget then .ok { p with reserved := p.reserved + bytes }
      else .error (.outOfMemory bytes) := by
  unfold reserve
  exact if_congr (and_iff_right_of_imp fun hfits => hfits.trans h) rfl rfl

instance : BudgetedPlatform HostedPlatform where
  budget := HostedPlatform.budget
  withReserved p bytes := { p with reserved := bytes }
  reserved_withReserved _ _ := rfl
  budget_withReserved _ _ := rfl
  reserve_eq _ bytes h := HostedPlatform.reserve_of_budget_le h bytes
  release_eq _ _ := rfl

instance : BudgetedPlatform SimulatedPlatform where
  budget := SimulatedPlatform.budget
  withReserved p bytes := { p with reserved := bytes }
  reserved_withReserved _ _ := rfl
  budget_withReserved _ _ := rfl
  reserve_eq _ bytes h := SimulatedPlatform.reserve_of_budget_le h bytes
  release_eq _ _ := rfl

namespace BudgetedPlatform

open Platform

variable {P Q : Type} [Platform P] [BudgetedPlatform P] [Platform Q] [BudgetedPlatform Q]
variable {p : P} {q : Q} {bytes : Nat}

theorem perform_granted (hword : budget p ≤ Word.largest)
    (hfits : reserved p + bytes ≤ budget p) :
    perform p (.reserve bytes) = (.ok (), withReserved p (reserved p + bytes)) := by
  rw [perform, reserve_eq p bytes hword, if_pos hfits]

theorem perform_refused (hword : budget p ≤ Word.largest)
    (hexceeds : budget p < reserved p + bytes) :
    perform p (.reserve bytes) = (.error (.outOfMemory bytes), p) := by
  rw [perform, reserve_eq p bytes hword, if_neg (Nat.not_le.2 hexceeds)]

theorem perform_release (p : P) (bytes : Nat) :
    perform p (.release bytes) = (.ok (), withReserved p (reserved p - bytes)) := by
  rw [perform, release_eq]

/-- No call moves the budget. -/
theorem budget_perform (hword : budget p ≤ Word.largest) (c : MemoryCall) :
    budget (perform p c).2 = budget p := by
  cases c with
  | reserve bytes =>
    by_cases hfits : reserved p + bytes ≤ budget p
    · rw [perform_granted hword hfits, budget_withReserved]
    · rw [perform_refused hword (Nat.not_le.1 hfits)]
  | release bytes => rw [perform_release, budget_withReserved]

/-- No call takes more than the budget has left. -/
theorem reserved_perform_le (hword : budget p ≤ Word.largest) (hle : reserved p ≤ budget p)
    (c : MemoryCall) : reserved (perform p c).2 ≤ budget p := by
  cases c with
  | reserve bytes =>
    by_cases hfits : reserved p + bytes ≤ budget p
    · rwa [perform_granted hword hfits, reserved_withReserved]
    · rwa [perform_refused hword (Nat.not_le.1 hfits)]
  | release bytes =>
    rw [perform_release, reserved_withReserved]
    exact (Nat.sub_le _ _).trans hle

/-- What is reserved after a call that returns no more than there is: as much as before, and what
the call takes, without what it returns. -/
theorem reserved_perform (hword : budget p ≤ Word.largest) {c : MemoryCall}
    (hcovers : c.returned ≤ reserved p) :
    reserved (perform p c).2 + c.returned = reserved p + c.taken (perform p c).1 := by
  cases c with
  | reserve bytes =>
    by_cases hfits : reserved p + bytes ≤ budget p
    · rw [perform_granted hword hfits, reserved_withReserved]
      rfl
    · rw [perform_refused hword (Nat.not_le.1 hfits)]
      rfl
  | release bytes =>
    rw [perform_release, reserved_withReserved]
    exact Nat.sub_add_cancel hcovers

/-- Platforms of the same budget on which the same is reserved answer alike. -/
theorem perform_alike (hword : budget p ≤ Word.largest) (hbudget : budget q = budget p)
    (hreserved : reserved q = reserved p) (c : MemoryCall) :
    (perform q c).1 = (perform p c).1 ∧ reserved (perform q c).2 = reserved (perform p c).2 := by
  have hword' : budget q ≤ Word.largest := hbudget.trans_le hword
  cases c with
  | reserve bytes =>
    by_cases hfits : reserved p + bytes ≤ budget p
    · rw [perform_granted hword hfits, perform_granted hword' (by rwa [hreserved, hbudget]),
        reserved_withReserved, reserved_withReserved, hreserved]
      exact ⟨rfl, rfl⟩
    · have hexceeds : budget p < reserved p + bytes := Nat.not_le.1 hfits
      rw [perform_refused hword hexceeds, perform_refused hword' (by rwa [hreserved, hbudget])]
      exact ⟨rfl, hreserved⟩
  | release bytes =>
    rw [perform_release, perform_release, reserved_withReserved, reserved_withReserved, hreserved]
    exact ⟨rfl, rfl⟩

theorem replies_alike (hword : budget p ≤ Word.largest) (hbudget : budget q = budget p)
    (hreserved : reserved q = reserved p) (calls : List MemoryCall) :
    replies q calls = replies p calls := by
  -- by induction on the calls; what carries it is that the two budgets and accounts stay equal
  induction calls generalizing p q with
  | nil => rfl
  | cons c rest ih =>
    obtain ⟨hanswer, hafter⟩ := perform_alike hword hbudget hreserved c
    have hkept : budget (perform p c).2 = budget p := budget_perform hword c
    have hkept' : budget (perform q c).2 = budget q := budget_perform (hbudget.trans_le hword) c
    have hrest := ih (hkept.trans_le hword) (by rw [hkept, hkept', hbudget]) hafter
    rw [replies, replies, hanswer, hafter, hrest]

theorem budget_after (hword : budget p ≤ Word.largest) (calls : List MemoryCall) :
    budget (after p calls) = budget p := by
  induction calls generalizing p with
  | nil => rfl
  | cons c rest ih =>
    have hkept : budget (perform p c).2 = budget p := budget_perform hword c
    exact (ih (hkept.trans_le hword)).trans hkept

theorem reserved_after_le (hword : budget p ≤ Word.largest) (hle : reserved p ≤ budget p)
    (calls : List MemoryCall) : reserved (after p calls) ≤ budget p := by
  induction calls generalizing p with
  | nil => exact hle
  | cons c rest ih =>
    have hkept : budget (perform p c).2 = budget p := budget_perform hword c
    have hstep := (reserved_perform_le hword hle c).trans_eq hkept.symm
    exact (ih (hkept.trans_le hword) hstep).trans_eq hkept

theorem grantsWithin_after (hword : budget p ≤ Word.largest) (hle : reserved p ≤ budget p)
    (calls : List MemoryCall) : GrantsWithin (budget p) (after p calls) := by
  have hbudget : budget (after p calls) = budget p := budget_after hword calls
  have hword' : budget (after p calls) ≤ Word.largest := hbudget.trans_le hword
  refine ⟨reserved_after_le hword hle calls, fun bytes => ?_, fun bytes e hrefused => ?_⟩
  · by_cases hfits : reserved (after p calls) + bytes ≤ budget (after p calls)
    · rw [perform_granted hword' hfits, ← hbudget]
      exact iff_of_false (by simp) (Nat.not_lt.2 hfits)
    · have hexceeds := Nat.not_le.1 hfits
      rw [perform_refused hword' hexceeds, ← hbudget]
      exact iff_of_true ⟨_, rfl⟩ hexceeds
  · by_cases hfits : reserved (after p calls) + bytes ≤ budget (after p calls)
    · rw [perform_granted hword' hfits] at hrefused
      cases hrefused
    · rw [perform_refused hword' (Nat.not_le.1 hfits)] at hrefused ⊢
      cases hrefused
      exact ⟨rfl, rfl⟩

/-- As long as no call returns more than there is, what is reserved is what has been granted without
what has been returned. -/
theorem reserved_after (hword : budget p ≤ Word.largest) {calls : List MemoryCall}
    (hcovers : Covers p calls) :
    reserved (after p calls) + (calls.map MemoryCall.returned).sum =
      reserved p + granted p calls := by
  induction calls generalizing p with
  | nil => rfl
  | cons c rest ih =>
    obtain ⟨hfirst, hrest⟩ := hcovers
    have hkept : budget (perform p c).2 = budget p := budget_perform hword c
    have hstep := reserved_perform hword hfirst
    have hafter := ih (hkept.trans_le hword) hrest
    change reserved (after (perform p c).2 rest) + _ =
      _ + (c.taken _ + granted (perform p c).2 rest)
    rw [List.map_cons, List.sum_cons]
    omega

end BudgetedPlatform

namespace Platform

/-- **Both platforms keep the same account of a budget.** A hosted platform on a budget, and a
simulated one on which nothing is reserved when it is set to that budget, give the same answers to
any calls, with the same bytes reserved after each. After any calls both have reserved no more than
the budget, and refuse to reserve just what would exceed it, naming the bytes asked for and staying
as they are. As long as no call has returned more than was reserved, what is reserved is the sum of
the granted reservations less that of the returns. -/
theorem same_account_on_same_budget {budget : Nat} (hword : budget ≤ Word.largest)
    {fresh : SimulatedPlatform} (hnone : fresh.reserved = 0) (calls : List MemoryCall) :
    let hosted : HostedPlatform := { budget }
    let simulated : SimulatedPlatform := { fresh with budget }
    let returned := (calls.map MemoryCall.returned).sum
    replies hosted calls = replies simulated calls ∧
      GrantsWithin budget (after hosted calls) ∧ GrantsWithin budget (after simulated calls) ∧
      (Covers hosted calls → reserved (after hosted calls) + returned = granted hosted calls) ∧
      (Covers simulated calls →
        reserved (after simulated calls) + returned = granted simulated calls) := by
  intro hosted simulated returned
  have hle : reserved simulated ≤ budget := hnone.trans_le (Nat.zero_le budget)
  have halike : reserved hosted = reserved simulated := hnone.symm
  refine ⟨BudgetedPlatform.replies_alike (p := simulated) (q := hosted) hword rfl halike calls,
    BudgetedPlatform.grantsWithin_after (p := hosted) hword (Nat.zero_le budget) calls,
    BudgetedPlatform.grantsWithin_after (p := simulated) hword hle calls, fun hcovers => ?_,
    fun hcovers => ?_⟩
  · have haccount := BudgetedPlatform.reserved_after (p := hosted) hword hcovers
    rwa [show reserved hosted = 0 from rfl, Nat.zero_add] at haccount
  · have haccount := BudgetedPlatform.reserved_after (p := simulated) hword hcovers
    rwa [show reserved simulated = 0 from hnone, Nat.zero_add] at haccount

/-- One reservation is refused for the budget, and one for a sum that is no word. -/
theorem same_account_on_same_budget_of_1024 :
    let hosted : HostedPlatform := { budget := 1024 }
    let simulated : SimulatedPlatform := { clockNs := 5, budget := 1024 }
    let calls : List MemoryCall :=
      [.reserve 1000, .reserve 100, .release 1000, .reserve 1024, .reserve Word.largest]
    replies simulated calls =
        [(.ok (), 1000), (.error (.outOfMemory 100), 1000), (.ok (), 0), (.ok (), 1024),
          (.error (.outOfMemory Word.largest), 1024)] ∧
      reserved (after hosted calls) = 1024 ∧ GrantsWithin 1024 (after simulated calls) := by
  intro hosted simulated calls
  have hword : 1024 ≤ Word.largest := by decide
  have hnone : SimulatedPlatform.reserved { clockNs := 5 } = 0 := rfl
  obtain ⟨hreplies, -, hgrants, haccount, -⟩ := same_account_on_same_budget hword hnone calls
  have hcovers : Covers hosted calls := by decide
  have htotal : reserved (after hosted calls) + 1000 = 2024 := haccount hcovers
  exact ⟨hreplies.symm.trans rfl, by omega, hgrants⟩

end Platform

end DriverTelemetry
