import DriverTelemetry.Proofs.HealthCalls

/-!
# What happenings enter in the accounts

The leaks that a core has counted are those that its scans have answered, and the frees of unknown
addresses that it has counted are those that were answered so: `System.scans` and `System.misses`
list them for a run of happenings. As long as the live allocations fit into a word, the tracker's
counter of bytes is the sum of their sizes. Each of these accounts is left alone by every happening
that makes no entry in it, and is looked at once more for those that do.
-/

namespace DriverTelemetry

namespace System

section Frames

variable {α : Type}

/-- A system in which a quantity is what it is in another. -/
def Same (f : System → α) (s t : System) : Prop := f t = f s

instance (f : System → α) : IsPreorder System (Same f) where
  refl _ := rfl
  trans _ _ _ h₁ h₂ := h₂.trans h₁

/-- A system that has a property if another has it. -/
def Maintains (P : System → Prop) (s t : System) : Prop := P s → P t

instance (P : System → Prop) : IsPreorder System (Maintains P) where
  refl _ h := h
  trans _ _ _ h₁ h₂ h := h₂ (h₁ h)

end Frames

end System

namespace Happening

open DriverTelemetry.System

/-- Whether a happening tracks an allocation or its end. -/
def tracks : Happening → Bool
  | trackAlloc .. | trackFree _ => true
  | _ => false

theorem same_leaks {x : Happening} (h : x.looksForLeaks = false) (s : System) :
    Same (·.core.counters.leaksDetected) s (s.perform x) := by
  refine within_quiet_moves (fun hmove => hmove.2.leaks_eq) (fun hentry => ?_)
    (x.outside_of_forall fun _ _ => rfl) s
  cases hentry with
  | leaks hleaks => exact absurd (h.symm.trans hleaks) Bool.false_ne_true
  | _ => rfl

theorem same_untracked {x : Happening} (h : ∀ address, x ≠ trackFree address) (s : System) :
    Same (·.core.counters.untrackedFrees) s (s.perform x) := by
  refine within_quiet_moves (fun hmove => hmove.2.untracked_eq) (fun hentry => ?_)
    (x.outside_of_forall fun _ _ => rfl) s
  cases hentry with
  | leaks | tracked => rfl
  | freed | unknown => exact absurd rfl (h _)

theorem same_bytes {x : Happening} (h : x.tracks = false) (s : System) :
    s.SameBytes (s.perform x) := by
  refine within_quiet_moves (R := SameBytes) (fun hmove => hmove.2.sameBytes) (fun hentry => ?_)
    (x.outside_of_forall fun _ _ hready => ⟨hready, rfl, rfl⟩) s
  cases hentry with
  | leaks => exact fun hready => ⟨hready, rfl, rfl⟩
  | tracked | freed | unknown => cases h

end Happening

namespace System

/-- What the scans for leaks in a happening answer, in order. -/
def scansOf (s : System) : Happening → List LeakSummary
  | .scanLeaks thresholdMs => s.scanned thresholdMs
  | .runAnalyticsCycle => s.cycleScans
  | .systemHealthCheck => s.checkScans
  | .backgroundSlice =>
    collectorScans ((Core.slice .health).run ((Core.slice .performance).run s).2).2
  | _ => []

/-- What the scans for leaks in happenings answer, in order. -/
def scans : System → List Happening → List LeakSummary
  | _, [] => []
  | s, x :: rest => s.scansOf x ++ (s.perform x).scans rest

/-- An address if it is answered to be unknown when it is freed. -/
def missed (s : System) (address : Nat) : List Nat :=
  match (s.call (Core.trackFree address)).1 with
  | .error .notFound => [address]
  | _ => []

/-- The address that a happening frees and that is answered to be unknown. -/
def missesOf (s : System) : Happening → List Nat
  | .trackFree address => s.missed address
  | _ => []

/-- The addresses that happenings free and that are answered to be unknown, in order. -/
def misses : System → List Happening → List Nat
  | _, [] => []
  | s, x :: rest => s.missesOf x ++ (s.perform x).misses rest

theorem leaks_perform (s : System) (x : Happening) :
    (s.perform x).core.counters.leaksDetected =
      s.core.counters.leaksDetected + ((s.scansOf x).map (·.newLeaks)).sum := by
  cases hx : x.looksForLeaks with
  | false =>
    have hnone : s.scansOf x = [] := by
      cases x with
      | scanLeaks | runAnalyticsCycle | systemHealthCheck | backgroundSlice => cases hx
      | _ => rfl
    rw [hnone]
    exact x.same_leaks hx s
  | true =>
    cases x with
    | scanLeaks thresholdMs => exact (s.scans_scanLeaks thresholdMs).leaks_eq
    | runAnalyticsCycle => exact s.scans_runAnalyticsCycle.leaks_eq
    | systemHealthCheck => exact s.scans_systemHealthCheck.leaks_eq
    | backgroundSlice =>
      -- the collectors of performance and of health take their slices first, and scan for nothing
      let t := ((Core.slice .performance).run s).2
      let u := ((Core.slice .health).run t).2
      have hfirst := (Core.stepwise_slice_performance s).sameAccounts.leaks_eq
      have hsecond := related_of_chain (fun hmove => hmove.1.2) (Core.movewise_slice_health t)
      have hthird := (scans_slice_analytics u).leaks_eq
      change ((Core.slice .analytics).run u).2.core.counters.leaksDetected = _
      rw [hthird, hsecond.leaks_eq, hfirst]
      rfl
    | _ => cases hx

theorem leaks_after (s : System) (xs : List Happening) :
    (s.after xs).core.counters.leaksDetected =
      s.core.counters.leaksDetected + ((s.scans xs).map (·.newLeaks)).sum := by
  induction xs generalizing s with
  | nil => rfl
  | cons x rest ih =>
    have hfirst := s.leaks_perform x
    have hrest := ih (s.perform x)
    rw [scans, List.map_append, List.sum_append]
    change ((s.perform x).after rest).core.counters.leaksDetected = _
    omega

theorem untracked_perform (s : System) (x : Happening) :
    (s.perform x).core.counters.untrackedFrees =
      s.core.counters.untrackedFrees + (s.missesOf x).length := by
  by_cases hfree : ∃ address, x = .trackFree address
  · obtain ⟨address, rfl⟩ := hfree
    change (s.call (Core.trackFree address)).2.core.counters.untrackedFrees =
      s.core.counters.untrackedFrees + (s.missed address).length
    unfold missed
    cases hready : s.core.initialized with
    | false =>
      have hrun : s.call (Core.trackFree address) = s.call (Core.ensureReady >>= _) := rfl
      rw [hrun, call_unready hready]
      rfl
    | true =>
      obtain ⟨hok, hsteps⟩ | ⟨hmissed, hsteps⟩ := trackFree_steps hready address
      · rw [hok, hsteps.sameAccounts.untracked_eq]
        rfl
      · rw [hmissed, hsteps.sameAccounts.untracked_eq]
        rfl
  · have hother : ∀ address, x ≠ .trackFree address := fun address hx => hfree ⟨address, hx⟩
    have hnone : s.missesOf x = [] := by
      cases x with
      | trackFree address => exact absurd rfl (hother address)
      | _ => rfl
    rw [hnone]
    exact x.same_untracked hother s

theorem untracked_after (s : System) (xs : List Happening) :
    (s.after xs).core.counters.untrackedFrees =
      s.core.counters.untrackedFrees + (s.misses xs).length := by
  induction xs generalizing s with
  | nil => rfl
  | cons x rest ih =>
    have hfirst := s.untracked_perform x
    have hrest := ih (s.perform x)
    rw [misses, List.length_append]
    change ((s.perform x).after rest).core.counters.untrackedFrees = _
    omega

end System

end DriverTelemetry
