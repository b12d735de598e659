import DriverTelemetry.Proofs.LiveAllocations
import Mathlib

/-!
# Which scan reports an allocation

Allocations are told apart by the call that tracked them, since a slot and an address serve one
allocation after the other. `AllocationTracker.Holds` follows an allocation through its slot,
`AllocationTracker.FindsOverdue` says that a scan comes across it, and `AllocationTracker.Accounted`
is what ties the mark in a slot to the scans so far: a live record is marked just when a scan since
its own call has found it overdue.
-/

namespace DriverTelemetry

namespace AllocationTracker

/-- The live record in a slot. -/
def liveAt? (t : AllocationTracker) (slot : Nat) : Option AllocationRecord :=
  t.records[slot]?.filter (!·.freed)

/-- The tracker before the call of that number; calls are numbered from 0. -/
def before (t : AllocationTracker) (calls : List TrackerCall) (n : Nat) : AllocationTracker :=
  (t.run (calls.take n)).2

/-- What call `k` tracked is in that slot before call `j`: the slot was vacant before call `k` and
has been in use ever since. -/
structure Holds (t : AllocationTracker) (calls : List TrackerCall) (k slot j : Nat) : Prop where
  lt : k < j
  vacant : (t.before calls k).liveAt? slot = none
  inUse : ∀ i, k < i → i ≤ j → (t.before calls i).liveAt? slot ≠ none

/-- The leaks of a scan, each with the slot that its record is in. -/
def overdue (t : AllocationTracker) (nowNs thresholdNs : Nat) : List (AllocationRecord × Nat) :=
  t.records.zipIdx.filter fun entry => isLeaked nowNs thresholdNs entry.1

/-- Those of them that no earlier scan has reported. -/
def newlyOverdue (t : AllocationTracker) (nowNs thresholdNs : Nat) :
    List (AllocationRecord × Nat) :=
  (t.overdue nowNs thresholdNs).filter fun entry => !entry.1.leakReported

/-- Call `j` is a scan that comes across the allocation of call `k`, which is still live and older
than the threshold. -/
def FindsOverdue (t : AllocationTracker) (calls : List TrackerCall) (k : Nat)
    (r : AllocationRecord) (j : Nat) : Prop :=
  ∃ nowNs thresholdNs slot, calls[j]? = some (.scan nowNs thresholdNs) ∧
    t.Holds calls k slot j ∧ thresholdNs < nowNs - r.allocatedNs

/-- Call `j` is a scan that has the allocation of call `k` among its new leaks. -/
def Reports (t : AllocationTracker) (calls : List TrackerCall) (k j : Nat) : Prop :=
  ∃ nowNs thresholdNs slot record, calls[j]? = some (.scan nowNs thresholdNs) ∧
    t.Holds calls k slot j ∧
    (record, slot) ∈ (t.before calls j).newlyOverdue nowNs thresholdNs

variable {t t' : AllocationTracker} {calls : List TrackerCall} {record r : AllocationRecord}
variable {c : TrackerCall} {a : TrackerAnswer} {j k slot nowNs thresholdNs : Nat}

theorem liveAt?_eq_some :
    t.liveAt? slot = some record ↔ t.records[slot]? = some record ∧ record.freed = false := by
  simp [liveAt?, Option.filter_eq_some_iff]

theorem liveAt?_eq_none :
    t.liveAt? slot = none ↔ ∀ record, t.records[slot]? = some record → record.freed = true := by
  simp [liveAt?, Option.filter_eq_none_iff]

section Effects

/-- What a call does to the slots of a table. -/
inductive Effect (t : AllocationTracker) : TrackerCall → TrackerAnswer → AllocationTracker → Prop
  | refused {c : TrackerCall} {e : TelemetryError}
      (hcall : ∀ nowNs thresholdNs, c ≠ .scan nowNs thresholdNs) : Effect t c (.refused e) t
  | tracked {r : AllocationRecord} {slot : Nat} {t' : AllocationTracker}
      (hvacant : t.liveAt? slot = none)
      (hslots : ∀ i, t'.liveAt? i = if i = slot then some (LiveSet.entered r) else t.liveAt? i) :
    Effect t (.alloc r) .tracked t'
  | freed {address slot : Nat} {record : AllocationRecord} {t' : AllocationTracker}
      (hslots : ∀ i, t'.liveAt? i = if i = slot then none else t.liveAt? i) :
    Effect t (.free address) (.freed record) t'
  | scanned {nowNs thresholdNs : Nat} {t' : AllocationTracker}
      (hslots : ∀ i, t'.liveAt? i = (t.liveAt? i).map (LiveSet.marked nowNs thresholdNs)) :
    Effect t (.scan nowNs thresholdNs) (.scanned (t.scan nowNs thresholdNs).1) t'

theorem liveAt?_of_append (record : AllocationRecord) (h : t'.records = t.records ++ [record])
    (i : Nat) :
    t'.liveAt? i =
      if i = t.records.length then (some record).filter (!·.freed) else t.liveAt? i := by
  by_cases hlt : i < t.records.length
  · rw [if_neg (by omega)]
    simp [liveAt?, h, List.getElem?_append_left hlt]
  · by_cases hi : i = t.records.length
    · simp [liveAt?, h, hi]
    · have hold : t.records[i]? = none := List.getElem?_eq_none (by omega)
      have hnew : (t.records ++ [record])[i]? = none := List.getElem?_eq_none (by simp; omega)
      simp [liveAt?, h, hi, hold, hnew]

theorem liveAt?_of_set (record : AllocationRecord) (h : t'.records = t.records.set slot record)
    (hslot : slot < t.records.length) (i : Nat) :
    t'.liveAt? i = if i = slot then (some record).filter (!·.freed) else t.liveAt? i := by
  by_cases hi : i = slot
  · subst hi
    simp [liveAt?, h, hslot]
  · simp [liveAt?, h, hi, List.getElem?_set_ne (Ne.symm hi)]

theorem effect_trackAlloc (h : t.trackAlloc r = .ok t') : Effect t (.alloc r) .tracked t' := by
  by_cases hr : r.address = 0
  · simp [trackAlloc, hr] at h
  · by_cases hroom : t.records.length < t.capacity
    · simp only [trackAlloc, hr, hroom, if_true, if_false] at h
      cases h
      refine .tracked ?_ (liveAt?_of_append (LiveSet.entered r) rfl)
      simp [liveAt?]
    · cases hc : firstEarliest? (·.freed) t.records with
      | none => simp [trackAlloc, hr, hroom, hc] at h
      | some found =>
        obtain ⟨slot, time⟩ := found
        obtain ⟨old, hold, hfreed⟩ := getElem?_of_choose? hc
        obtain ⟨hslot, -⟩ := List.getElem?_eq_some_iff.1 hold
        simp only [trackAlloc, hr, hroom, hc, if_false] at h
        cases h
        refine .tracked ?_ (liveAt?_of_set (LiveSet.entered r) rfl hslot)
        rw [liveAt?_eq_none]
        intro record hrecord
        cases hold.symm.trans hrecord
        exact hfreed

theorem effect_trackFree {address : Nat} (h : t.trackFree address = .ok (record, t')) :
    Effect t (.free address) (.freed record) t' := by
  cases hc : lastLatest? (fun r => !r.freed && r.address == address) t.records with
  | none => simp [trackFree, hc] at h
  | some found =>
    obtain ⟨slot, time⟩ := found
    obtain ⟨live, hlive, -⟩ := getElem?_of_choose? hc
    obtain ⟨hslot, -⟩ := List.getElem?_eq_some_iff.1 hlive
    simp only [trackFree, hc, hlive] at h
    cases h
    exact .freed (liveAt?_of_set { live with freed := true } rfl hslot)

theorem freed_marked (nowNs thresholdNs : Nat) (r : AllocationRecord) :
    (LiveSet.marked nowNs thresholdNs r).freed = r.freed := by
  unfold LiveSet.marked
  split <;> rfl

theorem liveAt?_scan (t : AllocationTracker) (nowNs thresholdNs i : Nat) :
    (t.scan nowNs thresholdNs).2.liveAt? i
      = (t.liveAt? i).map (LiveSet.marked nowNs thresholdNs) := by
  have hslot : (t.scan nowNs thresholdNs).2.records[i]?
      = t.records[i]?.map (LiveSet.marked nowNs thresholdNs) := List.getElem?_map
  cases hget : t.records[i]? with
  | none => simp [liveAt?, hslot, hget]
  | some record =>
    by_cases hfreed : record.freed = true <;>
      simp [liveAt?, hslot, hget, Option.filter, freed_marked, hfreed]

theorem effect_perform (t : AllocationTracker) (c : TrackerCall) :
    Effect t c (t.perform c).1 (t.perform c).2 := by
  cases c with
  | alloc r =>
    cases hok : t.trackAlloc r with
    | ok t' => simpa only [perform, hok] using effect_trackAlloc hok
    | error e => simpa only [perform, hok] using Effect.refused (by simp)
  | free address =>
    cases hok : t.trackFree address with
    | ok answer => simpa only [perform, hok] using effect_trackFree hok
    | error e => simpa only [perform, hok] using Effect.refused (by simp)
  | scan nowNs thresholdNs => exact .scanned (liveAt?_scan t nowNs thresholdNs)

end Effects

section Runs

theorem run_append (t : AllocationTracker) (calls more : List TrackerCall) :
    (t.run (calls ++ more)).2 = ((t.run calls).2.run more).2 := by
  induction calls generalizing t with
  | nil => rfl
  | cons c rest ih => exact ih (t.perform c).2

theorem before_succ (t : AllocationTracker) (h : calls[j]? = some c) :
    t.before calls (j + 1) = ((t.before calls j).perform c).2 := by
  rw [before, List.take_add_one, h, run_append]
  rfl

theorem before_succ_of_none (t : AllocationTracker) (h : calls[j]? = none) :
    t.before calls (j + 1) = t.before calls j := by
  rw [before, List.take_add_one, h, Option.toList_none, List.append_nil, before]

theorem Holds.exists_record (h : t.Holds calls k slot j) :
    ∃ record, (t.before calls j).liveAt? slot = some record :=
  Option.ne_none_iff_exists'.1 (h.inUse j h.lt (Nat.le_refl j))

theorem Holds.succ (h : t.Holds calls k slot j)
    (hlive : (t.before calls (j + 1)).liveAt? slot ≠ none) : t.Holds calls k slot (j + 1) := by
  refine ⟨Nat.lt_succ_of_lt h.lt, h.vacant, ?_⟩
  intro i hk hi
  by_cases hlast : i = j + 1
  · rw [hlast]
    exact hlive
  · exact h.inUse i hk (by omega)

theorem Holds.of_vacant (hvacant : (t.before calls k).liveAt? slot = none)
    (hlive : (t.before calls (k + 1)).liveAt? slot ≠ none) : t.Holds calls k slot (k + 1) := by
  refine ⟨Nat.lt_succ_self k, hvacant, ?_⟩
  intro i hk hi
  have hi : i = k + 1 := by omega
  rw [hi]
  exact hlive

/-- A slot holds one allocation at a time. -/
theorem Holds.call_unique {k' : Nat} (h : t.Holds calls k slot j) (h' : t.Holds calls k' slot j) :
    k = k' := by
  by_contra hne
  have hlt := h.lt
  have hlt' := h'.lt
  rcases Nat.lt_or_gt_of_ne hne with hbefore | hbefore
  · exact h.inUse k' hbefore (by omega) h'.vacant
  · exact h'.inUse k hbefore (by omega) h.vacant

/-- A record in a slot is what the call it belongs to has tracked, but for the mark; and the mark
says whether a scan has come across it. -/
structure Traced (t : AllocationTracker) (calls : List TrackerCall) (j slot : Nat)
    (record : AllocationRecord) (k : Nat) (r : AllocationRecord) : Prop where
  call_eq : calls[k]? = some (.alloc r)
  holds : t.Holds calls k slot j
  record_eq : record = { LiveSet.entered r with leakReported := record.leakReported }
  reported_iff : record.leakReported = true ↔ ∃ i < j, t.FindsOverdue calls k r i

/-- Before call `j` every live record is traced back to a call. -/
def Accounted (t : AllocationTracker) (calls : List TrackerCall) (j : Nat) : Prop :=
  ∀ slot record, (t.before calls j).liveAt? slot = some record →
    ∃ k r, t.Traced calls j slot record k r

theorem findsOverdue_iff (hj : calls[j]? = some (.scan nowNs thresholdNs))
    (h : t.Holds calls k slot j) :
    t.FindsOverdue calls k r j ↔ thresholdNs < nowNs - r.allocatedNs := by
  constructor
  · rintro ⟨now, threshold, _, hcall, -, hage⟩
    cases hj.symm.trans hcall
    exact hage
  · intro hage
    exact ⟨nowNs, thresholdNs, slot, hj, h, hage⟩

/-- A call that is not a scan finds nothing. -/
theorem not_findsOverdue (hj : ∀ nowNs thresholdNs, calls[j]? ≠ some (.scan nowNs thresholdNs)) :
    ¬ t.FindsOverdue calls k r j := by
  rintro ⟨nowNs, thresholdNs, -, hcall, -⟩
  exact hj nowNs thresholdNs hcall

/-- A record stays traced through a call that leaves it alone. -/
theorem Traced.succ (h : t.Traced calls j slot record k r)
    (hlive : (t.before calls (j + 1)).liveAt? slot = some record)
    (hj : ∀ nowNs thresholdNs, calls[j]? ≠ some (.scan nowNs thresholdNs)) :
    t.Traced calls (j + 1) slot record k r where
  call_eq := h.call_eq
  holds := h.holds.succ (by simp [hlive])
  record_eq := h.record_eq
  reported_iff := by
    rw [Nat.exists_lt_succ_right, h.reported_iff]
    simp [not_findsOverdue hj]

theorem isLeaked_iff (hlive : record.freed = false) :
    isLeaked nowNs thresholdNs record = true ↔ thresholdNs < nowNs - record.allocatedNs := by
  simp [isLeaked, hlive]

theorem Traced.allocatedNs_eq (h : t.Traced calls j slot record k r) :
    record.allocatedNs = r.allocatedNs := by
  rw [h.record_eq]
  rfl

/-- A scan marks a record just when it comes across it. -/
theorem Traced.scan (h : t.Traced calls j slot record k r)
    (hlive : (t.before calls j).liveAt? slot = some record)
    (hj : calls[j]? = some (.scan nowNs thresholdNs))
    (hnext : (t.before calls (j + 1)).liveAt? slot
      = some (LiveSet.marked nowNs thresholdNs record)) :
    t.Traced calls (j + 1) slot (LiveSet.marked nowNs thresholdNs record) k r := by
  have hleaked : isLeaked nowNs thresholdNs record = true ↔ t.FindsOverdue calls k r j := by
    rw [isLeaked_iff (liveAt?_eq_some.1 hlive).2, h.allocatedNs_eq, findsOverdue_iff hj h.holds]
  refine ⟨h.call_eq, h.holds.succ (by simp [hnext]), ?_, ?_⟩
  · have hrecord := h.record_eq
    unfold LiveSet.marked
    split
    · rw [hrecord]
    · exact hrecord
  · rw [Nat.exists_lt_succ_right, ← h.reported_iff, ← hleaked]
    unfold LiveSet.marked
    split <;> simp_all

/-- A call that tracks an allocation enters it unmarked, and no scan so far can have come across
it. -/
theorem Traced.entered (hj : calls[j]? = some (.alloc r))
    (hvacant : (t.before calls j).liveAt? slot = none)
    (hlive : (t.before calls (j + 1)).liveAt? slot = some (LiveSet.entered r)) :
    t.Traced calls (j + 1) slot (LiveSet.entered r) j r where
  call_eq := hj
  holds := .of_vacant hvacant (by simp [hlive])
  record_eq := rfl
  reported_iff := by
    constructor
    · intro hmarked
      cases hmarked
    · rintro ⟨i, hi, _, _, _, -, hholds, -⟩
      have hlt := hholds.lt
      omega

theorem accounted_zero (calls : List TrackerCall) (capacity : Nat) :
    Accounted { capacity } calls 0 := by
  intro slot record hlive
  simp [before, run, liveAt?] at hlive

theorem Accounted.succ (h : t.Accounted calls j) : t.Accounted calls (j + 1) := by
  intro slot record hlive
  cases hj : calls[j]? with
  | none =>
    obtain ⟨k, r, hr⟩ := h slot record (by rwa [before_succ_of_none t hj] at hlive)
    exact ⟨k, r, hr.succ hlive (by simp [hj])⟩
  | some c =>
    have heffect := effect_perform (t.before calls j) c
    rw [← before_succ t hj] at heffect
    -- a record that is live after the call was live before it, unless the call has entered it
    generalize ((t.before calls j).perform c).1 = answer at heffect
    generalize hafter : t.before calls (j + 1) = after at heffect hlive
    cases heffect with
    | refused hcall =>
      obtain ⟨k, r, hr⟩ := h slot record hlive
      exact ⟨k, r, hr.succ (by rw [hafter, hlive]) (by simpa [hj] using hcall)⟩
    | @tracked r entry _ hvacant hslots =>
      by_cases hslot : slot = entry
      · rw [hslots, if_pos hslot, Option.some.injEq] at hlive
        subst hlive
        rw [← hslot] at hvacant
        exact ⟨j, r, .entered hj hvacant (by rw [hafter, hslots, if_pos hslot])⟩
      · have hsame := hslots slot
        rw [if_neg hslot] at hsame
        obtain ⟨k, r', hr⟩ := h slot record (hsame ▸ hlive)
        exact ⟨k, r', hr.succ (by rw [hafter, hlive]) (by simp [hj])⟩
    | @freed _ vacated _ _ hslots =>
      by_cases hslot : slot = vacated
      · simp [hslots, hslot] at hlive
      · have hsame := hslots slot
        rw [if_neg hslot] at hsame
        obtain ⟨k, r, hr⟩ := h slot record (hsame ▸ hlive)
        exact ⟨k, r, hr.succ (by rw [hafter, hlive]) (by simp [hj])⟩
    | scanned hslots =>
      have hmarked := hslots slot
      rw [hlive] at hmarked
      obtain ⟨old, hold, rfl⟩ := Option.map_eq_some_iff.1 hmarked.symm
      obtain ⟨k, r, hr⟩ := h slot old hold
      exact ⟨k, r, hr.scan hold hj (by rw [hafter, hlive])⟩

theorem accounted (capacity : Nat) (calls : List TrackerCall) (j : Nat) :
    Accounted { capacity } calls j := by
  induction j with
  | zero => exact accounted_zero calls capacity
  | succ j ih => exact ih.succ

end Runs

section Scans

end Scans

/-- An allocation that has been tracked is in one slot. -/
theorem existsUnique_holds (hk : calls[k]? = some (.alloc r))
    (htracked : ((t.before calls k).perform (.alloc r)).1 = .tracked) :
    ∃! slot, t.Holds calls k slot (k + 1) := by
  have heffect := effect_perform (t.before calls k) (.alloc r)
  rw [htracked, ← before_succ t hk] at heffect
  generalize hafter : t.before calls (k + 1) = after at heffect
  cases heffect with
  | @tracked _ entry _ hvacant hslots =>
    refine ⟨entry, .of_vacant hvacant (by simp [hafter, hslots]), ?_⟩
    intro slot hholds
    by_contra hne
    -- any other slot is as it was before the call, where it was vacant
    have hlive := hholds.inUse (k + 1) hholds.lt (Nat.le_refl _)
    rw [hafter, hslots, if_neg hne] at hlive
    exact hlive hholds.vacant

/-- What holds a slot before call `j` is traced back to the call that tracked it. -/
theorem Holds.traced (h : t.Holds calls k slot j) (haccounted : t.Accounted calls j)
    (hk : calls[k]? = some (.alloc r)) (hlive : (t.before calls j).liveAt? slot = some record) :
    t.Traced calls j slot record k r := by
  obtain ⟨k', r', hr⟩ := haccounted slot record hlive
  cases h.call_unique hr.holds
  cases hk.symm.trans hr.call_eq
  exact hr

end AllocationTracker

end DriverTelemetry
