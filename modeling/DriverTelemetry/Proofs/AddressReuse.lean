import DriverTelemetry.Proofs.LeakReports

/-!
# Which allocation of an address is freed

One address may have several live allocations. Freeing it takes the one with the latest time and,
among those of one time, the one in the last slot. The order of slots is not the order of calls once
a slot has been given to a second allocation, so the allocation that goes is the newest one just as
long as no other live allocation of the address has its time and a later slot.
-/

namespace DriverTelemetry

/-- The time of the allocation that a call tracks. -/
def TrackerCall.time? : TrackerCall → Option Nat
  | .alloc r => some r.allocatedNs
  | .free _ | .scan _ _ => none

/-- Of two calls that track allocations, the second does not carry an earlier time. -/
def TrackerCall.InOrderOfTime (calls : List TrackerCall) : Prop :=
  calls.Pairwise fun c c' => ∀ time ∈ c.time?, ∀ time' ∈ c'.time?, time ≤ time'

instance (calls : List TrackerCall) : Decidable (TrackerCall.InOrderOfTime calls) := by
  unfold TrackerCall.InOrderOfTime
  infer_instance

theorem TrackerCall.InOrderOfTime.le {calls : List TrackerCall} (h : InOrderOfTime calls)
    {k k' : Nat} {r r' : AllocationRecord} (hk : calls[k]? = some (.alloc r))
    (hk' : calls[k']? = some (.alloc r')) (hle : k ≤ k') : r.allocatedNs ≤ r'.allocatedNs := by
  rcases Nat.lt_or_eq_of_le hle with hlt | rfl
  · obtain ⟨hkn, hkr⟩ := List.getElem?_eq_some_iff.1 hk
    obtain ⟨hkn', hkr'⟩ := List.getElem?_eq_some_iff.1 hk'
    have hpair := List.pairwise_iff_getElem.1 h k k' hkn hkn' hlt
    rw [hkr, hkr'] at hpair
    exact hpair _ rfl _ rfl
  · cases hk.symm.trans hk'
    exact Nat.le_refl _

namespace AllocationTracker

/-- Call `j` ends the life of the allocation that call `k` tracked: the slot that has held it is
vacant afterwards. -/
def Frees (t : AllocationTracker) (calls : List TrackerCall) (k j : Nat) : Prop :=
  ∃ slot, t.Holds calls k slot j ∧ (t.before calls (j + 1)).liveAt? slot = none

/-- Call `k` has tracked an allocation of the address, and no call before `j` has freed it. -/
structure Outstanding (t : AllocationTracker) (calls : List TrackerCall) (address k : Nat)
    (r : AllocationRecord) (j : Nat) : Prop where
  lt : k < j
  call_eq : calls[k]? = some (.alloc r)
  tracked : ((t.before calls k).perform (.alloc r)).1 = .tracked
  address_eq : r.address = address
  notFreed : ∀ i < j, ¬ t.Frees calls k i

/-- The last of them. -/
structure Newest (t : AllocationTracker) (calls : List TrackerCall) (address k : Nat)
    (r : AllocationRecord) (j : Nat) : Prop where
  outstanding : t.Outstanding calls address k r j
  last : ∀ k' r', t.Outstanding calls address k' r' j → k' ≤ k

section Choice

/-- The record in that slot satisfies `p`, and it is the last one with the latest time that does. -/
structure LastLatest (p : AllocationRecord → Bool) (l : List AllocationRecord) (slot time : Nat) :
    Prop where
  exists_record : ∃ r, l[slot]? = some r ∧ p r = true ∧ r.allocatedNs = time
  max : ∀ i r, l[i]? = some r → p r = true →
    r.allocatedNs < time ∨ (r.allocatedNs = time ∧ i ≤ slot)

variable {p : AllocationRecord → Bool} {first : AllocationRecord} {rest l : List AllocationRecord}
variable {slot time : Nat}

theorem LastLatest.head (hfirst : p first = true)
    (hearlier : ∀ r ∈ rest, p r = true → r.allocatedNs < first.allocatedNs) :
    LastLatest p (first :: rest) 0 first.allocatedNs where
  exists_record := ⟨first, rfl, hfirst, rfl⟩
  max := by
    rintro (_ | i) r hr hp
    · cases hr
      exact .inr ⟨rfl, Nat.le_refl 0⟩
    · exact .inl (hearlier r (List.mem_of_getElem? hr) hp)

theorem LastLatest.tail (h : LastLatest p rest slot time)
    (hfirst : p first = true → first.allocatedNs ≤ time) :
    LastLatest p (first :: rest) (slot + 1) time where
  exists_record := h.exists_record
  max := by
    rintro (_ | i) r hr hp
    · cases hr
      have hle := hfirst hp
      omega
    · have hmax := h.max i r hr hp
      omega

theorem LastLatest.time_le (h : LastLatest p l slot time) :
    ∀ r ∈ l, p r = true → r.allocatedNs ≤ time := by
  intro r hr hp
  obtain ⟨i, hi⟩ := List.mem_iff_getElem?.1 hr
  have hmax := h.max i r hi hp
  omega

theorem lastLatest_of_lastLatest? (h : lastLatest? p l = some (slot, time)) :
    LastLatest p l slot time := by
  induction l generalizing slot time with
  | nil => cases h
  | cons first rest ih =>
    rw [lastLatest?, choose?, ← lastLatest?] at h
    cases hrest : lastLatest? p rest with
    | none =>
      have hnone := eq_false_of_choose?_eq_none hrest
      by_cases hfirst : p first = true
      · simp only [hrest, hfirst, Option.map_none, if_true] at h
        cases h
        refine .head hfirst ?_
        intro r hr hp
        simp [hnone r hr] at hp
      · simp [hrest, hfirst] at h
    | some found =>
      have hfound := ih hrest
      by_cases hfirst : p first = true
      · simp only [hrest, hfirst, Option.map_some, if_true, decide_eq_true_eq] at h
        split at h
        · rename_i hle
          cases h
          exact hfound.tail fun _ => hle
        · rename_i hlater
          cases h
          refine .head hfirst ?_
          intro r hr hp
          have hle := hfound.time_le r hr hp
          omega
      · simp only [hrest, hfirst, Option.map_some, Bool.false_eq_true, if_false] at h
        cases h
        exact hfound.tail fun hp => absurd hp hfirst

end Choice

variable {t t' : AllocationTracker} {calls : List TrackerCall}
variable {record live r r' : AllocationRecord}
variable {address j k k' slot slot' : Nat}

section Lives

/-- An allocation that is in a slot has been tracked by its call. -/
theorem tracked_of_vacant (hk : calls[k]? = some (.alloc r))
    (hvacant : (t.before calls k).liveAt? slot = none)
    (hlive : (t.before calls (k + 1)).liveAt? slot ≠ none) :
    ((t.before calls k).perform (.alloc r)).1 = .tracked := by
  rw [before_succ t hk] at hlive
  cases hok : (t.before calls k).trackAlloc r with
  | ok t' => simp [perform, hok]
  | error e =>
    simp only [perform, hok] at hlive
    exact absurd hvacant hlive

theorem Holds.restrict (h : t.Holds calls k slot j) {i : Nat} (hk : k < i) (hi : i ≤ j) :
    t.Holds calls k slot i :=
  ⟨hk, h.vacant, fun i' hk' hi' => h.inUse i' hk' (Nat.le_trans hi' hi)⟩

theorem Holds.slot_unique (h : t.Holds calls k slot j) (h' : t.Holds calls k slot' j)
    (hk : calls[k]? = some (.alloc r))
    (htracked : ((t.before calls k).perform (.alloc r)).1 = .tracked) : slot = slot' := by
  have hlt := h.lt
  exact (existsUnique_holds hk htracked).unique
    (h.restrict (Nat.lt_succ_self k) hlt) (h'.restrict (Nat.lt_succ_self k) hlt)

/-- An allocation that no call has freed is still in its slot. -/
theorem Outstanding.exists_holds (h : t.Outstanding calls address k r j) :
    ∃ slot, t.Holds calls k slot j := by
  obtain ⟨slot, hslot, -⟩ := existsUnique_holds h.call_eq h.tracked
  refine ⟨slot, ?_⟩
  have hstays : ∀ n, k + 1 + n ≤ j → t.Holds calls k slot (k + 1 + n) := by
    intro n
    induction n with
    | zero => exact fun _ => hslot
    | succ n ih =>
      intro hn
      have hholds := ih (by omega)
      refine hholds.succ ?_
      intro hvacated
      exact h.notFreed _ (by omega) ⟨slot, hholds, hvacated⟩
  have hlt := h.lt
  have hj := hstays (j - (k + 1)) (by omega)
  rwa [show k + 1 + (j - (k + 1)) = j by omega] at hj

theorem Holds.outstanding (h : t.Holds calls k slot j) (hk : calls[k]? = some (.alloc r)) :
    t.Outstanding calls r.address k r j := by
  have htracked := tracked_of_vacant hk h.vacant
    (h.inUse (k + 1) (Nat.lt_succ_self k) h.lt)
  refine ⟨h.lt, hk, htracked, rfl, ?_⟩
  rintro i hi ⟨slot', hslot', hvacated⟩
  obtain rfl := (h.restrict hslot'.lt (Nat.le_of_lt hi)).slot_unique hslot' hk htracked
  exact h.inUse (i + 1) (Nat.lt_succ_of_lt hslot'.lt) hi hvacated

/-- Of the outstanding allocations of an address one is the newest. -/
theorem Outstanding.exists_newest (h : t.Outstanding calls address k r j) :
    ∃ k' r', t.Newest calls address k' r' j := by
  classical
  let candidate (k : Nat) : Prop := ∃ r, t.Outstanding calls address k r j
  obtain ⟨r', hr'⟩ : candidate (Nat.findGreatest candidate j) :=
    Nat.findGreatest_spec (Nat.le_of_lt h.lt) ⟨r, h⟩
  refine ⟨_, r', hr', ?_⟩
  intro k'' r'' h''
  exact Nat.le_findGreatest (Nat.le_of_lt h''.lt) ⟨r'', h''⟩

end Lives

/-- What freeing an address does to the slots: of the live records of the address it takes the last
one with the latest time. -/
structure Vacates (t : AllocationTracker) (address : Nat) (record : AllocationRecord)
    (t' : AllocationTracker) (slot : Nat) (live : AllocationRecord) : Prop where
  live_eq : t.liveAt? slot = some live
  address_eq : live.address = address
  latest : ∀ i r, t.liveAt? i = some r → r.address = address →
    r.allocatedNs < live.allocatedNs ∨ (r.allocatedNs = live.allocatedNs ∧ i ≤ slot)
  record_eq : record = { live with freed := true }
  slots : ∀ i, t'.liveAt? i = if i = slot then none else t.liveAt? i

theorem exists_vacates (h : t.trackFree address = .ok (record, t')) :
    ∃ slot live, t.Vacates address record t' slot live := by
  cases hc : lastLatest? (fun r => !r.freed && r.address == address) t.records with
  | none => simp [trackFree, hc] at h
  | some found =>
    obtain ⟨slot, time⟩ := found
    have hchosen := lastLatest_of_lastLatest? hc
    obtain ⟨live, hlive, hmatches, rfl⟩ := hchosen.exists_record
    obtain ⟨hslot, -⟩ := List.getElem?_eq_some_iff.1 hlive
    simp only [trackFree, hc, hlive] at h
    cases h
    simp only [Bool.and_eq_true, Bool.not_eq_true', beq_iff_eq] at hmatches
    refine ⟨slot, live, liveAt?_eq_some.2 ⟨hlive, hmatches.1⟩, hmatches.2, ?_, rfl,
      liveAt?_of_set { live with freed := true } rfl hslot⟩
    intro i r hr haddress
    obtain ⟨hget, hnotfreed⟩ := liveAt?_eq_some.1 hr
    exact hchosen.max i r hget (by simp [hnotfreed, haddress])

/-- A free that answers a record is one that succeeds. -/
theorem trackFree_of_freed (hj : calls[j]? = some (.free address))
    (hfreed : ((t.before calls j).perform (.free address)).1 = .freed record) :
    (t.before calls j).trackFree address = .ok (record, t.before calls (j + 1)) := by
  rw [before_succ t hj]
  cases hfree : (t.before calls j).trackFree address with
  | ok answer =>
    simp only [perform, hfree, TrackerAnswer.freed.injEq] at hfreed
    simp [perform, hfree, ← hfreed]
  | error e => simp [perform, hfree] at hfreed

/-- A call vacates one slot, so it frees the allocation in that slot and no other. -/
theorem Vacates.frees_iff (h : (t.before calls j).Vacates address record (t.before calls (j + 1))
    slot r') (hholds : t.Holds calls k slot j) (i : Nat) : t.Frees calls i j ↔ i = k := by
  constructor
  · rintro ⟨slot', hslot', hvacated⟩
    have hslot : slot' = slot := by
      by_contra hne
      rw [h.slots, if_neg hne] at hvacated
      exact hslot'.inUse j hslot'.lt (Nat.le_refl j) hvacated
    subst hslot
    exact hslot'.call_unique hholds
  · rintro rfl
    exact ⟨slot, hholds, by rw [h.slots, if_pos rfl]⟩

/-- Every outstanding allocation of the address has an earlier time than the one that goes, or its
time and no later slot. -/
theorem Vacates.outstanding_le (h : (t.before calls j).Vacates address record t' slot live)
    (haccounted : t.Accounted calls j) (hk : t.Outstanding calls address k r j)
    (hholds : t.Holds calls k slot' j) :
    r.allocatedNs < live.allocatedNs ∨ (r.allocatedNs = live.allocatedNs ∧ slot' ≤ slot) := by
  obtain ⟨other, hother⟩ := hholds.exists_record
  have htraced := hholds.traced haccounted hk.call_eq hother
  have hsame : other.address = address := by
    rw [← hk.address_eq, htraced.record_eq]
    rfl
  rw [← htraced.allocatedNs_eq]
  exact h.latest slot' other hother hsame

/-- **Which allocation a free takes.** The table has any capacity, and no allocation has an earlier
time than one before it; equal times are allowed. A free that succeeds frees one allocation of its
address that is still outstanding, and answers its record. It is one of the latest: its time is that
of the newest outstanding allocation of the address. It is the newest itself if and only if no
outstanding allocation of the address with that time is in a later slot; a slot that is given to a
second allocation may put a newer one in front of an older one. -/
theorem frees_newest_iff (capacity : Nat) (calls : List TrackerCall)
    (htimes : TrackerCall.InOrderOfTime calls) (j address : Nat) (record : AllocationRecord)
    (hj : calls[j]? = some (.free address))
    (hfreed : ((before { capacity } calls j).perform (.free address)).1 = .freed record) :
    let t : AllocationTracker := { capacity }
    ∃ newest r freed r', t.Newest calls address newest r j ∧
      t.Outstanding calls address freed r' j ∧
      (∀ k, t.Frees calls k j ↔ k = freed) ∧
      record = { r' with freed := true, leakReported := record.leakReported } ∧
      r'.allocatedNs = r.allocatedNs ∧
      (freed = newest ↔ ∀ slot k s slot', t.Holds calls newest slot j →
        t.Outstanding calls address k s j → s.allocatedNs = r.allocatedNs →
        t.Holds calls k slot' j → slot' ≤ slot) := by
  intro t
  have hfree := trackFree_of_freed hj hfreed
  obtain ⟨slot, live, hvacates⟩ := exists_vacates hfree
  have haccounted := accounted capacity calls j
  obtain ⟨freed, r', htraced⟩ := haccounted slot live hvacates.live_eq
  have haddress : r'.address = address := by
    rw [← hvacates.address_eq, htraced.record_eq]
    rfl
  have houtstanding : t.Outstanding calls address freed r' j :=
    haddress ▸ htraced.holds.outstanding htraced.call_eq
  obtain ⟨newest, r, hnewest⟩ := houtstanding.exists_newest
  obtain ⟨place, hplace⟩ := hnewest.outstanding.exists_holds
  have htime : r'.allocatedNs = r.allocatedNs := by
    have hle := htimes.le htraced.call_eq hnewest.outstanding.call_eq
      (hnewest.last freed r' houtstanding)
    have hmax := hvacates.outstanding_le haccounted hnewest.outstanding hplace
    have hlive := htraced.allocatedNs_eq
    omega
  refine ⟨newest, r, freed, r', hnewest, houtstanding, hvacates.frees_iff htraced.holds, ?_,
    htime, ?_⟩
  · rw [hvacates.record_eq, htraced.record_eq]
    rfl
  · constructor
    · rintro rfl slot₁ k s slot' hslot₁ hk hs hslot'
      obtain rfl := hslot₁.slot_unique htraced.holds htraced.call_eq houtstanding.tracked
      have hmax := hvacates.outstanding_le haccounted hk hslot'
      have hlive := htraced.allocatedNs_eq
      omega
    · intro hlast
      -- the two hold the same slot, each being in no earlier slot than the other
      have hle := hlast place freed r' slot hplace houtstanding htime htraced.holds
      have hmax := hvacates.outstanding_le haccounted hnewest.outstanding hplace
      have hlive := htraced.allocatedNs_eq
      have hslots : slot = place := by omega
      subst hslots
      exact htraced.holds.call_unique hplace

/-- A newer allocation with a later time is freed before an older one in a later slot. -/
theorem frees_newest_in_recycled_slot :
    let record (address size allocatedNs : Nat) : AllocationRecord :=
      { address, size, allocatedNs, file := "probe.c", line := 7, thread := 1 }
    let calls := [.alloc (record 8192 8 1), .alloc (record 4096 10 1), .free 8192,
      .alloc (record 4096 20 2), .free 4096]
    let t : AllocationTracker := { capacity := 2 }
    t.Newest calls 4096 3 (record 4096 20 2) 4 ∧ ∀ k, t.Frees calls k 4 ↔ k = 3 := by
  intro record calls t
  obtain ⟨newest, r, freed, r', hnewest, houtstanding, hfrees, -, htime, -⟩ :=
    frees_newest_iff 2 calls (by decide) 4 4096 { record 4096 20 2 with freed := true } rfl rfl
  have hholds : t.Holds calls 3 0 4 := by
    refine .of_vacant ?_ ?_ <;> decide
  have hlast := hnewest.last 3 _ (hholds.outstanding rfl)
  have hlt := hnewest.outstanding.lt
  obtain rfl : newest = 3 := by omega
  cases hnewest.outstanding.call_eq
  have hfreed : freed = 3 := by
    have hcall := houtstanding.call_eq
    have hbefore := houtstanding.lt
    -- of the calls before the free only the last carries the time 2
    interval_cases freed <;> cases hcall <;> simp_all [record]
  exact ⟨hnewest, hfreed ▸ hfrees⟩

/-- Two allocations of an address with one time, the newer one in a slot that has served before: the
older one is freed. -/
theorem frees_older_of_equal_times :
    let record (address size : Nat) : AllocationRecord :=
      { address, size, allocatedNs := 1, file := "probe.c", line := 7, thread := 1 }
    let calls := [.alloc (record 8192 8), .alloc (record 4096 10), .free 8192,
      .alloc (record 4096 20), .free 4096]
    let t : AllocationTracker := { capacity := 2 }
    TrackerCall.InOrderOfTime calls ∧ t.Newest calls 4096 3 (record 4096 20) 4 ∧
      t.Frees calls 1 4 ∧ ¬ t.Frees calls 3 4 := by
  intro record calls t
  have holder : t.Holds calls 1 1 4 := by
    refine ((Holds.of_vacant ?_ ?_).succ ?_).succ ?_ <;> decide
  have hnewer : t.Holds calls 3 0 4 := by
    refine .of_vacant ?_ ?_ <;> decide
  have houtstanding := hnewer.outstanding (r := record 4096 20) rfl
  refine ⟨by decide, ⟨houtstanding, ?_⟩, ⟨1, holder, by decide⟩, ?_⟩
  · intro k r hk
    exact Nat.le_of_lt_succ hk.lt
  · rintro ⟨slot, hslot, hvacated⟩
    obtain rfl := hslot.slot_unique hnewer rfl houtstanding.tracked
    revert hvacated
    decide

end AllocationTracker

end DriverTelemetry
