import DriverTelemetry.Memory.Tracker
import Mathlib

/-!
# The allocation tracker as a bounded multiset

Of a tracker's table only the live records count, and their order does not: `AllocationTracker.live`
is the multiset of them. `LiveSet.Step` says what a call answers, and what it does to such a
multiset of bounded size, without slots, freed records or counters. The tracker takes the same steps
on any run of calls, and its counters stay in step with the multiset.
-/

namespace DriverTelemetry

inductive TrackerCall where
  | alloc (record : AllocationRecord)
  | free (address : Nat)
  | scan (nowNs thresholdNs : Nat)

inductive TrackerAnswer where
  | refused (e : TelemetryError)
  | tracked
  | freed (record : AllocationRecord)
  | scanned (scan : LeakScan)

abbrev LiveSet := Multiset AllocationRecord

namespace LiveSet

def bytes (live : LiveSet) : Nat := (live.map (·.size)).sum

/-- The record as it enters a table: live and not reported. -/
def entered (r : AllocationRecord) : AllocationRecord :=
  { r with freed := false, leakReported := false }

/-- The record after a scan: a leak is now reported. -/
def marked (nowNs thresholdNs : Nat) (r : AllocationRecord) : AllocationRecord :=
  if AllocationTracker.isLeaked nowNs thresholdNs r then { r with leakReported := true } else r

/-- What a call answers and does to a multiset of at most `capacity` live allocations. -/
inductive Step (capacity : Nat) : LiveSet → TrackerCall → TrackerAnswer → LiveSet → Prop
  | null {live : LiveSet} {r : AllocationRecord} (h : r.address = 0) :
    Step capacity live (.alloc r) (.refused (.invalidParam "null address")) live
  | full {live : LiveSet} {r : AllocationRecord} (h : r.address ≠ 0)
      (hfull : capacity ≤ live.card) :
    Step capacity live (.alloc r) (.refused (.capacityExhausted .allocationRecords)) live
  | tracked {live : LiveSet} {r : AllocationRecord} (h : r.address ≠ 0)
      (hroom : live.card < capacity) :
    Step capacity live (.alloc r) .tracked (entered r ::ₘ live)
  | unknown {live : LiveSet} {address : Nat} (h : ∀ r ∈ live, r.address ≠ address) :
    Step capacity live (.free address) (.refused .notFound) live
  | freed {live : LiveSet} {r : AllocationRecord} :
    Step capacity (r ::ₘ live) (.free r.address) (.freed { r with freed := true }) live
  | scanned {live : LiveSet} {nowNs thresholdNs : Nat} {scan : LeakScan} :
    Step capacity live (.scan nowNs thresholdNs) (.scanned scan)
      (live.map (marked nowNs thresholdNs))

inductive Steps (capacity : Nat) :
    LiveSet → List TrackerCall → List TrackerAnswer → LiveSet → Prop
  | nil {live : LiveSet} : Steps capacity live [] [] live
  | cons {live middle last : LiveSet} {c : TrackerCall} {a : TrackerAnswer}
      {calls : List TrackerCall} {answers : List TrackerAnswer}
      (head : Step capacity live c a middle) (tail : Steps capacity middle calls answers last) :
    Steps capacity live (c :: calls) (a :: answers) last

@[simp] theorem bytes_cons (r : AllocationRecord) (live : LiveSet) :
    bytes (r ::ₘ live) = r.size + bytes live := by
  simp [bytes]

@[simp] theorem size_entered (r : AllocationRecord) : (entered r).size = r.size := rfl

@[simp] theorem bytes_map_marked (live : LiveSet) (nowNs thresholdNs : Nat) :
    bytes (live.map (marked nowNs thresholdNs)) = bytes live := by
  have hsize : ∀ r, (marked nowNs thresholdNs r).size = r.size := by
    intro r
    unfold marked
    split <;> rfl
  simp [bytes, hsize]

end LiveSet

section Lists

variable {α : Type} {p : α → Bool} {l : List α} {i : Nat} {old new : α}

/-- An element that comes into a filtered list by replacing one that was filtered out. -/
theorem filter_set_of_enters (h : l[i]? = some old) (hold : p old = false) (hnew : p new = true) :
    (((l.set i new).filter p : List α) : Multiset α) = new ::ₘ (l.filter p : List α) := by
  obtain ⟨hi, rfl⟩ := List.getElem?_eq_some_iff.1 h
  obtain ⟨before, after, hl, -, hset⟩ := @List.exists_of_set α i new l hi
  have hfilter : l.filter p = before.filter p ++ after.filter p := by
    conv_lhs => rw [hl]
    simp [hold]
  rw [hset, hfilter]
  simp [hnew]

/-- An element that leaves a filtered list by being replaced by one that is filtered out. -/
theorem filter_set_of_leaves (h : l[i]? = some old) (hold : p old = true) (hnew : p new = false) :
    ((l.filter p : List α) : Multiset α) = old ::ₘ ((l.set i new).filter p : List α) := by
  obtain ⟨hi, rfl⟩ := List.getElem?_eq_some_iff.1 h
  have hback : (l.set i new).set i l[i] = l := by
    rw [List.set_set, List.set_getElem_self]
  have hcurrent : (l.set i new)[i]? = some new := by simp [hi]
  have henter := filter_set_of_enters hcurrent hnew hold
  rwa [hback] at henter

/-- A list splits around its last element, or around one of those before it. -/
theorem concat_eq_append_cons {x y : α} {earlier later : List α}
    (h : l ++ [x] = earlier ++ y :: later) :
    (l = earlier ∧ x = y ∧ later = []) ∨ ∃ rest, later = rest ++ [x] ∧ l = earlier ++ y :: rest := by
  rcases List.eq_nil_or_concat later with rfl | ⟨rest, last, rfl⟩
  · obtain ⟨hl, hx⟩ := List.append_singleton_inj.1 h
    exact .inl ⟨hl, hx, rfl⟩
  · rw [List.concat_eq_append, ← List.cons_append, ← List.append_assoc] at h
    obtain ⟨hl, rfl⟩ := List.append_singleton_inj.1 h
    exact .inr ⟨rest, List.concat_eq_append, hl⟩

end Lists

namespace AllocationTracker

def live (t : AllocationTracker) : LiveSet := t.liveRecords

/-- Performs one call; a call that fails leaves the tracker as it was. -/
def perform (t : AllocationTracker) : TrackerCall → TrackerAnswer × AllocationTracker
  | .alloc record =>
    match t.trackAlloc record with
    | .ok t => (.tracked, t)
    | .error e => (.refused e, t)
  | .free address =>
    match t.trackFree address with
    | .ok (record, t) => (.freed record, t)
    | .error e => (.refused e, t)
  | .scan nowNs thresholdNs =>
    let (scan, t) := t.scan nowNs thresholdNs
    (.scanned scan, t)

/-- Performs calls one after the other; answers what each of them answers. -/
def run : AllocationTracker → List TrackerCall → List TrackerAnswer × AllocationTracker
  | t, [] => ([], t)
  | t, c :: rest =>
    let (answer, t) := t.perform c
    let (answers, t) := t.run rest
    (answer :: answers, t)

section Choice

variable {prefers : Nat → Nat → Bool} {p : AllocationRecord → Bool} {l : List AllocationRecord}

theorem eq_false_of_choose?_eq_none (h : choose? prefers p l = none) : ∀ r ∈ l, p r = false := by
  induction l with
  | nil => simp
  | cons r rest ih =>
    simp only [choose?] at h
    split at h
    · split at h
      · split at h <;> cases h
      · cases h
    · rename_i hr
      rw [Option.map_eq_none_iff] at h
      rw [List.forall_mem_cons]
      exact ⟨by simpa using hr, ih h⟩

theorem getElem?_of_choose? {i time : Nat} (h : choose? prefers p l = some (i, time)) :
    ∃ r, l[i]? = some r ∧ p r = true := by
  induction l generalizing i time with
  | nil => cases h
  | cons r rest ih =>
    -- among the later records the position is counted from one further on
    have hlater : ∀ {j s}, (choose? prefers p rest).map (fun q => (q.1 + 1, q.2)) = some (j, s) →
        ∃ r', (r :: rest)[j]? = some r' ∧ p r' = true := by
      intro j s hj
      obtain ⟨⟨k, u⟩, hk, heq⟩ := Option.map_eq_some_iff.1 hj
      cases heq
      exact ih hk
    simp only [choose?] at h
    split at h
    · rename_i hr
      split at h
      · rename_i hj
        split at h
        · cases h
          exact hlater hj
        · cases h
          exact ⟨r, rfl, hr⟩
      · cases h
        exact ⟨r, rfl, hr⟩
    · exact hlater h

end Choice

variable {t : AllocationTracker}

theorem card_live_le_length (t : AllocationTracker) : t.live.card ≤ t.records.length :=
  List.length_filter_le _ _

/-- A table without room whose records are not all live has a freed one. -/
theorem exists_freed_of_card_live_lt (h : t.live.card < t.records.length) :
    ∃ i time, firstEarliest? (·.freed) t.records = some (i, time) := by
  cases hc : firstEarliest? (·.freed) t.records with
  | some slot => exact ⟨slot.1, slot.2, rfl⟩
  | none =>
    have hlive := eq_false_of_choose?_eq_none hc
    have hall : t.liveRecords = t.records := by
      apply List.filter_eq_self.2
      intro r hr
      simp [hlive r hr]
    simp [live, hall] at h

structure Tracked (t : AllocationTracker) (r : AllocationRecord) (t' : AllocationTracker) :
    Prop where
  live_eq : t'.live = LiveSet.entered r ::ₘ t.live
  length_le : t.records.length ≤ t.capacity → t'.records.length ≤ t.capacity
  capacity_eq : t'.capacity = t.capacity
  liveCount_eq : t'.liveCount = t.liveCount + 1
  liveBytes_eq : t'.liveBytes = Word.satAdd t.liveBytes r.size

/-- A table with one more live record, of that many bytes. -/
def withEntry (t : AllocationTracker) (records : List AllocationRecord) (bytes : Nat) :
    AllocationTracker :=
  { t with
    records
    liveCount := t.liveCount + 1
    liveBytes := Word.satAdd t.liveBytes bytes }

theorem trackAlloc_of_room {r : AllocationRecord} (hr : r.address ≠ 0)
    (hlen : t.records.length ≤ t.capacity) (hroom : t.live.card < t.capacity) :
    ∃ t', t.trackAlloc r = .ok t' ∧ Tracked t r t' := by
  by_cases hfree : t.records.length < t.capacity
  · -- a slot has never been used: the record goes to the end of the table
    refine ⟨t.withEntry (t.records ++ [LiveSet.entered r]) r.size,
      by simp [trackAlloc, hr, hfree, withEntry, LiveSet.entered], ⟨?_, ?_, rfl, rfl, rfl⟩⟩
    · simp [live, liveRecords, withEntry, LiveSet.entered]
    · intro _
      simp only [withEntry, List.length_append, List.length_cons, List.length_nil]
      omega
  · -- every slot is used, so one of them holds a freed record, which gives way
    obtain ⟨i, time, hslot⟩ := exists_freed_of_card_live_lt (t := t) (by omega)
    obtain ⟨old, hold, hfreed⟩ := getElem?_of_choose? hslot
    refine ⟨t.withEntry (t.records.set i (LiveSet.entered r)) r.size,
      by simp [trackAlloc, hr, hfree, hslot, withEntry, LiveSet.entered], ⟨?_, ?_, rfl, rfl, rfl⟩⟩
    · exact filter_set_of_enters hold (by simp [hfreed]) (by simp [LiveSet.entered])
    · simp [withEntry]

theorem trackAlloc_of_full {r : AllocationRecord} (hr : r.address ≠ 0)
    (hlen : t.records.length ≤ t.capacity) (hfull : t.capacity ≤ t.live.card) :
    t.trackAlloc r = .error (.capacityExhausted .allocationRecords) := by
  have hcard := card_live_le_length t
  have hnone : firstEarliest? (·.freed) t.records = none := by
    cases hc : firstEarliest? (·.freed) t.records with
    | none => rfl
    | some slot =>
      -- a freed record would leave fewer live ones than there are slots
      obtain ⟨old, hold, hfreed⟩ := getElem?_of_choose? hc
      have hlt : t.liveRecords.length < t.records.length := by
        apply List.length_filter_lt_length_iff_exists.2
        exact ⟨old, List.mem_of_getElem? hold, by simp [hfreed]⟩
      simp only [live, Multiset.coe_card] at hfull
      omega
  have hroom : ¬ t.records.length < t.capacity := by omega
  simp [trackAlloc, hr, hroom, hnone]

theorem mem_live {r : AllocationRecord} : r ∈ t.live ↔ r ∈ t.records ∧ r.freed = false := by
  simp [live, liveRecords]

theorem trackFree_of_unknown {address : Nat} (h : ∀ r ∈ t.live, r.address ≠ address) :
    t.trackFree address = .error .notFound := by
  cases hc : lastLatest? (fun r => !r.freed && r.address == address) t.records with
  | none => simp [trackFree, hc]
  | some slot =>
    obtain ⟨r, hget, hr⟩ := getElem?_of_choose? hc
    simp only [Bool.and_eq_true, Bool.not_eq_true', beq_iff_eq] at hr
    exact absurd hr.2 (h r (mem_live.2 ⟨List.mem_of_getElem? hget, hr.1⟩))

/-- What freeing an address does when it succeeds: one live record of it leaves the others. -/
theorem trackFree_of_mem {r₀ : AllocationRecord} (hr₀ : r₀ ∈ t.live) :
    ∃ r t', t.trackFree r₀.address = .ok ({ r with freed := true }, t') ∧
      r.address = r₀.address ∧ t.live = r ::ₘ t'.live ∧
      t'.records.length = t.records.length ∧ t'.capacity = t.capacity ∧
      t'.liveCount = t.liveCount - 1 ∧ t'.liveBytes = t.liveBytes - r.size := by
  cases hc : lastLatest? (fun r => !r.freed && r.address == r₀.address) t.records with
  | none =>
    have hnone := eq_false_of_choose?_eq_none hc
    obtain ⟨hmem, hlive⟩ := mem_live.1 hr₀
    have hfalse := hnone r₀ hmem
    simp [hlive] at hfalse
  | some slot =>
    obtain ⟨r, hget, hr⟩ := getElem?_of_choose? hc
    simp only [Bool.and_eq_true, Bool.not_eq_true', beq_iff_eq] at hr
    refine ⟨r,
      { t with
        records := t.records.set slot.1 { r with freed := true }
        liveCount := t.liveCount - 1
        liveBytes := t.liveBytes - r.size },
      by simp [trackFree, hc, hget], hr.2, ?_, by simp, rfl, rfl, rfl⟩
    exact filter_set_of_leaves hget (by simp [hr.1]) (by simp)

theorem live_scan (t : AllocationTracker) (nowNs thresholdNs : Nat) :
    (t.scan nowNs thresholdNs).2.live = t.live.map (LiveSet.marked nowNs thresholdNs) := by
  have hkept : ∀ r : AllocationRecord, (LiveSet.marked nowNs thresholdNs r).freed = r.freed := by
    intro r
    unfold LiveSet.marked
    split <;> rfl
  have hlist : ∀ records : List AllocationRecord,
      (records.map (LiveSet.marked nowNs thresholdNs)).filter (!·.freed)
        = (records.filter (!·.freed)).map (LiveSet.marked nowNs thresholdNs) := by
    intro records
    rw [List.filter_map]
    congr 2
    funext r
    simp [hkept]
  exact congrArg Multiset.ofList (hlist t.records)

/-- The table fits its slots and the counters agree with the live records. -/
structure Consistent (t : AllocationTracker) : Prop where
  length_le : t.records.length ≤ t.capacity
  liveCount_eq : t.liveCount = t.live.card
  liveBytes_le : t.liveBytes ≤ t.live.bytes

/-- What a call keeps, and the step on the live records that it is. -/
abbrev Keeps (t : AllocationTracker) (c : TrackerCall) : Prop :=
  LiveSet.Step t.capacity t.live c (t.perform c).1 (t.perform c).2.live ∧
    (t.perform c).2.Consistent ∧ (t.perform c).2.capacity = t.capacity

theorem Consistent.alloc (h : t.Consistent) (r : AllocationRecord) : t.Keeps (.alloc r) := by
  unfold Keeps
  by_cases hr : r.address = 0
  · have herror : t.trackAlloc r = .error (.invalidParam "null address") := by
      simp [trackAlloc, hr]
    simp only [perform, herror]
    exact ⟨.null hr, h, trivial⟩
  · by_cases hroom : t.live.card < t.capacity
    · obtain ⟨t', hok, ht⟩ := trackAlloc_of_room hr h.length_le hroom
      simp only [perform, hok, ht.live_eq]
      refine ⟨.tracked hr hroom, ⟨?_, ?_, ?_⟩, ht.capacity_eq⟩
      · rw [ht.capacity_eq]
        exact ht.length_le h.length_le
      · rw [ht.liveCount_eq, h.liveCount_eq, ht.live_eq, Multiset.card_cons]
      · -- a counter that stops at the largest word stays below the sum
        have hle := h.liveBytes_le
        rw [ht.liveBytes_eq, ht.live_eq, LiveSet.bytes_cons, LiveSet.size_entered, Word.satAdd]
        omega
    · have hfull := Nat.not_lt.1 hroom
      simp only [perform, trackAlloc_of_full hr h.length_le hfull]
      exact ⟨.full hr hfull, h, trivial⟩

theorem Consistent.free (h : t.Consistent) (address : Nat) : t.Keeps (.free address) := by
  unfold Keeps
  by_cases hmem : ∃ r ∈ t.live, r.address = address
  · obtain ⟨r₀, hr₀, rfl⟩ := hmem
    obtain ⟨r, t', hok, haddr, hlive, hlen, hcap, hcount, hbytes⟩ := trackFree_of_mem hr₀
    simp only [perform, hok]
    refine ⟨?_, ⟨?_, ?_, ?_⟩, hcap⟩
    · rw [hlive, ← haddr]
      exact .freed
    · rw [hlen, hcap]
      exact h.length_le
    · rw [hcount, h.liveCount_eq, hlive, Multiset.card_cons, Nat.add_sub_cancel]
    · have hle := h.liveBytes_le
      rw [hlive, LiveSet.bytes_cons] at hle
      rw [hbytes]
      omega
  · have hnone : ∀ r ∈ t.live, r.address ≠ address := fun r hr heq => hmem ⟨r, hr, heq⟩
    simp only [perform, trackFree_of_unknown hnone]
    exact ⟨.unknown hnone, h, trivial⟩

theorem Consistent.scan (h : t.Consistent) (nowNs thresholdNs : Nat) :
    t.Keeps (.scan nowNs thresholdNs) := by
  have hlive := live_scan t nowNs thresholdNs
  simp only [Keeps, perform, hlive]
  refine ⟨.scanned, ⟨?_, ?_, ?_⟩, rfl⟩
  · simpa [AllocationTracker.scan] using h.length_le
  · rw [hlive, Multiset.card_map]
    exact h.liveCount_eq
  · rw [hlive, LiveSet.bytes_map_marked]
    exact h.liveBytes_le

theorem Consistent.step (h : t.Consistent) (c : TrackerCall) : t.Keeps c := by
  cases c with
  | alloc r => exact h.alloc r
  | free address => exact h.free address
  | scan nowNs thresholdNs => exact h.scan nowNs thresholdNs

theorem Consistent.trackAlloc_ok_iff (h : t.Consistent) (r : AllocationRecord) :
    (∃ t', t.trackAlloc r = .ok t') ↔ r.address ≠ 0 ∧ t.live.card < t.capacity := by
  constructor
  · rintro ⟨t', hok⟩
    have hr : r.address ≠ 0 := fun hr => by simp [trackAlloc, hr] at hok
    refine ⟨hr, Nat.lt_of_not_le fun hfull => ?_⟩
    rw [trackAlloc_of_full hr h.length_le hfull] at hok
    cases hok
  · rintro ⟨hr, hroom⟩
    obtain ⟨t', hok, -⟩ := trackAlloc_of_room hr h.length_le hroom
    exact ⟨t', hok⟩

theorem Consistent.tracked (h : t.Consistent) {r : AllocationRecord} {t' : AllocationTracker}
    (hok : t.trackAlloc r = .ok t') : Tracked t r t' := by
  obtain ⟨hr, hroom⟩ := (h.trackAlloc_ok_iff r).1 ⟨t', hok⟩
  obtain ⟨t'', hok', ht⟩ := trackAlloc_of_room hr h.length_le hroom
  cases hok.symm.trans hok'
  exact ht

/-- While the live allocations fit into a word, no byte is lost in counting them. -/
theorem Consistent.liveBytes_perform (h : t.Consistent) (hbytes : t.liveBytes = t.live.bytes)
    (c : TrackerCall) (hfit : (t.perform c).2.live.bytes ≤ Word.largest) :
    (t.perform c).2.liveBytes = (t.perform c).2.live.bytes := by
  cases c with
  | alloc r =>
    cases hok : t.trackAlloc r with
    | error e => simpa only [perform, hok] using hbytes
    | ok t' =>
      have ht := h.tracked hok
      simp only [perform, hok, ht.live_eq, LiveSet.bytes_cons, LiveSet.size_entered] at hfit ⊢
      rw [ht.liveBytes_eq, hbytes, Word.satAdd]
      omega
  | free address =>
    by_cases hmem : ∃ r ∈ t.live, r.address = address
    · obtain ⟨r₀, hr₀, rfl⟩ := hmem
      obtain ⟨r, t', hok, -, hlive, -, -, -, hsub⟩ := trackFree_of_mem hr₀
      rw [hlive, LiveSet.bytes_cons] at hbytes
      simp only [perform, hok]
      -- the counter holds the bytes of the record, so nothing is cut off at zero
      omega
    · have hnone : ∀ r ∈ t.live, r.address ≠ address := fun r hr heq => hmem ⟨r, hr, heq⟩
      simpa only [perform, trackFree_of_unknown hnone] using hbytes
  | scan nowNs thresholdNs =>
    simp only [perform, live_scan, LiveSet.bytes_map_marked]
    exact hbytes

theorem Consistent.steps (h : t.Consistent) (calls : List TrackerCall) :
    LiveSet.Steps t.capacity t.live calls (t.run calls).1 (t.run calls).2.live ∧
      (t.run calls).2.Consistent ∧ (t.run calls).2.capacity = t.capacity := by
  induction calls generalizing t with
  | nil => exact ⟨.nil, h, rfl⟩
  | cons c rest ih =>
    obtain ⟨hstep, hnext, hcap⟩ := h.step c
    obtain ⟨hsteps, hlast, hcap'⟩ := ih hnext
    rw [hcap] at hsteps
    exact ⟨.cons hstep hsteps, hlast, hcap'.trans hcap⟩

theorem Consistent.liveBytes_run (h : t.Consistent) (hbytes : t.liveBytes = t.live.bytes)
    (calls : List TrackerCall)
    (hfit : ∀ k, (t.run (calls.take k)).2.live.bytes ≤ Word.largest) :
    (t.run calls).2.liveBytes = (t.run calls).2.live.bytes := by
  induction calls generalizing t with
  | nil => exact hbytes
  | cons c rest ih =>
    have hfirst : (t.perform c).2.live.bytes ≤ Word.largest := hfit 1
    exact ih (h.step c).2.1 (h.liveBytes_perform hbytes c hfirst) fun k => hfit (k + 1)

theorem consistent_new (capacity : Nat) : Consistent { capacity } where
  length_le := Nat.zero_le _
  liveCount_eq := rfl
  liveBytes_le := Nat.le_refl _

theorem trackFree_ok_iff (t : AllocationTracker) (address : Nat) :
    (∃ answer, t.trackFree address = .ok answer) ↔ ∃ r ∈ t.live, r.address = address := by
  constructor
  · rintro ⟨answer, hok⟩
    by_contra hnone
    rw [trackFree_of_unknown fun r hr heq => hnone ⟨r, hr, heq⟩] at hok
    cases hok
  · rintro ⟨r₀, hr₀, rfl⟩
    obtain ⟨r, t', hok, -⟩ := trackFree_of_mem hr₀
    exact ⟨_, hok⟩

theorem trackFree_ok {address : Nat} {r : AllocationRecord} {t' : AllocationTracker}
    (h : t.trackFree address = .ok (r, t')) :
    t.live.bytes = r.size + t'.live.bytes ∧ t'.liveBytes = t.liveBytes - r.size := by
  obtain ⟨r₀, hr₀, rfl⟩ := (trackFree_ok_iff t address).1 ⟨_, h⟩
  obtain ⟨r', t'', hok, -, hlive, -, -, -, hsub⟩ := trackFree_of_mem hr₀
  cases h.symm.trans hok
  exact ⟨by rw [hlive, LiveSet.bytes_cons], hsub⟩

theorem perform_of_refused {c : TrackerCall} {e : TelemetryError}
    (h : (t.perform c).1 = .refused e) : (t.perform c).2 = t := by
  cases c with
  | alloc r => cases hok : t.trackAlloc r <;> simp_all [perform]
  | free address => cases hok : t.trackFree address <;> simp_all [perform]
  | scan nowNs thresholdNs => cases h

/-- **The tracker refines a bounded multiset.** On any run of calls a new tracker gives the answers
of a multiset of at most `capacity` live allocations and ends with the same allocations live. So an
allocation is recorded just when its address is not null and there is room, and an address is freed
just when a live allocation has it. A call that fails changes nothing, the table does not outgrow
its slots, and the counters count the live allocations: their number always, their bytes as long as
these have fit into a word. -/
theorem refines_live_set (capacity : Nat) (calls : List TrackerCall) :
    let t := (run { capacity } calls).2
    LiveSet.Steps capacity 0 calls (run { capacity } calls).1 t.live ∧
    (∀ r, (∃ t', t.trackAlloc r = .ok t') ↔ r.address ≠ 0 ∧ t.live.card < capacity) ∧
    (∀ address, (∃ answer, t.trackFree address = .ok answer) ↔
      ∃ r ∈ t.live, r.address = address) ∧
    (∀ c e, (t.perform c).1 = .refused e → (t.perform c).2 = t) ∧
    t.records.length ≤ capacity ∧
    t.liveCount = t.live.card ∧
    t.liveBytes ≤ t.live.bytes ∧
    ((∀ k, (run { capacity } (calls.take k)).2.live.bytes ≤ Word.largest) →
      t.liveBytes = t.live.bytes) := by
  intro t
  obtain ⟨hsteps, ht, hcap⟩ := (consistent_new capacity).steps calls
  have hlen := ht.length_le
  have halloc := ht.trackAlloc_ok_iff
  rw [hcap] at hlen
  simp only [hcap] at halloc
  exact ⟨hsteps, halloc, trackFree_ok_iff t, fun _ _ => perform_of_refused, hlen, ht.liveCount_eq,
    ht.liveBytes_le, (consistent_new capacity).liveBytes_run rfl calls⟩

theorem refines_live_set_on_recycled_slot :
    let record (address size : Nat) : AllocationRecord :=
      { address, size, allocatedNs := 0, file := "probe.c", line := 7, thread := 1 }
    let calls := [.alloc (record 4096 8), .free 4096, .alloc (record 8192 16)]
    let t := (run { capacity := 1 } calls).2
    (∀ k, (run { capacity := 1 } (calls.take k)).2.live.bytes ≤ Word.largest) ∧
      t.records.length ≤ 1 ∧ t.liveCount = t.live.card ∧ t.liveBytes = t.live.bytes ∧
      t.live = {record 8192 16} := by
  intro record calls t
  have hfit : ∀ k, (run { capacity := 1 } (calls.take k)).2.live.bytes ≤ Word.largest := by
    intro k
    rcases k with _ | _ | _ | k
    · decide
    · decide
    · decide
    · have htake : calls.take (k + 3) = calls := by simp [calls]
      rw [htake]
      decide
  obtain ⟨-, -, -, -, hlen, hcount, -, hbytes⟩ := refines_live_set 1 calls
  exact ⟨hfit, hlen, hcount, hbytes hfit, rfl⟩

end AllocationTracker

end DriverTelemetry
