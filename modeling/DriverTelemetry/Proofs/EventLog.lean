import DriverTelemetry.Event.Ring
import Mathlib

/-!
# The event ring as a window on an unbounded log

An `EventLog` keeps every event for ever. `EventRing.Shows` relates a ring to the log of the same
calls: event number `i` since the last release lies in slot `i` modulo the capacity for as long as
it is among the newest events. Every call keeps the relation, so a ring shows the end of its log
after any run of calls.
-/

namespace DriverTelemetry

/-- What a producer and its platform contribute to an event: everything but the number. -/
structure Emission where
  severity : Severity
  subsystem : Subsystem
  origin : Origin
  fill : Payload → Payload

/-- The event with a given number: the producer writes on a blank payload. -/
def Emission.event (e : Emission) (id : EventId) : Event where
  id := id
  severity := e.severity
  subsystem := e.subsystem
  origin := e.origin
  payload := e.fill .blank

/-- The origin that a platform reports for an event of a severity. -/
def SimulatedPlatform.origin (p : SimulatedPlatform) (severity : Severity) : Origin where
  timestampNs := p.readClock.1
  thread := p.thread
  cpu := p.cpuId
  stack := if severity.capturesStack then p.captureStack maxStackDepth else []

inductive RingCall where
  | push (e : Emission)
  | pushFrom (p : SimulatedPlatform) (severity : Severity) (subsystem : Subsystem)
      (fill : Payload → Payload)
  | release

def RingCall.emission? : RingCall → Option Emission
  | push e => some e
  | pushFrom p severity subsystem fill =>
    some { severity, subsystem, origin := p.origin severity, fill }
  | release => none

namespace EventRing

/-- Performs one call; answers the event it adds. -/
def perform (r : EventRing) : RingCall → Option Event × EventRing
  | .push e =>
    let (event, r) := r.push e.severity e.subsystem e.origin e.fill
    (some event, r)
  | .pushFrom p severity subsystem fill =>
    let (event, r, _) := r.pushFrom p severity subsystem fill
    (some event, r)
  | .release => (none, r.release)

/-- Performs calls one after the other; answers the events they add, in order. -/
def run : EventRing → List RingCall → List Event × EventRing
  | r, [] => ([], r)
  | r, c :: rest =>
    let (event, r) := r.perform c
    let (events, r) := r.run rest
    (event.toList ++ events, r)

end EventRing

/-- A log without a bound. -/
structure EventLog where
  released : List (List Event) := []
  current : List Event := []

namespace EventLog

def all (l : EventLog) : List Event := l.released.flatten ++ l.current

def record (l : EventLog) (e : Emission) : EventLog :=
  { l with current := l.current ++ [e.event ⟨l.all.length + 1⟩] }

def release (l : EventLog) : EventLog := { released := l.released ++ [l.current], current := [] }

def perform (l : EventLog) (c : RingCall) : EventLog :=
  match c.emission? with
  | some e => l.record e
  | none => l.release

def run (l : EventLog) (calls : List RingCall) : EventLog := calls.foldl perform l

/-- The newest events, at most `capacity` of them. -/
def window (l : EventLog) (capacity : Nat) : List Event :=
  l.current.drop (l.current.length - capacity)

/-- How many events newer ones have displaced from a store of that many: between two releases, all
that exceed the capacity. -/
def displaced (l : EventLog) (capacity : Nat) : Nat :=
  ((l.released ++ [l.current]).map fun events => events.length - capacity).sum

theorem all_record (l : EventLog) (e : Emission) :
    (l.record e).all = l.all ++ [e.event ⟨l.all.length + 1⟩] := by
  simp [all, record]

theorem all_release (l : EventLog) : l.release.all = l.all := by
  simp [all, release]

theorem length_current_record (l : EventLog) (e : Emission) :
    (l.record e).current.length = l.current.length + 1 := by
  simp [record]

theorem getElem?_current_record (l : EventLog) (e : Emission) (i : Nat) :
    (l.record e).current[i]? =
      if i = l.current.length then some (e.event ⟨l.all.length + 1⟩) else l.current[i]? := by
  by_cases hlt : i < l.current.length
  · rw [if_neg (by omega)]
    exact List.getElem?_append_left hlt
  · by_cases hlast : i = l.current.length
    · simp [record, hlast]
    · have hlen := l.length_current_record e
      rw [if_neg hlast, List.getElem?_eq_none (by omega), List.getElem?_eq_none (by omega)]

theorem displaced_record (l : EventLog) (e : Emission) (capacity : Nat) :
    (l.record e).displaced capacity =
      l.displaced capacity + if l.current.length < capacity then 0 else 1 := by
  simp only [displaced, record, List.map_append, List.sum_append, List.map_cons, List.map_nil,
    List.sum_cons, List.sum_nil, List.length_append, List.length_cons, List.length_nil]
  split <;> omega

theorem displaced_release (l : EventLog) (capacity : Nat) :
    l.release.displaced capacity = l.displaced capacity := by
  simp [displaced, release]

theorem length_window (l : EventLog) (capacity : Nat) :
    (l.window capacity).length = min capacity l.current.length := by
  simp only [window, List.length_drop]
  omega

/-- The log of a run numbers what was emitted from 1 on and fills in each event on its own. -/
theorem all_run (l : EventLog) (calls : List RingCall) :
    (l.run calls).all =
      l.all ++ (calls.filterMap RingCall.emission?).mapIdx
        fun i e => e.event ⟨l.all.length + i + 1⟩ := by
  induction calls generalizing l with
  | nil => simp [run]
  | cons c rest ih =>
    have hrun : l.run (c :: rest) = (l.perform c).run rest := rfl
    rw [hrun, ih]
    cases hc : c.emission? with
    | none => simp [perform, hc, all_release]
    | some e =>
      simp only [perform, hc, all_record, List.filterMap_cons, List.mapIdx_cons, List.length_append,
        List.length_cons, List.length_nil, List.append_assoc, List.singleton_append]
      simp only [Nat.add_zero, Nat.zero_add, Nat.add_comm 1, Nat.add_assoc]

end EventLog

namespace EventRing

/-- A ring that holds the newest events of a log. -/
structure Shows (r : EventRing) (l : EventLog) : Prop where
  capacity_pos : 0 < r.capacity
  nextId_eq : r.nextId = l.all.length + 1
  overwritten_eq : r.overwritten = l.displaced r.capacity
  size_eq : r.slots.size = min r.capacity l.current.length
  head_eq : r.head = (l.current.length - r.slots.size) % r.capacity
  slot_eq : ∀ i, i < l.current.length → l.current.length ≤ i + r.capacity →
    r.slots[i % r.capacity]? = l.current[i]?

variable {r : EventRing} {l : EventLog}

theorem shows_new {capacity : Nat} (h : 0 < capacity) : Shows { capacity } {} where
  capacity_pos := h
  nextId_eq := rfl
  overwritten_eq := by simp [EventLog.displaced]
  size_eq := by simp
  head_eq := by simp
  slot_eq := by simp

/-- What a slot held before does not show in the event that is written into it. -/
theorem write_eq_event (slot : Event) (id : EventId) (e : Emission) :
    write slot id e.severity e.subsystem e.origin e.fill = e.event id := rfl

theorem Shows.push_fst (h : r.Shows l) (e : Emission) :
    (r.push e.severity e.subsystem e.origin e.fill).1 = e.event ⟨l.all.length + 1⟩ := by
  rw [push, ← h.nextId_eq]
  split <;> exact write_eq_event _ _ e

/-- While slots are left, every event since the last release is in the slot of its position. -/
theorem Shows.push_of_room (h : r.Shows l) (e : Emission) (hroom : r.slots.size < r.capacity) :
    Shows (r.push e.severity e.subsystem e.origin e.fill).2 (l.record e) := by
  have hsize := h.size_eq
  have hfit : l.current.length < r.capacity := by omega
  have hsame : r.slots.size = l.current.length := by omega
  simp only [EventRing.push, hroom, if_true, write_eq_event]
  refine ⟨h.capacity_pos, ?_, ?_, ?_, ?_, ?_⟩
  · simp [EventLog.all_record, h.nextId_eq]
  · simp [EventLog.displaced_record, h.overwritten_eq, hfit]
  · simp only [Array.size_push, EventLog.length_current_record]
    omega
  · simp only [Array.size_push, EventLog.length_current_record, hsame, Nat.sub_self, Nat.zero_mod]
    simpa [hsame] using h.head_eq
  · intro i hi _
    rw [EventLog.length_current_record] at hi
    rw [Nat.mod_eq_of_lt (by omega : i < r.capacity), Array.getElem?_push, hsame,
      EventLog.getElem?_current_record, h.nextId_eq]
    by_cases hnew : i = l.current.length
    · rw [if_pos hnew, if_pos hnew]
    · have hold := h.slot_eq i (by omega) (by omega)
      rw [Nat.mod_eq_of_lt (by omega)] at hold
      rw [if_neg hnew, if_neg hnew, hold]

/-- Once no slot is left, the head points to the slot of the new event's position. -/
theorem Shows.push_of_full (h : r.Shows l) (e : Emission) (hfull : ¬r.slots.size < r.capacity) :
    Shows (r.push e.severity e.subsystem e.origin e.fill).2 (l.record e) := by
  have hcap := h.capacity_pos
  have hsize := h.size_eq
  have hslots : r.slots.size = r.capacity := by omega
  have hmany : r.capacity ≤ l.current.length := by omega
  have hhead : r.head = l.current.length % r.capacity := by
    rw [h.head_eq, hslots, Nat.mod_eq_sub_mod hmany]
  have hlt : r.head < r.slots.size := by
    rw [hhead, hslots]
    exact Nat.mod_lt _ hcap
  simp only [EventRing.push, hfull, if_false, write_eq_event]
  refine ⟨hcap, ?_, ?_, ?_, ?_, ?_⟩
  · simp [EventLog.all_record, h.nextId_eq]
  · simp [EventLog.displaced_record, h.overwritten_eq, Nat.not_lt.2 hmany]
  · simp only [Array.size_setIfInBounds, EventLog.length_current_record]
    omega
  · simp only [Array.size_setIfInBounds, EventLog.length_current_record, hslots, h.head_eq,
      Nat.mod_add_mod]
    congr 1
    omega
  · intro i hi hnewest
    simp only [EventLog.length_current_record] at hi hnewest
    rw [EventLog.getElem?_current_record]
    by_cases hnew : i = l.current.length
    · rw [if_pos hnew, hnew, ← hhead, Array.getElem?_setIfInBounds_self_of_lt hlt, h.nextId_eq]
    · -- the positions of the newest events differ by less than the capacity, so none share a slot
      have hne : r.head ≠ i % r.capacity := by
        rw [hhead]
        intro heq
        have hdvd := (Nat.modEq_iff_dvd' (by omega : i ≤ l.current.length)).1 heq.symm
        exact absurd (Nat.le_of_dvd (by omega) hdvd) (by omega)
      rw [if_neg hnew, Array.getElem?_setIfInBounds_ne hne, h.slot_eq i (by omega) (by omega)]

theorem Shows.push (h : r.Shows l) (e : Emission) :
    Shows (r.push e.severity e.subsystem e.origin e.fill).2 (l.record e) := by
  by_cases hroom : r.slots.size < r.capacity
  · exact h.push_of_room e hroom
  · exact h.push_of_full e hroom

theorem Shows.release (h : r.Shows l) : Shows r.release l.release where
  capacity_pos := h.capacity_pos
  nextId_eq := by rw [EventLog.all_release]; exact h.nextId_eq
  overwritten_eq := by rw [EventLog.displaced_release]; exact h.overwritten_eq
  size_eq := by simp [EventRing.release, EventLog.release]
  head_eq := by simp [EventRing.release, EventLog.release]
  slot_eq := by simp [EventLog.release]

theorem Shows.perform (h : r.Shows l) (c : RingCall) :
    Shows (r.perform c).2 (l.perform c) ∧
      (l.perform c).all = l.all ++ (r.perform c).1.toList := by
  cases c with
  | push e =>
    refine ⟨h.push e, ?_⟩
    simp [EventRing.perform, EventLog.perform, RingCall.emission?, h.push_fst, EventLog.all_record]
  | pushFrom p severity subsystem fill =>
    let e : Emission := { severity, subsystem, origin := p.origin severity, fill }
    have hfst := h.push_fst e
    refine ⟨h.push e, ?_⟩
    change (l.record e).all = l.all ++ [(r.push severity subsystem (p.origin severity) fill).1]
    rw [hfst, EventLog.all_record]
  | release =>
    refine ⟨h.release, ?_⟩
    simp [EventRing.perform, EventLog.perform, RingCall.emission?, EventLog.all_release]

theorem Shows.run (h : r.Shows l) (calls : List RingCall) :
    Shows (r.run calls).2 (l.run calls) ∧ (l.run calls).all = l.all ++ (r.run calls).1 := by
  -- by induction on the calls; the ring and the log move on together
  induction calls generalizing r l with
  | nil => exact ⟨h, (List.append_nil _).symm⟩
  | cons c rest ih =>
    obtain ⟨hstep, hall⟩ := h.perform c
    obtain ⟨hshows, hrest⟩ := ih hstep
    refine ⟨hshows, ?_⟩
    change ((l.perform c).run rest).all = _
    rw [hrest, hall, List.append_assoc]
    rfl

/-- The event at an offset from the oldest one, found in the log. -/
theorem Shows.at?_eq (h : r.Shows l) {offset : Nat} (ho : offset < r.size) :
    r.at? offset = (l.window r.capacity)[offset]? := by
  have hsize := h.size_eq
  have hle : l.current.length - r.slots.size + offset < l.current.length := by
    unfold size at ho
    omega
  have hskip : l.current.length - r.slots.size = l.current.length - r.capacity := by omega
  rw [at?, h.head_eq, Nat.mod_add_mod, h.slot_eq _ hle (by omega), EventLog.window,
    List.getElem?_drop, hskip]

end EventRing

/-- Reading a list by position, from a position on, gives its end. -/
theorem filterMap_drop_range {α : Type} {f : Nat → Option α} {l : List α}
    (h : ∀ i, i < l.length → f i = l[i]?) (k : Nat) :
    ((List.range l.length).drop k).filterMap f = l.drop k := by
  have hmap : (List.range l.length).map f = l.map some := by
    apply List.ext_getElem (by simp)
    intro i hi _
    simp only [List.length_map, List.length_range] at hi
    simp [h i hi, hi]
  have hid : ((List.range l.length).drop k).filterMap f
      = (((List.range l.length).drop k).map f).filterMap id := by
    simp [List.filterMap_map]
  rw [hid, List.map_drop, hmap, ← List.map_drop, List.filterMap_map]
  simp

namespace EventRing

variable {r : EventRing} {l : EventLog}

theorem Shows.size_eq_length (h : r.Shows l) : r.size = (l.window r.capacity).length := by
  rw [EventLog.length_window]
  exact h.size_eq

theorem Shows.newest_eq (h : r.Shows l) (count : Nat) :
    r.newest count = (l.window r.capacity).drop ((l.window r.capacity).length - count) := by
  rw [newest, h.size_eq_length]
  refine filterMap_drop_range (fun i hi => h.at?_eq ?_) _
  rwa [h.size_eq_length]

theorem Shows.toList_eq (h : r.Shows l) : r.toList = l.window r.capacity := by
  have hall := h.newest_eq r.size
  rw [newest, ← h.size_eq_length, Nat.sub_self] at hall
  exact hall

theorem capacity_perform (r : EventRing) (c : RingCall) :
    (r.perform c).2.capacity = r.capacity := by
  cases c with
  | push e =>
    simp only [perform, push]
    split <;> rfl
  | pushFrom p severity subsystem fill =>
    simp only [perform, pushFrom, push]
    split <;> rfl
  | release => rfl

theorem capacity_run (r : EventRing) (calls : List RingCall) :
    (r.run calls).2.capacity = r.capacity := by
  induction calls generalizing r with
  | nil => rfl
  | cons c rest ih =>
    change ((r.perform c).2.run rest).2.capacity = r.capacity
    rw [ih, capacity_perform]

/-- **The ring refines the log.** After any calls on a new ring, it holds the newest events since
the last release, as many as fit, oldest first. The events added over all its life are numbered from
1 on without gap or reuse, and each is what its own producer writes on a blank payload. The newest
`k` are the end of that list, and every event displaced by overflow has been counted. Times do not
decrease along the ring if they do not decrease from call to call. -/
theorem refines_log {capacity : Nat} (hcap : 0 < capacity) (calls : List RingCall) :
    let ring := (run { capacity } calls).2
    let log := EventLog.run {} calls
    ring.toList = log.current.drop (log.current.length - capacity) ∧
    ring.toList.length = min capacity log.current.length ∧
    (run { capacity } calls).1 = log.all ∧
    log.all = (calls.filterMap RingCall.emission?).mapIdx (fun i e => e.event ⟨i + 1⟩) ∧
    (∀ k, ring.newest k = ring.toList.drop (ring.toList.length - k)) ∧
    ring.size = ring.toList.length ∧
    ring.overwritten = log.displaced capacity ∧
    (((calls.filterMap RingCall.emission?).map (·.origin.timestampNs)).Pairwise (· ≤ ·) →
      (ring.toList.map (·.origin.timestampNs)).Pairwise (· ≤ ·)) := by
  intro ring log
  obtain ⟨hshows, hadded⟩ := (shows_new hcap).run calls
  have hring : ring.capacity = capacity := capacity_run _ calls
  have hlist : ring.toList = log.window capacity := hring ▸ hshows.toList_eq
  have hall : log.all =
      (calls.filterMap RingCall.emission?).mapIdx (fun i e => e.event ⟨i + 1⟩) := by
    simpa [EventLog.all] using EventLog.all_run {} calls
  refine ⟨hlist, ?_, ?_, hall, ?_, ?_, ?_, ?_⟩
  · rw [hlist, EventLog.length_window]
  · exact hadded.symm
  · intro k
    rw [hlist, hshows.newest_eq, hring]
  · rw [hlist, hshows.size_eq_length, hring]
  · rw [hshows.overwritten_eq, hring]
  · intro hclock
    have htimes : log.all.map (·.origin.timestampNs)
        = (calls.filterMap RingCall.emission?).map (·.origin.timestampNs) := by
      rw [hall]
      apply List.ext_getElem <;> simp [Emission.event]
    -- what the ring holds is the end of everything that has ever been added
    have hsuffix : ring.toList <:+ log.all := by
      rw [hlist]
      exact (List.drop_suffix _ _).trans (List.suffix_append _ _)
    rw [← htimes] at hclock
    exact hclock.sublist (hsuffix.sublist.map _)

/-- Three events on two slots: the first one has been displaced. -/
theorem refines_log_past_capacity :
    let calls := [10, 20, 30].map fun now => RingCall.push
      { severity := .info, subsystem := .core, origin := { timestampNs := now },
        fill := (·.setMessage "tick") }
    let ring := (run { capacity := 2 } calls).2
    0 < 2 ∧ ring.toList.map (·.id.number) = [2, 3] ∧ ring.overwritten = 1 ∧
      (ring.toList.map (·.origin.timestampNs)).Pairwise (· ≤ ·) := by
  intro calls ring
  obtain ⟨hlist, -, -, -, -, -, hover, hclock⟩ := @refines_log 2 (by decide) calls
  refine ⟨by decide, ?_, ?_, hclock (by decide)⟩
  · rw [hlist]
    rfl
  · rw [hover]
    rfl

end EventRing

end DriverTelemetry
