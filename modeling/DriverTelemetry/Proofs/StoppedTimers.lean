import DriverTelemetry.Core.Timers
import DriverTelemetry.Proofs.BenchmarkSummary
import DriverTelemetry.Proofs.Happenings
import DriverTelemetry.Proofs.MetricUpdates
import DriverTelemetry.Proofs.Starting

/-!
# Timers that are stopped

Stopping a timer is two things one after the other: a message if the operation has taken long, and
an update of the metric that the token is bound to. `System.noted` is the system between the two.
What the update comes to does not depend on the message, and the message stays whatever the update
comes to. The message is never cut: the name of an operation and the microseconds of a word leave
room in it.
-/

namespace DriverTelemetry

namespace TimerToken

/-- How long an operation has taken by a reading of the clock; no time if the clock has gone
back. -/
def elapsedNs (t : TimerToken) (nowNs : Nat) : Nat := (max 0 ((nowNs : Int) - t.startNs)).toNat

/-- The message about an operation that has taken long, in whole microseconds. -/
def longText (t : TimerToken) (durationNs : Nat) : String :=
  s!"Long operation detected: '{t.operation.text}' took {durationNs / nsPerUs} µs"

theorem elapsedNs_eq_sub (t : TimerToken) (nowNs : Nat) :
    t.elapsedNs nowNs = nowNs - t.startNs := by
  unfold elapsedNs
  omega

theorem elapsedNs_le {t : TimerToken} {nowNs : Nat} (h : nowNs ≤ Word.largest) :
    t.elapsedNs nowNs ≤ Word.largest := by
  rw [elapsedNs_eq_sub]
  exact (Nat.sub_le _ _).trans h

/-- The message fits: there are at most 17 digits to the microseconds of a word. -/
theorem length_longText_le (t : TimerToken) {durationNs : Nat} (h : durationNs ≤ Word.largest) :
    Utf8.length (t.longText durationNs).toList ≤ 256 := by
  have hname := t.operation.length_le
  have hdigits : (durationNs / nsPerUs).repr.toList.length ≤ 17 := by
    rw [String.length_toList]
    refine Nat.repr_length _ _ (by decide) ?_
    unfold Word.largest at h
    unfold nsPerUs
    omega
  have hnumber := Utf8.length_le (durationNs / nsPerUs).repr.toList
  have hopening : Utf8.length "Long operation detected: '".toList = 26 := by decide
  have htook : Utf8.length "' took ".toList = 7 := by decide
  have hunit : Utf8.length " µs".toList = 4 := by decide
  unfold longText
  simp only [String.toList_append, Utf8.length_append, toString]
  omega

end TimerToken

/-- An event about an operation that has taken long: the whole message, with the metric that the
token is bound to. -/
structure Event.TellsOfLong (e : Event) (t : TimerToken) (durationNs : Nat) : Prop where
  severity_eq : e.severity = .performance
  subsystem_eq : e.subsystem = .core
  text_eq : e.payload.message.text = t.longText durationNs
  metric_eq : e.payload.metric = t.metric

namespace MetricValue

variable {v : MetricValue}

theorem eq_timer_of_kind (h : v.kind = .timer) : ∃ stats, v = .timer stats := by
  cases v with
  | timer stats => exact ⟨stats, rfl⟩
  | _ => cases h

theorem recordDuration?_eq_none (h : v.kind ≠ .timer) (durationNs : Nat) :
    v.recordDuration? durationNs = none := by
  cases v with
  | timer => exact absurd rfl h
  | _ => rfl

end MetricValue

namespace Registry

/-- A metric that takes durations is registered under a number. -/
def TakesDurations (r : Registry) (id : MetricId) : Prop :=
  ∃ m, r.find? id = some m ∧ m.enabled = true ∧ m.kind = .timer

instance (r : Registry) (id : MetricId) : Decidable (r.TakesDurations id) :=
  decidable_of_iff ((r.find? id).any fun m => m.enabled && decide (m.kind = .timer)) (by
    simp [TakesDurations, Option.any_eq_true])

variable {r : Registry} {id : MetricId}

theorem recordDuration_of_find? {m : Metric} {stats : TimerStats} (hm : r.find? id = some m)
    (henabled : m.enabled = true) (hvalue : m.value = .timer stats) (durationNs nowNs : Nat) :
    r.recordDuration id durationNs nowNs =
      .ok (r.modify id fun m => m.updated (.timer (stats.record durationNs)) nowNs) := by
  have hrecord : MetricValue.recordDuration? durationNs m.value =
      some (.timer (stats.record durationNs)) := by rw [hvalue]; rfl
  rw [recordDuration, update_of_find? hm henabled nowNs hrecord]
  rfl

/-- What takes no durations refuses all of them for one and the same reason. -/
theorem exists_refusal_of_not_takesDurations (h : ¬r.TakesDurations id) :
    ∃ e, ∀ durationNs nowNs, r.recordDuration id durationNs nowNs = .error e := by
  cases hlive : r.live id with
  | error e =>
    refine ⟨e, fun durationNs nowNs => ?_⟩
    rw [recordDuration, update, hlive]
    rfl
  | ok m =>
    obtain ⟨hm, henabled⟩ := live_ok hlive
    have hkind : m.kind ≠ .timer := fun hkind => h ⟨m, hm, henabled, hkind⟩
    refine ⟨.kindMismatch m.kind, fun durationNs nowNs => ?_⟩
    have hmisfit : m.value.recordDuration? durationNs = none :=
      MetricValue.recordDuration?_eq_none hkind durationNs
    simp only [recordDuration, update, hlive, bind, Except.bind, hmisfit]

end Registry

namespace System

/-- A system that has logged one event, and nothing else, since it was another. -/
structure LogsOne (s : System) (e : Event) (t : System) : Prop where
  ring : ∃ emission : Emission, s.core.events.perform (.push emission) = (some e, t.core.events)
  log_eq : t.env.log = s.env.log ++ [(e.severity.logLevel, e.text)]
  counted : t.core.counters.eventsLogged = s.core.counters.eventsLogged + 1

/-- A system that has logged nothing since it was another. -/
structure LogsNone (s t : System) : Prop where
  ring : t.core.events = s.core.events
  log_eq : t.env.log = s.env.log
  counted : t.core.counters.eventsLogged = s.core.counters.eventsLogged

/-- What stopping a timer leaves in the log: one event about the operation if that has taken 10 ms
or more, else none. -/
def NotesIfLong (s : System) (token : TimerToken) (durationNs : Nat) (t : System) : Prop :=
  if 10 * nsPerMs ≤ durationNs then ∃ e : Event, s.LogsOne e t ∧ e.TellsOfLong token durationNs
  else s.LogsNone t

/-- A system with the metrics of another, and the same account of updates: no more than events have
been counted. -/
structure SameUpdates (s t : System) : Prop where
  registry_eq : t.core.registry = s.core.registry
  counters_eq : t.core.counters =
    { s.core.counters with eventsLogged := t.core.counters.eventsLogged }

/-- A system in which a timer has taken one more duration since it was another, which has been
accounted for, and nothing has happened to the other metrics. -/
structure RecordsDuration (s : System) (id : MetricId) (durationNs : Nat) (t : System) : Prop where
  metric : ∃ m stats nowNs overheadNs, s.core.registry.find? id = some m ∧ m.value = .timer stats ∧
    t.core.registry.find? id =
      some { m.updated (.timer (stats.record durationNs)) nowNs with overheadNs }
  others : ∀ other, other ≠ id → t.core.registry.find? other = s.core.registry.find? other
  pending_eq : t.core.registry.pending = s.core.registry.pending
  counters_eq : ∃ overheadNs, t.core.counters =
    { s.core.counters.recordUpdate overheadNs with eventsLogged := t.core.counters.eventsLogged }

/-- A system in which nothing but metrics, events and counters, and the clock, may be other than
they were. -/
def KeepsRest (s t : System) : Prop :=
  ∃ platform log registry events counters,
    t = { s with
          env.platform := platform
          env.log := log
          core.registry := registry
          core.events := events
          core.counters := counters }

/-- The system between the two parts of stopping a timer: the clock has been read, and a long
operation logged. -/
def noted (s : System) (token : TimerToken) (durationNs : Nat) : System :=
  let t := (Core.readClock.run s).2
  if 10 * nsPerMs ≤ durationNs then ((Core.logLongOperation token durationNs).run t).2 else t

variable {s : System} {token : TimerToken} {durationNs : Nat} {id : MetricId}

/-- A message that fits is logged as it is. -/
theorem notesIfLong_noted (s : System) (token : TimerToken) (h : durationNs ≤ Word.largest) :
    s.NotesIfLong token durationNs (s.noted token durationNs) := by
  unfold NotesIfLong noted
  split
  · let fill (p : Payload) : Payload :=
      { p.setMessage (token.longText durationNs) with metric := token.metric }
    let emission : Emission :=
      { severity := .performance
        subsystem := .core
        origin := (Core.readClock.run s).2.env.platform.origin .performance
        fill }
    obtain ⟨hseverity, hsubsystem, hpayload⟩ :=
      s.core.events.written_push .performance .core emission.origin fill
    have hfits : (fill .blank).message.text = token.longText durationNs :=
      Payload.setMessage_of_length_le _ (token.length_longText_le h)
    refine ⟨(s.core.events.push .performance .core emission.origin fill).1,
      ⟨⟨emission, rfl⟩, ?_, rfl⟩, hseverity, hsubsystem, ?_, ?_⟩
    · rw [hseverity]
      rfl
    · rw [hpayload]
      exact hfits
    · rw [hpayload]
  · exact ⟨rfl, rfl, rfl⟩

/-- The first part touches no metric and no account of updates. -/
theorem noted_eq (s : System) (token : TimerToken) (durationNs : Nat) :
    ∃ platform log events logged, s.noted token durationNs =
      { s with
        env.platform := platform
        env.log := log
        core.events := events
        core.counters.eventsLogged := logged } := by
  unfold noted
  split
  · exact ⟨_, _, _, _, rfl⟩
  · exact ⟨_, _, _, _, rfl⟩

theorem sameUpdates_noted (s : System) (token : TimerToken) (durationNs : Nat) :
    s.SameUpdates (s.noted token durationNs) := by
  obtain ⟨platform, log, events, logged, hnoted⟩ := s.noted_eq token durationNs
  rw [hnoted]
  exact ⟨rfl, rfl⟩

section On

variable (hready : s.core.initialized = true) (hon : s.core.enabled = true)

include hready hon

theorem call_updateTimer_ok {m : Metric} {stats : TimerStats}
    (hm : s.core.registry.find? id = some m) (henabled : m.enabled = true)
    (hvalue : m.value = .timer stats) (durationNs : Nat) :
    ∃ nowNs overheadNs platform, s.call (Core.updateTimer id durationNs) =
      (.ok (),
        { s with
          env.platform := platform
          core.registry := (s.core.registry.modify id fun m =>
            m.updated (.timer (stats.record durationNs)) nowNs).noteOverhead id overheadNs
          core.counters := s.core.counters.recordUpdate overheadNs }) := by
  have hrecord := Registry.recordDuration_of_find? hm henabled hvalue durationNs
  obtain ⟨overheadNs, platform, hrun⟩ := @call_applyUpdate_ok s id _
    (fun r now => (r.recordDuration id durationNs now).map ((), ·)) hready hon () _
    (by rw [hrecord]; rfl)
  exact ⟨_, overheadNs, platform, call_andThen_ok hrun⟩

theorem call_updateTimer_error {e : TelemetryError}
    (hrefused : ∀ nowNs, s.core.registry.recordDuration id durationNs nowNs = .error e) :
    s.call (Core.updateTimer id durationNs) = (.error e, (Core.readClock.run s).2) :=
  call_andThen_error (@call_applyUpdate_error s id _
    (fun r now => (r.recordDuration id durationNs now).map ((), ·)) hready hon e
    (by rw [hrefused]; rfl))

/-- Stopping a timer is its two parts one after the other. -/
theorem call_stopTimer (token : TimerToken) :
    let durationNs := token.elapsedNs (Core.readClock.run s).1
    s.call (Core.stopTimer token) =
      (s.noted token durationNs).call
        (match token.metric with
          | some id => Core.updateTimer id durationNs >>= fun _ => pure durationNs
          | none => pure durationNs) := by
  dsimp only
  rw [token.elapsedNs_eq_sub]
  unfold Core.stopTimer noted
  rw [call_ready hready, call_lift_andThen, call_get_andThen, if_pos (by exact hon)]
  by_cases hlong : longOperationNs ≤ (Core.readClock.run s).1 - token.startNs
  · have hlong' : 10 * nsPerMs ≤ (Core.readClock.run s).1 - token.startNs := hlong
    simp only [hlong, hlong', if_true]
    rfl
  · have hlong' : ¬10 * nsPerMs ≤ (Core.readClock.run s).1 - token.startNs := hlong
    cases token.metric <;> simp only [hlong, hlong', if_false]

end On

/-- What stopping a timer comes to with the master switch on: the answer, and the system after
it. -/
structure Stops (s : System) (token : TimerToken) (durationNs : Nat)
    (stop : Except TelemetryError Nat × System) : Prop where
  notes : s.NotesIfLong token durationNs stop.2
  rest : s.KeepsRest stop.2
  unbound : token.metric = none → stop.1 = .ok durationNs ∧ s.SameUpdates stop.2
  recorded : ∀ id, token.metric = some id → s.core.registry.TakesDurations id →
    stop.1 = .ok durationNs ∧ s.RecordsDuration id durationNs stop.2
  refused : ∀ id, token.metric = some id → ¬s.core.registry.TakesDurations id →
    ∃ e, (s.call (Core.updateTimer id durationNs)).1 = .error e ∧ stop.1 = .error e ∧
      s.SameUpdates stop.2

/-- What has been noted stays when nothing more is logged. -/
theorem NotesIfLong.of_eq {t u : System} (h : s.NotesIfLong token durationNs u)
    (hevents : t.core.events = u.core.events) (hlog : t.env.log = u.env.log)
    (hcounted : t.core.counters.eventsLogged = u.core.counters.eventsLogged) :
    s.NotesIfLong token durationNs t := by
  unfold NotesIfLong at h ⊢
  split at h
  · rename_i hlong
    obtain ⟨e, hone, htells⟩ := h
    rw [if_pos hlong]
    exact ⟨e, ⟨by rw [hevents]; exact hone.ring, hlog.trans hone.log_eq,
      hcounted.trans hone.counted⟩, htells⟩
  · rename_i hshort
    rw [if_neg hshort]
    exact ⟨hevents.trans h.ring, hlog.trans h.log_eq, hcounted.trans h.counted⟩

section On

variable (hready : s.core.initialized = true) (hon : s.core.enabled = true)

include hready hon

/-- A duration that a timer takes is recorded behind the note, which the update leaves alone. -/
theorem call_updateTimer_noted (token : TimerToken) (durationNs : Nat)
    (h : s.core.registry.TakesDurations id) :
    ∃ t, (s.noted token durationNs).call (Core.updateTimer id durationNs) = (.ok (), t) ∧
      s.RecordsDuration id durationNs t ∧ s.KeepsRest t ∧
      t.core.events = (s.noted token durationNs).core.events ∧
      t.env.log = (s.noted token durationNs).env.log ∧
      t.core.counters.eventsLogged = (s.noted token durationNs).core.counters.eventsLogged := by
  obtain ⟨platform, log, events, logged, hnoted⟩ := s.noted_eq token durationNs
  rw [hnoted]
  obtain ⟨m, hm, henabled, hkind⟩ := h
  obtain ⟨stats, hvalue⟩ := MetricValue.eq_timer_of_kind hkind
  obtain ⟨nowNs, overheadNs, platform', hrun⟩ := @call_updateTimer_ok
    { s with
      env.platform := platform
      env.log := log
      core.events := events
      core.counters.eventsLogged := logged } id hready hon m stats hm henabled hvalue durationNs
  refine ⟨_, hrun, ⟨⟨m, stats, nowNs, overheadNs, hm, hvalue, ?_⟩, fun other hne => ?_, ?_,
    overheadNs, rfl⟩, ⟨_, _, _, _, _, rfl⟩, rfl, rfl, rfl⟩
  · simp only [Registry.noteOverhead, Registry.find?_modify, if_true, hm, Option.map_some]
  · simp only [Registry.noteOverhead, Registry.find?_modify, if_neg hne]
  · simp only [Registry.noteOverhead, Registry.modify]
    split <;> rfl

/-- A duration that is refused is so for the reason for which it would be without a note, and leaves
no more than the note. -/
theorem call_updateTimer_noted_refused (token : TimerToken) (durationNs : Nat)
    (h : ¬s.core.registry.TakesDurations id) :
    ∃ e platform, (s.call (Core.updateTimer id durationNs)).1 = .error e ∧
      (s.noted token durationNs).call (Core.updateTimer id durationNs) =
        (.error e, { s.noted token durationNs with env.platform := platform }) := by
  obtain ⟨e, hrefused⟩ := Registry.exists_refusal_of_not_takesDurations h
  obtain ⟨platform, log, events, logged, hnoted⟩ := s.noted_eq token durationNs
  have hready' : (s.noted token durationNs).core.initialized = true := by rw [hnoted]; exact hready
  have hon' : (s.noted token durationNs).core.enabled = true := by rw [hnoted]; exact hon
  have hregistry : (s.noted token durationNs).core.registry = s.core.registry := by rw [hnoted]
  refine ⟨e, _, ?_, call_updateTimer_error hready' hon' fun nowNs => ?_⟩
  · rw [call_updateTimer_error hready hon (hrefused durationNs)]
  · rw [hregistry, hrefused]

/-- With the master switch on, the answer hangs on the metric that the token is bound to, and the
note does not. -/
theorem stops (token : TimerToken) :
    s.Stops token (token.elapsedNs (Core.readClock.run s).1) (s.call (Core.stopTimer token)) := by
  rw [call_stopTimer hready hon]
  have hle : token.elapsedNs (Core.readClock.run s).1 ≤ Word.largest :=
    TimerToken.elapsedNs_le (readClock_le s)
  generalize token.elapsedNs (Core.readClock.run s).1 = durationNs at hle
  have hnotes := s.notesIfLong_noted token hle
  have hsame := s.sameUpdates_noted token durationNs
  obtain ⟨platform, log, events, logged, hnoted⟩ := s.noted_eq token durationNs
  have hrest : s.KeepsRest (s.noted token durationNs) := ⟨_, _, _, _, _, hnoted⟩
  cases hmetric : token.metric with
  | none =>
    refine ⟨hnotes, hrest, fun _ => ⟨rfl, hsame⟩, fun id hid => ?_, fun id hid => ?_⟩
    · cases hmetric.symm.trans hid
    · cases hmetric.symm.trans hid
  | some id =>
    dsimp only
    by_cases htakes : s.core.registry.TakesDurations id
    · obtain ⟨t, hrun, hrecords, hrest', hevents, hlog, hcounted⟩ :=
        call_updateTimer_noted hready hon token durationNs htakes
      rw [call_andThen_ok hrun]
      refine ⟨hnotes.of_eq hevents hlog hcounted, hrest', fun hnone => ?_, fun other hother _ => ?_,
        fun other hother hnot => ?_⟩
      · cases hmetric.symm.trans hnone
      · cases hmetric.symm.trans hother
        exact ⟨rfl, hrecords⟩
      · cases hmetric.symm.trans hother
        exact absurd htakes hnot
    · obtain ⟨e, platform', hrefused, hrun⟩ :=
        call_updateTimer_noted_refused hready hon token durationNs htakes
      rw [call_andThen_error hrun]
      refine ⟨hnotes.of_eq rfl rfl rfl, ?_, fun hnone => ?_, fun other hother htakes' => ?_,
        fun other hother _ => ?_⟩
      · rw [hnoted]
        exact ⟨_, _, _, _, _, rfl⟩
      · cases hmetric.symm.trans hnone
      · cases hmetric.symm.trans hother
        exact absurd htakes' htakes
      · cases hmetric.symm.trans hother
        exact ⟨e, hrefused, rfl, hsame.registry_eq, hsame.counters_eq⟩

end On

/-- **What stopping a timer comes to.** The duration is the time that has passed since the token was
made, or none if the clock has gone back. A core that has been shut down refuses, and one whose
master switch is off answers the duration and touches nothing. Otherwise an operation of 10 ms or
more is logged in one event that names it, as the token keeps its name, with its microseconds, and a
shorter one is not, whatever becomes of the update of the metric: an enabled timer takes the
duration as one more, and a token without a metric is answered at once; what is no enabled timer
refuses the duration with the error of an update, and all metrics and the account of updates stay as
they are. -/
theorem stopping_notes_and_records (s : System) (token : TimerToken) :
    let durationNs := token.elapsedNs (Core.readClock.run s).1
    let stop := s.call (Core.stopTimer token)
    (s.core.initialized = false → stop = (.error .notInitialized, s)) ∧
      (s.core.initialized = true → s.core.enabled = false →
        stop = (.ok durationNs, { s with env.platform := s.env.platform.readClock.2 })) ∧
      (s.core.initialized = true → s.core.enabled = true → s.Stops token durationNs stop) := by
  refine ⟨fun hunready => call_unready hunready _, fun hready hoff => ?_,
    fun hready hon => stops hready hon token⟩
  rw [token.elapsedNs_eq_sub]
  unfold Core.stopTimer
  rw [call_ready hready, call_lift_andThen, call_get_andThen]
  have hoff' : ¬(Core.readClock.run s).2.core.enabled = true := Bool.eq_false_iff.1 hoff
  rw [if_neg hoff']
  rfl

/-- An operation of 25 ms is logged for a timer, which takes it, and as well for a gauge, which does
not. -/
theorem stopping_notes_and_records_of_slow :
    ∃ s : System, s.Reachable ∧
      (let token : TimerToken :=
        { operation := .ofString "nvme_load", startNs := 0,
          metric := some s.core.predefined.driverLoadTime }
      ∃ t e, s.call (Core.stopTimer token) = (.ok 25000000, t) ∧ s.LogsOne e t ∧
        e.payload.message.text = "Long operation detected: 'nvme_load' took 25000 µs" ∧
        s.RecordsDuration s.core.predefined.driverLoadTime 25000000 t) ∧
      let token : TimerToken :=
        { operation := .ofString "probe", startNs := 0, metric := some s.core.predefined.cpuUsage }
      ∃ t e, s.call (Core.stopTimer token) = (.error (.kindMismatch .gauge), t) ∧
        s.LogsOne e t ∧ s.SameUpdates t := by
  obtain ⟨core, env', hstart, hstate⟩ := Core.exists_start 0 .manual
    { platform := { clockNs := 25000000 } }
    (fun s => decide (s.core.initialized = true ∧ s.core.enabled = true ∧
      (Core.readClock.run s).1 = 25000000 ∧
      s.core.registry.TakesDurations s.core.predefined.driverLoadTime ∧
      ¬s.core.registry.TakesDurations s.core.predefined.cpuUsage ∧
      (s.call (Core.updateTimer s.core.predefined.cpuUsage 25000000)).1 =
        .error (.kindMismatch .gauge)))
    (by decide +kernel)
  obtain ⟨hready, hon, hclock, htakes, hmisfit, hrefused⟩ := of_decide_eq_true hstate
  have hstops (token : TimerToken) (hstart : token.startNs = 0) :
      System.Stops { env := env', core } token 25000000
        (System.call { env := env', core } (Core.stopTimer token)) := by
    have hstops := (stopping_notes_and_records { env := env', core } token).2.2 hready hon
    rwa [token.elapsedNs_eq_sub, hclock, hstart] at hstops
  refine ⟨_, .started hstart, ?_, ?_⟩
  · intro token
    have hloaded := hstops token rfl
    obtain ⟨hanswer, hrecords⟩ := hloaded.recorded _ rfl htakes
    obtain ⟨e, hone, htells⟩ := hloaded.notes
    refine ⟨_, e, Prod.ext hanswer rfl, hone, htells.text_eq.trans ?_, hrecords⟩
    change TimerToken.longText { operation := .ofString "nvme_load", startNs := 0 } 25000000 = _
    decide +kernel
  · intro token
    have hprobed := hstops token rfl
    obtain ⟨_, hupdate, hanswer, hsame⟩ := hprobed.refused _ rfl hmisfit
    cases hrefused.symm.trans hupdate
    obtain ⟨e, hone, -⟩ := hprobed.notes
    exact ⟨_, e, Prod.ext hanswer rfl, hone, hsame⟩

end System

end DriverTelemetry
