import DriverTelemetry.Proofs.MetricHistory
import DriverTelemetry.Proofs.SmallSteps

/-!
# What becomes of a metric update

A core applies an update of a metric, refuses it or ignores it. `System.disposition` says which of
these, and why, by checks that come in a fixed order: whether the core accepts calls, its master
switch, the number, the metric, the switch of the metric, its kind. Nothing is touched before the
last of them, so an update that is not applied leaves no trace but the readings of the clock.
-/

namespace DriverTelemetry

/-- Whether a change fits a kind of metric. -/
def Change.fits : Change → MetricKind → Bool
  | .added _, kind => kind.isCounterLike
  | .set _, kind | .adjusted _, kind => kind.isGaugeLike
  | .sampled _, kind => kind == .histogram
  | .timed _, kind => kind == .timer

theorem MetricValue.fits_iff (c : Change) (v : MetricValue) :
    c.fits v.kind = true ↔ ∃ w, v.apply? c = some w := by
  cases c <;> cases v <;>
    simp [Change.fits, MetricKind.isCounterLike, MetricKind.isGaugeLike, kind, MetricValue.apply?,
      addCount?, setLevel?, adjustLevel?, recordSample?, recordDuration?]

/-- What becomes of an update. -/
inductive Disposition where
  | refused (e : TelemetryError)
  | ignored
  | applied
  deriving DecidableEq

def Disposition.answer : Disposition → Except TelemetryError Unit
  | refused e => .error e
  | ignored | applied => .ok ()

namespace Registry

/-- Why a registry refuses a change, if it does. -/
def refusal? (r : Registry) (id : MetricId) (c : Change) : Option TelemetryError :=
  if id.number = 0 then some (.invalidParam "metric id 0")
  else
    match r.find? id with
    | none => some .notFound
    | some m =>
      if !m.enabled then some (.invalidParam "metric disabled")
      else if !c.fits m.kind then some (.kindMismatch m.kind)
      else none

variable {r : Registry} {id : MetricId} {c : Change}

/-- A change fails where the update of the value does: whatever else it does does not fail. -/
theorem change_error {e : TelemetryError} {nowNs : Nat}
    (h : r.update id nowNs (fun v => v.apply? c) = .error e) : r.change id c nowNs = .error e := by
  cases c with
  | added amount | sampled sample | timed durationNs => exact congrArg (· >>= _) h
  | set level =>
    have hset : r.setLevel id level.toInt nowNs = .error e := congrArg (· >>= _) h
    exact congrArg (Except.map _) hset
  | adjusted delta =>
    have hadjust : r.adjustLevel id delta.toInt nowNs = .error e := congrArg (· >>= _) h
    exact congrArg (Except.map _) hadjust

theorem change_accepted {m : Metric} {after : Registry} {nowNs : Nat}
    (h : r.update id nowNs (fun v => v.apply? c) = .ok (m, after)) :
    ∃ r', r.change id c nowNs = .ok r' := by
  cases c with
  | added amount | sampled sample | timed durationNs => exact ⟨_, congrArg (· >>= _) h⟩
  | set level =>
    have hset : r.setLevel id level.toInt nowNs = .ok _ := congrArg (· >>= _) h
    exact ⟨_, congrArg (Except.map _) hset⟩
  | adjusted delta =>
    have hadjust : r.adjustLevel id delta.toInt nowNs = .ok _ := congrArg (· >>= _) h
    exact ⟨_, congrArg (Except.map _) hadjust⟩

/-- The update of the value fails for the reason for which the change is refused, and otherwise
succeeds. -/
theorem update_of_refusal? (r : Registry) (id : MetricId) (c : Change) (nowNs : Nat) :
    match r.refusal? id c with
    | some e => r.update id nowNs (fun v => v.apply? c) = .error e
    | none => ∃ m after, r.update id nowNs (fun v => v.apply? c) = .ok (m, after) := by
  unfold refusal? update live
  by_cases hid : id.number = 0
  · simp only [if_pos hid]
    rfl
  · simp only [if_neg hid]
    cases r.find? id with
    | none => rfl
    | some m =>
      have hfits : c.fits m.kind = true ↔ _ := MetricValue.fits_iff c m.value
      cases henabled : m.enabled with
      | false =>
        simp only [henabled]
        rfl
      | true =>
        cases hvalue : m.value.apply? c with
        | none =>
          have hmisfit : c.fits m.kind = false := by simp [← Bool.not_eq_true, hfits, hvalue]
          simp only [henabled, hmisfit, bind, Except.bind, if_true, hvalue]
          rfl
        | some value =>
          have hfit : c.fits m.kind = true := hfits.2 ⟨value, hvalue⟩
          simp only [henabled, hfit, bind, Except.bind, if_true, hvalue]
          exact ⟨_, _, rfl⟩

theorem change_of_refusal? (r : Registry) (id : MetricId) (c : Change) (nowNs : Nat) :
    match r.refusal? id c with
    | some e => r.change id c nowNs = .error e
    | none => ∃ r', r.change id c nowNs = .ok r' := by
  have hupdate := update_of_refusal? r id c nowNs
  cases hrefusal : r.refusal? id c with
  | some e =>
    rw [hrefusal] at hupdate
    exact change_error hupdate
  | none =>
    rw [hrefusal] at hupdate
    obtain ⟨m, after, hok⟩ := hupdate
    exact change_accepted hok

end Registry

/-- The call that updates a metric by a change. -/
def Core.update (id : MetricId) : Change → Call Unit
  | .added amount => updateCounter id amount.toNat
  | .set level => updateGauge id level.toInt
  | .adjusted delta => adjustGauge id delta.toInt
  | .sampled sample => recordHistogram id sample.toNat
  | .timed durationNs => updateTimer id durationNs.toNat

namespace System

/-- What becomes of a change of a metric: the checks in their order. -/
def disposition (s : System) (id : MetricId) (c : Change) : Disposition :=
  if !s.core.initialized then .refused .notInitialized
  else if !s.core.enabled then .ignored
  else
    match s.core.registry.refusal? id c with
    | some e => .refused e
    | none => .applied

/-- A system in which a change has been made: it is counted, the metric has the new value, and the
other metrics are what they were. -/
structure Changes (s : System) (id : MetricId) (c : Change) (t : System) : Prop where
  metric : ∃ before after, s.core.registry.find? id = some before ∧
    t.core.registry.find? id = some after ∧ before.value.apply? c = some after.value ∧
    after.updateCount = before.updateCount + 1
  others : ∀ other, other ≠ id → t.core.registry.find? other = s.core.registry.find? other
  collected : t.core.counters.metricsCollected = s.core.counters.metricsCollected + 1

variable {s t : System} {id : MetricId} {c : Change}

/-- A call that reports on an update and leaves metrics and the count of updates alone. -/
def Reports (c : Call Unit) : Prop :=
  ∀ s : System, ∃ t, s.call c = (.ok (), t) ∧ t.core.registry = s.core.registry ∧
    t.core.counters.metricsCollected = s.core.counters.metricsCollected

theorem reports_pure : Reports (pure ()) := fun s => ⟨s, rfl, rfl, rfl⟩

theorem reports_reportAnomaly (v : Anomaly.Verdict) : Reports (liftM (Core.reportAnomaly v)) :=
  fun _ => ⟨_, rfl, rfl, rfl⟩

section ApplyUpdate

variable {α : Type} {f : Registry → Nat → Except TelemetryError (α × Registry)}

theorem call_applyUpdate_unready (h : s.core.initialized = false) :
    s.call (Core.applyUpdate id f) = (.error .notInitialized, s) := by
  have hrun : s.call (Core.applyUpdate id f) = s.call (Core.ensureReady >>= fun _ => _) := rfl
  rw [hrun, call_unready h]

theorem call_applyUpdate_off (hready : s.core.initialized = true) (h : s.core.enabled = false) :
    s.call (Core.applyUpdate id f) = (.ok none, s) := by
  have hrun : s.call (Core.applyUpdate id f) = s.call (Core.ensureReady >>= fun _ => _) := rfl
  rw [hrun, call_ready hready, call_get_andThen, if_neg (by simp [h])]
  rfl

theorem call_applyUpdate_error (hready : s.core.initialized = true)
    (hon : s.core.enabled = true) {e : TelemetryError}
    (h : f s.core.registry (Core.readClock.run s).1 = .error e) :
    s.call (Core.applyUpdate id f) = (.error e, (Core.readClock.run s).2) := by
  have hrun : s.call (Core.applyUpdate id f) = s.call (Core.ensureReady >>= fun _ => _) := rfl
  rw [hrun, call_ready hready, call_get_andThen, if_pos hon]
  rw [call_lift_andThen]
  exact call_andThen_error (call_onRegistry_error h)

/-- An update that the registry applies is timed by a second reading of the clock. -/
theorem call_applyUpdate_ok (hready : s.core.initialized = true) (hon : s.core.enabled = true)
    {a : α} {r : Registry} (h : f s.core.registry (Core.readClock.run s).1 = .ok (a, r)) :
    ∃ overheadNs platform, s.call (Core.applyUpdate id f) =
      (.ok (some a),
        { s with
          env.platform := platform
          core.registry := r.noteOverhead id overheadNs
          core.counters := s.core.counters.recordUpdate overheadNs }) := by
  have hrun : s.call (Core.applyUpdate id f) = s.call (Core.ensureReady >>= fun _ => _) := rfl
  rw [hrun, call_ready hready, call_get_andThen, if_pos hon]
  rw [call_lift_andThen]
  rw [call_andThen_ok (call_onRegistry_ok h), call_lift_andThen]
  exact ⟨_, _, rfl⟩

/-- A change made by the registry, with its cost noted, is one made by the core. -/
theorem Changes.of_change {nowNs overheadNs : Nat} {r : Registry}
    (h : s.core.registry.change id c nowNs = .ok r)
    (hregistry : t.core.registry = r.noteOverhead id overheadNs)
    (hcollected : t.core.counters.metricsCollected = s.core.counters.metricsCollected + 1) :
    s.Changes id c t := by
  obtain ⟨m, value, hfind, -, hvalue, hmetrics⟩ := Registry.change_ok h
  have hafter : ∀ other, t.core.registry.find? other =
      if other = id then some { m.updated value nowNs with overheadNs }
      else s.core.registry.find? other := by
    intro other
    rw [hregistry, Registry.noteOverhead, Registry.find?_modify,
      Registry.find?_of_metrics_eq hmetrics, Registry.find?_modify]
    by_cases heq : other = id
    · subst heq
      rw [if_pos rfl, if_pos rfl, if_pos rfl, hfind]
      rfl
    · rw [if_neg heq, if_neg heq, if_neg heq]
  refine ⟨⟨m, _, hfind, by rw [hafter, if_pos rfl], hvalue, rfl⟩, fun other hne => ?_, hcollected⟩
  rw [hafter, if_neg hne]

/-- An update through the registry, followed by a report on it, is answered by its disposition. -/
theorem call_applyUpdate_andThen {report : Option α → Call Unit}
    (hf : ∀ r nowNs, (f r nowNs).map (·.2) = r.change id c nowNs) (hnone : report none = pure ())
    (hsome : ∀ a, Reports (report (some a))) :
    ∃ t, s.call (Core.applyUpdate id f >>= report) = ((s.disposition id c).answer, t) ∧
      (s.disposition id c ≠ .applied → ∃ platform, t = { s with env.platform := platform }) ∧
      (s.disposition id c = .applied → s.Changes id c t) := by
  unfold disposition
  cases hready : s.core.initialized with
  | false =>
    rw [call_andThen_error (call_applyUpdate_unready hready)]
    exact ⟨s, rfl, fun _ => ⟨_, rfl⟩, fun h => by cases h⟩
  | true =>
    cases hon : s.core.enabled with
    | false =>
      rw [call_andThen_ok (call_applyUpdate_off hready hon), hnone]
      exact ⟨s, rfl, fun _ => ⟨_, rfl⟩, fun h => by cases h⟩
    | true =>
      have hchange := s.core.registry.change_of_refusal? id c (Core.readClock.run s).1
      rw [← hf] at hchange
      cases hrefusal : s.core.registry.refusal? id c with
      | some e =>
        rw [hrefusal] at hchange
        cases hanswer : f s.core.registry (Core.readClock.run s).1 with
        | ok answer =>
          rw [hanswer] at hchange
          cases hchange
        | error e' =>
          rw [hanswer] at hchange
          cases hchange
          rw [call_andThen_error (call_applyUpdate_error hready hon hanswer)]
          exact ⟨_, rfl, fun _ => ⟨_, rfl⟩, fun h => by cases h⟩
      | none =>
        rw [hrefusal] at hchange
        obtain ⟨r, hchange⟩ := hchange
        obtain ⟨⟨a, after⟩, hok, rfl⟩ := Registry.map_eq_ok hchange
        obtain ⟨overheadNs, platform, hrun⟩ := @call_applyUpdate_ok s id _ f hready hon _ _ hok
        obtain ⟨t, hreport, hregistry, hcollected⟩ := hsome a _
        rw [call_andThen_ok hrun, hreport]
        refine ⟨t, rfl, fun h => absurd rfl h, fun _ => ?_⟩
        exact .of_change ((hf _ _).symm.trans hchange) hregistry hcollected

end ApplyUpdate

/-- An update of a metric answers by its disposition: refused for the first check that it fails,
accepted otherwise. Unless it is applied, it leaves the whole core and everything around it but the
clock as they were; if it is, the metric has the new value and nothing happens to the others. -/
theorem call_update (s : System) (id : MetricId) (c : Change) :
    ∃ t, s.call (Core.update id c) = ((s.disposition id c).answer, t) ∧
      (s.disposition id c ≠ .applied → ∃ platform, t = { s with env.platform := platform }) ∧
      (s.disposition id c = .applied → s.Changes id c t) := by
  have hmap : ∀ (x : Except TelemetryError Registry), (x.map ((), ·)).map (·.2) = x := by
    intro x
    cases x <;> rfl
  cases c with
  | added amount | sampled sample | timed durationNs =>
    exact call_applyUpdate_andThen (fun r nowNs => hmap _) rfl fun _ => reports_pure
  | adjusted delta =>
    exact call_applyUpdate_andThen (fun r nowNs => rfl) rfl fun _ => reports_pure
  | set level =>
    refine call_applyUpdate_andThen (fun r nowNs => rfl) rfl fun verdict => ?_
    cases verdict with
    | none => exact reports_pure
    | some v => exact reports_reportAnomaly v

end System

end DriverTelemetry
