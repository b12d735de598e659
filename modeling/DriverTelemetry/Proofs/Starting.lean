import DriverTelemetry.Core.Start
import DriverTelemetry.Proofs.Evaluation

/-!
# Starting a core

A start without collectors succeeds once the tables have been created, if the registry has room for
the predefined metrics. The core then has no drivers and no restart hook.
-/

namespace DriverTelemetry

namespace System

/-- A system that differs from another in `n` more metrics, but not in its standing or its
drivers. -/
structure Registers (s : System) (n : Nat) (t : System) : Prop extends s.SameStanding t where
  health_eq : t.core.health = s.core.health
  capacity_eq : t.core.registry.capacity = s.core.registry.capacity
  length_eq : t.core.registry.metrics.length = s.core.registry.metrics.length + n

theorem Registers.trans {s t u : System} {m n : Nat} (h₁ : s.Registers m t)
    (h₂ : t.Registers n u) : s.Registers (m + n) u where
  toSameStanding := h₁.toSameStanding.trans h₂.toSameStanding
  health_eq := h₂.health_eq.trans h₁.health_eq
  capacity_eq := h₂.capacity_eq.trans h₁.capacity_eq
  length_eq := by rw [h₂.length_eq, h₁.length_eq, Nat.add_assoc]

end System

theorem Registry.register_of_room {r : Registry} {name : String} (hname : name.isEmpty = false)
    (hroom : r.metrics.length < r.capacity) (description : String) (kind : MetricKind)
    (subsystem : Subsystem) (nowNs : Nat) :
    ∃ m : Metric, r.register name description kind subsystem nowNs =
      .ok (⟨r.metrics.length + 1⟩, { r with metrics := r.metrics ++ [m] }) := by
  unfold register
  rw [if_neg (by simp [hname]), if_neg (by omega)]
  exact ⟨_, rfl⟩

namespace Core

variable {s : System}

/-- A metric with a name is registered while there is room. -/
theorem registerMetric_ok (hready : s.core.initialized = true) {name : String}
    (hname : name.isEmpty = false)
    (hroom : s.core.registry.metrics.length < s.core.registry.capacity) (description : String)
    (kind : MetricKind) (subsystem : Subsystem) :
    ∃ id t, s.call (registerMetric name description kind subsystem) = (.ok id, t) ∧
      s.Registers 1 t := by
  let read := (readClock.run s).2
  let register : Registry → Except TelemetryError (MetricId × Registry) :=
    (·.register name description kind subsystem (readClock.run s).1)
  obtain ⟨m, hok⟩ := Registry.register_of_room (r := read.core.registry) hname hroom description
    kind subsystem (readClock.run s).1
  have hregister : read.call (onRegistry register) = _ := System.call_onRegistry_ok hok
  have hstart : s.call (registerMetric name description kind subsystem) =
      s.call (ensureReady >>= fun _ => _) := rfl
  rw [hstart, System.call_ready hready]
  change ∃ id t, read.call (onRegistry register >>= fun _ => _) = (.ok id, t) ∧ _
  rw [System.call_andThen_ok hregister]
  exact ⟨_, _, rfl, ⟨rfl, rfl, rfl⟩, rfl, rfl, List.length_append⟩

/-- What holds of the rest of a call after any registration holds of the whole, while there is
room. -/
theorem registerMetric_andThen {β : Type} {P : Except TelemetryError β × System → Prop}
    {f : MetricId → Call β} {r : System} {n : Nat} (hs : r.Registers n s)
    (hready : r.core.initialized = true) {name : String} (hname : name.isEmpty = false)
    (hroom : r.core.registry.metrics.length + n < r.core.registry.capacity) {description : String}
    {kind : MetricKind} {subsystem : Subsystem}
    (hrest : ∀ id t, r.Registers (n + 1) t → P (t.call (f id))) :
    P (s.call (registerMetric name description kind subsystem >>= f)) := by
  have hroom' : s.core.registry.metrics.length < s.core.registry.capacity := by
    rw [hs.length_eq, hs.capacity_eq]
    exact hroom
  obtain ⟨id, t, hcall, ht⟩ :=
    registerMetric_ok (hs.initialized_eq.trans hready) hname hroom' description kind subsystem
  rw [System.call_andThen_ok hcall]
  exact hrest id t (hs.trans ht)

theorem registerPredefined_ok (hready : s.core.initialized = true)
    (hroom : s.core.registry.metrics.length + 8 ≤ s.core.registry.capacity) :
    ∃ t, s.call registerPredefined = (.ok (), t) ∧ s.Registers 8 t := by
  have hstart : s.Registers 0 s := ⟨⟨rfl, rfl, rfl⟩, rfl, rfl, rfl⟩
  let P : Except TelemetryError Unit × System → Prop :=
    fun p => ∃ t, p = (.ok (), t) ∧ s.Registers 8 t
  change P (s.call registerPredefined)
  refine registerMetric_andThen hstart hready (by decide) (by omega) fun _ s₁ h₁ => ?_
  refine registerMetric_andThen h₁ hready (by decide) (by omega) fun _ s₂ h₂ => ?_
  refine registerMetric_andThen h₂ hready (by decide) (by omega) fun _ s₃ h₃ => ?_
  refine registerMetric_andThen h₃ hready (by decide) (by omega) fun _ s₄ h₄ => ?_
  refine registerMetric_andThen h₄ hready (by decide) (by omega) fun _ s₅ h₅ => ?_
  refine registerMetric_andThen h₅ hready (by decide) (by omega) fun _ s₆ h₆ => ?_
  refine registerMetric_andThen h₆ hready (by decide) (by omega) fun _ s₇ h₇ => ?_
  refine registerMetric_andThen h₇ hready (by decide) (by omega) fun _ s₈ h₈ => ?_
  exact ⟨_, rfl, ⟨h₈.config_eq, h₈.initialized_eq, h₈.restartHook_eq⟩, h₈.health_eq,
    h₈.capacity_eq, h₈.length_eq⟩

theorem log_ok (hready : s.core.initialized = true) (severity : Severity) (subsystem : Subsystem)
    (message : String) :
    ∃ id t, s.call (log severity subsystem message) = (.ok id, t) ∧ s.SameStanding t ∧
      t.core.health = s.core.health := by
  have hstart : s.call (log severity subsystem message) = s.call (ensureReady >>= fun _ => _) := rfl
  rw [hstart, System.call_ready hready]
  exact ⟨_, _, rfl, ⟨rfl, rfl, rfl⟩, rfl⟩

theorem announce_ok (hready : s.core.initialized = true) :
    ∃ t, s.call announce = (.ok (), t) ∧ s.SameStanding t ∧ t.core.health = s.core.health := by
  have hget : s.call (get : Call System) = (.ok s, s) := rfl
  have hlog : ∀ message, ∃ t,
      s.call (do let _ ← log .info .core message : Call Unit) = (.ok (), t) ∧
      s.SameStanding t ∧ t.core.health = s.core.health := by
    intro message
    obtain ⟨id, t, hlog, hsame, hhealth⟩ := log_ok hready .info .core message
    rw [System.call_andThen_ok hlog]
    exact ⟨t, rfl, hsame, hhealth⟩
  unfold announce
  rw [System.call_andThen_ok hget]
  exact hlog _

/-- A start without collectors succeeds once the tables have been created, if there is room for the
predefined metrics. -/
theorem start_without_collectors {number : Nat} {config : Config} {env : Environment}
    {tables : Tables} {r : Reservation} (hvalid : config.validate = .ok ())
    (hacquired : (acquireTables config).run.run { env } = (.ok tables, r))
    (hcollectors : collectorsOf config = [])
    (hroom : tables.registry.metrics.length + 8 ≤ tables.registry.capacity) :
    ∃ core env', start number config env = (.ok core, env') ∧ core.initialized = true ∧
      core.config = config ∧ core.health = { alerts := config.alerts } ∧
      core.restartHook = none := by
  let s : System := { env := r.env, core := ofTables number config tables r.bytes }
  obtain ⟨t, hcall, ht⟩ := registerPredefined_ok (s := s) rfl hroom
  have hconfig : t.core.config = config := ht.config_eq
  have hboot : s.call bootstrap = (.ok (), t) := by
    have hrun : s.call bootstrap = s.call (registerPredefined >>= fun _ => _) := rfl
    rw [hrun, System.call_andThen_ok hcall]
    change t.call ((collectorsOf t.core.config).forM startCollector) = _
    rw [hconfig, hcollectors]
    rfl
  have hready : t.core.initialized = true := ht.initialized_eq
  obtain ⟨u, hannounce, hu, hhealth⟩ := announce_ok hready
  have hcomplete : complete s = (.ok (), u) := by
    unfold complete
    rw [hboot]
    exact hannounce
  have hstart : start number config env = (.ok u.core, u.env) := by
    unfold start prepare
    rw [hvalid]
    dsimp only
    rw [hacquired]
    dsimp only
    rw [hcomplete]
  refine ⟨u.core, u.env, hstart, hu.initialized_eq.trans hready,
    hu.config_eq.trans hconfig, hhealth.trans ht.health_eq, ?_⟩
  exact hu.restartHook_eq.trans ht.restartHook_eq

/-- What a core has come to after its start, if it has started. -/
theorem exists_start (number : Nat) (config : Config) (env : Environment) (P : System → Bool)
    (h : (match start number config env with
      | (.ok core, env') => P { env := env', core }
      | (.error _, _) => false) = true) :
    ∃ core env', start number config env = (.ok core, env') ∧
      P { env := env', core } = true := by
  cases hstart : start number config env with
  | mk outcome env' =>
    rw [hstart] at h
    cases outcome with
    | ok core => exact ⟨core, env', rfl, h⟩
    | error e => cases h

end Core

end DriverTelemetry
