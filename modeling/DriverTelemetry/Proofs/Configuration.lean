import DriverTelemetry.Config.Reader
import DriverTelemetry.Proofs.EventLog
import DriverTelemetry.Proofs.HealthCalls
import DriverTelemetry.Proofs.MetricHistory
import DriverTelemetry.Proofs.Recovery

/-!
# The copies of the configuration

A core keeps its configuration and copies of parts of it: the master switch, the anomaly policy of
the registry, the thresholds of the health table and the capacities of the tables. `Core.settings`
reads all of them, and `Settings.Agree` says that they agree with each other and with what the core
was started with. Only a reconfiguration changes any of them, and it changes all of them together.
-/

namespace DriverTelemetry

namespace Config

theorem validate_eq_ok_iff {c : Config} :
    c.validate = .ok () ↔ ∀ fault ∈ c.faults, fault.1 = false := by
  unfold validate
  cases hfault : c.faults.find? (·.1) with
  | none =>
    refine iff_of_true rfl fun fault hmem => ?_
    simpa using List.find?_eq_none.1 hfault fault hmem
  | some fault =>
    refine iff_of_false (by simp) fun hall => ?_
    have hbroken := List.find?_some hfault
    rw [hall fault (List.mem_of_find?_eq_some hfault)] at hbroken
    cases hbroken

theorem predictionEvery_pos {c : Config} (h : c.validate = .ok ()) :
    0 < c.predictionEvery.toNat := by
  have hne := validate_eq_ok_iff.1 h (c.predictionEvery == 0, .zeroInterval "prediction_every")
    (by simp [faults])
  rw [Nat.pos_iff_ne_zero]
  exact fun hzero => absurd (UInt32.toNat_inj.1 hzero) (by simpa using hne)

theorem eventCapacity_pos {c : Config} (h : c.validate = .ok ()) : 0 < c.eventCapacity.toNat := by
  have hne := validate_eq_ok_iff.1 h (c.eventCapacity == 0, .zeroCapacity "event_capacity")
    (by simp [faults])
  rw [Nat.pos_iff_ne_zero]
  exact fun hzero => absurd (UInt32.toNat_inj.1 hzero) (by simpa using hne)

/-- What applies of a valid configuration is valid again, as each rule is about one field or about
the thresholds. -/
theorem validate_applicable {current new : Config} (hcurrent : current.validate = .ok ())
    (hnew : new.validate = .ok ()) : (Core.applicable current new).validate = .ok () := by
  rw [validate_eq_ok_iff] at hcurrent hnew ⊢
  intro fault hfault
  have hmem : fault ∈ current.faults ∨ fault ∈ new.faults := by
    simp only [faults, Core.applicable, List.mem_cons, List.not_mem_nil, or_false] at hfault ⊢
    rcases hfault with h | h | h | h | h | h | h | h | h | h | h <;> simp [h]
  exact hmem.elim (hcurrent fault) (hnew fault)

theorem validate_of_read {text : String} {c : Config} (h : read text = .ok c) :
    c.validate = .ok () := by
  unfold read at h
  cases hdraft : (lines text.toList).foldlM Draft.apply {} with
  | error e =>
    rw [hdraft] at h
    cases h
  | ok draft =>
    rw [hdraft] at h
    change (do draft.config.validate; return draft.config) = .ok c at h
    cases hvalid : draft.config.validate with
    | error e =>
      rw [hvalid] at h
      cases h
    | ok u =>
      rw [hvalid] at h
      cases h
      exact hvalid

end Config

namespace Registry

variable {r r' : Registry} {id : MetricId}

/-- What of a registry goes back to the configuration. -/
def terms (r : Registry) : Nat × Anomaly.Policy := (r.capacity, r.policy)

theorem terms_modify (r : Registry) (id : MetricId) (f : Metric → Metric) :
    (r.modify id f).terms = r.terms := by
  unfold modify
  split
  · rfl
  · rfl

theorem terms_enqueue? (r : Registry) (v : Option Anomaly.Verdict) :
    (r.enqueue? v).terms = r.terms := by
  cases v with
  | none => rfl
  | some v =>
    unfold enqueue? enqueue
    dsimp only
    split
    · rfl
    · rfl

theorem terms_register {name description : String} {kind : MetricKind} {subsystem : Subsystem}
    {nowNs : Nat} (h : r.register name description kind subsystem nowNs = .ok (id, r')) :
    r'.terms = r.terms := by
  unfold register at h
  split at h
  · cases h
  · split at h
    · cases h
    · cases h
      rfl

theorem terms_update {nowNs : Nat} {f : MetricValue → Option MetricValue} {before : Metric}
    (h : r.update id nowNs f = .ok (before, r')) : r'.terms = r.terms := by
  obtain ⟨-, -, value, -, rfl⟩ := update_ok h
  exact terms_modify _ _ _

theorem terms_setEnabled {enabled : Bool} (h : r.setEnabled id enabled = .ok r') :
    r'.terms = r.terms := by
  obtain ⟨m, -, h⟩ := bind_eq_ok h
  cases h
  exact terms_modify _ _ _

end Registry

namespace AllocationTracker

variable {t t' : AllocationTracker}

theorem capacity_trackAlloc {a : AllocationRecord} (h : t.trackAlloc a = .ok t') :
    t'.capacity = t.capacity := by
  unfold trackAlloc at h
  split at h
  · cases h
  · dsimp only at h
    split at h
    · cases h
      rfl
    · split at h
      · cases h
        rfl
      · cases h

theorem capacity_trackFree {address : Nat} {a : AllocationRecord}
    (h : t.trackFree address = .ok (a, t')) : t'.capacity = t.capacity := by
  unfold trackFree at h
  split at h
  · cases h
  · split at h
    · cases h
    · cases h
      rfl

end AllocationTracker

/-- The configuration of a core with the copies of it. -/
structure Settings where
  config : Config
  enabled : Bool
  policy : Anomaly.Policy
  alerts : AlertThresholds
  metricSlots : Nat
  eventSlots : Nat
  trackingSlots : Nat

def Core.settings (c : Core) : Settings where
  config := c.config
  enabled := c.enabled
  policy := c.registry.policy
  alerts := c.health.alerts
  metricSlots := c.registry.capacity
  eventSlots := c.events.capacity
  trackingSlots := c.tracker.capacity

namespace Settings

/-- The settings after a reconfiguration. -/
def configured (x : Settings) (config : Config) : Settings :=
  let applied := Core.applicable x.config config
  { x with
    config := applied
    enabled := applied.enabled
    policy := .ofConfig applied
    alerts := applied.alerts }

/-- The configuration is valid, the copies agree with it, and the capacities and the collectors are
those of the configuration that the core was started with. -/
structure Agree (start : Config) (x : Settings) : Prop where
  valid : x.config.validate = .ok ()
  enabled_eq : x.enabled = x.config.enabled
  policy_eq : x.policy = .ofConfig x.config
  alerts_eq : x.alerts = x.config.alerts
  metricCapacity_eq : x.config.metricCapacity = start.metricCapacity
  eventCapacity_eq : x.config.eventCapacity = start.eventCapacity
  trackingCapacity_eq : x.config.trackingCapacity = start.trackingCapacity
  collectors_eq : x.config.collectors = start.collectors
  metricSlots_eq : x.metricSlots = start.metricCapacity.toNat
  eventSlots_eq : x.eventSlots = start.eventCapacity.toNat
  trackingSlots_eq : x.trackingSlots = start.trackingCapacity.toNat

theorem Agree.configured {start config : Config} {x : Settings} (h : x.Agree start)
    (hvalid : config.validate = .ok ()) : (x.configured config).Agree start :=
  { h with
    valid := Config.validate_applicable h.valid hvalid
    enabled_eq := rfl
    policy_eq := rfl
    alerts_eq := rfl }

end Settings

namespace System

variable {s t : System} {start config : Config}

theorem settings_emit (s : System) (severity : Severity) (subsystem : Subsystem)
    (fill : Payload → Payload) :
    ((Core.emit severity subsystem fill).run s).2.core.settings = s.core.settings := by
  have hcapacity := EventRing.capacity_perform s.core.events
    (.pushFrom s.env.platform severity subsystem fill)
  unfold Core.settings
  exact congrArg (Settings.mk _ _ _ _ _ · _) hcapacity

theorem settings_registry {r : Registry} (h : r.terms = s.core.registry.terms) :
    Core.settings { s.core with registry := r } = s.core.settings := by
  obtain ⟨hcapacity, hpolicy⟩ := Prod.mk.inj h
  unfold Core.settings
  dsimp only
  rw [hcapacity, hpolicy]

theorem settings_tracker {tracker : AllocationTracker}
    (h : tracker.capacity = s.core.tracker.capacity) :
    Core.settings { s.core with tracker } = s.core.settings := by
  unfold Core.settings
  dsimp only
  rw [h]

theorem settings_health {health : HealthTable} (h : health.alerts = s.core.health.alerts) :
    Core.settings { s.core with health } = s.core.settings := by
  unfold Core.settings
  dsimp only
  rw [h]

/-- A small step leaves the settings alone or is a reconfiguration. -/
theorem Step.settings (h : s.Step t) :
    t.core.settings = s.core.settings ∨ ∃ config : Config, config.validate = .ok () ∧
      t.core.settings = s.core.settings.configured config := by
  cases h with
  | configured hvalid => exact .inr ⟨_, hvalid, rfl⟩
  | emitted => exact .inl (settings_emit s _ _ _)
  | metricRegistered h => exact .inl (settings_registry (Registry.terms_register h))
  | metricEnabled h => exact .inl (settings_registry (Registry.terms_setEnabled h))
  | metricUpdated h _ verdict overheadNs =>
    refine .inl (settings_registry ?_)
    rw [Registry.noteOverhead, Registry.terms_modify, Registry.terms_enqueue?,
      Registry.terms_update h]
  | allocationTracked h => exact .inl (settings_tracker (AllocationTracker.capacity_trackAlloc h))
  | allocationFreed h => exact .inl (settings_tracker (AllocationTracker.capacity_trackFree h))
  | leakNoted id => exact .inl (settings_health (HealthTable.alerts_modify _ _ _))
  | policySet h =>
    obtain ⟨-, rfl⟩ := setAutoRecovery_ok h
    exact .inl (settings_health (HealthTable.alerts_modify _ _ _))
  | retired =>
    unfold retire
    split
    · exact .inl rfl
    · exact .inl rfl
  | _ => exact .inl rfl

/-- A system whose settings agree with what a core was started with if those of another do. -/
def KeepsAgreement (s t : System) : Prop :=
  ∀ start, s.core.settings.Agree start → t.core.settings.Agree start

instance : IsPreorder System KeepsAgreement where
  refl _ _ h := h
  trans _ _ _ h₁ h₂ start h := h₂ start (h₁ start h)

theorem KeepsAgreement.of_eq (h : t.core.settings = s.core.settings) : s.KeepsAgreement t := by
  intro start hs
  rwa [h]

theorem Step.keepsAgreement (h : s.Step t) : s.KeepsAgreement t := by
  obtain hsame | ⟨config, hvalid, hconfigured⟩ := h.settings
  · exact .of_eq hsame
  · intro start hs
    rw [hconfigured]
    exact hs.configured hvalid

theorem keepsAgreement_steps (h : s.Steps t) : s.KeepsAgreement t := by
  induction h with
  | refl => exact refl _
  | tail _ hstep ih => exact trans_of KeepsAgreement ih hstep.keepsAgreement

theorem Move.keepsAgreement (h : s.Move t) : s.KeepsAgreement t := by
  cases h with
  | step hstep => exact hstep.keepsAgreement
  | emitted => exact .of_eq (settings_emit s _ _ _)
  | health c hc _ => exact .of_eq (settings_health (HealthTable.alerts_perform hc _))
  | attempted => exact .of_eq rfl

theorem keepsAgreement_perform (s : System) (x : Happening) : s.KeepsAgreement (s.perform x) :=
  x.within_moves Move.keepsAgreement (x.outside_of_forall fun _ _ => .of_eq rfl) s

theorem agree_after (h : s.core.settings.Agree start) (xs : List Happening) :
    (s.after xs).core.settings.Agree start := by
  induction xs generalizing s with
  | nil => exact h
  | cons x rest ih => exact ih (keepsAgreement_perform s x start h)

end System

namespace Reservation

variable {α β : Type} {P : α → Prop} {Q : β → Prop}
  {c : ExceptT TelemetryError (StateM Reservation) α}
  {f : α → ExceptT TelemetryError (StateM Reservation) β}

/-- Whatever a request answers has a property. -/
def Answers (P : α → Prop) (c : ExceptT TelemetryError (StateM Reservation) α) : Prop :=
  ∀ r a, (c.run.run r).1 = .ok a → P a

theorem Answers.bind (hc : Answers P c) (hf : ∀ a, P a → Answers Q (f a)) :
    Answers Q (c >>= f) := by
  intro r b hok
  obtain ⟨outcome, r', hrun⟩ : ∃ outcome r', c.run.run r = (outcome, r') := ⟨_, _, rfl⟩
  cases outcome with
  | error e =>
    rw [StateM.run_andThen_error hrun] at hok
    cases hok
  | ok a =>
    rw [StateM.run_andThen_ok hrun] at hok
    exact hf a (hc r a (congrArg Prod.fst hrun)) r' b hok

theorem Answers.pure {a : α} (h : P a) : Answers P (pure a) := by
  intro r b hok
  cases hok
  exact h

theorem Answers.any (c : ExceptT TelemetryError (StateM Reservation) α) :
    Answers (fun _ => True) c := fun _ _ _ => trivial

theorem answers_acquire (bytes : Nat) (create : Except TelemetryError α) :
    Answers (fun table => create = .ok table) (acquire bytes create) := by
  refine (Answers.any _).bind fun _ _ => ?_
  have hlift : Answers (fun table => create = .ok table)
      (liftM create : ExceptT TelemetryError (StateM Reservation) α) := by
    intro r a hok
    cases create <;> exact hok
  exact hlift.bind fun table htable => (Answers.any _).bind fun _ _ => .pure htable

end Reservation

namespace Core

theorem answers_acquireTables (config : Config) :
    Reservation.Answers (fun tables => tables.registry.terms = (config.metricCapacity.toNat,
        .ofConfig config) ∧ tables.events.capacity = config.eventCapacity.toNat ∧
        tables.tracker.capacity = config.trackingCapacity.toNat) (acquireTables config) := by
  refine (Reservation.answers_acquire _ _).bind fun registry hregistry => ?_
  refine (Reservation.answers_acquire _ _).bind fun events hevents => ?_
  refine (Reservation.answers_acquire _ _).bind fun tracker htracker => .pure ?_
  obtain ⟨-, -, hregistry⟩ := Registry.bind_eq_ok hregistry
  obtain ⟨-, -, hevents⟩ := Registry.bind_eq_ok hevents
  obtain ⟨-, -, htracker⟩ := Registry.bind_eq_ok htracker
  cases hregistry
  cases hevents
  cases htracker
  exact ⟨rfl, rfl, rfl⟩

theorem agree_start {number : Nat} {config : Config} {env env' : Environment} {core : Core}
    (h : start number config env = (.ok core, env')) : core.settings.Agree config := by
  obtain ⟨s, hprepared, hcompleted⟩ := start_ok h
  obtain ⟨hvalid, tables, r, hacquired, rfl⟩ := prepare_ok hprepared
  obtain ⟨hterms, hevents, htracker⟩ :=
    answers_acquireTables config _ tables (congrArg Prod.fst hacquired)
  obtain ⟨hcapacity, hpolicy⟩ := Prod.mk.inj hterms
  have hfirst : (ofTables number config tables r.bytes).settings.Agree config :=
    { valid := hvalid, enabled_eq := rfl, policy_eq := hpolicy, alerts_eq := rfl
      metricCapacity_eq := rfl, eventCapacity_eq := rfl, trackingCapacity_eq := rfl
      collectors_eq := rfl, metricSlots_eq := hcapacity, eventSlots_eq := hevents
      trackingSlots_eq := htracker }
  exact System.keepsAgreement_steps (complete_ok hcompleted) config hfirst

/-- A reconfiguration that fails changes nothing. -/
theorem configure_error {s t : System} {config : Config} {e : TelemetryError}
    (h : s.call (configure config) = (.error e, t)) : t = s := by
  have hrun : s.call (configure config) = s.call (ensureReady >>= fun _ => _) := rfl
  cases hready : s.core.initialized with
  | false =>
    rw [hrun, System.call_unready hready] at h
    exact (Prod.mk.inj h).2.symm
  | true =>
    rw [hrun, System.call_ready hready] at h
    cases hvalid : config.validate with
    | error e' =>
      rw [hvalid] at h
      exact (Prod.mk.inj h).2.symm
    | ok u =>
      rw [hvalid] at h
      cases (Prod.mk.inj h).1

end Core

namespace System

theorem Reachable.agree {s : System} (h : s.Reachable) :
    ∃ start, s.core.settings.Agree start := by
  induction h with
  | @started number config env env' core hstart => exact ⟨config, Core.agree_start hstart⟩
  | @next s _ x ih =>
    obtain ⟨start, hagree⟩ := ih
    exact ⟨start, keepsAgreement_perform s x start hagree⟩

/-- The event ring of a core has room for an event when it is empty. -/
theorem Reachable.eventSlots_pos {s : System} (h : s.Reachable) : 0 < s.core.events.capacity := by
  obtain ⟨start, hagree⟩ := h.agree
  have hslots : s.core.events.capacity = start.eventCapacity.toNat := hagree.eventSlots_eq
  rw [hslots, ← hagree.eventCapacity_eq]
  exact Config.eventCapacity_pos hagree.valid

/-- Whatever happens to a core after its start, the configuration stays valid, the copies of it
agree, and the capacities and the collectors are those of the start: so nothing is divided by zero.
A reconfiguration that fails changes nothing at all, and no configuration text gives an invalid
configuration. -/
theorem configuration_agrees {number : Nat} {config : Config} {env env' : Environment} {core : Core}
    (hstart : Core.start number config env = (.ok core, env')) (xs : List Happening) :
    let s : System := System.after { env := env', core } xs
    s.core.settings.Agree config ∧
      0 < s.core.config.predictionEvery.toNat ∧ 0 < s.core.events.capacity ∧
      (∀ (new : Config) (e : TelemetryError) (t : System),
        s.call (Core.configure new) = (.error e, t) → t = s) ∧
      ∀ (text : String) (new : Config), Config.read text = .ok new → new.validate = .ok () := by
  have hagree : (System.after { env := env', core } xs).core.settings.Agree config :=
    agree_after (Core.agree_start hstart) xs
  refine ⟨hagree, Config.predictionEvery_pos hagree.valid, ?_,
    fun _ _ _ => Core.configure_error, fun _ _ => Config.validate_of_read⟩
  have hslots : (System.after { env := env', core } xs).core.events.capacity =
      config.eventCapacity.toNat := hagree.eventSlots_eq
  have hpos := Config.eventCapacity_pos hagree.valid
  rw [hslots, ← hagree.eventCapacity_eq]
  exact hpos

/-- A core that has been given other thresholds, together with capacities and collectors that do not
apply. -/
theorem configuration_agrees_after_reconfiguration :
    ∃ core env, Core.start 0 impatient overheated = (.ok core, env) ∧
      let new : Config := { alerts := { alert := 50, critical := 60 }, eventCapacity := 7 }
      let s : System := System.after { env, core } [.configure new]
      s.core.settings.Agree impatient ∧ s.core.health.alerts = new.alerts := by
  obtain ⟨core, env, hstart, hready, hconfig, hhealth, hhook⟩ := exists_impatient_start
  refine ⟨core, env, hstart, (configuration_agrees hstart _).1, ?_⟩
  obtain ⟨number, config, initialized, enabled, registry, events, health, tracker, counters,
    predefined, collectors, hook⟩ := core
  dsimp only at hready hconfig hhealth hhook
  subst hready hconfig hhealth hhook
  rfl

end System

end DriverTelemetry
