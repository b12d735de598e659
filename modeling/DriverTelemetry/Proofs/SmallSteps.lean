import DriverTelemetry.Core
import DriverTelemetry.Core.Background
import DriverTelemetry.Proofs.DriverMessages
import DriverTelemetry.Proofs.LiveAllocations
import DriverTelemetry.Proofs.MetricLevels

/-!
# The small steps of a core

Whatever is asked of a core happens in small steps, and `System.Step` lists them: each touches one
table, or a table with the counters that belong to it. Registering a driver and evaluating one are
not among them, nor is what producers say in their own words, nor what others do to the
surroundings: so no message of a small step is about a change of a driver's status. An action is
`Core.Within` a relation if every run of it leads from a system to a related one, and
`Core.Stepwise` if it takes small steps only and leaves the accounts of leaks, of frees of unknown
addresses and of live bytes as they are. Every call is that does not evaluate a driver, take a
message, track an allocation or its end, or look for leaks; so what each such step preserves, every
such call does. Most of these calls are `Core.Steady`: they leave the levels of all metrics alone as
well, and the others are so but for the metrics that they are about.
-/

namespace DriverTelemetry

section Failing

variable {σ α β : Type} {s t : σ} {c : ExceptT TelemetryError (StateM σ) α}
  {f : α → ExceptT TelemetryError (StateM σ) β}

theorem StateM.run_andThen_ok {x : α} (h : c.run.run s = (.ok x, t)) :
    (c >>= f).run.run s = (f x).run.run t := by
  rw [ExceptT.run_bind, StateT.run_bind, h]
  rfl

theorem StateM.run_andThen_error {e : TelemetryError} (h : c.run.run s = (.error e, t)) :
    (c >>= f).run.run s = (.error e, t) := by
  rw [ExceptT.run_bind, StateT.run_bind, h]
  rfl

end Failing

/-- Surroundings with the drivers of other ones, of which some may have been cooled. -/
def Environment.KeepsFleet (e e' : Environment) : Prop :=
  e'.fleet = e.fleet ∨ ∃ name, e'.fleet = (e.cool name).fleet

namespace System

/-- One small step of a core, or of its surroundings. -/
inductive Step (s : System) : System → Prop
  | surroundings (env : Environment) (h : env.platform.reserved = s.env.platform.reserved)
      (hfleet : s.env.KeepsFleet env) : Step s { s with env }
  | emitted (severity : Severity) (subsystem : Subsystem) {fill : Payload → Payload}
      (h : Core.Neutral (fill .blank).message) :
      Step s ((Core.emit severity subsystem fill).run s).2
  | metricRegistered {name description : String} {kind : MetricKind} {subsystem : Subsystem}
      {nowNs : Nat} {id : MetricId} {r : Registry}
      (h : s.core.registry.register name description kind subsystem nowNs = .ok (id, r)) :
      Step s { s with core.registry := r }
  | metricUpdated {id : MetricId} {nowNs : Nat} {f : MetricValue → Option MetricValue}
      {before : Metric} {r : Registry} (h : s.core.registry.update id nowNs f = .ok (before, r))
      (hkind : MetricValue.KeepsKind f) (verdict : Option Anomaly.Verdict) (overheadNs : Nat) :
      Step s
        { s with
          core.registry := (r.enqueue? verdict).noteOverhead id overheadNs
          core.counters := s.core.counters.recordUpdate overheadNs }
  | metricEnabled {id : MetricId} {enabled : Bool} {r : Registry}
      (h : s.core.registry.setEnabled id enabled = .ok r) : Step s { s with core.registry := r }
  | ratesRolled (nowNs : Nat) : Step s { s with core.registry := s.core.registry.rollRates nowNs }
  | verdictsTaken : Step s { s with core.registry := s.core.registry.takePending.2 }
  | predefinedStored (ids : PredefinedMetrics) : Step s { s with core.predefined := ids }
  | allocationTracked {a : AllocationRecord} {t : AllocationTracker}
      (h : s.core.tracker.trackAlloc a = .ok t) : Step s { s with core.tracker := t }
  | allocationFreed {address : Nat} {a : AllocationRecord} {t : AllocationTracker}
      (h : s.core.tracker.trackFree address = .ok (a, t)) : Step s { s with core.tracker := t }
  | leaksScanned (nowNs thresholdNs : Nat) :
      Step s { s with core.tracker := (s.core.tracker.scan nowNs thresholdNs).2 }
  | leakNoted (id : DriverId) : Step s { s with core.health := s.core.health.noteLeak id }
  | counted (anomalies predictions checks : Nat) :
      Step s
        { s with
          core.counters :=
            { s.core.counters with
              anomaliesDetected := s.core.counters.anomaliesDetected + anomalies
              predictionsMade := s.core.counters.predictionsMade + predictions
              healthChecks := s.core.counters.healthChecks + checks } }
  | leaksCounted (leaks : Nat) :
      Step s
        { s with core.counters.leaksDetected := s.core.counters.leaksDetected + leaks }
  | untrackedCounted :
      Step s
        { s with core.counters.untrackedFrees := s.core.counters.untrackedFrees + 1 }
  | cycled (cycles : Nat) : Step s { s with core.analyticsCycles := cycles }
  | listening (hook : AnalyticsHook) : Step s { s with core.analyticsHook := some hook }
  | collecting (collectors : List Collector) : Step s { s with core.collectors := collectors }
  | hookInstalled (hook : HookRef) : Step s { s with core.restartHook := some hook }
  | policySet {id : DriverId} {auto : Bool} {threshold : Nat} {t : HealthTable}
      (h : s.core.health.setAutoRecovery id auto threshold = .ok t) :
      Step s { s with core.health := t }
  | configured {config : Config} (h : config.validate = .ok ()) :
      Step s
        { s with core := Core.installAlerts config.alerts (Core.installConfig config s.core) }
  | retired : Step s s.retire

abbrev Steps : System → System → Prop := Relation.ReflTransGen Step

/-- A core that accepts calls and accepted them before, with as many bytes in live allocations, and
as many by the counter. -/
def SameBytes (s t : System) : Prop :=
  t.core.initialized = true → s.core.initialized = true ∧
    t.core.tracker.live.bytes = s.core.tracker.live.bytes ∧
    t.core.tracker.liveBytes = s.core.tracker.liveBytes

instance : IsPreorder System SameBytes where
  refl _ hready := ⟨hready, rfl, rfl⟩
  trans _ _ _ h₁ h₂ hu := by
    obtain ⟨ht, hlive₂, hcounted₂⟩ := h₂ hu
    obtain ⟨hs, hlive₁, hcounted₁⟩ := h₁ ht
    exact ⟨hs, hlive₂.trans hlive₁, hcounted₂.trans hcounted₁⟩

/-- A system whose accounts stand as in another: as many leaks and frees of unknown addresses have
been counted, and, unless the core has been shut down, as many bytes are live. -/
structure SameAccounts (s t : System) : Prop where
  leaks_eq : t.core.counters.leaksDetected = s.core.counters.leaksDetected
  untracked_eq : t.core.counters.untrackedFrees = s.core.counters.untrackedFrees
  sameBytes : s.SameBytes t

/-- What the accounts are read off. -/
def accounts (s : System) : Bool × AllocationTracker × Nat × Nat :=
  (s.core.initialized, s.core.tracker, s.core.counters.leaksDetected,
    s.core.counters.untrackedFrees)

theorem SameAccounts.of_eq {s t : System} (h : t.accounts = s.accounts) : s.SameAccounts t := by
  obtain ⟨hinitialized, htracker, hleaks, huntracked⟩ := by simpa [accounts] using h
  refine ⟨hleaks, huntracked, fun hready => ⟨hinitialized ▸ hready, ?_, ?_⟩⟩
  · rw [htracker]
  · rw [htracker]

instance : IsPreorder System SameAccounts where
  refl _ := .of_eq rfl
  trans _ _ _ h₁ h₂ :=
    ⟨h₂.leaks_eq.trans h₁.leaks_eq, h₂.untracked_eq.trans h₁.untracked_eq,
      trans_of SameBytes h₁.sameBytes h₂.sameBytes⟩

theorem sameAccounts_scanned (s : System) (nowNs thresholdNs : Nat) :
    s.SameAccounts { s with core.tracker := (s.core.tracker.scan nowNs thresholdNs).2 } := by
  refine ⟨rfl, rfl, fun hready => ⟨hready, ?_, rfl⟩⟩
  rw [AllocationTracker.live_scan, LiveSet.bytes_map_marked]

@[simp]
theorem initialized_retire (s : System) : s.retire.core.initialized = false := by
  unfold retire
  split
  · rfl
  · rename_i hready
    exact Bool.eq_false_iff.2 hready

theorem sameAccounts_retire (s : System) : s.SameAccounts s.retire := by
  unfold retire
  split
  · exact ⟨rfl, rfl, fun hready => Bool.noConfusion hready⟩
  · exact .of_eq rfl

/-- A system that is related to another and whose accounts stand as in that one. -/
def Quietly (R : System → System → Prop) (s t : System) : Prop := R s t ∧ s.SameAccounts t

/-- Small steps that make no entry in the accounts. -/
abbrev QuietSteps : System → System → Prop := Relation.ReflTransGen (Quietly Step)

theorem QuietSteps.steps {s t : System} (h : s.QuietSteps t) : s.Steps t :=
  Relation.ReflTransGen.mono (fun _ _ hstep => hstep.1) _ _ h

/-- Steps of a sort keep to a preorder that holds each of them. -/
theorem related_of_chain {R S : System → System → Prop} [IsPreorder System R]
    (hstep : ∀ {s t : System}, S s t → R s t) {s t : System} (h : Relation.ReflTransGen S s t) :
    R s t := by
  induction h with
  | refl => exact refl _
  | tail _ hlast ih => exact trans_of R ih (hstep hlast)

theorem QuietSteps.sameAccounts {s t : System} (h : s.QuietSteps t) : s.SameAccounts t :=
  related_of_chain (fun hstep => hstep.2) h

/-- A system that is quietly related to another and has its levels, but for those of some
metrics. -/
def Steadily (but : List MetricId) (R : System → System → Prop) (s t : System) : Prop :=
  Quietly R s t ∧ s.SameLevels but t

theorem Steadily.of_eq {but : List MetricId} {R : System → System → Prop} {s t : System}
    (h : R s t) (haccounts : t.accounts = s.accounts) (hgauges : t.gauges = s.gauges) :
    Steadily but R s t :=
  ⟨⟨h, .of_eq haccounts⟩, .of_gauges_eq hgauges⟩

theorem Steadily.of_registry {but : List MetricId} {R : System → System → Prop} {s t : System}
    (h : R s t) (haccounts : t.accounts = s.accounts)
    (hpredefined : t.core.predefined = s.core.predefined)
    (hlevels : s.core.registry.KeepsLevels but t.core.registry) : Steadily but R s t :=
  ⟨⟨h, .of_eq haccounts⟩, .of_registry hlevels (congrArg Prod.fst haccounts) hpredefined rfl⟩

/-- A core that is shut down accepts no calls, so that nothing is said of its levels. -/
theorem steadily_retire {but : List MetricId} (s : System) : Steadily but Step s s.retire :=
  ⟨⟨.retired, sameAccounts_retire s⟩, fun hready => by simp at hready⟩

/-- Small steps that make no entry in the accounts and leave all levels alone, but for those of some
metrics. -/
abbrev SteadySteps (but : List MetricId) : System → System → Prop :=
  Relation.ReflTransGen (Steadily but Step)

theorem SteadySteps.quiet {but : List MetricId} {s t : System} (h : s.SteadySteps but t) :
    s.QuietSteps t :=
  Relation.ReflTransGen.mono (fun _ _ hstep => hstep.1) _ _ h

section Call

variable {α β : Type} {s t : System}

theorem call_andThen_ok {c : Call α} {f : α → Call β} {x : α} (h : s.call c = (.ok x, t)) :
    s.call (c >>= f) = t.call (f x) :=
  StateM.run_andThen_ok h

theorem call_andThen_error {c : Call α} {f : α → Call β} {e : TelemetryError}
    (h : s.call c = (.error e, t)) : s.call (c >>= f) = (.error e, t) :=
  StateM.run_andThen_error h

/-- A call answers and is gone on from, or fails as a whole. -/
theorem call_andThen_cases (s : System) (c : Call α) (f : α → Call β) :
    (∃ x t, s.call c = (.ok x, t) ∧ s.call (c >>= f) = t.call (f x)) ∨
      ∃ e t, s.call c = (.error e, t) ∧ s.call (c >>= f) = (.error e, t) := by
  obtain ⟨outcome, t, hrun⟩ : ∃ outcome t, s.call c = (outcome, t) := ⟨_, _, rfl⟩
  cases outcome with
  | ok x => exact .inl ⟨x, t, hrun, call_andThen_ok hrun⟩
  | error e => exact .inr ⟨e, t, hrun, call_andThen_error hrun⟩

theorem call_andThen_inv {c : Call α} {f : α → Call β} {y : β} (h : s.call (c >>= f) = (.ok y, t)) :
    ∃ x u, s.call c = (.ok x, u) ∧ u.call (f x) = (.ok y, t) := by
  obtain ⟨x, u, hrun, hwhole⟩ | ⟨e, u, hrun, hwhole⟩ := s.call_andThen_cases c f
  · exact ⟨x, u, hrun, hwhole.symm.trans h⟩
  · cases hwhole.symm.trans h

theorem call_andThen_pure (s : System) (c : Call α) (g : α → β) :
    (s.call (c >>= fun x => pure (g x))).2 = (s.call c).2 := by
  obtain ⟨x, t, hrun, hwhole⟩ | ⟨e, t, hrun, hwhole⟩ :=
    s.call_andThen_cases c fun x => pure (g x)
  · rw [hwhole, hrun]
    rfl
  · rw [hwhole, hrun]

theorem call_get_andThen (s : System) (f : System → Call α) : s.call (get >>= f) = s.call (f s) :=
  rfl

theorem call_lift_andThen (s : System) (a : Action α) (f : α → Call β) :
    s.call (liftM a >>= f) = System.call (a.run s).2 (f (a.run s).1) :=
  rfl

theorem call_ensureReady_ok (h : s.core.initialized = true) :
    s.call Core.ensureReady = (.ok (), s) := by
  unfold Core.ensureReady
  rw [call_get_andThen, if_pos h]
  rfl

theorem call_ensureReady_error (h : s.core.initialized = false) :
    s.call Core.ensureReady = (.error .notInitialized, s) := by
  unfold Core.ensureReady
  rw [call_get_andThen, if_neg (by simp [h])]
  rfl

theorem call_ready (h : s.core.initialized = true) (f : Unit → Call α) :
    s.call (Core.ensureReady >>= f) = s.call (f ()) :=
  call_andThen_ok (call_ensureReady_ok h)

theorem call_unready (h : s.core.initialized = false) (f : Unit → Call α) :
    s.call (Core.ensureReady >>= f) = (.error .notInitialized, s) :=
  call_andThen_error (call_ensureReady_error h)

theorem call_onRegistry_ok {f : Registry → Except TelemetryError (α × Registry)} {x : α}
    {r : Registry} (h : f s.core.registry = .ok (x, r)) :
    s.call (Core.onRegistry f) = (.ok x, { s with core.registry := r }) := by
  unfold Core.onRegistry
  rw [call_get_andThen, h]
  rfl

theorem call_onRegistry_error {f : Registry → Except TelemetryError (α × Registry)}
    {e : TelemetryError} (h : f s.core.registry = .error e) :
    s.call (Core.onRegistry f) = (.error e, s) := by
  unfold Core.onRegistry
  rw [call_get_andThen, h]
  rfl

theorem call_onHealth_ok {f : HealthTable → Except TelemetryError (α × HealthTable)} {x : α}
    {t : HealthTable} (h : f s.core.health = .ok (x, t)) :
    s.call (Core.onHealth f) = (.ok x, { s with core.health := t }) := by
  unfold Core.onHealth
  rw [call_get_andThen, h]
  rfl

theorem call_onHealth_error {f : HealthTable → Except TelemetryError (α × HealthTable)}
    {e : TelemetryError} (h : f s.core.health = .error e) :
    s.call (Core.onHealth f) = (.error e, s) := by
  unfold Core.onHealth
  rw [call_get_andThen, h]
  rfl

theorem call_onTracker_ok {f : AllocationTracker → Except TelemetryError (α × AllocationTracker)}
    {x : α} {tracker : AllocationTracker} (h : f s.core.tracker = .ok (x, tracker)) :
    s.call (Core.onTracker f) = (.ok x, { s with core.tracker := tracker }) := by
  unfold Core.onTracker
  rw [call_get_andThen, h]
  rfl

theorem call_onTracker_error
    {f : AllocationTracker → Except TelemetryError (α × AllocationTracker)} {e : TelemetryError}
    (h : f s.core.tracker = .error e) : s.call (Core.onTracker f) = (.error e, s) := by
  unfold Core.onTracker
  rw [call_get_andThen, h]
  rfl

theorem call_readRegistry (s : System) (f : Registry → Except TelemetryError α) :
    s.call (Core.readRegistry f) = (f s.core.registry, s) := by
  unfold Core.readRegistry
  rw [call_get_andThen]
  cases f s.core.registry with
  | ok x => rfl
  | error e => rfl

theorem call_readHealth (s : System) (f : HealthTable → Except TelemetryError α) :
    s.call (Core.readHealth f) = (f s.core.health, s) := by
  unfold Core.readHealth
  rw [call_get_andThen]
  cases f s.core.health with
  | ok x => rfl
  | error e => rfl

end Call

end System

namespace Core

variable {α β : Type} {R : System → System → Prop}

/-- An action every run of which leads from a system to a related one. -/
def Within (R : System → System → Prop) (a : Action α) : Prop := ∀ s, R s (a.run s).2

/-- An action that takes small steps only and makes no entry in the accounts. -/
abbrev Stepwise (a : Action α) : Prop := Within System.QuietSteps a

/-- An action that moreover leaves all levels alone, but for those of some metrics. -/
abbrev SteadyBut (but : List MetricId) (a : Action α) : Prop := Within (System.SteadySteps but) a

abbrev Steady (a : Action α) : Prop := SteadyBut [] a

theorem run_get_bind (s : System) (f : System → Action α) : (get >>= f).run s = (f s).run s :=
  rfl

theorem Within.mono {R' : System → System → Prop} (h : ∀ {s t}, R s t → R' s t) {a : Action α}
    (ha : Within R a) : Within R' a :=
  fun s => h (ha s)

theorem Within.modify {f : System → System} (hf : ∀ s, R s (f s)) :
    Within R (modify f : Action PUnit) :=
  hf

theorem Within.change {f : Core → Core} (hf : ∀ s, R s { s with core := f s.core }) :
    Within R (change f) :=
  hf

theorem Within.map {a : Action α} (f : α → β) (ha : Within R a) : Within R (f <$> a) := ha

theorem Within.lift {a : Action α} (ha : Within R a) : Within R (liftM a : Call α).run := ha

section Preorder

variable [IsPreorder System R]

theorem Within.of_chain {S : System → System → Prop} (hstep : ∀ {s t : System}, S s t → R s t)
    {a : Action α} (ha : Within (Relation.ReflTransGen S) a) : Within R a :=
  ha.mono (System.related_of_chain hstep)

theorem Within.pure (x : α) : Within R (pure x : Action α) := fun _ => refl _

theorem Within.get : Within R (get : Action System) := fun _ => refl _

theorem Within.bind {a : Action α} {f : α → Action β} (ha : Within R a)
    (hf : ∀ x, Within R (f x)) : Within R (a >>= f) :=
  fun s => trans_of R (ha s) (hf _ _)

theorem Within.ok (x : α) : Within R (Pure.pure x : Call α).run := fun _ => refl _

theorem Within.throw (e : TelemetryError) : Within R (throw e : Call α).run := fun _ => refl _

theorem related_andThen {s : System} {c : Call α} {f : α → Call β} (hc : R s (s.call c).2)
    (hf : ∀ x, Within R (f x).run) : R s (s.call (c >>= f)).2 := by
  obtain ⟨x, t, hrun, hwhole⟩ | ⟨e, t, hrun, hwhole⟩ := s.call_andThen_cases c f
  · rw [hrun] at hc
    rw [hwhole]
    exact trans_of R hc (hf x t)
  · rw [hrun] at hc
    rw [hwhole]
    exact hc

theorem Within.andThen {c : Call α} {f : α → Call β} (hc : Within R c.run)
    (hf : ∀ x, Within R (f x).run) : Within R (c >>= f).run :=
  fun s => related_andThen (hc s) hf

theorem Within.optional {p : Prop} [Decidable p] {c : Call PUnit} {d : Call α}
    (hc : Within R c.run) (hd : Within R d.run) :
    Within R (if p then c >>= fun _ => d else d).run := by
  by_cases h : p
  · rw [if_pos h]
    exact hc.andThen fun _ => hd
  · rw [if_neg h]
    exact hd

theorem Within.callForM {f : α → Call PUnit} (hf : ∀ x, Within R (f x).run) (l : List α) :
    Within R (l.forM f).run := by
  induction l with
  | nil => exact .ok _
  | cons x rest ih => exact (hf x).andThen fun _ => ih

theorem Within.callMapM {f : α → Call β} (hf : ∀ x, Within R (f x).run) (l : List α) :
    Within R (l.mapM f).run := by
  induction l with
  | nil => exact .ok _
  | cons x rest ih =>
    rw [List.mapM_cons]
    exact (hf x).andThen fun _ => ih.andThen fun _ => .ok _

end Preorder

theorem SteadyBut.stepwise {but : List MetricId} {a : Action α} (ha : SteadyBut but a) :
    Stepwise a :=
  Within.mono System.SteadySteps.quiet ha

theorem SteadyBut.mono {but wider : List MetricId} {a : Action α} (ha : SteadyBut but a)
    (hle : but ⊆ wider) : SteadyBut wider a :=
  .of_chain (fun h => .single ⟨h.1, h.2.mono hle⟩) ha

theorem Steady.but {a : Action α} (ha : Steady a) (but : List MetricId) : SteadyBut but a :=
  SteadyBut.mono ha (List.nil_subset but)

/-- A call that goes on with what it reads needs to be related from the system that it reads. -/
theorem Within.get_andThen {f : System → Call β} (hf : ∀ s, R s ((f s).run.run s).2) :
    Within R ((liftM (MonadState.get : Action System) : Call System) >>= f).run :=
  hf

theorem Within.get_bind {f : System → Action β} (hf : ∀ s, R s ((f s).run s).2) :
    Within R (MonadState.get >>= f) :=
  hf

end Core

end DriverTelemetry
