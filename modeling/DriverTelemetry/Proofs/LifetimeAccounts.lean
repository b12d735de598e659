import DriverTelemetry.Proofs.Configuration
import DriverTelemetry.Proofs.EventLog
import DriverTelemetry.Proofs.Findings
import DriverTelemetry.Proofs.GradualRecovery
import DriverTelemetry.Proofs.Restarts

/-!
# The lifetime counters account for the tables

The counters of a core are kept apart from the tables that they count: the number of events from the
ring, the number of updates from the metrics, the number of restarts from the drivers. Each move
keeps the two sides of such an account equal while the core accepts calls, so they agree in every
state that a started core comes to. Only a restart is not made up of moves that do: it is counted
before the hook is called, and entered in the driver's record when the hook has answered. There the
recovery as a whole keeps the account.
-/

namespace DriverTelemetry

section Sums

variable {α : Type}

/-- Changing the entry of a number changes a sum over the entries by as much as it changes there. -/
theorem sum_map_modify {l : List α} {number : Nat} {x : α} (h : numbered? l number = some x)
    (f : α → α) (g : α → Nat) :
    ((l.modify (number - 1) f).map g).sum + g x = (l.map g).sum + g (f x) := by
  unfold numbered? at h
  split at h
  · cases h
  · obtain ⟨hlt, rfl⟩ := List.getElem?_eq_some_iff.1 h
    have hsplit : l.modify (number - 1) f =
        l.take (number - 1) ++ f l[number - 1] :: l.drop (number - 1 + 1) :=
      List.modify_eq_take_cons_drop hlt
    have hwhole : l = l.take (number - 1) ++ l[number - 1] :: l.drop (number - 1 + 1) := by
      rw [List.getElem_cons_drop, List.take_append_drop]
    have hsum := congrArg (fun l => (l.map g).sum) hwhole
    rw [hsplit]
    simp only [List.map_append, List.map_cons, List.sum_append, List.sum_cons] at hsum ⊢
    omega

/-- A change of any entry that leaves a quantity alone leaves its sum alone. -/
theorem map_modify_of_eq {β : Type} {g : α → β} {f : α → α} (hf : ∀ x, g (f x) = g x) (l : List α)
    (i : Nat) : (l.modify i f).map g = l.map g := by
  refine List.ext_getElem? fun j => ?_
  simp only [List.getElem?_map, List.getElem?_modify]
  by_cases heq : i = j <;> cases l[j]? <;> simp [heq, hf]

end Sums

namespace EventRing

variable {r : EventRing} {n : Nat}

/-- A ring to which `n` events have been added, numbered from 1 on. -/
def Logged (r : EventRing) (n : Nat) : Prop :=
  ∃ events : List Event, r.Shows { current := events } ∧ events.length = n ∧
    ∀ e ∈ events.getLast?, e.id = ⟨n⟩

theorem logged_new {capacity : Nat} (h : 0 < capacity) : Logged { capacity } 0 :=
  ⟨[], shows_new h, rfl, fun _ he => by cases he⟩

theorem Logged.pushFrom (h : r.Logged n) (p : SimulatedPlatform) (severity : Severity)
    (subsystem : Subsystem) (fill : Payload → Payload) :
    (r.pushFrom p severity subsystem fill).2.1.Logged (n + 1) := by
  obtain ⟨events, hshows, rfl, -⟩ := h
  let e : Emission := { severity, subsystem, origin := p.origin severity, fill }
  refine ⟨events ++ [e.event ⟨events.length + 1⟩], ?_, by simp, fun new hnew => ?_⟩
  · exact (hshows.perform (.pushFrom p severity subsystem fill)).1
  · rw [List.getLast?_concat, Option.mem_def, Option.some.injEq] at hnew
    rw [← hnew]
    rfl

/-- Every event that has been added is in the ring or has been overwritten. -/
theorem Logged.size_add_overwritten (h : r.Logged n) : r.size + r.overwritten = n := by
  obtain ⟨events, hshows, rfl, -⟩ := h
  have hsize : r.slots.size = min r.capacity events.length := hshows.size_eq
  have hoverwritten := hshows.overwritten_eq
  simp only [EventLog.displaced, List.nil_append, List.map_cons, List.map_nil, List.sum_cons,
    List.sum_nil] at hoverwritten
  unfold size
  omega

theorem Logged.getLast?_eq (h : r.Logged n) (hpos : 0 < n) :
    r.toList.getLast?.map (·.id.number) = some n := by
  obtain ⟨events, hshows, rfl, hlast⟩ := h
  have hcap := hshows.capacity_pos
  have hwindow : r.toList.getLast? = events.getLast? := by
    rw [hshows.toList_eq, EventLog.window, List.getLast?_drop, if_neg (by simp only; omega)]
  have hsome : events.getLast? = some (events.getLast (List.ne_nil_of_length_pos hpos)) :=
    List.getLast?_eq_some_getLast _
  rw [hwindow, hsome, Option.map_some, hlast _ hsome]

end EventRing

namespace Registry

variable {r r' : Registry}

/-- How often the metrics have been updated. -/
def updates (r : Registry) : Nat := (r.metrics.map (·.updateCount)).sum

theorem updates_of_metrics_eq (h : r'.metrics = r.metrics) : r'.updates = r.updates := by
  unfold updates
  rw [h]

theorem updates_modify_of_eq {f : Metric → Metric} (hf : ∀ m, (f m).updateCount = m.updateCount)
    (r : Registry) (id : MetricId) : (r.modify id f).updates = r.updates := by
  unfold modify updates
  split
  · rfl
  · rw [map_modify_of_eq hf]

theorem updates_register {name description : String} {kind : MetricKind} {subsystem : Subsystem}
    {nowNs : Nat} {id : MetricId}
    (h : r.register name description kind subsystem nowNs = .ok (id, r')) :
    r'.updates = r.updates := by
  unfold register at h
  split at h
  · cases h
  · split at h
    · cases h
    · cases h
      simp [updates]

theorem updates_update {id : MetricId} {nowNs : Nat} {f : MetricValue → Option MetricValue}
    {before : Metric} (h : r.update id nowNs f = .ok (before, r')) :
    r'.updates = r.updates + 1 := by
  obtain ⟨hfind, -, value, -, rfl⟩ := update_ok h
  unfold find? at hfind
  split at hfind
  · cases hfind
  · rename_i hid
    have hentry : numbered? r.metrics id.number = some before := by rwa [numbered?, if_neg hid]
    have hsum := sum_map_modify hentry (fun m => m.updated value nowNs) (·.updateCount)
    simp only [modify, if_neg hid, updates]
    simp only [Metric.updated] at hsum ⊢
    omega

theorem updates_setEnabled {id : MetricId} {enabled : Bool}
    (h : r.setEnabled id enabled = .ok r') : r'.updates = r.updates := by
  obtain ⟨m, -, h⟩ := bind_eq_ok h
  cases h
  refine updates_modify_of_eq (fun _ => ?_) r id
  rfl

theorem updates_noteOverhead (r : Registry) (id : MetricId) (overheadNs : Nat) :
    (r.noteOverhead id overheadNs).updates = r.updates := by
  refine updates_modify_of_eq (fun _ => ?_) r id
  rfl

theorem updates_rollRates (r : Registry) (nowNs : Nat) :
    (r.rollRates nowNs).updates = r.updates := by
  simp [updates, rollRates, Function.comp_def]

end Registry

namespace HealthTable

variable {t t' : HealthTable} {id : DriverId} {d : DriverHealth}

/-- How often restarts of the drivers have been attempted. -/
def restarts (t : HealthTable) : Nat := (t.drivers.map (·.recovery.restarts)).sum

/-- A table in which no driver has recovered more often than its restart has been attempted. -/
def Recovers (t : HealthTable) : Prop :=
  ∀ id d, t.find? id = some d → d.recovery.recoveries ≤ d.recovery.restarts

theorem restarts_modify_of_eq {f : DriverHealth → DriverHealth}
    (hf : ∀ d, (f d).recovery.restarts = d.recovery.restarts) (t : HealthTable) (id : DriverId) :
    (t.modify id f).restarts = t.restarts := by
  unfold modify restarts
  split
  · rfl
  · rw [map_modify_of_eq hf]

theorem restarts_modify (h : t.find? id = some d) (f : DriverHealth → DriverHealth) :
    (t.modify id f).restarts + d.recovery.restarts =
      t.restarts + (f d).recovery.restarts := by
  unfold find? at h
  split at h
  · cases h
  · rename_i hid
    have hentry : numbered? t.drivers id.number = some d := by rwa [numbered?, if_neg hid]
    have hsum := sum_map_modify hentry f (·.recovery.restarts)
    rw [modify, if_neg hid]
    exact hsum

/-- A table that holds one driver more under its number holds it after the others. -/
theorem drivers_of_find?_eq (h : ∀ id, t'.find? id =
    if id = ⟨t.drivers.length + 1⟩ then some d else t.find? id) :
    t'.drivers = t.drivers ++ [d] := by
  refine List.ext_getElem? fun i => ?_
  have hentry := h ⟨i + 1⟩
  simp only [find?, Nat.add_one_ne_zero, if_false, Nat.add_sub_cancel, DriverId.mk.injEq,
    Nat.add_right_cancel_iff] at hentry
  rw [hentry, List.getElem?_append, List.getElem?_singleton]
  by_cases hnew : i = t.drivers.length
  · simp [hnew]
  · rw [if_neg hnew]
    by_cases hlt : i < t.drivers.length
    · rw [if_pos hlt]
    · rw [if_neg hlt, if_neg (by omega), List.getElem?_eq_none (by omega)]

theorem restarts_of_find?_eq (h : ∀ id, t'.find? id =
    if id = ⟨t.drivers.length + 1⟩ then some d else t.find? id) :
    t'.restarts = t.restarts + d.recovery.restarts := by
  simp [restarts, drivers_of_find?_eq h]

/-- A recovery is counted with the restart that it is due to. -/
theorem Recovers.perform (h : t.Recovers) (c : HealthCall) : (t.perform c).Recovers := by
  change t.Each fun d => d.recovery.recoveries ≤ d.recovery.restarts at h
  change (t.perform c).Each fun d => d.recovery.recoveries ≤ d.recovery.restarts
  cases c with
  | register name handle readings auto threshold nowNs =>
    rw [HealthTable.perform]
    cases hregister : t.register name handle readings auto threshold nowNs with
    | error e => exact h
    | ok answer =>
      obtain ⟨eval, t'⟩ := answer
      obtain ⟨e, -, -, -, hrecovery, -, -, hfind⟩ := register_ok hregister
      intro id d hd
      change t'.find? id = some d at hd
      rw [hfind] at hd
      split at hd
      · cases hd
        simp [hrecovery]
      · exact h id d hd
  | apply id readings nowNs => exact h.of_get _ fun _ hd => hd
  | recordRestart id => exact h.of_get _ fun _ hd => Nat.succ_le_succ hd
  | markFailed id nowNs attemptedRestart =>
    refine h.of_get _ fun d hd => ?_
    cases attemptedRestart with
    | true => exact Nat.le_succ_of_le hd
    | false => exact hd
  | setAutoRecovery id auto threshold =>
    rw [HealthTable.perform]
    cases hset : t.setAutoRecovery id auto threshold with
    | error e => exact h
    | ok t' =>
      obtain ⟨-, rfl⟩ := System.setAutoRecovery_ok hset
      exact h.modify fun d hd => h id d hd
  | noteLeak id => exact h.modify fun d hd => h id d hd
  | setAlerts alerts => exact h
  | release => exact each_of_drivers_eq_nil rfl

end HealthTable

namespace AllocationTracker

theorem consistent_release (t : AllocationTracker) : t.release.Consistent where
  length_le := Nat.zero_le _
  liveCount_eq := rfl
  liveBytes_le := Nat.le_refl _

end AllocationTracker

namespace Core

/-- Tables as they are created: without entries. -/
structure Tables.IsNew (tables : Tables) : Prop where
  registry_eq : tables.registry.metrics = []
  events_eq : ∃ capacity, 0 < capacity ∧ tables.events = { capacity }
  tracker_eq : ∃ capacity, tables.tracker = { capacity }

theorem answers_isNew (config : Config) :
    Reservation.Answers Tables.IsNew (acquireTables config) := by
  refine (Reservation.answers_acquire _ _).bind fun registry hregistry => ?_
  refine (Reservation.answers_acquire _ _).bind fun events hevents => ?_
  refine (Reservation.answers_acquire _ _).bind fun tracker htracker => .pure ?_
  obtain ⟨-, -, hregistry⟩ := Registry.bind_eq_ok hregistry
  obtain ⟨_, hcapacity, hevents⟩ := Registry.bind_eq_ok hevents
  obtain ⟨-, -, htracker⟩ := Registry.bind_eq_ok htracker
  cases hregistry
  cases hevents
  cases htracker
  refine ⟨rfl, ⟨_, ?_, rfl⟩, ⟨_, rfl⟩⟩
  unfold Table.checkCapacity at hcapacity
  split at hcapacity
  · cases hcapacity
  · rename_i hslots
    exact Nat.pos_of_ne_zero hslots

end Core

namespace System

/-- A property that moves, and what others do, leave to a core. -/
structure Stable (P : System → Prop) : Prop where
  move : ∀ {s t : System}, s.Move t → P s → P t
  outside : ∀ {s : System} (env : Environment), P s → P { s with env }

namespace Stable

variable {P : System → Prop}

theorem steps (h : Stable P) {s t : System} (hsteps : s.Steps t) (hs : P s) : P t :=
  related_of_chain (R := Maintains P) (fun hstep => h.move (.step hstep)) hsteps hs

theorem perform (h : Stable P) {s : System} (hs : P s) (x : Happening) : P (s.perform x) :=
  x.within_moves (R := Maintains P) h.move (x.outside_of_forall fun _ _ => h.outside _) s hs

theorem after (h : Stable P) {s : System} (hs : P s) (xs : List Happening) : P (s.after xs) := by
  induction xs generalizing s with
  | nil => exact hs
  | cons x rest ih => exact ih (h.perform hs x)

end Stable

/-- A core that has been shut down accepts no calls again. -/
theorem stable_closed : Stable (·.core.initialized = false) where
  move hmove h := by
    cases hmove with
    | step hstep =>
      cases hstep with
      | retired => exact initialized_retire _
      | _ => exact h
    | emitted | health | attempted => exact h
  outside _ h := h

theorem initialized_of_perform {s : System} {x : Happening}
    (h : (s.perform x).core.initialized = true) : s.core.initialized = true := by
  cases hready : s.core.initialized with
  | true => rfl
  | false => exact absurd (h.symm.trans (stable_closed.perform hready x)) (by decide)

/-- The ring of a core that accepts calls has been given as many events as have been counted. -/
def LogsEvents (s : System) : Prop :=
  s.core.initialized = true → s.core.events.Logged s.core.counters.eventsLogged

theorem stable_logsEvents : Stable LogsEvents where
  move hmove h := by
    cases hmove with
    | step hstep =>
      cases hstep with
      | emitted => exact fun hready => (h hready).pushFrom _ _ _ _
      | retired => exact fun hready => by simp at hready
      | _ => exact h
    | emitted => exact fun hready => (h hready).pushFrom _ _ _ _
    | health | attempted => exact h
  outside _ h := h

/-- As many updates have been counted as the metrics of a core that accepts calls have taken. -/
def CollectsUpdates (s : System) : Prop :=
  s.core.initialized = true → s.core.counters.metricsCollected = s.core.registry.updates

theorem CollectsUpdates.of_eq {s t : System} (h : s.CollectsUpdates)
    (hready : t.core.initialized = s.core.initialized)
    (hcounted : t.core.counters.metricsCollected = s.core.counters.metricsCollected)
    (hupdates : t.core.registry.updates = s.core.registry.updates) : t.CollectsUpdates := by
  intro ht
  rw [hcounted, hupdates]
  exact h (hready ▸ ht)

theorem Step.collectsUpdates {s t : System} (hstep : s.Step t) (h : s.CollectsUpdates) :
    t.CollectsUpdates := by
  cases hstep with
  | metricRegistered hregister => exact h.of_eq rfl rfl (Registry.updates_register hregister)
  | @metricUpdated id nowNs f before r hupdate _ verdict overheadNs =>
    intro hready
    have hqueued : (r.enqueue? verdict).updates = r.updates :=
      Registry.updates_of_metrics_eq (Registry.metrics_enqueue? r verdict)
    change s.core.counters.metricsCollected + 1 =
      ((r.enqueue? verdict).noteOverhead id overheadNs).updates
    rw [Registry.updates_noteOverhead, hqueued, Registry.updates_update hupdate, h hready]
  | metricEnabled hset => exact h.of_eq rfl rfl (Registry.updates_setEnabled hset)
  | ratesRolled => exact h.of_eq rfl rfl (Registry.updates_rollRates _ _)
  | retired => exact fun hready => by simp at hready
  | _ => exact h

theorem stable_collectsUpdates : Stable CollectsUpdates where
  move hmove h := by
    cases hmove with
    | step hstep => exact hstep.collectsUpdates h
    | emitted | health | attempted => exact h
  outside _ h := h

theorem stable_recovers : Stable (·.core.health.Recovers) where
  move hmove h := by
    obtain hsame | ⟨c, hperform, -⟩ := hmove.health_eq
    · rwa [hsame]
    · rw [hperform]
      exact h.perform c
  outside _ h := h

theorem stable_consistent : Stable (·.core.tracker.Consistent) where
  move hmove h := by
    cases hmove with
    | step hstep =>
      cases hstep with
      | @allocationTracked a t htrack =>
        have hkept := (h.alloc a).2.1
        rwa [AllocationTracker.perform_alloc_ok htrack] at hkept
      | @allocationFreed address a t hfree =>
        have hkept := (h.free address).2.1
        rwa [AllocationTracker.perform_free_ok hfree] at hkept
      | leaksScanned nowNs thresholdNs => exact (h.scan nowNs thresholdNs).2.1
      | retired =>
        unfold retire
        split
        · exact AllocationTracker.consistent_release _
        · exact h
      | _ => exact h
    | emitted | health | attempted => exact h
  outside _ h := h

/-- As many attempts to restart a driver have been counted as the drivers of a core that accepts
calls have had. -/
def AttemptsRestarts (s : System) : Prop :=
  s.core.initialized = true → s.core.counters.recoveriesAttempted = s.core.health.restarts

variable {s t : System}

theorem AttemptsRestarts.of_eq (h : s.AttemptsRestarts)
    (hready : t.core.initialized = s.core.initialized)
    (hcounted : t.core.counters.recoveriesAttempted = s.core.counters.recoveriesAttempted)
    (hrestarts : t.core.health.restarts = s.core.health.restarts) : t.AttemptsRestarts := by
  intro ht
  rw [hcounted, hrestarts]
  exact h (hready ▸ ht)

theorem Step.attemptsRestarts (hstep : s.Step t) (h : s.AttemptsRestarts) :
    t.AttemptsRestarts := by
  cases hstep with
  | leakNoted id =>
    refine h.of_eq rfl rfl (HealthTable.restarts_modify_of_eq (fun _ => ?_) _ id)
    rfl
  | @policySet id auto threshold health hset =>
    obtain ⟨-, rfl⟩ := setAutoRecovery_ok hset
    refine h.of_eq rfl rfl (HealthTable.restarts_modify_of_eq (fun _ => ?_) _ id)
    rfl
  | retired => exact fun hready => by simp at hready
  | _ => exact h

/-- Giving a driver up enters the attempt to restart it in its record, if there was one. -/
theorem restarts_giveUp {eval : Evaluation} {d : DriverHealth}
    (hd : s.core.health.find? eval.id = some d) (attempted : Bool) (reason : Option String) :
    (s.call (Core.giveUp eval attempted reason)).2.core.health.restarts =
      s.core.health.restarts + attempted.toNat := by
  obtain ⟨-, nowNs, hhealth⟩ := Core.giveUp_record hd attempted reason
  have hsum := HealthTable.restarts_modify hd (·.givenUp nowNs attempted)
  have hentered : (d.givenUp nowNs attempted).recovery.restarts =
      d.recovery.restarts + attempted.toNat := by
    cases attempted <;> rfl
  rw [hhealth]
  omega

theorem restarts_afterHook {eval : Evaluation} {d : DriverHealth}
    (hd : s.core.health.find? eval.id = some d) (failure : Option RecoveryError) :
    (s.call (Core.afterHook eval failure)).2.core.health.restarts =
      s.core.health.restarts + 1 := by
  cases failure with
  | none =>
    have hsum := HealthTable.restarts_modify hd DriverHealth.restarted
    have hentered : d.restarted.recovery.restarts = d.recovery.restarts + 1 := rfl
    change (s.call (Core.noteRestart eval)).2.core.health.restarts = _
    rw [(Core.noteRestart_record hd).2]
    omega
  | some failure => exact restarts_giveUp hd true _

/-- A recovery of a registered driver counts an attempt and enters it in the driver's record, or
does neither. -/
theorem AttemptsRestarts.recover (h : s.AttemptsRestarts) {eval : Evaluation} {d : DriverHealth}
    (hd : s.core.health.find? eval.id = some d) :
    (s.call (Core.recover eval)).2.AttemptsRestarts := by
  -- A core that accepts calls in the end has accepted them throughout, so the account was in order
  -- at the beginning, and the hook has not shut the core down.
  intro hfinal
  have hquiet : s.SameAccounts (s.call (Core.recover eval)).2 :=
    related_of_chain (fun hmove => hmove.1.2) (Core.movewise_recover eval s)
  have hready := (hquiet.sameBytes hfinal).1
  cases hhook : s.core.restartHook.filter (fun _ => eval.autoRecovery) with
  | none =>
    rw [Core.call_recover_none hhook, restarts_giveUp hd false none,
      (Core.sameAttempts_giveUp s eval false none).attempted_eq]
    exact h hready
  | some hook =>
    obtain ⟨t, hhealth, hsame, -, ⟨counters, hattempted, ht⟩, hrun⟩ := Core.call_recover_some hhook
    obtain ⟨env, -, -, -, -, hcall⟩ := Core.run_callHook t hook eval.handle
    rw [hrun, hcall] at hfinal ⊢
    by_cases hshuts : (t.hookOutcome hook).shutsDown = true
    · -- the hook has shut the core down
      rw [if_pos hshuts] at hfinal
      have hdead : (retire { t with env }).Dead :=
        dead_retire _ (.inr (hsame.initialized_eq.trans hready))
      exact absurd (hfinal.symm.trans (Core.afterHook_dead hdead _).1) (by decide)
    · have hfind : t.core.health.find? eval.id = some d := by rw [hhealth, hd]
      have hcounted : t.core.counters.recoveriesAttempted = counters.recoveriesAttempted := by
        rw [ht]
        rfl
      rw [if_neg hshuts, restarts_afterHook (s := { t with env }) hfind,
        (Core.sameAttempts_afterHook { t with env } eval _).attempted_eq]
      change t.core.counters.recoveriesAttempted = t.core.health.restarts + 1
      rw [hcounted, hattempted, hhealth, h hready]

theorem AttemptsRestarts.actOn (h : s.AttemptsRestarts) {eval : Evaluation} {d : DriverHealth}
    (hd : s.core.health.find? eval.id = some d) :
    (s.call (Core.actOn eval)).2.AttemptsRestarts := by
  unfold Core.actOn
  split
  · exact h.recover hd
  · exact h

theorem AttemptsRestarts.evaluateDriver (h : s.AttemptsRestarts) {id : DriverId} {d : DriverHealth}
    (hd : s.core.health.find? id = some d) (hid : d.id = id) (readings : DriverReadings) :
    (s.call (Core.evaluateDriver id readings)).2.AttemptsRestarts := by
  obtain ⟨nowNs, t, hhealth, hsame, hattempts, -, happlied⟩ := Core.call_applyReadings hd readings
  have hsum := HealthTable.restarts_modify hd
    fun _ => d.evaluated readings s.core.health.alerts nowNs
  have hkept : (d.evaluated readings s.core.health.alerts nowNs).recovery.restarts =
      d.recovery.restarts := rfl
  have ht : t.AttemptsRestarts := by
    refine h.of_eq hsame.initialized_eq hattempts.attempted_eq ?_
    rw [hhealth]
    omega
  have hfind : t.core.health.find?
      ((d.evaluated readings s.core.health.alerts nowNs).outcome d.status).id =
        some (d.evaluated readings s.core.health.alerts nowNs) := by
    change t.core.health.find? d.id = _
    rw [hid, hhealth, HealthTable.find?_modify_of_find? hd]
  rw [Core.call_evaluateDriver, call_andThen_ok happlied]
  exact ht.actOn hfind

theorem AttemptsRestarts.registerDriver (h : s.AttemptsRestarts) (handle : HandleRef) :
    (s.call (Core.registerDriver handle)).2.AttemptsRestarts := by
  rw [Core.call_registerDriver_enrol]
  obtain ⟨error, env, hattempts, hfailed⟩ | ⟨e, t, henrols, hattempts, -, hrecovery, henrolled⟩ :=
    Core.call_enrol s handle
  · rw [call_andThen_error hfailed]
    exact h
  · have ht : t.AttemptsRestarts := by
      refine h.of_eq henrols.initialized_eq hattempts.attempted_eq ?_
      rw [HealthTable.restarts_of_find?_eq henrols.find?_eq, hrecovery]
      rfl
    have hfind : t.core.health.find? (e.outcome .unknown).id = some e := by
      change t.core.health.find? e.id = some e
      rw [henrols.find?_eq, if_pos henrols.id_eq]
    rw [call_andThen_ok henrolled, call_andThen_pure]
    exact ht.actOn hfind

theorem AttemptsRestarts.course {Said : Message → Prop} {vs : List Visit}
    (h : s.AttemptsRestarts) (hs : s.Sound) (hcourse : Course Said s vs t) :
    t.AttemptsRestarts := by
  -- by induction on the course; that the core is sound gives the evaluated record its number
  induction hcourse with
  | nil => exact h
  | turn hturn _ ih =>
    refine ih ?_ (hs.turn hturn).1
    cases hturn with
    | step hstep => exact hstep.attemptsRestarts h
    | said => exact h
    | registered handle => exact h.registerDriver handle
    | outside env => exact h
  | @visit s u vs id d hd handle _ ih =>
    exact ih (h.evaluateDriver hd (hs.record id d hd).1 _) (hs.visit hd handle).1

/-- The tracker of a core that accepts calls has counted the bytes of the live allocations. -/
def CountsBytes (s : System) : Prop :=
  s.core.initialized = true → s.core.tracker.liveBytes = s.core.tracker.live.bytes

theorem CountsBytes.of_sameBytes (h : s.CountsBytes) (hsame : s.SameBytes t) : t.CountsBytes := by
  intro ht
  obtain ⟨hs, hlive, hcounted⟩ := hsame ht
  rw [hlive, hcounted]
  exact h hs

/-- A call of the tracker counts its bytes if what is live after it fits into a word. -/
theorem CountsBytes.tracked (h : s.CountsBytes) (hconsistent : s.core.tracker.Consistent)
    (c : TrackerCall)
    (hquiet : QuietSteps { s with core.tracker := (s.core.tracker.perform c).2 } t)
    (hfit : t.core.tracker.live.bytes ≤ Word.largest) : t.CountsBytes := by
  intro ht
  have hsame := hquiet.sameAccounts.sameBytes
  obtain ⟨hs, hlive, -⟩ := hsame ht
  refine CountsBytes.of_sameBytes (fun _ => ?_) hsame ht
  exact hconsistent.liveBytes_perform (h hs) c (hlive ▸ hfit)

theorem CountsBytes.perform (h : s.CountsBytes) (hconsistent : s.core.tracker.Consistent)
    (x : Happening) (hfit : (s.perform x).core.tracker.live.bytes ≤ Word.largest) :
    (s.perform x).CountsBytes := by
  cases hx : x.tracks with
  | false => exact h.of_sameBytes (x.same_bytes hx s)
  | true =>
    intro hready'
    have hready := initialized_of_perform hready'
    suffices hcounts : (s.perform x).CountsBytes from hcounts hready'
    cases x with
    | trackAlloc address size file line owner =>
      obtain ⟨u, record, hbefore, hafter⟩ := trackAlloc_steps hready address size file line owner
      have hu := h.of_sameBytes hbefore.sameAccounts.sameBytes
      exact hu.tracked (stable_consistent.steps hbefore.steps hconsistent) _ hafter hfit
    | trackFree address =>
      -- an address that is unknown is only counted
      obtain ⟨-, hafter⟩ | ⟨-, hafter⟩ := trackFree_steps hready address
      · exact h.tracked hconsistent _ hafter hfit
      · exact h.of_sameBytes hafter.sameAccounts.sameBytes
    | _ => cases hx

theorem CountsBytes.after (h : s.CountsBytes) (hconsistent : s.core.tracker.Consistent)
    {xs : List Happening}
    (hfit : ∀ ys, ys <+: xs → (s.after ys).core.tracker.live.bytes ≤ Word.largest) :
    (s.after xs).CountsBytes := by
  induction xs generalizing s with
  | nil => exact h
  | cons x rest ih =>
    have hfirst : (s.perform x).core.tracker.live.bytes ≤ Word.largest :=
      hfit [x] (List.prefix_cons_inj x |>.2 List.nil_prefix)
    refine ih (h.perform hconsistent x hfirst) (stable_consistent.perform hconsistent x) ?_
    exact fun ys hys => hfit (x :: ys) ((List.prefix_cons_inj x).2 hys)

section Start

variable {number : Nat} {config : Config} {env env' : Environment} {core : Core}

/-- What the accounts of a core are when it has started. -/
structure Opens (s : System) : Prop where
  logsEvents : s.LogsEvents
  logged_pos : 0 < s.core.counters.eventsLogged
  collectsUpdates : s.CollectsUpdates
  recovers : s.core.health.Recovers
  attemptsRestarts : s.AttemptsRestarts
  consistent : s.core.tracker.Consistent
  countsBytes : s.CountsBytes
  bytes_eq : s.core.initialized = true → s.core.tracker.live.bytes = 0
  leaks_eq : s.core.counters.leaksDetected = 0
  untracked_eq : s.core.counters.untrackedFrees = 0

/-- The core that stands on new tables has nothing in its accounts. -/
theorem accounts_ofTables {tables : Core.Tables} (h : tables.IsNew) (env : Environment)
    (number : Nat) (config : Config) (bytes : Nat) :
    let s : System := { env, core := Core.ofTables number config tables bytes }
    s.LogsEvents ∧ s.CollectsUpdates ∧ s.core.health.Recovers ∧ s.AttemptsRestarts ∧
      s.core.tracker.Consistent ∧ s.CountsBytes ∧ s.core.tracker.live.bytes = 0 := by
  obtain ⟨hregistry, ⟨capacity, hpos, hevents⟩, ⟨slots, htracker⟩⟩ := h
  refine ⟨fun _ => ?_, fun _ => ?_, fun id d hd => ?_, fun _ => rfl, ?_, fun _ => ?_, ?_⟩
  · change tables.events.Logged 0
    rw [hevents]
    exact EventRing.logged_new hpos
  · change 0 = tables.registry.updates
    rw [Registry.updates, hregistry]
    rfl
  · unfold HealthTable.find? at hd
    split at hd <;> cases hd
  · change tables.tracker.Consistent
    rw [htracker]
    exact AllocationTracker.consistent_new slots
  · change tables.tracker.liveBytes = tables.tracker.live.bytes
    rw [htracker]
    rfl
  · change tables.tracker.live.bytes = 0
    rw [htracker]
    rfl

theorem logged_of_log {message : String}
    (h : s.call (do let _ ← Core.log .info .core message : Call Unit) = (.ok (), t)) :
    0 < t.core.counters.eventsLogged := by
  have hlog : s.call (Core.log .info .core message) = s.call (Core.ensureReady >>= fun _ => _) :=
    rfl
  cases hready : s.core.initialized with
  | false =>
    have herror := hlog.trans (call_unready hready _)
    rw [call_andThen_error herror] at h
    cases (Prod.mk.inj h).1
  | true =>
    have hok := hlog.trans (call_ready hready _)
    rw [call_andThen_ok hok] at h
    cases (Prod.mk.inj h).2
    exact Nat.succ_pos _

/-- A core that has been completed has announced itself in its log. -/
theorem logged_of_complete (h : Core.complete s = (.ok (), t)) :
    0 < t.core.counters.eventsLogged := by
  unfold Core.complete at h
  split at h
  · cases h
  · unfold Core.announce at h
    rw [call_get_andThen] at h
    exact logged_of_log h

theorem opens_of_start (h : Core.start number config env = (.ok core, env')) :
    Opens { env := env', core } := by
  obtain ⟨s, hprepared, hcompleted⟩ := Core.start_ok h
  obtain ⟨-, tables, r, hacquired, rfl⟩ := Core.prepare_ok hprepared
  have hnew : tables.IsNew := Core.answers_isNew config _ tables (congrArg Prod.fst hacquired)
  obtain ⟨hlogs, hcollects, hrecovers, hattempts, hconsistent, hcounts, hbytes⟩ :=
    accounts_ofTables hnew r.env number config r.bytes
  have hquiet := Core.complete_quiet hcompleted
  have hsame := hquiet.sameAccounts
  have hsteps := hquiet.steps
  exact
    { logsEvents := stable_logsEvents.steps hsteps hlogs
      logged_pos := logged_of_complete hcompleted
      collectsUpdates := stable_collectsUpdates.steps hsteps hcollects
      recovers := stable_recovers.steps hsteps hrecovers
      attemptsRestarts := related_of_chain (R := Maintains AttemptsRestarts)
        (fun hstep => hstep.attemptsRestarts) hsteps hattempts
      consistent := stable_consistent.steps hsteps hconsistent
      countsBytes := hcounts.of_sameBytes hsame.sameBytes
      bytes_eq := fun hready => (hsame.sameBytes hready).2.1.trans hbytes
      leaks_eq := hsame.leaks_eq
      untracked_eq := hsame.untracked_eq }

end Start

theorem stable_logged : Stable (0 < ·.core.counters.eventsLogged) where
  move hmove h := by
    cases hmove with
    | step hstep =>
      cases hstep with
      | emitted => exact Nat.succ_pos _
      | retired =>
        unfold retire
        split
        · exact h
        · exact h
      | _ => exact h
    | emitted => exact Nat.succ_pos _
    | health | attempted => exact h
  outside _ h := h

/-- **The lifetime counters account for the tables.** After any happenings to a started core, and
until it is shut down, the events counted are those in the ring and those overwritten, and as many
as the number of the newest one; the updates counted are those that the metrics have taken; the
recoveries counted are the restarts attempted of all drivers, none of which has recovered more often
than that; the allocations counted are those live in the tracker, and the bytes their sizes, if
these have fit into a word; the leaks counted are those that scans have answered to be new; and the
frees counted as unknown are those that were answered so. -/
theorem counters_account_for_tables {number : Nat} {config : Config} {env env' : Environment}
    {core : Core} (hstart : Core.start number config env = (.ok core, env'))
    (xs : List Happening) :
    let start : System := { env := env', core }
    let s := start.after xs
    let stats := s.core.snapshot
    s.core.initialized = true →
      stats.eventsLogged = stats.eventsBuffered + stats.eventsOverwritten ∧
      s.core.events.toList.getLast?.map (·.id.number) = some stats.eventsLogged ∧
      stats.metricsCollected = (s.core.registry.metrics.map (·.updateCount)).sum ∧
      stats.recoveriesAttempted = (s.core.health.drivers.map (·.recovery.restarts)).sum ∧
      (∀ d ∈ s.core.health.drivers, d.recovery.recoveries ≤ d.recovery.restarts) ∧
      stats.trackedAllocations = s.core.tracker.live.card ∧
      stats.trackedBytes = s.core.tracker.liveBytes ∧
      ((∀ ys, ys <+: xs → (start.after ys).core.tracker.live.bytes ≤ Word.largest) →
        stats.trackedBytes = s.core.tracker.live.bytes) ∧
      stats.leaksDetected = ((start.scans xs).map (·.newLeaks)).sum ∧
      stats.untrackedFrees = (start.misses xs).length := by
  intro start s stats hready
  have hopens : start.Opens := opens_of_start hstart
  -- Restarts are accounted for along the course of the run; no other account needs more than moves.
  have hlogged : s.core.events.Logged s.core.counters.eventsLogged :=
    stable_logsEvents.after hopens.logsEvents xs hready
  have hattempts : s.AttemptsRestarts :=
    hopens.attemptsRestarts.course (Reachable.started hstart).sound (course_after start xs)
  have hrecovers : s.core.health.Recovers := stable_recovers.after hopens.recovers xs
  have hconsistent : s.core.tracker.Consistent := stable_consistent.after hopens.consistent xs
  refine ⟨hlogged.size_add_overwritten.symm, ?_, ?_, hattempts hready, ?_,
    hconsistent.liveCount_eq, rfl, fun hfit => ?_, ?_, ?_⟩
  · exact hlogged.getLast?_eq (stable_logged.after hopens.logged_pos xs)
  · exact stable_collectsUpdates.after hopens.collectsUpdates xs hready
  · intro d hd
    obtain ⟨i, hi⟩ := List.mem_iff_getElem?.1 hd
    exact hrecovers ⟨i + 1⟩ d (by simpa [HealthTable.find?] using hi)
  · exact hopens.countsBytes.after hopens.consistent hfit hready
  · have hleaks := start.leaks_after xs
    rwa [hopens.leaks_eq, Nat.zero_add] at hleaks
  · have hmisses := start.untracked_after xs
    rwa [hopens.untracked_eq, Nat.zero_add] at hmisses

/-- A driver is registered among overheated surroundings, and the restart that is due works. -/
def restartAtOnce : List Happening :=
  [.surroundings fun _ => { overheated with hooks := [{ outcomes := [] }] }, .setRestartHook ⟨0⟩,
   .registerDriver ⟨0⟩]

theorem counters_account_for_restart :
    ∃ core env, Core.start 0 impatient overheated = (.ok core, env) ∧
      let s := System.after { env, core } restartAtOnce
      s.core.initialized = true ∧ s.core.health.drivers.map (·.recovery.restarts) = [1] ∧
      s.core.snapshot.recoveriesAttempted = 1 ∧ s.core.tracker.live.bytes = 0 ∧
      s.core.snapshot.trackedBytes = 0 := by
  obtain ⟨core, env, hstart, hready, hconfig, hhealth, hhook⟩ := exists_impatient_start
  have haccounts := counters_account_for_tables hstart restartAtOnce
  have hbytes : core.tracker.live.bytes = 0 := (opens_of_start hstart).bytes_eq hready
  obtain ⟨hready', hrestarts, htracker⟩ :
      (System.after { env, core } restartAtOnce).core.initialized = true ∧
      (System.after { env, core } restartAtOnce).core.health.drivers.map (·.recovery.restarts) =
        [1] ∧
      ∀ ys, ys <+: restartAtOnce →
        (System.after { env, core } ys).core.tracker = core.tracker := by
    obtain ⟨number, config, initialized, enabled, registry, events, health, tracker, counters,
      predefined, collectors, hook⟩ := core
    dsimp only at hready hconfig hhealth hhook
    subst hready hconfig hhealth hhook
    refine ⟨rfl, rfl, fun ys hys => ?_⟩
    simp only [restartAtOnce, List.prefix_cons_iff, List.prefix_nil] at hys
    obtain rfl | ⟨_, rfl, rfl | ⟨_, rfl, rfl | ⟨_, rfl, rfl⟩⟩⟩ := hys <;> rfl
  obtain ⟨-, -, -, hattempted, -, -, -, htracked, -⟩ := haccounts hready'
  have hlive := congrArg (·.live.bytes) (htracker _ (List.prefix_refl _))
  have hcounted := htracked fun ys hys => by
    rw [htracker ys hys, hbytes]
    exact Nat.zero_le _
  rw [hrestarts] at hattempted
  exact ⟨core, env, hstart, hready', hrestarts, hattempted, hlive.trans hbytes,
    hcounted.trans (hlive.trans hbytes)⟩

end System

end DriverTelemetry
