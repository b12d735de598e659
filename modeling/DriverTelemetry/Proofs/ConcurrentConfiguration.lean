import DriverTelemetry.Proofs.Configuration
import DriverTelemetry.Proofs.Interleaving

/-!
# Reconfigurations at the same time

A reconfiguration stores the configuration in one critical section and hands its thresholds over to
the health table in another. Between the two others can do the same, so the thresholds that the
health table ends up with are those of the call that handed over last, which need not be the one
that stored last.
-/

namespace DriverTelemetry

namespace Core

/-- The first section of a reconfiguration: what applies of a valid configuration is stored. -/
def storeConfig (config : Config) : Call Unit := do
  ensureReady
  match config.validate with
  | .error e => throw e.toTelemetryError
  | .ok () => change (installConfig config)

theorem call_storeConfig (s : System) (config : Config) :
    s.call (storeConfig config) = (.ok (), { s with core := installConfig config s.core }) ∨
      ∃ e, s.call (storeConfig config) = (.error e, s) := by
  have hrun : s.call (storeConfig config) = s.call (ensureReady >>= fun _ => _) := rfl
  cases hready : s.core.initialized with
  | false =>
    rw [hrun, System.call_unready hready]
    exact .inr ⟨_, rfl⟩
  | true =>
    rw [hrun, System.call_ready hready]
    cases config.validate with
    | error e => exact .inr ⟨_, rfl⟩
    | ok u => exact .inl rfl

theorem call_configure (s : System) (config : Config) :
    s.call (configure config) =
      s.call (storeConfig config >>= fun _ => change (installAlerts config.alerts)) := by
  have hrun : s.call (configure config) = s.call (ensureReady >>= fun _ => _) := rfl
  have hrun' : s.call (storeConfig config >>= fun _ => change (installAlerts config.alerts)) =
      s.call ((ensureReady >>= fun _ => _) >>= fun _ => _) := rfl
  rw [hrun, hrun', bind_assoc]
  cases hready : s.core.initialized with
  | false => rw [System.call_unready hready, System.call_unready hready]
  | true =>
    rw [System.call_ready hready, System.call_ready hready]
    cases config.validate with
    | error e => rfl
    | ok u => rfl

end Core

/-- How far a reconfiguration has come. -/
inductive Reconfiguring where
  | requested (config : Config)
  /-- The configuration is stored, and its thresholds are still to be handed over. -/
  | stored (config : Config)
  | finished (outcome : Except TelemetryError Unit)

namespace Reconfiguring

def afterStoring (config : Config) : Except TelemetryError Unit → Reconfiguring
  | .ok () => stored config
  | .error e => finished (.error e)

def advance : Reconfiguring → Action Reconfiguring
  | requested config => afterStoring config <$> (Core.storeConfig config).run
  | stored config => do
    Core.change (Core.installAlerts config.alerts)
    return finished (.ok ())
  | finished outcome => return finished outcome

def stored? : Reconfiguring → Option Config
  | stored config => some config
  | _ => none

end Reconfiguring

namespace Interleaving

open Reconfiguring (requested stored finished advance afterStoring)

/-- A reconfiguration that nothing comes in between of is a call of `Core.configure`. -/
theorem run_reconfiguration (s : System) (config : Config) :
    run advance { system := s, stages := [requested config] } [.call 0, .call 0] =
      { system := (s.call (Core.configure config)).2
        stages := [finished (s.call (Core.configure config)).1] } := by
  let first := s.call (Core.storeConfig config)
  let second := (advance (afterStoring config first.1)).run first.2
  change Interleaving.mk second.2 [second.1] = _
  rw [Core.call_configure]
  obtain hstored | ⟨e, hrefused⟩ := Core.call_storeConfig s config
  · rw [System.call_andThen_ok hstored]
    unfold second first
    rw [hstored]
    rfl
  · rw [System.call_andThen_error hrefused]
    unfold second first
    rw [hrefused]
    rfl

/-- The configurations that have been stored, in order. -/
def storedIn (ps : List (Passage Reconfiguring)) : List Config := ps.filterMap (·.next.stored?)

/-- The configurations whose thresholds have been handed over, in order. -/
def handedOverIn (ps : List (Passage Reconfiguring)) : List Config :=
  ps.filterMap (·.stage.stored?)

/-- The thresholds of the last configuration in a list, if there is one. -/
def lastAlerts (configs : List Config) (initial : AlertThresholds) : AlertThresholds :=
  (configs.getLast?.map (·.alerts)).getD initial

theorem lastAlerts_append (configs : List Config) (config? : Option Config)
    (initial : AlertThresholds) :
    lastAlerts (configs ++ config?.toList) initial =
      lastAlerts config?.toList (lastAlerts configs initial) := by
  unfold lastAlerts
  cases config? with
  | none => rw [Option.toList_none, List.append_nil]; rfl
  | some config => rw [Option.toList_some, List.getLast?_concat]; rfl

theorem lastAlerts_eq_iff {l m : List Config} (h : l.length = m.length)
    {initial : AlertThresholds} :
    lastAlerts l initial = lastAlerts m initial ↔
      l.getLast?.map (·.alerts) = m.getLast?.map (·.alerts) := by
  unfold lastAlerts
  obtain rfl | ⟨l, c, rfl⟩ := l.eq_nil_or_concat
  · obtain rfl : m = [] := List.length_eq_zero_iff.1 h.symm
    exact iff_of_true rfl rfl
  · obtain rfl | ⟨m, d, rfl⟩ := m.eq_nil_or_concat
    · simp at h
    · simp

theorem storedIn_concat (ps : List (Passage Reconfiguring)) (p : Passage Reconfiguring) :
    storedIn (ps ++ [p]) = storedIn ps ++ p.next.stored?.toList := by
  unfold storedIn
  rw [List.filterMap_append]
  cases hnext : p.next.stored? <;> simp [hnext]

theorem handedOverIn_concat (ps : List (Passage Reconfiguring)) (p : Passage Reconfiguring) :
    handedOverIn (ps ++ [p]) = handedOverIn ps ++ p.stage.stored?.toList := by
  unfold handedOverIn
  rw [List.filterMap_append]
  cases hstage : p.stage.stored? <;> simp [hstage]

/-- What the passages so far have made of the thresholds: the configuration has those that were
stored last, the health table those that were handed over last, and the calls in between have yet to
hand theirs over. -/
structure Follows (initial : AlertThresholds) (ps : List (Passage Reconfiguring))
    (t : Interleaving Reconfiguring) : Prop where
  config_eq : t.system.core.config.alerts = lastAlerts (storedIn ps) initial
  health_eq : t.system.core.health.alerts = lastAlerts (handedOverIn ps) initial
  length_eq : (storedIn ps).length =
    (handedOverIn ps).length + t.stages.countP (·.stored?.isSome)

/-- A passage makes the thresholds of the configuration those that it stores and the thresholds of
the health table those that it hands over, if there are any. -/
theorem alerts_passage (t : Interleaving Reconfiguring) (i : Nat) (stage : Reconfiguring) :
    let p := t.passage advance i stage
    p.after.system.core.config.alerts =
        lastAlerts p.next.stored?.toList t.system.core.config.alerts ∧
      p.after.system.core.health.alerts =
        lastAlerts stage.stored?.toList t.system.core.health.alerts := by
  cases stage with
  | requested config =>
    let first := t.system.call (Core.storeConfig config)
    change first.2.core.config.alerts =
        lastAlerts (afterStoring config first.1).stored?.toList t.system.core.config.alerts ∧
      first.2.core.health.alerts = t.system.core.health.alerts
    obtain hstored | ⟨e, hrefused⟩ := Core.call_storeConfig t.system config
    · unfold first
      rw [hstored]
      exact ⟨rfl, rfl⟩
    · unfold first
      rw [hrefused]
      exact ⟨rfl, rfl⟩
  | stored config => exact ⟨rfl, rfl⟩
  | finished outcome => exact ⟨rfl, rfl⟩

theorem Follows.passage {initial : AlertThresholds} {ps : List (Passage Reconfiguring)}
    {t : Interleaving Reconfiguring} (h : Follows initial ps t) (i : Nat) {stage : Reconfiguring}
    (hstage : t.stages[i]? = some stage) :
    Follows initial (ps ++ [t.passage advance i stage]) (t.passage advance i stage).after := by
  obtain ⟨hconfig, hhealth⟩ := alerts_passage t i stage
  have hcount := countP_passage advance hstage (·.stored?.isSome)
  have hlength : ∀ config? : Option Config,
      config?.toList.length = if config?.isSome then 1 else 0 := by
    intro config?
    cases config? <;> rfl
  refine ⟨?_, ?_, ?_⟩
  · rw [storedIn_concat, lastAlerts_append, ← h.config_eq, hconfig]
  · rw [handedOverIn_concat, lastAlerts_append, ← h.health_eq]
    exact hhealth
  · have hbefore := h.length_eq
    have hthis : (t.passage advance i stage).stage = stage := rfl
    rw [storedIn_concat, handedOverIn_concat, List.length_append, List.length_append, hlength,
      hlength, hthis]
    omega

/-- Once every one of the reconfigurations has returned, the health table has the thresholds of the
stored configuration if those that were handed over last are those that were stored last. -/
theorem alerts_agree_iff {s : System} (h : s.Reachable) (configs : List Config)
    (schedule : List Choice) :
    let start : Interleaving Reconfiguring := { system := s, stages := configs.map requested }
    let ps := start.passages advance schedule
    let t := start.run advance schedule
    (∀ stage ∈ t.stages, ∃ outcome, stage = finished outcome) →
      (t.system.core.health.alerts = t.system.core.config.alerts ↔
        (handedOverIn ps).getLast?.map (·.alerts) = (storedIn ps).getLast?.map (·.alerts)) := by
  intro start ps t hdone
  have hstart : Follows s.core.config.alerts [] start := by
    obtain ⟨config, hagree⟩ := h.agree
    have hnone : start.stages.countP (·.stored?.isSome) = 0 := by
      refine List.countP_eq_zero.2 fun stage hmem => ?_
      obtain ⟨config, -, rfl⟩ := List.mem_map.1 hmem
      exact Bool.false_ne_true
    exact ⟨rfl, hagree.alerts_eq, by rw [hnone]; rfl⟩
  have hend : Follows s.core.config.alerts ps t :=
    run_induction (fun i _ hstage h => h.passage i hstage) (fun _ h => ⟨h.1, h.2, h.3⟩) hstart
  have hnone : t.stages.countP (·.stored?.isSome) = 0 := by
    refine List.countP_eq_zero.2 fun stage hmem => ?_
    obtain ⟨outcome, rfl⟩ := hdone stage hmem
    exact Bool.false_ne_true
  have hlength := hend.length_eq
  rw [hnone, Nat.add_zero] at hlength
  rw [hend.config_eq, hend.health_eq, lastAlerts_eq_iff hlength.symm]

def strict : Config := { alerts := { alert := 50, critical := 60 } }

def lenient : Config := { alerts := { alert := 90, critical := 99 } }

/-- Two reconfigurations one after the other. -/
theorem alerts_agree_without_overlap :
    ∃ s : System, s.Reachable ∧
      let start : Interleaving Reconfiguring :=
        { system := s, stages := [strict, lenient].map requested }
      let t := start.run advance [.call 0, .call 0, .call 1, .call 1]
      (∀ stage ∈ t.stages, ∃ outcome, stage = finished outcome) ∧
        t.system.core.health.alerts = t.system.core.config.alerts := by
  obtain ⟨core, hreachable, hready, hconfig, hhealth, hhook⟩ := System.exists_impatient
  let s : System := { env := System.overheated, core }
  obtain ⟨number, config, initialized, enabled, registry, events, health, tracker, counters,
    predefined, collectors, hook⟩ := core
  dsimp only at hready hconfig hhealth hhook
  subst hready hconfig hhealth hhook
  have hstages : (run advance { system := s, stages := [strict, lenient].map requested }
      [.call 0, .call 0, .call 1, .call 1]).stages = [finished (.ok ()), finished (.ok ())] := rfl
  have hdone : ∀ stage ∈ (run advance { system := s, stages := [strict, lenient].map requested }
      [.call 0, .call 0, .call 1, .call 1]).stages, ∃ outcome, stage = finished outcome := by
    rw [hstages]
    intro stage hmem
    exact ⟨_, List.eq_of_mem_replicate (n := 2) hmem⟩
  exact ⟨s, hreachable, hdone, (alerts_agree_iff hreachable [strict, lenient] _ hdone).2 rfl⟩

/-- The call that has stored first can be the one that hands over last. -/
theorem alerts_disagree_after_overlap :
    ¬∀ (s : System) (configs : List Config) (schedule : List Choice),
      let start : Interleaving Reconfiguring := { system := s, stages := configs.map requested }
      let t := start.run advance schedule
      s.Reachable → (∀ stage ∈ t.stages, stage = finished (.ok ())) →
        t.system.core.health.alerts = t.system.core.config.alerts := by
  intro hclaim
  obtain ⟨core, hreachable, hready, hconfig, hhealth, hhook⟩ := System.exists_impatient
  obtain ⟨number, config, initialized, enabled, registry, events, health, tracker, counters,
    predefined, collectors, hook⟩ := core
  dsimp only at hready hconfig hhealth hhook
  subst hready hconfig hhealth hhook
  have hagree := hclaim _ [strict, lenient] [.call 0, .call 1, .call 1, .call 0] hreachable
    fun stage hmem => List.eq_of_mem_replicate (n := 2) hmem
  exact absurd (show strict.alerts = lenient.alerts from hagree) (by decide)

end Interleaving

end DriverTelemetry
