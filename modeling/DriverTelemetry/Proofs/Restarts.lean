import DriverTelemetry.Proofs.Recovery

/-!
# When a driver is acted on

A driver is acted on if the restart hook is called for it or if it is given up. Both come from an
evaluation that calls for recovery, be it the first one of a driver, at its registration, or a later
one. `DriverHealth.callsForRecovery_iff` says which evaluations of a record do: those that bring the
count of failing evaluations to the threshold and find the driver in a critical condition, but also
those that do so and find a driver that has been given up in any other condition. Apart from the
latter, a driver that is doing well is never acted on.
-/

namespace DriverTelemetry

namespace HealthStatus

theorem observe_ne_failed (cpuPercent crashes : Nat) (alerts : AlertThresholds) :
    observe cpuPercent crashes alerts ≠ failed := by
  unfold observe
  split
  · decide
  · split
    · decide
    · split
      · decide
      · decide

theorem isFailing_iff {st : HealthStatus} : st.isFailing = true ↔ st = critical ∨ st = failed := by
  cases st <;> decide

/-- An evaluation ends in `Critical` if it finds a critical condition, and in the case of a driver
that has been given up if it does not. -/
theorem next_eq_critical {observed : HealthStatus} (h : observed ≠ failed) (st : HealthStatus) :
    st.next observed = critical ↔ (observed = critical ↔ st ≠ failed) := by
  cases observed with
  | failed => exact absurd rfl h
  | _ => cases st <;> decide

end HealthStatus

namespace DriverHealth

variable {d : DriverHealth} {alerts : AlertThresholds} {r : DriverReadings}

/-- Recovery is due if the status reached is `Critical` and the count has come to the threshold. -/
theorem recoveryDue_iff (hpos : 0 < d.recovery.threshold) (nowNs : Nat) :
    ((d.evaluated r alerts nowNs).outcome d.status).recoveryDue = true ↔
      (d.evaluated r alerts nowNs).status = .critical ∧
        d.recovery.threshold ≤ d.recovery.failures + 1 := by
  let after := (d.evaluated r alerts nowNs).status
  change (after != .failed &&
    decide (d.recovery.threshold ≤ if after.isFailing then d.recovery.failures + 1 else 0)) = true ↔
      after = .critical ∧ _
  cases after with
  | critical | failed => simp [HealthStatus.isFailing]
  | unknown | healthy | degraded | warning =>
    simp [HealthStatus.isFailing, hpos.ne']

theorem callsForRecovery_iff (hpos : 0 < d.recovery.threshold) :
    d.CallsForRecovery alerts r ↔
      (.observe r.cpuPercent r.crashes alerts = HealthStatus.critical ↔ d.status ≠ .failed) ∧
        d.recovery.threshold ≤ d.recovery.failures + 1 := by
  have hnext := HealthStatus.next_eq_critical
    (HealthStatus.observe_ne_failed r.cpuPercent r.crashes alerts) d.status
  rw [← hnext]
  constructor
  · rintro ⟨nowNs, hdue⟩
    exact (recoveryDue_iff hpos nowNs).1 hdue
  · intro h
    exact ⟨0, (recoveryDue_iff hpos 0).2 h⟩

end DriverHealth

namespace System

/-- Between two systems the restart hook has been called once, and the attempt has been counted. -/
def CallsHook (s t : System) : Prop :=
  ∃ hook name, s.core.restartHook = some hook ∧
    t.env.hooks =
      s.env.hooks.modify hook.index (fun h => { h with calls := h.calls ++ [name] }) ∧
    t.core.counters.recoveriesAttempted = s.core.counters.recoveriesAttempted + 1

/-- A driver has been given up and not been evaluated since then: it has failed, but no failing
evaluation is counted. -/
def HasGivenUp (s : System) (id : DriverId) : Prop :=
  ∃ d, s.core.health.find? id = some d ∧ d.status = .failed ∧ d.recovery.failures = 0

variable {s t u : System}

theorem SameAttempts.not_callsHook (h : s.SameAttempts t) : ¬s.CallsHook t := by
  rintro ⟨hook, name, -, -, hattempted⟩
  rw [h.attempted_eq] at hattempted
  omega

theorem SameAttempts.callsHook (h : s.SameAttempts t) (hsame : s.SameStanding t)
    (hcalls : t.CallsHook u) : s.CallsHook u := by
  obtain ⟨hook, name, hhook, hcalled, hattempted⟩ := hcalls
  rw [hsame.restartHook_eq] at hhook
  rw [h.hooks_eq] at hcalled
  rw [h.attempted_eq] at hattempted
  exact ⟨hook, name, hhook, hcalled, hattempted⟩

end System

namespace Core

open DriverTelemetry.System

variable {s : System} {eval : Evaluation} {d : DriverHealth}

theorem sameAttempts_giveUp (s : System) (eval : Evaluation) (attempted : Bool)
    (reason : Option String) : s.SameAttempts (s.call (giveUp eval attempted reason)).2 := by
  have hrun : s.call (giveUp eval attempted reason) = System.call (readClock.run s).2
      (onHealth (·.markFailed eval.id (readClock.run s).1 attempted) >>= _) := rfl
  rw [hrun]
  cases hfailed : s.core.health.markFailed eval.id (readClock.run s).1 attempted with
  | ok answer =>
    rw [call_andThen_ok (call_onHealth_ok hfailed)]
    exact ⟨rfl, rfl⟩
  | error e =>
    rw [call_andThen_error (call_onHealth_error hfailed)]
    exact ⟨rfl, rfl⟩

theorem sameAttempts_noteRestart (s : System) (eval : Evaluation) :
    s.SameAttempts (s.call (noteRestart eval)).2 := by
  unfold noteRestart
  rw [call_get_andThen]
  split
  · exact ⟨rfl, rfl⟩
  · exact ⟨rfl, rfl⟩

theorem sameAttempts_afterHook (s : System) (eval : Evaluation) (failure : Option RecoveryError) :
    s.SameAttempts (s.call (afterHook eval failure)).2 := by
  cases failure with
  | none => exact sameAttempts_noteRestart s eval
  | some failure => exact sameAttempts_giveUp s eval true _

/-- A recovery calls the restart hook or gives the driver up. -/
theorem recover_acts (hd : s.core.health.find? eval.id = some d) :
    s.CallsHook (s.call (recover eval)).2 ∨ (s.call (recover eval)).2.HasGivenUp eval.id := by
  cases hhook : s.core.restartHook.filter (fun _ => eval.autoRecovery) with
  | none =>
    obtain ⟨-, nowNs, hhealth⟩ := giveUp_record hd false none
    rw [call_recover_none hhook]
    refine .inr ⟨d.givenUp nowNs false, ?_, rfl, rfl⟩
    rw [hhealth, HealthTable.find?_modify_of_find? hd]
  | some hook =>
    obtain ⟨t, -, -, hhooks, ⟨counters, hattempted, ht⟩, hrun⟩ := call_recover_some hhook
    obtain ⟨env, -, -, hcalled, -, hcall⟩ := run_callHook t hook eval.handle
    let called : System := ((callHook hook eval.handle).run t).2
    have hcalledEq : called = if (t.hookOutcome hook).shutsDown then retire { t with env }
        else { t with env } := congrArg Prod.snd hcall
    have hattempts : SameAttempts { t with env } called := by
      rw [hcalledEq]
      split
      · unfold retire
        split
        · exact ⟨rfl, rfl⟩
        · exact ⟨rfl, rfl⟩
      · exact ⟨rfl, rfl⟩
    have hafter := hattempts.trans
      (sameAttempts_afterHook called eval ((callHook hook eval.handle).run t).1)
    have hcounted : t.core.counters.recoveriesAttempted = counters.recoveriesAttempted := by
      rw [ht]
      rfl
    rw [hrun]
    refine .inl ⟨hook, t.env.handleName eval.handle, (Option.filter_eq_some_iff.1 hhook).1, ?_, ?_⟩
    · rw [hafter.hooks_eq, ← hhooks]
      exact hcalled
    · rw [hafter.attempted_eq, ← hattempted, ← hcounted]

theorem call_actOn_of_not_due (s : System) (hdue : eval.recoveryDue = false) :
    s.call (actOn eval) = (.ok eval.after, s) := by
  unfold actOn
  rw [hdue]
  rfl

/-- What comes of an evaluation that has been stored in between: the driver is acted on if that is
due, and otherwise no restart is attempted. -/
theorem actOn_acts {t : System} (hsame : s.SameStanding t) (hattempts : s.SameAttempts t)
    (hd : t.core.health.find? eval.id = some d)
    (hcounted : d.status = .failed → d.recovery.failures ≠ 0) :
    (s.CallsHook (t.call (actOn eval)).2 ∨ (t.call (actOn eval)).2.HasGivenUp eval.id ↔
        eval.recoveryDue = true) ∧
      (eval.recoveryDue = false → s.SameAttempts (t.call (actOn eval)).2) := by
  cases hdue : eval.recoveryDue with
  | false =>
    rw [call_actOn_of_not_due t hdue]
    refine ⟨iff_of_false ?_ Bool.false_ne_true, fun _ => hattempts⟩
    rintro (hcalled | ⟨d', hd', hfailed, hfailures⟩)
    · exact hattempts.not_callsHook hcalled
    · rw [hd, Option.some.injEq] at hd'
      subst hd'
      exact hcounted hfailed hfailures
  | true =>
    rw [actOn, if_pos hdue]
    have hacts := (recover_acts hd).imp_left (hattempts.callsHook hsame)
    exact ⟨iff_of_true hacts rfl, fun hnot => absurd hnot.symm Bool.false_ne_true⟩

end Core

namespace Visit

/-- The restart hook is called for the driver, or the driver is given up. -/
def Acts (v : Visit) : Prop := v.before.CallsHook v.after ∨ v.after.HasGivenUp v.id

/-- The visit finds that a driver which has been given up is not in a critical condition any more,
but its step up to `Critical` counts as failing and brings the count to the threshold. -/
def Misjudges (v : Visit) : Prop :=
  ∃ d, v.recordBefore? = some d ∧ d.status = .failed ∧ v.observation ≠ .critical ∧
    d.recovery.threshold ≤ d.recovery.failures + 1

end Visit

namespace System

variable {Said : Message → Prop} {s t : System} {id : DriverId} {d : DriverHealth} {v : Visit}

/-- The first evaluation of a driver, in a registration that gets that far. -/
def enrolment (s : System) (handle : HandleRef) : Visit where
  id := ⟨s.core.health.drivers.length + 1⟩
  readings := s.env.readHandle handle
  before := s
  after := (s.call (Core.registerDriver handle)).2

/-- The evaluations that a happening brings about, with the first one of a driver. -/
def evaluationsOf (s : System) : Happening → List Visit
  | .registerDriver handle => [s.enrolment handle]
  | x => s.visitsOf x

theorem recordBefore?_enrolment (s : System) (handle : HandleRef) :
    (s.enrolment handle).recordBefore? = none :=
  HealthTable.find?_fresh _

theorem mem_evaluationsOf {x : Happening} (hv : v ∈ s.evaluationsOf x) :
    (∃ handle, v = s.enrolment handle) ∨ v ∈ s.visitsOf x := by
  cases x with
  | registerDriver handle => exact .inl ⟨handle, List.mem_singleton.1 hv⟩
  | _ => exact .inr hv

theorem Course.of_mem {vs : List Visit} (h : Course Said s vs t) (hs : s.Sound) (hv : v ∈ vs) :
    v.before.Sound ∧ (∃ handle, v = v.before.visit v.id handle) ∧
      ∃ d, v.recordBefore? = some d := by
  induction h with
  | nil => cases hv
  | turn hturn _ ih => exact ih (hs.turn hturn).1 hv
  | visit hd handle _ ih =>
    obtain rfl | hlater := List.mem_cons.1 hv
    · exact ⟨hs, ⟨handle, rfl⟩, _, hd⟩
    · exact ih (hs.visit hd handle).1 hlater

/-- A visit acts on the driver if it calls for recovery, and otherwise attempts no restart. -/
theorem Sound.visit_acts (hs : s.Sound) (hd : s.core.health.find? id = some d)
    (handle : HandleRef) :
    ((s.visit id handle).Acts ↔
        d.CallsForRecovery s.core.health.alerts (s.env.readHandle handle)) ∧
      (¬(s.visit id handle).Acts → s.SameAttempts (s.visit id handle).after) := by
  obtain ⟨nowNs, t, hhealth, hsame, hattempts, -, happlied⟩ :=
    Core.call_applyReadings hd (s.env.readHandle handle)
  let e := d.evaluated (s.env.readHandle handle) s.core.health.alerts nowNs
  have hafter : (s.visit id handle).after = (t.call (Core.actOn (e.outcome d.status))).2 := by
    change (s.call (Core.evaluateDriver id (s.env.readHandle handle))).2 = _
    rw [Core.call_evaluateDriver, call_andThen_ok happlied]
  have hid : (e.outcome d.status).id = id := (hs.record id d hd).1
  have hrecord : t.core.health.find? (e.outcome d.status).id = some e := by
    rw [hid, hhealth, HealthTable.find?_modify_of_find? hd]
  have hcounted : e.status = .failed → e.recovery.failures ≠ 0 := by
    intro hfailed
    change (if e.status.isFailing then d.recovery.failures + 1 else 0) ≠ 0
    rw [hfailed]
    exact Nat.succ_ne_zero _
  have hcalls : d.CallsForRecovery s.core.health.alerts (s.env.readHandle handle) ↔
      (e.outcome d.status).recoveryDue = true :=
    ⟨fun ⟨_, hdue⟩ => hdue, fun hdue => ⟨nowNs, hdue⟩⟩
  obtain ⟨hacts, hkept⟩ := Core.actOn_acts hsame hattempts hrecord hcounted
  rw [hid, ← hafter] at hacts
  rw [← hafter] at hkept
  exact ⟨hacts.trans hcalls.symm, fun hnot => hkept (Bool.eq_false_iff.2 (mt hacts.2 hnot))⟩

/-- The registration of a driver acts on it only if it is in a critical condition, and otherwise
attempts no restart. -/
theorem Sound.enrolment_acts (hs : s.Sound) (handle : HandleRef) :
    ((s.enrolment handle).Acts → (s.enrolment handle).observation = .critical) ∧
      (¬(s.enrolment handle).Acts → s.SameAttempts (s.enrolment handle).after) := by
  obtain ⟨error, env, hattempts, hfailed⟩ |
    ⟨e, t, henrols, hattempts, hstatus, hrecovery, henrolled⟩ := Core.call_enrol s handle
  · have hafter : (s.enrolment handle).after = { s with env } := by
      change (s.call (Core.registerDriver handle)).2 = _
      rw [Core.call_registerDriver_enrol, call_andThen_error hfailed]
    unfold Visit.Acts
    rw [hafter]
    refine ⟨?_, fun _ => hattempts⟩
    rintro (hcalled | ⟨d, hd, -⟩)
    · exact absurd hcalled hattempts.not_callsHook
    · exact absurd (hd.symm.trans (recordBefore?_enrolment s handle)) (Option.some_ne_none d)
  · have hafter : (s.enrolment handle).after = (t.call (Core.actOn (e.outcome .unknown))).2 := by
      change (s.call (Core.registerDriver handle)).2 = _
      rw [Core.call_registerDriver_enrol, call_andThen_ok henrolled, call_andThen_pure]
    have hfind : t.core.health.find? (e.outcome .unknown).id = some e := by
      rw [henrols.find?_eq, show (e.outcome .unknown).id = _ from henrols.id_eq, if_pos rfl]
    have hid : (s.enrolment handle).id = (e.outcome .unknown).id := henrols.id_eq.symm
    have hne : e.status ≠ .failed := by
      rw [hstatus]
      exact HealthStatus.observe_ne_failed _ _ _
    obtain ⟨hacts, hkept⟩ := Core.actOn_acts henrols.toSameStanding hattempts hfind
      fun hfailed => absurd hfailed hne
    unfold Visit.Acts
    rw [hafter, hid]
    refine ⟨fun hacting => ?_, fun hnot => hkept (Bool.eq_false_iff.2 (mt hacts.2 hnot))⟩
    -- the count is at most one, so it has come to the threshold because the driver is failing
    have hle : e.recovery.threshold ≤ e.recovery.failures :=
      of_decide_eq_true (Bool.and_eq_true_iff.1 (hacts.1 hacting)).2
    have hpos := hs.configured henrols.ready
    have hfailing : e.status.isFailing = true := by
      by_contra hcalm
      rw [hrecovery, if_neg hcalm] at hle
      exact absurd hle (Nat.not_le.2 hpos)
    have hcritical := (HealthStatus.isFailing_iff.1 hfailing).resolve_right hne
    exact hstatus.symm.trans hcritical

/-- An evaluation of a driver acts on it only if the driver is in a critical condition, except that
the first step up of a driver that has been given up can be one failing evaluation too many. An
evaluation that does not act on the driver attempts no restart. -/
theorem acts_only_in_critical_condition (h : s.Reachable) (x : Happening)
    (hv : v ∈ s.evaluationsOf x) :
    ((v.Acts → v.observation = .critical) ↔ ¬v.Misjudges) ∧
      (¬v.Acts → v.before.SameAttempts v.after) := by
  obtain ⟨handle, rfl⟩ | hvisit := mem_evaluationsOf hv
  · obtain ⟨hcritical, hkept⟩ := h.sound.enrolment_acts handle
    refine ⟨iff_of_true hcritical ?_, hkept⟩
    rintro ⟨d, hd, -⟩
    exact Option.some_ne_none d (hd.symm.trans (recordBefore?_enrolment s handle))
  · obtain ⟨hs, ⟨handle, hvisited⟩, d, hd⟩ := (course_perform s x).of_mem h.sound hvisit
    obtain ⟨hcalls, hkept⟩ := hs.visit_acts hd handle
    rw [← hvisited] at hcalls hkept
    refine ⟨?_, hkept⟩
    have hacts : v.Acts ↔ (v.observation = .critical ↔ d.status ≠ .failed) ∧
        d.recovery.threshold ≤ d.recovery.failures + 1 := by
      rw [hcalls, hvisited]
      exact DriverHealth.callsForRecovery_iff (hs.record _ d hd).2
    have hmisjudges : v.Misjudges ↔ d.status = .failed ∧ v.observation ≠ .critical ∧
        d.recovery.threshold ≤ d.recovery.failures + 1 := by
      unfold Visit.Misjudges
      rw [hd]
      simp
    rw [hacts, hmisjudges]
    constructor
    · rintro hclaim ⟨hfailed, hcalm, hle⟩
      exact hcalm (hclaim ⟨iff_of_false hcalm (not_not_intro hfailed), hle⟩)
    · rintro hjudges ⟨hacting, hle⟩
      by_contra hcalm
      exact hjudges ⟨not_not.1 fun hne => hcalm (hacting.2 hne), hcalm, hle⟩

/-- A driver that is too hot when it is registered is given up, if nothing can restart it. -/
theorem acts_on_overheated :
    ∃ (s : System) (v : Visit), s.Reachable ∧ v ∈ s.evaluationsOf (.registerDriver ⟨0⟩) ∧
      v.Acts ∧ v.observation = .critical := by
  obtain ⟨core, hreachable, hready, hconfig, hhealth, hhook⟩ := exists_impatient
  let s : System := { env := overheated, core }
  have hv : s.enrolment ⟨0⟩ ∈ s.evaluationsOf (.registerDriver ⟨0⟩) := List.mem_singleton.2 rfl
  have hacts : (s.enrolment ⟨0⟩).Acts := by
    obtain ⟨number, config, initialized, enabled, registry, events, health, tracker, counters,
      predefined, collectors, hook⟩ := core
    dsimp only at hready hconfig hhealth hhook
    subst hready hconfig hhealth hhook
    exact .inr ⟨_, rfl, rfl, rfl⟩
  have hjudges : ¬(s.enrolment ⟨0⟩).Misjudges := by
    rintro ⟨d, hd, -⟩
    exact Option.some_ne_none d (hd.symm.trans (recordBefore?_enrolment s _))
  exact ⟨s, _, hreachable, hv, hacts,
    (acts_only_in_critical_condition hreachable _ hv).1.2 hjudges hacts⟩

/-- A driver that is well is given up if it has been given up before and its first step up brings
the count to the threshold. -/
theorem acts_on_recovering_driver :
    ¬∀ (s : System) (x : Happening) (v : Visit),
      s.Reachable → v ∈ s.evaluationsOf x → v.Acts → v.observation = .critical := by
  intro hclaim
  obtain ⟨s, hreachable, -, d, hd, hfailed, hthreshold, hfailures⟩ := exists_given_up 0
  let quiet := s.perform lull
  have hquiet : quiet.Reachable := .next hreachable lull
  have hwell : (quiet.visit ⟨1⟩ d.handle).observation = .healthy := rfl
  have hv : quiet.visit ⟨1⟩ d.handle ∈ quiet.evaluationsOf (.updateDriverHealth ⟨1⟩) := by
    change _ ∈ quiet.soleVisit ⟨1⟩
    unfold soleVisit
    rw [show quiet.core.health.find? ⟨1⟩ = some d from hd]
    simp [hquiet.sound.ready hd]
  have hacts : (quiet.visit ⟨1⟩ d.handle).Acts := by
    rw [(hquiet.sound.visit_acts hd _).1, DriverHealth.callsForRecovery_iff (by omega)]
    refine ⟨iff_of_false ?_ (not_not_intro hfailed), by omega⟩
    exact fun heq => absurd (hwell.symm.trans heq) (by decide)
  exact absurd (hwell.symm.trans (hclaim quiet _ _ hquiet hv hacts)) (by decide)

end System

end DriverTelemetry
