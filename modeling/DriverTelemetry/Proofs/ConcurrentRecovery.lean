import DriverTelemetry.Proofs.Interleaving
import DriverTelemetry.Proofs.Restarts

/-!
# Evaluations of a driver at the same time

An evaluation reads the driver, applies the readings in one critical section and, if that calls for
recovery, calls the restart hook and records the outcome in another. The count of failing
evaluations is reset by the latter only: an evaluation that is applied in between finds the
threshold still reached and calls the hook once more.
-/

namespace DriverTelemetry

namespace HealthStatus

theorem next_ne_failed {observed st : HealthStatus} (hobserved : observed ≠ failed)
    (hst : st ≠ failed) : st.next observed ≠ failed := by
  cases observed with
  | failed => exact absurd rfl hobserved
  | _ =>
    cases st with
    | failed => exact absurd rfl hst
    | _ => decide

end HealthStatus

/-- A driver that has not failed is due for recovery if its count has come to the threshold. -/
theorem DriverHealth.recoveryDue_eq {d : DriverHealth} (h : d.status ≠ .failed)
    (before : HealthStatus) :
    (d.outcome before).recoveryDue = decide (d.recovery.threshold ≤ d.recovery.failures) := by
  unfold outcome
  rw [bne_iff_ne.2 h, Bool.true_and]

namespace Core

variable {s : System} {eval : Evaluation} {d : DriverHealth}

/-- The part of a recovery that comes before its outcome is recorded: it answers what the restart
hook answers, if there is one to be called. -/
def attemptRestart (eval : Evaluation) : Action (Option (Option RecoveryError)) := do
  match (← get).core.restartHook.filter fun _ => eval.autoRecovery with
  | none => return none
  | some hook =>
    count fun s => { s with recoveriesAttempted := s.recoveriesAttempted + 1 }
    emitText .recovery .core (noticeText eval.name eval.failures)
    return some (← callHook hook eval.handle)

def recordAttempt (eval : Evaluation) : Option (Option RecoveryError) → Call HealthStatus
  | none => giveUp eval false none
  | some failure => afterHook eval failure

theorem call_recover (s : System) (eval : Evaluation) :
    s.call (recover eval) = System.call ((attemptRestart eval).run s).2
      (recordAttempt eval ((attemptRestart eval).run s).1) := by
  unfold recover attemptRestart
  rw [System.call_get_andThen, run_get_bind]
  cases s.core.restartHook.filter (fun _ => eval.autoRecovery) with
  | none => rfl
  | some hook => rfl

theorem enrol_ok {t : System} {handle : HandleRef}
    (h : s.call (enrol handle) = (.ok eval, t)) :
    ∃ e, Enrols s handle e t ∧ s.SameAttempts t ∧ e.status ≠ .failed ∧
      e.recovery =
        { auto := s.core.config.autoRecovery
          threshold := s.core.config.recoveryThreshold.toNat
          failures := if e.status.isFailing then 1 else 0 } ∧
      eval = e.outcome .unknown := by
  obtain ⟨error, env, -, hfailed⟩ | ⟨e, u, henrols, hattempts, hstatus, hrecovery, henrolled⟩ :=
    call_enrol s handle
  · rw [hfailed] at h
    cases h
  · rw [henrolled] at h
    cases h
    exact ⟨e, henrols, hattempts, hstatus ▸ HealthStatus.observe_ne_failed _ _ _, hrecovery, rfl⟩

end Core

namespace System

/-- A system whose restart hook succeeds whenever it is called. -/
def HookSucceeds (s : System) : Prop :=
  ∃ hook, s.core.restartHook = some hook ∧
    ∀ outcome ∈ ((s.env.hooks[hook.index]?).getD { outcomes := [] }).outcomes,
      outcome.failure = none ∧ outcome.shutsDown = false

variable {s t : System}

theorem HookSucceeds.of_eq (h : s.HookSucceeds)
    (hhook : t.core.restartHook = s.core.restartHook) (hhooks : t.env.hooks = s.env.hooks) :
    t.HookSucceeds := by
  unfold HookSucceeds
  rw [hhook, hhooks]
  exact h

theorem succeeds_next {h : RestartHook}
    (hall : ∀ outcome ∈ h.outcomes, outcome.failure = none ∧ outcome.shutsDown = false) :
    h.next.failure = none ∧ h.next.shutsDown = false := by
  unfold RestartHook.next
  cases hnext : h.outcomes[min h.calls.length (h.outcomes.length - 1)]? with
  | none => exact ⟨rfl, rfl⟩
  | some outcome => exact hall outcome (List.mem_of_getElem? hnext)

/-- A hook that succeeds whenever it is called is called with success, and keeps succeeding. -/
theorem HookSucceeds.attemptRestart (h : s.HookSucceeds) {eval : Evaluation}
    (hauto : eval.autoRecovery = true) :
    ∃ t, (Core.attemptRestart eval).run s = (some none, t) ∧ t.core.health = s.core.health ∧
      t.HookSucceeds ∧ t.core.counters.recoveriesAttempted =
        s.core.counters.recoveriesAttempted + 1 := by
  obtain ⟨hook, hhook, hsucceeds⟩ := h
  let noticed : System :=
    ((Core.emitText .recovery .core (Core.noticeText eval.name eval.failures)).run
      { s with core.counters.recoveriesAttempted := s.core.counters.recoveriesAttempted + 1 }).2
  obtain ⟨env, -, -, hcalled, -, hcall⟩ := Core.run_callHook noticed hook eval.handle
  obtain ⟨hfailure, hstays⟩ : (noticed.hookOutcome hook).failure = none ∧
      (noticed.hookOutcome hook).shutsDown = false := succeeds_next hsucceeds
  rw [hfailure, hstays, if_neg Bool.false_ne_true] at hcall
  have hrun : (Core.attemptRestart eval).run s =
      (some ((Core.callHook hook eval.handle).run noticed).1,
        ((Core.callHook hook eval.handle).run noticed).2) := by
    unfold Core.attemptRestart
    rw [Core.run_get_bind, Option.filter_eq_some_iff.2 ⟨hhook, hauto⟩]
    rfl
  rw [hrun, hcall]
  refine ⟨_, rfl, rfl, ⟨hook, hhook, ?_⟩, rfl⟩
  dsimp only
  rw [hcalled, List.getElem?_modify_eq]
  cases hfound : s.env.hooks[hook.index]? with
  | none =>
    have hnone : noticed.env.hooks[hook.index]? = none := hfound
    rw [hnone]
    exact fun _ hmem => absurd hmem List.not_mem_nil
  | some found =>
    have hsome : noticed.env.hooks[hook.index]? = some found := hfound
    rw [hsome]
    rw [hfound] at hsucceeds
    exact hsucceeds

end System

/-- How far an evaluation of a driver has come. -/
inductive Evaluating where
  | requested (id : DriverId) (handle : HandleRef)
  | sampled (id : DriverId) (readings : DriverReadings)
  | applied (eval : Evaluation)
  /-- The restart hook has answered, if there was one to be called. -/
  | attempted (eval : Evaluation) (answer : Option (Option RecoveryError))
  | finished (outcome : Except TelemetryError HealthStatus)

namespace Evaluating

def afterApplying : Except TelemetryError Evaluation → Evaluating
  | .ok eval => applied eval
  | .error e => finished (.error e)

def advance : Evaluating → Action Evaluating
  | requested id handle => sampled id <$> Core.readHandle handle
  | sampled id readings => afterApplying <$> (Core.applyReadings id readings).run
  | applied eval =>
    if eval.recoveryDue then attempted eval <$> Core.attemptRestart eval
    else return finished (.ok eval.after)
  | attempted eval answer => finished <$> (Core.recordAttempt eval answer).run
  | finished outcome => return finished outcome

theorem advance_applied_of_due {eval : Evaluation} (hdue : eval.recoveryDue = true) :
    advance (applied eval) = attempted eval <$> Core.attemptRestart eval :=
  if_pos hdue

theorem advance_applied_of_not_due {eval : Evaluation} (hdue : eval.recoveryDue = false) :
    advance (applied eval) = pure (finished (.ok eval.after)) :=
  if_neg (Bool.eq_false_iff.1 hdue)

/-- The readings have been applied and call for recovery. -/
def isDue : Evaluating → Bool
  | applied eval => eval.recoveryDue
  | _ => false

/-- A recovery is called for, and its outcome is still to be recorded. -/
def isPending : Evaluating → Bool
  | attempted _ _ => true
  | stage => stage.isDue

/-- An evaluation of a driver that leaves restarts to the core, in a run in which restarts
succeed. -/
def Concerns (id : DriverId) : Evaluating → Prop
  | requested id' _ | sampled id' _ => id' = id
  | applied eval => eval.id = id ∧ eval.autoRecovery = true
  | attempted eval answer => eval.id = id ∧ answer = some none
  | finished _ => True

end Evaluating

namespace Interleaving

open Evaluating (requested sampled applied attempted finished advance afterApplying isDue isPending)

/-- An evaluation that nothing comes in between of is a call of `Core.evaluateDriver`. -/
theorem run_evaluation (s : System) (id : DriverId) (handle : HandleRef) :
    run advance { system := s, stages := [requested id handle] }
        [.call 0, .call 0, .call 0, .call 0] =
      { system := (s.call (Core.evaluateDriver id (s.env.readHandle handle))).2
        stages := [finished (s.call (Core.evaluateDriver id (s.env.readHandle handle))).1] } := by
  let readings := s.env.readHandle handle
  let third := fun p : Evaluating × System => (advance p.1).run p.2
  let second := third (afterApplying (s.call (Core.applyReadings id readings)).1,
    (s.call (Core.applyReadings id readings)).2)
  change Interleaving.mk (third second).2 [(third second).1] = _
  rw [Core.call_evaluateDriver]
  unfold second
  obtain ⟨outcome, t, happlied⟩ : ∃ outcome t,
      s.call (Core.applyReadings id readings) = (outcome, t) := ⟨_, _, rfl⟩
  rw [happlied]
  cases outcome with
  | error e =>
    rw [System.call_andThen_error happlied]
    rfl
  | ok eval =>
    rw [System.call_andThen_ok happlied]
    change Interleaving.mk (third ((advance (applied eval)).run t)).2
      [(third ((advance (applied eval)).run t)).1] = _
    cases hdue : eval.recoveryDue with
    | false =>
      rw [Evaluating.advance_applied_of_not_due hdue, Core.call_actOn_of_not_due t hdue]
      rfl
    | true =>
      rw [Evaluating.advance_applied_of_due hdue, Core.actOn, if_pos hdue, Core.call_recover]
      rfl

/-- An apply that ends in `Critical` or `Failed`. -/
def Passage.fails (p : Passage Evaluating) : Bool :=
  match p.stage, p.next with
  | sampled _ _, applied eval => eval.after.isFailing
  | _, _ => false

/-- An apply that calls for recovery. -/
def Passage.becomesDue (p : Passage Evaluating) : Bool :=
  match p.stage, p.next with
  | sampled _ _, applied eval => eval.recoveryDue
  | _, _ => false

def Passage.callsHook (p : Passage Evaluating) : Bool :=
  match p.stage, p.next with
  | applied _, attempted _ (some _) => true
  | _, _ => false

/-- A failing apply between another that calls for recovery and the record of what comes of that. -/
def Passage.overlaps (p : Passage Evaluating) : Bool := p.fails && p.before.stages.any isPending

/-- The record of a driver that leaves restarts to the core, calls for recovery after `T` failing
evaluations in a row and has not been given up. As long as the count is not below `T`, a recovery is
still to be recorded. -/
structure Watches (t : Interleaving Evaluating) (id : DriverId) (T : Nat) (d : DriverHealth) :
    Prop where
  find?_eq : t.system.core.health.find? id = some d
  id_eq : d.id = id
  auto_eq : d.recovery.auto = true
  threshold_eq : d.recovery.threshold = T
  status_ne : d.status ≠ .failed
  pending : T ≤ d.recovery.failures → 0 < t.stages.countP isPending

/-- The failing evaluations in a row as long as they call for no recovery. -/
def carry (T failures : Nat) : Nat := if failures < T then failures else 0

theorem carry_zero (T : Nat) : carry T 0 = 0 := ite_self 0

/-- What a passage does in a run in which restarts succeed: it calls the hook for an apply that has
called for recovery, and each apply that calls for recovery takes `T` failing ones, except that the
restarts that overlap with another recovery come at the price of one. -/
structure Effect (id : DriverId) (T : Nat) (d : DriverHealth) (p : Passage Evaluating) : Prop where
  hook : p.after.system.HookSucceeds
  concerns : p.next.Concerns id
  attempts_eq : p.after.system.core.counters.recoveriesAttempted =
    p.before.system.core.counters.recoveriesAttempted + if p.callsHook then 1 else 0
  calls_eq : (if p.callsHook then 1 else 0) + (if isDue p.next then 1 else 0) =
    (if isDue p.stage then 1 else 0) + if p.becomesDue then 1 else 0
  record : ∃ d', Watches p.after id T d' ∧
    T * (if p.becomesDue then 1 else 0) + carry T d'.recovery.failures ≤
      carry T d.recovery.failures + (if p.fails then 1 else 0) +
        (T - 1) * if p.overlaps then 1 else 0

section Passages

variable {t : Interleaving Evaluating} {i : Nat} {stage : Evaluating} {id : DriverId} {T : Nat}
  {d : DriverHealth}

/-- A passage that leaves the record alone and applies nothing. -/
theorem Effect.of_health_eq {p : Passage Evaluating} (hp : p = t.passage advance i stage)
    (hstage : t.stages[i]? = some stage) (hd : Watches t id T d)
    (hhealth : p.after.system.core.health = t.system.core.health)
    (hkept : isPending p.next = isPending stage) (hfails : p.fails = false)
    (hdue : p.becomesDue = false) (hhook : p.after.system.HookSucceeds)
    (hconcerns : p.next.Concerns id)
    (hattempts : p.after.system.core.counters.recoveriesAttempted =
      t.system.core.counters.recoveriesAttempted + if p.callsHook then 1 else 0)
    (hcalls : (if p.callsHook then 1 else 0) + (if isDue p.next then 1 else 0) =
      if isDue stage then 1 else 0) :
    Effect id T d p := by
  have hcount := countP_passage advance hstage isPending
  subst hp
  rw [hkept, Nat.add_right_cancel_iff] at hcount
  refine ⟨hhook, hconcerns, hattempts, ?_, d, { hd with find?_eq := ?_, pending := ?_ }, ?_⟩
  · rw [hcalls, hdue]
    rfl
  · rw [hhealth]
    exact hd.find?_eq
  · rw [hcount]
    exact hd.pending
  · simp [Passage.overlaps, hfails, hdue]

theorem effect_applied {eval : Evaluation} (hstage : t.stages[i]? = some (applied eval))
    (hconcerns : (applied eval).Concerns id) (hhook : t.system.HookSucceeds)
    (hd : Watches t id T d) :
    Effect id T d (t.passage advance i (applied eval)) := by
  obtain ⟨hid, hauto⟩ := hconcerns
  cases hdue : eval.recoveryDue with
  | false =>
    have hrun : (advance (applied eval)).run t.system = (finished (.ok eval.after), t.system) := by
      rw [Evaluating.advance_applied_of_not_due hdue]
      rfl
    have hstill : isPending (applied eval) = false := hdue
    rw [passage_of_run advance hrun]
    exact .of_health_eq (passage_of_run advance hrun i).symm hstage hd rfl hstill.symm rfl rfl
      hhook trivial rfl (by simp [Passage.callsHook, isDue, hdue])
  | true =>
    obtain ⟨u, hattempt, hhealth, hhook', hattempts⟩ := hhook.attemptRestart hauto
    have hrun : (advance (applied eval)).run t.system = (attempted eval (some none), u) := by
      rw [Evaluating.advance_applied_of_due hdue]
      change (attempted eval ((Core.attemptRestart eval).run t.system).1,
        ((Core.attemptRestart eval).run t.system).2) = _
      rw [hattempt]
    have hstill : isPending (applied eval) = true := hdue
    rw [passage_of_run advance hrun]
    exact .of_health_eq (passage_of_run advance hrun i).symm hstage hd hhealth hstill.symm rfl rfl
      hhook' ⟨hid, rfl⟩ hattempts (by simp [Passage.callsHook, isDue, hdue])

theorem effect_requested {id' : DriverId} {handle : HandleRef}
    (hstage : t.stages[i]? = some (requested id' handle))
    (hconcerns : (requested id' handle).Concerns id) (hhook : t.system.HookSucceeds)
    (hd : Watches t id T d) :
    Effect id T d (t.passage advance i (requested id' handle)) :=
  .of_health_eq rfl hstage hd rfl rfl rfl rfl hhook hconcerns rfl rfl

/-- An apply that brings the count to the threshold can be paid for with the failing evaluations
before it, unless the count was there already, and then there is another recovery to overlap
with. -/
theorem Effect.budget {c : Nat} (failing : Bool) {overlapping : Bool} (hpos : 0 < T)
    (hpending : T ≤ c → overlapping = true) :
    let c' := if failing then c + 1 else 0
    T * (if T ≤ c' then 1 else 0) + carry T c' ≤
      carry T c + (if failing then 1 else 0) +
        (T - 1) * if failing && overlapping then 1 else 0 := by
  intro c'
  unfold carry c'
  cases failing with
  | false =>
    rw [if_neg Bool.false_ne_true, if_neg (Nat.not_le.2 hpos), if_pos hpos]
    omega
  | true =>
    simp only [if_true, Bool.true_and]
    obtain hlt | heq | hle : c + 1 < T ∨ c + 1 = T ∨ T ≤ c := by omega
    · rw [if_neg (Nat.not_le.2 hlt), if_pos hlt, if_pos (Nat.lt_of_succ_lt hlt)]
      omega
    -- what has been carried so far pays for all but the last of the `T` evaluations
    · rw [if_pos heq.ge, if_neg (Nat.not_lt.2 heq.ge), if_pos (by omega)]
      omega
    · rw [if_pos (by omega), if_neg (by omega), if_neg (Nat.not_lt.2 hle), if_pos (hpending hle)]
      omega

theorem effect_sampled {readings : DriverReadings}
    (hstage : t.stages[i]? = some (sampled id readings)) (hhook : t.system.HookSucceeds)
    (hpos : 0 < T) (hd : Watches t id T d) :
    Effect id T d (t.passage advance i (sampled id readings)) := by
  obtain ⟨nowNs, u, hhealth, hsame, hattempts, -, happlied⟩ :=
    Core.call_applyReadings hd.find?_eq readings
  let e := d.evaluated readings t.system.core.health.alerts nowNs
  let eval := e.outcome d.status
  have hrun : (advance (sampled id readings)).run t.system = (applied eval, u) := by
    change (afterApplying (t.system.call (Core.applyReadings id readings)).1,
      (t.system.call (Core.applyReadings id readings)).2) = _
    rw [happlied]
    rfl
  have hne : e.status ≠ .failed :=
    HealthStatus.next_ne_failed (HealthStatus.observe_ne_failed _ _ _) hd.status_ne
  have hdue : eval.recoveryDue = decide (T ≤ e.recovery.failures) := by
    rw [DriverHealth.recoveryDue_eq hne, show e.recovery.threshold = T from hd.threshold_eq]
  have hcount := countP_passage advance hstage isPending
  rw [passage_of_run advance hrun] at hcount ⊢
  refine ⟨hhook.of_eq hsame.restartHook_eq hattempts.hooks_eq, ⟨hd.id_eq, hd.auto_eq⟩,
    hattempts.attempted_eq, rfl, e,
    ⟨?_, hd.id_eq, hd.auto_eq, hd.threshold_eq, hne, fun hle => ?_⟩, ?_⟩
  · rw [hhealth, HealthTable.find?_modify_of_find? hd.find?_eq]
  · have hnext : isPending (applied eval) = true := hdue.trans (decide_eq_true hle)
    have hstill : isPending (sampled id readings) = false := rfl
    rw [hnext, hstill, if_pos rfl, if_neg Bool.false_ne_true, Nat.add_zero] at hcount
    exact hcount ▸ Nat.succ_pos _
  · have hoverlapping : T ≤ d.recovery.failures → t.stages.any isPending = true := fun hle =>
      List.any_eq_true.2 (List.countP_pos_iff.1 (hd.pending hle))
    have hbudget := Effect.budget e.status.isFailing hpos hoverlapping
    have hbecomes : (if eval.recoveryDue then 1 else 0) =
        if T ≤ e.recovery.failures then 1 else 0 := by
      rw [hdue]
      simp only [decide_eq_true_eq]
    change T * (if eval.recoveryDue then 1 else 0) + carry T e.recovery.failures ≤ _
    rw [hbecomes]
    exact hbudget

theorem effect_attempted {eval : Evaluation} {answer : Option (Option RecoveryError)}
    (hstage : t.stages[i]? = some (attempted eval answer))
    (hconcerns : (attempted eval answer).Concerns id) (hhook : t.system.HookSucceeds)
    (hpos : 0 < T) (hd : Watches t id T d) :
    Effect id T d (t.passage advance i (attempted eval answer)) := by
  obtain ⟨rfl, rfl⟩ := hconcerns
  obtain ⟨hsame, hhealth⟩ := Core.noteRestart_record hd.find?_eq
  have hattempts := Core.sameAttempts_noteRestart t.system eval
  refine ⟨hhook.of_eq hsame.restartHook_eq hattempts.hooks_eq, trivial, hattempts.attempted_eq, rfl,
    d.restarted, ⟨?_, hd.id_eq, hd.auto_eq, hd.threshold_eq, hd.status_ne, fun hle => ?_⟩, ?_⟩
  · change (t.system.call (Core.noteRestart eval)).2.core.health.find? eval.id = _
    rw [hhealth, HealthTable.find?_modify_of_find? hd.find?_eq]
  · exact absurd hle (Nat.not_le.2 hpos)
  · change T * 0 + carry T 0 ≤ _
    rw [carry_zero]
    exact Nat.zero_le _

theorem effect_finished {outcome : Except TelemetryError HealthStatus}
    (hstage : t.stages[i]? = some (finished outcome)) (hhook : t.system.HookSucceeds)
    (hd : Watches t id T d) :
    Effect id T d (t.passage advance i (finished outcome)) :=
  .of_health_eq rfl hstage hd rfl rfl rfl rfl hhook trivial rfl rfl

/-- Every passage has its effect. -/
theorem effect_passage (hstage : t.stages[i]? = some stage) (hconcerns : stage.Concerns id)
    (hhook : t.system.HookSucceeds) (hpos : 0 < T) (hd : Watches t id T d) :
    Effect id T d (t.passage advance i stage) := by
  cases stage with
  | requested id' handle => exact effect_requested hstage hconcerns hhook hd
  | sampled id' readings =>
    obtain rfl : id' = id := hconcerns
    exact effect_sampled hstage hhook hpos hd
  | applied eval => exact effect_applied hstage hconcerns hhook hd
  | attempted eval answer => exact effect_attempted hstage hconcerns hhook hpos hd
  | finished outcome => exact effect_finished hstage hhook hd

end Passages

/-- What has come of a driver and of the evaluations of it since the first one has been applied. -/
structure Accounts (id : DriverId) (T attempts : Nat) (first : Evaluation)
    (ps : List (Passage Evaluating)) (t : Interleaving Evaluating) : Prop where
  hook : t.system.HookSucceeds
  concerns : ∀ stage ∈ t.stages, stage.Concerns id
  attempts_eq : t.system.core.counters.recoveriesAttempted = attempts + ps.countP (·.callsHook)
  calls_eq : ps.countP (·.callsHook) + t.stages.countP isDue =
    (if first.recoveryDue then 1 else 0) + ps.countP (·.becomesDue)
  record : ∃ d, Watches t id T d ∧
    T * ((if first.recoveryDue then 1 else 0) + ps.countP (·.becomesDue)) +
        carry T d.recovery.failures ≤
      (if first.after.isFailing then 1 else 0) + ps.countP (·.fails) +
        (T - 1) * ps.countP (·.overlaps)

section Accounts

variable {id : DriverId} {T attempts : Nat} {first : Evaluation}
  {ps : List (Passage Evaluating)} {t : Interleaving Evaluating}

theorem Accounts.passage (h : Accounts id T attempts first ps t) (hpos : 0 < T) (i : Nat)
    {stage : Evaluating} (hstage : t.stages[i]? = some stage) :
    Accounts id T attempts first (ps ++ [t.passage advance i stage])
      (t.passage advance i stage).after := by
  obtain ⟨d, hd, hpaid⟩ := h.record
  have hconcerns : stage.Concerns id := h.concerns stage (List.mem_of_getElem? hstage)
  have heffect := effect_passage hstage hconcerns h.hook hpos hd
  have hcount := countP_passage advance hstage isDue
  obtain ⟨d', hd', hpaid'⟩ := heffect.record
  have hconcat : ∀ q : Passage Evaluating → Bool, (ps ++ [t.passage advance i stage]).countP q =
      ps.countP q + if q (t.passage advance i stage) then 1 else 0 := by
    intro q
    rw [List.countP_append, List.countP_singleton]
  refine ⟨heffect.hook, fun stage' hmem => ?_, ?_, ?_, d', hd', ?_⟩
  · obtain hbefore | rfl := List.mem_or_eq_of_mem_set hmem
    · exact h.concerns stage' hbefore
    · exact heffect.concerns
  · rw [hconcat, heffect.attempts_eq, ← Nat.add_assoc, ← h.attempts_eq]
    rfl
  · have hcalls := heffect.calls_eq
    have hbefore := h.calls_eq
    rw [hconcat, hconcat]
    change _ = (if isDue stage then 1 else 0) + _ at hcalls
    omega
  · rw [hconcat, hconcat, hconcat, ← Nat.add_assoc, Nat.mul_add, Nat.mul_add (T - 1)]
    omega

/-- Others may change the surroundings as long as they leave the restart hooks alone. -/
theorem Accounts.changed (h : Accounts id T attempts first ps t)
    {change : Environment → Environment} (hkept : ∀ env, (change env).hooks = env.hooks) :
    Accounts id T attempts first ps (t.changed change) := by
  obtain ⟨d, hd, hpaid⟩ := h.record
  exact ⟨h.hook.of_eq rfl (hkept _), h.concerns, h.attempts_eq, h.calls_eq, d,
    { hd with find?_eq := hd.find?_eq, pending := hd.pending }, hpaid⟩

end Accounts

/-- A driver whose first evaluation has just been applied, and others of it that have been
requested. -/
def enrolled (t : System) (first : Evaluation) (handle : HandleRef) (count : Nat) :
    Interleaving Evaluating where
  system := t
  stages := applied first :: List.replicate count (requested first.id handle)

theorem accounts_enrolled {s t : System} {handle : HandleRef} {first : Evaluation}
    (hpos : 0 < s.core.config.recoveryThreshold.toNat)
    (hauto : s.core.config.autoRecovery = true) (hhook : s.HookSucceeds)
    (henrol : s.call (Core.enrol handle) = (.ok first, t)) (count : Nat) :
    Accounts first.id s.core.config.recoveryThreshold.toNat s.core.counters.recoveriesAttempted
      first [] (enrolled t first handle count) := by
  obtain ⟨e, henrols, hattempts, hne, hrecovery, rfl⟩ := Core.enrol_ok henrol
  let T := s.core.config.recoveryThreshold.toNat
  have hdue : (e.outcome .unknown).recoveryDue = decide (T ≤ e.recovery.failures) := by
    rw [DriverHealth.recoveryDue_eq hne, henrols.threshold_eq]
  have hfailures : e.recovery.failures = if e.status.isFailing then 1 else 0 := by
    rw [hrecovery]
  have hwatches : Watches (enrolled t (e.outcome .unknown) handle count) e.id T e :=
    { find?_eq := (henrols.find?_eq e.id).trans (if_pos henrols.id_eq), id_eq := rfl
      auto_eq := by rw [hrecovery, hauto], threshold_eq := henrols.threshold_eq, status_ne := hne
      pending := fun hle =>
        List.countP_pos_iff.2 ⟨_, List.mem_cons_self, hdue.trans (decide_eq_true hle)⟩ }
  have hothers :
      (List.replicate count (requested (e.outcome .unknown).id handle)).countP isDue = 0 := by
    refine List.countP_eq_zero.2 fun stage hmem => ?_
    rw [List.eq_of_mem_replicate hmem]
    exact Bool.false_ne_true
  refine ⟨hhook.of_eq henrols.restartHook_eq hattempts.hooks_eq, fun stage hmem => ?_,
    hattempts.attempted_eq, ?_, e, hwatches, ?_⟩
  · obtain rfl | hother := List.mem_cons.1 hmem
    · exact ⟨rfl, hwatches.auto_eq⟩
    · rw [List.eq_of_mem_replicate hother]
      rfl
  · change 0 + (applied (e.outcome .unknown) :: _).countP isDue = _ + 0
    rw [List.countP_cons, hothers, Nat.zero_add, Nat.zero_add]
    rfl
  · have hfresh : T ≤ 0 → false = true := fun hle => absurd hle (Nat.not_le.2 hpos)
    have hbudget := Effect.budget e.status.isFailing hpos hfresh
    rw [carry_zero] at hbudget
    change T * ((if (e.outcome .unknown).recoveryDue then 1 else 0) + 0) + _ ≤
      (if e.status.isFailing then 1 else 0) + 0 + (T - 1) * 0
    rw [hdue, hfailures]
    simpa using hbudget

/-- In evaluations of a driver at the same time, each evaluation that calls for recovery calls the
restart hook once, and each of these calls takes as many failing evaluations as the threshold says,
except that a recovery that is called for while another one is not recorded yet takes a single
one. -/
theorem hookCalls_le {s t : System} (h : s.Reachable) (hauto : s.core.config.autoRecovery = true)
    (hhook : s.HookSucceeds) {handle : HandleRef} {first : Evaluation}
    (henrol : s.call (Core.enrol handle) = (.ok first, t)) (count : Nat) {schedule : List Choice}
    (houtside : ∀ change, .outside change ∈ schedule → ∀ env, (change env).hooks = env.hooks) :
    let T := s.core.config.recoveryThreshold.toNat
    let start := enrolled t first handle count
    let ps := start.passages advance schedule
    let u := start.run advance schedule
    u.system.core.counters.recoveriesAttempted =
        s.core.counters.recoveriesAttempted + ps.countP (·.callsHook) ∧
      ps.countP (·.callsHook) + u.stages.countP isDue =
        (if first.recoveryDue then 1 else 0) + ps.countP (·.becomesDue) ∧
      T * ps.countP (·.callsHook) ≤
        (if first.after.isFailing then 1 else 0) + ps.countP (·.fails) +
          (T - 1) * ps.countP (·.overlaps) := by
  intro T start ps u
  obtain ⟨e, henrols, -⟩ := Core.enrol_ok henrol
  have hpos : 0 < T := h.sound.configured henrols.ready
  have hend : Accounts first.id T s.core.counters.recoveriesAttempted first ps u :=
    run_induction (fun i _ hstage h => h.passage hpos i hstage)
      (fun hmem h => h.changed (houtside _ hmem))
      (accounts_enrolled hpos hauto hhook henrol count)
  obtain ⟨d, -, hpaid⟩ := hend.record
  refine ⟨hend.attempts_eq, hend.calls_eq, ?_⟩
  calc T * ps.countP (·.callsHook)
      ≤ T * ((if first.recoveryDue then 1 else 0) + ps.countP (·.becomesDue)) :=
        Nat.mul_le_mul_left T (Nat.le_of_add_right_le hend.calls_eq.le)
    _ ≤ _ := Nat.le_of_add_right_le hpaid

/-- An overheated driver that a restart does not cool. -/
def restartable : Environment := { System.overheated with hooks := [{ outcomes := [{}] }] }

def patient : Config := { System.impatient with recoveryThreshold := 3 }

/-- A patient core with a restart hook, before and after it has enrolled a driver that is failing,
and the first evaluation of that. -/
def enrolling : Option (System × System × Evaluation) :=
  match Core.start 0 patient restartable with
  | (.error _, _) => none
  | (.ok core, env) =>
    let s := System.perform { env, core } (.setRestartHook ⟨0⟩)
    match s.call (Core.enrol ⟨0⟩) with
    | (.error _, _) => none
    | (.ok first, t) => some (s, t, first)

theorem of_enrolling {s t : System} {first : Evaluation}
    (h : enrolling = some (s, t, first)) :
    s.Reachable ∧ s.call (Core.enrol ⟨0⟩) = (.ok first, t) := by
  unfold enrolling at h
  split at h
  · cases h
  · rename_i core env hstart
    dsimp only at h
    split at h
    · cases h
    · rename_i first' t' henrol
      cases h
      exact ⟨.next (.started hstart) _, henrol⟩

theorem exists_enrolled (holds : System → Evaluation → Bool)
    (h : enrolling.any (fun e => holds e.2.1 e.2.2) = true) :
    ∃ (s t : System) (first : Evaluation), s.Reachable ∧ s.core.config.autoRecovery = true ∧
      s.core.config.recoveryThreshold = 3 ∧ s.HookSucceeds ∧
      s.call (Core.enrol ⟨0⟩) = (.ok first, t) ∧ holds t first = true := by
  have hstanding : enrolling.all (fun e => decide (e.1.core.config.autoRecovery = true ∧
      e.1.core.config.recoveryThreshold = 3 ∧ e.1.core.restartHook = some ⟨0⟩ ∧
      e.1.env.hooks = restartable.hooks)) = true := by decide +kernel
  cases henrolling : enrolling with
  | none =>
    rw [henrolling] at h
    cases h
  | some e =>
    obtain ⟨s, t, first⟩ := e
    rw [henrolling] at h hstanding
    obtain ⟨hauto, hthreshold, hhook, hhooks⟩ := of_decide_eq_true hstanding
    obtain ⟨hreachable, henrol⟩ := of_enrolling henrolling
    refine ⟨s, t, first, hreachable, hauto, hthreshold, ⟨⟨0⟩, hhook, ?_⟩, henrol, h⟩
    rw [hhooks]
    change ∀ outcome ∈ [({} : RestartOutcome)], _
    exact List.forall_mem_singleton.2 ⟨rfl, rfl⟩

/-- The registration and two evaluations one after the other, of which the last calls the hook. -/
theorem hookCalls_without_overlap :
    ∃ (s t : System) (first : Evaluation), s.Reachable ∧ s.HookSucceeds ∧
      s.call (Core.enrol ⟨0⟩) = (.ok first, t) ∧
      let ps := (enrolled t first ⟨0⟩ 2).passages advance ([0, 1, 1, 1, 2, 2, 2, 2].map .call)
      ps.countP (·.callsHook) = 1 ∧ ps.countP (·.overlaps) = 0 ∧
        3 * ps.countP (·.callsHook) ≤
          (if first.after.isFailing then 1 else 0) + ps.countP (·.fails) := by
  let order := [0, 1, 1, 1, 2, 2, 2, 2]
  let passagesOf := fun (t : System) (first : Evaluation) =>
    (enrolled t first ⟨0⟩ 2).passages advance (order.map .call)
  obtain ⟨s, t, first, hreachable, hauto, hthreshold, hhook, henrol, hcounts⟩ :=
    exists_enrolled
      (fun t first => decide ((passagesOf t first).countP (·.callsHook) = 1 ∧
        (passagesOf t first).countP (·.overlaps) = 0))
      (by decide +kernel)
  obtain ⟨hcalls, hoverlaps⟩ := of_decide_eq_true hcounts
  have hinside : ∀ change, Choice.outside change ∈ order.map Choice.call →
      ∀ env, (change env).hooks = env.hooks := by simp
  have hle := (hookCalls_le hreachable hauto hhook henrol 2 hinside).2.2
  rw [hoverlaps, hthreshold] at hle
  exact ⟨s, t, first, hreachable, hhook, henrol, hcalls, hoverlaps, hle⟩

/-- Two evaluations that are applied before either has recorded a restart both call the hook, the
second with the fourth failing evaluation. -/
theorem hookCalls_not_le_of_overlap :
    ¬∀ (s t : System) (handle : HandleRef) (first : Evaluation) (count : Nat) (order : List Nat),
      s.Reachable → s.core.config.autoRecovery = true → s.HookSucceeds →
      s.call (Core.enrol handle) = (.ok first, t) →
      let ps := (enrolled t first handle count).passages advance (order.map .call)
      s.core.config.recoveryThreshold.toNat * ps.countP (·.callsHook) ≤
        (if first.after.isFailing then 1 else 0) + ps.countP (·.fails) := by
  intro hclaim
  let order := [1, 1, 2, 2, 3, 3, 2, 3]
  let passagesOf := fun (t : System) (first : Evaluation) =>
    (enrolled t first ⟨0⟩ 3).passages advance (order.map .call)
  obtain ⟨s, t, first, hreachable, hauto, hthreshold, hhook, henrol, hcounts⟩ :=
    exists_enrolled
      (fun t first => decide ((passagesOf t first).countP (·.callsHook) = 2 ∧
        (passagesOf t first).countP (·.fails) = 3))
      (by decide +kernel)
  obtain ⟨hcalls, hfails⟩ := of_decide_eq_true hcounts
  have hle := hclaim s t ⟨0⟩ first 3 order hreachable hauto hhook henrol
  dsimp only at hle
  rw [hcalls, hfails, hthreshold] at hle
  have hfirst : (if first.after.isFailing then 1 else 0) ≤ 1 := by split <;> decide
  exact absurd (hle.trans (Nat.add_le_add_right hfirst 3)) (by decide)

end Interleaving

end DriverTelemetry
