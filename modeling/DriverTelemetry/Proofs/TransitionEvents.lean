import DriverTelemetry.Proofs.EventLog
import DriverTelemetry.Proofs.SmallSteps

/-!
# Events about changes of status

`Event.transition?` reads a change of status back from the message of an event. `Tells` holds of
events that lead a driver from one status to another: each change starts from the status that the
one before it led to. `System.Logs` says which events a core has logged.
-/

namespace DriverTelemetry

namespace Event

open DriverTelemetry.Core

variable {name : Name} {e : Event} {a b : HealthStatus}

/-- The change of status of a driver that the message of an event is about. -/
def transition? (name : Name) (e : Event) : Option (HealthStatus × HealthStatus) :=
  (HealthStatus.all.product HealthStatus.all).find? fun change =>
    e.payload.message.text == transitionText name change.1 change.2

end Event

/-- Events that lead a driver from one status to another. Each change of its status that they tell of
starts where the one before it ended and leads elsewhere; its event is critical if the new status is
a failing one, and a warning otherwise. -/
inductive Tells (name : Name) : HealthStatus → List Event → HealthStatus → Prop
  | nil (a : HealthStatus) : Tells name a [] a
  | other {a b : HealthStatus} {e : Event} {es : List Event} (h : e.transition? name = none)
      (rest : Tells name a es b) : Tells name a (e :: es) b
  | change {a b c : HealthStatus} {e : Event} {es : List Event}
      (h : e.transition? name = some (a, b)) (hne : a ≠ b)
      (hseverity : e.severity = if b.isFailing then .critical else .warning)
      (rest : Tells name b es c) : Tells name a (e :: es) c

theorem Tells.append {name : Name} {a b c : HealthStatus} {es fs : List Event}
    (h : Tells name a es b) (rest : Tells name b fs c) : Tells name a (es ++ fs) c := by
  induction h with
  | nil => exact rest
  | other h _ ih => exact .other h (ih rest)
  | change h hne hseverity _ ih => exact .change h hne hseverity (ih rest)

theorem EventRing.run_append (r : EventRing) (xs ys : List RingCall) :
    r.run (xs ++ ys) =
      ((r.run xs).1 ++ ((r.run xs).2.run ys).1, ((r.run xs).2.run ys).2) := by
  induction xs generalizing r with
  | nil => rfl
  | cons x rest ih =>
    change (_ ++ ((r.perform x).2.run (rest ++ ys)).1, ((r.perform x).2.run (rest ++ ys)).2) = _
    rw [ih, ← List.append_assoc]
    rfl

theorem EventRing.written_push (r : EventRing) (severity : Severity) (subsystem : Subsystem)
    (origin : Origin) (fill : Payload → Payload) :
    (r.push severity subsystem origin fill).1.severity = severity ∧
      (r.push severity subsystem origin fill).1.subsystem = subsystem ∧
      (r.push severity subsystem origin fill).1.payload = fill .blank := by
  unfold push
  split <;> exact ⟨rfl, rfl, rfl⟩

namespace System

/-- The events that have been logged, in order, since a system was another one: calls on the ring
have added them, and the developer log has got their texts. -/
structure Logs (s : System) (es : List Event) (t : System) : Prop where
  ring : ∃ calls, s.core.events.run calls = (es, t.core.events)
  log_eq : t.env.log = s.env.log ++ es.map fun e => (e.severity.logLevel, e.text)

variable {s t u : System} {es fs : List Event}

theorem Logs.trans (h₁ : s.Logs es t) (h₂ : t.Logs fs u) : s.Logs (es ++ fs) u where
  ring := by
    obtain ⟨xs, hxs⟩ := h₁.ring
    obtain ⟨ys, hys⟩ := h₂.ring
    refine ⟨xs ++ ys, ?_⟩
    rw [EventRing.run_append, hxs, hys]
  log_eq := by rw [h₂.log_eq, h₁.log_eq, List.map_append, List.append_assoc]

theorem Logs.of_eq (hevents : t.core.events = s.core.events) (hlog : t.env.log = s.env.log) :
    s.Logs [] t where
  ring := ⟨[], by rw [hevents]; rfl⟩
  log_eq := by rw [hlog, List.map_nil, List.append_nil]

/-- What is logged has the severity and the payload that its producer gives it. -/
theorem logs_emit (s : System) (severity : Severity) (subsystem : Subsystem)
    (fill : Payload → Payload) :
    ∃ e : Event, s.Logs [e] ((Core.emit severity subsystem fill).run s).2 ∧
      e.severity = severity ∧ e.subsystem = subsystem ∧ e.payload = fill .blank := by
  let origin := s.env.platform.origin severity
  obtain ⟨hseverity, hrest⟩ := s.core.events.written_push severity subsystem origin fill
  refine ⟨(s.core.events.push severity subsystem origin fill).1,
    ⟨⟨[.pushFrom s.env.platform severity subsystem fill], rfl⟩, ?_⟩, hseverity, hrest⟩
  rw [List.map_singleton, hseverity]
  rfl

/-- A core that accepts calls logs what it is given. -/
theorem call_log_ok (hready : s.core.initialized = true) (severity : Severity)
    (subsystem : Subsystem) (message : String) :
    s.call (Core.log severity subsystem message) =
      (.ok ((Core.emit severity subsystem (·.setMessage message)).run s).1,
        ((Core.emit severity subsystem (·.setMessage message)).run s).2) := by
  have hstart : s.call (Core.log severity subsystem message) =
      s.call (Core.ensureReady >>= fun _ => _) := rfl
  rw [hstart, call_ready hready]
  rfl

theorem call_log_error (hunready : s.core.initialized = false) (severity : Severity)
    (subsystem : Subsystem) (message : String) :
    s.call (Core.log severity subsystem message) = (.error .notInitialized, s) :=
  call_unready hunready _

theorem logs_retire (s : System) : s.Logs [] s.retire := by
  unfold retire
  split
  · exact ⟨⟨[.release], rfl⟩, (List.append_nil _).symm⟩
  · exact .of_eq rfl rfl

/-- A system that has logged, since it was another, how a driver went from one status to another. -/
def Recounts (s : System) (name : Name) (a b : HealthStatus) (t : System) : Prop :=
  ∃ es, s.Logs es t ∧ Tells name a es b

variable {name : Name} {a b c : HealthStatus}

theorem Recounts.trans (h₁ : s.Recounts name a b t) (h₂ : t.Recounts name b c u) :
    s.Recounts name a c u := by
  obtain ⟨es, hes, htells⟩ := h₁
  obtain ⟨fs, hfs, htells'⟩ := h₂
  exact ⟨es ++ fs, hes.trans hfs, htells.append htells'⟩

/-- A small step changes the surroundings, or logs nothing about a change of status. -/
theorem Step.logs (h : s.Step t) :
    (∃ env, t = { s with env }) ∨
      ∃ es, s.Logs es t ∧ ∀ e ∈ es, Core.Neutral e.payload.message := by
  have hnothing : ∀ {u : System}, u.core.events = s.core.events → u.env.log = s.env.log →
      ∃ es, s.Logs es u ∧ ∀ e ∈ es, Core.Neutral e.payload.message :=
    fun hevents hlog => ⟨[], .of_eq hevents hlog, by simp⟩
  cases h with
  | surroundings env _ _ => exact .inl ⟨env, rfl⟩
  | @emitted severity subsystem fill hneutral =>
    obtain ⟨e, hlogs, -, -, hpayload⟩ := s.logs_emit severity subsystem fill
    refine .inr ⟨[e], hlogs, fun e' he' => ?_⟩
    rw [List.mem_singleton.1 he', hpayload]
    exact hneutral
  | retired => exact .inr ⟨[], s.logs_retire, by simp⟩
  | _ => -- no other step touches the ring or the developer log
    exact .inr (hnothing rfl rfl)

end System

end DriverTelemetry
