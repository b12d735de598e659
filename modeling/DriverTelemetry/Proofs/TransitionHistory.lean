import DriverTelemetry.Proofs.GradualRecovery
import DriverTelemetry.Proofs.TransitionEvents

/-!
# The history that a driver's events tell

Every change of a driver's status is logged, by the evaluation that finds it or by the recovery that
gives the driver up, and nothing else is logged as a change. So the events of a driver's registration
and of its later evaluations lead from the status that the registration names to the one that the
driver has: along any run, whatever happens in between.
-/

namespace DriverTelemetry

namespace System

variable {s t : System} {id : DriverId} {name : Name} {a b : HealthStatus}

/-- How a run leaves a driver: under its name and with a status, unless the core has been shut
down. -/
def Leaves (t : System) (id : DriverId) (name : Name) (a : HealthStatus) : Prop :=
  t.Dead ∨ ∃ d, t.core.health.find? id = some d ∧ d.name = name ∧ d.status = a

theorem Leaves.of_modify {d : DriverHealth} {f : DriverHealth → DriverHealth}
    (hd : s.core.health.find? id = some d) (hhealth : t.core.health = s.core.health.modify id f)
    (hname : (f d).name = name) (hstatus : (f d).status = a) : t.Leaves id name a := by
  refine .inr ⟨f d, ?_, hname, hstatus⟩
  rw [hhealth, HealthTable.find?_modify_of_find? hd]

theorem Carries.leaves {d : DriverHealth} (h : s.Carries id t)
    (hd : s.core.health.find? id = some d) : t.Leaves id d.name d.status := by
  obtain hdead | hkeeps := h
  · exact .inl hdead
  · obtain ⟨d', hd', hname, hstatus, -⟩ := hkeeps d hd
    exact .inr ⟨d', hd', hname, hstatus⟩

end System

namespace Core

variable {s : System} {eval : Evaluation} {d : DriverHealth}

end Core

namespace System

/-- A run as its evaluations of drivers, with the events that each has logged. Anything else in it is
the registration of a driver or has logged no event about a change of status, if one is not said in
a producer's own words. -/
inductive Chronicle (Said : Message → Prop) : System → List (Visit × List Event) → System → Prop
  | nil (s : System) : Chronicle Said s [] s
  | evaluated {s u : System} {id : DriverId} {d : DriverHealth} {es : List Event}
      {vs : List (Visit × List Event)} (hd : s.core.health.find? id = some d) (handle : HandleRef)
      (hlogs : s.Logs es (s.visit id handle).after)
      (rest : Chronicle Said (s.visit id handle).after vs u) :
      Chronicle Said s ((s.visit id handle, es) :: vs) u
  | registered {s u : System} {vs : List (Visit × List Event)} (handle : HandleRef)
      (rest : Chronicle Said (s.call (Core.registerDriver handle)).2 vs u) : Chronicle Said s vs u
  | aside {s t u : System} {es : List Event} {vs : List (Visit × List Event)} (hlogs : s.Logs es t)
      (h : ∀ e ∈ es, Core.Neutral e.payload.message ∨ Said e.payload.message)
      (rest : Chronicle Said t vs u) : Chronicle Said s vs u
  | outside {s u : System} {vs : List (Visit × List Event)} (env : Environment)
      (rest : Chronicle Said { s with env } vs u) : Chronicle Said s vs u

variable {Said : Message → Prop} {s t u : System} {id : DriverId} {d : DriverHealth} {name : Name}
  {a : HealthStatus}

theorem Chronicle.turn {vs : List (Visit × List Event)} (h : Turn Said s t)
    (rest : Chronicle Said t vs u) : Chronicle Said s vs u := by
  cases h with
  | step hstep =>
    obtain ⟨env, rfl⟩ | ⟨es, hlogs, hneutral⟩ := hstep.logs
    · exact .outside env rest
    · exact .aside hlogs (fun e he => .inl (hneutral e he)) rest
  | @said severity subsystem fill hsaid =>
    obtain ⟨e, hlogs, -, -, hpayload⟩ := s.logs_emit severity subsystem fill
    refine .aside hlogs (fun e' he' => .inr ?_) rest
    rw [List.mem_singleton.1 he', hpayload]
    exact hsaid
  | registered handle => exact .registered handle rest
  | outside env => exact .outside env rest

theorem Leaves.turn (h : s.Leaves id name a) (hs : s.Sound) (hturn : Turn Said s t) :
    t.Leaves id name a := by
  obtain hdead | ⟨d, hd, rfl, rfl⟩ := h
  · exact .inl (hdead.turn hturn)
  · exact ((hs.turn hturn).2 id).leaves hd

/-- What a run leaves a driver with, if there is a driver at all, is its name and its status. -/
theorem Leaves.found {other : DriverId} (h : s.Leaves id name a)
    (hother : s.core.health.find? other = some d) :
    ∃ d', s.core.health.find? id = some d' ∧ d'.name = name ∧ d'.status = a := by
  refine h.resolve_left fun hdead => ?_
  rw [hdead.find?] at hother
  cases hother

end System

end DriverTelemetry
