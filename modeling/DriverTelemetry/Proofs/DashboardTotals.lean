import DriverTelemetry.Core.Dashboard
import DriverTelemetry.Proofs.LifetimeAccounts

/-!
# The totals of a dashboard

A dashboard adds up what the drivers reported last. A rate takes half a word and memory is counted
in units of 1024 bytes, so that with at most 256 drivers their sums fit into a word, as long as the
drivers report what fits: `System.ReportsFit` is the invariant of a run that says so. Errors are
counted in whole words, and their sum need not be one.
-/

namespace DriverTelemetry

/-- Readings within the widths in which a driver reports them. -/
structure DriverReadings.Fits (r : DriverReadings) : Prop where
  cpuPercent_le : r.cpuPercent ≤ Word.largestHalf
  interruptRate_le : r.interruptRate ≤ Word.largestHalf
  ioRate_le : r.ioRate ≤ Word.largestHalf
  memoryBytes_le : r.memoryBytes ≤ Word.largest
  errorsPerMinute_le : r.errorsPerMinute ≤ Word.largest

instance (r : DriverReadings) : Decidable r.Fits :=
  decidable_of_iff (r.cpuPercent ≤ Word.largestHalf ∧ r.interruptRate ≤ Word.largestHalf ∧
      r.ioRate ≤ Word.largestHalf ∧ r.memoryBytes ≤ Word.largest ∧ r.errorsPerMinute ≤ Word.largest)
    ⟨fun ⟨hcpu, hinterrupts, hio, hmemory, herrors⟩ => ⟨hcpu, hinterrupts, hio, hmemory, herrors⟩,
      fun ⟨hcpu, hinterrupts, hio, hmemory, herrors⟩ => ⟨hcpu, hinterrupts, hio, hmemory, herrors⟩⟩

theorem DriverReadings.Fits.read {h : DriverHandle} (hr : h.readings.Fits) : h.read.Fits := by
  unfold DriverHandle.read
  split
  · exact { hr with ioRate_le := Nat.zero_le _, errorsPerMinute_le := Nat.zero_le _ }
  · exact hr

namespace Environment

/-- Surroundings in which every driver reports what fits. -/
def ReportsFit (e : Environment) : Prop := ∀ h ∈ e.fleet, h.readings.Fits

instance (e : Environment) : Decidable e.ReportsFit :=
  inferInstanceAs (Decidable (∀ h ∈ e.fleet, h.readings.Fits))

variable {e e' : Environment}

theorem ReportsFit.readHandle (h : e.ReportsFit) (ref : HandleRef) : (e.readHandle ref).Fits := by
  unfold Environment.readHandle
  cases hfound : e.fleet[ref.index]? with
  | some handle => exact (h handle (List.mem_of_getElem? hfound)).read
  | none =>
    exact ⟨Nat.zero_le _, Nat.zero_le _, Nat.zero_le _, Nat.zero_le _, Nat.zero_le _⟩

theorem ReportsFit.cool (h : e.ReportsFit) (name : String) : (e.cool name).ReportsFit := by
  intro handle hmem
  obtain ⟨old, hold, rfl⟩ := List.mem_map.1 hmem
  split
  · exact { h old hold with cpuPercent_le := Nat.zero_le _ }
  · exact h old hold

theorem ReportsFit.of_keepsFleet (h : e.ReportsFit) (hkeeps : e.KeepsFleet e') :
    e'.ReportsFit := by
  obtain hsame | ⟨name, hcooled⟩ := hkeeps
  · rwa [ReportsFit, hsame]
  · rw [ReportsFit, hcooled]
    exact h.cool name

end Environment

/-- Indicators of which the sums over 256 drivers fit into a word, and a mean into half of one. -/
structure PerformanceIndicators.Fits (p : PerformanceIndicators) : Prop where
  cpuPercent_le : p.cpuPercent ≤ Word.largestHalf
  interruptRate_le : p.interruptRate ≤ Word.largestHalf
  ioRate_le : p.ioRate ≤ Word.largestHalf
  memoryKb_le : p.memoryKb ≤ Word.largest / 1024

theorem DriverReadings.Fits.indicators {r : DriverReadings} (h : r.Fits) :
    (PerformanceIndicators.ofReadings r).Fits where
  cpuPercent_le := h.cpuPercent_le
  interruptRate_le := h.interruptRate_le
  ioRate_le := h.ioRate_le
  memoryKb_le := Nat.div_le_div_right h.memoryBytes_le

namespace HealthTable

variable {t : HealthTable}

/-- The indicators of a driver are those of readings that an operation has taken. -/
theorem Each.indicators_perform {Q : PerformanceIndicators → Prop}
    (h : t.Each fun d => Q d.performance) {c : HealthCall}
    (hread : ∀ r ∈ c.readings?, Q (.ofReadings r)) :
    (t.perform c).Each fun d => Q d.performance := by
  cases c with
  | register name handle readings auto threshold nowNs =>
    rw [HealthTable.perform]
    cases hregister : t.register name handle readings auto threshold nowNs with
    | error e => exact h
    | ok answer =>
      obtain ⟨eval, t'⟩ := answer
      obtain ⟨d, -, -, -, -, -, -, hfind⟩ := register_entered hregister
      intro id e he
      change t'.find? id = some e at he
      rw [hfind] at he
      split at he
      · cases he
        exact hread readings rfl
      · exact h id e he
  | apply id readings nowNs => exact h.of_get _ fun _ _ => hread readings rfl
  | recordRestart id => exact h.of_get _ fun _ hd => hd
  | markFailed id nowNs attemptedRestart => exact h.of_get _ fun _ hd => hd
  | setAutoRecovery id auto threshold =>
    rw [HealthTable.perform]
    cases hset : t.setAutoRecovery id auto threshold with
    | error e => exact h
    | ok t' =>
      obtain ⟨-, rfl⟩ := System.setAutoRecovery_ok hset
      exact h.modify fun d hd => h id d hd
  | noteLeak id => exact h.modify fun d hd => h id d hd
  | setAlerts alerts => exact h
  | release => exact each_of_drivers_eq_nil rfl

theorem length_drivers_modify (t : HealthTable) (id : DriverId) (f : DriverHealth → DriverHealth) :
    (t.modify id f).drivers.length = t.drivers.length := by
  unfold modify
  split
  · rfl
  · exact List.length_modify _ _ _

theorem length_drivers_perform (h : t.drivers.length ≤ driverLimit) (c : HealthCall) :
    (t.perform c).drivers.length ≤ driverLimit := by
  cases htarget : c.target? with
  | some id =>
    obtain hsame | ⟨f, hmodify⟩ := t.perform_of_target htarget
    · rwa [hsame]
    · rwa [hmodify, length_drivers_modify]
  | none =>
    cases c with
    | register name handle readings auto threshold nowNs =>
      rw [HealthTable.perform]
      cases hregister : t.register name handle readings auto threshold nowNs with
      | error e => exact h
      | ok answer =>
        obtain ⟨eval, t'⟩ := answer
        obtain ⟨d, -, -, -, -, hroom, -, hfind⟩ := register_entered hregister
        change t'.drivers.length ≤ driverLimit
        rw [drivers_of_find?_eq hfind, List.length_append, List.length_singleton]
        exact hroom
    | setAlerts alerts => exact h
    | release => exact Nat.zero_le _
    | apply | recordRestart | markFailed | setAutoRecovery | noteLeak => cases htarget

theorem Known.each (h : t.Known) : t.Each fun d => d.status ≠ .unknown := by
  intro id d hd hunknown
  exact h id (by rw [status?, hd, Option.map_some, hunknown])

/-- A table in which no more drivers are kept than there may be, and only indicators that fit. -/
structure Fits (t : HealthTable) : Prop where
  room : t.drivers.length ≤ driverLimit
  indicators : t.Each fun d => d.performance.Fits

theorem Fits.perform (h : t.Fits) {c : HealthCall} (hread : ∀ r ∈ c.readings?, r.Fits) :
    (t.perform c).Fits where
  room := length_drivers_perform h.room c
  indicators := h.indicators.indicators_perform fun r hr => (hread r hr).indicators

end HealthTable

namespace Happening

/-- What others do to the surroundings in a happening leaves the drivers reporting what fits. -/
def KeepsFit (x : Happening) : Prop :=
  x.Outside fun change => ∀ e : Environment, e.ReportsFit → (change e).ReportsFit

theorem outside_mono {P Q : (Environment → Environment) → Prop} {x : Happening}
    (h : ∀ change, P change → Q change) (hx : x.Outside P) : x.Outside Q := by
  cases x with
  | surroundings change => exact h change hx
  | benchmark name iterations operation => exact fun i => h _ (hx i)
  | _ => trivial

end Happening

namespace System

variable {s t : System}

/-- The drivers report what fits, and what is kept of their reports is of that sort. -/
structure ReportsFit (s : System) : Prop where
  fleet : s.env.ReportsFit
  health : s.core.health.Fits

/-- Whatever happens to a core in a move, the fleet is that of before or has been cooled. -/
theorem Move.keepsFleet (h : s.Move t) : s.env.KeepsFleet t.env := by
  cases h with
  | step hstep =>
    cases hstep with
    | surroundings env _ hfleet => exact hfleet
    | retired =>
      unfold retire
      split
      · exact .inl rfl
      · exact .inl rfl
    | _ => exact .inl rfl
  | emitted | health | attempted => exact .inl rfl

theorem ReportsFit.move (h : s.ReportsFit) (hmove : s.Move t) : t.ReportsFit where
  fleet := h.fleet.of_keepsFleet hmove.keepsFleet
  health := by
    obtain hsame | ⟨c, hperform, hread⟩ := hmove.health_eq
    · rw [hsame]
      exact h.health
    · rw [hperform]
      refine h.health.perform fun r hr => ?_
      obtain ⟨handle, rfl⟩ := hread r hr
      exact h.fleet.readHandle handle

theorem ReportsFit.after (h : s.ReportsFit) {xs : List Happening} (hxs : ∀ x ∈ xs, x.KeepsFit) :
    (s.after xs).ReportsFit := by
  induction xs generalizing s with
  | nil => exact h
  | cons x rest ih =>
    obtain ⟨hx, hrest⟩ := List.forall_mem_cons.1 hxs
    have houtside : x.Outside fun change =>
        ∀ s : System, Maintains ReportsFit s { s with env := change s.env } :=
      x.outside_mono (fun change hchange s hs => ⟨hchange _ hs.fleet, hs.health⟩) hx
    have hkept : Maintains ReportsFit s (s.perform x) :=
      x.within_moves (fun hmove hs => hs.move hmove) houtside s
    exact ih (hkept h) hrest

/-- A small step reads no driver, so what it leaves in the health table fits if the rest did. -/
theorem Step.fits (h : s.Step t) : Maintains (fun s => s.core.health.Fits) s t := by
  intro hs
  obtain hsame | ⟨c, hperform, hread⟩ := h.health_eq
  · rw [hsame]
    exact hs
  · rw [hperform]
    exact hs.perform (by simp [hread])

end System

namespace Dashboard

variable {f : PerformanceIndicators → Nat} {drivers : List DriverHealth}

end Dashboard

namespace Core

end Core

end DriverTelemetry
