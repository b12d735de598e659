import DriverTelemetry.Core.StandardMetrics
import DriverTelemetry.Proofs.LastingMetrics
import DriverTelemetry.Proofs.TransitionEvents

/-!
# Recording an error

An error is counted in the error rate, then in the counter of its subsystem if it has one, and then
logged. `System.call_countUp` says how far a list of metrics is counted up: to the first one that
takes no updates. So a recording that its first metric refuses leaves nothing behind, but one that
its second refuses leaves the first one counted.
-/

namespace DriverTelemetry

theorem MetricValue.magnitude_of_addCount {amount : Nat} {v w : MetricValue}
    (h : addCount? amount v = some w) : w.magnitude = Word.satAdd v.magnitude amount := by
  cases v <;> cases h <;> rfl

theorem LifetimeCounters.metricsCollected_foldl (c : LifetimeCounters) (overheads : List Nat) :
    (overheads.foldl recordUpdate c).metricsCollected = c.metricsCollected + overheads.length := by
  induction overheads generalizing c with
  | nil => rfl
  | cons overheadNs rest ih =>
    rw [List.foldl_cons, ih, List.length_cons, Nat.add_comm rest.length, ← Nat.add_assoc]
    rfl

namespace Registry

/-- Whether the metric of a number takes updates. -/
def takes (r : Registry) (id : MetricId) : Bool := (r.find? id).any (·.enabled)

variable {r : Registry} {id : MetricId} {m : Metric}

/-- Adding to a metric that counts is refused for its switch alone. -/
theorem refusal?_added (hm : r.find? id = some m) (hkind : m.kind.isCounterLike = true)
    (amount : UInt64) :
    r.refusal? id (.added amount) =
      if r.takes id then none else some (.invalidParam "metric disabled") := by
  have hfits : (Change.added amount).fits m.kind = true := hkind
  rw [refusal?, if_neg (number_ne_zero_of_find? hm), takes, hm]
  cases henabled : m.enabled <;> simp [henabled, hfits]

end Registry

/-- The counter of the errors in a subsystem, if it has its own. -/
def MetricBundle.errorIds (b : MetricBundle) (subsystem : Subsystem) : List MetricId :=
  ((MetricBundle.errorName? subsystem).map b.id).toList

namespace Core

/-- Counts metrics up by one, one after the other. -/
def countUp (ids : List MetricId) : Call Unit := ids.forM fun id => updateCounter id 1

end Core

namespace System

/-- A system in which metrics have been counted up by one since it was another: each of them once,
and no other. Nothing else has happened but that the clock has been read and each update has been
accounted for. -/
structure CountsUp (s : System) (ids : List MetricId) (t : System) : Prop where
  grown : ∀ id ∈ ids, ∃ before after, s.core.registry.find? id = some before ∧
    t.core.registry.find? id = some after ∧ after.kind = before.kind ∧
    after.value.magnitude = Word.satAdd before.value.magnitude 1 ∧
    after.updateCount = before.updateCount + 1
  others : ∀ id, id ∉ ids → t.core.registry.find? id = s.core.registry.find? id
  frame : ∃ platform registry, ∃ overheads : List Nat, overheads.length = ids.length ∧
    t = { s with
          env.platform := platform
          core.registry := registry
          core.counters := overheads.foldl LifetimeCounters.recordUpdate s.core.counters }

variable {s t u : System} {id : MetricId} {ids : List MetricId} {m : Metric}

theorem countsUp_nil (s : System) (platform : SimulatedPlatform) :
    s.CountsUp [] { s with env.platform := platform } where
  grown _ hid := absurd hid List.not_mem_nil
  others _ _ := rfl
  frame := ⟨platform, s.core.registry, [], rfl, rfl⟩

theorem CountsUp.cons (h : s.CountsUp [id] u) (hrest : u.CountsUp ids t) (hid : id ∉ ids) :
    s.CountsUp (id :: ids) t where
  grown := by
    refine List.forall_mem_cons.2 ⟨?_, fun other hother => ?_⟩
    · rw [hrest.others id hid]
      exact h.grown id (List.mem_singleton_self id)
    · obtain ⟨before, after, hbefore, hgrown⟩ := hrest.grown other hother
      have hne : other ∉ [id] := fun hmem => hid (List.mem_singleton.1 hmem ▸ hother)
      exact ⟨before, after, (h.others other hne).symm.trans hbefore, hgrown⟩
  others other hother := by
    have hne : other ∉ [id] := fun hmem => hother (List.mem_singleton.1 hmem ▸ List.mem_cons_self)
    rw [hrest.others other fun hmem => hother (List.mem_cons_of_mem id hmem), h.others other hne]
  frame := by
    obtain ⟨_, _, first, hfirst, rfl⟩ := h.frame
    obtain ⟨platform, registry, rest, hlength, rfl⟩ := hrest.frame
    refine ⟨platform, registry, first ++ rest, ?_, ?_⟩
    · rw [List.length_append, hfirst, hlength, List.length_singleton, List.length_cons,
        Nat.add_comm]
    · rw [List.foldl_append]

theorem CountsUp.collected (h : s.CountsUp ids t) :
    t.core.counters.metricsCollected = s.core.counters.metricsCollected + ids.length := by
  obtain ⟨platform, registry, overheads, hlength, rfl⟩ := h.frame
  rw [← hlength]
  exact s.core.counters.metricsCollected_foldl overheads

/-- A change by one is a count up by one, if nothing else has happened. -/
theorem Changes.countsUp (h : s.Changes id (.added 1) t)
    (hframe : ∃ platform registry overheadNs,
      t = { s with
            env.platform := platform
            core.registry := registry
            core.counters := s.core.counters.recordUpdate overheadNs }) : s.CountsUp [id] t where
  grown := by
    intro other hother
    obtain rfl := List.mem_singleton.1 hother
    obtain ⟨before, after, hbefore, hafter, hvalue, hcount⟩ := h.metric
    exact ⟨before, after, hbefore, hafter, MetricValue.kind_of_apply? hvalue,
      MetricValue.magnitude_of_addCount hvalue, hcount⟩
  others other hother := h.others other fun heq => hother (List.mem_singleton.2 heq)
  frame := by
    obtain ⟨platform, registry, overheadNs, ht⟩ := hframe
    exact ⟨platform, registry, [overheadNs], rfl, ht⟩

theorem call_countUp_cons (s : System) (id : MetricId) (rest : List MetricId) :
    s.call (Core.countUp (id :: rest)) =
      s.call (Core.updateCounter id 1 >>= fun _ => Core.countUp rest) := rfl

/-- With the master switch off there is no counting. -/
theorem call_countUp_off (hready : s.core.initialized = true) (hoff : s.core.enabled = false)
    (ids : List MetricId) : s.call (Core.countUp ids) = (.ok (), s) := by
  induction ids with
  | nil => rfl
  | cons id rest ih =>
    have hrun : s.call (Core.updateCounter id 1) = (.ok (), s) :=
      call_andThen_ok (call_applyUpdate_off hready hoff)
    rw [call_countUp_cons, call_andThen_ok hrun, ih]

section Counting

variable (hready : s.core.initialized = true) (hon : s.core.enabled = true)

include hready hon

theorem call_updateCounter_ok (hm : s.core.registry.find? id = some m)
    (hkind : m.kind.isCounterLike = true) (htakes : s.core.registry.takes id = true) :
    ∃ t, s.call (Core.updateCounter id 1) = (.ok (), t) ∧ s.CountsUp [id] t := by
  have hchange := s.core.registry.change_of_refusal? id (.added 1) (Core.readClock.run s).1
  rw [Registry.refusal?_added hm hkind, if_pos htakes] at hchange
  obtain ⟨r, hchange⟩ := hchange
  have hadd : s.core.registry.addCount id 1 (Core.readClock.run s).1 = .ok r := hchange
  obtain ⟨overheadNs, platform, hrun⟩ := @call_applyUpdate_ok s id _
    (fun r now => (r.addCount id 1 now).map ((), ·)) hready hon () r (by rw [hadd]; rfl)
  refine ⟨_, call_andThen_ok hrun, Changes.countsUp (.of_change hchange rfl rfl) ?_⟩
  exact ⟨platform, r.noteOverhead id overheadNs, overheadNs, rfl⟩

theorem call_updateCounter_disabled (hm : s.core.registry.find? id = some m)
    (hkind : m.kind.isCounterLike = true) (htakes : s.core.registry.takes id = false) :
    ∃ platform, s.call (Core.updateCounter id 1) =
      (.error (.invalidParam "metric disabled"), { s with env.platform := platform }) := by
  have hchange := s.core.registry.change_of_refusal? id (.added 1) (Core.readClock.run s).1
  rw [Registry.refusal?_added hm hkind, if_neg (by simp [htakes])] at hchange
  have hadd : s.core.registry.addCount id 1 (Core.readClock.run s).1 = .error _ := hchange
  have hrun := @call_applyUpdate_error s id _
    (fun r now => (r.addCount id 1 now).map ((), ·)) hready hon _ (by rw [hadd]; rfl)
  exact ⟨_, call_andThen_error hrun⟩

theorem call_countUp_refused (hm : s.core.registry.find? id = some m)
    (hkind : m.kind.isCounterLike = true) (htakes : s.core.registry.takes id = false)
    (rest : List MetricId) :
    ∃ platform, s.call (Core.countUp (id :: rest)) =
      (.error (.invalidParam "metric disabled"), { s with env.platform := platform }) := by
  obtain ⟨platform, hrun⟩ := call_updateCounter_disabled hready hon hm hkind htakes
  rw [call_countUp_cons, call_andThen_error hrun]
  exact ⟨platform, rfl⟩

/-- Metrics that count are counted up to the first one that takes no updates, which is what the
whole is refused for. -/
theorem call_countUp (hids : ids.Nodup) {takes : MetricId → Bool}
    (htakes : ∀ id ∈ ids, s.core.registry.takes id = takes id)
    (hcount : ∀ id ∈ ids, ∃ m, s.core.registry.find? id = some m ∧ m.kind.isCounterLike = true) :
    ∃ t, s.call (Core.countUp ids) =
        (if ids.all takes then .ok () else .error (.invalidParam "metric disabled"), t) ∧
      s.CountsUp (ids.takeWhile takes) t := by
  induction ids generalizing s with
  | nil => exact ⟨s, rfl, s.countsUp_nil s.env.platform⟩
  | cons id rest ih =>
    obtain ⟨hid, hrest⟩ := List.nodup_cons.1 hids
    obtain ⟨htakesId, htakesRest⟩ := List.forall_mem_cons.1 htakes
    obtain ⟨⟨m, hm, hkind⟩, hcountRest⟩ := List.forall_mem_cons.1 hcount
    cases hfirst : takes id with
    | false =>
      obtain ⟨platform, hrun⟩ :=
        call_countUp_refused hready hon hm hkind (htakesId.trans hfirst) rest
      rw [hrun, List.takeWhile_cons_of_neg (by simp [hfirst])]
      exact ⟨_, by simp [hfirst], s.countsUp_nil platform⟩
    | true =>
      obtain ⟨u, hrun, hcounted⟩ :=
        call_updateCounter_ok hready hon hm hkind (htakesId.trans hfirst)
      -- the metrics that are left have not been touched, so they take updates if they did before
      have hkept : ∀ other ∈ rest, u.core.registry.find? other = s.core.registry.find? other :=
        fun other hother => hcounted.others other fun hmem =>
          hid (List.mem_singleton.1 hmem ▸ hother)
      obtain ⟨_, _, _, -, hu⟩ := hcounted.frame
      obtain ⟨t, hrunRest, hcountedRest⟩ := @ih u (by rw [hu]; exact hready) (by rw [hu]; exact hon)
        hrest
        (fun other hother => (congrArg (Option.any _) (hkept other hother)).trans
          (htakesRest other hother))
        (fun other hother => by rw [hkept other hother]; exact hcountRest other hother)
      rw [call_countUp_cons, call_andThen_ok hrun, hrunRest, List.takeWhile_cons_of_pos hfirst]
      refine ⟨t, by simp [hfirst], hcounted.cons hcountedRest fun hmem => hid ?_⟩
      exact (List.takeWhile_sublist _).mem hmem

end Counting

section Bundle

/-- Metrics that are registered one after the other are of the kinds that are asked for, under the
numbers that are answered; no metric goes. -/
theorem registerAll_inv {specs : List MetricSpec} {ids : List (String × MetricId)}
    (h : s.call (specs.mapM fun spec => do
      let id ← Core.registerMetric spec.name spec.description spec.kind spec.subsystem
      return (spec.name, id)) = (.ok ids, t)) :
    s.core.registry.KeepsIdentities t.core.registry ∧
      List.Forall₂ (fun spec entry => entry.1 = spec.name ∧
        t.core.registry.HasKind entry.2 spec.kind) specs ids := by
  induction specs generalizing s ids with
  | nil =>
    cases h
    exact ⟨.of_metrics_eq rfl, .nil⟩
  | cons spec rest ih =>
    rw [List.mapM_cons] at h
    obtain ⟨entry, u, hfirst, h⟩ := call_andThen_inv h
    obtain ⟨entries, v, hrest, h⟩ := call_andThen_inv h
    cases h
    obtain ⟨id, w, hregistered, hentry⟩ := call_andThen_inv hfirst
    cases hentry
    have hentered := enters_of_registerMetric hregistered
    obtain ⟨hkeeps, hregisteredRest⟩ := ih hrest
    exact ⟨hentered.keepsIdentities.trans hkeeps,
      .cons ⟨rfl, hentered.hasKind.of_keepsIdentities hkeeps⟩ hregisteredRest⟩

/-- A name that some specification has is looked up to what belongs to the first of them. -/
theorem exists_lookup {P : MetricSpec → MetricId → Prop} {specs : List MetricSpec}
    {entries : List (String × MetricId)}
    (h : List.Forall₂ (fun spec entry => entry.1 = spec.name ∧ P spec entry.2) specs entries)
    {name : String} {spec : MetricSpec} (hspec : specs.find? (·.name == name) = some spec) :
    ∃ id, entries.lookup name = some id ∧ P spec id := by
  induction h with
  | nil => cases hspec
  | @cons first entry rest entries hentry _ ih =>
    obtain ⟨key, id⟩ := entry
    obtain ⟨rfl, hfirst⟩ : key = first.name ∧ P first id := hentry
    rw [List.find?_cons] at hspec
    rw [List.lookup_cons]
    by_cases hname : first.name = name
    · subst hname
      simp only [beq_self_eq_true, Option.some.injEq] at hspec ⊢
      exact ⟨id, rfl, hspec ▸ hfirst⟩
    · rw [beq_false_of_ne hname] at hspec
      rw [beq_false_of_ne (Ne.symm hname)]
      exact ih hspec

/-- The standard metrics are of the kinds that they are specified with. -/
theorem hasKind_of_registerStandardMetrics {b : MetricBundle}
    (h : s.call Core.registerStandardMetrics = (.ok b, t)) {name : String} {spec : MetricSpec}
    (hspec : standardMetrics.find? (·.name == name) = some spec) :
    t.core.registry.HasKind (b.id name) spec.kind := by
  obtain ⟨ids, u, hregistered, h⟩ := call_andThen_inv h
  obtain ⟨eventId, v, hlogged, h⟩ := call_andThen_inv h
  -- the message at the end leaves the registry as the registrations have made it
  have hbooks := Core.sameBooks_log .info .core
    "Initialized telemetry metrics for all subsystems" u
  change System.books (u.call _).2 = u.books at hbooks
  rw [hlogged] at hbooks
  have hregistry : v.core.registry = u.core.registry := congrArg Prod.fst hbooks
  obtain rfl : v = t := congrArg Prod.snd h
  obtain rfl : { core := v.core.number, ids } = b := Except.ok.inj (congrArg Prod.fst h)
  obtain ⟨-, hall⟩ := registerAll_inv hregistered
  obtain ⟨id, hlookup, hkind⟩ :=
    exists_lookup (P := fun spec id => u.core.registry.HasKind id spec.kind) hall hspec
  rw [MetricBundle.id, hlookup, hregistry]
  exact hkind

/-- The counter of the errors in a subsystem is specified as one. -/
theorem exists_errorSpec {subsystem : Subsystem} {name : String}
    (h : MetricBundle.errorName? subsystem = some name) :
    ∃ spec, standardMetrics.find? (·.name == name) = some spec ∧ spec.kind = .counter := by
  cases subsystem <;> cases h <;> exact ⟨_, rfl, rfl⟩

theorem hasKind_errorIds {b : MetricBundle}
    (h : s.call Core.registerStandardMetrics = (.ok b, t)) {subsystem : Subsystem}
    (hid : id ∈ b.errorIds subsystem) : t.core.registry.HasKind id .counter := by
  obtain ⟨name, hname, rfl⟩ := Option.map_eq_some_iff.1 (Option.mem_toList.1 hid)
  obtain ⟨spec, hspec, hkind⟩ := exists_errorSpec hname
  rw [← hkind]
  exact hasKind_of_registerStandardMetrics h hspec

end Bundle

/-- What is logged about an error in a subsystem. -/
def errorText (subsystem : Subsystem) : String := s!"Error recorded in subsystem {subsystem.name}"

/-- The system after an error in a subsystem has been logged. -/
def errorLogged (s : System) (subsystem : Subsystem) : System :=
  ((Core.emit .error subsystem (·.setMessage (errorText subsystem))).run s).2

/-- The metrics that an error in a subsystem is counted in, in order. -/
def errorMetrics (s : System) (b : MetricBundle) (subsystem : Subsystem) : List MetricId :=
  s.core.predefined.errorRate :: b.errorIds subsystem

/-- A system in which an error in a subsystem has been recorded since it was another: metrics have
been counted up, and after that one event has been logged. -/
def RecordsError (s : System) (ids : List MetricId) (subsystem : Subsystem) (t : System) : Prop :=
  ∃ u e, s.CountsUp ids u ∧ u.Logs [e] t ∧ e.severity = .error ∧ e.subsystem = subsystem ∧
    t = u.errorLogged subsystem

/-- Recording an error is all or nothing: if it is refused nothing happens but that the clock is
read, and if it is accepted with the master switch on it is recorded in all its metrics. -/
def RecordsWhole (s : System) (b : MetricBundle) (subsystem : Subsystem) : Prop :=
  ∃ answer t, s.call (Core.recordError b subsystem) = (answer, t) ∧
    (∀ e, answer = .error e → ∃ platform, t = { s with env.platform := platform }) ∧
    (answer = .ok () → s.core.enabled = true →
      s.RecordsError (s.errorMetrics b subsystem) subsystem t)

/-- An error is counted in the error rate, but the counter of its subsystem takes no updates. -/
def StopsHalfway (s : System) (b : MetricBundle) (subsystem : Subsystem) : Prop :=
  s.core.initialized = true ∧ s.core.enabled = true ∧
    s.core.registry.takes s.core.predefined.errorRate = true ∧
    ∃ id ∈ b.errorIds subsystem, s.core.registry.takes id = false

instance (s : System) (b : MetricBundle) (subsystem : Subsystem) :
    Decidable (s.StopsHalfway b subsystem) :=
  inferInstanceAs (Decidable (_ ∧ _ ∧ _ ∧ ∃ id ∈ b.errorIds subsystem, _))

/-- What a recording comes to: the answer, and the system after it. -/
inductive RecordingOutcome (s : System) (b : MetricBundle) (subsystem : Subsystem) :
    Except TelemetryError Unit × System → Prop
  | unready (hready : s.core.initialized = false) :
      RecordingOutcome s b subsystem (.error .notInitialized, s)
  | uncounted (hready : s.core.initialized = true) (hoff : s.core.enabled = false) :
      RecordingOutcome s b subsystem (.ok (), s.errorLogged subsystem)
  | refused (hready : s.core.initialized = true) (hon : s.core.enabled = true)
      (hrate : s.core.registry.takes s.core.predefined.errorRate = false)
      (platform : SimulatedPlatform) :
      RecordingOutcome s b subsystem
        (.error (.invalidParam "metric disabled"), { s with env.platform := platform })
  | halfway {t : System} (hstops : s.StopsHalfway b subsystem)
      (hcounted : s.CountsUp [s.core.predefined.errorRate] t) :
      RecordingOutcome s b subsystem (.error (.invalidParam "metric disabled"), t)
  | whole {t : System} (hready : s.core.initialized = true) (hon : s.core.enabled = true)
      (htakes : ∀ id ∈ s.errorMetrics b subsystem, s.core.registry.takes id = true)
      (hrecords : s.RecordsError (s.errorMetrics b subsystem) subsystem t) :
      RecordingOutcome s b subsystem (.ok (), t)

/-- A core the metrics of which for errors in a subsystem are of the kinds that they are registered
with. -/
structure KeepsErrorMetrics (s : System) (b : MetricBundle) (subsystem : Subsystem) : Prop where
  rate : s.core.registry.HasKind s.core.predefined.errorRate .rate
  own : ∀ id ∈ b.errorIds subsystem, s.core.registry.HasKind id .counter

section Recording

variable {b : MetricBundle} {subsystem : Subsystem}

theorem call_recordError (s : System) (b : MetricBundle) (subsystem : Subsystem) :
    s.call (Core.recordError b subsystem) =
      s.call (Core.countUp (s.errorMetrics b subsystem) >>= fun _ =>
        Core.log .error subsystem (errorText subsystem) >>= fun _ => pure ()) := by
  unfold Core.recordError Core.countUp errorMetrics MetricBundle.errorIds
  rw [call_get_andThen]
  cases MetricBundle.errorName? subsystem with
  | none =>
    simp only [Option.map_none, Option.toList_none, List.forM_eq_forM, List.forM_cons,
      List.forM_nil, bind_assoc, pure_bind]
    rfl
  | some name =>
    simp only [Option.map_some, Option.toList_some, List.forM_eq_forM, List.forM_cons,
      List.forM_nil, bind_assoc, pure_bind]
    rfl

theorem KeepsErrorMetrics.nodup (h : s.KeepsErrorMetrics b subsystem) :
    (s.errorMetrics b subsystem).Nodup := by
  refine List.nodup_cons.2 ⟨fun hmem => h.rate.ne (h.own _ hmem) (by decide) rfl, ?_⟩
  unfold MetricBundle.errorIds
  cases MetricBundle.errorName? subsystem <;> simp

theorem KeepsErrorMetrics.counting (h : s.KeepsErrorMetrics b subsystem) :
    ∀ id ∈ s.errorMetrics b subsystem,
      ∃ m, s.core.registry.find? id = some m ∧ m.kind.isCounterLike = true := by
  refine List.forall_mem_cons.2 ⟨?_, fun id hid => ?_⟩
  · obtain ⟨m, hm, hkind⟩ := h.rate
    exact ⟨m, hm, by rw [hkind]; rfl⟩
  · obtain ⟨m, hm, hkind⟩ := h.own id hid
    exact ⟨m, hm, by rw [hkind]; rfl⟩

/-- A subsystem has at most one counter of its own. -/
theorem errorIds_eq_singleton (hid : id ∈ b.errorIds subsystem) : b.errorIds subsystem = [id] := by
  obtain ⟨name, hname, rfl⟩ := Option.map_eq_some_iff.1 (Option.mem_toList.1 hid)
  rw [MetricBundle.errorIds, hname, Option.map_some, Option.toList_some]

theorem call_recordError_unready (hready : s.core.initialized = false) :
    s.call (Core.recordError b subsystem) = (.error .notInitialized, s) := by
  have hrun : s.call (Core.updateCounter s.core.predefined.errorRate 1) =
      (.error .notInitialized, s) := call_andThen_error (call_applyUpdate_unready hready)
  have hcount : s.call (Core.countUp (s.errorMetrics b subsystem)) =
      (.error .notInitialized, s) := by
    rw [errorMetrics, call_countUp_cons, call_andThen_error hrun]
  rw [call_recordError, call_andThen_error hcount]

/-- What has been counted is logged. -/
theorem call_recordError_ok (hready : u.core.initialized = true)
    (hcount : s.call (Core.countUp (s.errorMetrics b subsystem)) = (.ok (), u)) :
    s.call (Core.recordError b subsystem) = (.ok (), u.errorLogged subsystem) := by
  rw [call_recordError, call_andThen_ok hcount, call_andThen_ok (call_log_ok hready _ _ _)]
  rfl

theorem call_recordError_off (hready : s.core.initialized = true) (hoff : s.core.enabled = false) :
    s.call (Core.recordError b subsystem) = (.ok (), s.errorLogged subsystem) :=
  call_recordError_ok hready (call_countUp_off hready hoff _)

section On

variable (hready : s.core.initialized = true) (hon : s.core.enabled = true)
  (hkeeps : s.KeepsErrorMetrics b subsystem)

include hready hon hkeeps

/-- An error all the metrics of which take updates is recorded. -/
theorem call_recordError_whole
    (htakes : ∀ id ∈ s.errorMetrics b subsystem, s.core.registry.takes id = true) :
    ∃ t, s.call (Core.recordError b subsystem) = (.ok (), t) ∧
      s.RecordsError (s.errorMetrics b subsystem) subsystem t := by
  obtain ⟨u, hrun, hcounted⟩ :=
    call_countUp hready hon hkeeps.nodup (fun _ _ => rfl) hkeeps.counting
  rw [if_pos (List.all_eq_true.2 htakes)] at hrun
  rw [List.takeWhile_eq_self_iff.2 htakes] at hcounted
  have hready' : u.core.initialized = true := by
    obtain ⟨_, _, _, -, hu⟩ := hcounted.frame
    rw [hu]
    exact hready
  obtain ⟨e, hlogs, hseverity, hsubsystem, -⟩ :=
    u.logs_emit .error subsystem (·.setMessage (errorText subsystem))
  exact ⟨_, call_recordError_ok hready' hrun, u, e, hcounted, hlogs, hseverity, hsubsystem, rfl⟩

/-- An error that the error rate refuses leaves nothing behind. -/
theorem call_recordError_refused
    (hrate : s.core.registry.takes s.core.predefined.errorRate = false) :
    ∃ platform, s.call (Core.recordError b subsystem) =
      (.error (.invalidParam "metric disabled"), { s with env.platform := platform }) := by
  obtain ⟨m, hm, hkind⟩ := hkeeps.counting _ List.mem_cons_self
  obtain ⟨platform, hrun⟩ :=
    call_countUp_refused hready hon hm hkind hrate (b.errorIds subsystem)
  exact ⟨platform, by rw [call_recordError, errorMetrics, call_andThen_error hrun]⟩

/-- An error that only the counter of its subsystem refuses is refused, but it stays counted in the
error rate. -/
theorem call_recordError_halfway
    (hrate : s.core.registry.takes s.core.predefined.errorRate = true)
    (hid : id ∈ b.errorIds subsystem) (hown : s.core.registry.takes id = false) :
    ∃ t, s.call (Core.recordError b subsystem) = (.error (.invalidParam "metric disabled"), t) ∧
      s.CountsUp [s.core.predefined.errorRate] t := by
  obtain ⟨u, hrun, hcounted⟩ :=
    call_countUp hready hon hkeeps.nodup (fun _ _ => rfl) hkeeps.counting
  rw [errorMetrics, List.takeWhile_cons_of_pos hrate, errorIds_eq_singleton hid,
    List.takeWhile_cons_of_neg (by simp [hown])] at hcounted
  rw [if_neg fun hall => by simp [List.all_eq_true.1 hall id (List.mem_cons_of_mem _ hid)] at hown]
    at hrun
  exact ⟨u, by rw [call_recordError, call_andThen_error hrun], hcounted⟩

end On

theorem recordingOutcome (hkeeps : s.core.initialized = true → s.KeepsErrorMetrics b subsystem) :
    s.RecordingOutcome b subsystem (s.call (Core.recordError b subsystem)) := by
  cases hready : s.core.initialized with
  | false =>
    rw [call_recordError_unready hready]
    exact .unready hready
  | true =>
    cases hon : s.core.enabled with
    | false =>
      rw [call_recordError_off hready hon]
      exact .uncounted hready hon
    | true =>
      cases hrate : s.core.registry.takes s.core.predefined.errorRate with
      | false =>
        obtain ⟨platform, hrun⟩ := call_recordError_refused hready hon (hkeeps hready) hrate
        rw [hrun]
        exact .refused hready hon hrate platform
      | true =>
        by_cases hown : ∃ id ∈ b.errorIds subsystem, s.core.registry.takes id = false
        · obtain ⟨id, hid, hrefuses⟩ := hown
          obtain ⟨t, hrun, hcounted⟩ :=
            call_recordError_halfway hready hon (hkeeps hready) hrate hid hrefuses
          rw [hrun]
          exact .halfway ⟨hready, hon, hrate, id, hid, hrefuses⟩ hcounted
        · have htakes : ∀ id ∈ s.errorMetrics b subsystem, s.core.registry.takes id = true := by
            refine List.forall_mem_cons.2 ⟨hrate, fun id hid => ?_⟩
            by_contra hrefuses
            exact hown ⟨id, hid, Bool.eq_false_iff.2 hrefuses⟩
          obtain ⟨t, hrun, hrecords⟩ := call_recordError_whole hready hon (hkeeps hready) htakes
          rw [hrun]
          exact .whole hready hon htakes hrecords

/-- A recording is all or nothing unless it stops halfway. -/
theorem recordsWhole_iff (hkeeps : s.core.initialized = true → s.KeepsErrorMetrics b subsystem) :
    s.RecordsWhole b subsystem ↔ ¬ s.StopsHalfway b subsystem := by
  unfold RecordsWhole
  generalize hrun : s.call (Core.recordError b subsystem) = outcome
  have houtcome := recordingOutcome hkeeps
  rw [hrun] at houtcome
  cases houtcome with
  | unready hready =>
    refine iff_of_true ⟨_, s, rfl, fun _ _ => ⟨_, rfl⟩, fun h => ?_⟩ fun hstops => ?_
    · cases h
    · cases hready.symm.trans hstops.1
  | uncounted hready hoff =>
    refine iff_of_true ⟨_, _, rfl, fun _ h => ?_, fun _ hon => ?_⟩ fun hstops => ?_
    · cases h
    · cases hoff.symm.trans hon
    · cases hoff.symm.trans hstops.2.1
  | refused hready hon hrate platform =>
    refine iff_of_true ⟨_, _, rfl, fun _ _ => ⟨platform, rfl⟩, fun h => ?_⟩ fun hstops => ?_
    · cases h
    · cases hrate.symm.trans hstops.2.2.1
  | halfway hstops hcounted =>
    refine iff_of_false ?_ fun hnot => hnot hstops
    rintro ⟨answer, t, heq, hrefused, -⟩
    obtain ⟨rfl, rfl⟩ := Prod.mk.inj heq
    obtain ⟨platform, rfl⟩ := hrefused _ rfl
    -- the update of the error rate shows in the account of updates
    have hcollected := hcounted.collected
    simp at hcollected
  | whole hready hon htakes hrecords =>
    refine iff_of_true ⟨_, _, rfl, fun _ h => ?_, fun _ _ => hrecords⟩ fun hstops => ?_
    · cases h
    · obtain ⟨-, -, -, id, hid, hrefuses⟩ := hstops
      cases hrefuses.symm.trans (htakes id (List.mem_cons_of_mem _ hid))

/-- The metrics of a bundle are still what they were registered as, as long as the core accepts
calls. -/
theorem Reachable.keepsErrorMetrics (h : s.Reachable)
    (hb : s.call Core.registerStandardMetrics = (.ok b, t)) (xs : List Happening)
    (subsystem : Subsystem) (hready : (t.after xs).core.initialized = true) :
    (t.after xs).KeepsErrorMetrics b subsystem where
  rate := by
    have ht : s.perform .registerStandardMetrics = t := congrArg Prod.snd hb
    exact ((ht ▸ h.next .registerStandardMetrics).after xs).hasKind_errorRate hready
  own id hid := (hasKind_errorIds hb hid).of_keepsIdentities (t.keepsMetrics_after xs hready).2

/-- **When the recording of an error is all or nothing.** In every system that a started core can
come to after the standard metrics have been registered on it, and for every subsystem: a core that
has been shut down refuses to record an error, and one the master switch of which is off only logs
it; an error that the error rate refuses leaves no trace but a reading of the clock, and one all the
metrics of which take updates is counted up by one in each of them, and in no other, and then logged
in one event. If only the counter of the subsystem is disabled, the error is refused and yet counted
in the error rate; but for that case the recording is all or nothing. -/
theorem error_recorded_whole_iff {s₀ s₁ : System} (hreachable : s₀.Reachable)
    (hb : s₀.call Core.registerStandardMetrics = (.ok b, s₁)) (xs : List Happening)
    (subsystem : Subsystem) :
    let s := s₁.after xs
    s.RecordingOutcome b subsystem (s.call (Core.recordError b subsystem)) ∧
      (s.RecordsWhole b subsystem ↔ ¬ s.StopsHalfway b subsystem) :=
  ⟨recordingOutcome (hreachable.keepsErrorMetrics hb xs subsystem),
    recordsWhole_iff (hreachable.keepsErrorMetrics hb xs subsystem)⟩

/-- What the standard metrics have come to on a core that has started. -/
theorem exists_bundle (number : Nat) (config : Config) (env : Environment)
    (P : MetricBundle → System → Bool)
    (h : (match Core.start number config env with
      | (.ok core, env') =>
        match System.call { env := env', core } Core.registerStandardMetrics with
        | (.ok b, t) => P b t
        | (.error _, _) => false
      | (.error _, _) => false) = true) :
    ∃ (s t : System) (b : MetricBundle), s.Reachable ∧
      s.call Core.registerStandardMetrics = (.ok b, t) ∧ P b t = true := by
  obtain ⟨core, env', hstart, hholds⟩ := Core.exists_start number config env
    (fun s => match s.call Core.registerStandardMetrics with
      | (.ok b, t) => P b t
      | (.error _, _) => false) h
  split at hholds
  · rename_i b t hregistered
    exact ⟨_, t, b, .started hstart, hregistered, hholds⟩
  · cases hholds

/-- An error of a drive is recorded in two metrics while all metrics are enabled. -/
theorem error_recorded_whole_of_nvme :
    ∃ (s₀ s t : System) (b : MetricBundle) (own : MetricId), s₀.Reachable ∧
      s₀.call Core.registerStandardMetrics = (.ok b, s) ∧
      s.call (Core.recordError b .nvme) = (.ok (), t) ∧
      s.RecordsError [s.core.predefined.errorRate, own] .nvme t := by
  obtain ⟨s₀, s, b, hreachable, hb, hstate⟩ := exists_bundle 0 .manual {}
    (fun b s => decide (s.core.enabled = true ∧ (∀ id ∈ b.errorIds .nvme,
      s.core.registry.takes id = true) ∧ (s.call (Core.recordError b .nvme)).1.toBool = true))
    (by decide +kernel)
  obtain ⟨hon, htakes, haccepted⟩ := of_decide_eq_true hstate
  have hstops : ¬ s.StopsHalfway b .nvme := by
    rintro ⟨-, -, -, id, hid, hrefuses⟩
    cases hrefuses.symm.trans (htakes id hid)
  obtain ⟨answer, t, hrun, -, hrecords⟩ :=
    (error_recorded_whole_iff hreachable hb [] .nvme).2.2 hstops
  cases answer with
  | error e =>
    rw [show s.call _ = _ from hrun] at haccepted
    cases haccepted
  | ok => exact ⟨s₀, s, t, b, _, hreachable, hb, hrun, hrecords rfl hon⟩

/-- After the counter of the errors of drives has been disabled, an error of a drive is refused, but
the error rate has grown. -/
theorem error_recorded_halfway :
    ¬∀ (s₀ s₁ : System) (b : MetricBundle) (xs : List Happening) (subsystem : Subsystem),
      s₀.Reachable → s₀.call Core.registerStandardMetrics = (.ok b, s₁) →
      (s₁.after xs).RecordsWhole b subsystem := by
  intro hclaim
  let xs (b : MetricBundle) : List Happening := [.setMetricEnabled (b.id "nvme_errors") false]
  obtain ⟨s₀, s₁, b, hreachable, hb, hstate⟩ := exists_bundle 0 .manual {}
    (fun b s => decide ((s.after (xs b)).StopsHalfway b .nvme)) (by decide +kernel)
  have hkeeps := hreachable.keepsErrorMetrics hb (xs b) .nvme
  have hwhole := hclaim s₀ s₁ b (xs b) .nvme hreachable hb
  exact (recordsWhole_iff hkeeps).1 hwhole (of_decide_eq_true hstate)

end Recording

end System

end DriverTelemetry
