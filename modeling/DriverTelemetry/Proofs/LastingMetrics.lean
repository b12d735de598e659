import DriverTelemetry.Proofs.MetricIdentity
import DriverTelemetry.Proofs.TrackedMemory

/-!
# Lasting metrics

As long as a core accepts calls no metric goes: under its number there stays a metric that is what
it was registered as, and the predefined metrics keep their numbers. So whatever a started core
comes to, the error rate is a rate, and a metric that has been registered as a counter is one.
-/

namespace DriverTelemetry

namespace Registry

/-- A registry that has every metric of another one, under its number and with its identity. -/
def KeepsIdentities (r r' : Registry) : Prop :=
  ∀ id m, r.find? id = some m → ∃ m', r'.find? id = some m' ∧ m'.identity = m.identity

/-- A metric of a kind is registered under a number. -/
def HasKind (r : Registry) (id : MetricId) (kind : MetricKind) : Prop :=
  ∃ m, r.find? id = some m ∧ m.kind = kind

variable {r r' r'' : Registry} {id other : MetricId} {kind kind' : MetricKind}

theorem KeepsIdentities.of_metrics_eq (h : r'.metrics = r.metrics) : r.KeepsIdentities r' :=
  fun id m hm => ⟨m, (find?_of_metrics_eq h id).trans hm, rfl⟩

theorem KeepsIdentities.trans (h : r.KeepsIdentities r') (h' : r'.KeepsIdentities r'') :
    r.KeepsIdentities r'' := by
  intro id m hm
  obtain ⟨m', hm', hidentity⟩ := h id m hm
  obtain ⟨m'', hm'', hidentity'⟩ := h' id m' hm'
  exact ⟨m'', hm'', hidentity'.trans hidentity⟩

theorem keepsIdentities_perform (r : Registry) (c : RegistryCall) :
    r.KeepsIdentities (r.perform c).2 :=
  fun _ _ hm => identity_perform c hm

theorem keepsIdentities_update {nowNs : Nat} {f : MetricValue → Option MetricValue}
    (hf : MetricValue.KeepsKind f) {before : Metric} (h : r.update id nowNs f = .ok (before, r')) :
    r.KeepsIdentities r' := by
  obtain ⟨hbefore, -, value, hvalue, rfl⟩ := update_ok h
  intro other m hm
  rw [find?_modify]
  by_cases heq : other = id
  · subst heq
    cases hm.symm.trans hbefore
    rw [if_pos rfl, hm]
    exact ⟨_, rfl, before.identity_of_kind_eq _ _ _ _ (hf _ _ hvalue)⟩
  · rw [if_neg heq]
    exact ⟨m, hm, rfl⟩

theorem HasKind.of_keepsIdentities (h : r.HasKind id kind) (hkeeps : r.KeepsIdentities r') :
    r'.HasKind id kind := by
  obtain ⟨m, hm, hkind⟩ := h
  obtain ⟨m', hm', hidentity⟩ := hkeeps id m hm
  have hsame : m'.kind = m.kind := by
    simp only [Metric.identity, Prod.mk.injEq] at hidentity
    exact hidentity.2.2.2.1
  exact ⟨m', hm', hsame.trans hkind⟩

theorem HasKind.ne (h : r.HasKind id kind) (h' : r.HasKind other kind') (hne : kind ≠ kind') :
    id ≠ other := by
  rintro rfl
  obtain ⟨m, hm, rfl⟩ := h
  obtain ⟨m', hm', rfl⟩ := h'
  cases hm.symm.trans hm'
  exact hne rfl

end Registry

namespace System

/-- A core that accepts calls and accepted them before, and has every metric that it had. -/
def KeepsMetrics (s t : System) : Prop :=
  t.core.initialized = true →
    s.core.initialized = true ∧ s.core.registry.KeepsIdentities t.core.registry

/-- A core that accepts calls and accepted them before, with the same predefined metrics. -/
def KeepsPredefined (s t : System) : Prop :=
  t.core.initialized = true →
    s.core.initialized = true ∧ t.core.predefined = s.core.predefined

variable {s t : System} {but : List MetricId}

instance : IsPreorder System KeepsMetrics where
  refl _ hready := ⟨hready, .of_metrics_eq rfl⟩
  trans _ _ _ h₁ h₂ hready := by
    obtain ⟨ht, hmetrics₂⟩ := h₂ hready
    obtain ⟨hs, hmetrics₁⟩ := h₁ ht
    exact ⟨hs, hmetrics₁.trans hmetrics₂⟩

instance : IsPreorder System KeepsPredefined where
  refl _ hready := ⟨hready, rfl⟩
  trans _ _ _ h₁ h₂ hready := by
    obtain ⟨ht, hpredefined₂⟩ := h₂ hready
    obtain ⟨hs, hpredefined₁⟩ := h₁ ht
    exact ⟨hs, hpredefined₂.trans hpredefined₁⟩

theorem SameLevels.keepsPredefined (h : s.SameLevels but t) : s.KeepsPredefined t := by
  intro hready
  obtain ⟨hs, hpredefined, -⟩ := h hready
  exact ⟨hs, hpredefined⟩

theorem Step.keepsMetrics (h : s.Step t) : s.KeepsMetrics t := by
  cases h with
  | @metricRegistered name description kind subsystem nowNs id r hregister =>
    have hkeeps := s.core.registry.keepsIdentities_perform
      (.register name description kind subsystem nowNs)
    simp only [Registry.perform, hregister] at hkeeps
    exact fun hready => ⟨hready, hkeeps⟩
  | @metricUpdated id nowNs f before r hupdate hkind verdict overheadNs =>
    have hupdated := Registry.keepsIdentities_update hkind hupdate
    have hqueued := hupdated.trans (.of_metrics_eq (Registry.metrics_enqueue? r verdict))
    have hnoted := (r.enqueue? verdict).keepsIdentities_perform (.noteOverhead id overheadNs)
    exact fun hready => ⟨hready, hqueued.trans hnoted⟩
  | @metricEnabled id enabled r hset =>
    have hkeeps := s.core.registry.keepsIdentities_perform (.setEnabled id enabled)
    simp only [Registry.perform, hset] at hkeeps
    exact fun hready => ⟨hready, hkeeps⟩
  | ratesRolled nowNs =>
    exact fun hready => ⟨hready, s.core.registry.keepsIdentities_perform (.rollRates nowNs)⟩
  | verdictsTaken =>
    exact fun hready => ⟨hready, s.core.registry.keepsIdentities_perform .takePending⟩
  | retired => exact fun hready => by simp at hready
  | _ => exact fun hready => ⟨hready, .of_metrics_eq rfl⟩

theorem Move.keepsMetrics (h : s.Move t) : s.KeepsMetrics t := by
  cases h with
  | step hstep => exact hstep.keepsMetrics
  | emitted | health | attempted => exact fun hready => ⟨hready, .of_metrics_eq rfl⟩

theorem keepsMetrics_perform (s : System) (x : Happening) : s.KeepsMetrics (s.perform x) :=
  x.within_moves Move.keepsMetrics
    (x.outside_of_forall fun _ _ hready => ⟨hready, .of_metrics_eq rfl⟩) s

theorem keepsPredefined_adjustTrackedMemory (delta : Int) (s : System) :
    s.KeepsPredefined ((Core.adjustTrackedMemory delta).run s).2 :=
  related_of_chain (fun hstep => hstep.2.keepsPredefined) (Core.steady_adjustTrackedMemory delta s)

theorem keepsPredefined_perform (s : System) (x : Happening) :
    s.KeepsPredefined (s.perform x) := by
  cases htracks : x.tracks with
  | false => exact (x.sameLevels htracks s).keepsPredefined
  | true =>
    -- tracking may move the level of tracked memory, so the steps have to be followed here
    intro hready'
    have hready := initialized_of_perform hready'
    refine ⟨hready, ?_⟩
    cases x with
    | trackAlloc address size file line owner =>
      obtain ⟨u, record, hcore, -, -, -, ⟨e, -, hafter⟩ | ⟨tracker, -, hafter⟩⟩ :=
        trackAlloc_cases hready address size file line owner
      · have hsame : (s.perform (.trackAlloc address size file line owner)).core = s.core :=
          (congrArg System.core hafter).trans hcore
        rw [hsame]
      · have hkeeps := keepsPredefined_adjustTrackedMemory (SignedWord.wrap size)
          { u with core.tracker := tracker }
        have hsame : u.core.predefined = s.core.predefined := congrArg Core.predefined hcore
        rw [← hafter] at hkeeps
        exact (hkeeps hready').2.trans hsame
    | trackFree address =>
      obtain ⟨record, tracker, -, hrun⟩ | ⟨-, hafter⟩ := trackFree_cases hready address
      · have hkeeps := keepsPredefined_adjustTrackedMemory
          (SignedWord.wrap (-SignedWord.wrap record.size)) { s with core.tracker := tracker }
        rw [← congrArg Prod.snd hrun] at hkeeps
        exact (hkeeps hready').2
      · have hkeeps := related_of_chain (R := KeepsPredefined)
          (fun hstep => hstep.2.keepsPredefined) hafter
        exact (hkeeps hready').2
    | _ => cases htracks

theorem keepsMetrics_after (s : System) (xs : List Happening) : s.KeepsMetrics (s.after xs) := by
  induction xs generalizing s with
  | nil => exact refl s
  | cons x rest ih => exact trans_of KeepsMetrics (s.keepsMetrics_perform x) (ih _)

theorem Enters.keepsIdentities {id : MetricId} {kind : MetricKind} (h : s.Enters id kind t) :
    s.core.registry.KeepsIdentities t.core.registry := by
  intro other m hm
  have hne : other ≠ id := (h.ne (by rw [hm]; rfl)).symm
  exact ⟨m, (h.others other hne).trans hm, rfl⟩

theorem Enters.hasKind {id : MetricId} {kind : MetricKind} (h : s.Enters id kind t) :
    t.core.registry.HasKind id kind := by
  obtain ⟨m, nowNs, hm, -, hvalue⟩ := h.entered
  refine ⟨m, hm, ?_⟩
  rw [Metric.kind, hvalue]
  exact MetricValue.kind_initial kind nowNs

/-- The error rate of a core that accepts calls is a rate. -/
theorem Reachable.hasKind_errorRate (h : s.Reachable) (hready : s.core.initialized = true) :
    s.core.registry.HasKind s.core.predefined.errorRate .rate := by
  induction h with
  | @started number config env env' core hstart =>
    obtain ⟨r, u, -, hregistered, hsame⟩ := Core.books_of_start hstart
    obtain ⟨hregistry, hrest⟩ := Prod.mk.inj hsame
    obtain ⟨hpredefined, -⟩ := Prod.mk.inj hrest
    obtain ⟨-, -, -, hrate⟩ := registerPredefined_inv hregistered
    rw [hregistry, hpredefined]
    exact hrate
  | @next s _ x ih =>
    obtain ⟨hs, hmetrics⟩ := s.keepsMetrics_perform x hready
    rw [(s.keepsPredefined_perform x hready).2]
    exact (ih hs).of_keepsIdentities hmetrics

end System

end DriverTelemetry
