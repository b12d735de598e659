import DriverTelemetry.Core
import DriverTelemetry.Proofs.MetricHistory

/-!
# The levels of metrics

A gauge, a memory size and a bandwidth have a level; it is set and moved by updates of their own
sort and by nothing else. `Registry.KeepsLevels` says that a registry still has the levels of
another one, but for the metrics of some numbers, and every operation keeps the levels of all
metrics but of the one whose level it is for.
-/

namespace DriverTelemetry

/-- An update that no value with a level takes. -/
def MetricValue.Accumulating (f : MetricValue → Option MetricValue) : Prop :=
  ∀ v w, f v = some w → v.level? = none

/-- An update that leaves the kind of a value as it is. -/
def MetricValue.KeepsKind (f : MetricValue → Option MetricValue) : Prop :=
  ∀ v w, f v = some w → w.kind = v.kind

namespace MetricValue

theorem keepsKind_addCount (amount : Nat) : KeepsKind (addCount? amount) := by
  intro v w h
  cases v <;> cases h <;> rfl

theorem keepsKind_setLevel (level : Int) : KeepsKind (setLevel? level) := by
  intro v w h
  cases v <;> cases h <;> rfl

theorem keepsKind_adjustLevel (delta : Int) : KeepsKind (adjustLevel? delta) := by
  intro v w h
  cases v <;> cases h <;> rfl

theorem keepsKind_recordSample (sample : Nat) : KeepsKind (recordSample? sample) := by
  intro v w h
  cases v <;> cases h
  rfl

theorem keepsKind_recordDuration (durationNs : Nat) : KeepsKind (recordDuration? durationNs) := by
  intro v w h
  cases v <;> cases h
  rfl

theorem accumulating_addCount (amount : Nat) : Accumulating (addCount? amount) := by
  intro v w h
  cases v <;> first | rfl | cases h

theorem accumulating_recordSample (sample : Nat) : Accumulating (recordSample? sample) := by
  intro v w h
  cases v <;> first | rfl | cases h

theorem accumulating_recordDuration (durationNs : Nat) :
    Accumulating (recordDuration? durationNs) := by
  intro v w h
  cases v <;> first | rfl | cases h

theorem roll_of_level {v : MetricValue} (h : v.level?.isSome = true) (nowNs : Nat) :
    v.roll nowNs = v := by
  cases v <;> first | rfl | cases h

end MetricValue

namespace Registry

/-- A registry that has the levels of another one, but for the metrics of some numbers. -/
def KeepsLevels (but : List MetricId) (r r' : Registry) : Prop :=
  ∀ id m, id ∉ but → r.find? id = some m → m.value.level?.isSome = true →
    ∃ m', r'.find? id = some m' ∧ m'.value = m.value

variable {but : List MetricId} {r r' r'' : Registry} {id : MetricId}

theorem KeepsLevels.of_metrics_eq (h : r'.metrics = r.metrics) : r.KeepsLevels but r' :=
  fun id m _ hm _ => ⟨m, (find?_of_metrics_eq h id).trans hm, rfl⟩

theorem KeepsLevels.trans (h : r.KeepsLevels but r') (h' : r'.KeepsLevels but r'') :
    r.KeepsLevels but r'' := by
  intro id m hid hm hlevel
  obtain ⟨m', hm', hvalue⟩ := h id m hid hm hlevel
  obtain ⟨m'', hm'', hvalue'⟩ := h' id m' hid hm' (hvalue ▸ hlevel)
  exact ⟨m'', hm'', hvalue'.trans hvalue⟩

theorem KeepsLevels.mono {wider : List MetricId} (h : r.KeepsLevels but r') (hle : but ⊆ wider) :
    r.KeepsLevels wider r' :=
  fun id m hid hm hlevel => h id m (fun hmem => hid (hle hmem)) hm hlevel

/-- Changing a metric that is left out, or one of which the level stays. -/
theorem keepsLevels_modify {f : Metric → Metric}
    (hf : id ∈ but ∨ ∀ m, r.find? id = some m → m.value.level?.isSome = true →
      (f m).value = m.value) : r.KeepsLevels but (r.modify id f) := by
  intro other m hother hm hlevel
  rw [find?_modify]
  by_cases heq : other = id
  · subst heq
    rw [if_pos rfl, hm]
    exact ⟨f m, rfl, hf.resolve_left hother m hm hlevel⟩
  · rw [if_neg heq]
    exact ⟨m, hm, rfl⟩

theorem keepsLevels_register {name description : String} {kind : MetricKind}
    {subsystem : Subsystem} {nowNs : Nat}
    (h : r.register name description kind subsystem nowNs = .ok (id, r')) :
    r.KeepsLevels but r' := by
  intro other m _ hm _
  obtain ⟨hfresh, hfind⟩ := find?_register h other
  have hne : other ≠ id := by
    rintro rfl
    rw [hfresh] at hm
    cases hm
  exact ⟨m, by rw [hfind, if_neg hne, hm], rfl⟩

theorem keepsLevels_update {nowNs : Nat} {f : MetricValue → Option MetricValue} {before : Metric}
    (hf : id ∈ but ∨ MetricValue.Accumulating f) (h : r.update id nowNs f = .ok (before, r')) :
    r.KeepsLevels but r' := by
  obtain ⟨hbefore, -, value, hvalue, rfl⟩ := update_ok h
  refine keepsLevels_modify (hf.imp_right fun haccumulating m hm hlevel => ?_)
  rw [hbefore, Option.some.injEq] at hm
  rw [← hm, haccumulating _ _ hvalue] at hlevel
  cases hlevel

theorem keepsLevels_noteOverhead (r : Registry) (id : MetricId) (overheadNs : Nat) :
    r.KeepsLevels but (r.noteOverhead id overheadNs) :=
  keepsLevels_modify (.inr fun _ _ _ => rfl)

theorem keepsLevels_setEnabled {enabled : Bool} (h : r.setEnabled id enabled = .ok r') :
    r.KeepsLevels but r' := by
  obtain ⟨-, -, h⟩ := bind_eq_ok h
  cases h
  exact keepsLevels_modify (.inr fun _ _ _ => rfl)

theorem keepsLevels_rollRates (r : Registry) (nowNs : Nat) :
    r.KeepsLevels but (r.rollRates nowNs) := by
  intro other m _ hm hlevel
  refine ⟨_, by rw [find?_rollRates, hm]; rfl, ?_⟩
  exact MetricValue.roll_of_level hlevel nowNs

end Registry

namespace System

/-- A core that accepts calls and accepted them before, with the same predefined metrics and the
levels that its metrics had, but for the metrics of some numbers. -/
def SameLevels (but : List MetricId) (s t : System) : Prop :=
  t.core.initialized = true → s.core.initialized = true ∧
    t.core.predefined = s.core.predefined ∧ s.core.registry.KeepsLevels but t.core.registry

variable {but : List MetricId} {s t : System}

instance : IsPreorder System (SameLevels but) where
  refl _ hready := ⟨hready, rfl, .of_metrics_eq rfl⟩
  trans _ _ _ h₁ h₂ hready := by
    obtain ⟨ht, hpredefined₂, hlevels₂⟩ := h₂ hready
    obtain ⟨hs, hpredefined₁, hlevels₁⟩ := h₁ ht
    exact ⟨hs, hpredefined₂.trans hpredefined₁, hlevels₁.trans hlevels₂⟩

theorem SameLevels.mono {wider : List MetricId} (h : s.SameLevels but t) (hle : but ⊆ wider) :
    s.SameLevels wider t := by
  intro hready
  obtain ⟨hs, hpredefined, hlevels⟩ := h hready
  exact ⟨hs, hpredefined, hlevels.mono hle⟩

/-- What the levels are read off. -/
def gauges (s : System) : Bool × PredefinedMetrics × List Metric :=
  (s.core.initialized, s.core.predefined, s.core.registry.metrics)

theorem SameLevels.of_gauges_eq (h : t.gauges = s.gauges) : s.SameLevels but t := by
  obtain ⟨hinitialized, hpredefined, hmetrics⟩ := by simpa [gauges] using h
  exact fun hready => ⟨hinitialized ▸ hready, hpredefined, .of_metrics_eq hmetrics⟩

theorem SameLevels.of_registry {r : Registry} (h : s.core.registry.KeepsLevels but r)
    (hready : t.core.initialized = s.core.initialized)
    (hpredefined : t.core.predefined = s.core.predefined) (hregistry : t.core.registry = r) :
    s.SameLevels but t :=
  fun ht => ⟨hready ▸ ht, hpredefined, hregistry ▸ h⟩

end System

end DriverTelemetry
