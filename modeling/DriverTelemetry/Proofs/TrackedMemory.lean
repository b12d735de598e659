import DriverTelemetry.Proofs.LifetimeAccounts
import DriverTelemetry.Proofs.MetricUpdates

/-!
# Tracked memory

A core keeps the bytes of the live allocations twice: the tracker counts them as a word, and the
predefined metric `tracked_memory` is moved by the size of every record as a signed word. The two
agree for as long as the live allocations fit into a signed word, and part at the first call after
which they do not. `Core.Follows` is the state of a core before that call, and
`System.follows_or_departs` is what one happening makes of it.
-/

namespace DriverTelemetry

namespace SignedWord

theorem greatest_lt_largest : greatest < Word.largest := by decide

theorem wrap_of_mem {n : Int} (hl : least ≤ n) (hg : n ≤ greatest) : wrap n = n := by
  unfold least at hl
  unfold greatest at hg
  exact Int.bmod_eq_of_le (by unfold Word.count; omega) (by unfold Word.count; omega)

section Natural

variable {n : Nat} (h : (n : Int) ≤ greatest)

include h

theorem clamp_natCast : clamp n = n :=
  clamp_of_mem (by unfold least; omega) h

theorem wrap_natCast : wrap n = n :=
  wrap_of_mem (by unfold least; omega) h

theorem wrap_neg_natCast : wrap (-n) = -n := by
  unfold greatest at h
  exact wrap_of_mem (by unfold least; omega) (by unfold greatest; omega)

end Natural

end SignedWord

namespace Registry

variable {r : Registry} {id : MetricId} {m : Metric} {level : Int}

/-- A memory metric that takes updates is moved by an amount, within the range of a signed word. -/
theorem adjustLevel_memory (h : r.find? id = some m) (henabled : m.enabled = true)
    (hlevel : m.value = .memory level) (delta : Int) (nowNs : Nat) :
    ∃ answer r' m', r.adjustLevel id delta nowNs = .ok (answer, r') ∧ r'.find? id = some m' ∧
      m'.enabled = true ∧ m'.value = .memory (SignedWord.satAdd level delta) := by
  let value : MetricValue := .memory (SignedWord.satAdd level delta)
  have hvalue : MetricValue.adjustLevel? delta m.value = some value := by
    rw [hlevel]
    rfl
  have hupdate := update_of_find? h henabled nowNs hvalue
  refine ⟨_, _, m.updated value nowNs, congrArg (· >>= _) hupdate, ?_, henabled, rfl⟩
  rw [find?_modify, if_pos rfl, h]
  rfl

end Registry

namespace Core

/-- The metric of tracked memory stands at a level. -/
def TrackedAt (c : Core) (level : Int) : Prop :=
  ∃ m, c.registry.find? c.predefined.trackedMemory = some m ∧ m.value = .memory level

/-- The master switch is on, and the metric of tracked memory is enabled. -/
def TakesTracked (c : Core) : Prop :=
  c.enabled = true ∧
    ∀ m, c.registry.find? c.predefined.trackedMemory = some m → m.enabled = true

/-- The bytes of the live allocations fit into a signed word. -/
def FitsSigned (c : Core) : Prop := (c.tracker.live.bytes : Int) ≤ SignedWord.greatest

/-- A core the metric of tracked memory of which stands at the bytes of the live allocations. No
sample of the platform sets that metric. -/
structure Follows (c : Core) : Prop where
  consistent : c.tracker.Consistent
  apart : c.predefined.trackedMemory ∉ c.predefined.sampled
  counted : c.tracker.liveBytes = c.tracker.live.bytes
  fits : c.FitsSigned
  trackedAt : c.TrackedAt c.tracker.liveBytes

/-- A core the live allocations of which do not fit into a signed word, nor does the metric of
tracked memory stand at the bytes that the tracker has counted. -/
def Departs (c : Core) : Prop := ¬ c.FitsSigned ∧ ¬ c.TrackedAt c.tracker.liveBytes

variable {c : Core} {level level' : Int}

theorem TakesTracked.of_find? {m : Metric} (hon : c.enabled = true)
    (hm : c.registry.find? c.predefined.trackedMemory = some m) (henabled : m.enabled = true) :
    c.TakesTracked := by
  refine ⟨hon, fun m' hm' => ?_⟩
  rw [hm, Option.some.injEq] at hm'
  rw [← hm']
  exact henabled

theorem TrackedAt.unique (h : c.TrackedAt level) (h' : c.TrackedAt level') : level = level' := by
  obtain ⟨m, hm, hlevel⟩ := h
  obtain ⟨m', hm', hlevel'⟩ := h'
  rw [hm, Option.some.injEq] at hm'
  rw [hm', hlevel', MetricValue.memory.injEq] at hlevel
  exact hlevel.symm

/-- No level is above the greatest signed word, so where the tracker has counted more, the metric
stands elsewhere. -/
theorem follows_or_departs (hconsistent : c.tracker.Consistent)
    (hapart : c.predefined.trackedMemory ∉ c.predefined.sampled)
    (hcounted : c.tracker.liveBytes = min c.tracker.live.bytes Word.largest)
    (htracked : c.TrackedAt level) (hle : level ≤ SignedWord.greatest)
    (hlevel : c.FitsSigned → level = c.tracker.liveBytes) : c.Follows ∨ c.Departs := by
  have hbound := SignedWord.greatest_lt_largest
  by_cases hfits : c.FitsSigned
  · have hbytes : (c.tracker.live.bytes : Int) ≤ SignedWord.greatest := hfits
    have hexact : c.tracker.liveBytes = c.tracker.live.bytes := by omega
    exact .inl ⟨hconsistent, hapart, hexact, hfits, hlevel hfits ▸ htracked⟩
  · refine .inr ⟨hfits, fun hat => hfits ?_⟩
    have hlevel' : level = c.tracker.liveBytes := htracked.unique hat
    show (c.tracker.live.bytes : Int) ≤ SignedWord.greatest
    omega

/-- The size of an allocation moves the metric as it moves the counter of the tracker, if the live
allocations fit into a signed word then. -/
theorem Follows.satAdd_wrap (h : c.Follows) {record : AllocationRecord}
    {tracker : AllocationTracker} (htrack : c.tracker.trackAlloc record = .ok tracker) :
    tracker.liveBytes = min tracker.live.bytes Word.largest ∧
      ((tracker.live.bytes : Int) ≤ SignedWord.greatest →
        SignedWord.satAdd c.tracker.liveBytes (SignedWord.wrap record.size) =
          tracker.liveBytes) := by
  have htracked := h.consistent.tracked htrack
  have hlive : tracker.live.bytes = record.size + c.tracker.live.bytes := by
    rw [htracked.live_eq, LiveSet.bytes_cons, LiveSet.size_entered]
  have hcounted : tracker.liveBytes = min tracker.live.bytes Word.largest := by
    rw [htracked.liveBytes_eq, Word.satAdd, h.counted, hlive, Nat.add_comm]
  refine ⟨hcounted, fun hfits => ?_⟩
  -- the new record is one of the live ones, so its size alone fits as well
  have hwrap : SignedWord.wrap record.size = record.size := SignedWord.wrap_natCast (by omega)
  have hsum : (c.tracker.liveBytes : Int) + record.size = tracker.live.bytes := by
    rw [h.counted, hlive]
    omega
  have hbound := SignedWord.greatest_lt_largest
  have hexact : tracker.liveBytes = tracker.live.bytes := by omega
  rw [hwrap, SignedWord.satAdd, hsum, SignedWord.clamp_natCast hfits, hexact]

/-- A free takes from the metric what it takes from the counter of the tracker. -/
theorem Follows.satAdd_wrap_neg (h : c.Follows) {address : Nat} {record : AllocationRecord}
    {tracker : AllocationTracker} (hfree : c.tracker.trackFree address = .ok (record, tracker)) :
    tracker.liveBytes = tracker.live.bytes ∧ (tracker.live.bytes : Int) ≤ SignedWord.greatest ∧
      SignedWord.satAdd c.tracker.liveBytes (SignedWord.wrap (-SignedWord.wrap record.size)) =
        tracker.liveBytes := by
  obtain ⟨hlive, hcount⟩ := AllocationTracker.trackFree_ok hfree
  have hcounted := h.counted
  have hfits : (c.tracker.live.bytes : Int) ≤ SignedWord.greatest := h.fits
  have hexact : tracker.liveBytes = tracker.live.bytes := by omega
  -- the record was live before, so neither its size nor the negative of it leaves the range
  have hsize : (record.size : Int) ≤ SignedWord.greatest := by omega
  have hdifference : (c.tracker.liveBytes : Int) + -record.size = tracker.liveBytes := by omega
  refine ⟨hexact, by omega, ?_⟩
  rw [SignedWord.wrap_natCast hsize, SignedWord.wrap_neg_natCast hsize, SignedWord.satAdd,
    hdifference, SignedWord.clamp_natCast (by omega)]

end Core

namespace Happening

/-- The metrics of which a caller sets or moves the levels in a happening. -/
def levelsGiven : Happening → List MetricId
  | updateGauge id _ | adjustGauge id _ => [id]
  | recordBandwidth b subsystem _ _ => b.bandwidthIds subsystem
  | _ => []

/-- A happening that tracks nothing leaves all levels alone, but for those that its caller gives and
those that a sample of the platform sets. -/
theorem sameLevels {x : Happening} (h : x.tracks = false) (s : System) :
    s.SameLevels (x.levelsGiven ++ s.core.predefined.sampled) (s.perform x) := by
  let R := System.SameLevels (x.levelsGiven ++ s.core.predefined.sampled)
  have hstep : ∀ {t u : System}, System.Steadily [] System.Step t u → R t u :=
    fun hstep => hstep.2.mono (List.nil_subset _)
  have hmove : ∀ {t u : System}, System.Steadily [] System.Move t u → R t u :=
    fun hmove => hmove.2.mono (List.nil_subset _)
  have hleaks : ∀ (t : System) (n : Nat),
      R t { t with core.counters.leaksDetected := t.core.counters.leaksDetected + n } :=
    fun _ _ => .of_gauges_eq rfl
  have hgiven : ∀ {a : Action Unit}, Core.SteadyBut x.levelsGiven a → Core.Within R a :=
    fun ha => .of_chain (fun hstep => hstep.2.mono (List.subset_append_left _ _)) ha
  have hsampled : ∀ {t : System}, s.SteadySteps s.core.predefined.sampled t → R s t :=
    System.related_of_chain (R := R) fun hstep => hstep.2.mono (List.subset_append_right _ _)
  have houtside : x.Outside fun change => ∀ t : System, R t { t with env := change t.env } :=
    x.outside_of_forall fun _ _ => .of_gauges_eq rfl
  cases x with
  | collectPerformanceSample => exact hsampled (Core.steady_collectPerformanceSample s)
  | backgroundSlice =>
    exact within_backgroundSlice hmove hleaks (hsampled (Core.steady_slice_performance s))
  | updateGauge id level => exact hgiven (.attempt (Core.steady_updateGauge id level)) s
  | adjustGauge id delta => exact hgiven (.attempt (Core.steady_adjustGauge id delta)) s
  | recordBandwidth b subsystem bytes durationNs =>
    exact hgiven (.attempt (Core.steady_recordBandwidth b subsystem bytes durationNs)) s
  | trackAlloc | trackFree => cases h
  | _ => exact within_steady_moves hmove (fun _ => hleaks) (fun hx => by cases hx) houtside s

end Happening

namespace System

variable {s t : System} {level : Int}

theorem trackedAt_of_sameLevels {but : List MetricId} (h : s.core.TrackedAt level)
    (hsame : s.SameLevels but t) (hready : t.core.initialized = true)
    (hbut : s.core.predefined.trackedMemory ∉ but) : t.core.TrackedAt level := by
  obtain ⟨m, hm, hlevel⟩ := h
  obtain ⟨-, hpredefined, hkept⟩ := hsame hready
  obtain ⟨m', hm', hvalue⟩ := hkept _ m hbut hm (by rw [hlevel]; rfl)
  exact ⟨m', by rw [hpredefined, hm'], hvalue.trans hlevel⟩

/-- Tracked memory is moved by an amount if it takes updates, and goes on taking them. -/
theorem adjustTrackedMemory_ok (hready : s.core.initialized = true) (h : s.core.TrackedAt level)
    (htakes : s.core.TakesTracked) (delta : Int) :
    ∃ t, ((Core.adjustTrackedMemory delta).run s).2 = t ∧ t.core.initialized = true ∧
      t.core.predefined = s.core.predefined ∧ t.core.tracker = s.core.tracker ∧
      t.core.TakesTracked ∧ t.core.TrackedAt (SignedWord.satAdd level delta) := by
  obtain ⟨m, hm, hlevel⟩ := h
  obtain ⟨answer, r, m', hadjust, hm', henabled, hlevel'⟩ := Registry.adjustLevel_memory hm
    (htakes.2 m hm) hlevel delta (Core.readClock.run s).1
  obtain ⟨overheadNs, platform, hrun⟩ := @call_applyUpdate_ok s s.core.predefined.trackedMemory _
    (fun r now => r.adjustLevel s.core.predefined.trackedMemory delta now) hready htakes.1 _ _
    hadjust
  have hvalid : s.core.predefined.trackedMemory.isValid = true := by
    simpa [MetricId.isValid] using Registry.number_ne_zero_of_find? hm
  have hwhole : ((Core.adjustTrackedMemory delta).run s).2 =
      (s.call (Core.adjustGauge s.core.predefined.trackedMemory delta)).2 := by
    unfold Core.adjustTrackedMemory
    rw [Core.run_get_bind]
    dsimp only
    rw [if_pos hvalid]
    rfl
  have hnoted : (r.noteOverhead s.core.predefined.trackedMemory overheadNs).find?
      s.core.predefined.trackedMemory = some { m' with overheadNs } := by
    rw [Registry.noteOverhead, Registry.find?_modify, if_pos rfl, hm']
    rfl
  rw [hwhole, Core.adjustGauge, call_andThen_ok hrun]
  exact ⟨_, rfl, hready, rfl, rfl, .of_find? htakes.1 hnoted henabled, _, hnoted, hlevel'⟩

/-- What leaves the levels and the bytes alone leaves the metric where the tracker is. -/
theorem follows_of_same {but : List MetricId} (h : s.core.Follows) (hsame : s.SameLevels but t)
    (hbytes : s.SameBytes t) (hconsistent : t.core.tracker.Consistent)
    (hbut : s.core.predefined.trackedMemory ∉ but) (hready : t.core.initialized = true) :
    t.core.Follows := by
  obtain ⟨-, hpredefined, -⟩ := hsame hready
  obtain ⟨-, hlive, hcounted⟩ := hbytes hready
  have hfits : (s.core.tracker.live.bytes : Int) ≤ SignedWord.greatest := h.fits
  have hat := trackedAt_of_sameLevels h.trackedAt hsame hready hbut
  rw [← hcounted] at hat
  rw [← hlive] at hfits
  exact
    { consistent := hconsistent
      apart := by rw [hpredefined]; exact h.apart
      counted := by rw [hcounted, hlive]; exact h.counted
      fits := hfits
      trackedAt := hat }

/-- The metric is moved by what it should if the live allocations fit into a signed word then. -/
theorem follows_or_departs_adjusted (h : s.core.Follows) (hready : s.core.initialized = true)
    (htakes : s.core.TakesTracked) {tracker : AllocationTracker} (hconsistent : tracker.Consistent)
    (hcounted : tracker.liveBytes = min tracker.live.bytes Word.largest) {delta : Int}
    (hdelta : (tracker.live.bytes : Int) ≤ SignedWord.greatest →
      SignedWord.satAdd s.core.tracker.liveBytes delta = tracker.liveBytes)
    (ht : t = ((Core.adjustTrackedMemory delta).run { s with core.tracker := tracker }).2) :
    t.core.Follows ∨ t.core.Departs := by
  obtain ⟨t', hrun, -, hpredefined, htracker, -, hat⟩ :=
    @adjustTrackedMemory_ok { s with core.tracker := tracker } _ hready h.trackedAt htakes delta
  obtain rfl : t = t' := ht.trans hrun
  refine Core.follows_or_departs ?_ ?_ ?_ hat (SignedWord.clamp_le_greatest _) ?_
  · rw [htracker]
    exact hconsistent
  · rw [hpredefined]
    exact h.apart
  · rw [htracker]
    exact hcounted
  · show (t.core.tracker.live.bytes : Int) ≤ SignedWord.greatest → _
    rw [htracker]
    exact hdelta

theorem follows_or_departs_trackAlloc (h : s.core.Follows) (hready : s.core.initialized = true)
    (htakes : s.core.TakesTracked) {address size : Nat} {file : String} {line : Nat}
    {owner : Option DriverId}
    (ht : t = (s.call (Core.trackAlloc address size file line owner)).2) :
    t.core.Follows ∨ t.core.Departs := by
  obtain ⟨u, record, hcore, -, hsize, -, ⟨e, -, hafter⟩ | ⟨tracker, htrack, hafter⟩⟩ :=
    trackAlloc_cases hready address size file line owner
  · rw [ht, hafter, hcore]
    exact .inl h
  · rw [← hcore] at h hready htakes
    obtain ⟨hcounted, hdelta⟩ := h.satAdd_wrap htrack
    have hkept := (h.consistent.alloc record).2.1
    rw [AllocationTracker.perform_alloc_ok htrack] at hkept
    rw [hsize] at hdelta
    exact follows_or_departs_adjusted h hready htakes hkept hcounted hdelta (ht.trans hafter)

theorem follows_or_departs_trackFree (h : s.core.Follows) (hready : s.core.initialized = true)
    (htakes : s.core.TakesTracked) {address : Nat}
    (ht : t = (s.call (Core.trackFree address)).2) (hready' : t.core.initialized = true) :
    t.core.Follows ∨ t.core.Departs := by
  obtain ⟨record, tracker, hfree, hrun⟩ | ⟨-, hafter⟩ := trackFree_cases hready address
  · obtain ⟨hexact, hfits, hdelta⟩ := h.satAdd_wrap_neg hfree
    have hkept := (h.consistent.free address).2.1
    rw [AllocationTracker.perform_free_ok hfree] at hkept
    have hbound := SignedWord.greatest_lt_largest
    have hcounted : tracker.liveBytes = min tracker.live.bytes Word.largest := by omega
    exact follows_or_departs_adjusted h hready htakes hkept hcounted (fun _ => hdelta)
      (ht.trans (congrArg Prod.snd hrun))
  · -- an address that is unknown is counted elsewhere, and the tables are not touched
    let u : System :=
      { s with core.counters.untrackedFrees := s.core.counters.untrackedFrees + 1 }
    have hu : u.core.Follows := ⟨h.consistent, h.apart, h.counted, h.fits, h.trackedAt⟩
    rw [← ht] at hafter
    have hquiet := hafter.quiet
    refine .inl (follows_of_same hu ?_ hquiet.sameAccounts.sameBytes ?_ List.not_mem_nil hready')
    · exact related_of_chain (R := SameLevels []) (fun hstep => hstep.2) hafter
    · exact stable_consistent.steps hquiet.steps h.consistent

/-- After one happening that leaves the metric to the tracker, it follows the tracker as before, or
the live allocations do not fit into a signed word and the metric is not where the tracker is. -/
theorem follows_or_departs (h : s.core.Follows) (htakes : s.core.TakesTracked) {x : Happening}
    (hx : s.core.predefined.trackedMemory ∉ x.levelsGiven)
    (hready' : (s.perform x).core.initialized = true) :
    (s.perform x).core.Follows ∨ (s.perform x).core.Departs := by
  have hready := initialized_of_perform hready'
  cases htracks : x.tracks with
  | false =>
    refine .inl (follows_of_same h (x.sameLevels htracks s) (x.same_bytes htracks s)
      (stable_consistent.perform h.consistent x) ?_ hready')
    rw [List.mem_append, not_or]
    exact ⟨hx, h.apart⟩
  | true =>
    cases x with
    | trackAlloc address size file line owner =>
      exact follows_or_departs_trackAlloc h hready htakes rfl
    | trackFree address => exact follows_or_departs_trackFree h hready htakes rfl hready'
    | _ => cases htracks

end System

section Start

namespace System

/-- A system that differs from another in a metric that has been registered. -/
structure Enters (s : System) (id : MetricId) (kind : MetricKind) (t : System) : Prop where
  fresh : s.core.registry.find? id = none
  entered : ∃ m nowNs, t.core.registry.find? id = some m ∧ m.enabled = true ∧
    m.value = .initial kind nowNs
  others : ∀ other, other ≠ id → t.core.registry.find? other = s.core.registry.find? other
  tracker_eq : t.core.tracker = s.core.tracker

theorem enters_of_registerMetric {s t : System} {name description : String} {kind : MetricKind}
    {subsystem : Subsystem} {id : MetricId}
    (h : s.call (Core.registerMetric name description kind subsystem) = (.ok id, t)) :
    s.Enters id kind t := by
  obtain ⟨_, s', hready, h⟩ := call_andThen_inv h
  have hsame : s'.core = s.core := by
    cases hinitialized : s.core.initialized with
    | false => cases (call_ensureReady_error hinitialized).symm.trans hready
    | true =>
      cases (call_ensureReady_ok hinitialized).symm.trans hready
      rfl
  rw [call_lift_andThen] at h
  obtain ⟨new, u, hregister, h⟩ := call_andThen_inv h
  let nowNs := (Core.readClock.run s').1
  cases hnew : s'.core.registry.register name description kind subsystem nowNs with
  | error e => cases (call_onRegistry_error hnew).symm.trans hregister
  | ok answer =>
    obtain ⟨new', r⟩ := answer
    cases (call_onRegistry_ok hnew).symm.trans hregister
    have hid : new = id := by
      cases h
      rfl
    have hregistry : t.core.registry = r := by
      cases h
      rfl
    have htracker : t.core.tracker = s'.core.tracker := by
      cases h
      rfl
    have hfind := Registry.find?_register hnew
    rw [hid, hsame, ← hregistry] at hfind
    exact
      { fresh := (hfind id).1
        entered := ⟨_, nowNs, (hfind id).2.trans (if_pos rfl), rfl, rfl⟩
        others := fun other hne => (hfind other).2.trans (if_neg hne)
        tracker_eq := hsame ▸ htracker }

theorem Enters.isSome {s t : System} {id other : MetricId} {kind : MetricKind}
    (h : s.Enters id kind t) (hother : other = id ∨ (s.core.registry.find? other).isSome) :
    (t.core.registry.find? other).isSome := by
  by_cases heq : other = id
  · obtain ⟨m, nowNs, hm, -⟩ := h.entered
    rw [heq, hm]
    rfl
  · rw [h.others other heq]
    exact hother.resolve_left heq

theorem Enters.ne {s t : System} {id other : MetricId} {kind : MetricKind}
    (h : s.Enters id kind t) (hother : (s.core.registry.find? other).isSome) : id ≠ other := by
  rintro rfl
  rw [h.fresh] at hother
  cases hother

/-- Tracked memory is registered last of the predefined metrics, as a memory metric, and the error
rate before it, as a rate. -/
theorem registerPredefined_inv {s t : System} (h : s.call Core.registerPredefined = (.ok (), t)) :
    t.core.tracker = s.core.tracker ∧
      t.core.predefined.trackedMemory ∉ t.core.predefined.sampled ∧
      (∃ m, t.core.registry.find? t.core.predefined.trackedMemory = some m ∧ m.enabled = true ∧
        m.value = .memory 0) ∧
      ∃ m, t.core.registry.find? t.core.predefined.errorRate = some m ∧ m.kind = .rate := by
  unfold Core.registerPredefined at h
  obtain ⟨_, s₁, h₁, h⟩ := call_andThen_inv h
  obtain ⟨_, s₂, h₂, h⟩ := call_andThen_inv h
  obtain ⟨memoryUsage, s₃, h₃, h⟩ := call_andThen_inv h
  obtain ⟨cpuUsage, s₄, h₄, h⟩ := call_andThen_inv h
  obtain ⟨_, s₅, h₅, h⟩ := call_andThen_inv h
  obtain ⟨errorRate, s₆, h₆, h⟩ := call_andThen_inv h
  obtain ⟨deviceCount, s₇, h₇, h⟩ := call_andThen_inv h
  obtain ⟨trackedMemory, s₈, h₈, h⟩ := call_andThen_inv h
  cases h
  have e₁ := enters_of_registerMetric h₁
  have e₂ := enters_of_registerMetric h₂
  have e₃ := enters_of_registerMetric h₃
  have e₄ := enters_of_registerMetric h₄
  have e₅ := enters_of_registerMetric h₅
  have e₆ := enters_of_registerMetric h₆
  have e₇ := enters_of_registerMetric h₇
  have e₈ := enters_of_registerMetric h₈
  have htracker : s₈.core.tracker = s.core.tracker := by
    rw [e₈.tracker_eq, e₇.tracker_eq, e₆.tracker_eq, e₅.tracker_eq, e₄.tracker_eq, e₃.tracker_eq,
      e₂.tracker_eq, e₁.tracker_eq]
  -- the new number belongs to no metric that is there already
  have hlater : ∀ {id}, (s₄.core.registry.find? id).isSome → trackedMemory ≠ id := fun hid =>
    e₈.ne (e₇.isSome (.inr (e₆.isSome (.inr (e₅.isSome (.inr hid))))))
  have hmemoryUsage : trackedMemory ≠ memoryUsage :=
    hlater (e₄.isSome (.inr (e₃.isSome (.inl rfl))))
  have hcpuUsage : trackedMemory ≠ cpuUsage := hlater (e₄.isSome (.inl rfl))
  have hdeviceCount : trackedMemory ≠ deviceCount := e₈.ne (e₇.isSome (.inl rfl))
  obtain ⟨m, nowNs, hm, henabled, hvalue⟩ := e₈.entered
  obtain ⟨rate, registeredNs, hrate, -, hinitial⟩ := e₆.entered
  have hkept : s₈.core.registry.find? errorRate = some rate := by
    rw [e₈.others _ (e₈.ne (e₇.isSome (.inr (e₆.isSome (.inl rfl))))).symm,
      e₇.others _ (e₇.ne (e₆.isSome (.inl rfl))).symm, hrate]
  refine ⟨htracker, by simp [PredefinedMetrics.sampled, hmemoryUsage, hcpuUsage, hdeviceCount],
    ⟨m, hm, henabled, hvalue⟩, rate, hkept, ?_⟩
  rw [Metric.kind, hinitial]
  exact MetricValue.kind_initial .rate registeredNs

/-- What is left alone when collectors are started and the start is announced. -/
def books (s : System) : Registry × PredefinedMetrics × AllocationTracker :=
  (s.core.registry, s.core.predefined, s.core.tracker)

end System

namespace Core

theorem sameBooks_emit (severity : Severity) (subsystem : Subsystem) (fill : Payload → Payload) :
    Within (System.Same System.books) (emit severity subsystem fill) := fun _ => rfl

theorem sameBooks_startCollector (collector : Collector) :
    Within (System.Same System.books) (startCollector collector).run := by
  refine .get_andThen fun s => ?_
  split
  · rfl
  · rename_i e hspawn
    refine Within.andThen (.lift ?_) (fun _ => .throw _) s
    unfold platformError
    split
    · exact ((sameBooks_emit _ _ _).bind fun _ => .pure _).bind fun _ => .pure _
    · exact .pure _

theorem sameBooks_log (severity : Severity) (subsystem : Subsystem) (message : String) :
    Within (System.Same System.books) (log severity subsystem message).run := by
  have hready : Within (System.Same System.books) ensureReady.run := by
    refine .get_andThen fun t => ?_
    split <;> rfl
  exact hready.andThen fun _ => .lift (sameBooks_emit _ _ _)

theorem sameBooks_announce : Within (System.Same System.books) announce.run :=
  .andThen (.lift .get) fun _ => (sameBooks_log _ _ _).andThen fun _ => .ok _

/-- A started core has the books of one that has registered its predefined metrics, beside an empty
tracker. -/
theorem books_of_start {number : Nat} {config : Config} {env env' : Environment} {core : Core}
    (h : start number config env = (.ok core, env')) :
    ∃ s t : System, (∃ capacity, s.core.tracker = { capacity }) ∧
      s.call registerPredefined = (.ok (), t) ∧
      (core.registry, core.predefined, core.tracker) =
        (t.core.registry, t.core.predefined, t.core.tracker) := by
  obtain ⟨s, hprepared, hcompleted⟩ := start_ok h
  obtain ⟨-, tables, r, hacquired, rfl⟩ := prepare_ok hprepared
  obtain ⟨-, -, hnew⟩ := answers_isNew config _ tables (congrArg Prod.fst hacquired)
  unfold complete at hcompleted
  split at hcompleted
  · cases hcompleted
  · rename_i u hbootstrap
    obtain ⟨_, t, hregistered, hcollectors⟩ := System.call_andThen_inv hbootstrap
    have hstarted : System.Same System.books t u := by
      have hrun := Within.callForM sameBooks_startCollector (collectorsOf t.core.config) t
      change System.Same System.books t (t.call _).2 at hrun
      rw [System.call_get_andThen] at hcollectors
      rwa [hcollectors] at hrun
    have hannounced : System.Same System.books u { env := env', core } := by
      have hrun := sameBooks_announce u
      change System.Same System.books u (u.call announce).2 at hrun
      rwa [hcompleted] at hrun
    exact ⟨_, t, hnew, hregistered, hannounced.trans hstarted⟩

/-- A started core has an empty tracker, and the metric of tracked memory, enabled and at zero. -/
theorem tracking_of_start {number : Nat} {config : Config} {env env' : Environment} {core : Core}
    (h : start number config env = (.ok core, env')) :
    (∃ capacity, core.tracker = { capacity }) ∧
      core.predefined.trackedMemory ∉ core.predefined.sampled ∧
      ∃ m, core.registry.find? core.predefined.trackedMemory = some m ∧ m.enabled = true ∧
        m.value = .memory 0 := by
  obtain ⟨s, t, hnew, hregistered, hsame⟩ := books_of_start h
  obtain ⟨hregistry, hrest⟩ := Prod.mk.inj hsame
  obtain ⟨hpredefined, htracker⟩ := Prod.mk.inj hrest
  obtain ⟨hkept, hsampled, hmetric, -⟩ := System.registerPredefined_inv hregistered
  rw [hregistry, hpredefined, htracker, hkept]
  exact ⟨hnew, hsampled, hmetric⟩

theorem follows_of_start {number : Nat} {config : Config} {env env' : Environment} {core : Core}
    (h : start number config env = (.ok core, env')) : core.Follows := by
  obtain ⟨⟨capacity, htracker⟩, hapart, m, hm, -, hvalue⟩ := tracking_of_start h
  refine ⟨?_, hapart, ?_, ?_, m, hm, ?_⟩
  · rw [htracker]
    exact AllocationTracker.consistent_new capacity
  · rw [htracker]
    rfl
  · show (core.tracker.live.bytes : Int) ≤ SignedWord.greatest
    rw [htracker]
    exact (by decide : (0 : Int) ≤ SignedWord.greatest)
  · rw [htracker]
    exact hvalue

theorem takesTracked_of_start {number : Nat} {config : Config} {env env' : Environment}
    {core : Core} (h : start number config env = (.ok core, env'))
    (henabled : core.config.enabled = true) : core.TakesTracked := by
  obtain ⟨-, -, m, hm, hlive, -⟩ := tracking_of_start h
  exact .of_find? ((agree_start h).enabled_eq.trans henabled) hm hlive

end Core

end Start

namespace System

variable {s : System} {xs : List Happening}

/-- A lookup of tracked memory answers the bytes that the statistics give for the live
allocations. A core that accepts no calls answers no lookup. -/
def MirrorsTracker (s : System) : Prop :=
  s.core.initialized = true →
    (s.call (Core.lookup s.core.predefined.trackedMemory)).1.map (·.value) =
      .ok (.memory s.core.snapshot.trackedBytes)

/-- Happenings at each of which a core that accepts calls has its master switch on and tracked
memory enabled, and none of which is a call that updates tracked memory. -/
def Undisturbed : System → List Happening → Prop
  | _, [] => True
  | s, x :: rest =>
    (s.core.initialized = true → s.core.TakesTracked ∧
      s.core.predefined.trackedMemory ∉ x.levelsGiven) ∧
    (s.perform x).Undisturbed rest

theorem lookup_trackedMemory_iff (hready : s.core.initialized = true) {level : Int} :
    (s.call (Core.lookup s.core.predefined.trackedMemory)).1.map (·.value) = .ok (.memory level) ↔
      s.core.TrackedAt level := by
  have hrun : s.call (Core.lookup s.core.predefined.trackedMemory) =
      s.call (Core.ensureReady >>= fun _ => _) := rfl
  rw [hrun, call_ready hready, call_readRegistry]
  unfold Core.TrackedAt Registry.get
  cases hm : s.core.registry.find? s.core.predefined.trackedMemory with
  | none => simp [Except.map]
  | some m => simp [Except.map]

theorem mirrorsTracker_iff (hready : s.core.initialized = true) :
    s.MirrorsTracker ↔ s.core.TrackedAt s.core.tracker.liveBytes :=
  ⟨fun h => (lookup_trackedMemory_iff hready).1 (h hready),
    fun h _ => (lookup_trackedMemory_iff hready).2 h⟩

/-- What holds after the first happenings of a run holds at its beginning, and after the first
happenings of what follows the first one. -/
theorem forall_prefix_cons {P : System → Prop} {x : Happening} :
    (∀ ys, ys <+: x :: xs → P (s.after ys)) ↔
      P s ∧ ∀ ys, ys <+: xs → P ((s.perform x).after ys) := by
  constructor
  · intro h
    exact ⟨h [] List.nil_prefix, fun ys hys => h (x :: ys) ((List.prefix_cons_inj x).2 hys)⟩
  · rintro ⟨hfirst, hrest⟩ ys hys
    obtain rfl | ⟨zs, rfl, hzs⟩ := List.prefix_cons_iff.1 hys
    · exact hfirst
    · exact hrest zs hzs

theorem mirrors_iff_fits_of_follows (h : s.core.initialized = true → s.core.Follows) :
    s.MirrorsTracker ↔ (s.core.initialized = true → s.core.FitsSigned) :=
  iff_of_true (fun hready => (mirrorsTracker_iff hready).2 (h hready).trackedAt hready)
    fun hready => (h hready).fits

/-- A run from where the metric follows the tracker: they part where the bytes first do not fit. -/
theorem mirrors_iff_fits (h : s.core.initialized = true → s.core.Follows)
    (hxs : s.Undisturbed xs) :
    (∀ ys, ys <+: xs → (s.after ys).MirrorsTracker) ↔
      ∀ ys, ys <+: xs →
        (s.after ys).core.initialized = true → (s.after ys).core.FitsSigned := by
  induction xs generalizing s with
  | nil =>
    simp only [List.prefix_nil, forall_eq]
    exact mirrors_iff_fits_of_follows h
  | cons x rest ih =>
    obtain ⟨hnow, hrest⟩ := hxs
    have hnext : (s.perform x).core.initialized = true →
        (s.perform x).core.Follows ∨ (s.perform x).core.Departs := by
      intro hready'
      have hready := initialized_of_perform hready'
      obtain ⟨htakes, hgiven⟩ := hnow hready
      exact follows_or_departs (h hready) htakes hgiven hready'
    rw [forall_prefix_cons (P := MirrorsTracker),
      forall_prefix_cons (P := fun s => s.core.initialized = true → s.core.FitsSigned)]
    refine and_congr (mirrors_iff_fits_of_follows h) ?_
    -- a core that follows goes on as before; one that departs does so at the prefix of one
    -- happening, where neither side of the equivalence holds, whatever comes later
    by_cases hfollows : (s.perform x).core.initialized = true → (s.perform x).core.Follows
    · exact ih hfollows hrest
    · obtain ⟨hready', hnot⟩ := Classical.not_imp.1 hfollows
      obtain ⟨hfits, hat⟩ := (hnext hready').resolve_left hnot
      refine iff_of_false (fun hall => hat ?_) fun hall => hfits ?_
      · exact (mirrorsTracker_iff hready').1 (hall [] List.nil_prefix)
      · exact hall [] List.nil_prefix hready'

/-- **Tracked memory mirrors the tracker up to the greatest signed word.** In a run of a started
core in which the master switch is on, the metric of tracked memory is enabled and no caller updates
it, the metric stands at the bytes that the statistics give after every happening if and only if the
live allocations fit into a signed word after every happening. -/
theorem tracked_memory_mirrors_tracker {number : Nat} {config : Config} {env env' : Environment}
    {core : Core} (hstart : Core.start number config env = (.ok core, env'))
    {xs : List Happening} (hxs : Undisturbed { env := env', core } xs) :
    let start : System := { env := env', core }
    (∀ ys, ys <+: xs → (start.after ys).MirrorsTracker) ↔
      ∀ ys, ys <+: xs → (start.after ys).core.initialized = true →
        ((start.after ys).core.tracker.live.bytes : Int) ≤ SignedWord.greatest :=
  mirrors_iff_fits (fun _ => Core.follows_of_start hstart) hxs

/-- What an allocation does that the tracker has room for. -/
theorem trackAlloc_ok (hconsistent : s.core.tracker.Consistent) {level : Int}
    (hat : s.core.TrackedAt level) (hready : s.core.initialized = true)
    (htakes : s.core.TakesTracked) {address : Nat} (haddress : address ≠ 0)
    (hroom : s.core.tracker.live.card < s.core.tracker.capacity) (size : Nat) (file : String)
    (line : Nat) (owner : Option DriverId) :
    ∃ t record, (s.call (Core.trackAlloc address size file line owner)).2 = t ∧
      record.size = size ∧ s.core.tracker.Tracked record t.core.tracker ∧
      t.core.initialized = true ∧ t.core.TakesTracked ∧
      t.core.TrackedAt (SignedWord.satAdd level (SignedWord.wrap size)) := by
  obtain ⟨u, record, hcore, haddr, rfl, -, hcases⟩ :=
    trackAlloc_cases hready address size file line owner
  rw [← hcore] at hconsistent hat hready htakes hroom ⊢
  obtain ⟨tracker, htrack⟩ := (hconsistent.trackAlloc_ok_iff record).2 ⟨haddr ▸ haddress, hroom⟩
  obtain ⟨e, herror, -⟩ | ⟨tracker', hok, hafter⟩ := hcases
  · cases htrack.symm.trans herror
  · cases htrack.symm.trans hok
    obtain ⟨t, hrun, hinitialized, -, htracker, htakes', hat'⟩ :=
      @adjustTrackedMemory_ok { u with core.tracker := tracker } _ hready hat htakes
        (SignedWord.wrap record.size)
    have htracked : u.core.tracker.Tracked record t.core.tracker :=
      htracker.symm ▸ hconsistent.tracked htrack
    exact ⟨t, record, hafter.trans hrun, rfl, htracked, hinitialized, htakes', hat'⟩

def allocation (address size : Nat) : Happening := .trackAlloc address size "probe.c" 7 none

theorem exists_tracking :
    ∃ core env, Core.start 0 impatient overheated = (.ok core, env) ∧ core.initialized = true ∧
      core.TakesTracked ∧ core.TrackedAt 0 ∧ core.tracker = { capacity := 10000 } := by
  obtain ⟨core, env, hstart, hready, hconfig, -, -⟩ := exists_impatient_start
  obtain ⟨⟨capacity, htracker⟩, -, m, hm, -, hzero⟩ := Core.tracking_of_start hstart
  have hslots : core.tracker.capacity = impatient.trackingCapacity.toNat :=
    (Core.agree_start hstart).trackingSlots_eq
  have htakes := Core.takesTracked_of_start hstart (by rw [hconfig]; rfl)
  rw [htracker] at hslots
  obtain rfl : capacity = 10000 := hslots
  exact ⟨core, env, hstart, hready, htakes, ⟨m, hm, hzero⟩, htracker⟩

/-- An allocation as large as the greatest signed word is mirrored. -/
theorem tracked_memory_reaches_greatest :
    ∃ core env, Core.start 0 impatient overheated = (.ok core, env) ∧
      let start : System := { env, core }
      let xs := [allocation 4096 9223372036854775807]
      let s := start.after xs
      start.Undisturbed xs ∧ s.core.initialized = true ∧
      s.core.tracker.live.bytes = 9223372036854775807 ∧
      ∀ ys, ys <+: xs → (start.after ys).MirrorsTracker := by
  obtain ⟨core, env, hstart, hready, htakes, hat, htracker⟩ := exists_tracking
  obtain ⟨t, record, hrun, hsize, htracked, hready', -⟩ :=
    @trackAlloc_ok { env, core } (Core.follows_of_start hstart).consistent 0 hat hready htakes 4096
      (by decide) (by rw [htracker]; decide) 9223372036854775807 "probe.c" 7 none
  have hnone : core.tracker.live.bytes = 0 := by rw [htracker]; rfl
  have hone : t.core.tracker.live.bytes = 9223372036854775807 := by
    rw [htracked.live_eq, LiveSet.bytes_cons, LiveSet.size_entered, hsize, hnone]
  have hafter : System.after { env, core } [allocation 4096 9223372036854775807] = t := hrun
  have hxs : Undisturbed { env, core } [allocation 4096 9223372036854775807] :=
    ⟨fun _ => ⟨htakes, List.not_mem_nil⟩, trivial⟩
  refine ⟨core, env, hstart, hxs, by rw [hafter, hready'], by rw [hafter, hone], ?_⟩
  refine (tracked_memory_mirrors_tracker hstart hxs).2 fun ys hys _ => ?_
  obtain rfl | ⟨zs, rfl, hzs⟩ := List.prefix_cons_iff.1 hys
  · change (core.tracker.live.bytes : Int) ≤ _
    rw [hnone]
    decide
  · rw [List.prefix_nil.1 hzs, hafter, hone]
    decide

/-- Two allocations of 2^62 bytes make one byte more than the greatest signed word. The tracker
counts it, and the metric stops before. -/
theorem tracked_memory_stops_at_greatest :
    ∃ core env, Core.start 0 impatient overheated = (.ok core, env) ∧
      let start : System := { env, core }
      let xs := [allocation 4096 4611686018427387904, allocation 8192 4611686018427387904]
      let s := start.after xs
      start.Undisturbed xs ∧ s.core.initialized = true ∧
      s.core.snapshot.trackedBytes = 9223372036854775808 ∧
      (s.call (Core.lookup s.core.predefined.trackedMemory)).1.map (·.value) =
        .ok (.memory 9223372036854775807) ∧
      ¬ s.MirrorsTracker := by
  obtain ⟨core, env, hstart, hready, htakes, hat, htracker⟩ := exists_tracking
  let start : System := { env, core }
  have hconsistent : start.core.tracker.Consistent := (Core.follows_of_start hstart).consistent
  have hnone : start.core.tracker.live = 0 := by
    change core.tracker.live = 0
    rw [htracker]
    rfl
  have hslots : start.core.tracker.capacity = 10000 := congrArg (·.capacity) htracker
  have hzero : start.core.tracker.liveBytes = 0 := congrArg (·.liveBytes) htracker
  obtain ⟨t, first, hfirst, hsize, htracked, hready', htakes', hat'⟩ :=
    trackAlloc_ok hconsistent hat hready htakes (by decide : 4096 ≠ 0)
      (by rw [hnone, hslots]; decide) 4611686018427387904 "probe.c" 7 none
  obtain rfl : start.perform (allocation 4096 4611686018427387904) = t := hfirst
  obtain ⟨u, second, hsecond, hsize', htracked', hready'', -, hat''⟩ :=
    trackAlloc_ok (stable_consistent.perform hconsistent _) hat' hready' htakes'
      (by decide : 8192 ≠ 0)
      (by rw [htracked.live_eq, htracked.capacity_eq, hnone, hslots]; simp)
      4611686018427387904 "probe.c" 7 none
  have hafter : start.after [allocation 4096 4611686018427387904,
      allocation 8192 4611686018427387904] = u := hsecond
  have hcounted : u.core.tracker.liveBytes = 9223372036854775808 := by
    rw [htracked'.liveBytes_eq, htracked.liveBytes_eq, hsize, hsize', hzero]
    rfl
  have hlevel := (lookup_trackedMemory_iff hready'').2 hat''
  have hstops : SignedWord.satAdd
      (SignedWord.satAdd 0 (SignedWord.wrap (4611686018427387904 : Nat)))
      (SignedWord.wrap (4611686018427387904 : Nat)) = 9223372036854775807 := by decide
  rw [hstops] at hlevel
  refine ⟨core, env, hstart, ⟨fun _ => ⟨htakes, List.not_mem_nil⟩,
    fun _ => ⟨htakes', List.not_mem_nil⟩, trivial⟩, ?_⟩
  rw [hafter]
  refine ⟨hready'', hcounted, hlevel, fun hmirrors => ?_⟩
  have hboth := hlevel.symm.trans (hmirrors hready'')
  rw [show u.core.snapshot.trackedBytes = 9223372036854775808 from hcounted] at hboth
  simp at hboth

end System

end DriverTelemetry
