import DriverTelemetry.Proofs.Happenings
import DriverTelemetry.Proofs.Starting

/-!
# The way back from failure

A driver that has been given up and is well again improves from one evaluation to the next: by
`Critical`, `Warning` and `Degraded` to `Healthy`. The first of these steps counts as a failing
evaluation itself, though. If that brings the count to the threshold, the driver has to be restarted
once more, and where that does not work it is given up again: `System.LeavesFailed` says when it is
not. Along a run all that matters to this is that nothing but the evaluations of a driver touches
its status and its count, which `System.Carries` says of small steps and of other visits.
-/

namespace DriverTelemetry

namespace System

/-- Every record stands under its own number and has a threshold that is not zero. So has the
configuration of a core that accepts calls; one that does not has no drivers. -/
structure Sound (s : System) : Prop where
  record : ∀ id d, s.core.health.find? id = some d → d.id = id ∧ 0 < d.recovery.threshold
  configured : s.core.initialized = true → 0 < s.core.config.recoveryThreshold.toNat
  silent : s.core.initialized = false → s.core.health.drivers = []

/-- A driver keeps its name, its status and its count of failing evaluations, unless the core is
shut down. -/
def Carries (id : DriverId) (s t : System) : Prop :=
  t.Dead ∨ ∀ d, s.core.health.find? id = some d → ∃ d', t.core.health.find? id = some d' ∧
    d'.name = d.name ∧ d'.status = d.status ∧ d'.recovery.failures = d.recovery.failures

variable {s t : System} {id : DriverId} {Said : Message → Prop}

section Modify

variable {f : DriverHealth → DriverHealth}

theorem Sound.ready (h : s.Sound) {d : DriverHealth} (hd : s.core.health.find? id = some d) :
    s.core.initialized = true := by
  by_contra hready
  rw [Bool.not_eq_true] at hready
  have hdead : s.Dead := ⟨hready, h.silent hready⟩
  rw [hdead.find?] at hd
  cases hd

theorem Sound.of_modify (h : s.Sound) (hsame : s.SameStanding t)
    (hhealth : t.core.health = s.core.health.modify id f)
    (hf : ∀ d, s.core.health.find? id = some d → (f d).id = id ∧ 0 < (f d).recovery.threshold) :
    t.Sound where
  record := by
    intro other d hd
    rw [hhealth, HealthTable.find?_modify] at hd
    by_cases heq : other = id
    · subst heq
      rw [if_pos rfl] at hd
      obtain ⟨d', hd', rfl⟩ := Option.map_eq_some_iff.1 hd
      exact hf d' hd'
    · rw [if_neg heq] at hd
      exact h.record other d hd
  configured := by
    rw [hsame.initialized_eq, hsame.config_eq]
    exact h.configured
  silent := by
    intro hready
    rw [hsame.initialized_eq] at hready
    rw [hhealth]
    unfold HealthTable.modify
    split
    · exact h.silent hready
    · simp [h.silent hready]

theorem Carries.of_modify (hhealth : t.core.health = s.core.health.modify id f) {other : DriverId}
    (hf : other = id → ∀ d, (f d).name = d.name ∧ (f d).status = d.status ∧
      (f d).recovery.failures = d.recovery.failures) :
    s.Carries other t := by
  refine .inr fun d hd => ?_
  rw [hhealth, HealthTable.find?_modify, hd]
  by_cases heq : other = id
  · exact ⟨f d, by rw [if_pos heq]; rfl, hf heq d⟩
  · exact ⟨d, by rw [if_neg heq], rfl, rfl, rfl⟩

end Modify

theorem Sound.of_health_eq (h : s.Sound) (hhealth : t.core.health = s.core.health)
    (hconfig : t.core.config = s.core.config)
    (hready : t.core.initialized = s.core.initialized) : t.Sound where
  record := by
    rw [hhealth]
    exact h.record
  configured := by
    rw [hready, hconfig]
    exact h.configured
  silent := by
    rw [hready, hhealth]
    exact h.silent

theorem Carries.of_find?_eq
    (h : ∀ d, s.core.health.find? id = some d → t.core.health.find? id = some d) :
    s.Carries id t :=
  .inr fun d hd => ⟨d, h d hd, rfl, rfl, rfl⟩

theorem Dead.sound (h : t.Dead) : t.Sound where
  record := by
    intro id d hd
    rw [h.find?] at hd
    cases hd
  configured := by
    rw [h.1]
    exact fun hready => absurd hready (by decide)
  silent := fun _ => h.2

theorem threshold_pos_of_validate {config : Config} (h : config.validate = .ok ()) :
    0 < config.recoveryThreshold.toNat := by
  unfold Config.validate at h
  split at h
  · cases h
  · rename_i hfaults
    have hthreshold := List.find?_eq_none.1 hfaults
      (config.recoveryThreshold == 0, .zeroInterval "recovery_threshold") (by simp [Config.faults])
    simp only [beq_iff_eq] at hthreshold
    rw [Nat.pos_iff_ne_zero]
    intro hzero
    exact hthreshold (UInt32.toNat_inj.1 hzero)

theorem setAutoRecovery_ok {t t' : HealthTable} {auto : Bool} {threshold : Nat}
    (h : t.setAutoRecovery id auto threshold = .ok t') :
    0 < threshold ∧
      t' = t.modify id fun d => { d with recovery := { d.recovery with auto, threshold } } := by
  unfold HealthTable.setAutoRecovery at h
  by_cases hzero : threshold = 0
  · rw [if_pos hzero] at h
    cases h
  · rw [if_neg hzero] at h
    cases hget : t.get id with
    | error e =>
      rw [hget] at h
      cases h
    | ok d =>
      rw [hget] at h
      cases h
      exact ⟨by omega, rfl⟩

theorem Step.drivers (h : s.Step t) :
    (t.core.health = s.core.health ∧ t.core.config = s.core.config ∧
      t.core.initialized = s.core.initialized) ∨
    (∃ id, t.core.health = s.core.health.noteLeak id ∧ s.SameStanding t) ∨
    (∃ id auto threshold, s.core.health.setAutoRecovery id auto threshold = .ok t.core.health ∧
      s.SameStanding t) ∨
    (∃ config : Config, config.validate = .ok () ∧
      t.core.config.recoveryThreshold = config.recoveryThreshold ∧
      t.core.initialized = s.core.initialized ∧
      t.core.health = s.core.health.setAlerts config.alerts) ∨ t = s.retire := by
  cases h with
  | leakNoted id => exact .inr (.inl ⟨id, rfl, rfl, rfl, rfl⟩)
  | policySet h => exact .inr (.inr (.inl ⟨_, _, _, h, rfl, rfl, rfl⟩))
  | configured h => exact .inr (.inr (.inr (.inl ⟨_, h, rfl, rfl, rfl⟩)))
  | retired => exact .inr (.inr (.inr (.inr rfl)))
  | _ => exact .inl ⟨rfl, rfl, rfl⟩

theorem Sound.registerDriver (hs : s.Sound) (handle : HandleRef) :
    (s.call (Core.registerDriver handle)).2.Sound ∧
      ∀ id, s.Carries id (s.call (Core.registerDriver handle)).2 := by
  obtain hcore | hdead | ⟨hready, hsame, e, hid, hthreshold, hfind⟩ :=
    Core.registerDriver_record s handle
  · exact ⟨hs.of_health_eq (congrArg Core.health hcore) (congrArg Core.config hcore)
        (congrArg Core.initialized hcore),
      fun id => .of_find?_eq fun d hd => by rw [hcore, hd]⟩
  · exact ⟨hdead.sound, fun id => .inl hdead⟩
  · refine ⟨⟨?_, ?_, ?_⟩, fun id => .of_find?_eq fun d hd => ?_⟩
    · intro id d hd
      rw [hfind] at hd
      split at hd
      · rename_i hnew
        cases hd
        rw [hthreshold]
        exact ⟨hid.trans hnew.symm, hs.configured hready⟩
      · exact hs.record id d hd
    · rw [hsame.initialized_eq, hsame.config_eq]
      exact hs.configured
    · rw [hsame.initialized_eq, hready]
      exact fun hfalse => absurd hfalse (by decide)
    · have hne : id ≠ ⟨s.core.health.drivers.length + 1⟩ := by
        rintro rfl
        rw [HealthTable.find?_fresh] at hd
        cases hd
      rw [hfind, if_neg hne, hd]

theorem Sound.dead_retire (hs : s.Sound) : s.retire.Dead := by
  refine System.dead_retire s ?_
  cases hready : s.core.initialized with
  | true => exact .inr rfl
  | false => exact .inl ⟨hready, hs.silent hready⟩

/-- A small step keeps a core sound and carries every driver over. -/
theorem Sound.step (hs : s.Sound) (h : s.Step t) : t.Sound ∧ ∀ id, s.Carries id t := by
  obtain ⟨hhealth, hconfig, hready⟩ | ⟨id, hhealth, hsame⟩ | ⟨id, auto, threshold, hset, hsame⟩ |
    ⟨config, hvalid, hthreshold, hready, hhealth⟩ | rfl := h.drivers
  · exact ⟨hs.of_health_eq hhealth hconfig hready,
      fun id => .of_find?_eq fun d hd => by rw [hhealth, hd]⟩
  · exact ⟨hs.of_modify hsame hhealth fun d hd => hs.record id d hd,
      fun other => .of_modify hhealth fun _ d => ⟨rfl, rfl, rfl⟩⟩
  · obtain ⟨hpos, hhealth⟩ := setAutoRecovery_ok hset
    exact ⟨hs.of_modify hsame hhealth fun d hd => ⟨(hs.record id d hd).1, hpos⟩,
      fun other => .of_modify hhealth fun _ d => ⟨rfl, rfl, rfl⟩⟩
  · refine ⟨⟨?_, ?_, ?_⟩, fun id => .of_find?_eq fun d hd => by rw [hhealth]; exact hd⟩
    · rw [hhealth]
      exact hs.record
    · intro _
      rw [hthreshold]
      exact threshold_pos_of_validate hvalid
    · rw [hready, hhealth]
      exact hs.silent
  · exact ⟨hs.dead_retire.sound, fun id => .inl hs.dead_retire⟩

theorem Sound.steps (hs : s.Sound) (h : s.Steps t) : t.Sound := by
  induction h with
  | refl => exact hs
  | tail _ hstep ih => exact (ih.step hstep).1

/-- A turn keeps a core sound and carries every driver over. -/
theorem Sound.turn (hs : s.Sound) (h : Turn Said s t) : t.Sound ∧ ∀ id, s.Carries id t := by
  cases h with
  | step hstep => exact hs.step hstep
  | said => exact ⟨hs.of_health_eq rfl rfl rfl, fun id => .of_find?_eq fun d hd => hd⟩
  | registered handle => exact hs.registerDriver handle
  | outside env => exact ⟨hs.of_health_eq rfl rfl rfl, fun id => .of_find?_eq fun d hd => hd⟩

theorem Dead.step (h : s.Dead) (hstep : s.Step t) : t.Dead := by
  have hmodify : ∀ (id : DriverId) (f : DriverHealth → DriverHealth),
      (s.core.health.modify id f).drivers = [] := by
    intro id f
    unfold HealthTable.modify
    split
    · exact h.2
    · simp [h.2]
  obtain ⟨hhealth, -, hready⟩ | ⟨id, hhealth, hsame⟩ | ⟨id, auto, threshold, hset, hsame⟩ |
    ⟨config, -, -, hready, hhealth⟩ | rfl := hstep.drivers
  · exact ⟨hready.trans h.1, by rw [hhealth, h.2]⟩
  · exact ⟨hsame.initialized_eq.trans h.1, by rw [hhealth]; exact hmodify id _⟩
  · obtain ⟨-, hhealth⟩ := setAutoRecovery_ok hset
    exact ⟨hsame.initialized_eq.trans h.1, by rw [hhealth]; exact hmodify id _⟩
  · exact ⟨hready.trans h.1, by rw [hhealth]; exact h.2⟩
  · exact dead_retire s (.inl h)

theorem Dead.turn (h : s.Dead) (hturn : Turn Said s t) : t.Dead := by
  cases hturn with
  | step hstep => exact h.step hstep
  | said => exact h
  | registered handle =>
    obtain hcore | hdead | ⟨hready, -⟩ := Core.registerDriver_record s handle
    · unfold Dead
      rw [hcore]
      exact h
    · exact hdead
    · rw [h.1] at hready
      cases hready
  | outside env => exact h

/-- No driver of a core that has been shut down is evaluated. -/
theorem Dead.visits_eq_nil {vs : List Visit} (h : s.Dead) (hcourse : Course Said s vs t) :
    vs = [] := by
  induction hcourse with
  | nil => rfl
  | turn hturn _ ih => exact ih (h.turn hturn)
  | visit hd =>
    rw [h.find?] at hd
    cases hd

end System

theorem HealthStatus.next_healthy (st : HealthStatus) : st.next .healthy = st.improved := by
  cases st <;> rfl

namespace DriverHealth

variable {alerts : AlertThresholds} {works : Prop} {d d' : DriverHealth} {r : DriverReadings}

theorem Settled.id_eq (h : d.Settled alerts works r d') : d'.id = d.id := by
  cases h <;> rfl

theorem Settled.threshold_eq (h : d.Settled alerts works r d') :
    d'.recovery.threshold = d.recovery.threshold := by
  cases h <;> rfl

theorem status_evaluated (hwell : HealthStatus.observe r.cpuPercent r.crashes alerts = .healthy)
    (nowNs : Nat) : (d.evaluated r alerts nowNs).status = d.status.improved := by
  rw [← HealthStatus.next_healthy, ← hwell]
  rfl

theorem failures_evaluated (hwell : HealthStatus.observe r.cpuPercent r.crashes alerts = .healthy)
    (nowNs : Nat) :
    (d.evaluated r alerts nowNs).recovery.failures =
      if d.status.improved.isFailing then d.recovery.failures + 1 else 0 := by
  rw [← status_evaluated hwell nowNs]
  rfl

/-- The evaluation of a driver that is well and has not been given up calls for no recovery. -/
theorem not_callsForRecovery
    (hwell : HealthStatus.observe r.cpuPercent r.crashes alerts = .healthy)
    (hpos : 0 < d.recovery.threshold) (hstatus : d.status ≠ .failed) :
    ¬d.CallsForRecovery alerts r := by
  rintro ⟨nowNs, hdue⟩
  obtain ⟨-, hthreshold⟩ := Bool.and_eq_true_iff.1 hdue
  have hle : d.recovery.threshold ≤ (d.evaluated r alerts nowNs).recovery.failures :=
    of_decide_eq_true hthreshold
  have hfailing : d.status.improved.isFailing = false := by
    cases hst : d.status <;> first | rfl | exact absurd hst hstatus
  rw [failures_evaluated hwell, hfailing] at hle
  exact absurd hle (Nat.not_le.2 hpos)

/-- A driver that is well and has not been given up improves by one step. -/
theorem Settled.improved (h : d.Settled alerts works r d')
    (hwell : HealthStatus.observe r.cpuPercent r.crashes alerts = .healthy)
    (hpos : 0 < d.recovery.threshold) (hstatus : d.status ≠ .failed) :
    d'.status = d.status.improved := by
  have hnot := not_callsForRecovery hwell hpos hstatus
  cases h with
  | kept nowNs _ => exact status_evaluated hwell nowNs
  | restarted nowNs hdue _ => exact absurd ⟨nowNs, hdue⟩ hnot
  | givenUp nowNs _ _ hdue _ => exact absurd ⟨nowNs, hdue⟩ hnot

/-- A driver that is well and has been given up goes on to `Critical` if that does not bring the
count to the threshold or a restart works, and otherwise is given up again. -/
theorem Settled.of_failed (h : d.Settled alerts works r d')
    (hwell : HealthStatus.observe r.cpuPercent r.crashes alerts = .healthy)
    (hstatus : d.status = .failed) :
    (d.recovery.failures + 1 < d.recovery.threshold ∨ works) ∧ d'.status = .critical ∨
      ¬(d.recovery.failures + 1 < d.recovery.threshold ∨ works) ∧ d'.status = .failed := by
  have hcritical : ∀ nowNs, (d.evaluated r alerts nowNs).status = .critical := by
    intro nowNs
    rw [status_evaluated hwell, hstatus]
    rfl
  -- the status reached is what counts as failing, not the readings
  have hdue_iff : ∀ nowNs, ((d.evaluated r alerts nowNs).outcome d.status).recoveryDue = true ↔
      d.recovery.threshold ≤ d.recovery.failures + 1 := by
    intro nowNs
    have hfailures := failures_evaluated (d := d) hwell nowNs
    rw [hstatus] at hfailures
    change ((d.evaluated r alerts nowNs).status != .failed &&
      decide (d.recovery.threshold ≤ (d.evaluated r alerts nowNs).recovery.failures)) = true ↔ _
    rw [hcritical, hfailures]
    simp [HealthStatus.improved, HealthStatus.isFailing]
  cases h with
  | kept nowNs hdue =>
    have hlt : ¬d.recovery.threshold ≤ d.recovery.failures + 1 := by
      rw [← hdue_iff nowNs, hdue]
      decide
    exact .inl ⟨.inl (by omega), hcritical nowNs⟩
  | restarted nowNs _ hw => exact .inl ⟨.inr hw, hcritical nowNs⟩
  | givenUp nowNs _ _ hdue hw =>
    have hle := (hdue_iff nowNs).1 hdue
    refine .inr ⟨?_, rfl⟩
    rintro (hlt | hworks)
    · omega
    · exact hw hworks

end DriverHealth

namespace System

variable {s t : System} {id : DriverId} {d : DriverHealth}

/-- A visit keeps a core sound, carries every other driver over and settles the record of the one
that it is for, unless the core is shut down. -/
theorem Sound.visit (hs : s.Sound) (hd : s.core.health.find? id = some d) (handle : HandleRef) :
    (s.visit id handle).after.Sound ∧
      (∀ other, other ≠ id → s.Carries other (s.visit id handle).after) ∧
      (d.CallsForRecovery s.core.health.alerts (s.visit id handle).readings ∧ s.HookShutsDown ∧
          (s.visit id handle).after.Dead ∨
        s.SameStanding (s.visit id handle).after ∧
        ∃ d', d.Settled s.core.health.alerts (s.RestartWorks d.recovery.auto)
            (s.visit id handle).readings d' ∧
          (s.visit id handle).after.core.health.find? id = some d') := by
  obtain ⟨hid, hpos⟩ := hs.record id d hd
  obtain ⟨hcalls, hshuts, hdead⟩ | ⟨hsame, d', hsettled, hhealth⟩ :=
    Core.evaluateDriver_record (hs.ready hd) hd hid (s.env.readHandle handle)
  · exact ⟨Dead.sound hdead, fun other _ => .inl hdead, .inl ⟨hcalls, hshuts, hdead⟩⟩
  · refine ⟨?_, fun other hne => ?_, .inr ⟨hsame, d', hsettled, ?_⟩⟩
    · refine hs.of_modify hsame hhealth fun _ _ => ?_
      rw [hsettled.id_eq, hsettled.threshold_eq]
      exact ⟨hid, hpos⟩
    · exact .of_modify hhealth fun heq => absurd heq hne
    · change (s.call (Core.evaluateDriver id (s.env.readHandle handle))).2.core.health.find? id = _
      rw [hhealth, HealthTable.find?_modify_of_find? hd]

end System

/-- A visit to a driver that finds the status and the count of a record, with the later visits to
the driver in a course. -/
structure Visit.Next (Said : Message → Prop) (v : Visit) (id : DriverId) (d : DriverHealth)
    (later : List Visit) (t : System) : Prop where
  sound : v.before.Sound
  visit_eq : ∃ handle, v = v.before.visit id handle
  finds : ∃ e, v.before.core.health.find? id = some e ∧ e.status = d.status ∧
    e.recovery.failures = d.recovery.failures
  rest : ∃ vs, System.Course Said v.after vs t ∧ vs.filter (·.id = id) = later

namespace System

variable {Said : Message → Prop} {s t u : System} {id : DriverId} {d : DriverHealth}

/-- The next visit does not depend on what a driver is carried over. -/
theorem Carries.next (h : s.Carries id u) (hd : s.core.health.find? id = some d) {vs : List Visit}
    (hrest : Course Said u vs t) {v : Visit} {later : List Visit}
    (hvs : vs.filter (·.id = id) = v :: later)
    (hnext : ∀ {e}, u.core.health.find? id = some e → v.Next Said id e later t) :
    v.Next Said id d later t := by
  obtain hdead | hkeeps := h
  · rw [hdead.visits_eq_nil hrest] at hvs
    cases hvs
  · obtain ⟨e, he, -, hstatus, hfailures⟩ := hkeeps d hd
    obtain ⟨hsound, hvisit, ⟨e', he', hstatus', hfailures'⟩, hlater⟩ := hnext he
    exact ⟨hsound, hvisit, ⟨e', he', hstatus'.trans hstatus, hfailures'.trans hfailures⟩, hlater⟩

/-- The next visit to a driver finds the status and the count that the driver has now. -/
theorem Course.next_visit {vs : List Visit} (h : Course Said s vs t) (hs : s.Sound)
    (hd : s.core.health.find? id = some d) {v : Visit} {later : List Visit}
    (hvs : vs.filter (·.id = id) = v :: later) : v.Next Said id d later t := by
  -- by induction on the course: what comes before the visit carries the driver over
  induction h generalizing d with
  | nil => cases hvs
  | turn hturn hrest ih =>
    obtain ⟨hsound, hcarries⟩ := hs.turn hturn
    exact (hcarries id).next hd hrest hvs fun he => ih hsound he hvs
  | @visit s u vs other e he handle hrest ih =>
    have hfirst : (s.visit other handle).id = other := rfl
    by_cases heq : other = id
    · subst heq
      rw [List.filter_cons_of_pos (by simp [hfirst])] at hvs
      cases hvs
      exact ⟨hs, ⟨handle, rfl⟩, ⟨d, hd, rfl, rfl⟩, vs, hrest, rfl⟩
    · rw [List.filter_cons_of_neg (by simp [hfirst, heq])] at hvs
      obtain ⟨hsound, hcarries, -⟩ := hs.visit he handle
      exact (hcarries id (Ne.symm heq)).next hd hrest hvs fun he' => ih hsound he' hvs

end System

/-- Whether a visit lets a driver that is well go on from `Failed`: the visit does not bring the
count of failing evaluations to the threshold, or a restart works. -/
def Visit.LetsGo (v : Visit) : Prop :=
  ∃ d, v.recordBefore? = some d ∧
    (d.recovery.failures + 1 < d.recovery.threshold ∨ v.before.RestartWorks d.recovery.auto)

namespace System

variable {Said : Message → Prop} {s t : System} {id : DriverId} {d : DriverHealth}

/-- The first visit to a driver that has been given up and is well takes it to `Critical` or gives
it up again, if there is a further visit. -/
theorem Course.step_of_failed {vs : List Visit} (h : Course Said s vs t) (hs : s.Sound)
    (hd : s.core.health.find? id = some d) (hfailed : d.status = .failed) {v w : Visit}
    {later : List Visit} (hvs : vs.filter (·.id = id) = v :: w :: later)
    (hwell : v.observation = .healthy) :
    ∃ d', v.after.core.health.find? id = some d' ∧
      (v.LetsGo ∧ d'.status = .critical ∨ ¬v.LetsGo ∧ d'.status = .failed) ∧
      v.id = id ∧ v.after.Sound ∧
      ∃ rest, Course Said v.after rest t ∧ rest.filter (·.id = id) = w :: later := by
  obtain ⟨hbefore, ⟨handle, hv⟩, ⟨e, he, hstatus, -⟩, rest, hrest, hnext⟩ := h.next_visit hs hd hvs
  have hid : v.id = id := congrArg Visit.id hv
  have hrecord : v.recordBefore? = some e := by
    unfold Visit.recordBefore?
    rw [hid, he]
  have hvisit := hbefore.visit he handle
  rw [← hv] at hvisit
  obtain ⟨hafter, -, ⟨-, -, hdead⟩ | ⟨-, d', hsettled, hd'⟩⟩ := hvisit
  · rw [hdead.visits_eq_nil hrest] at hnext
    cases hnext
  · refine ⟨d', hd', ?_, hid, hafter, rest, hrest, hnext⟩
    obtain ⟨hgo, hcritical⟩ | ⟨hstay, hagain⟩ :=
      hsettled.of_failed hwell (hstatus.trans hfailed)
    · exact .inl ⟨⟨e, hrecord, hgo⟩, hcritical⟩
    · refine .inr ⟨?_, hagain⟩
      rintro ⟨e', he', hgo⟩
      rw [hrecord, Option.some.injEq] at he'
      exact hstay (he' ▸ hgo)

/-- A visit to a driver that is well and has not been given up takes it one step on. -/
theorem Course.step_of_not_failed {vs : List Visit} (h : Course Said s vs t) (hs : s.Sound)
    (hd : s.core.health.find? id = some d) (hstatus : d.status ≠ .failed) {v : Visit}
    {later : List Visit} (hvs : vs.filter (·.id = id) = v :: later)
    (hwell : v.observation = .healthy) :
    ∃ d', v.after.core.health.find? id = some d' ∧ d'.status = d.status.improved ∧
      v.id = id ∧ v.after.Sound ∧
      ∃ rest, Course Said v.after rest t ∧ rest.filter (·.id = id) = later := by
  obtain ⟨hbefore, ⟨handle, hv⟩, ⟨e, he, hstatus', -⟩, rest, hrest, hnext⟩ := h.next_visit hs hd hvs
  have hid : v.id = id := congrArg Visit.id hv
  have hvisit := hbefore.visit he handle
  rw [← hv] at hvisit
  have hpos := (hbefore.record id e he).2
  have hne : e.status ≠ .failed := fun heq => hstatus (hstatus'.symm.trans heq)
  obtain ⟨hafter, -, ⟨hcalls, -⟩ | ⟨-, d', hsettled, hd'⟩⟩ := hvisit
  · exact absurd hcalls (DriverHealth.not_callsForRecovery hwell hpos hne)
  · refine ⟨d', hd', ?_, hid, hafter, rest, hrest, hnext⟩
    rw [hsettled.improved hwell hpos hne, hstatus']

theorem Sound.course {vs : List Visit} (hs : s.Sound) (h : Course Said s vs t) : t.Sound := by
  induction h with
  | nil => exact hs
  | turn hturn _ ih => exact ih (hs.turn hturn).1
  | visit hd handle _ ih => exact ih (hs.visit hd handle).1

theorem sound_ofTables (env : Environment) (number : Nat) {config : Config}
    (hvalid : config.validate = .ok ()) (tables : Core.Tables) (bytes : Nat) :
    Sound { env, core := Core.ofTables number config tables bytes } where
  record := by
    intro id d hd
    have hnone : (Core.ofTables number config tables bytes).health.find? id = none := by
      simp [Core.ofTables, HealthTable.find?]
    cases hnone.symm.trans hd
  configured := fun _ => threshold_pos_of_validate hvalid
  silent := fun _ => rfl

theorem Reachable.sound (h : s.Reachable) : s.Sound := by
  induction h with
  | started h =>
    obtain ⟨s, hprepared, hcompleted⟩ := Core.start_ok h
    obtain ⟨hvalid, tables, r, -, rfl⟩ := Core.prepare_ok hprepared
    exact (sound_ofTables r.env _ hvalid tables r.bytes).steps (Core.complete_ok hcompleted)
  | next _ x ih => exact ih.course (course_perform _ x)

/-- From now on every driver handle reports that nothing goes on. -/
def lull : Happening := .surroundings fun _ => {}

theorem visits_in_lull (hs : s.Sound) (hd : s.core.health.find? id = some d)
    (hhook : s.core.restartHook = none) (xs : List Happening) :
    ∃ v : Visit, s.visits (lull :: .updateDriverHealth id :: xs) = v :: v.after.visits xs ∧
      v.id = id ∧ v.observation = .healthy ∧ v.recordBefore? = some d ∧
      v.before.core.restartHook = none ∧ v.after.Sound ∧ v.after.core.restartHook = none ∧
      ∃ d', v.after.core.health.find? id = some d' := by
  let quiet := s.perform lull
  have hready : quiet.core.initialized = true := hs.ready hd
  have hd' : quiet.core.health.find? id = some d := hd
  have hsound : quiet.Sound := hs.of_health_eq rfl rfl rfl
  have hafter : quiet.perform (.updateDriverHealth id) = (quiet.visit id d.handle).after :=
    congrArg Prod.snd (call_updateDriverHealth_ok hready hd')
  have hsole : quiet.soleVisit id = [quiet.visit id d.handle] := by
    unfold soleVisit
    rw [hd']
    exact if_pos hready
  refine ⟨quiet.visit id d.handle, ?_, rfl, ?_, hd, hhook, ?_⟩
  · change [] ++ (quiet.soleVisit id ++ (quiet.perform (.updateDriverHealth id)).visits xs) = _
    rw [hsole, hafter]
    rfl
  · have hreadings : (quiet.visit id d.handle).readings = {} := rfl
    unfold Visit.observation
    rw [hreadings]
    simp [HealthStatus.observe]
  · obtain ⟨hsound', -, ⟨-, ⟨hook, hsome, -⟩, -⟩ | ⟨hsame, d', -, hd''⟩⟩ :=
      hsound.visit hd' d.handle
    · have hnone : quiet.core.restartHook = none := hhook
      rw [hnone] at hsome
      cases hsome
    · exact ⟨hsound', hsame.restartHook_eq.trans hhook, d', hd''⟩

def fourInLull (id : DriverId) : List Happening :=
  [lull, .updateDriverHealth id, lull, .updateDriverHealth id, lull, .updateDriverHealth id,
    lull, .updateDriverHealth id]

theorem visits_fourInLull (hs : s.Sound) (hd : s.core.health.find? id = some d)
    (hhook : s.core.restartHook = none) :
    ∃ v₁ v₂ v₃ v₄ : Visit, (s.visits (fourInLull id)).filter (·.id = id) = [v₁, v₂, v₃, v₄] ∧
      (∀ v ∈ [v₁, v₂, v₃, v₄], v.observation = .healthy) ∧ v₁.recordBefore? = some d ∧
      v₁.before.core.restartHook = none := by
  obtain ⟨v₁, hv₁, hid₁, hwell₁, hrecord, hbefore, hs₁, hhook₁, d₁, hd₁⟩ :=
    visits_in_lull hs hd hhook _
  obtain ⟨v₂, hv₂, hid₂, hwell₂, -, -, hs₂, hhook₂, d₂, hd₂⟩ := visits_in_lull hs₁ hd₁ hhook₁ _
  obtain ⟨v₃, hv₃, hid₃, hwell₃, -, -, hs₃, hhook₃, d₃, hd₃⟩ := visits_in_lull hs₂ hd₂ hhook₂ _
  obtain ⟨v₄, hv₄, hid₄, hwell₄, -⟩ := visits_in_lull hs₃ hd₃ hhook₃ []
  refine ⟨v₁, v₂, v₃, v₄, ?_, ?_, hrecord, hbefore⟩
  · unfold fourInLull
    rw [hv₁, hv₂, hv₃, hv₄]
    simp [visits, hid₁, hid₂, hid₃, hid₄]
  · simp [hwell₁, hwell₂, hwell₃, hwell₄]

/-- No collectors, and a single failing evaluation is enough for recovery. -/
def impatient : Config := { collectors := .none, recoveryThreshold := 1 }

def overheated : Environment :=
  { fleet := [{ name := "nvme", readings := { cpuPercent := 99 } }] }

/-- An impatient core starts and has no drivers yet. -/
theorem exists_impatient_start :
    ∃ core env, Core.start 0 impatient overheated = (.ok core, env) ∧ core.initialized = true ∧
      core.config = impatient ∧ core.health = { alerts := impatient.alerts } ∧
      core.restartHook = none := by
  have hroom : (match
      (Core.acquireTables impatient).run.run { env := overheated } with
      | (.ok tables, _) => decide (tables.registry.metrics.length + 8 ≤ tables.registry.capacity)
      | (.error _, _) => false) = true := by decide +kernel
  cases hacquired : (Core.acquireTables impatient).run.run { env := overheated } with
  | mk outcome r =>
    rw [hacquired] at hroom
    cases outcome with
    | error e => cases hroom
    | ok tables =>
      exact @Core.start_without_collectors 0 impatient overheated tables r rfl hacquired rfl
        (of_decide_eq_true hroom)

/-- An impatient core has started and has no drivers yet, among surroundings that are overheated. -/
theorem exists_impatient :
    ∃ core : Core, Reachable { env := overheated, core } ∧ core.initialized = true ∧
      core.config = impatient ∧ core.health = { alerts := impatient.alerts } ∧
      core.restartHook = none := by
  obtain ⟨core, env, hstart, hfresh⟩ := exists_impatient_start
  exact ⟨core, .next (.started hstart) (.surroundings fun _ => overheated), hfresh⟩

/-- A core without a restart hook gives up on its only driver when the driver is registered; after
that the threshold of the driver can be anything but zero. -/
theorem exists_given_up (n : Nat) :
    ∃ s : System, s.Reachable ∧ s.core.restartHook = none ∧
      ∃ d, s.core.health.find? ⟨1⟩ = some d ∧ d.status = .failed ∧
        d.recovery.threshold = n + 1 ∧ d.recovery.failures = 0 := by
  obtain ⟨core, hreachable, hready, hconfig, hhealth, hhook⟩ := exists_impatient
  let s : System := { env := overheated, core }
  refine ⟨(s.perform (.registerDriver ⟨0⟩)).perform (.setAutoRecovery ⟨1⟩ true (n + 1)),
    .next (.next hreachable _) _, ?_⟩
  -- The rest is evaluated; of the core only what matters to drivers has to be known for that.
  obtain ⟨number, config, initialized, enabled, registry, events, health, tracker, counters,
    predefined, collectors, hook⟩ := core
  dsimp only at hready hconfig hhealth hhook
  subst hready hconfig hhealth hhook
  exact ⟨rfl, _, rfl, rfl, rfl, rfl⟩

/-- A driver that has been given up and is well from now on is taken back one step per evaluation,
by `Critical`, `Warning` and `Degraded` to `Healthy`, whatever happens in between: provided that the
first of these evaluations does not bring the count of failing ones to the threshold, or that the
restart that it then calls for works. Without that the first evaluation gives it up again. -/
theorem leaves_failed_step_by_step (h : s.Reachable) (hd : s.core.health.find? id = some d)
    (hfailed : d.status = .failed) (xs : List Happening) {v₁ v₂ v₃ v₄ : Visit} {later : List Visit}
    (hvisits : (s.visits xs).filter (·.id = id) = v₁ :: v₂ :: v₃ :: v₄ :: later)
    (hwell : ∀ v ∈ [v₁, v₂, v₃, v₄], v.observation = .healthy) :
    ([v₁, v₂, v₃, v₄].map Visit.status? =
        [some .critical, some .warning, some .degraded, some .healthy] ↔ v₁.LetsGo) ∧
      (¬v₁.LetsGo → v₁.status? = some .failed) := by
  have hstatus : ∀ {v : Visit} {d' : DriverHealth}, v.id = id →
      v.after.core.health.find? id = some d' → v.status? = some d'.status := by
    intro v d' hid hd'
    unfold Visit.status?
    rw [hid, hd']
    rfl
  obtain ⟨d₁, hd₁, hgoes, hid₁, hs₁, rest₁, hrest₁, hvisits₁⟩ :=
    (course_after s xs).step_of_failed h.sound hd hfailed hvisits (hwell v₁ (by simp))
  have hstatus₁ := hstatus hid₁ hd₁
  -- once the first visit has not given the driver up again, none of the others can
  obtain ⟨hgo, hcritical⟩ | ⟨hstay, hagain⟩ := hgoes
  · refine ⟨⟨fun _ => hgo, fun _ => ?_⟩, fun hstay => absurd hgo hstay⟩
    obtain ⟨d₂, hd₂, himproved₂, hid₂, hs₂, rest₂, hrest₂, hvisits₂⟩ :=
      hrest₁.step_of_not_failed hs₁ hd₁ (by rw [hcritical]; decide) hvisits₁ (hwell v₂ (by simp))
    rw [hcritical] at himproved₂
    obtain ⟨d₃, hd₃, himproved₃, hid₃, hs₃, rest₃, hrest₃, hvisits₃⟩ :=
      hrest₂.step_of_not_failed hs₂ hd₂ (by rw [himproved₂]; decide) hvisits₂ (hwell v₃ (by simp))
    rw [himproved₂] at himproved₃
    obtain ⟨d₄, hd₄, himproved₄, hid₄, -⟩ :=
      hrest₃.step_of_not_failed hs₃ hd₃ (by rw [himproved₃]; decide) hvisits₃ (hwell v₄ (by simp))
    rw [himproved₃] at himproved₄
    simp only [List.map_cons, List.map_nil, hstatus₁, hstatus hid₂ hd₂, hstatus hid₃ hd₃,
      hstatus hid₄ hd₄, hcritical, himproved₂, himproved₃, himproved₄, HealthStatus.improved]
  · rw [hagain] at hstatus₁
    refine ⟨⟨fun hall => ?_, fun hgo => absurd hgo hstay⟩, fun _ => hstatus₁⟩
    rw [List.map_cons, hstatus₁] at hall
    cases hall

theorem leaves_failed_below_threshold :
    ∃ (s : System) (v₁ v₂ v₃ v₄ : Visit),
      s.Reachable ∧ (s.core.health.find? ⟨1⟩).map (·.status) = some .failed ∧
      (s.visits (fourInLull ⟨1⟩)).filter (·.id = ⟨1⟩) = [v₁, v₂, v₃, v₄] ∧
      (∀ v ∈ [v₁, v₂, v₃, v₄], v.observation = .healthy) ∧
      [v₁, v₂, v₃, v₄].map Visit.status? =
        [some .critical, some .warning, some .degraded, some .healthy] := by
  obtain ⟨s, hreachable, hhook, d, hd, hfailed, hthreshold, hfailures⟩ := exists_given_up 2
  obtain ⟨v₁, v₂, v₃, v₄, hvisits, hwell, hrecord, -⟩ := visits_fourInLull hreachable.sound hd hhook
  refine ⟨s, v₁, v₂, v₃, v₄, hreachable, ?_, hvisits, hwell, ?_⟩
  · rw [hd, Option.map_some, hfailed]
  · have hgo : v₁.LetsGo := ⟨d, hrecord, .inl (by omega)⟩
    exact (leaves_failed_step_by_step hreachable hd hfailed _ hvisits hwell).1.2 hgo

/-- Being well is not enough: with the threshold 1 and no restart hook, a driver is given up
again. -/
theorem given_up_again_although_well :
    ¬∀ (s : System) (id : DriverId) (d : DriverHealth) (xs : List Happening)
        (v₁ v₂ v₃ v₄ : Visit) (later : List Visit),
      s.Reachable → s.core.health.find? id = some d → d.status = .failed →
      (s.visits xs).filter (·.id = id) = v₁ :: v₂ :: v₃ :: v₄ :: later →
      (∀ v ∈ [v₁, v₂, v₃, v₄], v.observation = .healthy) →
      [v₁, v₂, v₃, v₄].map Visit.status? =
        [some .critical, some .warning, some .degraded, some .healthy] := by
  intro hclaim
  obtain ⟨s, hreachable, hhook, d, hd, hfailed, hthreshold, hfailures⟩ := exists_given_up 0
  obtain ⟨v₁, v₂, v₃, v₄, hvisits, hwell, hrecord, hbefore⟩ :=
    visits_fourInLull hreachable.sound hd hhook
  have hall := hclaim s _ d _ v₁ v₂ v₃ v₄ [] hreachable hd hfailed hvisits hwell
  have hstay : ¬v₁.LetsGo := by
    rintro ⟨d', hd', hlt | ⟨-, hook, hsome, -⟩⟩
    · rw [hrecord, Option.some.injEq] at hd'
      subst hd'
      omega
    · rw [hbefore] at hsome
      cases hsome
  obtain ⟨d₁, hd₁, ⟨hgo, -⟩ | ⟨-, hagain⟩, hid, -⟩ :=
    (course_after s _).step_of_failed hreachable.sound hd hfailed hvisits (hwell v₁ (by simp))
  · exact hstay hgo
  · have hfirst : v₁.status? = some .failed := by
      unfold Visit.status?
      rw [hid, hd₁, Option.map_some, hagain]
    rw [List.map_cons, hfirst] at hall
    cases hall

end System

end DriverTelemetry
