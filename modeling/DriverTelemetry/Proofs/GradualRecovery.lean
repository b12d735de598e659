import DriverTelemetry.Proofs.HealthCalls
import DriverTelemetry.Proofs.Recovery

/-!
# No driver skips a step of its recovery

A status gets worse at once but better only step by step: `HealthStatus.Onward` says so of a single
operation on the health table, and of anything that can happen to a core. So between a moment at
which a driver has failed and a later one at which it is healthy there are moments for each status
in between, in order.
-/

namespace DriverTelemetry

namespace HealthStatus

variable {a b l : HealthStatus}

theorem le_trans {c : HealthStatus} (h₁ : a ≤ b) (h₂ : b ≤ c) : a ≤ c := Nat.le_trans h₁ h₂

theorem le_antisymm (h₁ : a ≤ b) (h₂ : b ≤ a) : a = b := by
  revert h₁ h₂
  cases a <;> cases b <;> decide

theorem le_failed (a : HealthStatus) : a ≤ failed := by
  cases a <;> decide

theorem observe_ne_unknown (cpuPercent crashes : Nat) (alerts : AlertThresholds) :
    observe cpuPercent crashes alerts ≠ unknown := by
  unfold observe
  split
  · decide
  · split
    · decide
    · split <;> decide

/-- What a single operation makes of a status: it is at most one step better, and known. -/
def Onward (a b : HealthStatus) : Prop := a ≠ unknown → a.improved ≤ b ∧ b ≠ unknown

theorem Onward.refl (a : HealthStatus) : Onward a a := by
  unfold Onward
  cases a <;> decide

theorem Onward.failed (a : HealthStatus) : Onward a failed :=
  fun _ => ⟨le_failed _, by decide⟩

theorem Onward.next (a : HealthStatus) (h : l ≠ unknown) : Onward a (a.next l) := by
  revert h
  unfold Onward
  cases a <;> cases l <;> decide

section Moments

variable {ι : Type} {status? : List ι → Option HealthStatus} {xs ys : List ι}

/-- A status that is there at every moment of a run and gets better by at most one step from each
moment to the next. -/
structure Gradual (status? : List ι → Option HealthStatus) (xs : List ι) : Prop where
  there : ∀ ys, ys <+: xs → ∃ a, status? ys = some a
  improved_le : ∀ ys x a b, ys ++ [x] <+: xs → status? ys = some a → status? (ys ++ [x]) = some b →
    a.improved ≤ b

theorem Gradual.of_prefix (h : Gradual status? xs) (hys : ys <+: xs) : Gradual status? ys where
  there zs hzs := h.there zs (hzs.trans hys)
  improved_le zs z a b hzs := h.improved_le zs z a b (hzs.trans hys)

theorem Gradual.drop (h : Gradual status? (xs ++ ys)) :
    Gradual (fun zs => status? (xs ++ zs)) ys where
  there zs hzs := h.there _ ((List.prefix_append_right_inj xs).2 hzs)
  improved_le zs z a b hzs ha hb := by
    rw [← List.append_assoc] at hb
    refine h.improved_le _ z a b ?_ ha hb
    rw [List.append_assoc]
    exact (List.prefix_append_right_inj xs).2 hzs

end Moments

end HealthStatus

namespace HealthTable

open DriverTelemetry.HealthStatus

def status? (t : HealthTable) (id : DriverId) : Option HealthStatus := (t.find? id).map (·.status)

/-- A table in which every record of another has gone on, and every further record has a status. -/
structure Continues (t t' : HealthTable) : Prop where
  goes_on : ∀ id d, t.find? id = some d → ∃ d', t'.find? id = some d' ∧ Onward d.status d'.status
  known : ∀ id d', t.find? id = none → t'.find? id = some d' → d'.status ≠ .unknown

variable {t t' : HealthTable} {id : DriverId}

theorem Continues.of_find?_eq (h : ∀ id, t'.find? id = t.find? id) : t.Continues t' where
  goes_on id d hd := ⟨d, by rw [h, hd], .refl _⟩
  known id d' hnone hd' := by
    rw [h, hnone] at hd'
    cases hd'

theorem Continues.modify {f : DriverHealth → DriverHealth}
    (hf : ∀ d, t.find? id = some d → Onward d.status (f d).status) :
    t.Continues (t.modify id f) where
  goes_on other d hd := by
    rw [find?_modify]
    by_cases heq : other = id
    · subst heq
      exact ⟨f d, by rw [if_pos rfl, hd]; rfl, hf d hd⟩
    · exact ⟨d, by rw [if_neg heq, hd], .refl _⟩
  known other d' hnone hd' := by
    rw [find?_modify, hnone] at hd'
    split at hd' <;> cases hd'

/-- An operation on a registered driver modifies its record, and fails for any other. -/
theorem Continues.of_get {α : Type} (g : DriverHealth → α)
    {f : DriverHealth → DriverHealth → DriverHealth}
    (hf : ∀ d, t.find? id = some d → Onward d.status (f d d).status) :
    t.Continues (t.next (t.get id >>= fun d => pure (g d, t.modify id (f d)))) := by
  cases hd : t.find? id with
  | some d =>
    rw [get_ok hd]
    refine .modify fun e he => ?_
    rw [hd, Option.some.injEq] at he
    exact he ▸ hf d hd
  | none =>
    rw [get_error hd]
    exact .of_find?_eq fun _ => rfl

theorem continues_register (t : HealthTable) (name : String) (handle : HandleRef)
    (readings : DriverReadings) (auto : Bool) (threshold nowNs : Nat) :
    t.Continues (t.next (t.register name handle readings auto threshold nowNs)) := by
  cases h : t.register name handle readings auto threshold nowNs with
  | error e => exact .of_find?_eq fun _ => rfl
  | ok answer =>
    obtain ⟨eval, t'⟩ := answer
    obtain ⟨e, -, -, hstatus, -, -, -, hfind⟩ := register_ok h
    refine ⟨fun id d hd => ⟨d, ?_, .refl _⟩, fun id d' hnone hd' => ?_⟩
    · have hne : id ≠ ⟨t.drivers.length + 1⟩ := by
        rintro rfl
        cases hd.symm.trans t.find?_fresh
      change t'.find? id = some d
      rw [hfind, if_neg hne, hd]
    · change t'.find? id = some d' at hd'
      rw [hfind, hnone] at hd'
      split at hd'
      · cases hd'
        rw [hstatus]
        exact observe_ne_unknown _ _ _
      · cases hd'

theorem continues_setAutoRecovery (t : HealthTable) (id : DriverId) (auto : Bool)
    (threshold : Nat) :
    t.Continues (t.next ((t.setAutoRecovery id auto threshold).map ((), ·))) := by
  cases h : t.setAutoRecovery id auto threshold with
  | error e => exact .of_find?_eq fun _ => rfl
  | ok t' =>
    obtain ⟨-, rfl⟩ := System.setAutoRecovery_ok h
    exact .modify fun _ _ => .refl _

/-- No operation makes a status better by more than one step. -/
theorem continues_perform (t : HealthTable) {c : HealthCall} (h : c ≠ .release) :
    t.Continues (t.perform c) := by
  cases c with
  | register name handle readings auto threshold nowNs => exact t.continues_register _ _ _ _ _ _
  | apply id readings nowNs => exact .of_get _ fun d _ => .next d.status (observe_ne_unknown _ _ _)
  | recordRestart id => exact .of_get _ fun d _ => .refl _
  | markFailed id nowNs attemptedRestart => exact .of_get _ fun d _ => .failed _
  | setAutoRecovery id auto threshold => exact t.continues_setAutoRecovery _ _ _
  | noteLeak id => exact .modify fun _ _ => .refl _
  | setAlerts alerts => exact .of_find?_eq fun _ => rfl
  | release => exact absurd rfl h

/-- A table in which every record has a status. -/
def Known (t : HealthTable) : Prop := ∀ id, t.status? id ≠ some .unknown

theorem status?_release (t : HealthTable) (id : DriverId) : t.release.status? id = none := by
  unfold release status? find?
  split <;> rfl

theorem status?_eq_some {a : HealthStatus} :
    t.status? id = some a ↔ ∃ d, t.find? id = some d ∧ d.status = a :=
  Option.map_eq_some_iff

theorem Known.perform (h : t.Known) (c : HealthCall) : (t.perform c).Known := by
  intro id hunknown
  by_cases hc : c = .release
  · subst hc
    cases (t.status?_release id).symm.trans hunknown
  · obtain ⟨d', hd', hstatus⟩ := status?_eq_some.1 hunknown
    have hcontinues := t.continues_perform hc
    cases hd : t.find? id with
    | none => exact hcontinues.known id d' hd hd' hstatus
    | some d =>
      obtain ⟨e, he, honward⟩ := hcontinues.goes_on id d hd
      rw [hd', Option.some.injEq] at he
      subst he
      exact (honward fun hd => h id (status?_eq_some.2 ⟨d, ‹_›, hd⟩)).2 hstatus

theorem Known.after (h : t.Known) (calls : List HealthCall) : (t.after calls).Known := by
  induction calls generalizing t with
  | nil => exact h
  | cons c rest ih => exact ih (h.perform c)

theorem known_new (alerts : AlertThresholds) : Known { alerts } := by
  intro id
  unfold status? find?
  split
  · simp
  · simp

theorem Known.improved_le (h : t.Known) (c : HealthCall) {a b : HealthStatus}
    (ha : t.status? id = some a) (hb : (t.perform c).status? id = some b) : a.improved ≤ b := by
  by_cases hc : c = .release
  · subst hc
    cases (t.status?_release id).symm.trans hb
  · obtain ⟨d, hd, rfl⟩ := status?_eq_some.1 ha
    obtain ⟨e, he, rfl⟩ := status?_eq_some.1 hb
    obtain ⟨d', hd', honward⟩ := (t.continues_perform hc).goes_on id d hd
    rw [he, Option.some.injEq] at hd'
    subst hd'
    exact (honward fun hunknown => h id (hunknown ▸ ha)).1

end HealthTable

theorem DriverHealth.Settled.onward {alerts : AlertThresholds} {works : Prop} {d d' : DriverHealth}
    {r : DriverReadings} (h : d.Settled alerts works r d') :
    HealthStatus.Onward d.status d'.status := by
  cases h with
  | kept | restarted => exact .next d.status (HealthStatus.observe_ne_unknown _ _ _)
  | givenUp => exact .failed _

namespace System

open DriverTelemetry.HealthStatus

variable {Said : Message → Prop} {s t : System} {id : DriverId} {d : DriverHealth}
  {vs : List Visit}

/-- A core that has been shut down stays so. -/
theorem Dead.course (h : s.Dead) (hcourse : Course Said s vs t) : t.Dead := by
  induction hcourse with
  | nil => exact h
  | turn hturn _ ih => exact ih (h.turn hturn)
  | visit hd =>
    rw [h.find?] at hd
    cases hd

theorem Dead.after (h : s.Dead) (xs : List Happening) : (s.after xs).Dead :=
  h.course (course_after s xs)

/-- What a carried status leads to holds of the whole course. -/
theorem Carries.leads {u : System} {P : HealthStatus → HealthStatus → Prop} (h : s.Carries id u)
    (hd : s.core.health.find? id = some d) (hrest : Course Said u vs t)
    (hnext : ∀ {e}, u.core.health.find? id = some e →
      t.Dead ∨ ∃ d', t.core.health.find? id = some d' ∧ P e.status d'.status) :
    t.Dead ∨ ∃ d', t.core.health.find? id = some d' ∧ P d.status d'.status := by
  obtain hdead | hkeeps := h
  · exact .inl (hdead.course hrest)
  · obtain ⟨e, he, -, hstatus, -⟩ := hkeeps d hd
    rw [← hstatus]
    exact hnext he

/-- A course without a visit to a driver leaves its status as it is. -/
theorem Course.keeps_status (h : Course Said s vs t) (hs : s.Sound)
    (hd : s.core.health.find? id = some d) (hno : vs.filter (·.id = id) = []) :
    t.Dead ∨ ∃ d', t.core.health.find? id = some d' ∧ d.status = d'.status := by
  induction h generalizing d with
  | nil => exact .inr ⟨d, hd, rfl⟩
  | turn hturn hrest ih =>
    obtain ⟨hsound, hcarries⟩ := hs.turn hturn
    exact (hcarries id).leads hd hrest fun he => ih hsound he hno
  | @visit s u vs other e he handle hrest ih =>
    have hfirst : (s.visit other handle).id = other := rfl
    have hne : id ≠ other := by
      rintro rfl
      rw [List.filter_cons_of_pos (by simp [hfirst])] at hno
      cases hno
    rw [List.filter_cons_of_neg (by simp [hfirst, Ne.symm hne])] at hno
    obtain ⟨hsound, hcarries, -⟩ := hs.visit he handle
    exact (hcarries id hne).leads hd hrest fun he' => ih hsound he' hno

/-- A course with at most one visit to a driver makes its status at most one step better. -/
theorem Course.onward (h : Course Said s vs t) (hs : s.Sound) (hd : s.core.health.find? id = some d)
    (hsole : (vs.filter (·.id = id)).length ≤ 1) :
    t.Dead ∨ ∃ d', t.core.health.find? id = some d' ∧ Onward d.status d'.status := by
  induction h generalizing d with
  | nil => exact .inr ⟨d, hd, .refl _⟩
  | turn hturn hrest ih =>
    obtain ⟨hsound, hcarries⟩ := hs.turn hturn
    exact (hcarries id).leads hd hrest fun he => ih hsound he hsole
  | @visit s u vs other e he handle hrest ih =>
    have hfirst : (s.visit other handle).id = other := rfl
    obtain ⟨hsound, hcarries, hvisit⟩ := hs.visit he handle
    by_cases heq : other = id
    · subst heq
      rw [List.filter_cons_of_pos (by simp [hfirst]), List.length_cons] at hsole
      have hno : vs.filter (·.id = other) = [] := List.eq_nil_of_length_eq_zero (by omega)
      rw [he, Option.some.injEq] at hd
      subst hd
      obtain ⟨-, -, hdead⟩ | ⟨-, d', hsettled, hd'⟩ := hvisit
      · exact .inl (hdead.course hrest)
      · obtain hdead | ⟨d'', hd'', hstatus⟩ := hrest.keeps_status hsound hd' hno
        · exact .inl hdead
        · exact .inr ⟨d'', hd'', hstatus ▸ hsettled.onward⟩
    · rw [List.filter_cons_of_neg (by simp [hfirst, heq])] at hsole
      exact (hcarries id (Ne.symm heq)).leads hd hrest fun he' => ih hsound he' hsole

theorem ids_tour (s : System) (l : List (DriverId × HandleRef)) :
    (s.tour l).map (·.id) <+: l.map (·.1) := by
  induction l generalizing s with
  | nil => exact List.nil_prefix
  | cons entry rest ih =>
    obtain ⟨id, handle⟩ := entry
    unfold tour
    split
    · exact List.nil_prefix
    · refine (List.prefix_cons_inj id).2 ?_
      split
      · exact ih _
      · exact List.nil_prefix

/-- No two drivers of a sound core have the same number. -/
theorem Sound.nodup_handles (hs : s.Sound) : (s.core.health.handles.map (·.1)).Nodup := by
  have hids : s.core.health.handles.map (·.1) =
      (List.range s.core.health.drivers.length).map fun i => ⟨i + 1⟩ := by
    refine List.ext_getElem (by simp [HealthTable.handles]) fun i hi _ => ?_
    simp only [HealthTable.handles, List.length_map] at hi
    have hfind : s.core.health.find? ⟨i + 1⟩ = some s.core.health.drivers[i] := by
      simp [HealthTable.find?, hi]
    simpa [HealthTable.handles] using (hs.record _ _ hfind).1
  rw [hids]
  exact List.nodup_range.map fun i j h => by simpa using h

theorem Sound.nodup_fullTour (hs : s.Sound) : (s.fullTour.map (·.id)).Nodup := by
  unfold fullTour
  split
  · exact hs.nodup_handles.sublist (ids_tour _ _).sublist
  · exact List.nodup_nil

/-- A happening evaluates no driver twice. -/
theorem Sound.nodup_visitsOf (hs : s.Sound) (x : Happening) :
    ((s.visitsOf x).map (·.id)).Nodup := by
  cases x with
  | updateDriverHealth id =>
    change ((s.soleVisit id).map (·.id)).Nodup
    unfold soleVisit
    split
    · split <;> simp
    · exact List.nodup_nil
  | checkAllDriverHealth => exact hs.nodup_fullTour
  | backgroundSlice =>
    have hsound := hs.steps (Core.stepwise_slice_performance s).steps
    change ((collectorTour _).map (·.id)).Nodup
    unfold collectorTour
    split
    · split
      · exact List.nodup_nil
      · exact hsound.nodup_fullTour
    · exact List.nodup_nil
  | _ => exact List.nodup_nil

/-- A happening makes the status of a driver at most one step better, unless it shuts the core
down. -/
theorem Sound.perform_onward (hs : s.Sound) (x : Happening)
    (hd : s.core.health.find? id = some d) :
    (s.perform x).Dead ∨
      ∃ d', (s.perform x).core.health.find? id = some d' ∧ Onward d.status d'.status := by
  refine (course_perform s x).onward hs hd ?_
  have hcount := List.nodup_iff_count_le_one.1 (hs.nodup_visitsOf x) id
  rw [List.count_eq_countP, List.countP_map, List.countP_eq_length_filter] at hcount
  exact hcount

/-- All that a small step does to the health table is an operation on it, without readings. -/
theorem Step.health_eq (h : s.Step t) :
    t.core.health = s.core.health ∨
      ∃ c, t.core.health = s.core.health.perform c ∧ c.readings? = none := by
  cases h with
  | leakNoted id => exact .inr ⟨.noteLeak id, rfl, rfl⟩
  | @policySet id auto threshold _ hset =>
    refine .inr ⟨.setAutoRecovery id auto threshold, ?_, rfl⟩
    rw [HealthTable.perform, hset]
    rfl
  | @configured config _ => exact .inr ⟨.setAlerts config.alerts, rfl, rfl⟩
  | retired =>
    unfold retire
    split
    · exact .inr ⟨.release, rfl, rfl⟩
    · exact .inl rfl
  | _ => exact .inl rfl

/-- All that a move does to the health table is an operation on it, with readings that a driver
reports if it takes any. -/
theorem Move.health_eq (h : s.Move t) :
    t.core.health = s.core.health ∨
      ∃ c, t.core.health = s.core.health.perform c ∧
        ∀ r ∈ c.readings?, ∃ handle, s.env.readHandle handle = r := by
  cases h with
  | emitted => exact .inl rfl
  | health c _ hread => exact .inr ⟨c, rfl, hread⟩
  | attempted => exact .inl rfl
  | step hstep =>
    obtain hsame | ⟨c, hperform, hnone⟩ := hstep.health_eq
    · exact .inl hsame
    · exact .inr ⟨c, hperform, by simp [hnone]⟩

/-- A system whose health table is known if that of another is. -/
def KeepsKnown (s t : System) : Prop := s.core.health.Known → t.core.health.Known

instance : IsPreorder System KeepsKnown where
  refl _ h := h
  trans _ _ _ h₁ h₂ h := h₂ (h₁ h)

theorem keepsKnown_move (h : s.Move t) : s.KeepsKnown t := by
  intro hknown
  obtain hsame | ⟨c, hperform, -⟩ := h.health_eq
  · rwa [hsame]
  · rw [hperform]
    exact hknown.perform c

theorem keepsKnown_steps (h : s.Steps t) : s.KeepsKnown t := by
  induction h with
  | refl => exact refl _
  | tail _ hstep ih => exact trans_of KeepsKnown ih (keepsKnown_move (.step hstep))

theorem Reachable.known (h : s.Reachable) : s.core.health.Known := by
  induction h with
  | started hstarted =>
    obtain ⟨s, hprepared, hcompleted⟩ := Core.start_ok hstarted
    obtain ⟨-, tables, r, -, rfl⟩ := Core.prepare_ok hprepared
    exact keepsKnown_steps (Core.complete_ok hcompleted) (HealthTable.known_new _)
  | @next s _ x ih =>
    exact x.within_moves keepsKnown_move (x.outside_of_forall fun _ _ h => h) s ih

theorem Reachable.after (h : s.Reachable) (xs : List Happening) : (s.after xs).Reachable := by
  induction xs generalizing s with
  | nil => exact h
  | cons x rest ih => exact ih (h.next x)

theorem Dead.status? (h : s.Dead) (id : DriverId) : s.core.health.status? id = none := by
  unfold HealthTable.status?
  rw [h.find?]
  rfl

theorem Reachable.improved_le (h : s.Reachable) (x : Happening) {a b : HealthStatus}
    (ha : s.core.health.status? id = some a) (hb : (s.perform x).core.health.status? id = some b) :
    a.improved ≤ b := by
  obtain ⟨d, hd, rfl⟩ := HealthTable.status?_eq_some.1 ha
  obtain hdead | ⟨d', hd', honward⟩ := h.sound.perform_onward x hd
  · cases (hdead.status? id).symm.trans hb
  · rw [HealthTable.status?_eq_some.2 ⟨d', hd', rfl⟩, Option.some.injEq] at hb
    subst hb
    exact (honward fun hunknown => h.known id (hunknown ▸ ha)).1

end System

end DriverTelemetry
