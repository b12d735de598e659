import DriverTelemetry.Proofs.MetricUpdates

/-!
# The order of producers

Counts, samples and durations only accumulate. What a metric is after a number of them,
`Metric.reading`, takes each in by `Reading.absorb`, and two of them may change places: sums stop at
the same word in either order, extremes do not depend on it, and neither does the place of a sample
among the buckets. So a registry reads the same whatever the order in which the calls of several
producers reach it, and whenever they do.
-/

namespace DriverTelemetry

/-- A change that adds to what a metric has accumulated, rather than setting or moving a level. -/
def Change.accumulates : Change → Bool
  | .added _ | .sampled _ | .timed _ => true
  | .set _ | .adjusted _ => false

theorem Word.satAdd_right_comm (a b c : Nat) :
    satAdd (satAdd a b) c = satAdd (satAdd a c) b := by
  rw [satAdd_satAdd, satAdd_satAdd, Nat.add_comm]

theorem RateWindow.add_right_comm (w : RateWindow) (m n : Nat) :
    (w.add m).add n = (w.add n).add m := by
  simp only [add, Word.satAdd_right_comm w.total m n]

theorem TimerStats.record_right_comm (t : TimerStats) (m n : Nat) :
    (t.record m).record n = (t.record n).record m := by
  simp only [record, Word.satAdd_right_comm t.totalNs m n, Nat.min_right_comm t.minNs m n,
    Nat.max_right_comm t.maxNs m n]

/-- Counting in two places of a list of counts may be done in either order. -/
theorem List.modify_add_one_comm (l : List Nat) (i j : Nat) :
    (l.modify i (· + 1)).modify j (· + 1) = (l.modify j (· + 1)).modify i (· + 1) := by
  refine List.ext_getElem? fun k => ?_
  simp only [List.getElem?_modify]
  cases l[k]? with
  | none => rfl
  | some n =>
    by_cases hi : i = k
    · by_cases hj : j = k
      · simp [hi, hj]
      · simp [hi, hj]
    · simp [hi]

theorem Histogram.record_right_comm (h : Histogram) (m n : Nat) :
    (h.record m).record n = (h.record n).record m := by
  simp only [record, Word.satAdd_right_comm h.sum m n, Nat.min_right_comm h.min m n,
    Nat.max_right_comm h.max m n, List.modify_add_one_comm]

namespace MetricValue

/-- The value after a change; a change that does not fit leaves it. -/
def absorb (v : MetricValue) (c : Change) : MetricValue := v.apply? c |>.getD v

theorem kind_absorb (v : MetricValue) (c : Change) : (v.absorb c).kind = v.kind := by
  unfold absorb
  cases hvalue : v.apply? c with
  | none => rfl
  | some w => exact kind_of_apply? hvalue

theorem absorb_of_misfit {v : MetricValue} {c : Change} (h : c.fits v.kind = false) :
    v.absorb c = v := by
  unfold absorb
  cases hvalue : v.apply? c with
  | none => rfl
  | some w =>
    rw [(fits_iff c v).2 ⟨w, hvalue⟩] at h
    cases h

/-- Of the accumulating changes only one sort fits a value, and two of that sort may change
places. -/
theorem absorb_right_comm_of_fits {v : MetricValue} {c d : Change} (hc : c.accumulates = true)
    (hd : d.accumulates = true) (hcv : c.fits v.kind = true) (hdv : d.fits v.kind = true) :
    (v.absorb c).absorb d = (v.absorb d).absorb c := by
  cases v with
  | counter total =>
    cases c <;> cases hcv
    cases d <;> cases hdv
    simp only [absorb, MetricValue.apply?, addCount?, Option.getD_some,
      Word.satAdd_right_comm total]
  | rate w =>
    cases c <;> cases hcv
    cases d <;> cases hdv
    simp only [absorb, MetricValue.apply?, addCount?, Option.getD_some, w.add_right_comm]
  | timer t =>
    cases c <;> cases hcv
    cases d <;> cases hdv
    simp only [absorb, MetricValue.apply?, recordDuration?, Option.getD_some, t.record_right_comm]
  | histogram h =>
    cases c <;> cases hcv
    cases d <;> cases hdv
    simp only [absorb, MetricValue.apply?, recordSample?, Option.getD_some, h.record_right_comm]
  | gauge level | memory level | bandwidth level =>
    cases c with
    | set level | adjusted delta => cases hc
    | added amount | sampled sample | timed durationNs => cases hcv

theorem absorb_right_comm (v : MetricValue) {c d : Change} (hc : c.accumulates = true)
    (hd : d.accumulates = true) : (v.absorb c).absorb d = (v.absorb d).absorb c := by
  -- a change that does not fit is lost, before the other one as after it, since the kind stays
  cases hcv : c.fits v.kind with
  | false =>
    have hlate : c.fits (v.absorb d).kind = false := by rwa [kind_absorb]
    rw [absorb_of_misfit hcv, absorb_of_misfit hlate]
  | true =>
    cases hdv : d.fits v.kind with
    | false =>
      have hlate : d.fits (v.absorb c).kind = false := by rwa [kind_absorb]
      rw [absorb_of_misfit hdv, absorb_of_misfit hlate]
    | true => exact absorb_right_comm_of_fits hc hd hcv hdv

end MetricValue

/-- What is read off a metric by its switch, its value and its count of updates. -/
structure Reading where
  enabled : Bool
  value : MetricValue
  updateCount : Nat

namespace Reading

def absorb (x : Reading) (c : Change) : Reading :=
  if x.enabled && c.fits x.value.kind then
    { x with value := x.value.absorb c, updateCount := x.updateCount + 1 }
  else x

theorem absorb_right_comm (x : Reading) {c d : Change} (hc : c.accumulates = true)
    (hd : d.accumulates = true) : (x.absorb c).absorb d = (x.absorb d).absorb c := by
  unfold absorb
  by_cases hfirst : (x.enabled && c.fits x.value.kind) = true
  · by_cases hsecond : (x.enabled && d.fits x.value.kind) = true
    · simp only [hfirst, hsecond, if_true, MetricValue.kind_absorb,
        x.value.absorb_right_comm hc hd]
    · simp only [hfirst, hsecond, if_true, if_false, MetricValue.kind_absorb, Bool.false_eq_true]
  · by_cases hsecond : (x.enabled && d.fits x.value.kind) = true
    · simp only [hfirst, hsecond, if_true, if_false, MetricValue.kind_absorb, Bool.false_eq_true]
    · simp only [hfirst, hsecond, if_false, Bool.false_eq_true]

theorem foldl_absorb_perm (x : Reading) {l l' : List Change} (h : l.Perm l')
    (hl : ∀ c ∈ l, c.accumulates = true) : l.foldl absorb x = l'.foldl absorb x :=
  h.foldl_eq' (fun c hc d hd z => z.absorb_right_comm (hl c hc) (hl d hd)) x

/-- Changes that fit an enabled metric are all counted. -/
theorem updateCount_foldl_absorb (x : Reading) (l : List Change) (henabled : x.enabled = true)
    (hl : ∀ c ∈ l, c.fits x.value.kind = true) :
    (l.foldl absorb x).updateCount = x.updateCount + l.length := by
  induction l generalizing x with
  | nil => rfl
  | cons c rest ih =>
    have hfits : (x.enabled && c.fits x.value.kind) = true := by
      rw [henabled, hl c List.mem_cons_self]
      rfl
    have habsorb : x.absorb c =
        { x with value := x.value.absorb c, updateCount := x.updateCount + 1 } := if_pos hfits
    rw [List.foldl_cons, habsorb, ih]
    · simp only [List.length_cons]
      omega
    · exact henabled
    · intro d hd
      rw [MetricValue.kind_absorb]
      exact hl d (List.mem_cons_of_mem c hd)

end Reading

def Metric.reading (m : Metric) : Reading :=
  { enabled := m.enabled, value := m.value, updateCount := m.updateCount }

namespace RegistryCall

/-- The metric that a call updates and the change that it makes. -/
def update? : RegistryCall → Option (MetricId × Change)
  | update id change _ => some (id, change)
  | _ => none

/-- The calls of producers, and those that leave every reading alone: producers that note what an
update took, and whoever takes verdicts or replaces the policy behind them. -/
def Produces : RegistryCall → Prop
  | update _ change _ => change.accumulates = true
  | takePending | setPolicy _ | noteOverhead _ _ => True
  | register .. | setEnabled .. | rollRates _ => False

end RegistryCall

/-- The changes of one metric among those of several. -/
def changesOf (id : MetricId) (updates : List (MetricId × Change)) : List Change :=
  (updates.filter fun u => decide (u.1 = id)).map (·.2)

namespace Registry

def reading? (r : Registry) (id : MetricId) : Option Reading := (r.find? id).map Metric.reading

variable {r : Registry} {id : MetricId}

theorem reading?_of_metrics_eq {r' : Registry} (h : r'.metrics = r.metrics) (id : MetricId) :
    r'.reading? id = r.reading? id := by
  unfold reading?
  rw [find?_of_metrics_eq h]

theorem refusal?_eq_none_iff {m : Metric} (h : r.find? id = some m) (c : Change) :
    r.refusal? id c = none ↔ (m.enabled && c.fits m.kind) = true := by
  unfold refusal?
  rw [if_neg (number_ne_zero_of_find? h), h]
  cases henabled : m.enabled with
  | false => simp [henabled]
  | true =>
    cases hfits : c.fits m.kind with
    | false => simp [henabled, hfits]
    | true => simp [henabled, hfits]

/-- A registry takes a change in just as the reading of its metric does. -/
theorem reading?_update (r : Registry) (id other : MetricId) (c : Change) (nowNs : Nat) :
    (r.perform (.update other c nowNs)).2.reading? id =
      if id = other then (r.reading? id).map (·.absorb c) else r.reading? id := by
  have hrefusal := r.change_of_refusal? other c nowNs
  cases hok : r.change other c nowNs with
  | ok after =>
    obtain ⟨m, value, hm, henabled, hvalue, hmetrics⟩ := change_ok hok
    simp only [perform, hok, reading?]
    rw [find?_of_metrics_eq hmetrics, find?_modify]
    by_cases heq : id = other
    · subst heq
      have hfits : c.fits m.value.kind = true := (MetricValue.fits_iff c m.value).2 ⟨value, hvalue⟩
      simp only [if_true, hm, Option.map_some, Metric.reading, Reading.absorb, henabled, hfits,
        Bool.and_self, MetricValue.absorb, hvalue, Option.getD_some, Metric.updated]
    · rw [if_neg heq, if_neg heq]
  | error e =>
    simp only [perform, hok]
    by_cases heq : id = other
    · subst heq
      rw [if_pos rfl]
      cases hm : r.find? id with
      | none => simp only [reading?, hm, Option.map_none]
      | some m =>
        have hrefused : ¬ (m.enabled && c.fits m.kind) = true := by
          intro hfits
          rw [(refusal?_eq_none_iff hm c).2 hfits] at hrefusal
          obtain ⟨after, hafter⟩ := hrefusal
          rw [hok] at hafter
          cases hafter
        have hsame : m.reading.absorb c = m.reading := if_neg hrefused
        simp only [reading?, hm, Option.map_some, hsame]
    · rw [if_neg heq]

theorem reading?_perform {c : RegistryCall} (h : c.Produces) (id : MetricId) :
    (r.perform c).2.reading? id =
      (r.reading? id).map ((changesOf id c.update?.toList).foldl Reading.absorb) := by
  cases c with
  | update other change nowNs =>
    rw [reading?_update]
    by_cases heq : id = other
    · simp [heq, RegistryCall.update?, changesOf]
    · simp [heq, Ne.symm heq, RegistryCall.update?, changesOf]
  | takePending | setPolicy policy =>
    simp only [RegistryCall.update?, Option.toList_none, changesOf, List.filter_nil, List.map_nil,
      List.foldl_nil, Option.map_id']
    exact reading?_of_metrics_eq rfl id
  | noteOverhead other overheadNs =>
    simp only [RegistryCall.update?, Option.toList_none, changesOf, List.filter_nil, List.map_nil,
      List.foldl_nil, Option.map_id', perform, noteOverhead, reading?, find?_modify]
    by_cases heq : id = other
    · rw [if_pos heq, Option.map_map]
      rfl
    · rw [if_neg heq]
  | register name description kind subsystem nowNs | setEnabled other enabled | rollRates nowNs =>
    exact False.elim h

theorem changesOf_append (id : MetricId) (l more : List (MetricId × Change)) :
    changesOf id (l ++ more) = changesOf id l ++ changesOf id more := by
  simp [changesOf]

/-- What a metric reads after calls of producers is what its own changes make of it. -/
theorem reading?_run (r : Registry) {calls : List RegistryCall} (h : ∀ c ∈ calls, c.Produces)
    (id : MetricId) :
    (r.run calls).2.reading? id =
      (r.reading? id).map ((changesOf id (calls.filterMap (·.update?))).foldl Reading.absorb) := by
  induction calls generalizing r with
  | nil => simp [run, changesOf]
  | cons c rest ih =>
    have hrest := ih (r.perform c).2 fun d hd => h d (List.mem_cons_of_mem c hd)
    have hupdates : (c :: rest).filterMap (·.update?) =
        c.update?.toList ++ rest.filterMap (·.update?) := by
      cases hc : c.update? <;> simp [hc]
    rw [reading?_perform (h c List.mem_cons_self)] at hrest
    rw [hupdates, changesOf_append]
    simpa only [run, Option.map_map, Function.comp_def, List.foldl_append] using hrest

/-- Two registries with metrics under the same numbers that read the same. -/
def SameReadings (r r' : Registry) : Prop := ∀ id, r.reading? id = r'.reading? id

/-- A registry in which each metric of another has been updated once for each of its changes. -/
def CountsAll (r : Registry) (updates : List (MetricId × Change)) (r' : Registry) : Prop :=
  ∀ id x, r.reading? id = some x → ∃ y, r'.reading? id = some y ∧
    y.updateCount = x.updateCount + (changesOf id updates).length

theorem sameReadings_run_of_perm (r : Registry) {calls calls' : List RegistryCall}
    (h : ∀ c ∈ calls, c.Produces) (h' : ∀ c ∈ calls', c.Produces)
    (hperm : (calls.filterMap (·.update?)).Perm (calls'.filterMap (·.update?))) :
    (r.run calls).2.SameReadings (r.run calls').2 := by
  intro id
  have haccumulates : ∀ c ∈ changesOf id (calls.filterMap (·.update?)),
      c.accumulates = true := by
    intro c hc
    obtain ⟨u, hu, rfl⟩ := List.mem_map.1 hc
    obtain ⟨call, hcall, hupdate⟩ := List.mem_filterMap.1 (List.mem_filter.1 hu).1
    cases call with
    | update other change nowNs =>
      cases hupdate
      exact h _ hcall
    | _ => cases hupdate
  have hchanges : (changesOf id (calls.filterMap (·.update?))).Perm
      (changesOf id (calls'.filterMap (·.update?))) := (hperm.filter _).map _
  rw [reading?_run r h, reading?_run r h']
  cases r.reading? id with
  | none => rfl
  | some x => exact congrArg some (x.foldl_absorb_perm hchanges haccumulates)

theorem countsAll_run (r : Registry) {calls : List RegistryCall} (h : ∀ c ∈ calls, c.Produces)
    (haccepted : ∀ u ∈ calls.filterMap (·.update?), r.refusal? u.1 u.2 = none) :
    r.CountsAll (calls.filterMap (·.update?)) (r.run calls).2 := by
  intro id x hx
  obtain ⟨m, hm, rfl⟩ := Option.map_eq_some_iff.1 hx
  refine ⟨_, by rw [reading?_run r h, hx]; rfl, ?_⟩
  have hfits : ∀ c ∈ changesOf id (calls.filterMap (·.update?)),
      (m.enabled && c.fits m.kind) = true := by
    intro c hc
    obtain ⟨u, hu, rfl⟩ := List.mem_map.1 hc
    obtain ⟨hmem, hid⟩ := List.mem_filter.1 hu
    have hnone := haccepted u hmem
    rw [of_decide_eq_true hid] at hnone
    exact (refusal?_eq_none_iff hm u.2).1 hnone
  cases hchanges : changesOf id (calls.filterMap (·.update?)) with
  | nil => rfl
  | cons c rest =>
    rw [hchanges] at hfits
    have henabled := (Bool.and_eq_true_iff.1 (hfits c List.mem_cons_self)).1
    exact m.reading.updateCount_foldl_absorb _ henabled fun d hd =>
      (Bool.and_eq_true_iff.1 (hfits d hd)).2

end Registry

namespace System

/-- The system after updates that are asked of a core one after the other. -/
def updates (s : System) (l : List (MetricId × Change)) : System :=
  l.foldl (fun s u => (s.call (Core.update u.1 u.2)).2) s

/-- A system to whose registry another one comes by calls of producers that make the changes of a
list, all of them if its core accepts calls and is switched on, else none. -/
structure Takes (s : System) (l : List (MetricId × Change)) (t : System) : Prop where
  initialized_eq : t.core.initialized = s.core.initialized
  enabled_eq : t.core.enabled = s.core.enabled
  registry : ∃ calls, (∀ c ∈ calls, RegistryCall.Produces c) ∧
    calls.filterMap (·.update?) = (if s.core.initialized && s.core.enabled then l else []) ∧
    t.core.registry = (s.core.registry.run calls).2

variable {s t u : System} {id : MetricId} {c : Change} {l more : List (MetricId × Change)}

theorem Takes.append (h : s.Takes l t) (h' : t.Takes more u) : s.Takes (l ++ more) u := by
  obtain ⟨calls, hproduces, hupdates, hregistry⟩ := h.registry
  obtain ⟨calls', hproduces', hupdates', hregistry'⟩ := h'.registry
  refine ⟨h'.initialized_eq.trans h.initialized_eq, h'.enabled_eq.trans h.enabled_eq,
    calls ++ calls', ?_, ?_, ?_⟩
  · intro call hcall
    exact (List.mem_append.1 hcall).elim (hproduces call) (hproduces' call)
  · rw [List.filterMap_append, hupdates, hupdates', h.initialized_eq, h.enabled_eq]
    split
    · rfl
    · rfl
  · rw [Registry.run_append, hregistry', hregistry]

theorem of_disposition_eq_applied (h : s.disposition id c = .applied) :
    (s.core.initialized && s.core.enabled) = true ∧ s.core.registry.refusal? id c = none := by
  unfold disposition at h
  cases hready : s.core.initialized with
  | false => simp [hready] at h
  | true =>
    cases hon : s.core.enabled with
    | false => simp [hready, hon] at h
    | true =>
      cases hrefusal : s.core.registry.refusal? id c with
      | some e => simp [hready, hon, hrefusal] at h
      | none => exact ⟨rfl, rfl⟩

/-- An update through the registry takes its change in there, and notes what that took. -/
theorem takes_applyUpdate {α : Type} {f : Registry → Nat → Except TelemetryError (α × Registry)}
    (hf : ∀ r nowNs, (f r nowNs).map (·.2) = r.change id c nowNs) (hc : c.accumulates = true)
    (s : System) : s.Takes [(id, c)] (s.call (Core.applyUpdate id f)).2 := by
  cases hready : s.core.initialized with
  | false =>
    rw [call_applyUpdate_unready hready]
    exact ⟨rfl, rfl, [], by simp, by simp [hready], rfl⟩
  | true =>
    cases hon : s.core.enabled with
    | false =>
      rw [call_applyUpdate_off hready hon]
      exact ⟨rfl, rfl, [], by simp, by simp [hon], rfl⟩
    | true =>
      have hchange := hf s.core.registry (Core.readClock.run s).1
      cases hanswer : f s.core.registry (Core.readClock.run s).1 with
      | error e =>
        rw [call_applyUpdate_error hready hon hanswer]
        rw [hanswer] at hchange
        refine ⟨rfl, rfl, [.update id c (Core.readClock.run s).1],
          by simpa [RegistryCall.Produces] using hc,
          by simp [hready, hon, RegistryCall.update?], ?_⟩
        simp only [Registry.run, Registry.perform, ← hchange, Except.map]
        rfl
      | ok answer =>
        obtain ⟨overheadNs, platform, hrun⟩ := @call_applyUpdate_ok s id _ f hready hon _ _ hanswer
        rw [hrun]
        rw [hanswer] at hchange
        refine ⟨rfl, rfl, [.update id c (Core.readClock.run s).1, .noteOverhead id overheadNs],
          by simpa [RegistryCall.Produces] using hc,
          by simp [hready, hon, RegistryCall.update?], ?_⟩
        simp only [Registry.run, Registry.perform, ← hchange, Except.map]

theorem takes_update (s : System) (id : MetricId) (hc : c.accumulates = true) :
    s.Takes [(id, c)] (s.call (Core.update id c)).2 := by
  have hmap : ∀ x : Except TelemetryError Registry, (x.map ((), ·)).map (·.2) = x := by
    intro x
    cases x <;> rfl
  cases c with
  | added amount =>
    have hsame := s.call_andThen_pure (Core.applyUpdate id fun r now =>
      (r.addCount id amount.toNat now).map ((), ·)) fun _ => ()
    exact hsame ▸ takes_applyUpdate (fun _ _ => hmap _) hc s
  | sampled sample =>
    have hsame := s.call_andThen_pure (Core.applyUpdate id fun r now =>
      (r.recordSample id sample.toNat now).map ((), ·)) fun _ => ()
    exact hsame ▸ takes_applyUpdate (fun _ _ => hmap _) hc s
  | timed durationNs =>
    have hsame := s.call_andThen_pure (Core.applyUpdate id fun r now =>
      (r.recordDuration id durationNs.toNat now).map ((), ·)) fun _ => ()
    exact hsame ▸ takes_applyUpdate (fun _ _ => hmap _) hc s
  | set level | adjusted delta => cases hc

theorem takes_updates (s : System) (hl : ∀ u ∈ l, u.2.accumulates = true) :
    s.Takes l (s.updates l) := by
  induction l generalizing s with
  | nil => exact ⟨rfl, rfl, [], by simp, by simp, rfl⟩
  | cons u rest ih =>
    have hfirst := s.takes_update u.1 (hl u List.mem_cons_self)
    exact hfirst.append (ih _ fun v hv => hl v (List.mem_cons_of_mem u hv))

end System

/-- **Producers may call in any order.** However the counts, samples and durations of some producers
reach a registry, and whatever is noted, taken or replaced behind them in between, every metric ends
with the same value and the same count of updates; and so it does if they are asked of a core. If
none of them would be refused, each of them is counted. -/
theorem producers_in_any_order :
    (∀ (r : Registry) (calls calls' : List RegistryCall),
      (∀ c ∈ calls ++ calls', c.Produces) →
      (calls.filterMap (·.update?)).Perm (calls'.filterMap (·.update?)) →
        (r.run calls).2.SameReadings (r.run calls').2 ∧
        ((∀ u ∈ calls.filterMap (·.update?), r.refusal? u.1 u.2 = none) →
          r.CountsAll (calls.filterMap (·.update?)) (r.run calls).2)) ∧
    ∀ (s : System) (l l' : List (MetricId × Change)),
      (∀ u ∈ l, u.2.accumulates = true) → l.Perm l' →
        (s.updates l).core.registry.SameReadings (s.updates l').core.registry ∧
        ((∀ u ∈ l, s.disposition u.1 u.2 = .applied) →
          s.core.registry.CountsAll l (s.updates l).core.registry) := by
  refine ⟨fun r calls calls' hproduces hperm => ?_, fun s l l' hl hperm => ?_⟩
  · have h : ∀ c ∈ calls, c.Produces := fun c hc => hproduces c (List.mem_append_left _ hc)
    have h' : ∀ c ∈ calls', c.Produces := fun c hc => hproduces c (List.mem_append_right _ hc)
    exact ⟨r.sameReadings_run_of_perm h h' hperm, r.countsAll_run h⟩
  · have hl' : ∀ u ∈ l', u.2.accumulates = true := fun u hu => hl u (hperm.mem_iff.2 hu)
    obtain ⟨calls, hproduces, hupdates, hregistry⟩ := (s.takes_updates hl).registry
    obtain ⟨calls', hproduces', hupdates', hregistry'⟩ := (s.takes_updates hl').registry
    constructor
    · rw [hregistry, hregistry']
      refine s.core.registry.sameReadings_run_of_perm hproduces hproduces' ?_
      rw [hupdates, hupdates']
      split
      · exact hperm
      · exact .refl _
    · intro happlied
      have hall : calls.filterMap (·.update?) = l := by
        rw [hupdates]
        cases l with
        | nil => rw [ite_self]
        | cons u rest =>
          exact if_pos (System.of_disposition_eq_applied (happlied u List.mem_cons_self)).1
      rw [hregistry, ← hall]
      refine s.core.registry.countsAll_run hproduces ?_
      rw [hall]
      exact fun u hu => (System.of_disposition_eq_applied (happlied u hu)).2

/-- Two producers, one of which fills up a counter while the other records samples. -/
theorem producers_in_any_order_past_the_largest_word :
    let r : Registry :=
      (Registry.run { capacity := 2, policy := {} }
        [.register "requests" "" .counter .pci 0, .register "sizes" "" .histogram .pci 0]).2
    let calls : List RegistryCall :=
      [.update ⟨1⟩ (.added 18446744073709551615) 1, .noteOverhead ⟨1⟩ 7,
        .update ⟨2⟩ (.sampled 5) 2, .update ⟨1⟩ (.added 9) 3]
    let calls' : List RegistryCall :=
      [.update ⟨2⟩ (.sampled 5) 4, .update ⟨1⟩ (.added 9) 5, .takePending,
        .update ⟨1⟩ (.added 18446744073709551615) 6]
    (r.run calls).2.SameReadings (r.run calls').2 ∧
      r.CountsAll (calls.filterMap (·.update?)) (r.run calls).2 ∧
      (r.run calls').2.reading? ⟨1⟩ = some ⟨true, .counter Word.largest, 2⟩ := by
  intro r calls calls'
  have hproduces : ∀ c ∈ calls ++ calls', c.Produces := by
    intro c hc
    fin_cases hc <;> first | rfl | trivial
  have hperm : (calls.filterMap (·.update?)).Perm (calls'.filterMap (·.update?)) := by decide
  obtain ⟨hsame, hcounts⟩ := producers_in_any_order.1 r calls calls' hproduces hperm
  exact ⟨hsame, hcounts (by decide), rfl⟩

end DriverTelemetry
