import DriverTelemetry.Proofs.MetricHistory

/-!
# Which samples are anomalous

`Anomaly.baselineAfter?` says what the baseline of a metric is by the changes made to it, and
`Anomaly.Deviates` when a sample that comes next is anomalous, and with which verdict. A registry
gives that verdict on any sample that it applies, from the metric as it was before; the verdict on a
level is answered, the others wait in the queue.
-/

namespace DriverTelemetry

namespace Change

/-- The level after a change of a gauge-like metric. -/
def levelFrom (level : Int) : Change → Int
  | .set x => x.toInt
  | .adjusted x => SignedWord.satAdd level x.toInt
  | .added _ | .sampled _ | .timed _ => level

/-- What a change adds to the sum of a counter, a rate or a histogram. -/
def amount? : Change → Option Nat
  | .added amount => some amount.toNat
  | .sampled sample => some sample.toNat
  | .set _ | .adjusted _ | .timed _ => none

/-- The sample that is checked when a change is made. -/
def sample? : Change → Option Int
  | .added amount => some amount.toNat
  | .set level => some level.toInt
  | .sampled sample => some sample.toNat
  | .adjusted _ | .timed _ => none

/-- Whether the verdict on a change waits to be taken. -/
def queues : Change → Bool
  | .added _ | .sampled _ => true
  | .set _ | .adjusted _ | .timed _ => false

end Change

namespace Anomaly

/-- The mean of what changes add up to within a word; none without changes. -/
def meanAfter? (earlier : List Change) : Option Int :=
  if earlier = [] then none
  else some (min (earlier.filterMap Change.amount?).sum Word.largest / earlier.length : Nat)

/-- The baseline of a metric after the changes that have been made to it since it was registered. -/
def baselineAfter? (kind : MetricKind) (earlier : List Change) : Option Int :=
  match kind with
  | .gauge | .memory | .bandwidth => some (earlier.foldl Change.levelFrom 0)
  | .counter | .rate | .histogram => meanAfter? earlier
  | .timer => none

/-- A sample that is anomalous for a metric after earlier changes, and the verdict on it. -/
structure Deviates (policy : Policy) (m : Metric) (earlier : List Change) (sample : Int)
    (v : Verdict) : Prop where
  warm : policy.baselineWindow ≤ earlier.length
  baseline_eq : baselineAfter? m.kind earlier = some v.baseline
  deviation_eq : (v.deviation : Int) = |sample - v.baseline|
  exceeds : (policy.multiplier : Int) * |v.baseline| < |sample - v.baseline|
  value_eq : v.value = sample
  metric_eq : v.metric = m.id
  name_eq : v.name = m.name

/-- The verdict on a change of a metric, if the change has a sample. -/
def verdict? (policy : Policy) (m : Metric) (c : Change) : Option Verdict :=
  c.sample?.bind (check policy m)

end Anomaly

/-- The changes made to a metric, by its entries in a journal. -/
def MetricEvent.change? : MetricEvent → Option Change
  | registered _ _ => none
  | updated change _ => some change

def Journal.changes (j : Journal) (id : MetricId) : List Change :=
  (j.of id).filterMap MetricEvent.change?

/-- What a metric records is what its changes make of it. -/
theorem Metric.Records.changes {m : Metric} {j : Journal} {id : MetricId}
    (h : m.Records (j.of id)) :
    m.value.Accounts (j.changes id) ∧ m.updateCount = (j.changes id).length := by
  obtain ⟨updates, hentries, hcount, -, haccounts⟩ := h
  have hchanges : j.changes id = updates.map (·.1) := by
    rw [Journal.changes, hentries, List.filterMap_cons_none rfl, List.filterMap_map,
      ← List.filterMap_eq_map]
    rfl
  rw [hchanges]
  exact ⟨haccounts, by simp [hcount]⟩

section Baselines

variable {changes : List Change}

theorem Change.filterMap_amount? {sort : UInt64 → Change}
    (h : ∀ n, (sort n).amount? = some n.toNat) (amounts : List UInt64) :
    (amounts.map sort).filterMap amount? = amounts.map (·.toNat) := by
  rw [List.filterMap_map, ← List.filterMap_eq_map]
  congr 1
  funext n
  exact h n

theorem Change.IsLevel.eq_foldl {level : Int} (h : IsLevel level changes) :
    level = changes.foldl levelFrom 0 := by
  obtain ⟨earlier, base, deltas, rfl, hbase, -, rfl⟩ := h
  have hearlier : earlier.foldl levelFrom 0 = base := by
    rcases hbase with ⟨rfl, rfl⟩ | ⟨before, last, rfl, rfl⟩
    · rfl
    · rw [List.foldl_append]
      rfl
  rw [List.foldl_append, hearlier, List.foldl_map, List.foldl_map]
  rfl

namespace Anomaly

theorem mean?_eq {total : Nat} {amounts : List UInt64} {sort : UInt64 → Change}
    (hsort : ∀ n, (sort n).amount? = some n.toNat) (hchanges : changes = amounts.map sort)
    (htotal : total = min (amounts.map (·.toNat)).sum Word.largest) :
    mean? total changes.length = meanAfter? changes := by
  have hamounts : changes.filterMap Change.amount? = amounts.map (·.toNat) := by
    rw [hchanges, Change.filterMap_amount? hsort]
  unfold mean? meanAfter?
  rw [hamounts, htotal]
  by_cases hnil : changes = []
  · simp [hnil]
  · rw [if_neg hnil, if_neg (by simpa using hnil)]

/-- The baseline of a metric is that of the changes it records. -/
theorem baseline?_eq {m : Metric} (haccounts : m.value.Accounts changes)
    (hcount : m.updateCount = changes.length) :
    baseline? m = baselineAfter? m.kind changes := by
  unfold baseline? baselineAfter? Metric.kind
  rw [hcount]
  cases hvalue : m.value with
  | gauge level | memory level | bandwidth level =>
    rw [hvalue] at haccounts
    exact congrArg some (Change.IsLevel.eq_foldl haccounts)
  | counter total =>
    rw [hvalue] at haccounts
    obtain ⟨amounts, hchanges, htotal⟩ := haccounts
    exact mean?_eq (fun _ => rfl) hchanges htotal
  | rate window =>
    rw [hvalue] at haccounts
    obtain ⟨amounts, hchanges, htotal⟩ := haccounts
    exact mean?_eq (fun _ => rfl) hchanges htotal
  | histogram h =>
    rw [hvalue] at haccounts
    obtain ⟨samples, hchanges, hh⟩ := haccounts
    have hlength : h.count = changes.length := by simp [hh.count_eq, hchanges]
    change mean? h.sum h.count = _
    rw [hlength]
    exact mean?_eq (fun _ => rfl) hchanges hh.sum_eq
  | timer => rfl

theorem check_eq_some_iff {policy : Policy} {m : Metric} {sample : Int} {v : Verdict} :
    check policy m sample = some v ↔
      (policy.enabled = true ∧ policy.baselineWindow ≤ m.updateCount) ∧
      ∃ baseline, baseline? m = some baseline ∧
        policy.multiplier * baseline.natAbs < (sample - baseline).natAbs ∧
        { metric := m.id, name := m.name, value := sample, baseline,
          deviation := (sample - baseline).natAbs } = v := by
  simp [check, Option.bind_eq_some_iff]

/-- The check finds what deviates from the baseline of the changes that the metric records. -/
theorem check_iff_deviates {policy : Policy} {m : Metric} {sample : Int} {v : Verdict}
    (hon : policy.enabled = true) (haccounts : m.value.Accounts changes)
    (hcount : m.updateCount = changes.length) :
    check policy m sample = some v ↔ Deviates policy m changes sample v := by
  have hexceeds : ∀ baseline : Int,
      policy.multiplier * baseline.natAbs < (sample - baseline).natAbs ↔
        (policy.multiplier : Int) * |baseline| < |sample - baseline| := by
    intro baseline
    rw [Int.abs_eq_natAbs, Int.abs_eq_natAbs]
    norm_cast
  rw [check_eq_some_iff, baseline?_eq haccounts hcount, hcount]
  constructor
  · rintro ⟨⟨-, hwarm⟩, baseline, hbaseline, hfar, rfl⟩
    exact ⟨hwarm, hbaseline, (Int.abs_eq_natAbs _).symm, (hexceeds baseline).1 hfar, rfl, rfl, rfl⟩
  · intro h
    refine ⟨⟨hon, h.warm⟩, v.baseline, h.baseline_eq, (hexceeds v.baseline).2 h.exceeds, ?_⟩
    have hdeviation : (sample - v.baseline).natAbs = v.deviation := by
      have hcast := h.deviation_eq
      rw [Int.abs_eq_natAbs] at hcast
      exact_mod_cast hcast.symm
    rw [hdeviation, ← h.metric_eq, ← h.name_eq, ← h.value_eq]

end Anomaly

end Baselines

/-- Whether a call is one that can empty the queue. -/
def RegistryCall.mayEmpty : RegistryCall → Bool
  | .takePending | .setPolicy _ => true
  | _ => false

namespace Registry

variable {r r' : Registry} {id : MetricId} {c : Change} {nowNs : Nat}

section Metrics

/-- What a call does to the metrics: it may change some, which keep their numbers, or enter one
under a new number. -/
inductive Extends (r r' : Registry) : Prop
  | kept (f : MetricId → Metric → Metric) (hid : ∀ id m, (f id m).id = m.id)
      (hfind : ∀ id, r'.find? id = (r.find? id).map (f id))
  | entered (new : Metric) (hfresh : r.find? new.id = none)
      (hfind : ∀ id, r'.find? id = if id = new.id then some new else r.find? id)

theorem Extends.of_metrics_eq (h : r'.metrics = r.metrics) : r.Extends r' := by
  refine .kept (fun _ m => m) (fun _ _ => rfl) ?_
  intro id
  rw [find?_of_metrics_eq h, Option.map_id']

theorem Extends.modify (r : Registry) (id : MetricId) (f : Metric → Metric)
    (hf : ∀ m, (f m).id = m.id) : r.Extends (r.modify id f) := by
  refine .kept (fun other => if other = id then f else fun m => m) ?_ ?_
  · intro other m
    by_cases heq : other = id <;> simp [heq, hf]
  · intro other
    rw [find?_modify]
    by_cases heq : other = id <;> simp [heq]

theorem Extends.congr {after : Registry} (h : r.Extends after)
    (hfind : ∀ id, r'.find? id = after.find? id) : r.Extends r' := by
  cases h with
  | kept f hid hafter => exact .kept f hid fun id => (hfind id).trans (hafter id)
  | entered new hfresh hafter => exact .entered new hfresh fun id => (hfind id).trans (hafter id)

theorem extends_perform (r : Registry) (c : RegistryCall) : r.Extends (r.perform c).2 := by
  cases c with
  | register name description kind subsystem nowNs =>
    cases hok : r.register name description kind subsystem nowNs with
    | error e => simpa only [perform, hok] using .of_metrics_eq rfl
    | ok answer =>
      obtain ⟨new, after⟩ := answer
      simp only [perform, hok]
      refine .entered
        { id := new, name := .ofString name, description := .ofString description, subsystem,
          registeredNs := nowNs, value := .initial kind nowNs } ?_ ?_
      · exact (find?_register hok new).1
      · exact fun id => (find?_register hok id).2
  | update id change nowNs =>
    cases hok : r.change id change nowNs with
    | error e => simpa only [perform, hok] using .of_metrics_eq rfl
    | ok after =>
      obtain ⟨m, value, -, -, -, hmetrics⟩ := change_ok hok
      simp only [perform, hok]
      have hextends := Extends.modify r id (fun m => m.updated value nowNs) fun _ => rfl
      exact hextends.congr (find?_of_metrics_eq hmetrics)
  | setEnabled id enabled =>
    cases hok : r.setEnabled id enabled with
    | error e => simpa only [perform, hok] using .of_metrics_eq rfl
    | ok after =>
      obtain ⟨m, -, hmodify⟩ := bind_eq_ok hok
      cases hmodify
      simp only [perform, hok]
      exact Extends.modify r id (fun m => { m with enabled }) fun _ => rfl
  | rollRates nowNs =>
    exact .kept (fun _ m => { m with value := m.value.roll nowNs }) (fun _ _ => rfl)
      (find?_rollRates r nowNs)
  | takePending => exact .of_metrics_eq rfl
  | setPolicy policy => exact .of_metrics_eq rfl
  | noteOverhead id overheadNs => exact Extends.modify r id _ fun _ => rfl

/-- A metric that there is stays. -/
theorem Extends.isSome_find? (h : r.Extends r') (hm : (r.find? id).isSome) :
    (r'.find? id).isSome := by
  cases h with
  | kept f hid hfind => simpa [hfind] using hm
  | entered new hfresh hfind =>
    rw [hfind]
    by_cases heq : id = new.id <;> simp [heq, hm]

/-- Every metric has the number under which it is found. -/
def Identified (r : Registry) : Prop :=
  ∀ id m, r.find? id = some m → m.id = id

theorem Identified.of_extends (h : r.Identified) (hextends : r.Extends r') : r'.Identified := by
  intro id m hm
  cases hextends with
  | kept f hid hfind =>
    rw [hfind] at hm
    obtain ⟨old, hold, rfl⟩ := Option.map_eq_some_iff.1 hm
    rw [hid, h id old hold]
  | entered new hfresh hfind =>
    rw [hfind] at hm
    by_cases heq : id = new.id
    · rw [if_pos heq] at hm
      cases hm
      exact heq.symm
    · rw [if_neg heq] at hm
      exact h id m hm

end Metrics

section Queue

/-- The verdicts that wait, and how many a full queue has dropped. -/
def queue (r : Registry) : List Anomaly.Verdict × Nat := (r.pending, r.droppedVerdicts)

@[simp] theorem queue_modify (r : Registry) (id : MetricId) (f : Metric → Metric) :
    (r.modify id f).queue = r.queue := by
  unfold modify
  split <;> rfl

@[simp] theorem policy_modify (r : Registry) (id : MetricId) (f : Metric → Metric) :
    (r.modify id f).policy = r.policy := by
  unfold modify
  split <;> rfl

theorem queue_enqueue?_of_eq (h : r'.queue = r.queue) (v : Option Anomaly.Verdict) :
    (r'.enqueue? v).queue = (r.enqueue? v).queue := by
  obtain ⟨hpending, hdropped⟩ := Prod.mk.inj h
  cases v with
  | none => exact h
  | some v =>
    simp only [enqueue?, enqueue, hpending, hdropped]
    split <;> rfl

@[simp] theorem policy_enqueue? (r : Registry) (v : Option Anomaly.Verdict) :
    (r.enqueue? v).policy = r.policy := by
  cases v with
  | none => rfl
  | some v =>
    simp only [enqueue?, enqueue]
    split <;> rfl

theorem length_pending_enqueue? (h : r.pending.length ≤ pendingLimit)
    (v : Option Anomaly.Verdict) : (r.enqueue? v).pending.length ≤ pendingLimit := by
  cases v with
  | none => exact h
  | some v =>
    simp only [enqueue?, enqueue]
    split
    · simp only [List.length_append, List.length_singleton]
      omega
    · simp only [List.length_append, List.length_singleton, List.length_tail]
      unfold pendingLimit at *
      omega

/-- The queue holds the newest verdicts, as many as may wait, and counts those it drops. -/
theorem queue_enqueue? (h : r.pending.length ≤ pendingLimit) (v : Option Anomaly.Verdict) :
    (r.enqueue? v).queue =
      ((r.pending ++ v.toList).drop ((r.pending ++ v.toList).length - pendingLimit),
        r.droppedVerdicts + ((r.pending ++ v.toList).length - pendingLimit)) := by
  cases v with
  | none => simp [queue, enqueue?, Nat.sub_eq_zero_of_le h]
  | some v =>
    by_cases hroom : r.pending.length < pendingLimit
    · have hnone : r.pending.length + 1 - pendingLimit = 0 := Nat.sub_eq_zero_of_le hroom
      simp [queue, enqueue?, enqueue, hroom, hnone]
    · have hone : r.pending.length + 1 - pendingLimit = 1 := by omega
      have hpos : 1 ≤ r.pending.length := by
        unfold pendingLimit at hroom
        omega
      simp [queue, enqueue?, enqueue, hroom, hone, List.drop_append_of_le_length hpos]

/-- The verdict that a change lets wait, if it is made. -/
def enqueued? (policy : Anomaly.Policy) (m : Metric) (c : Change) : Option Anomaly.Verdict :=
  if c.queues then Anomaly.verdict? policy m c else none

/-- What a change of a metric does with the verdict on it. -/
theorem queue_change (h : r.change id c nowNs = .ok r') :
    ∃ m, r.find? id = some m ∧ r'.policy = r.policy ∧
      r'.queue = (r.enqueue? (enqueued? r.policy m c)).queue ∧
      ∀ level, c = .set level →
        r.setLevel id level.toInt nowNs = .ok (Anomaly.verdict? r.policy m c, r') := by
  cases c with
  | added amount =>
    obtain ⟨⟨m, after⟩, hupdate, h⟩ := bind_eq_ok h
    cases h
    obtain ⟨hfind, -, value, -, rfl⟩ := update_ok hupdate
    refine ⟨m, hfind, by simp, queue_enqueue?_of_eq (by simp) _, by simp⟩
  | sampled sample =>
    obtain ⟨⟨m, after⟩, hupdate, h⟩ := bind_eq_ok h
    cases h
    obtain ⟨hfind, -, value, -, rfl⟩ := update_ok hupdate
    refine ⟨m, hfind, by simp, queue_enqueue?_of_eq (by simp) _, by simp⟩
  | set level =>
    obtain ⟨⟨verdict, set⟩, hset, rfl⟩ := map_eq_ok h
    obtain ⟨⟨m, after⟩, hupdate, h⟩ := bind_eq_ok hset
    cases h
    obtain ⟨hfind, -, value, -, rfl⟩ := update_ok hupdate
    refine ⟨m, hfind, by simp, by simp [enqueued?, Change.queues, enqueue?], ?_⟩
    intro level' hlevel
    cases hlevel
    exact hset
  | adjusted delta =>
    obtain ⟨⟨level, adjusted⟩, hadjust, rfl⟩ := map_eq_ok h
    obtain ⟨⟨m, after⟩, hupdate, h⟩ := bind_eq_ok hadjust
    cases h
    obtain ⟨hfind, -, value, -, rfl⟩ := update_ok hupdate
    refine ⟨m, hfind, by simp, by simp [enqueued?, Change.queues, enqueue?], by simp⟩
  | timed durationNs =>
    obtain ⟨⟨m, after⟩, hupdate, h⟩ := bind_eq_ok h
    cases h
    obtain ⟨hfind, -, value, -, rfl⟩ := update_ok hupdate
    refine ⟨m, hfind, by simp, by simp [enqueued?, Change.queues, enqueue?], by simp⟩

/-- The verdict that a call lets wait, if there is one. -/
def detected? (r : Registry) : RegistryCall → Option Anomaly.Verdict
  | .update id change nowNs =>
    match r.change id change nowNs with
    | .ok _ => (r.find? id).bind fun m => enqueued? r.policy m change
    | .error _ => none
  | _ => none

theorem register_queue {name description : String} {kind : MetricKind} {subsystem : Subsystem}
    {new : MetricId} (h : r.register name description kind subsystem nowNs = .ok (new, r')) :
    r'.queue = r.queue ∧ r'.policy = r.policy := by
  unfold register at h
  split at h
  · cases h
  · split at h
    · cases h
    · cases h
      exact ⟨rfl, rfl⟩

/-- Any other call only adds the verdict that it lets wait. -/
theorem queue_perform (r : Registry) {c : RegistryCall} (hc : c.mayEmpty = false) :
    (r.perform c).2.queue = (r.enqueue? (r.detected? c)).queue ∧
      (r.perform c).2.policy = r.policy := by
  cases c with
  | register name description kind subsystem nowNs =>
    cases hok : r.register name description kind subsystem nowNs with
    | error e => simp [perform, hok, detected?, enqueue?]
    | ok answer => simpa [perform, hok, detected?, enqueue?] using register_queue hok
  | update id change nowNs =>
    cases hok : r.change id change nowNs with
    | error e => simp [perform, hok, detected?, enqueue?]
    | ok after =>
      obtain ⟨m, hfind, hpolicy, hqueue, -⟩ := queue_change hok
      simpa [perform, hok, detected?, hfind] using ⟨hqueue, hpolicy⟩
  | setEnabled id enabled =>
    cases hok : r.setEnabled id enabled with
    | error e => simp [perform, hok, detected?, enqueue?]
    | ok after =>
      obtain ⟨m, -, hmodify⟩ := bind_eq_ok hok
      cases hmodify
      simp [perform, hok, detected?, enqueue?]
  | rollRates nowNs => exact ⟨rfl, rfl⟩
  | takePending => cases hc
  | setPolicy policy => cases hc
  | noteOverhead id overheadNs => exact ⟨r.queue_modify id _, r.policy_modify id _⟩

theorem length_pending_perform (h : r.pending.length ≤ pendingLimit) (c : RegistryCall) :
    (r.perform c).2.pending.length ≤ pendingLimit := by
  by_cases hc : c.mayEmpty = false
  · have hqueue := (r.queue_perform hc).1
    rw [(Prod.mk.inj hqueue).1]
    exact length_pending_enqueue? h _
  · cases c with
    | takePending => exact Nat.zero_le _
    | setPolicy policy =>
      by_cases hon : policy.enabled
      · simpa [perform, setPolicy, hon] using h
      · simp [perform, setPolicy, hon]
    | _ => exact absurd rfl hc

end Queue

theorem run_induction {P : Registry → Prop} (hstep : ∀ r c, P r → P (r.perform c).2)
    (calls : List RegistryCall) (h : P r) : P (r.run calls).2 := by
  induction calls generalizing r with
  | nil => exact h
  | cons c rest ih => exact ih (hstep r c h)

theorem tracks_new (capacity : Nat) (policy : Anomaly.Policy) :
    Tracks { capacity, policy } [] := by
  intro id
  simp [find?, Journal.of]

/-- **The anomaly law.** After any calls on a new registry, among them calls that fail, calls on
other metrics and changes of the policy, a change that is applied to a metric while detection is on
has the verdict that the earlier changes of this metric determine: the sample is anomalous just
when these are as many as the baseline window and it is further from their baseline than the
multiple of it. The verdict on a level is answered and does not wait; that on an amount or a sample
of a histogram comes last in the queue, which keeps the newest ones and counts those it drops. A
change without a sample has no verdict, nor has any change of a timer. -/
theorem verdict_by_earlier_changes (capacity : Nat) (policy : Anomaly.Policy)
    (calls : List RegistryCall) (id : MetricId) (c : Change) (nowNs : Nat) (r' : Registry)
    (hon : (run { capacity, policy } calls).2.policy.enabled = true)
    (hok : (run { capacity, policy } calls).2.change id c nowNs = .ok r') :
    let r := (run { capacity, policy } calls).2
    let earlier := Journal.changes (run { capacity, policy } calls).1 id
    ∃ m verdict?, r.find? id = some m ∧ m.id = id ∧
      (∀ v, verdict? = some v ↔
        ∃ sample, c.sample? = some sample ∧ Anomaly.Deviates r.policy m earlier sample v) ∧
      (m.kind = .timer → verdict? = none) ∧
      (∀ level, c = .set level → r.setLevel id level.toInt nowNs = .ok (verdict?, r')) ∧
      let all := r.pending ++ if c.queues then verdict?.toList else []
      r'.pending = all.drop (all.length - pendingLimit) ∧
      r'.droppedVerdicts = r.droppedVerdicts + (all.length - pendingLimit) := by
  intro r earlier
  obtain ⟨m, hfind, -, hqueue, hanswer⟩ := queue_change hok
  have hlength : r.pending.length ≤ pendingLimit :=
    run_induction (P := fun r => r.pending.length ≤ pendingLimit)
      (fun _ c h => length_pending_perform h c) calls (Nat.zero_le _)
  have hid : r.Identified :=
    run_induction (P := Identified) (fun r c h => h.of_extends (r.extends_perform c)) calls
      (by simp [Identified, find?])
  -- what the metric holds is tied to its earlier changes by what it records of them
  have hrecords : m.Records (Journal.of (run { capacity, policy } calls).1 id) := by
    have htracks := (tracks_new capacity policy).run calls id
    simpa only [hfind, List.nil_append] using htracks
  obtain ⟨haccounts, hcount⟩ := hrecords.changes
  have hlaw : ∀ v, Anomaly.verdict? r.policy m c = some v ↔
      ∃ sample, c.sample? = some sample ∧ Anomaly.Deviates r.policy m earlier sample v := by
    intro v
    rw [Anomaly.verdict?, Option.bind_eq_some_iff]
    exact exists_congr fun sample =>
      and_congr_right fun _ => Anomaly.check_iff_deviates hon haccounts hcount
  refine ⟨m, Anomaly.verdict? r.policy m c, hfind, hid id m hfind, hlaw, ?_, hanswer, ?_⟩
  · -- a timer has no baseline
    intro htimer
    rw [Option.eq_none_iff_forall_ne_some]
    intro v hv
    obtain ⟨sample, -, hdeviates⟩ := (hlaw v).1 hv
    have hbaseline := hdeviates.baseline_eq
    rw [htimer] at hbaseline
    cases hbaseline
  · have hwaits : (enqueued? r.policy m c).toList
        = if c.queues then (Anomaly.verdict? r.policy m c).toList else [] := by
      unfold enqueued?
      split <;> rfl
    rw [queue_enqueue? hlength, hwaits] at hqueue
    exact Prod.mk.inj hqueue

theorem verdict_by_earlier_changes_on_counter :
    let calls : List RegistryCall :=
      [.register "irq" "" .counter .core 0, .update ⟨1⟩ (.added 10) 1]
    let r := (run { capacity := 4, policy := { baselineWindow := 1 } } calls).2
    let v : Anomaly.Verdict :=
      { metric := ⟨1⟩, name := .ofString "irq", value := 100, baseline := 10, deviation := 90 }
    r.policy.enabled = true ∧
      ∃ r', r.change ⟨1⟩ (.added 100) 2 = .ok r' ∧ r'.pending = [v] ∧ r'.droppedVerdicts = 0 := by
  intro calls r v
  have hon : r.policy.enabled = true := rfl
  obtain ⟨r', hok⟩ : ∃ r', r.change ⟨1⟩ (.added 100) 2 = .ok r' := ⟨_, rfl⟩
  obtain ⟨m, verdict?, hfind, hid, hlaw, -, -, hpending, hdropped⟩ :=
    verdict_by_earlier_changes 4 _ calls ⟨1⟩ (.added 100) 2 r' hon hok
  have hv : verdict? = some v := by
    cases hfind
    refine (hlaw v).2 ⟨100, rfl, ⟨?_, ?_, ?_, ?_, rfl, rfl, rfl⟩⟩ <;> decide
  rw [hv] at hpending hdropped
  exact ⟨hon, r', hok, hpending, hdropped⟩

end Registry

end DriverTelemetry
