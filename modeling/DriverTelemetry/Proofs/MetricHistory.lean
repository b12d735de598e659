import DriverTelemetry.Proofs.Accumulation
import DriverTelemetry.Proofs.Numbering

/-!
# The history of a metric

A run of calls on a registry leaves a journal: which metric a call has registered or updated, in
order. `Metric.Records` says that a metric is what its own entries in the journal make of it, and
`Registry.Tracks` that this holds of every metric of a registry, and that nothing has been entered
under any other number. Every call keeps that, whether it succeeds or fails.
-/

namespace DriverTelemetry

inductive RegistryCall where
  | register (name description : String) (kind : MetricKind) (subsystem : Subsystem) (nowNs : Nat)
  | update (id : MetricId) (change : Change) (nowNs : Nat)
  | setEnabled (id : MetricId) (enabled : Bool)
  | rollRates (nowNs : Nat)
  | takePending
  | setPolicy (policy : Anomaly.Policy)
  | noteOverhead (id : MetricId) (overheadNs : Nat)

inductive MetricEvent where
  | registered (kind : MetricKind) (nowNs : Nat)
  | updated (change : Change) (nowNs : Nat)

/-- What has happened to the metrics of a registry, in order. -/
abbrev Journal := List (MetricId × MetricEvent)

def Journal.of (j : Journal) (id : MetricId) : List MetricEvent :=
  (j.filter fun entry => decide (entry.1 = id)).map (·.2)

namespace Registry

/-- Updates a metric by the operation for a sort of change. -/
def change (r : Registry) (id : MetricId) (c : Change) (nowNs : Nat) :
    Except TelemetryError Registry :=
  match c with
  | .added amount => r.addCount id amount.toNat nowNs
  | .set level => (r.setLevel id level.toInt nowNs).map (·.2)
  | .adjusted delta => (r.adjustLevel id delta.toInt nowNs).map (·.2)
  | .sampled sample => r.recordSample id sample.toNat nowNs
  | .timed durationNs => r.recordDuration id durationNs.toNat nowNs

/-- Performs one call; answers its entry in the journal, if it has one. A call that fails has none
and leaves the registry as it was. -/
def perform (r : Registry) : RegistryCall → Option (MetricId × MetricEvent) × Registry
  | .register name description kind subsystem nowNs =>
    match r.register name description kind subsystem nowNs with
    | .ok (id, r) => (some (id, .registered kind nowNs), r)
    | .error _ => (none, r)
  | .update id change nowNs =>
    match r.change id change nowNs with
    | .ok r => (some (id, .updated change nowNs), r)
    | .error _ => (none, r)
  | .setEnabled id enabled =>
    match r.setEnabled id enabled with
    | .ok r => (none, r)
    | .error _ => (none, r)
  | .rollRates nowNs => (none, r.rollRates nowNs)
  | .takePending => (none, r.takePending.2)
  | .setPolicy policy => (none, r.setPolicy policy)
  | .noteOverhead id overheadNs => (none, r.noteOverhead id overheadNs)

/-- Performs calls one after the other; answers the journal. -/
def run : Registry → List RegistryCall → Journal × Registry
  | r, [] => ([], r)
  | r, c :: rest =>
    let (entry, r) := r.perform c
    let (journal, r) := r.run rest
    (entry.toList ++ journal, r)

end Registry

/-- A metric that is what its entries in a journal make of it: registered once, before anything
else, with its kind, and then updated, each update counted and applied to the value in order. -/
def Metric.Records (m : Metric) (entries : List MetricEvent) : Prop :=
  ∃ updates : List (Change × Nat),
    entries = .registered m.kind m.registeredNs :: updates.map (fun u => .updated u.1 u.2) ∧
    m.updateCount = updates.length ∧
    m.lastUpdateNs = (updates.getLast?.map (·.2)).getD 0 ∧
    m.value.Accounts (updates.map (·.1))

namespace Registry

/-- Every metric is what its entries in a journal make of it, and no other number has entries. -/
def Tracks (r : Registry) (j : Journal) : Prop :=
  ∀ id, match r.find? id with
    | none => j.of id = []
    | some m => m.Records (j.of id)

variable {r r' : Registry} {j : Journal}

section Find

theorem find?_of_metrics_eq (h : r'.metrics = r.metrics) (id : MetricId) :
    r'.find? id = r.find? id := by
  unfold find?
  rw [h]

theorem find?_rollRates (r : Registry) (nowNs : Nat) (id : MetricId) :
    (r.rollRates nowNs).find? id =
      (r.find? id).map fun m => { m with value := m.value.roll nowNs } := by
  unfold rollRates find?
  by_cases hid : id.number = 0
  · simp [hid]
  · simp [hid]

theorem find?_register {name description : String} {kind : MetricKind} {subsystem : Subsystem}
    {nowNs : Nat} {new : MetricId}
    (h : r.register name description kind subsystem nowNs = .ok (new, r')) (id : MetricId) :
    r.find? new = none ∧
      r'.find? id =
        if id = new then
          some
            { id := new, name := .ofString name, description := .ofString description, subsystem,
              registeredNs := nowNs, value := .initial kind nowNs }
        else r.find? id := by
  unfold register at h
  split at h
  · cases h
  · split at h
    · cases h
    · cases h
      exact ⟨r.find?_fresh, r.find?_append id _⟩

@[simp] theorem metrics_enqueue? (r : Registry) (v : Option Anomaly.Verdict) :
    (r.enqueue? v).metrics = r.metrics := by
  cases v with
  | none => rfl
  | some v =>
    simp only [enqueue?, enqueue]
    split <;> rfl

end Find

section Update

theorem bind_eq_ok {α β : Type} {x : Except TelemetryError α} {f : α → Except TelemetryError β}
    {b : β} (h : x >>= f = .ok b) : ∃ a, x = .ok a ∧ f a = .ok b := by
  cases x with
  | error e => cases h
  | ok a => exact ⟨a, rfl, h⟩

theorem number_ne_zero_of_find? {id : MetricId} {m : Metric} (h : r.find? id = some m) :
    id.number ≠ 0 := by
  intro hzero
  rw [find?, if_pos hzero] at h
  cases h

theorem live_of_find? {id : MetricId} {m : Metric} (h : r.find? id = some m)
    (henabled : m.enabled = true) : r.live id = .ok m := by
  rw [live, if_neg (number_ne_zero_of_find? h), h]
  exact if_pos henabled

theorem live_ok {id : MetricId} {m : Metric} (h : r.live id = .ok m) :
    r.find? id = some m ∧ m.enabled = true := by
  unfold live at h
  split at h
  · cases h
  · split at h
    · cases h
    · split at h
      · rename_i hfind henabled
        cases h
        exact ⟨hfind, henabled⟩
      · cases h

theorem update_of_find? {id : MetricId} {m : Metric} (h : r.find? id = some m)
    (henabled : m.enabled = true) (nowNs : Nat) {f : MetricValue → Option MetricValue}
    {value : MetricValue} (hvalue : f m.value = some value) :
    r.update id nowNs f = .ok (m, r.modify id fun m => m.updated value nowNs) := by
  rw [update, live_of_find? h henabled]
  simp only [bind, Except.bind, hvalue]

theorem update_ok {id : MetricId} {nowNs : Nat} {f : MetricValue → Option MetricValue}
    {before : Metric} (h : r.update id nowNs f = .ok (before, r')) :
    r.find? id = some before ∧ before.enabled = true ∧
      ∃ value, f before.value = some value ∧
        r' = r.modify id fun m => m.updated value nowNs := by
  obtain ⟨m, hlive, h⟩ := bind_eq_ok h
  obtain ⟨hfind, henabled⟩ := live_ok hlive
  split at h
  · cases h
  · rename_i value hvalue
    cases h
    exact ⟨hfind, henabled, value, hvalue, rfl⟩

theorem map_eq_ok {α β : Type} {x : Except TelemetryError α} {f : α → β} {b : β}
    (h : x.map f = .ok b) : ∃ a, x = .ok a ∧ f a = b := by
  cases x with
  | error e => cases h
  | ok a => exact ⟨a, rfl, Except.ok.inj h⟩

/-- A change is an update of the value, after which at most a verdict is left waiting. -/
theorem update_of_change {id : MetricId} {c : Change} {nowNs : Nat}
    (h : r.change id c nowNs = .ok r') :
    ∃ before after v, r.update id nowNs (fun w => w.apply? c) = .ok (before, after) ∧
      r' = after.enqueue? v := by
  cases c with
  | added amount | sampled sample =>
    obtain ⟨⟨before, after⟩, hupdate, h⟩ := bind_eq_ok h
    cases h
    exact ⟨before, after, _, hupdate, rfl⟩
  | set level =>
    obtain ⟨⟨verdict, set⟩, hset, rfl⟩ := map_eq_ok h
    obtain ⟨⟨before, after⟩, hupdate, h⟩ := bind_eq_ok hset
    cases h
    exact ⟨before, _, none, hupdate, rfl⟩
  | adjusted delta =>
    obtain ⟨⟨level, adjusted⟩, hadjust, rfl⟩ := map_eq_ok h
    obtain ⟨⟨before, after⟩, hupdate, h⟩ := bind_eq_ok hadjust
    cases h
    exact ⟨before, _, none, hupdate, rfl⟩
  | timed durationNs =>
    obtain ⟨⟨before, after⟩, hupdate, h⟩ := bind_eq_ok h
    cases h
    exact ⟨before, _, none, hupdate, rfl⟩

/-- A change that has been made applied to an enabled metric that it fits. -/
def Changed (r : Registry) (id : MetricId) (c : Change) (nowNs : Nat) (r' : Registry) : Prop :=
  ∃ m value, r.find? id = some m ∧ m.enabled = true ∧ m.value.apply? c = some value ∧
    r'.metrics = (r.modify id fun m => m.updated value nowNs).metrics

theorem changed_of_update {id : MetricId} {c : Change} {nowNs : Nat} {before : Metric}
    {after : Registry} (h : r.update id nowNs (fun v => v.apply? c) = .ok (before, after))
    (hmetrics : r'.metrics = after.metrics) : r.Changed id c nowNs r' := by
  obtain ⟨hfind, henabled, value, hvalue, rfl⟩ := update_ok h
  exact ⟨before, value, hfind, henabled, hvalue, hmetrics⟩

theorem change_ok {id : MetricId} {c : Change} {nowNs : Nat} (h : r.change id c nowNs = .ok r') :
    r.Changed id c nowNs r' := by
  obtain ⟨before, after, v, hupdate, rfl⟩ := update_of_change h
  exact changed_of_update hupdate (metrics_enqueue? _ _)

end Update

end Registry

namespace Metric

variable {m : Metric} {entries : List MetricEvent}

theorem records_new {name description : String} {kind : MetricKind} {subsystem : Subsystem}
    {nowNs : Nat} {id : MetricId} :
    Records
      { id, name := .ofString name, description := .ofString description, subsystem,
        registeredNs := nowNs, value := .initial kind nowNs }
      [.registered kind nowNs] := by
  refine ⟨[], ?_, rfl, rfl, MetricValue.accounts_initial kind nowNs⟩
  rw [Metric.kind, MetricValue.kind_initial]
  rfl

theorem Records.updated (h : m.Records entries) {c : Change} {value : MetricValue}
    (happly : m.value.apply? c = some value) (nowNs : Nat) :
    (m.updated value nowNs).Records (entries ++ [.updated c nowNs]) := by
  obtain ⟨updates, rfl, hcount, -, haccounts⟩ := h
  have hkind : (m.updated value nowNs).kind = m.kind := MetricValue.kind_of_apply? happly
  refine ⟨updates ++ [(c, nowNs)], ?_, ?_, ?_, ?_⟩
  · rw [hkind]
    simp [Metric.updated]
  · simp [Metric.updated, hcount]
  · simp [Metric.updated]
  · have hnext := haccounts.apply? happly
    simpa [Metric.updated] using hnext

/-- What a metric records does not depend on its switch, its cost or its rate window. -/
theorem Records.of_eq (h : m.Records entries) {m' : Metric} (hkind : m'.kind = m.kind)
    (hregistered : m'.registeredNs = m.registeredNs) (hcount : m'.updateCount = m.updateCount)
    (htime : m'.lastUpdateNs = m.lastUpdateNs)
    (hvalue : ∀ changes, m.value.Accounts changes → m'.value.Accounts changes) :
    m'.Records entries := by
  obtain ⟨updates, hentries, hc, ht, haccounts⟩ := h
  refine ⟨updates, ?_, hcount.trans hc, htime.trans ht, hvalue _ haccounts⟩
  rw [hkind, hregistered, hentries]

end Metric

namespace Registry

variable {r r' : Registry} {j : Journal}

theorem Journal.of_append (j : Journal) (entry : MetricId × MetricEvent) (id : MetricId) :
    Journal.of (j ++ [entry]) id = j.of id ++ if entry.1 = id then [entry.2] else [] := by
  by_cases h : entry.1 = id <;> simp [Journal.of, h]

/-- A step without an entry that leaves what every metric records as it was. -/
theorem Tracks.of_map (h : r.Tracks j) (f : MetricId → Metric → Metric)
    (hfind : ∀ id, r'.find? id = (r.find? id).map (f id))
    (hf : ∀ id m entries, m.Records entries → (f id m).Records entries) : r'.Tracks j := by
  intro id
  have hid := h id
  rw [hfind]
  cases hm : r.find? id with
  | none => simpa [hm] using hid
  | some m =>
    rw [hm] at hid
    exact hf id m _ hid

theorem Tracks.of_metrics_eq (h : r.Tracks j) (hmetrics : r'.metrics = r.metrics) :
    r'.Tracks j := by
  refine h.of_map (fun _ m => m) (fun id => ?_) (fun _ _ _ hm => hm)
  rw [find?_of_metrics_eq hmetrics, Option.map_id']

theorem Tracks.modify (h : r.Tracks j) (id : MetricId) (f : Metric → Metric)
    (hf : ∀ m entries, m.Records entries → (f m).Records entries) : (r.modify id f).Tracks j := by
  refine h.of_map (fun other => if other = id then f else fun m => m) (fun other => ?_) ?_
  · rw [find?_modify]
    by_cases heq : other = id <;> simp [heq]
  · intro other m entries hm
    by_cases heq : other = id
    · simpa [heq] using hf m entries hm
    · simpa [heq] using hm

theorem Tracks.register (h : r.Tracks j) {name description : String} {kind : MetricKind}
    {subsystem : Subsystem} {nowNs : Nat} {new : MetricId}
    (hok : r.register name description kind subsystem nowNs = .ok (new, r')) :
    r'.Tracks (j ++ [(new, .registered kind nowNs)]) := by
  intro id
  obtain ⟨hfresh, hfind⟩ := find?_register hok id
  rw [hfind, Journal.of_append]
  by_cases heq : id = new
  · subst heq
    have hnone := h id
    rw [hfresh] at hnone
    simp only [hnone, if_true, List.nil_append]
    exact Metric.records_new
  · have hid := h id
    simp only [if_neg heq, if_neg (Ne.symm heq), List.append_nil]
    exact hid

theorem Tracks.change (h : r.Tracks j) {id : MetricId} {c : Change} {nowNs : Nat}
    (hok : r.change id c nowNs = .ok r') : r'.Tracks (j ++ [(id, .updated c nowNs)]) := by
  obtain ⟨m, value, hm, -, happly, hmetrics⟩ := change_ok hok
  intro other
  have hother := h other
  rw [find?_of_metrics_eq hmetrics, find?_modify, Journal.of_append]
  by_cases heq : other = id
  · subst heq
    rw [hm] at hother
    simp only [if_true, hm, Option.map_some]
    exact hother.updated happly nowNs
  · simp only [if_neg heq, if_neg (Ne.symm heq), List.append_nil]
    exact hother

theorem Tracks.perform (h : r.Tracks j) (c : RegistryCall) :
    (r.perform c).2.Tracks (j ++ (r.perform c).1.toList) := by
  cases c with
  | register name description kind subsystem nowNs =>
    cases hok : r.register name description kind subsystem nowNs with
    | error e => simpa [Registry.perform, hok] using h
    | ok answer => simpa [Registry.perform, hok] using h.register hok
  | update id c nowNs =>
    cases hok : r.change id c nowNs with
    | error e => simpa [Registry.perform, hok] using h
    | ok answer => simpa [Registry.perform, hok] using h.change hok
  | setEnabled id enabled =>
    cases hok : r.setEnabled id enabled with
    | error e => simpa [Registry.perform, hok] using h
    | ok answer =>
      obtain ⟨m, -, hmodify⟩ := bind_eq_ok hok
      cases hmodify
      simp only [Registry.perform, hok, Option.toList_none, List.append_nil]
      exact h.modify id _ fun m entries hm => hm.of_eq rfl rfl rfl rfl fun _ hv => hv
  | rollRates nowNs =>
    simp only [Registry.perform, Option.toList_none, List.append_nil]
    refine h.of_map _ (find?_rollRates r nowNs) fun _ m entries hm => ?_
    exact hm.of_eq (MetricValue.kind_roll _ _) rfl rfl rfl fun _ hv => hv.roll nowNs
  | takePending =>
    simp only [Registry.perform, Option.toList_none, List.append_nil]
    exact h.of_metrics_eq rfl
  | setPolicy policy =>
    simp only [Registry.perform, Option.toList_none, List.append_nil]
    exact h.of_metrics_eq rfl
  | noteOverhead id overheadNs =>
    simp only [Registry.perform, Option.toList_none, List.append_nil]
    exact h.modify id _ fun m entries hm => hm.of_eq rfl rfl rfl rfl fun _ hv => hv

theorem Tracks.run (h : r.Tracks j) (calls : List RegistryCall) :
    (r.run calls).2.Tracks (j ++ (r.run calls).1) := by
  induction calls generalizing r j with
  | nil => simpa [Registry.run] using h
  | cons c rest ih =>
    have hrest := ih (h.perform c)
    rwa [List.append_assoc] at hrest

theorem run_append (r : Registry) (calls more : List RegistryCall) :
    r.run (calls ++ more) =
      ((r.run calls).1 ++ ((r.run calls).2.run more).1, ((r.run calls).2.run more).2) := by
  induction calls generalizing r with
  | nil => rfl
  | cons c rest ih => simp [Registry.run, ih]

theorem Journal.of_append_journal (j more : Journal) (id : MetricId) :
    Journal.of (j ++ more) id = j.of id ++ more.of id := by
  simp [Journal.of]

/-- A total that a metric has once is there after any later entries, and has not gone down. -/
theorem Tracks.total_mono (h : r.Tracks j) {more : Journal} (hlater : r'.Tracks (j ++ more))
    {id : MetricId} {m : Metric} (hm : r.find? id = some m) {total : Nat}
    (htotal : m.value.total? = some total) :
    ∃ m' later, r'.find? id = some m' ∧ m'.value.total? = some later ∧ total ≤ later := by
  have hid := h id
  have hid' := hlater id
  simp only [hm] at hid
  obtain ⟨updates, hentries, -, -, haccounts⟩ := hid
  rw [Journal.of_append_journal, hentries] at hid'
  cases hm' : r'.find? id with
  | none => simp [hm'] at hid'
  | some m' =>
    simp only [hm'] at hid'
    obtain ⟨updates', hentries', -, -, haccounts'⟩ := hid'
    simp only [List.cons_append, List.cons.injEq, MetricEvent.registered.injEq] at hentries'
    obtain ⟨⟨hkind, -⟩, hupdates⟩ := hentries'
    have hsome : m'.value.total?.isSome = true := by
      rw [MetricValue.isSome_total?, show m'.value.kind = m.value.kind from hkind.symm,
        ← MetricValue.isSome_total?, htotal]
      rfl
    obtain ⟨later, hlater⟩ := Option.isSome_iff_exists.1 hsome
    refine ⟨m', later, rfl, hlater, ?_⟩
    have hprefix : updates.map (·.1) <+: updates'.map (·.1) := by
      have hevents : updates.map (fun u => MetricEvent.updated u.1 u.2) <+:
          updates'.map fun u => MetricEvent.updated u.1 u.2 := ⟨_, hupdates⟩
      have hinj : Function.Injective fun u : Change × Nat => MetricEvent.updated u.1 u.2 := by
        rintro ⟨c, t⟩ ⟨c', t'⟩ heq
        cases heq
        rfl
      exact ((List.prefix_map_iff_of_injective hinj).1 hevents).map _
    obtain ⟨rest, hrest⟩ := hprefix
    have hlaterTotal := haccounts'.isTotal hlater
    rw [← hrest] at hlaterTotal
    exact (haccounts.isTotal htotal).le_of_append hlaterTotal

/-- Every metric is the fold of the updates on it that succeeded: whatever calls are made on a new
registry, a number without a metric has no entry in the journal, and a metric records its own
entries, kind by kind. The count of updates is that of a timer or a histogram, and the total of a
counter or a rate does not go down in any continuation of the run. -/
theorem metric_records_its_history (capacity : Nat) (policy : Anomaly.Policy)
    (calls : List RegistryCall) (id : MetricId) :
    match (run { capacity, policy } calls).2.find? id with
    | none => Journal.of (run { capacity, policy } calls).1 id = []
    | some m =>
      m.Records (Journal.of (run { capacity, policy } calls).1 id) ∧
      (∀ t, m.value = .timer t → t.calls = m.updateCount) ∧
      (∀ h, m.value = .histogram h → h.count = m.updateCount) ∧
      ∀ total, m.value.total? = some total → ∀ more : List RegistryCall,
        ∃ m' later, (run { capacity, policy } (calls ++ more)).2.find? id = some m' ∧
          m'.value.total? = some later ∧ total ≤ later := by
  have hempty : Tracks { capacity, policy } [] := by
    intro id
    simp [find?, Journal.of]
  have htracks := hempty.run calls
  simp only [List.nil_append] at htracks
  have hid := htracks id
  cases hm : (run { capacity, policy } calls).2.find? id with
  | none => simpa only [hm] using hid
  | some m =>
    simp only [hm] at hid
    refine ⟨hid, ?_, ?_, ?_⟩
    · intro t ht
      obtain ⟨updates, -, hcount, -, haccounts⟩ := hid
      rw [ht] at haccounts
      obtain ⟨durations, hdurations, hstats⟩ := haccounts
      have hlength := congrArg List.length hdurations
      simp only [List.length_map] at hlength
      simp [hstats.calls_eq, hcount, hlength]
    · intro h hh
      obtain ⟨updates, -, hcount, -, haccounts⟩ := hid
      rw [hh] at haccounts
      obtain ⟨samples, hsamples, hstats⟩ := haccounts
      have hlength := congrArg List.length hsamples
      simp only [List.length_map] at hlength
      simp [hstats.count_eq, hcount, hlength]
    · intro total htotal more
      rw [run_append]
      exact htracks.total_mono (htracks.run more) hm htotal

end Registry

end DriverTelemetry
