import DriverTelemetry.Proofs.BoundedWriting
import DriverTelemetry.Proofs.MetricHistory

/-!
# The identity of metrics

What a metric was registered as, it stays. `Registry.registrations` lists the registrations that the
calls of a run have been granted, and `Registry.Lists` says that a registry holds just these, each
under its place in the list. A call changes the metric that it addresses and no other, but for the
windows of rates; so every call keeps the list, or adds to its end.
-/

namespace DriverTelemetry

/-- What a metric is registered with. -/
structure Registration where
  name : String
  description : String
  kind : MetricKind
  subsystem : Subsystem
  nowNs : Nat

/-- The metric that a registration enters into a registry. -/
def Registration.entered (x : Registration) (id : MetricId) : Metric where
  id
  name := .ofString x.name
  description := .ofString x.description
  subsystem := x.subsystem
  registeredNs := x.nowNs
  value := .initial x.kind x.nowNs

/-- A metric that is what it was registered as. -/
structure Registration.Describes (x : Registration) (m : Metric) : Prop where
  name : Utf8.LongestPrefix 64 x.name.toList m.name.text.toList
  description : Utf8.LongestPrefix 128 x.description.toList m.description.text.toList
  kind_eq : m.kind = x.kind
  subsystem_eq : m.subsystem = x.subsystem
  registeredNs_eq : m.registeredNs = x.nowNs

theorem Registration.describes_entered (x : Registration) (id : MetricId) :
    x.Describes (x.entered id) where
  name := BoundedText.longestPrefix_ofString x.name
  description := BoundedText.longestPrefix_ofString x.description
  kind_eq := MetricValue.kind_initial x.kind x.nowNs
  subsystem_eq := rfl
  registeredNs_eq := rfl

/-- Rolling leaves a value as it is, unless it has a window, and then the total. -/
theorem MetricValue.roll_cases (v : MetricValue) (nowNs : Nat) :
    v.roll nowNs = v ∨ ∃ w w', v = .rate w ∧ w'.total = w.total ∧ v.roll nowNs = .rate w' := by
  cases v with
  | rate w =>
    refine .inr ⟨w, w.roll nowNs, rfl, ?_, rfl⟩
    unfold RateWindow.roll
    split
    · rfl
    · rfl
  | _ => exact .inl rfl

namespace Metric

/-- A metric that differs from another at most in the window of its rate. -/
def SameButWindow (m m' : Metric) : Prop :=
  m' = m ∨ ∃ w w', m.value = .rate w ∧ w'.total = w.total ∧ m' = { m with value := .rate w' }

/-- What a metric has been registered as, and under which number. -/
def identity (m : Metric) : MetricId × Name × Description × MetricKind × Subsystem × Nat :=
  (m.id, m.name, m.description, m.kind, m.subsystem, m.registeredNs)

theorem identity_of_kind_eq (m : Metric) (enabled : Bool)
    (lastUpdateNs updateCount overheadNs : Nat) {value : MetricValue}
    (h : value.kind = m.value.kind) :
    { m with enabled, lastUpdateNs, updateCount, overheadNs, value : Metric }.identity =
      m.identity := by
  simp only [identity, kind, h]

theorem id_eq_of_identity_eq {m m' : Metric} (h : m'.identity = m.identity) : m'.id = m.id :=
  congrArg Prod.fst h

theorem sameButWindow_roll (m : Metric) (nowNs : Nat) :
    m.SameButWindow { m with value := m.value.roll nowNs } := by
  obtain hvalue | ⟨w, w', hw, htotal, hvalue⟩ := m.value.roll_cases nowNs
  · exact .inl (by rw [hvalue])
  · exact .inr ⟨w, w', hw, htotal, by rw [hvalue]⟩

end Metric

theorem Registration.Describes.of_identity_eq {x : Registration} {m m' : Metric}
    (hx : x.Describes m) (h : m'.identity = m.identity) : x.Describes m' := by
  obtain ⟨-, hname, hdescription, hkind, hsubsystem, hregistered⟩ := by
    simpa only [Metric.identity, Prod.mk.injEq] using h
  refine ⟨?_, ?_, hkind.trans hx.kind_eq, hsubsystem.trans hx.subsystem_eq,
    hregistered.trans hx.registeredNs_eq⟩
  · rw [hname]
    exact hx.name
  · rw [hdescription]
    exact hx.description

/-- The number of the metric that a call addresses. -/
def RegistryCall.addressee? : RegistryCall → Option MetricId
  | update id _ _ | setEnabled id _ | noteOverhead id _ => some id
  | _ => none

/-- Whether a call may close the windows of rates. -/
def RegistryCall.rolls : RegistryCall → Bool
  | rollRates _ => true
  | _ => false

namespace Registry

variable {r r' : Registry} {id : MetricId} {m : Metric}

theorem get_eq (r : Registry) (id : MetricId) :
    r.get id = match r.find? id with | some m => .ok m | none => .error .notFound := rfl

/-- Numbers are the places of the metrics, counted from 1. -/
theorem find?_place (r : Registry) (i : Nat) : r.find? ⟨i + 1⟩ = r.metrics[i]? := by
  rw [find?, if_neg (Nat.succ_ne_zero i), Nat.add_sub_cancel]

theorem register_eq (r : Registry) (x : Registration) :
    r.register x.name x.description x.kind x.subsystem x.nowNs =
      if x.name.isEmpty then .error (.invalidParam "metric name")
      else if r.capacity ≤ r.metrics.length then .error (.capacityExhausted .metrics)
      else
        .ok (⟨r.metrics.length + 1⟩,
          { r with metrics := r.metrics ++ [x.entered ⟨r.metrics.length + 1⟩] }) :=
  rfl

theorem register_ok {x : Registration}
    (h : r.register x.name x.description x.kind x.subsystem x.nowNs = .ok (id, r')) :
    id = ⟨r.metrics.length + 1⟩ ∧ r' = { r with metrics := r.metrics ++ [x.entered id] } := by
  rw [register_eq] at h
  split at h
  · cases h
  · split at h
    · cases h
    · cases h
      exact ⟨rfl, rfl⟩

theorem find?_modify_of_ne (f : Metric → Metric) {other : MetricId} (h : other ≠ id) :
    (r.modify id f).find? other = r.find? other := by
  rw [find?_modify, if_neg h]

/-- A call leaves the metrics alone that it does not address, but for the windows of rates. -/
theorem find?_perform_of_ne {c : RegistryCall} (hid : c.addressee? ≠ some id)
    (hrolls : c.rolls = false) (hm : r.find? id = some m) : (r.perform c).2.find? id = some m := by
  cases c with
  | register name description kind subsystem nowNs =>
    cases hok : r.register name description kind subsystem nowNs with
    | error e => simpa only [perform, hok] using hm
    | ok answer =>
      obtain ⟨hfresh, hfind⟩ := find?_register hok id
      have hne : id ≠ answer.1 := by
        rintro rfl
        rw [hfresh] at hm
        cases hm
      simp only [perform, hok]
      rw [hfind, if_neg hne, hm]
  | update other change nowNs =>
    have hne : id ≠ other := fun heq => hid (congrArg some heq.symm)
    cases hok : r.change other change nowNs with
    | error e => simpa only [perform, hok] using hm
    | ok after =>
      obtain ⟨-, value, -, -, -, hmetrics⟩ := change_ok hok
      simp only [perform, hok]
      rw [find?_of_metrics_eq hmetrics, find?_modify_of_ne _ hne, hm]
  | setEnabled other enabled =>
    have hne : id ≠ other := fun heq => hid (congrArg some heq.symm)
    cases hok : r.setEnabled other enabled with
    | error e => simpa only [perform, hok] using hm
    | ok after =>
      obtain ⟨-, -, hmodify⟩ := bind_eq_ok hok
      cases hmodify
      simp only [perform, hok]
      rw [find?_modify_of_ne _ hne, hm]
  | rollRates nowNs => cases hrolls
  | takePending | setPolicy policy => exact hm
  | noteOverhead other overheadNs =>
    have hne : id ≠ other := fun heq => hid (congrArg some heq.symm)
    exact (find?_modify_of_ne _ hne).trans hm

/-- Whatever a call does to a metric, it stays what it was registered as. -/
theorem identity_perform (c : RegistryCall) (hm : r.find? id = some m) :
    ∃ m', (r.perform c).2.find? id = some m' ∧ m'.identity = m.identity := by
  by_cases haddressed : c.addressee? = some id
  · cases c with
    | update other change nowNs =>
      cases haddressed
      cases hok : r.change id change nowNs with
      | error e => exact ⟨m, by simpa only [perform, hok] using hm, rfl⟩
      | ok after =>
        obtain ⟨before, value, hbefore, -, hvalue, hmetrics⟩ := change_ok hok
        cases hm.symm.trans hbefore
        simp only [perform, hok]
        rw [find?_of_metrics_eq hmetrics, find?_modify, if_pos rfl, hm]
        exact ⟨_, rfl, m.identity_of_kind_eq _ _ _ _ (MetricValue.kind_of_apply? hvalue)⟩
    | setEnabled other enabled =>
      cases haddressed
      cases hok : r.setEnabled id enabled with
      | error e => exact ⟨m, by simpa only [perform, hok] using hm, rfl⟩
      | ok after =>
        obtain ⟨-, -, hmodify⟩ := bind_eq_ok hok
        cases hmodify
        simp only [perform, hok]
        rw [find?_modify, if_pos rfl, hm]
        exact ⟨_, rfl, m.identity_of_kind_eq _ _ _ _ rfl⟩
    | noteOverhead other overheadNs =>
      cases haddressed
      simp only [perform, noteOverhead]
      rw [find?_modify, if_pos rfl, hm]
      exact ⟨_, rfl, m.identity_of_kind_eq _ _ _ _ rfl⟩
    | _ => cases haddressed
  · cases hrolls : c.rolls with
    | false => exact ⟨m, find?_perform_of_ne haddressed hrolls hm, rfl⟩
    | true =>
      cases c with
      | rollRates nowNs =>
        simp only [perform]
        rw [find?_rollRates, hm]
        exact ⟨_, rfl, m.identity_of_kind_eq _ _ _ _ (MetricValue.kind_roll _ _)⟩
      | _ => cases hrolls

/-- The registration that a call is granted, with the number that it is answered. -/
def granted? (r : Registry) : RegistryCall → Option (MetricId × Registration)
  | .register name description kind subsystem nowNs =>
    match r.register name description kind subsystem nowNs with
    | .ok (id, _) => some (id, { name, description, kind, subsystem, nowNs })
    | .error _ => none
  | _ => none

/-- The registrations that calls made one after the other are granted, in order. -/
def registrations : Registry → List RegistryCall → List (MetricId × Registration)
  | _, [] => []
  | r, c :: rest => (r.granted? c).toList ++ registrations (r.perform c).2 rest

/-- A registry that holds the metrics of a list of registrations and no others, each under its place
in the list. -/
structure Lists (r : Registry) (l : List (MetricId × Registration)) : Prop where
  length_eq : r.metrics.length = l.length
  entry : ∀ i entry, l[i]? = some entry → entry.1 = ⟨i + 1⟩ ∧
    ∃ m, r.find? ⟨i + 1⟩ = some m ∧ m.id = ⟨i + 1⟩ ∧ entry.2.Describes m

variable {l : List (MetricId × Registration)}

theorem lists_new (capacity : Nat) (policy : Anomaly.Policy) : Lists { capacity, policy } [] where
  length_eq := rfl
  entry i entry h := by simp at h

/-- Numbers that have not been given out are never found. -/
theorem Lists.find?_eq_none (h : r.Lists l) (hid : id.number = 0 ∨ l.length < id.number) :
    r.find? id = none := by
  unfold find?
  split
  · rfl
  · rw [List.getElem?_eq_none]
    have hlength := h.length_eq
    omega

/-- What a call of another sort than a registration keeps. -/
theorem Lists.of_identity (h : r.Lists l) (hlength : r'.metrics.length = r.metrics.length)
    (hkept : ∀ id m, r.find? id = some m → ∃ m', r'.find? id = some m' ∧ m'.identity = m.identity) :
    r'.Lists l where
  length_eq := hlength.trans h.length_eq
  entry i entry hentry := by
    obtain ⟨hnumber, m, hm, hid, hdescribes⟩ := h.entry i entry hentry
    obtain ⟨m', hm', hsame⟩ := hkept _ m hm
    exact ⟨hnumber, m', hm', (Metric.id_eq_of_identity_eq hsame).trans hid,
      hdescribes.of_identity_eq hsame⟩

theorem Lists.register (h : r.Lists l) (x : Registration)
    (hok : r.register x.name x.description x.kind x.subsystem x.nowNs = .ok (id, r')) :
    r'.Lists (l ++ [(id, x)]) := by
  obtain ⟨hnew, rfl⟩ := register_ok hok
  have hlength := h.length_eq
  refine ⟨by simp [hlength], fun i entry hentry => ?_⟩
  rw [find?_append]
  rw [List.getElem?_append] at hentry
  -- the entries that were there, and the new one at the end
  split at hentry
  · rename_i hlt
    obtain ⟨hnumber, m, hm, hrest⟩ := h.entry i entry hentry
    have hne : (⟨i + 1⟩ : MetricId) ≠ ⟨r.metrics.length + 1⟩ := by simp; omega
    exact ⟨hnumber, m, by rw [if_neg hne, hm], hrest⟩
  · obtain ⟨hi, rfl⟩ : i - l.length = 0 ∧ entry = (id, x) := by
      rw [List.getElem?_singleton] at hentry
      split at hentry
      · rename_i hi
        exact ⟨hi, (Option.some.inj hentry).symm⟩
      · cases hentry
    obtain rfl : i = r.metrics.length := by omega
    exact ⟨hnew, _, if_pos rfl, hnew, x.describes_entered id⟩

/-- How many metrics a registry has room for, and how many it holds. -/
def extent (r : Registry) : Nat × Nat := (r.capacity, r.metrics.length)

theorem extent_modify (r : Registry) (id : MetricId) (f : Metric → Metric) :
    (r.modify id f).extent = r.extent := by
  unfold modify
  split
  · rfl
  · simp only [extent, List.length_modify]

theorem extent_enqueue? (r : Registry) (v : Option Anomaly.Verdict) :
    (r.enqueue? v).extent = r.extent := by
  cases v with
  | none => rfl
  | some v =>
    simp only [enqueue?, enqueue]
    split
    · rfl
    · rfl

/-- A call makes no room, and it adds a metric if it is granted a registration, else none. -/
theorem extent_perform (r : Registry) (c : RegistryCall) :
    (r.perform c).2.extent = (r.capacity, r.metrics.length + (r.granted? c).toList.length) := by
  cases c with
  | register name description kind subsystem nowNs =>
    cases hok : r.register name description kind subsystem nowNs with
    | error e => simp [Registry.perform, granted?, hok, extent]
    | ok answer =>
      obtain ⟨-, hr⟩ := register_ok (x := ⟨name, description, kind, subsystem, nowNs⟩) hok
      simp [Registry.perform, granted?, hok, hr, extent]
  | update other change nowNs =>
    cases hok : r.change other change nowNs with
    | error e => simp [Registry.perform, granted?, hok, extent]
    | ok after =>
      obtain ⟨before, updated, v, hupdate, rfl⟩ := update_of_change hok
      obtain ⟨-, -, value, -, rfl⟩ := update_ok hupdate
      simp only [Registry.perform, hok, extent_enqueue?, extent_modify]
      rfl
  | setEnabled other enabled =>
    cases hok : r.setEnabled other enabled with
    | error e => simp [Registry.perform, granted?, hok, extent]
    | ok after =>
      obtain ⟨-, -, hmodify⟩ := bind_eq_ok hok
      cases hmodify
      simp only [Registry.perform, hok, extent_modify]
      rfl
  | rollRates nowNs => simp [Registry.perform, granted?, rollRates, extent]
  | takePending | setPolicy policy => rfl
  | noteOverhead other overheadNs =>
    simp only [Registry.perform, noteOverhead, extent_modify]
    rfl

theorem Lists.perform (h : r.Lists l) (c : RegistryCall) :
    (r.perform c).2.Lists (l ++ (r.granted? c).toList) := by
  cases hgranted : r.granted? c with
  | none =>
    have hlength := congrArg Prod.snd (r.extent_perform c)
    rw [hgranted] at hlength
    rw [Option.toList_none, List.append_nil]
    exact h.of_identity hlength fun _ _ => identity_perform c
  | some entry =>
    cases c with
    | register name description kind subsystem nowNs =>
      cases hok : r.register name description kind subsystem nowNs with
      | error e => simp [granted?, hok] at hgranted
      | ok answer =>
        simp only [granted?, hok, Option.some.injEq] at hgranted
        simp only [Registry.perform, hok, ← hgranted]
        exact h.register ⟨name, description, kind, subsystem, nowNs⟩ hok
    | _ => cases hgranted

theorem Lists.run (h : r.Lists l) (calls : List RegistryCall) :
    (r.run calls).2.Lists (l ++ r.registrations calls) := by
  induction calls generalizing r l with
  | nil => simpa [Registry.run, registrations] using h
  | cons c rest ih =>
    have hrest := ih (h.perform c)
    rwa [List.append_assoc] at hrest

theorem capacity_run (r : Registry) (calls : List RegistryCall) :
    (r.run calls).2.capacity = r.capacity := by
  induction calls generalizing r with
  | nil => rfl
  | cons c rest ih => exact (ih _).trans (congrArg Prod.fst (r.extent_perform c))

/-- What a registry answers to a registration: it refuses an empty name, and any once it holds as
many metrics as it has room for. -/
theorem register_answer (r : Registry) (x : Registration) :
    (r.register x.name x.description x.kind x.subsystem x.nowNs).map (·.1) =
      if x.name.isEmpty then .error (.invalidParam "metric name")
      else if r.metrics.length < r.capacity then .ok ⟨r.metrics.length + 1⟩
      else .error (.capacityExhausted .metrics) := by
  rw [register_eq]
  by_cases hname : x.name.isEmpty = true
  · rw [if_pos hname, if_pos hname]
    rfl
  · rw [if_neg hname, if_neg hname]
    by_cases hfull : r.capacity ≤ r.metrics.length
    · rw [if_pos hfull, if_neg (Nat.not_lt.2 hfull)]
      rfl
    · rw [if_neg hfull, if_pos (Nat.not_le.1 hfull)]
      rfl

/-- A call leaves the metrics that it does not address as they are; rolling the rates leaves all
metrics as they are but for the windows of rates. -/
theorem find?_perform_of_addressee?_ne {c : RegistryCall} (hid : c.addressee? ≠ some id)
    (hm : r.find? id = some m) :
    ∃ m', (r.perform c).2.find? id = some m' ∧ m.SameButWindow m' ∧
      (c.rolls = false → m' = m) := by
  cases hrolls : c.rolls with
  | false => exact ⟨m, find?_perform_of_ne hid hrolls hm, .inl rfl, fun _ => rfl⟩
  | true =>
    cases c with
    | rollRates nowNs =>
      refine ⟨_, ?_, m.sameButWindow_roll nowNs, fun h => Bool.noConfusion h⟩
      simp only [perform, find?_rollRates, hm, Option.map_some]
    | _ => cases hrolls

/-- **A metric stays what it was registered as.** After any calls on a new registry, a registration
is granted unless the name is empty or the room is used up, and a refused one changes nothing; the
metrics found are just those of the granted registrations, numbered in order from 1, each with its
kind, its subsystem, its time and the longest prefixes of its texts that fit, whatever calls follow;
and no call changes a metric that it does not address, but for the windows of rates. -/
theorem metrics_keep_identity (capacity : Nat) (policy : Anomaly.Policy)
    (calls : List RegistryCall) :
    let new : Registry := { capacity, policy }
    let r := (new.run calls).2
    let granted := new.registrations calls
    (∀ x : Registration,
      let call := RegistryCall.register x.name x.description x.kind x.subsystem x.nowNs
      let answer := r.register x.name x.description x.kind x.subsystem x.nowNs
      answer.map (·.1) =
        (if x.name.isEmpty then .error (.invalidParam "metric name")
        else if granted.length < capacity then .ok ⟨granted.length + 1⟩
        else .error (.capacityExhausted .metrics)) ∧
      (∀ e, answer = .error e → (r.perform call).2 = r)) ∧
    (∀ i id x, granted[i]? = some (id, x) → id = ⟨i + 1⟩ ∧
      ∀ more, ∃ m, (new.run (calls ++ more)).2.get id = .ok m ∧ m.id = id ∧ x.Describes m) ∧
    (∀ id : MetricId, id.number = 0 ∨ granted.length < id.number → r.get id = .error .notFound) ∧
    ∀ c id m, c.addressee? ≠ some id → r.find? id = some m →
      ∃ m', (r.perform c).2.find? id = some m' ∧ m.SameButWindow m' ∧
        (c.rolls = false → m' = m) := by
  intro new r granted
  have hlists : r.Lists granted := (lists_new capacity policy).run calls
  refine ⟨fun x => ⟨?_, fun e he => ?_⟩, fun i id x hentry => ?_, fun id hid => ?_,
    fun c id m => find?_perform_of_addressee?_ne⟩
  · rw [register_answer, hlists.length_eq, capacity_run]
  · simp only [perform, he]
  · have hid : id = ⟨i + 1⟩ := (hlists.entry i _ hentry).1
    refine ⟨hid, fun more => ?_⟩
    have hlater : (new.run (calls ++ more)).2.Lists (granted ++ r.registrations more) := by
      rw [run_append]
      exact hlists.run more
    have hstill : (granted ++ r.registrations more)[i]? = some (id, x) := by
      rw [List.getElem?_append_left (List.getElem?_eq_some_iff.1 hentry).1, hentry]
    obtain ⟨-, m, hm, hmid, hdescribes⟩ := hlater.entry i _ hstill
    exact ⟨m, by rw [hid, get_eq, hm], hmid.trans hid.symm, hdescribes⟩
  · rw [get_eq, hlists.find?_eq_none hid]

/-- In a full registry a metric that has been switched off is still what it was registered as. -/
theorem metrics_keep_identity_in_full_registry :
    let depth : Registration := ⟨"nvme_queue_depth", "Requests waiting", .gauge, .nvme, 5⟩
    let calls : List RegistryCall :=
      [.register depth.name depth.description depth.kind depth.subsystem depth.nowNs,
        .setEnabled ⟨1⟩ false]
    let r := (run { capacity := 1, policy := {} } calls).2
    (∃ m, r.get ⟨1⟩ = .ok m ∧ depth.Describes m) ∧ r.get ⟨2⟩ = .error .notFound ∧
      (r.register "gpu_load" "" .gauge .gpu 7).map (·.1) =
        .error (.capacityExhausted .metrics) := by
  intro depth calls r
  obtain ⟨hanswer, hkept, hunknown, -⟩ := metrics_keep_identity 1 {} calls
  obtain ⟨-, hlater⟩ := hkept 0 ⟨1⟩ depth rfl
  obtain ⟨m, hget, -, hdescribes⟩ := hlater []
  exact ⟨⟨m, hget, hdescribes⟩, hunknown ⟨2⟩ (.inr (by decide)),
    (hanswer ⟨"gpu_load", "", .gauge, .gpu, 7⟩).1⟩

end Registry

end DriverTelemetry
