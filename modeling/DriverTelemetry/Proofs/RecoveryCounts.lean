import DriverTelemetry.Proofs.GradualRecovery
import DriverTelemetry.Proofs.Restarts

/-!
# The counts of a driver's record

A record counts the failing evaluations in a row, the restarts attempted and those that succeeded.
What these numbers have to be is read off the history of the driver, `HealthTable.history`: the list
of everything that the operations of a run have noted about it. `DriverHealth.Accounts` ties a
record to such a list. An operation keeps the record of a driver and adds nothing to its history, or
it adds what it does to the record to the history as well.
-/

namespace DriverTelemetry

/-- What an operation on the health table can note about a driver. -/
inductive HealthNote where
  | registered (threshold : Nat)
  | evaluated (eval : Evaluation)
  | restarted
  | givenUp (attemptedRestart : Bool)
  | policySet (threshold : Nat)
  deriving DecidableEq

namespace HealthNote

/-- Whether it is a failing evaluation: one that ends in `Critical` or `Failed`. -/
def fails : HealthNote → Bool
  | evaluated eval => eval.after.isFailing
  | _ => false

/-- Whether failing evaluations are counted from here on: at the registration of the driver, at an
evaluation that ends better, at a restart, and when the driver is given up. -/
def startsOver : HealthNote → Bool
  | registered _ | restarted | givenUp _ => true
  | evaluated eval => !eval.after.isFailing
  | policySet _ => false

/-- The threshold that is in force from here on, if it is set here. -/
def threshold? : HealthNote → Option Nat
  | registered threshold | policySet threshold => some threshold
  | _ => none

/-- The number of failing evaluations since the counting last started over. -/
def failingRun (notes : List HealthNote) : Nat :=
  (notes.reverse.takeWhile (!·.startsOver)).countP (·.fails)

/-- The threshold in force after everything that has been noted. -/
def inForce? (notes : List HealthNote) : Option Nat := notes.reverse.findSome? (·.threshold?)

variable (notes : List HealthNote) (n : HealthNote)

theorem failingRun_concat : failingRun (notes ++ [n]) =
    if n.startsOver then 0 else failingRun notes + if n.fails then 1 else 0 := by
  unfold failingRun
  rw [List.reverse_concat]
  cases h : n.startsOver with
  | true => simp [h]
  | false => simp [h, List.countP_cons]

theorem inForce?_concat : inForce? (notes ++ [n]) = n.threshold?.or (inForce? notes) := by
  unfold inForce?
  rw [List.reverse_concat, List.findSome?_cons]
  cases n.threshold? with
  | none => rfl
  | some threshold => rfl

end HealthNote

/-- An operation on a table in use: it registers no driver with the threshold 0, and does not
release the table. -/
def HealthCall.InUse : HealthCall → Prop
  | register _ _ _ _ threshold _ => 1 ≤ threshold
  | release => False
  | _ => True

namespace HealthTable

/-- Whether an operation succeeds. -/
def accepts (t : HealthTable) : HealthCall → Bool
  | .register name handle readings auto threshold nowNs =>
    (t.register name handle readings auto threshold nowNs).isOk
  | .apply id readings nowNs => (t.apply id readings nowNs).isOk
  | .recordRestart id => (t.recordRestart id).isOk
  | .markFailed id nowNs attemptedRestart => (t.markFailed id nowNs attemptedRestart).isOk
  | .setAutoRecovery id auto threshold => (t.setAutoRecovery id auto threshold).isOk
  | .noteLeak _ | .setAlerts _ | .release => true

/-- What an operation on a driver notes about it. One that fails notes nothing. -/
def note? (t : HealthTable) : HealthCall → Option HealthNote
  | .apply id readings nowNs =>
    (t.apply id readings nowNs).toOption.map fun answer => .evaluated answer.1
  | .recordRestart id => (t.recordRestart id).toOption.map fun _ => .restarted
  | .markFailed id nowNs attemptedRestart =>
    (t.markFailed id nowNs attemptedRestart).toOption.map fun _ => .givenUp attemptedRestart
  | .setAutoRecovery id auto threshold =>
    (t.setAutoRecovery id auto threshold).toOption.map fun _ => .policySet threshold
  | .register .. | .noteLeak _ | .setAlerts _ | .release => none

/-- What an operation notes about a driver, which it registers or addresses. -/
def notesOn (t : HealthTable) (id : DriverId) : HealthCall → List HealthNote
  | .register name handle readings auto threshold nowNs =>
    match t.register name handle readings auto threshold nowNs with
    | .ok (eval, _) => if eval.id = id then [.registered threshold, .evaluated eval] else []
    | .error _ => []
  | c => if c.target? = some id then (t.note? c).toList else []

/-- Everything that the operations of a run note about a driver. -/
def history (t : HealthTable) (id : DriverId) : List HealthCall → List HealthNote
  | [] => []
  | c :: rest => t.notesOn id c ++ (t.perform c).history id rest

theorem history_concat (t : HealthTable) (id : DriverId) (calls : List HealthCall)
    (c : HealthCall) :
    t.history id (calls ++ [c]) = t.history id calls ++ (t.after calls).notesOn id c := by
  induction calls generalizing t with
  | nil => exact List.append_nil _
  | cons first rest ih =>
    rw [List.cons_append, history, ih, history, List.append_assoc]
    rfl

end HealthTable

/-- A record that has the counts and the threshold of a history. -/
structure DriverHealth.Accounts (notes : List HealthNote) (d : DriverHealth) : Prop where
  failures_eq : d.recovery.failures = HealthNote.failingRun notes
  recoveries_eq : d.recovery.recoveries = notes.count .restarted
  restarts_eq : d.recovery.restarts = d.recovery.recoveries + notes.count (.givenUp true)
  inForce_eq : HealthNote.inForce? notes = some d.recovery.threshold
  threshold_pos : 1 ≤ d.recovery.threshold

/-- An evaluation that reports what a history says up to and including it: the count of failing
evaluations, and that recovery is due if it ends in `Critical` with that count at the threshold in
force. -/
structure Evaluation.Reports (notes : List HealthNote) (e : Evaluation) : Prop where
  failures_eq : e.failures = HealthNote.failingRun notes
  recoveryDue_iff : e.recoveryDue = true ↔
    e.after = .critical ∧ ∃ threshold, HealthNote.inForce? notes = some threshold ∧
      threshold ≤ HealthNote.failingRun notes

namespace DriverHealth.Accounts

open HealthNote

variable {notes : List HealthNote} {d : DriverHealth}

theorem evaluated (h : d.Accounts notes) (r : DriverReadings) (alerts : AlertThresholds)
    (nowNs : Nat) :
    (d.evaluated r alerts nowNs).Accounts
      (notes ++ [.evaluated ((d.evaluated r alerts nowNs).outcome d.status)]) where
  failures_eq := by
    let after := (d.evaluated r alerts nowNs).status
    change (if after.isFailing then d.recovery.failures + 1 else 0) = _
    rw [failingRun_concat, h.failures_eq]
    change _ = if !after.isFailing then 0 else _ + if after.isFailing then 1 else 0
    cases after.isFailing with
    | true => rfl
    | false => rfl
  recoveries_eq := by
    rw [List.count_append, List.count_singleton]
    exact h.recoveries_eq
  restarts_eq := by
    rw [List.count_append, List.count_singleton]
    exact h.restarts_eq
  inForce_eq := by
    rw [inForce?_concat]
    exact h.inForce_eq
  threshold_pos := h.threshold_pos

theorem restarted (h : d.Accounts notes) : d.restarted.Accounts (notes ++ [.restarted]) where
  failures_eq := by
    rw [failingRun_concat]
    rfl
  recoveries_eq := by
    rw [List.count_append, ← h.recoveries_eq]
    rfl
  restarts_eq := by
    rw [List.count_append]
    change d.recovery.restarts + 1 = d.recovery.recoveries + 1 + (_ + 0)
    rw [h.restarts_eq]
    omega
  inForce_eq := by
    rw [inForce?_concat]
    exact h.inForce_eq
  threshold_pos := h.threshold_pos

theorem givenUp (h : d.Accounts notes) (nowNs : Nat) (attemptedRestart : Bool) :
    (d.givenUp nowNs attemptedRestart).Accounts (notes ++ [.givenUp attemptedRestart]) where
  failures_eq := by
    rw [failingRun_concat]
    rfl
  recoveries_eq := by
    rw [List.count_append, List.count_singleton]
    exact h.recoveries_eq
  restarts_eq := by
    rw [List.count_append]
    change (if attemptedRestart then d.recovery.restarts + 1 else d.recovery.restarts) =
      d.recovery.recoveries + _
    rw [h.restarts_eq]
    cases attemptedRestart with
    | true => rfl
    | false => rfl
  inForce_eq := by
    rw [inForce?_concat]
    exact h.inForce_eq
  threshold_pos := h.threshold_pos

theorem policySet (h : d.Accounts notes) (auto : Bool) {threshold : Nat} (hpos : 1 ≤ threshold) :
    DriverHealth.Accounts (notes ++ [.policySet threshold])
      { d with recovery := { d.recovery with auto, threshold } } where
  failures_eq := by
    rw [failingRun_concat]
    exact h.failures_eq
  recoveries_eq := by
    rw [List.count_append, List.count_singleton]
    exact h.recoveries_eq
  restarts_eq := by
    rw [List.count_append, List.count_singleton]
    exact h.restarts_eq
  inForce_eq := by
    rw [inForce?_concat]
    rfl
  threshold_pos := hpos

theorem leakNoted (h : d.Accounts notes) (leaks : Nat) :
    DriverHealth.Accounts notes { d with reliability := { d.reliability with leaks } } :=
  ⟨h.failures_eq, h.recoveries_eq, h.restarts_eq, h.inForce_eq, h.threshold_pos⟩

theorem registered {auto : Bool} {threshold : Nat} (hrecovery : d.recovery = { auto, threshold })
    (hpos : 1 ≤ threshold) : d.Accounts [.registered threshold] := by
  constructor
  · rw [hrecovery]
    rfl
  · rw [hrecovery]
    rfl
  · rw [hrecovery]
    rfl
  · rw [hrecovery]
    rfl
  · rw [hrecovery]
    exact hpos

theorem reports (h : d.Accounts notes) (r : DriverReadings) (alerts : AlertThresholds)
    (nowNs : Nat) :
    let eval := (d.evaluated r alerts nowNs).outcome d.status
    eval.Reports (notes ++ [.evaluated eval]) := by
  intro eval
  have hafter := h.evaluated r alerts nowNs
  have hforce : inForce? (notes ++ [.evaluated eval]) = some d.recovery.threshold :=
    hafter.inForce_eq
  refine ⟨hafter.failures_eq, ?_⟩
  rw [DriverHealth.recoveryDue_iff h.threshold_pos, hforce, ← hafter.failures_eq]
  refine and_congr_right fun hcritical => ?_
  have hcounted : (d.evaluated r alerts nowNs).recovery.failures = d.recovery.failures + 1 := by
    change (if (d.evaluated r alerts nowNs).status.isFailing then _ else _) = _
    rw [hcritical]
    rfl
  -- the threshold is compared with the count that includes this evaluation
  rw [hcounted]
  simp only [Option.some.injEq, exists_eq_left']

end DriverHealth.Accounts

/-- What an operation does to the record of a registered driver, unless it is refused: what it notes
and the record that it leaves. -/
inductive HealthCall.Does (alerts : AlertThresholds) (d : DriverHealth) :
    HealthCall → Option HealthNote → DriverHealth → Prop
  | evaluated (id : DriverId) (readings : DriverReadings) (nowNs : Nat) :
      Does alerts d (.apply id readings nowNs)
        (some (.evaluated ((d.evaluated readings alerts nowNs).outcome d.status)))
        (d.evaluated readings alerts nowNs)
  | restarted (id : DriverId) : Does alerts d (.recordRestart id) (some .restarted) d.restarted
  | givenUp (id : DriverId) (nowNs : Nat) (attemptedRestart : Bool) :
      Does alerts d (.markFailed id nowNs attemptedRestart) (some (.givenUp attemptedRestart))
        (d.givenUp nowNs attemptedRestart)
  | policySet (id : DriverId) (auto : Bool) {threshold : Nat} (hpos : 1 ≤ threshold) :
      Does alerts d (.setAutoRecovery id auto threshold) (some (.policySet threshold))
        { d with recovery := { d.recovery with auto, threshold } }
  | leakNoted (id : DriverId) (leaks : Nat) :
      Does alerts d (.noteLeak id) none { d with reliability := { d.reliability with leaks } }

namespace DriverHealth.Accounts

variable {notes : List HealthNote} {alerts : AlertThresholds} {d d' : DriverHealth} {c : HealthCall}

theorem of_does (h : d.Accounts notes) {note : Option HealthNote}
    (hdoes : c.Does alerts d note d') : d'.Accounts (notes ++ note.toList) := by
  cases hdoes with
  | evaluated id readings nowNs => exact h.evaluated readings alerts nowNs
  | restarted id => exact h.restarted
  | givenUp id nowNs attemptedRestart => exact h.givenUp nowNs attemptedRestart
  | policySet id auto hpos => exact h.policySet auto hpos
  | leakNoted id leaks =>
    rw [Option.toList_none, List.append_nil]
    exact h.leakNoted leaks

theorem reports_of_does (h : d.Accounts notes) {eval : Evaluation}
    (hdoes : c.Does alerts d (some (.evaluated eval)) d') :
    eval.Reports (notes ++ [.evaluated eval]) := by
  cases hdoes with
  | evaluated id readings nowNs => exact h.reports readings alerts nowNs

end DriverHealth.Accounts

namespace HealthTable

open HealthNote

/-- A table that has about a driver what a history says: nothing, or a record that accounts for
it. -/
structure Follows (t : HealthTable) (id : DriverId) (notes : List HealthNote) : Prop where
  accounts : ∀ d, t.find? id = some d → d.Accounts notes
  fresh : t.find? id = none → notes = []

variable {t t' : HealthTable} {id other : DriverId} {notes : List HealthNote} {c : HealthCall}

theorem Follows.of_find?_eq (h : t.Follows id notes) (hfind : t'.find? id = t.find? id) :
    t'.Follows id notes where
  accounts := by
    rw [hfind]
    exact h.accounts
  fresh := by
    rw [hfind]
    exact h.fresh

theorem modify_of_unknown (h : t.find? id = none) (f : DriverHealth → DriverHealth) :
    t.modify id f = t := by
  unfold HealthTable.modify
  split
  · rfl
  · rename_i hne
    unfold find? at h
    rw [if_neg hne, List.getElem?_eq_none_iff] at h
    rw [List.modify_eq_self h]

/-- An operation that fails leaves the table as it was. -/
theorem perform_of_not_accepts (h : t.accepts c = false) : t.perform c = t := by
  have hnext {α : Type} {outcome : Except TelemetryError (α × HealthTable)}
      (hfails : outcome.isOk = false) : t.next outcome = t := by
    cases outcome with
    | ok answer => cases hfails
    | error e => rfl
  cases c with
  | register | apply | recordRestart | markFailed => exact hnext h
  | setAutoRecovery id auto threshold =>
    refine hnext ?_
    change (t.setAutoRecovery id auto threshold).isOk = false at h
    cases hset : t.setAutoRecovery id auto threshold with
    | ok t' =>
      rw [hset] at h
      cases h
    | error e => rfl
  | noteLeak | setAlerts | release => cases h

/-- What an operation does on a registered driver. It is refused only if it sets the recovery
threshold to 0. -/
theorem perform_on {d : DriverHealth} (hd : t.find? other = some d)
    (htarget : c.target? = some other) :
    (∃ f, t.perform c = t.modify other f ∧ t.accepts c = true ∧
      c.Does t.alerts d (t.note? c) (f d)) ∨
    (∃ auto, c = .setAutoRecovery other auto 0) ∧ t.perform c = t ∧ t.note? c = none := by
  cases c with
  | register | setAlerts | release => cases htarget
  | noteLeak =>
    cases htarget
    exact .inl ⟨_, rfl, rfl, .leakNoted _ _⟩
  | apply _ readings nowNs =>
    cases htarget
    rw [perform, accepts, note?, apply_ok hd]
    exact .inl ⟨_, rfl, rfl, .evaluated _ readings nowNs⟩
  | recordRestart =>
    cases htarget
    rw [perform, accepts, note?, recordRestart_ok hd]
    exact .inl ⟨_, rfl, rfl, .restarted _⟩
  | markFailed _ nowNs attemptedRestart =>
    cases htarget
    rw [perform, accepts, note?, markFailed_ok hd]
    exact .inl ⟨_, rfl, rfl, .givenUp _ nowNs attemptedRestart⟩
  | setAutoRecovery _ auto threshold =>
    cases htarget
    rw [perform, accepts, note?, setAutoRecovery]
    by_cases hzero : threshold = 0
    · subst hzero
      exact .inr ⟨⟨auto, rfl⟩, rfl, rfl⟩
    · rw [if_neg hzero, get_ok hd]
      exact .inl ⟨_, rfl, rfl, .policySet _ auto (Nat.pos_of_ne_zero hzero)⟩

/-- An operation on a driver that is not registered does nothing. -/
theorem perform_on_unknown (h : t.find? other = none) (htarget : c.target? = some other) :
    t.perform c = t ∧ t.note? c = none := by
  cases c with
  | register | setAlerts | release => cases htarget
  | noteLeak =>
    cases htarget
    exact ⟨modify_of_unknown h _, rfl⟩
  | apply =>
    cases htarget
    rw [perform, note?, apply, get_error h]
    exact ⟨rfl, rfl⟩
  | recordRestart =>
    cases htarget
    rw [perform, note?, recordRestart, get_error h]
    exact ⟨rfl, rfl⟩
  | markFailed =>
    cases htarget
    rw [perform, note?, markFailed, get_error h]
    exact ⟨rfl, rfl⟩
  | setAutoRecovery _ auto threshold =>
    cases htarget
    rw [perform, note?, setAutoRecovery]
    by_cases hzero : threshold = 0
    · rw [if_pos hzero]
      exact ⟨rfl, rfl⟩
    · rw [if_neg hzero, get_error h]
      exact ⟨rfl, rfl⟩

/-- Nothing on a registered driver fails but to set its recovery threshold to 0. -/
theorem eq_setAutoRecovery_of_not_accepts {d : DriverHealth} (hd : t.find? id = some d)
    (htarget : c.target? = some id) (h : t.accepts c = false) :
    ∃ auto, c = .setAutoRecovery id auto 0 := by
  obtain ⟨f, -, haccepts, -⟩ | ⟨hrefused, -⟩ := perform_on hd htarget
  · cases haccepts.symm.trans h
  · exact hrefused

/-- An operation that is not on a driver leaves the record of that driver as it was. -/
theorem find?_perform_of_other {d : DriverHealth} (hd : t.find? id = some d)
    (htarget : c.target? ≠ some id) (hc : c ≠ .release) : (t.perform c).find? id = some d := by
  cases hother : c.target? with
  | some other =>
    have hne : id ≠ other := fun heq => htarget (heq ▸ hother)
    obtain hsame | ⟨f, hmodify⟩ := t.perform_of_target hother
    · rw [hsame, hd]
    · rw [hmodify, find?_modify, if_neg hne, hd]
  | none =>
    cases c with
    | release => exact absurd rfl hc
    | setAlerts alerts => exact hd
    | register name handle readings auto threshold nowNs =>
      rw [perform]
      cases hregister : t.register name handle readings auto threshold nowNs with
      | error e => exact hd
      | ok answer =>
        obtain ⟨eval, t'⟩ := answer
        obtain ⟨new, -, -, -, -, -, -, hfind⟩ := register_entered hregister
        have hne : id ≠ ⟨t.drivers.length + 1⟩ := by
          rintro rfl
          cases hd.symm.trans t.find?_fresh
        change t'.find? id = some d
        rw [hfind, if_neg hne, hd]
    | apply | recordRestart | markFailed | setAutoRecovery | noteLeak => cases hother

/-- A registration begins the history of the new driver. -/
theorem Follows.register (h : t.Follows id notes) (name : String) (handle : HandleRef)
    (readings : DriverReadings) (auto : Bool) {threshold : Nat} (hpos : 1 ≤ threshold)
    (nowNs : Nat) :
    (t.perform (.register name handle readings auto threshold nowNs)).Follows id
      (notes ++ t.notesOn id (.register name handle readings auto threshold nowNs)) := by
  rw [perform, notesOn]
  cases hregister : t.register name handle readings auto threshold nowNs with
  | error e =>
    change t.Follows id (notes ++ [])
    rwa [List.append_nil]
  | ok answer =>
    obtain ⟨eval, t'⟩ := answer
    obtain ⟨d, hid, -, -, hrecovery, -, heval, hfind⟩ := register_entered hregister
    have hreported : eval.id = ⟨t.drivers.length + 1⟩ := by
      rw [heval]
      exact hid
    change t'.Follows id
      (notes ++ if eval.id = id then [.registered threshold, .evaluated eval] else [])
    by_cases hnew : id = ⟨t.drivers.length + 1⟩
    · -- nothing can have been noted under a number before it is given out
      have hfresh : notes = [] := h.fresh (hnew ▸ t.find?_fresh)
      have hfound : t'.find? id = some (d.evaluated readings t.alerts nowNs) := by
        rw [hfind, if_pos hnew]
      rw [if_pos (hreported.trans hnew.symm), hfresh, heval]
      refine ⟨fun d' hd' => ?_, fun hnone => ?_⟩
      · cases hd'.symm.trans hfound
        exact (DriverHealth.Accounts.registered hrecovery hpos).evaluated readings t.alerts nowNs
      · cases hnone.symm.trans hfound
    · rw [if_neg fun heq => hnew (heq.symm.trans hreported), List.append_nil]
      refine h.of_find?_eq ?_
      rw [hfind, if_neg hnew]

theorem notesOn_of_target (t : HealthTable) (id : DriverId) (htarget : c.target? = some other) :
    t.notesOn id c = if other = id then (t.note? c).toList else [] := by
  cases c with
  | register | setAlerts | release => cases htarget
  | apply | recordRestart | markFailed | setAutoRecovery | noteLeak =>
    cases htarget
    simp only [notesOn, HealthCall.target?, Option.some.injEq]

/-- An operation that changes the record of a driver adds what it does to the history of it. -/
theorem Follows.of_target (h : t.Follows id notes) (htarget : c.target? = some other)
    {d : DriverHealth} (hd : t.find? other = some d) {f : DriverHealth → DriverHealth}
    (hrun : t.perform c = t.modify other f)
    (haccounts : d.Accounts notes → (f d).Accounts (notes ++ (t.note? c).toList)) :
    (t.perform c).Follows id (notes ++ t.notesOn id c) := by
  rw [hrun, notesOn_of_target t id htarget]
  by_cases hid : other = id
  · have hfind : (t.modify other f).find? id = some (f d) := hid ▸ find?_modify_of_find? hd f
    rw [if_pos hid]
    refine ⟨fun d' hd' => ?_, fun hnone => ?_⟩
    · cases hd'.symm.trans hfind
      exact haccounts (h.accounts d (hid ▸ hd))
    · cases hnone.symm.trans hfind
  · rw [if_neg hid, List.append_nil]
    refine h.of_find?_eq ?_
    rw [find?_modify, if_neg (Ne.symm hid)]

/-- An operation that does nothing notes nothing. -/
theorem Follows.of_idle (h : t.Follows id notes) (htarget : c.target? = some other)
    (hrun : t.perform c = t) (hnote : t.note? c = none) :
    (t.perform c).Follows id (notes ++ t.notesOn id c) := by
  rw [hrun, notesOn_of_target t id htarget, hnote, Option.toList_none, ite_self, List.append_nil]
  exact h

/-- What an operation does to the record of a registered driver goes into its history. -/
theorem Follows.perform_on (h : t.Follows id notes) (htarget : c.target? = some other)
    {d : DriverHealth} (hd : t.find? other = some d) :
    (t.perform c).Follows id (notes ++ t.notesOn id c) := by
  obtain ⟨f, hrun, -, hdoes⟩ | ⟨-, hrun, hnote⟩ := HealthTable.perform_on hd htarget
  · exact h.of_target htarget hd hrun fun haccounts => haccounts.of_does hdoes
  · exact h.of_idle htarget hrun hnote

/-- What every operation does to the history of a driver. -/
theorem Follows.perform (h : t.Follows id notes) (hc : c.InUse) :
    (t.perform c).Follows id (notes ++ t.notesOn id c) := by
  cases htarget : c.target? with
  | some other =>
    cases hd : t.find? other with
    | some d => exact h.perform_on htarget hd
    | none =>
      obtain ⟨hrun, hnote⟩ := perform_on_unknown hd htarget
      exact h.of_idle htarget hrun hnote
  | none =>
    cases c with
    | release => cases hc
    | register name handle readings auto threshold nowNs => exact h.register _ _ _ _ hc _
    | setAlerts alerts =>
      change (t.setAlerts alerts).Follows id (notes ++ [])
      rw [List.append_nil]
      exact h.of_find?_eq rfl
    | apply | recordRestart | markFailed | setAutoRecovery | noteLeak => cases htarget

theorem follows_new (alerts : AlertThresholds) (id : DriverId) : Follows { alerts } id [] where
  accounts d hd := by
    unfold find? at hd
    split at hd <;> cases hd
  fresh _ := rfl

theorem Follows.after (h : t.Follows id notes) {calls : List HealthCall}
    (hcalls : ∀ c ∈ calls, c.InUse) :
    (t.after calls).Follows id (notes ++ t.history id calls) := by
  induction calls generalizing t notes with
  | nil =>
    rw [history, List.append_nil]
    exact h
  | cons c rest ih =>
    rw [history, ← List.append_assoc]
    exact ih (h.perform (hcalls c List.mem_cons_self))
      fun later hlater => hcalls later (List.mem_cons_of_mem c hlater)

/-- What the first evaluation of a driver reports, the one at its registration. -/
theorem Follows.reports_registered (h : t.Follows id notes) {name : String} {handle : HandleRef}
    {readings : DriverReadings} {auto : Bool} {threshold nowNs : Nat} (hpos : 1 ≤ threshold)
    {eval : Evaluation}
    (heval : .evaluated eval ∈ t.notesOn id (.register name handle readings auto threshold nowNs)) :
    eval.Reports (notes ++ t.notesOn id (.register name handle readings auto threshold nowNs)) := by
  rw [notesOn] at heval ⊢
  cases hregister : t.register name handle readings auto threshold nowNs with
  | error e =>
    rw [hregister] at heval
    cases heval
  | ok answer =>
    obtain ⟨reported, t'⟩ := answer
    rw [hregister] at heval
    obtain ⟨d, hid, -, -, hrecovery, -, houtcome, -⟩ := register_entered hregister
    dsimp only at heval ⊢
    split at heval
    · rename_i hnew
      have hreported : reported.id = ⟨t.drivers.length + 1⟩ := by
        rw [houtcome]
        exact hid
      have hfresh : notes = [] := h.fresh (hnew.symm.trans hreported ▸ t.find?_fresh)
      have hsame : eval = reported := by simpa using heval
      rw [if_pos hnew, hsame, hfresh, houtcome]
      exact (DriverHealth.Accounts.registered hrecovery hpos).reports readings t.alerts nowNs
    · cases heval

/-- What an evaluation of a driver reports, the one at its registration included. -/
theorem Follows.reports (h : t.Follows id notes) (hc : c.InUse) {eval : Evaluation}
    (heval : .evaluated eval ∈ t.notesOn id c) : eval.Reports (notes ++ t.notesOn id c) := by
  cases htarget : c.target? with
  | none =>
    cases c with
    | release => cases hc
    | setAlerts alerts => cases heval
    | register name handle readings auto threshold nowNs => exact h.reports_registered hc heval
    | apply | recordRestart | markFailed | setAutoRecovery | noteLeak => cases htarget
  | some other =>
    rw [notesOn_of_target t id htarget] at heval ⊢
    split at heval
    · rename_i hid
      rw [if_pos hid]
      have hnote : t.note? c = some (.evaluated eval) := Option.mem_toList.1 heval
      cases hd : t.find? other with
      | none => cases (perform_on_unknown hd htarget).2.symm.trans hnote
      | some d =>
        obtain ⟨f, -, -, hdoes⟩ | ⟨-, -, hnone⟩ := HealthTable.perform_on hd htarget
        · rw [hnote] at hdoes ⊢
          exact (h.accounts d (hid ▸ hd)).reports_of_does hdoes
        · cases hnone.symm.trans hnote
    · cases heval

/-- **The counts of a driver are those of its history.** After any run of operations on a table in
use they are the failing evaluations since the counting last started over, the restarts, and those
together with the restarts attempted in vain. Every evaluation reports the first of them and whether
that calls for recovery. An operation on another driver, one on a driver that is not registered, and
one that fails leave the record alone; on a registered driver only setting the threshold to 0
fails. -/
theorem recovery_bookkeeping (alerts : AlertThresholds) (id : DriverId) {calls : List HealthCall}
    (hcalls : ∀ c ∈ calls, c.InUse) :
    let t := HealthTable.after { alerts } calls
    let notes := HealthTable.history { alerts } id calls
    (t.find? id = none → notes = []) ∧
    (∀ d, t.find? id = some d →
      d.recovery.failures = failingRun notes ∧
      d.recovery.recoveries = notes.count .restarted ∧
      d.recovery.restarts = d.recovery.recoveries + notes.count (.givenUp true)) ∧
    (∀ c, c.InUse → ∀ eval, .evaluated eval ∈ t.notesOn id c →
      eval.Reports (HealthTable.history { alerts } id (calls ++ [c]))) ∧
    (∀ c, c.InUse → ∀ d, t.find? id = some d →
      (c.target? ≠ some id ∨ t.accepts c = false) → (t.perform c).find? id = some d) ∧
    (∀ c other, c.target? = some other → t.find? other = none → t.perform c = t) ∧
    ∀ c d, t.find? id = some d → c.target? = some id → t.accepts c = false →
      ∃ auto, c = .setAutoRecovery id auto 0 := by
  intro t notes
  have hfollows : t.Follows id notes := (follows_new alerts id).after hcalls
  refine ⟨hfollows.fresh, fun d hd => ?_, fun c hc eval heval => ?_,
    fun c hc d hd huntouched => ?_,
    fun c other htarget hunknown => (perform_on_unknown hunknown htarget).1,
    fun c d => eq_setAutoRecovery_of_not_accepts⟩
  · have haccounts := hfollows.accounts d hd
    exact ⟨haccounts.failures_eq, haccounts.recoveries_eq, haccounts.restarts_eq⟩
  · rw [history_concat]
    exact hfollows.reports hc heval
  · obtain htarget | hfails := huntouched
    · refine find?_perform_of_other hd htarget ?_
      rintro rfl
      exact hc
    · rw [perform_of_not_accepts hfails, hd]

/-- A driver that is restarted after two failing evaluations in a row, then given up, and from then
on observed with a lower threshold. -/
def restartedInVain : List HealthCall :=
  let critical : DriverReadings := { cpuPercent := 99 }
  [.register "nic" ⟨0⟩ critical true 2 0, .apply ⟨1⟩ critical 1, .recordRestart ⟨1⟩,
    .apply ⟨1⟩ critical 2, .markFailed ⟨1⟩ 3 true, .recordRestart ⟨2⟩, .setAutoRecovery ⟨1⟩ true 1]

/-- Its next evaluation fails and is counted, but calls for nothing: the driver is given up. -/
theorem recovery_bookkeeping_restartedInVain :
    let t := HealthTable.after { alerts := {} } restartedInVain
    let next := HealthCall.apply ⟨1⟩ { cpuPercent := 99 } 4
    (∀ c ∈ restartedInVain, c.InUse) ∧ next.InUse ∧
      ∃ d, t.find? ⟨1⟩ = some d ∧ d.recovery.failures = 0 ∧ d.recovery.recoveries = 1 ∧
        d.recovery.restarts = 2 ∧
        ∃ eval, .evaluated eval ∈ t.notesOn ⟨1⟩ next ∧
          eval.Reports (HealthTable.history { alerts := {} } ⟨1⟩ (restartedInVain ++ [next])) ∧
          eval.after = .failed ∧ eval.failures = 1 ∧ eval.recoveryDue = false := by
  intro t next
  have hcalls : ∀ c ∈ restartedInVain, c.InUse := by simp [restartedInVain, HealthCall.InUse]
  obtain ⟨-, hcounts, hreports, -⟩ := recovery_bookkeeping {} ⟨1⟩ hcalls
  have hnext : t.notesOn ⟨1⟩ next = [.evaluated
      { id := ⟨1⟩, name := .ofString "nic", before := .failed, after := .failed, failures := 1,
        recoveryDue := false, autoRecovery := true, handle := ⟨0⟩ }] := by decide +kernel
  obtain ⟨hfailures, hrecoveries, hrestarts⟩ := hcounts _ rfl
  exact ⟨hcalls, trivial, _, rfl, hfailures, hrecoveries, hrestarts, _,
    hnext ▸ List.mem_singleton_self _, hreports next trivial _ (hnext ▸ List.mem_singleton_self _),
    rfl, rfl, rfl⟩

end HealthTable

end DriverTelemetry
