import DriverTelemetry.Proofs.AnomalyLaw

/-!
# What becomes of a verdict that waits

A ledger has one entry for each verdict that a registry has ever let wait, in the order of their
detection, with what has become of it: a verdict waits until a call settles it, and then for good.
The calls of a run write the ledger, and `Registry.Balances` says in which ways the registry, and
what its calls have answered, agree with it.
-/

namespace DriverTelemetry

/-- A call on a registry, or its release. -/
inductive RegistryOp where
  | call (c : RegistryCall)
  | release

/-- What has become of a verdict; a number is that of the call that has settled it. -/
inductive Fate where
  | waiting
  | taken (call : Nat)
  | discarded (call : Nat)
  | cleared (call : Nat)
  | displaced (call : Nat)
  deriving DecidableEq

def Fate.isDisplaced : Fate → Bool
  | displaced _ => true
  | _ => false

/-- The call that has settled a verdict. -/
def Fate.settledBy? : Fate → Option Nat
  | waiting => none
  | taken call | discarded call | cleared call | displaced call => some call

structure LedgerEntry where
  verdict : Anomaly.Verdict
  detectedBy : Nat
  fate : Fate := .waiting

abbrev Ledger := List LedgerEntry

namespace Ledger

/-- The entries with a fate. -/
def withFate (l : Ledger) (fate : Fate) : Ledger := l.filter fun e => decide (e.fate = fate)

/-- Settles every verdict that waits. -/
def settle (l : Ledger) (fate : Anomaly.Verdict → Fate) : Ledger :=
  l.map fun e => if e.fate = .waiting then { e with fate := fate e.verdict } else e

/-- Displaces the oldest verdict that waits. -/
def displace (n : Nat) : Ledger → Ledger
  | [] => []
  | e :: rest =>
    if e.fate = .waiting then { e with fate := .displaced n } :: rest else e :: displace n rest

/-- Enters the verdict that call `n` lets wait, if there is one. -/
def enter (l : Ledger) (n : Nat) : Option Anomaly.Verdict → Ledger
  | none => l
  | some verdict =>
    (if (l.withFate .waiting).length < Registry.pendingLimit then l else l.displace n) ++
      [{ verdict, detectedBy := n }]

end Ledger

namespace Registry

def serve (r : Registry) : RegistryOp → Registry
  | .call c => (r.perform c).2
  | .release => r.release

/-- The registry before the call of that number; calls are numbered from 0. -/
def before (r : Registry) (ops : List RegistryOp) (n : Nat) : Registry :=
  (ops.take n).foldl serve r

/-- The verdict that call `n` lets wait, if there is one. -/
def detectedAt? (r : Registry) (ops : List RegistryOp) (n : Nat) : Option Anomaly.Verdict :=
  match ops[n]? with
  | some (.call c) => (r.before ops n).detected? c
  | _ => none

/-- The ledger after call `n`, which is made on registry `r`. -/
def note (r : Registry) (n : Nat) (l : Ledger) : RegistryOp → Ledger
  | .call .takePending => l.settle fun v => if r.isLive v.metric then .taken n else .discarded n
  | .call (.setPolicy policy) => if policy.enabled then l else l.settle fun _ => .cleared n
  | .call c => l.enter n (r.detected? c)
  | .release => l.settle fun _ => .cleared n

/-- The ledger before call `n`. -/
def ledger (r : Registry) (ops : List RegistryOp) : Nat → Ledger
  | 0 => []
  | n + 1 =>
    match ops[n]? with
    | some op => (r.before ops n).note n (r.ledger ops n) op
    | none => r.ledger ops n

/-- What the fate of a verdict says about the call that has settled it. -/
def Justifies (r : Registry) (ops : List RegistryOp) (v : Anomaly.Verdict) : Fate → Prop
  | .waiting => True
  | .taken n =>
    ops[n]? = some (.call .takePending) ∧ v ∈ (r.before ops n).takePending.1
  | .discarded n =>
    ops[n]? = some (.call .takePending) ∧
      ∃ m, (r.before ops n).find? v.metric = some m ∧ m.enabled = false
  | .cleared n =>
    ops[n]? = some .release ∨
      ∃ policy, ops[n]? = some (.call (.setPolicy policy)) ∧ policy.enabled = false
  | .displaced n =>
    (r.before ops n).pending.length = pendingLimit ∧ (r.before ops n).pending.head? = some v ∧
      (r.detectedAt? ops n).isSome

/-- A ledger that agrees with the registry before call `n` and with what the calls before have
answered. -/
structure Balances (r : Registry) (ops : List RegistryOp) (n : Nat) (l : Ledger) : Prop where
  /-- Every verdict that has ever been enqueued has one entry, in the order of detection. -/
  entries_eq : l.map (fun e => (e.detectedBy, e.verdict)) =
    (List.range n).filterMap fun k => (r.detectedAt? ops k).map fun v => (k, v)
  pending_eq : (r.before ops n).pending = (l.withFate .waiting).map (·.verdict)
  taken_eq : ∀ k < n, ops[k]? = some (.call .takePending) →
    (r.before ops k).takePending.1 = (l.withFate (.taken k)).map (·.verdict)
  dropped_eq : (r.before ops n).droppedVerdicts = l.countP (·.fate.isDisplaced)
  justified : ∀ e ∈ l, r.Justifies ops e.verdict e.fate
  settledBy_lt : ∀ e ∈ l, ∀ k, e.fate.settledBy? = some k → k < n

end Registry

namespace Ledger

variable {l l' : Ledger} {given : Fate → Prop} {f : Anomaly.Verdict → Fate} {n : Nat}

/-- An entry that is what it was, or one that waited and has been given a fate. -/
def Settled (given : Fate → Prop) (e e' : LedgerEntry) : Prop :=
  e' = e ∨ e.fate = .waiting ∧ ∃ fate, given fate ∧ e' = { e with fate }

theorem settled_settle (hf : ∀ v, given (f v)) (l : Ledger) :
    List.Forall₂ (Settled given) l (l.settle f) := by
  induction l with
  | nil => exact .nil
  | cons e rest ih =>
    refine .cons ?_ ih
    by_cases hwaits : e.fate = .waiting
    · exact .inr ⟨hwaits, f e.verdict, hf e.verdict, by simp [hwaits]⟩
    · exact .inl (by simp [hwaits])

theorem settled_displace (n : Nat) (l : Ledger) :
    List.Forall₂ (Settled (· = .displaced n)) l (l.displace n) := by
  induction l with
  | nil => exact .nil
  | cons e rest ih =>
    by_cases hwaits : e.fate = .waiting
    · simp only [displace, hwaits, if_true]
      exact .cons (.inr ⟨hwaits, _, rfl, rfl⟩) (List.forall₂_same.2 fun _ _ => .inl rfl)
    · simp only [displace, hwaits, if_false]
      exact .cons (.inl rfl) ih

section Settled

variable (h : List.Forall₂ (Settled given) l l')

include h

theorem map_of_settled :
    l'.map (fun e => (e.detectedBy, e.verdict)) = l.map fun e => (e.detectedBy, e.verdict) := by
  induction h with
  | nil => rfl
  | cons hhead _ ih =>
    rw [List.map_cons, List.map_cons, ih]
    rcases hhead with rfl | ⟨-, fate, -, rfl⟩ <;> rfl

/-- The entries with a fate that has not been given now are those that had it before. -/
theorem filter_of_settled {p : Fate → Bool} (hwaiting : p .waiting = false)
    (hgiven : ∀ fate, given fate → p fate = false) :
    l'.filter (p ·.fate) = l.filter (p ·.fate) := by
  induction h with
  | nil => rfl
  | cons hhead _ ih =>
    rw [List.filter_cons, List.filter_cons, ih]
    rcases hhead with rfl | ⟨hwaits, fate, hfate, rfl⟩
    · rfl
    · simp [hwaits, hwaiting, hgiven fate hfate]

theorem getElem?_of_settled {i : Nat} {e : LedgerEntry} (he : l[i]? = some e)
    (hsettled : e.fate ≠ .waiting) : l'[i]? = some e := by
  induction h generalizing i with
  | nil => simp at he
  | cons hhead _ ih =>
    cases i with
    | zero =>
      cases he
      rcases hhead with rfl | ⟨hwaits, -⟩
      · rfl
      · exact absurd hwaits hsettled
    | succ i => exact ih he

end Settled

theorem withFate_append (l l' : Ledger) (fate : Fate) :
    (l ++ l').withFate fate = l.withFate fate ++ l'.withFate fate :=
  List.filter_append ..

theorem waiting_settle (hf : ∀ v, f v ≠ .waiting) (l : Ledger) :
    (l.settle f).withFate .waiting = [] := by
  rw [withFate, List.filter_eq_nil_iff]
  intro e he
  obtain ⟨old, -, rfl⟩ := List.mem_map.1 he
  by_cases hwaits : old.fate = .waiting <;> simp [hwaits, hf]

/-- A fate that no entry had is given to those that waited and are to have it. -/
theorem withFate_settle {fate : Fate} (hnew : ∀ e ∈ l, e.fate ≠ fate) :
    ((l.settle f).withFate fate).map (·.verdict) =
      ((l.withFate .waiting).map (·.verdict)).filter fun v => decide (f v = fate) := by
  induction l with
  | nil => rfl
  | cons e rest ih =>
    rw [List.forall_mem_cons] at hnew
    have hrest := ih hnew.2
    unfold withFate settle at *
    by_cases hwaits : e.fate = .waiting
    · by_cases hfate : f e.verdict = fate <;> simp [hwaits, hfate, hrest]
    · simp [hwaits, hnew.1, hrest]

theorem waiting_displace (n : Nat) (l : Ledger) :
    (l.displace n).withFate .waiting = (l.withFate .waiting).tail := by
  induction l with
  | nil => rfl
  | cons e rest ih =>
    unfold withFate at *
    by_cases hwaits : e.fate = .waiting
    · simp [displace, hwaits]
    · simp [displace, hwaits, ih]

theorem countP_displace (h : l.withFate .waiting ≠ []) (n : Nat) :
    (l.displace n).countP (·.fate.isDisplaced) = l.countP (·.fate.isDisplaced) + 1 := by
  induction l with
  | nil => exact absurd rfl h
  | cons e rest ih =>
    unfold withFate at *
    by_cases hwaits : e.fate = .waiting
    · simp [displace, hwaits, Fate.isDisplaced]
    · have hrest := ih (by simpa [hwaits] using h)
      simp only [displace, hwaits, if_false, List.countP_cons, hrest]
      omega

theorem mem_displace {e : LedgerEntry} (h : e ∈ l.displace n) :
    e ∈ l ∨ ∃ first, (l.withFate .waiting).head? = some first ∧
      e = { first with fate := .displaced n } := by
  induction l with
  | nil => cases h
  | cons first rest ih =>
    unfold withFate at *
    by_cases hwaits : first.fate = .waiting
    · simp only [displace, hwaits, if_true, List.mem_cons] at h
      rcases h with rfl | h
      · exact .inr ⟨first, by simp [hwaits], rfl⟩
      · exact .inl (List.mem_cons_of_mem _ h)
    · simp only [displace, hwaits, if_false, List.mem_cons] at h
      rcases h with rfl | h
      · exact .inl List.mem_cons_self
      · rcases ih h with hmem | ⟨old, hold, rfl⟩
        · exact .inl (List.mem_cons_of_mem _ hmem)
        · exact .inr ⟨old, by simp [hwaits, hold], rfl⟩

end Ledger

namespace Registry

variable {r r' : Registry} {ops : List RegistryOp} {n : Nat} {l : Ledger}

section Sound

/-- What holds of the queue of a registry after any calls. -/
structure Sound (r : Registry) : Prop where
  identified : r.Identified
  length_le : r.pending.length ≤ pendingLimit
  registered : ∀ v ∈ r.pending, (r.find? v.metric).isSome
  off : r.policy.enabled = false → r.pending = []

theorem sound_new (capacity : Nat) (policy : Anomaly.Policy) : Sound { capacity, policy } where
  identified := by simp [Identified, find?]
  length_le := Nat.zero_le _
  registered := by simp
  off := fun _ => rfl

/-- A verdict is on a metric that there is, and detection is on. -/
theorem exists_of_detected? {c : RegistryCall} {v : Anomaly.Verdict} (h : r.detected? c = some v) :
    ∃ id m, r.find? id = some m ∧ v.metric = m.id ∧ r.policy.enabled = true := by
  cases c with
  | update id change nowNs =>
    simp only [detected?] at h
    split at h
    · obtain ⟨m, hm, hv⟩ := Option.bind_eq_some_iff.1 h
      unfold enqueued? at hv
      split at hv
      · obtain ⟨sample, -, hcheck⟩ := Option.bind_eq_some_iff.1 hv
        obtain ⟨⟨hon, -⟩, baseline, -, -, rfl⟩ := Anomaly.check_eq_some_iff.1 hcheck
        exact ⟨id, m, hm, rfl, hon⟩
      · cases hv
    · cases h
  | _ => cases h

theorem mem_pending_enqueue? {d : Option Anomaly.Verdict} {v : Anomaly.Verdict}
    (h : v ∈ (r.enqueue? d).pending) : v ∈ r.pending ∨ d = some v := by
  cases d with
  | none => exact .inl h
  | some new =>
    simp only [enqueue?, enqueue] at h
    split at h
    · simpa [eq_comm] using h
    · rcases List.mem_append.1 h with h | h
      · exact .inl (List.mem_of_mem_tail h)
      · exact .inr (by rw [List.mem_singleton.1 h])

theorem Sound.perform (h : r.Sound) (c : RegistryCall) : (r.perform c).2.Sound := by
  have hextends := r.extends_perform c
  refine ⟨h.identified.of_extends hextends, length_pending_perform h.length_le c, ?_, ?_⟩
  · intro v hv
    by_cases hc : c.mayEmpty = false
    · have hqueue := (r.queue_perform hc).1
      rw [(Prod.mk.inj hqueue).1] at hv
      rcases mem_pending_enqueue? hv with hv | hv
      · exact hextends.isSome_find? (h.registered v hv)
      · obtain ⟨id, m, hm, hmetric, -⟩ := exists_of_detected? hv
        rw [hmetric, h.identified id m hm]
        exact hextends.isSome_find? (by simp [hm])
    · cases c with
      | takePending => cases hv
      | setPolicy policy =>
        have hold : v ∈ r.pending := by
          by_cases hon : policy.enabled
          · simpa [Registry.perform, setPolicy, hon] using hv
          · simp [Registry.perform, setPolicy, hon] at hv
        exact hextends.isSome_find? (h.registered v hold)
      | _ => exact absurd rfl hc
  · -- with detection off nothing is detected, so the queue stays empty
    intro hoff
    by_cases hc : c.mayEmpty = false
    · obtain ⟨hqueue, hpolicy⟩ := r.queue_perform hc
      rw [hpolicy] at hoff
      have hnone : r.detected? c = none := by
        rw [Option.eq_none_iff_forall_ne_some]
        intro v hv
        obtain ⟨-, -, -, -, hon⟩ := exists_of_detected? hv
        rw [hoff] at hon
        cases hon
      rw [(Prod.mk.inj hqueue).1, hnone]
      exact h.off hoff
    · cases c with
      | takePending => rfl
      | setPolicy policy =>
        have hoff : policy.enabled = false := hoff
        simp [Registry.perform, setPolicy, hoff]
      | _ => exact absurd rfl hc

theorem Sound.serve (h : r.Sound) (op : RegistryOp) : (r.serve op).Sound := by
  cases op with
  | call c => exact h.perform c
  | release =>
    refine ⟨?_, Nat.zero_le _, by simp [Registry.serve, release], fun _ => rfl⟩
    intro id m hm
    simp [Registry.serve, release, find?] at hm

end Sound

section Before

theorem before_succ (r : Registry) {op : RegistryOp} (h : ops[n]? = some op) :
    r.before ops (n + 1) = (r.before ops n).serve op := by
  rw [before, List.take_add_one, h, List.foldl_append]
  rfl

theorem before_succ_of_none (r : Registry) (h : ops[n]? = none) :
    r.before ops (n + 1) = r.before ops n := by
  rw [before, List.take_add_one, h, Option.toList_none, List.append_nil, before]

theorem Sound.before (h : r.Sound) (ops : List RegistryOp) (n : Nat) : (r.before ops n).Sound := by
  induction n with
  | zero => exact h
  | succ n ih =>
    cases hop : ops[n]? with
    | none => rwa [before_succ_of_none r hop]
    | some op =>
      rw [before_succ r hop]
      exact ih.serve op

end Before

section Steps

theorem entries_succ (h : r.Balances ops n l) :
    ((List.range (n + 1)).filterMap fun k => (r.detectedAt? ops k).map fun v => (k, v)) =
      l.map (fun e => (e.detectedBy, e.verdict)) ++
        (r.detectedAt? ops n).toList.map fun v => (n, v) := by
  rw [List.range_succ, List.filterMap_append, h.entries_eq]
  cases hdetected : r.detectedAt? ops n <;> simp [hdetected]

/-- A call that empties the queue settles what waited. -/
theorem Balances.settle (h : r.Balances ops n l) {f : Anomaly.Verdict → Fate}
    (hdetected : r.detectedAt? ops n = none) (hpending : (r.before ops (n + 1)).pending = [])
    (hdropped : (r.before ops (n + 1)).droppedVerdicts = (r.before ops n).droppedVerdicts)
    (hby : ∀ v, (f v).settledBy? = some n) (hdisplaced : ∀ v, (f v).isDisplaced = false)
    (hjustified : ∀ v ∈ (r.before ops n).pending, r.Justifies ops v (f v))
    (htaken : ops[n]? = some (.call .takePending) → (r.before ops n).takePending.1 =
      (r.before ops n).pending.filter fun v => decide (f v = .taken n)) :
    r.Balances ops (n + 1) (l.settle f) := by
  have hsettled : List.Forall₂
      (Ledger.Settled fun fate => fate.settledBy? = some n ∧ fate.isDisplaced = false)
      l (l.settle f) :=
    Ledger.settled_settle (fun v => ⟨hby v, hdisplaced v⟩) l
  have hwaiting : ∀ v, f v ≠ .waiting := by
    intro v hv
    have hcall := hby v
    rw [hv] at hcall
    cases hcall
  refine ⟨?_, ?_, ?_, ?_, ?_, ?_⟩
  · rw [entries_succ h, hdetected, Ledger.map_of_settled hsettled, Option.toList_none,
      List.map_nil, List.append_nil]
  · rw [hpending, Ledger.waiting_settle hwaiting, List.map_nil]
  · intro k hk hcall
    by_cases hlast : k = n
    · -- no entry can have been settled by this call before it was made
      subst hlast
      have hnew : ∀ e ∈ l, e.fate ≠ .taken k := by
        intro e he hfate
        exact absurd (h.settledBy_lt e he k (by rw [hfate]; rfl)) (Nat.lt_irrefl k)
      rw [Ledger.withFate_settle hnew, htaken hcall, h.pending_eq]
    · have hsame : (l.settle f).withFate (.taken k) = l.withFate (.taken k) := by
        refine Ledger.filter_of_settled (p := fun fate => decide (fate = .taken k)) hsettled rfl ?_
        rintro fate ⟨hcall, -⟩
        rw [decide_eq_false_iff_not]
        rintro rfl
        exact hlast (Option.some.inj hcall)
      rw [hsame]
      exact h.taken_eq k (by omega) hcall
  · have hsame : (l.settle f).filter (·.fate.isDisplaced) = l.filter (·.fate.isDisplaced) :=
      Ledger.filter_of_settled (p := Fate.isDisplaced) hsettled rfl fun _ hfate => hfate.2
    rw [hdropped, h.dropped_eq, List.countP_eq_length_filter, List.countP_eq_length_filter, hsame]
  · intro e he
    obtain ⟨old, hold, rfl⟩ := List.mem_map.1 he
    by_cases hwaits : old.fate = .waiting
    · have hmem : old.verdict ∈ (r.before ops n).pending := by
        rw [h.pending_eq]
        exact List.mem_map.2 ⟨old, List.mem_filter.2 ⟨hold, by simp [hwaits]⟩, rfl⟩
      simpa [hwaits] using hjustified old.verdict hmem
    · simpa [hwaits] using h.justified old hold
  · intro e he k hk
    obtain ⟨old, hold, rfl⟩ := List.mem_map.1 he
    by_cases hwaits : old.fate = .waiting
    · simp only [hwaits, if_true, hby, Option.some.injEq] at hk
      omega
    · simp only [hwaits, if_false] at hk
      have hlt := h.settledBy_lt old hold k hk
      omega

/-- A call that lets nothing wait and settles nothing. -/
theorem Balances.skip (h : r.Balances ops n l) (hdetected : r.detectedAt? ops n = none)
    (hcall : ops[n]? ≠ some (.call .takePending))
    (hqueue : (r.before ops (n + 1)).queue = (r.before ops n).queue) :
    r.Balances ops (n + 1) l := by
  obtain ⟨hpending, hdropped⟩ := Prod.mk.inj hqueue
  refine ⟨?_, hpending.trans h.pending_eq, ?_, hdropped.trans h.dropped_eq, h.justified, ?_⟩
  · rw [entries_succ h, hdetected, Option.toList_none, List.map_nil, List.append_nil]
  · intro k hk htake
    by_cases hlast : k = n
    · rw [hlast] at htake
      exact absurd htake hcall
    · exact h.taken_eq k (by omega) htake
  · intro e he k hk
    have hlt := h.settledBy_lt e he k hk
    omega

/-- A call that lets a verdict wait, and may displace the oldest one for it. -/
theorem Balances.append (h : r.Balances ops n l) {v : Anomaly.Verdict} {l' : Ledger}
    (hdetected : r.detectedAt? ops n = some v) (hcall : ops[n]? ≠ some (.call .takePending))
    (hsettled : List.Forall₂ (Ledger.Settled (· = .displaced n)) l l')
    (hpending : (r.before ops (n + 1)).pending = (l'.withFate .waiting).map (·.verdict) ++ [v])
    (hdropped : (r.before ops (n + 1)).droppedVerdicts = l'.countP (·.fate.isDisplaced))
    (hmem : ∀ e ∈ l', e ∈ l ∨ e.fate = .displaced n ∧ r.Justifies ops e.verdict e.fate) :
    r.Balances ops (n + 1) (l' ++ [{ verdict := v, detectedBy := n }]) := by
  refine ⟨?_, ?_, ?_, ?_, ?_, ?_⟩
  · rw [entries_succ h, hdetected, List.map_append, Ledger.map_of_settled hsettled]
    rfl
  · rw [hpending, Ledger.withFate_append, List.map_append]
    rfl
  · intro k hk htake
    by_cases hlast : k = n
    · rw [hlast] at htake
      exact absurd htake hcall
    · have hsame : l'.withFate (.taken k) = l.withFate (.taken k) := by
        refine Ledger.filter_of_settled (p := fun fate => decide (fate = .taken k)) hsettled rfl ?_
        rintro fate rfl
        rfl
      have hnew : Ledger.withFate [{ verdict := v, detectedBy := n }] (.taken k) = [] := rfl
      rw [h.taken_eq k (by omega) htake, Ledger.withFate_append, hnew, List.append_nil, hsame]
  · rw [hdropped, List.countP_append]
    rfl
  · intro e he
    rcases List.mem_append.1 he with he | he
    · rcases hmem e he with he | ⟨-, hjustified⟩
      · exact h.justified e he
      · exact hjustified
    · rw [List.mem_singleton.1 he]
      trivial
  · intro e he k hk
    rcases List.mem_append.1 he with he | he
    · rcases hmem e he with he | ⟨hfate, -⟩
      · have hlt := h.settledBy_lt e he k hk
        omega
      · rw [hfate] at hk
        cases hk
        exact Nat.lt_succ_self n
    · rw [List.mem_singleton.1 he] at hk
      cases hk

/-- A call that does not empty the queue enters the verdict that it lets wait. -/
theorem Balances.enter (h : r.Balances ops n l) (hsound : (r.before ops n).Sound)
    (hcall : ops[n]? ≠ some (.call .takePending))
    (hqueue : (r.before ops (n + 1)).queue =
      ((r.before ops n).enqueue? (r.detectedAt? ops n)).queue) :
    r.Balances ops (n + 1) (l.enter n (r.detectedAt? ops n)) := by
  cases hdetected : r.detectedAt? ops n with
  | none =>
    rw [hdetected] at hqueue
    exact h.skip hdetected hcall hqueue
  | some v =>
    rw [hdetected] at hqueue
    obtain ⟨hpending, hdropped⟩ := Prod.mk.inj hqueue
    have hlength : (l.withFate .waiting).length = (r.before ops n).pending.length := by
      rw [h.pending_eq, List.length_map]
    unfold Ledger.enter
    by_cases hroom : (r.before ops n).pending.length < pendingLimit
    · simp only [enqueue?, enqueue, if_pos hroom] at hpending hdropped
      rw [if_pos (by rw [hlength]; exact hroom)]
      refine h.append hdetected hcall (List.forall₂_same.2 fun _ _ => .inl rfl) ?_ ?_ ?_
      · rw [hpending, h.pending_eq]
      · rw [hdropped, h.dropped_eq]
      · exact fun e he => .inl he
    · -- the oldest verdict gives way, and there is one
      simp only [enqueue?, enqueue, if_neg hroom] at hpending hdropped
      rw [if_neg (by rw [hlength]; exact hroom)]
      have hfull : (r.before ops n).pending.length = pendingLimit :=
        Nat.le_antisymm hsound.length_le (Nat.not_lt.1 hroom)
      have hne : l.withFate .waiting ≠ [] := by
        intro hnil
        rw [hnil, hfull] at hlength
        cases hlength
      refine h.append hdetected hcall (Ledger.settled_displace n l) ?_ ?_ ?_
      · rw [hpending, h.pending_eq, Ledger.waiting_displace, List.map_tail]
      · rw [hdropped, h.dropped_eq, Ledger.countP_displace hne]
      · intro e he
        rcases Ledger.mem_displace he with he | ⟨first, hfirst, rfl⟩
        · exact .inl he
        · refine .inr ⟨rfl, hfull, ?_, ?_⟩
          · rw [h.pending_eq, List.head?_map, hfirst]
            rfl
          · rw [hdetected]
            rfl

/-- Taking the verdicts that wait settles them by the switch of their metrics. -/
theorem Balances.take (h : r.Balances ops n l) (hsound : (r.before ops n).Sound)
    (hop : ops[n]? = some (.call .takePending)) :
    r.Balances ops (n + 1) ((r.before ops n).note n l (.call .takePending)) := by
  have hnext := before_succ r hop
  refine h.settle
    (f := fun v => if (r.before ops n).isLive v.metric then .taken n else .discarded n)
    ?_ ?_ ?_ ?_ ?_ ?_ ?_
  · simp [detectedAt?, hop, detected?]
  · rw [hnext]
    rfl
  · rw [hnext]
    rfl
  · intro v
    split <;> rfl
  · intro v
    split <;> rfl
  · intro v hv
    by_cases hlive : (r.before ops n).isLive v.metric = true
    · rw [if_pos hlive]
      exact ⟨hop, List.mem_filter.2 ⟨hv, hlive⟩⟩
    · rw [if_neg hlive]
      -- the metric is there, so it can only be switched off
      obtain ⟨m, hm⟩ := Option.isSome_iff_exists.1 (hsound.registered v hv)
      refine ⟨hop, m, hm, ?_⟩
      simpa [isLive, hm] using hlive
  · intro _
    refine List.filter_congr ?_
    intro v _
    by_cases hlive : (r.before ops n).isLive v.metric = true <;> simp [hlive]

/-- Clearing the queue settles what waits, whichever call does it. -/
theorem Balances.clear (h : r.Balances ops n l) (hdetected : r.detectedAt? ops n = none)
    (hcall : ops[n]? ≠ some (.call .takePending))
    (hpending : (r.before ops (n + 1)).pending = [])
    (hdropped : (r.before ops (n + 1)).droppedVerdicts = (r.before ops n).droppedVerdicts)
    (hjustified : ∀ v, r.Justifies ops v (.cleared n)) :
    r.Balances ops (n + 1) (l.settle fun _ => .cleared n) :=
  h.settle hdetected hpending hdropped (fun _ => rfl) (fun _ => rfl) (fun v _ => hjustified v)
    fun htake => absurd htake hcall

/-- Every call keeps the balance. -/
theorem Balances.note (h : r.Balances ops n l) (hsound : (r.before ops n).Sound)
    {op : RegistryOp} (hop : ops[n]? = some op) :
    r.Balances ops (n + 1) ((r.before ops n).note n l op) := by
  have hnext := before_succ r hop
  have henter : ∀ c, op = .call c → c.mayEmpty = false →
      r.Balances ops (n + 1) (l.enter n ((r.before ops n).detected? c)) := by
    rintro c rfl hc
    have hdetected : r.detectedAt? ops n = (r.before ops n).detected? c := by
      rw [detectedAt?, hop]
    rw [← hdetected]
    refine h.enter hsound ?_ ?_
    · rw [hop]
      rintro heq
      cases heq
      cases hc
    · rw [hnext, hdetected]
      exact ((r.before ops n).queue_perform hc).1
  cases op with
  | release =>
    refine h.clear ?_ ?_ ?_ ?_ ?_
    · rw [detectedAt?, hop]
    · simp [hop]
    · rw [hnext]
      rfl
    · rw [hnext]
      rfl
    · exact fun _ => .inl hop
  | call c =>
    cases c with
    | takePending => exact h.take hsound hop
    | setPolicy policy =>
      have hdetected : r.detectedAt? ops n = none := by
        rw [detectedAt?, hop]
        rfl
      have hcall : ops[n]? ≠ some (.call .takePending) := by simp [hop]
      simp only [Registry.note]
      by_cases hon : policy.enabled = true
      · rw [if_pos hon]
        refine h.skip hdetected hcall ?_
        rw [hnext]
        simp [serve, perform, setPolicy, queue, hon]
      · rw [if_neg hon]
        have hoff : policy.enabled = false := Bool.eq_false_iff.2 hon
        refine h.clear hdetected hcall ?_ ?_ fun _ => .inr ⟨policy, hop, hoff⟩
        · rw [hnext]
          simp [serve, perform, setPolicy, hoff]
        · rw [hnext]
          rfl
    | _ => exact henter _ rfl rfl

end Steps

section Runs

theorem ledger_succ (r : Registry) {op : RegistryOp} (h : ops[n]? = some op) :
    r.ledger ops (n + 1) = (r.before ops n).note n (r.ledger ops n) op := by
  rw [ledger, h]

theorem ledger_succ_of_none (r : Registry) (h : ops[n]? = none) :
    r.ledger ops (n + 1) = r.ledger ops n := by
  rw [ledger, h]

theorem balances_new (capacity : Nat) (policy : Anomaly.Policy) (ops : List RegistryOp) :
    Balances { capacity, policy } ops 0 [] where
  entries_eq := rfl
  pending_eq := rfl
  taken_eq := by simp
  dropped_eq := rfl
  justified := by simp
  settledBy_lt := by simp

theorem balances_ledger (capacity : Nat) (policy : Anomaly.Policy) (ops : List RegistryOp)
    (n : Nat) : Balances { capacity, policy } ops n (ledger { capacity, policy } ops n) := by
  induction n with
  | zero => exact balances_new capacity policy ops
  | succ n ih =>
    cases hop : ops[n]? with
    | none =>
      rw [ledger_succ_of_none _ hop]
      refine ih.skip ?_ (by simp [hop]) ?_
      · rw [detectedAt?, hop]
      · rw [before_succ_of_none _ hop]
    | some op =>
      rw [ledger_succ _ hop]
      exact ih.note ((sound_new capacity policy).before ops n) hop

theorem getElem?_enter {i : Nat} {e : LedgerEntry} (d : Option Anomaly.Verdict)
    (he : l[i]? = some e) (hsettled : e.fate ≠ .waiting) : (l.enter n d)[i]? = some e := by
  cases d with
  | none => exact he
  | some v =>
    have happend : ∀ l' : Ledger, l'[i]? = some e →
        (l' ++ [{ verdict := v, detectedBy := n }])[i]? = some e := by
      intro l' he'
      rw [List.getElem?_append_left (List.getElem?_eq_some_iff.1 he').1]
      exact he'
    by_cases hroom : (l.withFate .waiting).length < pendingLimit
    · simp only [Ledger.enter, if_pos hroom]
      exact happend l he
    · simp only [Ledger.enter, if_neg hroom]
      have hkept := Ledger.getElem?_of_settled (Ledger.settled_displace n l) he hsettled
      exact happend (l.displace n) hkept

/-- What has been settled stays as it is. -/
theorem getElem?_note {i : Nat} {e : LedgerEntry} (op : RegistryOp) (he : l[i]? = some e)
    (hsettled : e.fate ≠ .waiting) : (r.note n l op)[i]? = some e := by
  have hsettle : ∀ f, (l.settle f)[i]? = some e := by
    intro f
    have hall : List.Forall₂ (Ledger.Settled fun _ => True) l (l.settle f) :=
      Ledger.settled_settle (fun _ => trivial) l
    exact Ledger.getElem?_of_settled hall he hsettled
  unfold note
  split
  · exact hsettle _
  · split
    · exact he
    · exact hsettle _
  · exact getElem?_enter _ he hsettled
  · exact hsettle _

theorem getElem?_ledger (r : Registry) (ops : List RegistryOp) {m : Nat} (hm : n ≤ m) {i : Nat}
    {e : LedgerEntry} (he : (r.ledger ops n)[i]? = some e) (hsettled : e.fate ≠ .waiting) :
    (r.ledger ops m)[i]? = some e := by
  induction m, hm using Nat.le_induction with
  | base => exact he
  | succ m _ ih =>
    cases hop : ops[m]? with
    | none => rwa [ledger_succ_of_none r hop]
    | some op =>
      rw [ledger_succ r hop]
      exact getElem?_note op ih hsettled

/-- **No verdict is lost or doubled.** After any calls on a new registry, releases among them, its
ledger has one entry for each verdict ever enqueued, in the order of detection, and so one fate for
each: the verdict still waits, or one call has taken it, discarded it because its metric was
switched off, cleared it with the queue when detection was turned off or the registry released, or
displaced it as the oldest of a full queue. The queue is made of those that wait, and there are 64
at most; what a call has taken is what it has answered; the registry counts those displaced. What
has been settled stays settled, and while detection is off nothing waits. -/
theorem verdicts_accounted_for (capacity : Nat) (policy : Anomaly.Policy) (ops : List RegistryOp)
    (n : Nat) :
    let r : Registry := { capacity, policy }
    r.Balances ops n (r.ledger ops n) ∧
      (r.before ops n).pending.length ≤ 64 ∧
      ((r.before ops n).policy.enabled = false → (r.before ops n).pending = []) ∧
      ∀ (m i : Nat) (e : LedgerEntry), n ≤ m → (r.ledger ops n)[i]? = some e →
        e.fate ≠ .waiting → (r.ledger ops m)[i]? = some e := by
  intro r
  have hsound := (sound_new capacity policy).before ops n
  refine ⟨balances_ledger capacity policy ops n, hsound.length_le, hsound.off, ?_⟩
  intro m i e hm he hsettled
  exact getElem?_ledger r ops hm he hsettled

end Runs

end Registry

end DriverTelemetry
