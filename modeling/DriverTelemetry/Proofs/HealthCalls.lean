import DriverTelemetry.Proofs.Happenings

/-!
# Runs of operations on the health table

A `HealthCall` is an operation on the health table. With those on drivers, the small steps and
events of any kind, evaluating and registering drivers is made of small pieces as well:
`System.Move` lists them, and every happening keeps to any preorder that holds all moves and what
others do to the surroundings.
-/

namespace DriverTelemetry

inductive HealthCall where
  | register (name : String) (handle : HandleRef) (readings : DriverReadings) (auto : Bool)
      (threshold nowNs : Nat)
  | apply (id : DriverId) (readings : DriverReadings) (nowNs : Nat)
  | recordRestart (id : DriverId)
  | markFailed (id : DriverId) (nowNs : Nat) (attemptedRestart : Bool)
  | setAutoRecovery (id : DriverId) (auto : Bool) (threshold : Nat)
  | noteLeak (id : DriverId)
  | setAlerts (alerts : AlertThresholds)
  | release

/-- The driver that an operation addresses. -/
def HealthCall.target? : HealthCall → Option DriverId
  | apply id _ _ | recordRestart id | markFailed id _ _ | setAutoRecovery id _ _ | noteLeak id =>
    some id
  | register .. | setAlerts _ | release => none

/-- Whether an operation is about drivers and leaves the thresholds for alerts alone. -/
def HealthCall.onDrivers : HealthCall → Bool
  | setAlerts _ => false
  | _ => true

/-- The readings that an operation takes. -/
def HealthCall.readings? : HealthCall → Option DriverReadings
  | register _ _ readings _ _ _ | apply _ readings _ => some readings
  | _ => none

namespace HealthTable

/-- The table after an operation; one that fails leaves it as it was. -/
def next {α : Type} (t : HealthTable) : Except TelemetryError (α × HealthTable) → HealthTable
  | .ok (_, t') => t'
  | .error _ => t

def perform (t : HealthTable) : HealthCall → HealthTable
  | .register name handle readings auto threshold nowNs =>
    t.next (t.register name handle readings auto threshold nowNs)
  | .apply id readings nowNs => t.next (t.apply id readings nowNs)
  | .recordRestart id => t.next (t.recordRestart id)
  | .markFailed id nowNs attemptedRestart => t.next (t.markFailed id nowNs attemptedRestart)
  | .setAutoRecovery id auto threshold =>
    t.next ((t.setAutoRecovery id auto threshold).map ((), ·))
  | .noteLeak id => t.noteLeak id
  | .setAlerts alerts => t.setAlerts alerts
  | .release => t.release

def after (t : HealthTable) (calls : List HealthCall) : HealthTable := calls.foldl perform t

theorem alerts_modify (t : HealthTable) (id : DriverId) (f : DriverHealth → DriverHealth) :
    (t.modify id f).alerts = t.alerts := by
  unfold modify
  split
  · rfl
  · rfl

theorem alerts_apply {t t' : HealthTable} {id : DriverId} {readings : DriverReadings} {nowNs : Nat}
    {eval : Evaluation} (h : t.apply id readings nowNs = .ok (eval, t')) :
    t'.alerts = t.alerts := by
  cases hd : t.find? id with
  | none =>
    unfold apply at h
    rw [get_error hd] at h
    cases h
  | some d =>
    rw [apply_ok hd] at h
    cases h
    exact alerts_modify t id _

theorem next_of_get {α : Type} (t : HealthTable) (id : DriverId) (g : DriverHealth → α)
    (f : DriverHealth → DriverHealth → DriverHealth) :
    t.next (t.get id >>= fun d => pure (g d, t.modify id (f d))) = t ∨
      ∃ f', t.next (t.get id >>= fun d => pure (g d, t.modify id (f d))) = t.modify id f' := by
  cases hd : t.find? id with
  | none =>
    rw [get_error hd]
    exact .inl rfl
  | some d =>
    rw [get_ok hd]
    exact .inr ⟨f d, rfl⟩

/-- A table in which every record has a property. -/
def Each (Q : DriverHealth → Prop) (t : HealthTable) : Prop := ∀ id d, t.find? id = some d → Q d

section Each

variable {Q : DriverHealth → Prop} {t : HealthTable} {id : DriverId}

theorem each_of_drivers_eq_nil (h : t.drivers = []) : t.Each Q := by
  intro id d hd
  unfold find? at hd
  rw [h] at hd
  split at hd <;> cases hd

theorem Each.mem (h : t.Each Q) {d : DriverHealth} (hd : d ∈ t.drivers) : Q d := by
  obtain ⟨i, hi, rfl⟩ := List.getElem_of_mem hd
  refine h ⟨i + 1⟩ _ ?_
  rw [find?, if_neg (Nat.succ_ne_zero i)]
  exact List.getElem?_eq_getElem hi

theorem Each.modify (h : t.Each Q) {f : DriverHealth → DriverHealth}
    (hf : ∀ d, t.find? id = some d → Q (f d)) : (t.modify id f).Each Q := by
  intro other d hd
  rw [find?_modify] at hd
  by_cases heq : other = id
  · subst heq
    rw [if_pos rfl] at hd
    obtain ⟨e, he, rfl⟩ := Option.map_eq_some_iff.1 hd
    exact hf e he
  · rw [if_neg heq] at hd
    exact h other d hd

theorem Each.of_get {α : Type} (h : t.Each Q) (g : DriverHealth → α)
    {f : DriverHealth → DriverHealth → DriverHealth} (hf : ∀ d, Q d → Q (f d d)) :
    (t.next (t.get id >>= fun d => pure (g d, t.modify id (f d)))).Each Q := by
  cases hd : t.find? id with
  | some d =>
    rw [get_ok hd]
    refine h.modify fun e he => ?_
    rw [hd, Option.some.injEq] at he
    exact he ▸ hf d (h id d hd)
  | none =>
    rw [get_error hd]
    exact h

end Each

/-- An operation on a driver changes the record of that driver, if anything. -/
theorem perform_of_target (t : HealthTable) {c : HealthCall} {id : DriverId}
    (htarget : c.target? = some id) :
    t.perform c = t ∨ ∃ f, t.perform c = t.modify id f := by
  cases c with
  | register | setAlerts | release => cases htarget
  | noteLeak =>
    cases htarget
    exact .inr ⟨_, rfl⟩
  | apply | recordRestart | markFailed =>
    cases htarget
    exact t.next_of_get id _ _
  | setAutoRecovery _ auto threshold =>
    cases htarget
    rw [perform, setAutoRecovery]
    by_cases hzero : threshold = 0
    · rw [if_pos hzero]
      exact .inl rfl
    · rw [if_neg hzero]
      cases hd : t.find? id with
      | none =>
        rw [get_error hd]
        exact .inl rfl
      | some d =>
        rw [get_ok hd]
        exact .inr ⟨_, rfl⟩

theorem alerts_perform {c : HealthCall} (h : c.onDrivers = true) (t : HealthTable) :
    (t.perform c).alerts = t.alerts := by
  cases htarget : c.target? with
  | some id =>
    obtain hsame | ⟨f, hmodify⟩ := t.perform_of_target htarget
    · rw [hsame]
    · rw [hmodify, alerts_modify]
  | none =>
    cases c with
    | setAlerts alerts => cases h
    | release => rfl
    | register name handle readings auto threshold nowNs =>
      rw [perform]
      cases hregister : t.register name handle readings auto threshold nowNs with
      | error e => rfl
      | ok answer =>
        obtain ⟨eval, t'⟩ := answer
        unfold register at hregister
        split at hregister
        · cases hregister
        · exact (alerts_apply hregister).trans rfl
    | apply | recordRestart | markFailed | setAutoRecovery | noteLeak => cases htarget

end HealthTable

namespace System

/-- A small step, an event of any kind, an operation on the health table with readings that a driver
reports, or the count of an attempt to restart a driver. -/
inductive Move (s : System) : System → Prop
  | step {t : System} (h : s.Step t) : Move s t
  | emitted (severity : Severity) (subsystem : Subsystem) (fill : Payload → Payload) :
      Move s ((Core.emit severity subsystem fill).run s).2
  | health (c : HealthCall) (h : c.onDrivers = true)
      (hread : ∀ r ∈ c.readings?, ∃ handle, s.env.readHandle handle = r) :
      Move s { s with core.health := s.core.health.perform c }
  | attempted :
      Move s
        { s with core.counters.recoveriesAttempted := s.core.counters.recoveriesAttempted + 1 }

/-- Moves that make no entry in the accounts and leave all levels alone. -/
abbrev SteadyMoves : System → System → Prop := Relation.ReflTransGen (Steadily [] Move)

end System

namespace Core

variable {α : Type}

/-- An action that is made of moves, makes no entry in the accounts and leaves all levels alone. -/
abbrev Movewise (a : Action α) : Prop := Within System.SteadyMoves a

theorem Steady.movewise {a : Action α} (ha : Steady a) : Movewise a :=
  .of_chain (fun h => .single ⟨⟨.step h.1.1, h.1.2⟩, h.2⟩) ha

theorem moves_onHealth {s : System} {f : HealthTable → Except TelemetryError (α × HealthTable)}
    (c : HealthCall) (hc : c.onDrivers = true)
    (hread : ∀ r ∈ c.readings?, ∃ handle, s.env.readHandle handle = r)
    (h : s.core.health.perform c = s.core.health.next (f s.core.health)) :
    s.SteadyMoves (s.call (onHealth f)).2 := by
  have hmove := System.Move.health c hc hread
  rw [h] at hmove
  unfold onHealth
  rw [System.call_get_andThen]
  split
  · rename_i a t hok
    rw [hok] at hmove
    exact .single (.of_eq hmove rfl rfl)
  · exact .refl

theorem movewise_onHealth {f : HealthTable → Except TelemetryError (α × HealthTable)}
    (c : HealthCall) (hc : c.onDrivers = true) (hread : c.readings? = none)
    (h : ∀ t : HealthTable, t.perform c = t.next (f t)) : Movewise (onHealth f).run :=
  fun s => moves_onHealth c hc (by simp [hread]) (h s.core.health)

theorem movewise_emit (severity : Severity) (subsystem : Subsystem) (fill : Payload → Payload) :
    Movewise (emit severity subsystem fill) :=
  fun _ => .single (.of_eq (.emitted severity subsystem fill) rfl rfl)

theorem movewise_emitText (severity : Severity) (subsystem : Subsystem) (message : String) :
    Movewise (emitText severity subsystem message) :=
  (movewise_emit _ _ _).bind fun _ => .pure _

theorem movewise_logTransition (name : Name) (before after : HealthStatus)
    (reason : Option String) : Movewise (logTransition name before after reason) :=
  (movewise_emit _ _ _).bind fun _ => .pure _

theorem steady_callHook (hook : HookRef) (handle : HandleRef) :
    Steady (callHook hook handle) := by
  intro s
  obtain ⟨env, hplatform, -, -, hfleet, hrun⟩ := run_callHook s hook handle
  have hreserved := congrArg SimulatedPlatform.reserved hplatform
  have henv : s.SteadySteps [] { s with env } :=
    .single (.of_eq (.surroundings env hreserved hfleet) rfl rfl)
  rw [hrun]
  dsimp only
  split
  · exact henv.tail (System.steadily_retire _)
  · exact henv

theorem movewise_giveUp (eval : Evaluation) (attemptedRestart : Bool) (reason : Option String) :
    Movewise (giveUp eval attemptedRestart reason).run := by
  refine .andThen (.lift steady_readClock.movewise) fun now => ?_
  refine (movewise_onHealth (.markFailed eval.id now attemptedRestart) rfl rfl fun t => rfl).andThen
    fun before => ?_
  exact .andThen (.lift (movewise_logTransition _ _ _ _)) fun _ => .ok _

theorem movewise_noteRestart (eval : Evaluation) : Movewise (noteRestart eval).run := by
  refine .get_andThen fun s => ?_
  have hmove := System.Move.health (s := s) (.recordRestart eval.id) rfl nofun
  rw [HealthTable.perform] at hmove
  split
  · rename_i restarts health hok
    rw [hok] at hmove
    refine .head (.of_eq hmove rfl rfl) ?_
    exact Within.andThen (.lift (movewise_emitText _ _ _)) (fun _ => .ok _) _
  · exact Within.andThen (.lift (steady_internalError _).movewise) (fun _ => .throw _) s

theorem movewise_recover (eval : Evaluation) : Movewise (recover eval).run := by
  refine .get_andThen fun s => ?_
  split
  · exact movewise_giveUp _ _ _ s
  · refine Within.andThen (.lift (.change fun s => .single (.of_eq .attempted rfl rfl)))
      (fun _ => ?_) s
    refine .andThen (.lift (movewise_emitText _ _ _)) fun _ => ?_
    refine .andThen (.lift (steady_callHook _ _).movewise) fun failure => ?_
    split
    · exact movewise_noteRestart eval
    · exact movewise_giveUp _ _ _

/-- A driver is evaluated on what a handle reports. -/
theorem movewise_evaluateDriver (id : DriverId) (handle : HandleRef) :
    Movewise (do evaluateDriver id (← readHandle handle) : Call HealthStatus).run := by
  intro s
  let t := (readClock.run s).2
  have hclock : s.SteadyMoves t := steady_readClock.movewise s
  have happly : t.SteadyMoves (t.call (onHealth
      (·.apply id (s.env.readHandle handle) (readClock.run s).1))).2 :=
    moves_onHealth (.apply _ _ _) rfl (by rintro r ⟨⟩; exact ⟨handle, rfl⟩) rfl
  refine trans_of System.SteadyMoves hclock (related_andThen happly fun eval => ?_)
  refine .andThen (.lift (Steady.movewise ?_)) fun _ => ?_
  · exact .change fun s => .single (.of_eq (.counted 0 0 1) rfl rfl)
  refine .optional (.lift (movewise_logTransition _ _ _ _)) ?_
  split
  · exact movewise_recover eval
  · exact .ok _

theorem movewise_registerDriver (handle : HandleRef) : Movewise (registerDriver handle).run := by
  refine steady_ensureReady.movewise.andThen fun _ => .get_andThen fun s => ?_
  let t := (readClock.run s).2
  have hclock : s.SteadyMoves t := steady_readClock.movewise s
  have hregister : t.SteadyMoves (t.call (onHealth
      (·.register (s.env.handleName handle) handle (s.env.readHandle handle)
        s.core.config.autoRecovery s.core.config.recoveryThreshold.toNat (readClock.run s).1))).2 :=
    moves_onHealth (.register _ _ _ _ _ _) rfl (by rintro r ⟨⟩; exact ⟨handle, rfl⟩) rfl
  refine trans_of System.SteadyMoves hclock (related_andThen hregister fun eval => ?_)
  refine .andThen (.lift (movewise_emitText _ _ _)) fun _ => ?_
  dsimp only
  split
  · exact (movewise_recover eval).andThen fun _ => .ok _
  · exact .ok _

theorem movewise_updateDriverHealth (id : DriverId) : Movewise (updateDriverHealth id).run := by
  refine steady_ensureReady.movewise.andThen fun _ => ?_
  exact (steady_readHealth _).movewise.andThen fun d => movewise_evaluateDriver _ _

theorem movewise_checkAllDriverHealth : Movewise checkAllDriverHealth.run := by
  refine steady_ensureReady.movewise.andThen fun _ => .andThen (.lift .get) fun s => ?_
  refine .andThen (.callForM (fun entry => ?_) _) fun _ => .ok _
  exact (movewise_evaluateDriver entry.1 entry.2).andThen fun _ => .ok _

theorem movewise_slice_health : Movewise (slice .health) := by
  refine .get_bind fun s => ?_
  split
  · exact .refl
  · rename_i collector hfind
    have hkind : collector.kind = .health := by simpa using List.find?_some hfind
    split
    · exact (steady_putCollector _ _).movewise s
    · have htick : Movewise (tick collector) := by
        unfold tick
        rw [hkind]
        exact (movewise_checkAllDriverHealth.map _).bind fun _ => Within.get.bind fun _ => .pure _
      exact htick.bind (fun _ => (steady_putCollector _ _).movewise) s

end Core

namespace Happening

variable {R : System → System → Prop} [IsPreorder System R]

/-- A happening keeps to whatever holds of steady moves, of the leaks that it may count, of the
levels that it may set, and of what others do in it. -/
theorem within_steady_moves {x : Happening}
    (hmove : ∀ {s t : System}, System.Steadily [] System.Move s t → R s t)
    (hleaks : x.looksForLeaks = true → ∀ (s : System) (n : Nat),
      R s { s with core.counters.leaksDetected := s.core.counters.leaksDetected + n })
    (hsetting : x.setsLevels = true → Core.Within R x.act)
    (houtside : x.Outside fun change => ∀ s : System, R s { s with env := change s.env }) :
    Core.Within R x.act := by
  have hcall : ∀ {α : Type} {c : Call α}, Core.Movewise c.run → Core.Within R (Core.attempt c) :=
    fun hc => .attempt (.of_chain hmove hc)
  cases hx : x.evaluates with
  | false =>
    exact within_steady_act (fun h => hmove ⟨⟨.step h.1.1, h.1.2⟩, h.2⟩) hleaks hsetting
      (fun _ _ _ _ => .of_chain hmove (Core.movewise_emit _ _ _))
      (fun handle => .of_chain hmove (Core.movewise_registerDriver handle)) hx houtside
  | true =>
    cases x with
    | updateDriverHealth id => exact hcall (Core.movewise_updateDriverHealth id)
    | checkAllDriverHealth => exact hcall Core.movewise_checkAllDriverHealth
    | backgroundSlice => exact hsetting rfl
    | _ => cases hx

/-- A slice of time of all collectors keeps to whatever holds of steady moves, of counting leaks,
and of what the performance collector does. -/
theorem within_backgroundSlice
    (hmove : ∀ {s t : System}, System.Steadily [] System.Move s t → R s t)
    (hleaks : ∀ (s : System) (n : Nat),
      R s { s with core.counters.leaksDetected := s.core.counters.leaksDetected + n })
    {s : System} (hperformance : R s ((Core.slice .performance).run s).2) :
    R s (s.perform .backgroundSlice) := by
  let t := ((Core.slice .performance).run s).2
  let u := ((Core.slice .health).run t).2
  have hhealth : R t u :=
    System.related_of_chain (R := R) hmove (Core.movewise_slice_health t)
  have hanalytics : R u (s.perform .backgroundSlice) :=
    (System.scans_slice_analytics u).related (fun h => hmove ⟨⟨.step h.1.1, h.1.2⟩, h.2⟩) hleaks
  exact trans_of R hperformance (trans_of R hhealth hanalytics)

/-- A happening keeps to whatever holds of quiet moves, of the entries that it may make in the
accounts, and of what others do in it. -/
theorem within_quiet_moves {x : Happening}
    (hmove : ∀ {s t : System}, System.Quietly System.Move s t → R s t)
    (hentry : ∀ {s t : System}, x.Entry s t → R s t)
    (houtside : x.Outside fun change => ∀ s : System, R s { s with env := change s.env }) :
    Core.Within R x.act := by
  have hstep : ∀ {s t : System}, System.Quietly System.Step s t → R s t :=
    fun h => hmove ⟨.step h.1, h.2⟩
  refine within_steady_moves (fun h => hmove h.1) (fun hx s n => hentry (.leaks hx s n))
    (fun hx => ?_) houtside
  cases h : x.evaluates with
  | false => exact within_setting hstep hentry hx h
  | true =>
    cases x with
    | backgroundSlice =>
      refine fun s => within_backgroundSlice (fun h => hmove h.1)
        (fun s n => hentry (.leaks rfl s n)) ?_
      exact System.related_of_chain (R := R) hstep (Core.stepwise_slice_performance s)
    | updateDriverHealth | checkAllDriverHealth => cases hx
    | _ => cases h

/-- A happening keeps to whatever holds of moves and of what others do in it. -/
theorem within_moves (hmove : ∀ {s t : System}, s.Move t → R s t) (x : Happening)
    (houtside : x.Outside fun change => ∀ s : System, R s { s with env := change s.env }) :
    Core.Within R x.act := by
  refine within_quiet_moves (fun h => hmove h.1) (fun h => ?_) houtside
  exact System.related_of_chain (R := R) (fun hstep => hmove (.step hstep)) h.steps

end Happening

end DriverTelemetry
