import DriverTelemetry.Proofs.HealthCalls
import DriverTelemetry.Proofs.Starting

/-!
# The memory that a core reserves

`System.Holds` is the ledger of a core: as long as it accepts calls it holds the bytes that it has
reserved, on top of what others have, and afterwards nothing. Every move keeps the ledger. A start
either gets that far or gives back what it has taken, at whichever of its steps it fails, and a
shutdown gives back everything.
-/

namespace DriverTelemetry

namespace Reservation

/-- A reservation whose bytes are what has been reserved on top of `base`. -/
def Owes (base : Nat) (r : Reservation) : Prop := r.env.platform.reserved = base + r.bytes

/-- A request that keeps account of what it reserves: `bytes` bytes if it succeeds. -/
def Takes {α : Type} (bytes : Nat) (c : ExceptT TelemetryError (StateM Reservation) α) : Prop :=
  ∀ (base : Nat) (r : Reservation), r.Owes base →
    (c.run.run r).2.Owes base ∧ ∀ a, (c.run.run r).1 = .ok a → (c.run.run r).2.bytes = r.bytes + bytes

variable {α β : Type} {m n : Nat} {c : ExceptT TelemetryError (StateM Reservation) α}

theorem Takes.pure (a : α) : Takes 0 (pure a) := fun _ _ h => ⟨h, fun _ _ => rfl⟩

theorem Takes.throw (e : TelemetryError) :
    Takes n (throw e : ExceptT TelemetryError (StateM Reservation) α) :=
  fun _ _ h => ⟨h, fun _ hok => by cases hok⟩

theorem Takes.bind {f : α → ExceptT TelemetryError (StateM Reservation) β} (hc : Takes m c)
    (hf : ∀ a, Takes n (f a)) : Takes (m + n) (c >>= f) := by
  intro base r h
  obtain ⟨howes, hbytes⟩ := hc base r h
  obtain ⟨outcome, r', hrun⟩ : ∃ outcome r', c.run.run r = (outcome, r') := ⟨_, _, rfl⟩
  rw [hrun] at howes hbytes
  cases outcome with
  | error e =>
    rw [StateM.run_andThen_error hrun]
    exact ⟨howes, fun _ hok => by cases hok⟩
  | ok a =>
    rw [StateM.run_andThen_ok hrun]
    obtain ⟨howes', hbytes'⟩ := hf a base r' howes
    refine ⟨howes', fun b hok => ?_⟩
    rw [hbytes' b hok, hbytes a rfl, Nat.add_assoc]

theorem takes_lift (x : Except TelemetryError α) :
    Takes 0 (liftM x : ExceptT TelemetryError (StateM Reservation) α) := by
  cases x with
  | ok a => exact .pure a
  | error e => exact .throw e

theorem takes_get {f : Reservation → ExceptT TelemetryError (StateM Reservation) α}
    (h : ∀ base r, r.Owes base → ((f r).run.run r).2.Owes base ∧
      ∀ a, ((f r).run.run r).1 = .ok a → ((f r).run.run r).2.bytes = r.bytes + n) :
    Takes n (get >>= f) :=
  h

theorem takes_reserve (bytes : Nat) : Takes bytes (reserve bytes) := by
  refine takes_get fun base r h => ?_
  cases hgranted : r.env.platform.reserve bytes with
  | error e => exact ⟨h, fun _ hok => by cases hok⟩
  | ok platform =>
    have hreserved : platform.reserved = r.env.platform.reserved + bytes := by
      unfold SimulatedPlatform.reserve at hgranted
      split at hgranted
      · cases hgranted
        rfl
      · cases hgranted
    refine ⟨?_, fun _ _ => rfl⟩
    change platform.reserved = base + (r.bytes + bytes)
    rw [hreserved, h, Nat.add_assoc]

theorem takes_allocate : Takes 0 allocate := by
  refine takes_get fun base r h => ?_
  split
  · exact ⟨h, fun _ _ => rfl⟩
  · exact ⟨h, fun _ hok => by cases hok⟩
  · exact ⟨h, fun _ _ => rfl⟩

theorem takes_acquire (bytes : Nat) (create : Except TelemetryError α) :
    Takes bytes (acquire bytes create) := by
  have h : Takes (bytes + (0 + (0 + 0))) (acquire bytes create) :=
    (takes_reserve bytes).bind fun _ => (takes_lift create).bind fun table =>
      takes_allocate.bind fun _ => .pure table
  exact h

/-- A reservation that is cancelled leaves what others have reserved. -/
theorem Owes.reserved_cancel {base : Nat} {r : Reservation} (h : r.Owes base) :
    r.cancel.platform.reserved = base := by
  change r.env.platform.reserved - r.bytes = base
  rw [h, Nat.add_sub_cancel]

end Reservation

theorem Core.takes_acquireTables (config : Config) :
    Reservation.Takes (tableFootprints config).sum (acquireTables config) := by
  refine (Reservation.takes_acquire _ _).bind fun registry => ?_
  refine (Reservation.takes_acquire _ _).bind fun events => ?_
  exact (Reservation.takes_acquire _ _).bind fun tracker => .pure _

namespace System

/-- A core that holds the bytes that it has reserved for as long as it accepts calls, on top of what
others have reserved. -/
structure Holds (base bytes : Nat) (s : System) : Prop where
  reservedBytes_eq : s.core.reservedBytes = bytes
  reserved_eq : s.env.platform.reserved = base + if s.core.initialized then bytes else 0

variable {base bytes : Nat} {s t : System}

theorem Holds.of_eq (h : s.Holds base bytes) (hbytes : t.core.reservedBytes = s.core.reservedBytes)
    (hreserved : t.env.platform.reserved = s.env.platform.reserved)
    (hready : t.core.initialized = s.core.initialized) : t.Holds base bytes :=
  ⟨hbytes.trans h.reservedBytes_eq, by rw [hreserved, hready, h.reserved_eq]⟩

theorem retire_retire (s : System) : s.retire.retire = s.retire := by
  rw [retire, if_neg (by simp)]

/-- A shutdown gives back what the core holds. -/
theorem Holds.retire (h : s.Holds base bytes) : s.retire.Holds base bytes := by
  unfold System.retire
  split
  · rename_i hready
    have hreserved := h.reserved_eq
    rw [if_pos hready] at hreserved
    refine ⟨h.reservedBytes_eq, ?_⟩
    change s.env.platform.reserved - s.core.reservedBytes = base + 0
    rw [hreserved, h.reservedBytes_eq, Nat.add_sub_cancel, Nat.add_zero]
  · exact h

theorem Holds.step (h : s.Holds base bytes) (hstep : s.Step t) : t.Holds base bytes := by
  cases hstep with
  | surroundings env henv _ => exact h.of_eq rfl henv rfl
  | retired => exact h.retire
  | _ => exact h.of_eq rfl rfl rfl

theorem Holds.steps (h : s.Holds base bytes) (hsteps : s.Steps t) : t.Holds base bytes := by
  induction hsteps with
  | refl => exact h
  | tail _ hstep ih => exact ih.step hstep

theorem Holds.move (h : s.Holds base bytes) (hmove : s.Move t) : t.Holds base bytes := by
  cases hmove with
  | step hstep => exact h.step hstep
  | emitted => exact h.of_eq rfl rfl rfl
  | health c => exact h.of_eq rfl rfl rfl
  | attempted => exact h.of_eq rfl rfl rfl

/-- A system whose core holds what the core of another does. -/
def KeepsHolding (s t : System) : Prop := ∀ base bytes, s.Holds base bytes → t.Holds base bytes

instance : IsPreorder System KeepsHolding where
  refl _ _ _ h := h
  trans _ _ _ h₁ h₂ base bytes h := h₂ base bytes (h₁ base bytes h)

end System

/-- A happening in which others reserve no memory and give none back. -/
def Happening.SparesMemory (x : Happening) : Prop :=
  x.Outside fun change => ∀ env, (change env).platform.reserved = env.platform.reserved

namespace System

variable {base bytes : Nat} {s t : System}

theorem Holds.perform (h : s.Holds base bytes) {x : Happening} (hx : x.SparesMemory) :
    (s.perform x).Holds base bytes := by
  have houtside : x.Outside fun change =>
      ∀ s : System, s.KeepsHolding { s with env := change s.env } := by
    cases x with
    | surroundings change => exact fun s base bytes h => h.of_eq rfl (hx s.env) rfl
    | benchmark name iterations operation =>
      exact fun i s base bytes h => h.of_eq rfl (hx i s.env) rfl
    | _ => trivial
  exact x.within_moves (fun hmove base bytes h => h.move hmove) houtside s base bytes h

/-- A core holds what it has reserved whatever happens to it, as long as others reserve nothing. -/
theorem Holds.after (h : s.Holds base bytes) {xs : List Happening}
    (hxs : ∀ x ∈ xs, x.SparesMemory) : (s.after xs).Holds base bytes := by
  induction xs generalizing s with
  | nil => exact h
  | cons x rest ih =>
    exact ih (h.perform (hxs x (by simp))) fun y hy => hxs y (List.mem_cons_of_mem x hy)

instance : IsPreorder System SameStanding where
  refl _ := ⟨rfl, rfl, rfl⟩
  trans _ _ _ := SameStanding.trans

end System

namespace Core

open DriverTelemetry.System

section Standing

theorem standing_ensureReady : Within SameStanding ensureReady.run := by
  refine .get_andThen fun s => ?_
  split
  · exact refl _
  · exact refl _

theorem standing_readClock : Within SameStanding readClock := fun _ => ⟨rfl, rfl, rfl⟩

theorem standing_emit (severity : Severity) (subsystem : Subsystem) (fill : Payload → Payload) :
    Within SameStanding (emit severity subsystem fill) :=
  fun _ => ⟨rfl, rfl, rfl⟩

theorem standing_registerMetric (name description : String) (kind : MetricKind)
    (subsystem : Subsystem) :
    Within SameStanding (registerMetric name description kind subsystem).run := by
  refine standing_ensureReady.andThen fun _ => .andThen (.lift standing_readClock) fun now => ?_
  refine .andThen (.get_andThen fun s => ?_) fun id =>
    .andThen (.lift (standing_emit _ _ _)) fun _ => .ok _
  split
  · exact ⟨rfl, rfl, rfl⟩
  · exact refl _

theorem standing_platformError (e : PlatformError) : Within SameStanding (platformError e) := by
  unfold platformError
  split
  · exact ((standing_emit _ _ _).bind fun _ => .pure _).bind fun _ => .pure _
  · exact .pure _

theorem standing_startCollector (collector : Collector) :
    Within SameStanding (startCollector collector).run := by
  refine .get_andThen fun s => ?_
  split
  · exact ⟨rfl, rfl, rfl⟩
  · exact Within.andThen (.lift (standing_platformError _)) (fun _ => .throw _) s

theorem standing_bootstrap : Within SameStanding bootstrap.run :=
  within_bootstrap standing_registerMetric (fun _ _ => ⟨rfl, rfl, rfl⟩) standing_startCollector

end Standing

variable {number : Nat} {config : Config} {env env' : Environment} {e : TelemetryError}
  {s t : System}

theorem prepare_error (h : prepare number config env = .error (e, env')) :
    env'.platform.reserved = env.platform.reserved := by
  unfold prepare at h
  split at h
  · cases h
    rfl
  · have howes : Reservation.Owes env.platform.reserved { env } := rfl
    obtain ⟨hafter, -⟩ := takes_acquireTables config _ _ howes
    split at h
    · rename_i r hacquired
      rw [hacquired] at hafter
      cases h
      exact hafter.reserved_cancel
    · cases h

/-- A core on its tables holds what they take. -/
theorem holds_of_prepare (h : prepare number config env = .ok s) :
    s.Holds env.platform.reserved (tableFootprints config).sum ∧ s.core.initialized = true := by
  obtain ⟨-, tables, r, hacquired, rfl⟩ := prepare_ok h
  have howes : Reservation.Owes env.platform.reserved { env } := rfl
  obtain ⟨hafter, hbytes⟩ := takes_acquireTables config _ _ howes
  rw [hacquired] at hafter hbytes
  have hsum : r.bytes = (tableFootprints config).sum := (hbytes tables rfl).trans (Nat.zero_add _)
  refine ⟨⟨hsum, ?_⟩, rfl⟩
  change r.env.platform.reserved = env.platform.reserved + (tableFootprints config).sum
  rw [← hsum]
  exact hafter

/-- Completing a core fails before the announcement, and the core is shut down then. -/
theorem complete_error (hready : s.core.initialized = true) (h : complete s = (.error e, t)) :
    ∃ u, s.Steps u ∧ u.core.initialized = true ∧ t = u.retire := by
  have hsteps := System.QuietSteps.steps (stepwise_bootstrap s)
  have hstanding := standing_bootstrap s
  change s.Steps (s.call bootstrap).2 at hsteps
  change s.SameStanding (s.call bootstrap).2 at hstanding
  unfold complete at h
  split at h
  · rename_i u hbootstrap
    rw [hbootstrap] at hsteps hstanding
    cases h
    exact ⟨u, hsteps, hstanding.initialized_eq.trans hready, rfl⟩
  · rename_i u hbootstrap
    rw [hbootstrap] at hstanding
    obtain ⟨v, hannounced, -⟩ := announce_ok (hstanding.initialized_eq.trans hready)
    rw [hannounced] at h
    cases h

theorem initialized_of_complete (hready : s.core.initialized = true)
    (h : complete s = (.ok (), t)) : t.core.initialized = true := by
  have hstanding := standing_bootstrap s
  change s.SameStanding (s.call bootstrap).2 at hstanding
  unfold complete at h
  split at h
  · cases h
  · rename_i u hbootstrap
    rw [hbootstrap] at hstanding
    have hu := hstanding.initialized_eq.trans hready
    obtain ⟨v, hannounced, hsame, -⟩ := announce_ok hu
    rw [hannounced] at h
    cases h
    exact hsame.initialized_eq.trans hu

theorem start_error (h : start number config env = (.error e, env')) :
    prepare number config env = .error (e, env') ∨
      ∃ s t, prepare number config env = .ok s ∧ complete s = (.error e, t) ∧ env' = t.env := by
  unfold start at h
  split at h
  · rename_i hprepared
    cases h
    exact .inl hprepared
  · rename_i s hprepared
    split at h
    · rename_i t hcompleted
      cases h
      exact .inr ⟨s, t, hprepared, hcompleted, rfl⟩
    · cases h

/-- Shutting down again changes nothing. -/
theorem after_shutdowns (s : System) (n : Nat) :
    s.retire.after (List.replicate n .shutdown) = s.retire := by
  induction n with
  | zero => rfl
  | succ n ih =>
    change s.retire.retire.after (List.replicate n .shutdown) = _
    rw [s.retire_retire, ih]

/-- A start that fails, at whichever of its steps, leaves the reserved memory as it was, and a core
that it had already made owns no collector. A start that succeeds has reserved what the tables take,
and whatever happens to the core then, a shutdown gives back exactly that; further shutdowns change
nothing. -/
theorem start_all_or_nothing (number : Nat) (config : Config) (env : Environment) :
    (∀ e env', start number config env = (.error e, env') →
      env'.platform.reserved = env.platform.reserved ∧
      ∀ s, prepare number config env = .ok s → (complete s).2.core.collectors = []) ∧
    ∀ core env', start number config env = (.ok core, env') →
      core.initialized = true ∧
      env'.platform.reserved = env.platform.reserved + (tableFootprints config).sum ∧
      ∀ xs : List Happening, (∀ x ∈ xs, x.SparesMemory) →
        let s := (System.after { env := env', core } xs).perform .shutdown
        s.env.platform.reserved = env.platform.reserved ∧
        ∀ n, s.after (List.replicate n .shutdown) = s := by
  refine ⟨fun e env' hfailed => ?_, fun core env' hstarted => ?_⟩
  · obtain hprepared | ⟨s, t, hprepared, hcompleted, rfl⟩ := start_error hfailed
    · refine ⟨prepare_error hprepared, fun s hs => ?_⟩
      rw [hprepared] at hs
      cases hs
    · obtain ⟨hholds, hready⟩ := holds_of_prepare hprepared
      obtain ⟨u, hsteps, hu, rfl⟩ := complete_error hready hcompleted
      have hreserved := (hholds.steps hsteps).retire.reserved_eq
      rw [u.initialized_retire] at hreserved
      refine ⟨hreserved, fun s' hs' => ?_⟩
      rw [hprepared] at hs'
      cases hs'
      rw [hcompleted, System.retire, if_pos hu]
      rfl
  · obtain ⟨s, hprepared, hcompleted⟩ := start_ok hstarted
    obtain ⟨hholds, hready⟩ := holds_of_prepare hprepared
    have hstart := hholds.steps (complete_ok hcompleted)
    have hready' := initialized_of_complete hready hcompleted
    have hreserved := hstart.reserved_eq
    rw [hready'] at hreserved
    refine ⟨hready', hreserved, fun xs hxs => ?_⟩
    have hend := (hstart.after hxs).retire.reserved_eq
    rw [initialized_retire] at hend
    exact ⟨hend, after_shutdowns _⟩

/-- The platform refuses the second of three collectors. -/
example :
    (match start 0 {} { platform.spawnRefusal := some .threadSpawnFailed, platform.spawnsLeft := 1 }
      with
      | (.error e, env) => decide (e = .allocationFailed ∧ env.platform.reserved = 0)
      | (.ok _, _) => false) = true := by
  decide +kernel

end Core

end DriverTelemetry
