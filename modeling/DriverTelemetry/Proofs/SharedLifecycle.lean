import DriverTelemetry.Proofs.Recovery
import DriverTelemetry.Proofs.ReservedMemory
import DriverTelemetry.SharedInstance

/-!
# The lives of the shared instance

Two things come and go: the installation of a core for everyone, and the core that is installed. A
shutdown of the shared instance ends both, but a shutdown through a handle ends the core only, which
stays installed and is answered by every `init` until the next shutdown of the shared instance.
`SharedInstance.Lawful` says for either of them what its state is after any sequence of calls.
-/

namespace DriverTelemetry

/-- A call that starts or ends something; and, between such calls, a change of the surroundings, as
when starts fail for lack of memory and succeed later. -/
inductive LifecycleCall where
  | init (config : Config)
  | shutdown
  | shutdownHandle (place : Nat)
  | surroundings (change : Environment → Environment)

/-- Whether the core at a place accepts calls. -/
def Host.accepts (h : Host) (place : Nat) : Bool :=
  (h.cores[place]?.map (·.initialized)).getD false

namespace SharedInstance

/-- The shared instance of a program that has not started a core. -/
def vacant (env : Environment) : SharedInstance := { host := { env } }

def perform (g : SharedInstance) : LifecycleCall → SharedInstance
  | .init config => (g.init config).2
  | .shutdown => g.shutdown
  | .shutdownHandle place => g.shutdownHandle place
  | .surroundings change => { g with host := { g.host with env := change g.host.env } }

def after (g : SharedInstance) (calls : List LifecycleCall) : SharedInstance :=
  calls.foldl perform g

/-- One of the calls was a shutdown through a handle of the core at a place, which had been started
by then. -/
def ShutThroughHandle (g : SharedInstance) (calls : List LifecycleCall) (place : Nat) : Prop :=
  ∃ earlier later, calls = earlier ++ .shutdownHandle place :: later ∧
    place < (g.after earlier).host.cores.length

/-- One of the calls was an `init` that has succeeded, and there was no shutdown of the shared
instance after it. -/
def InitSinceShutdown (g : SharedInstance) (calls : List LifecycleCall) : Prop :=
  ∃ earlier config later place, calls = earlier ++ .init config :: later ∧
    ((g.after earlier).init config).1 = .ok place ∧ .shutdown ∉ later

variable {g g' : SharedInstance} {calls : List LifecycleCall} {c : LifecycleCall}
variable {place other : Nat} {config : Config}

theorem after_concat (g : SharedInstance) (calls : List LifecycleCall) (c : LifecycleCall) :
    g.after (calls ++ [c]) = (g.after calls).perform c := by
  simp [after]

section Sequences

theorem shutThroughHandle_concat :
    g.ShutThroughHandle (calls ++ [c]) place ↔ g.ShutThroughHandle calls place ∨
      (c = .shutdownHandle place ∧ place < (g.after calls).host.cores.length) := by
  constructor
  · rintro ⟨earlier, later, hsplit, hlt⟩
    rcases concat_eq_append_cons hsplit with ⟨rfl, rfl, -⟩ | ⟨rest, -, hcalls⟩
    · exact .inr ⟨rfl, hlt⟩
    · exact .inl ⟨earlier, rest, hcalls, hlt⟩
  · rintro (⟨earlier, later, rfl, hlt⟩ | ⟨rfl, hlt⟩)
    · exact ⟨earlier, later ++ [c], by simp, hlt⟩
    · exact ⟨calls, [], rfl, hlt⟩

theorem initSinceShutdown_concat :
    g.InitSinceShutdown (calls ++ [c]) ↔ (g.InitSinceShutdown calls ∧ c ≠ .shutdown) ∨
      ∃ config place, c = .init config ∧ ((g.after calls).init config).1 = .ok place := by
  constructor
  · rintro ⟨earlier, config, later, place, hsplit, hok, hlater⟩
    rcases concat_eq_append_cons hsplit with ⟨rfl, rfl, -⟩ | ⟨rest, rfl, hcalls⟩
    · exact .inr ⟨config, place, rfl, hok⟩
    · rw [List.mem_append, List.mem_singleton, not_or] at hlater
      exact .inl ⟨⟨earlier, config, rest, place, hcalls, hok, hlater.1⟩, Ne.symm hlater.2⟩
  · rintro (⟨⟨earlier, config, later, place, rfl, hok, hlater⟩, hc⟩ | ⟨config, place, rfl, hok⟩)
    · refine ⟨earlier, config, later ++ [c], place, by simp, hok, ?_⟩
      simp [hlater, Ne.symm hc]
    · exact ⟨calls, config, [], place, rfl, hok, by simp⟩

end Sequences

section Cores

theorem initialized_of_start {number : Nat} {env env' : Environment} {core : Core}
    (h : Core.start number config env = (.ok core, env')) : core.initialized = true := by
  obtain ⟨s, hprepared, hcompleted⟩ := Core.start_ok h
  exact Core.initialized_of_complete (Core.holds_of_prepare hprepared).2 hcompleted

/-- What an `init` does: it answers the installed core, or installs one that it has started, or
fails to start one. -/
theorem init_cases (g : SharedInstance) (config : Config) :
    (∃ place, g.installed = some place ∧ g.init config = (.ok place, g)) ∨
    (g.installed = none ∧ ∃ core env, core.initialized = true ∧
      g.init config = (.ok g.host.cores.length,
        { host := { env, cores := g.host.cores ++ [core] }
          installed := some g.host.cores.length })) ∨
    (g.installed = none ∧ ∃ e host, host.cores = g.host.cores ∧
      g.init config = (.error e, { g with host })) := by
  cases hinstalled : g.installed with
  | some place => exact .inl ⟨place, rfl, by simp [init, hinstalled]⟩
  | none =>
    right
    cases hstart : Core.start g.host.cores.length config g.host.env with
    | mk outcome env =>
      cases outcome with
      | ok core =>
        exact .inl ⟨rfl, core, env, initialized_of_start hstart,
          by simp [init, hinstalled, Host.start, hstart]⟩
      | error e =>
        exact .inr ⟨rfl, e, { g.host with env }, rfl,
          by simp [init, hinstalled, Host.start, hstart]⟩

theorem length_shutdown (h : Host) (place : Nat) :
    (h.shutdown place).cores.length = h.cores.length := by
  unfold Host.shutdown Host.act?
  split
  · rfl
  · exact List.length_set

/-- A shutdown ends the core at its place and leaves the others as they were. -/
theorem accepts_shutdown (h : Host) (place other : Nat) :
    (h.shutdown place).accepts other = (decide (other ≠ place) && h.accepts other) := by
  cases hcore : h.cores[place]? with
  | none =>
    have hsame : h.shutdown place = h := by simp [Host.shutdown, Host.act?, hcore]
    by_cases hother : other = place
    · simp [hsame, hother, Host.accepts, hcore]
    · simp [hsame, hother]
  | some core =>
    let s : System := { env := h.env, core }
    have hcores : (h.shutdown place).cores = h.cores.set place s.retire.core := by
      simp only [Host.shutdown, Host.act?, hcore]
      rfl
    obtain ⟨hlt, -⟩ := List.getElem?_eq_some_iff.1 hcore
    by_cases hother : other = place
    · simp [Host.accepts, hcores, hother, hlt]
    · simp [Host.accepts, hcores, hother, List.getElem?_set_ne (Ne.symm hother)]

theorem accepts_append (cores : List Core) (core : Core) (env : Environment) :
    Host.accepts { env, cores := cores ++ [core] } cores.length = core.initialized := by
  simp [Host.accepts]

/-- Places are never given up. -/
theorem length_le_perform (g : SharedInstance) (c : LifecycleCall) :
    g.host.cores.length ≤ (g.perform c).host.cores.length := by
  cases c with
  | init config =>
    rcases g.init_cases config with ⟨place, -, h⟩ | ⟨-, core, env, -, h⟩ | ⟨-, e, host, hcores, h⟩
    · simp [perform, h]
    · simp [perform, h]
    · simp [perform, h, hcores]
  | shutdown =>
    cases hinstalled : g.installed with
    | none => simp [perform, shutdown, hinstalled]
    | some place => simp [perform, shutdown, hinstalled, length_shutdown]
  | shutdownHandle place => simp [perform, shutdownHandle, length_shutdown]
  | surroundings change => exact Nat.le_refl _

theorem ShutThroughHandle.lt (h : g.ShutThroughHandle calls place) :
    place < (g.after calls).host.cores.length := by
  induction calls using List.reverseRecOn with
  | nil =>
    obtain ⟨earlier, later, hsplit, -⟩ := h
    simp at hsplit
  | append_singleton calls c ih =>
    rw [after_concat]
    refine Nat.lt_of_lt_of_le ?_ (length_le_perform _ c)
    rcases shutThroughHandle_concat.1 h with hearlier | ⟨-, hlt⟩
    · exact ih hearlier
    · exact hlt

end Cores

/-- What is installed after a sequence of calls, and whether it accepts calls. -/
structure Lawful (g : SharedInstance) (calls : List LifecycleCall) : Prop where
  started : ∀ place, (g.after calls).installed = some place →
    place < (g.after calls).host.cores.length
  accepts_iff : ∀ place, (g.after calls).installed = some place →
    ((g.after calls).host.accepts place = true ↔ ¬ g.ShutThroughHandle calls place)
  installed_iff : (g.after calls).isInitialized = true ↔ g.InitSinceShutdown calls

theorem lawful_nil (env : Environment) : Lawful (vacant env) [] where
  started := by
    intro place h
    cases h
  accepts_iff := by
    intro place h
    cases h
  installed_iff := by
    constructor
    · intro h
      cases h
    · rintro ⟨earlier, config, later, place, hsplit, -⟩
      simp at hsplit

/-- A call that leaves the installation alone, and does not shut down the installed core. -/
theorem Lawful.concat_of_same (h : Lawful g calls)
    (hinstalled : (g.after (calls ++ [c])).installed = (g.after calls).installed)
    (hlength : (g.after calls).host.cores.length ≤ (g.after (calls ++ [c])).host.cores.length)
    (haccepts : ∀ place, (g.after calls).installed = some place →
      ((g.after (calls ++ [c])).host.accepts place = true ↔
        (g.after calls).host.accepts place = true ∧ c ≠ .shutdownHandle place))
    (hshutdown : c ≠ .shutdown)
    (hinit : ∀ config place, c = .init config →
      ((g.after calls).init config).1 = .ok place → (g.after calls).isInitialized = true) :
    Lawful g (calls ++ [c]) where
  started := by
    intro place hplace
    rw [hinstalled] at hplace
    exact Nat.lt_of_lt_of_le (h.started place hplace) hlength
  accepts_iff := by
    intro place hplace
    rw [hinstalled] at hplace
    rw [haccepts place hplace, h.accepts_iff place hplace, shutThroughHandle_concat, not_or,
      not_and]
    have hlt := h.started place hplace
    tauto
  installed_iff := by
    have hsame : (g.after (calls ++ [c])).isInitialized = (g.after calls).isInitialized := by
      simp only [isInitialized, hinstalled]
    rw [hsame, initSinceShutdown_concat]
    constructor
    · intro hsome
      exact .inl ⟨h.installed_iff.1 hsome, hshutdown⟩
    · rintro (⟨hearlier, -⟩ | ⟨config, place, hc, hok⟩)
      · exact h.installed_iff.2 hearlier
      · exact hinit config place hc hok

theorem Lawful.init (h : Lawful g calls) (config : Config) :
    Lawful g (calls ++ [.init config]) := by
  have hafter : g.after (calls ++ [.init config]) = ((g.after calls).init config).2 :=
    after_concat g calls _
  rcases (g.after calls).init_cases config with
    ⟨place, hinstalled, hinit⟩ | ⟨-, core, env, hready, hinit⟩ | ⟨hvacant, e, host, hcores, hinit⟩
  · rw [hinit] at hafter
    refine h.concat_of_same (by rw [hafter]) (by rw [hafter]) ?_ (by simp) ?_
    · intro place _
      simp [hafter]
    · intro config place _ _
      simp [isInitialized, hinstalled]
  · rw [hinit] at hafter
    -- no handle of a core that has just been started has been used before
    have hunused : ∀ place, place = (g.after calls).host.cores.length →
        ¬ g.ShutThroughHandle (calls ++ [.init config]) place := by
      rintro place rfl hshut
      rcases shutThroughHandle_concat.1 hshut with hearlier | ⟨hc, -⟩
      · exact Nat.lt_irrefl _ hearlier.lt
      · cases hc
    refine ⟨?_, ?_, ?_⟩
    · intro place hplace
      rw [hafter] at hplace ⊢
      cases hplace
      simp
    · intro place hplace
      rw [hafter] at hplace
      cases hplace
      rw [hafter, accepts_append]
      exact iff_of_true hready (hunused _ rfl)
    · rw [hafter]
      have hok : ((g.after calls).init config).1 = .ok (g.after calls).host.cores.length := by
        rw [hinit]
      exact iff_of_true rfl (initSinceShutdown_concat.2 (.inr ⟨config, _, rfl, hok⟩))
  · rw [hinit] at hafter
    refine h.concat_of_same (by rw [hafter]) (by rw [hafter, hcores]) ?_ (by simp) ?_
    · intro place hplace
      rw [hvacant] at hplace
      cases hplace
    · intro config' place hc hok
      cases hc
      rw [hinit] at hok
      cases hok

/-- After a shutdown nothing is installed, whatever has been before. -/
theorem lawful_shutdown (g : SharedInstance) (calls : List LifecycleCall) :
    Lawful g (calls ++ [.shutdown]) := by
  have hvacant : (g.after (calls ++ [.shutdown])).installed = none := by
    rw [after_concat]
    cases hinstalled : (g.after calls).installed with
    | none => simp [perform, SharedInstance.shutdown, hinstalled]
    | some place => simp [perform, SharedInstance.shutdown, hinstalled]
  refine ⟨?_, ?_, ?_⟩
  · intro place hplace
    simp [hvacant] at hplace
  · intro place hplace
    simp [hvacant] at hplace
  · rw [initSinceShutdown_concat]
    simp [isInitialized, hvacant]

theorem Lawful.shutdownHandle (h : Lawful g calls) (place : Nat) :
    Lawful g (calls ++ [.shutdownHandle place]) := by
  have hafter : g.after (calls ++ [.shutdownHandle place]) = (g.after calls).shutdownHandle place :=
    after_concat g calls _
  refine h.concat_of_same (by rw [hafter]; rfl) ?_ ?_ (by simp) (by simp)
  · rw [hafter]
    exact (length_shutdown _ place).ge
  · intro other _
    rw [hafter]
    change ((g.after calls).host.shutdown place).accepts other = true ↔ _
    rw [accepts_shutdown]
    simp only [ne_eq, Bool.and_eq_true, decide_eq_true_eq, LifecycleCall.shutdownHandle.injEq]
    tauto

theorem Lawful.surroundings (h : Lawful g calls) (change : Environment → Environment) :
    Lawful g (calls ++ [.surroundings change]) := by
  have hafter := after_concat g calls (.surroundings change)
  refine h.concat_of_same (by rw [hafter]; rfl) (by rw [hafter]; exact Nat.le_refl _) ?_ (by simp)
    (by simp)
  intro place _
  rw [hafter]
  simp [perform, Host.accepts]

theorem lawful_after (env : Environment) (calls : List LifecycleCall) :
    Lawful (vacant env) calls := by
  induction calls using List.reverseRecOn with
  | nil => exact lawful_nil env
  | append_singleton calls c ih =>
    cases c with
    | init config => exact ih.init config
    | shutdown => exact lawful_shutdown _ calls
    | shutdownHandle place => exact ih.shutdownHandle place
    | surroundings change => exact ih.surroundings change

/-- **What the shared instance promises.** After any sequence of calls, an `init` that succeeds
answers the core that is installed then, and that core accepts calls unless it has been shut down
through one of its handles. The shared instance counts as initialized if and only if an `init` has
succeeded since its last shutdown, and the core that is installed then accepts calls under the same
condition. -/
theorem init_answers_installed_core (env : Environment) (calls : List LifecycleCall) :
    let g := (vacant env).after calls
    (∀ config place g', g.init config = (.ok place, g') →
      g'.installed = some place ∧
      (g'.host.accepts place = true ↔ ¬ (vacant env).ShutThroughHandle calls place)) ∧
    (g.isInitialized = true ↔ (vacant env).InitSinceShutdown calls) ∧
    ∀ place, g.installed = some place →
      (g.host.accepts place = true ↔ ¬ (vacant env).ShutThroughHandle calls place) := by
  intro g
  have hlawful := lawful_after env calls
  refine ⟨?_, hlawful.installed_iff, hlawful.accepts_iff⟩
  intro config place g' hinit
  have hafter : (vacant env).after (calls ++ [.init config]) = g' := by
    rw [after_concat]
    change (g.init config).2 = g'
    rw [hinit]
  have hinstalled : g'.installed = some place := by
    rcases g.init_cases config with
      ⟨place', hinstalled, h⟩ | ⟨-, core, env', -, h⟩ | ⟨-, e, host, -, h⟩
    · rw [h] at hinit
      cases hinit
      exact hinstalled
    · rw [h] at hinit
      cases hinit
      rfl
    · rw [h] at hinit
      cases hinit
  refine ⟨hinstalled, ?_⟩
  have haccepts := (lawful_after env (calls ++ [.init config])).accepts_iff place
  rw [hafter] at haccepts
  rw [haccepts hinstalled, shutThroughHandle_concat]
  simp

/-- A shutdown through the handle that `init` has answered leaves a core installed that accepts no
calls, and the next `init` answers it. -/
theorem init_answers_ended_core :
    let g := vacant System.overheated
    let g' := g.after [.init System.impatient, .shutdownHandle 0]
    (g.init System.impatient).1 = .ok 0 ∧ g'.isInitialized = true ∧
      (g'.init System.impatient).1 = .ok 0 ∧
      (g'.init System.impatient).2.host.accepts 0 = false := by
  intro g g'
  obtain ⟨core, env, hstart, -⟩ := System.exists_impatient_start
  have hinit : g.init System.impatient =
      (.ok 0, { host := { env, cores := [core] }, installed := some 0 }) := by
    simp [g, vacant, SharedInstance.init, Host.start, hstart]
  have hg' : g' = { host := Host.shutdown { env, cores := [core] } 0, installed := some 0 } := by
    simp only [g', after, List.foldl_cons, List.foldl_nil, perform, hinit, shutdownHandle]
  rw [hinit, hg']
  refine ⟨rfl, rfl, rfl, ?_⟩
  change (Host.shutdown { env, cores := [core] } 0).accepts 0 = false
  simp [accepts_shutdown]

end SharedInstance

end DriverTelemetry
