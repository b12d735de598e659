import DriverTelemetry.Proofs.Configuration
import DriverTelemetry.Proofs.Interleaving
import DriverTelemetry.Proofs.TableGrowth

/-!
# A shutdown at the same time as other calls

A shutdown stops the core from accepting calls and then releases its tables one after the other. A
call that has passed its readiness check by then goes on, and may come to its table when the table
has been released. `Interleaving.Progress` follows one shutdown and any number of calls through a
schedule: until a table is released it is only known not to shrink, and from then on it is empty
exactly as long as nothing has been entered.
-/

namespace DriverTelemetry

/-- The steps in which a shutdown releases what a core holds. -/
inductive ReleaseStep where
  | collectors
  | table (table : CoreTable)
  | hooks
  | memory
  deriving DecidableEq

namespace ReleaseStep

def apply : ReleaseStep → System → System
  | collectors => System.stopCollectors
  | table .registry => System.releaseRegistry
  | table .events => System.releaseEvents
  | table .health => System.releaseHealth
  | table .tracker => System.releaseTracker
  | hooks => System.forgetHooks
  | memory => System.returnMemory

/-- The steps in their order, which is that of `System.releaseSteps`. -/
def all : List ReleaseStep :=
  [collectors, table .registry, table .events, table .health, table .tracker, hooks, memory]

theorem map_apply_all : all.map apply = System.releaseSteps := rfl

theorem initialized_apply (step : ReleaseStep) (s : System) :
    (step.apply s).core.initialized = s.core.initialized := by
  cases step with
  | table table => cases table <;> rfl
  | _ => rfl

theorem hooks_apply (step : ReleaseStep) (s : System) :
    (step.apply s).env.hooks = s.env.hooks := by
  cases step with
  | table table => cases table <;> rfl
  | _ => rfl

theorem size_apply (released : CoreTable) (s : System) :
    released.size ((table released).apply s).core = 0 := by
  cases released <;> rfl

theorem size_apply_of_ne {step : ReleaseStep} {other : CoreTable} (h : step ≠ table other)
    (s : System) : other.size (step.apply s).core = other.size s.core := by
  cases step with
  | table released => cases released <;> cases other <;> first | rfl | exact absurd rfl h
  | _ => cases other <;> rfl

theorem size_apply_le (step : ReleaseStep) (other : CoreTable) (s : System) :
    other.size (step.apply s).core ≤ other.size s.core := by
  by_cases h : step = table other
  · rw [h, size_apply]
    exact Nat.zero_le _
  · exact (size_apply_of_ne h s).le

end ReleaseStep

/-- One of those whose sections follow each other in any order: a call, or the shutdown, which
first stops the core from accepting calls. -/
inductive Party where
  | caller (left : Task)
  | shutdownRequested
  | releasing (left : List ReleaseStep)

namespace Party

def advance : Party → Action Party
  | caller (.finished failure) => return caller (.finished failure)
  | caller (.step effect rest) => do
    let s ← get
    set (effect s)
    return caller (rest s)
  | shutdownRequested => do
    if (← get).core.initialized then
      modify fun s => { s with core.initialized := false }
      return releasing ReleaseStep.all
    else return releasing []
  | releasing [] => return releasing []
  | releasing (step :: left) => do
    modify step.apply
    return releasing left

def IsFinished : Party → Prop
  | caller (.finished _) | releasing [] => True
  | _ => False

end Party

/-- A call that has not begun, or has come to its end. -/
def Task.IsIdle (k : Task) : Prop := (∃ r : Request, k = r.task) ∨ ∃ failure, k = .finished failure

namespace Interleaving

open Party (caller shutdownRequested releasing advance)

/-- A call that nothing comes in between of is the call itself. -/
theorem run_caller (k : Task) (s : System) :
    ∃ n, run advance { system := s, stages := [caller k] } (List.replicate n (.call 0)) =
      { system := (k.alone s).2, stages := [caller (.finished (k.alone s).1)] } := by
  induction k generalizing s with
  | finished failure => exact ⟨0, rfl⟩
  | step effect rest ih =>
    obtain ⟨n, hn⟩ := ih s (effect s)
    exact ⟨n + 1, hn⟩

/-- A shutdown that nothing comes in between of is `System.retire`. -/
theorem run_shutdown (s : System) :
    run advance { system := s, stages := [shutdownRequested] } (List.replicate 8 (.call 0)) =
      { system := s.retire, stages := [releasing []] } := by
  change run advance (passage advance { system := s, stages := [shutdownRequested] } 0
    shutdownRequested).after (List.replicate 7 (.call 0)) = _
  unfold System.retire
  split
  · rename_i hready
    have hfirst : (advance shutdownRequested).run s =
        (releasing ReleaseStep.all, { s with core.initialized := false }) := by
      unfold advance
      rw [Core.run_get_bind, if_pos hready]
      rfl
    rw [passage_of_run advance hfirst]
    rfl
  · rename_i hunready
    have hfirst : (advance shutdownRequested).run s = (releasing [], s) := by
      unfold advance
      rw [Core.run_get_bind, if_neg hunready]
      rfl
    rw [passage_of_run advance hfirst]
    rfl

/-- A section that adds to a table. -/
def Passage.Enters (p : Passage Party) (table : CoreTable) : Prop :=
  table.size p.before.system.core < table.size p.after.system.core

def Passage.Releases (p : Passage Party) (table : CoreTable) : Prop :=
  ∃ left, p.stage = releasing (.table table :: left)

/-- Something has been entered into a table after its release. -/
def EntersLate (table : CoreTable) (ps : List (Passage Party)) : Prop :=
  ∃ earlier p later, ps = earlier ++ p :: later ∧ (∃ r ∈ earlier, r.Releases table) ∧
    p.Enters table

/-- No call is under way at the moment when the core stops accepting calls. -/
def StopsAlone (ps : List (Passage Party)) : Prop :=
  ∀ p ∈ ps, p.stage = shutdownRequested → ∀ k, caller k ∈ p.before.stages → k.IsIdle

section Progress

variable {ps : List (Passage Party)} {p : Passage Party} {table : CoreTable}
  {left : List ReleaseStep} {t : Interleaving Party}

theorem entersLate_concat :
    EntersLate table (ps ++ [p]) ↔
      EntersLate table ps ∨ (∃ r ∈ ps, r.Releases table) ∧ p.Enters table := by
  constructor
  · rintro ⟨earlier, q, later, hsplit, hreleased, henters⟩
    rcases concat_eq_append_cons hsplit with ⟨rfl, rfl, -⟩ | ⟨rest, -, hps⟩
    · exact .inr ⟨hreleased, henters⟩
    · exact .inl ⟨earlier, q, rest, hps, hreleased, henters⟩
  · rintro (⟨earlier, q, later, rfl, hreleased, henters⟩ | ⟨hreleased, henters⟩)
    · exact ⟨earlier, q, later ++ [p], by simp, hreleased, henters⟩
    · exact ⟨ps, p, [], rfl, hreleased, henters⟩

/-- How far a shutdown that has those steps left has come with a table. -/
def Stands (table : CoreTable) (ps : List (Passage Party)) (s : System)
    (left : List ReleaseStep) : Prop :=
  (.table table ∈ left ∧ ∀ p ∈ ps, ¬ p.Releases table) ∨
    (.table table ∉ left ∧ (∃ p ∈ ps, p.Releases table) ∧
      (table.size s.core = 0 ↔ ¬ EntersLate table ps))

/-- A section that does not release a table, and does not shrink it either. -/
theorem Stands.keep (h : Stands table ps p.before.system left) (hkeeps : ¬ p.Releases table)
    (hsize : table.size p.before.system.core ≤ table.size p.after.system.core) :
    Stands table (ps ++ [p]) p.after.system left := by
  rcases h with ⟨hleft, hnone⟩ | ⟨hleft, ⟨r, hr, hreleases⟩, hempty⟩
  · refine .inl ⟨hleft, fun q hq => ?_⟩
    rcases List.mem_append.1 hq with hearlier | hlast
    · exact hnone q hearlier
    · rw [List.mem_singleton.1 hlast]
      exact hkeeps
  · refine .inr ⟨hleft, ⟨r, List.mem_append_left _ hr, hreleases⟩, ?_⟩
    have hreleased : ∃ r ∈ ps, r.Releases table := ⟨r, hr, hreleases⟩
    have henters : p.Enters table ↔
        table.size p.before.system.core < table.size p.after.system.core := Iff.rfl
    rw [entersLate_concat, not_or, ← hempty, and_iff_right hreleased, henters]
    omega

theorem Stands.step {step : ReleaseStep} (hnodup : (step :: left).Nodup)
    (h : Stands table ps t.system (step :: left)) :
    Stands table (ps ++ [t.passage advance 0 (releasing (step :: left))])
      (step.apply t.system) left := by
  let p := t.passage advance 0 (releasing (step :: left))
  by_cases hstep : step = .table table
  · subst hstep
    have hnone : ∀ q ∈ ps, ¬ q.Releases table := by
      rcases h with ⟨-, hnone⟩ | ⟨hleft, -⟩
      · exact hnone
      · exact absurd List.mem_cons_self hleft
    refine .inr ⟨(List.nodup_cons.1 hnodup).1, ⟨p, by simp [p], left, rfl⟩, ?_⟩
    refine iff_of_true (ReleaseStep.size_apply table t.system) ?_
    -- the release itself enters nothing, and no other has come before it
    rw [entersLate_concat, not_or]
    constructor
    · rintro ⟨earlier, q, later, rfl, ⟨r, hr, hreleases⟩, -⟩
      exact hnone r (by simp [hr]) hreleases
    · rintro ⟨⟨r, hr, hreleases⟩, -⟩
      exact hnone r hr hreleases
  · have hsame : Stands table ps p.before.system left := by
      have hmem : (ReleaseStep.table table ∈ step :: left) ↔ ReleaseStep.table table ∈ left := by
        simp [Ne.symm hstep]
      unfold Stands at h
      rw [hmem] at h
      exact h
    refine hsame.keep ?_ (ReleaseStep.size_apply_of_ne hstep t.system).ge
    rintro ⟨left', hreleases⟩
    have hlist : step :: left = .table table :: left' := Party.releasing.inj hreleases
    exact hstep (List.cons.inj hlist).1

/-- Where the shutdown stands. -/
def Standing (ps : List (Passage Party)) (s : System) : Party → Prop
  | shutdownRequested => s.core.initialized = true ∧ ∀ table, ∀ p ∈ ps, ¬ p.Releases table
  | releasing left => s.core.initialized = false ∧ left.Nodup ∧ ∀ table, Stands table ps s left
  | caller _ => False

/-- What has come of one shutdown and a number of calls. -/
structure Progress (ps : List (Passage Party)) (t : Interleaving Party) (stage : Party)
    (tasks : List Task) : Prop where
  stages_eq : t.stages = stage :: tasks.map caller
  hooks : t.system.env.HooksLeaveRunning
  growing : ∀ k ∈ tasks, k.Growing
  standing : Standing ps t.system stage
  idle : stage ≠ shutdownRequested → StopsAlone ps →
    (∀ k ∈ tasks, k.IsIdle) ∧ ∀ table, ¬ EntersLate table ps

variable {stage : Party} {tasks : List Task}

theorem StopsAlone.of_concat (h : StopsAlone (ps ++ [p])) : StopsAlone ps :=
  fun q hq => h q (List.mem_append_left _ hq)

/-- The shutdown stops the core from accepting calls. -/
theorem Progress.stop (h : Progress ps t shutdownRequested tasks) :
    Progress (ps ++ [t.passage advance 0 shutdownRequested])
      (t.passage advance 0 shutdownRequested).after (releasing ReleaseStep.all) tasks := by
  obtain ⟨hready, hnone⟩ := h.standing
  have hafter : (t.passage advance 0 shutdownRequested).after =
      { system := { t.system with core.initialized := false }
        stages := releasing ReleaseStep.all :: tasks.map caller } := by
    have hrun : (advance shutdownRequested).run t.system =
        (releasing ReleaseStep.all, { t.system with core.initialized := false }) := by
      unfold advance
      rw [Core.run_get_bind, if_pos hready]
      rfl
    rw [passage_of_run advance hrun, h.stages_eq]
    rfl
  have hall : ∀ table, ∀ q ∈ ps ++ [t.passage advance 0 shutdownRequested], ¬ q.Releases table := by
    intro table q hq
    rcases List.mem_append.1 hq with hearlier | hlast
    · exact hnone table q hearlier
    · rw [List.mem_singleton.1 hlast]
      rintro ⟨left, hreleases⟩
      cases hreleases
  rw [hafter]
  refine ⟨rfl, h.hooks, h.growing, ⟨rfl, by decide, fun table => ?_⟩, ?_⟩
  · exact .inl ⟨by cases table <;> decide, hall table⟩
  · intro _ halone
    refine ⟨fun k hk => ?_, ?_⟩
    · refine halone _ (List.mem_append_right _ (List.mem_singleton_self _)) rfl k ?_
      change caller k ∈ t.stages
      rw [h.stages_eq]
      exact List.mem_cons_of_mem _ (List.mem_map_of_mem hk)
    · rintro table ⟨earlier, q, later, hsplit, ⟨r, hr, hreleases⟩, -⟩
      exact hall table r (by rw [hsplit]; exact List.mem_append_left _ hr) hreleases

/-- The shutdown takes its next step. -/
theorem Progress.release {step : ReleaseStep} (h : Progress ps t (releasing (step :: left)) tasks) :
    Progress (ps ++ [t.passage advance 0 (releasing (step :: left))])
      (t.passage advance 0 (releasing (step :: left))).after (releasing left) tasks := by
  obtain ⟨hunready, hnodup, hstands⟩ := h.standing
  have hafter : (t.passage advance 0 (releasing (step :: left))).after =
      { system := step.apply t.system, stages := releasing left :: tasks.map caller } := by
    change Interleaving.mk (step.apply t.system) (t.stages.set 0 (releasing left)) = _
    rw [h.stages_eq]
    rfl
  rw [hafter]
  refine ⟨rfl, ?_, h.growing,
    ⟨(step.initialized_apply t.system).trans hunready, (List.nodup_cons.1 hnodup).2,
      fun table => (hstands table).step hnodup⟩, ?_⟩
  · change (step.apply t.system).env.HooksLeaveRunning
    unfold Environment.HooksLeaveRunning
    rw [step.hooks_apply]
    exact h.hooks
  · intro _ halone
    obtain ⟨hidle, hnever⟩ := h.idle (by simp) halone.of_concat
    refine ⟨hidle, fun table => ?_⟩
    rw [entersLate_concat, not_or]
    refine ⟨hnever table, ?_⟩
    rintro ⟨-, henters⟩
    exact absurd (step.size_apply_le table t.system) (Nat.not_le.2 henters)

/-- A section that leaves the shutdown where it is and shrinks no table. -/
theorem Progress.extend (h : Progress ps t stage tasks) (hbefore : p.before = t)
    (hreleases : ∀ table, ¬ p.Releases table) (hgrown : t.system.Grown p.after.system)
    {tasks' : List Task} (hstages : p.after.stages = stage :: tasks'.map caller)
    (hgrowing : ∀ k ∈ tasks', k.Growing)
    (hidle : stage ≠ shutdownRequested → (∀ k ∈ tasks, k.IsIdle) →
      (∀ k ∈ tasks', k.IsIdle) ∧ p.after.system = t.system) :
    Progress (ps ++ [p]) p.after stage tasks' := by
  subst hbefore
  refine ⟨hstages, hgrown.hooksLeaveRunning, hgrowing, ?_, ?_⟩
  · have hstanding := h.standing
    cases stage with
    | caller k => exact hstanding
    | shutdownRequested =>
      refine ⟨hgrown.initialized_eq.trans hstanding.1, fun table q hq => ?_⟩
      rcases List.mem_append.1 hq with hearlier | hlast
      · exact hstanding.2 table q hearlier
      · rw [List.mem_singleton.1 hlast]
        exact hreleases table
    | releasing left =>
      exact ⟨hgrown.initialized_eq.trans hstanding.1, hstanding.2.1, fun table =>
        (hstanding.2.2 table).keep (hreleases table) (hgrown.size_le table)⟩
  · intro hstage halone
    obtain ⟨hbefore, hnever⟩ := h.idle hstage halone.of_concat
    obtain ⟨hafter, hsame⟩ := hidle hstage hbefore
    refine ⟨hafter, fun table => ?_⟩
    rw [entersLate_concat, not_or]
    refine ⟨hnever table, ?_⟩
    rintro ⟨-, henters⟩
    unfold Passage.Enters at henters
    rw [hsame] at henters
    exact Nat.lt_irrefl _ henters

/-- A shutdown that has come to its end stays there. -/
theorem Progress.rest (h : Progress ps t (releasing []) tasks) :
    Progress (ps ++ [t.passage advance 0 (releasing [])])
      (t.passage advance 0 (releasing [])).after (releasing []) tasks := by
  refine h.extend rfl ?_ ⟨rfl, h.hooks, fun _ => Nat.le_refl _⟩ ?_ h.growing
    fun _ hidle => ⟨hidle, rfl⟩
  · rintro table ⟨left, hreleases⟩
    cases hreleases
  · change t.stages.set 0 (releasing []) = _
    rw [h.stages_eq]
    rfl

/-- On a core that accepts no calls, one that has not begun is refused and changes nothing. -/
theorem advance_caller {k : Task} {s : System} (hgrowing : k.Growing)
    (hhooks : s.env.HooksLeaveRunning) :
    ∃ k' u, (advance (caller k)).run s = (caller k', u) ∧ s.Grown u ∧ k'.Growing ∧
      (s.core.initialized = false → k.IsIdle → k'.IsIdle ∧ u = s) := by
  cases hgrowing with
  | finished failure =>
    exact ⟨.finished failure, s, rfl, ⟨rfl, hhooks, fun _ => Nat.le_refl _⟩, .finished failure,
      fun _ hidle => ⟨hidle, rfl⟩⟩
  | @step effect rest heffect hrest =>
    refine ⟨rest s, effect s, rfl, heffect s hhooks, hrest s, ?_⟩
    rintro hunready (⟨r, hr⟩ | ⟨failure, hfailure⟩)
    · obtain ⟨effect', rest', htask, hsame, hrefused⟩ := r.task_refused hunready
      obtain ⟨rfl, rfl⟩ := Task.step.inj (hr.trans htask)
      exact ⟨.inr ⟨_, hrefused⟩, hsame⟩
    · cases hfailure

/-- A call passes through its next section. -/
theorem Progress.call (h : Progress ps t stage tasks) {j : Nat} {k : Task}
    (hk : tasks[j]? = some k) :
    ∃ k', Progress (ps ++ [t.passage advance (j + 1) (caller k)])
      (t.passage advance (j + 1) (caller k)).after stage (tasks.set j k') := by
  obtain ⟨k', u, hrun, hgrown, hgrowing, hidle⟩ :=
    advance_caller (h.growing k (List.mem_of_getElem? hk)) h.hooks
  refine ⟨k', ?_⟩
  rw [passage_of_run advance hrun]
  refine h.extend rfl ?_ hgrown ?_ ?_ ?_
  · rintro table ⟨left, hreleases⟩
    cases hreleases
  · change t.stages.set (j + 1) (caller k') = _
    rw [h.stages_eq, List.set_cons_succ, List.map_set]
  · intro k'' hmem
    rcases List.mem_or_eq_of_mem_set hmem with hbefore | rfl
    · exact h.growing k'' hbefore
    · exact hgrowing
  · intro hstage hbefore
    have hunready : t.system.core.initialized = false := by
      have hstanding := h.standing
      cases stage with
      | caller k => exact hstanding.elim
      | shutdownRequested => exact absurd rfl hstage
      | releasing left => exact hstanding.1
    obtain ⟨hafter, hsame⟩ := hidle hunready (hbefore k (List.mem_of_getElem? hk))
    refine ⟨fun k'' hmem => ?_, hsame⟩
    rcases List.mem_or_eq_of_mem_set hmem with hearlier | rfl
    · exact hbefore k'' hearlier
    · exact hafter

/-- One of the parties passes through its next section. -/
theorem Progress.pass (h : Progress ps t stage tasks) (i : Nat) {passing : Party}
    (hi : t.stages[i]? = some passing) :
    ∃ stage' tasks', Progress (ps ++ [t.passage advance i passing])
      (t.passage advance i passing).after stage' tasks' := by
  rw [h.stages_eq] at hi
  cases i with
  | zero =>
    cases Option.some.inj hi
    match stage, h with
    | caller _, h => exact h.standing.elim
    | shutdownRequested, h => exact ⟨_, _, h.stop⟩
    | releasing [], h => exact ⟨_, _, h.rest⟩
    | releasing (_ :: _), h => exact ⟨_, _, h.release⟩
  | succ j =>
    rw [List.getElem?_cons_succ, List.getElem?_map] at hi
    obtain ⟨k, hk, rfl⟩ := Option.map_eq_some_iff.1 hi
    obtain ⟨k', hprogress⟩ := h.call hk
    exact ⟨_, _, hprogress⟩

/-- Others change the surroundings. -/
theorem Progress.changed (h : Progress ps t stage tasks) {change : Environment → Environment}
    (hchange : (change t.system.env).HooksLeaveRunning) :
    Progress ps (t.changed change) stage tasks := by
  refine ⟨h.stages_eq, hchange, h.growing, ?_, h.idle⟩
  have hstanding := h.standing
  cases stage with
  | caller k => exact hstanding
  | shutdownRequested => exact hstanding
  | releasing left => exact hstanding

/-- A shutdown and a number of calls that have not begun. -/
def atOnce (s : System) (requests : List Request) : Interleaving Party where
  system := s
  stages := shutdownRequested :: requests.map fun r => caller r.task

theorem progress_atOnce {s : System} (hready : s.core.initialized = true)
    (hhooks : s.env.HooksLeaveRunning) (requests : List Request) :
    Progress [] (atOnce s requests) shutdownRequested (requests.map Request.task) := by
  refine ⟨?_, hhooks, ?_, ⟨hready, fun _ _ => List.not_mem_nil.elim⟩, fun h => absurd rfl h⟩
  · rw [List.map_map]
    rfl
  · intro k hk
    obtain ⟨r, -, rfl⟩ := List.mem_map.1 hk
    exact r.growing_task

theorem Progress.follow (h : Progress ps t stage tasks) {schedule : List Choice}
    (hquiet : ∀ change, .outside change ∈ schedule →
      ∀ env, env.HooksLeaveRunning → (change env).HooksLeaveRunning) :
    ∃ stage' tasks', Progress (ps ++ t.passages advance schedule) (t.run advance schedule)
      stage' tasks' := by
  refine run_induction (P := fun ps t => ∃ stage tasks, Progress ps t stage tasks) ?_ ?_ ⟨_, _, h⟩
  · rintro ps t i passing hi ⟨stage, tasks, h⟩
    exact h.pass i hi
  · rintro ps t change hmem ⟨stage, tasks, h⟩
    exact ⟨stage, tasks, h.changed (hquiet change hmem _ h.hooks)⟩

end Progress

/-- **What one shutdown leaves behind, whatever calls there are at the same time.** The core accepts
calls, restart hooks do not shut it down, and the sections of the shutdown and of the calls follow
each other in any order, with any changes to the surroundings in between. Once all of them have come
to their ends the core accepts no calls, and a table is empty if and only if nothing has been
entered into it after its release. That is so of all tables when no call is under way at the moment
when the core stops accepting calls. -/
theorem table_empty_iff_nothing_entersLate {s : System} (hready : s.core.initialized = true)
    (hhooks : s.env.HooksLeaveRunning) (requests : List Request) (schedule : List Choice)
    (hquiet : ∀ change, .outside change ∈ schedule →
      ∀ env, env.HooksLeaveRunning → (change env).HooksLeaveRunning)
    (hfinished : ∀ stage ∈ ((atOnce s requests).run advance schedule).stages, stage.IsFinished) :
    let ps := (atOnce s requests).passages advance schedule
    let u := ((atOnce s requests).run advance schedule).system
    u.core.initialized = false ∧
      (∀ table : CoreTable, table.size u.core = 0 ↔ ¬ EntersLate table ps) ∧
      (StopsAlone ps → ∀ table : CoreTable, table.size u.core = 0) := by
  intro ps u
  obtain ⟨stage, tasks, h⟩ := (progress_atOnce hready hhooks requests).follow hquiet
  rw [List.nil_append] at h
  have hend : stage = releasing [] := by
    have hlast : stage.IsFinished := hfinished stage (by rw [h.stages_eq]; exact List.mem_cons_self)
    have hstanding := h.standing
    match stage, hlast, hstanding with
    | releasing [], _, _ => rfl
  subst hend
  obtain ⟨hunready, -, hstands⟩ := h.standing
  have hempty : ∀ table : CoreTable, table.size u.core = 0 ↔ ¬ EntersLate table ps := by
    intro table
    rcases hstands table with ⟨hleft, -⟩ | ⟨-, -, hiff⟩
    · exact absurd hleft List.not_mem_nil
    · exact hiff
  refine ⟨hunready, hempty, fun halone table => (hempty table).2 ?_⟩
  exact (h.idle (by simp) halone).2 table

/-- A message is logged before a shutdown begins, and a driver is registered after its end. -/
theorem tables_empty_after_orderly_shutdown :
    ∃ s : System, s.Reachable ∧ s.core.initialized = true ∧
      let schedule : List Choice := [.call 1, .call 1] ++ List.replicate 8 (.call 0) ++ [.call 2]
      let t := atOnce s [.log .info .core "early", .registerDriver ⟨0⟩]
      (∀ stage ∈ (t.run advance schedule).stages, stage.IsFinished) ∧
        ∀ table : CoreTable, table.size (t.run advance schedule).system.core = 0 := by
  obtain ⟨core, hreachable, hready, -⟩ := System.exists_impatient
  refine ⟨{ env := System.overheated, core }, hreachable, hready, ?_⟩
  intro schedule t
  obtain ⟨number, config, initialized, enabled, registry, events, health, tracker, counters,
    predefined, collectors, hook⟩ := core
  dsimp only at hready
  subst hready
  have hfinished : ∀ stage ∈ (t.run advance schedule).stages, stage.IsFinished := by
    have hstages : (t.run advance schedule).stages =
        [releasing [], caller (.finished none), caller (.finished (some .notInitialized))] := rfl
    rw [hstages]
    simp [Party.IsFinished]
  have halone : StopsAlone (t.passages advance schedule) := by
    refine List.forall_mem_cons.2 ⟨nofun, List.forall_mem_cons.2 ⟨nofun,
      List.forall_mem_cons.2 ⟨fun _ k hk => ?_, ?_⟩⟩⟩
    · have hstages : caller k ∈ [shutdownRequested, caller (.finished none),
          caller (Request.registerDriver ⟨0⟩).task] := hk
      simp only [List.mem_cons, List.not_mem_nil, reduceCtorEq, Party.caller.injEq, false_or,
        or_false] at hstages
      exact hstages.elim (fun h => .inr ⟨none, h⟩) fun h => .inl ⟨_, h⟩
    · repeat refine List.forall_mem_cons.2 ⟨nofun, ?_⟩
      exact fun _ h => absurd h List.not_mem_nil
  have hnone : ∀ change, Choice.outside change ∉ schedule := by simp [schedule]
  refine ⟨hfinished, ?_⟩
  exact (table_empty_iff_nothing_entersLate rfl (fun _ h => absurd h List.not_mem_nil) _ schedule
    (fun change hmem => absurd hmem (hnone change)) hfinished).2.2 halone

/-- A message whose call has passed its readiness check before the shutdown is in the event ring
after it. -/
theorem logged_message_outlives_shutdown :
    ¬∀ (s : System) (requests : List Request) (schedule : List Choice),
      s.Reachable → s.core.initialized = true → s.env.HooksLeaveRunning →
      (∀ change, Choice.outside change ∉ schedule) →
      (∀ stage ∈ ((atOnce s requests).run advance schedule).stages, stage.IsFinished) →
      ∀ table : CoreTable,
        table.size ((atOnce s requests).run advance schedule).system.core = 0 := by
  intro hclaim
  obtain ⟨core, hreachable, hready, -⟩ := System.exists_impatient
  let s : System := { env := System.overheated, core }
  let requests : List Request := [.log .info .core "late"]
  let schedule : List Choice := .call 1 :: List.replicate 8 (.call 0) ++ [.call 1]
  have hroom : 0 < core.events.capacity := hreachable.eventSlots_pos
  have hempty := hclaim s requests schedule hreachable hready (fun _ h => absurd h List.not_mem_nil)
    (by simp [schedule])
  obtain ⟨number, config, initialized, enabled, registry, events, health, tracker, counters,
    predefined, collectors, hook⟩ := core
  dsimp only at hready hroom
  subst hready
  have hstages : ((atOnce s requests).run advance schedule).stages =
      [releasing [], caller (.finished none)] := rfl
  have hpushed : ∃ severity subsystem origin fill,
      ((atOnce s requests).run advance schedule).system.core.events =
        (events.release.push severity subsystem origin fill).2 := ⟨_, _, _, _, rfl⟩
  obtain ⟨severity, subsystem, origin, fill, hevents⟩ := hpushed
  have hnone := hempty (by rw [hstages]; simp [Party.IsFinished]) .events
  have hroom' : events.release.size < events.release.capacity := hroom
  rw [CoreTable.size, hevents, EventRing.size_push_of_lt hroom'] at hnone
  cases hnone

end Interleaving

end DriverTelemetry
