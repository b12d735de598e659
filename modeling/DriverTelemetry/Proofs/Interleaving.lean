import DriverTelemetry.Core.Basic

/-!
# Calls at the same time

A call that holds no lock from its beginning to its end is a sequence of critical sections, and
those of several calls can follow each other in any order. An `Interleaving` is a system with the
stage that each call on it has come to. A schedule chooses which call passes through its next
section, or lets others change the surroundings; `Interleaving.run` follows it and
`Interleaving.passages` lists the sections that have been passed.
-/

namespace DriverTelemetry

/-- A system with the stage that each of the calls on it has come to. -/
structure Interleaving (σ : Type) where
  system : System
  stages : List σ

namespace Interleaving

variable {σ : Type}

/-- What a schedule lets happen next. -/
inductive Choice where
  /-- The call of a place, counted from 0, passes through its next section. -/
  | call (i : Nat)
  | outside (change : Environment → Environment)

/-- The passage of a call through a section, from a stage to the next one. -/
structure Passage (σ : Type) where
  before : Interleaving σ
  stage : σ
  next : σ
  after : Interleaving σ

variable (advance : σ → Action σ)

/-- The passage of a call that is at a stage. -/
def passage (t : Interleaving σ) (i : Nat) (stage : σ) : Passage σ where
  before := t
  stage := stage
  next := ((advance stage).run t.system).1
  after :=
    { system := ((advance stage).run t.system).2
      stages := t.stages.set i ((advance stage).run t.system).1 }

def changed (t : Interleaving σ) (change : Environment → Environment) : Interleaving σ :=
  { t with system.env := change t.system.env }

/-- The passages that a schedule brings about, with what they lead to. -/
def follow (t : Interleaving σ) : List Choice → List (Passage σ) × Interleaving σ
  | [] => ([], t)
  | .outside change :: rest => follow (t.changed change) rest
  | .call i :: rest =>
    match t.stages[i]? with
    | none => follow t rest
    | some stage =>
      let p := t.passage advance i stage
      (p :: (follow p.after rest).1, (follow p.after rest).2)

def passages (t : Interleaving σ) (schedule : List Choice) : List (Passage σ) :=
  (t.follow advance schedule).1

def run (t : Interleaving σ) (schedule : List Choice) : Interleaving σ :=
  (t.follow advance schedule).2

theorem passage_of_run {t : Interleaving σ} {stage next : σ} {u : System}
    (h : (advance stage).run t.system = (next, u)) (i : Nat) :
    t.passage advance i stage =
      { before := t, stage, next, after := { system := u, stages := t.stages.set i next } } := by
  unfold passage
  rw [h]

/-- A passage exchanges one stage for the next. -/
theorem countP_passage {t : Interleaving σ} {i : Nat} {stage : σ} (h : t.stages[i]? = some stage)
    (p : σ → Bool) :
    (t.passage advance i stage).after.stages.countP p + (if p stage then 1 else 0) =
      t.stages.countP p + if p (t.passage advance i stage).next then 1 else 0 := by
  obtain ⟨hi, rfl⟩ := List.getElem?_eq_some_iff.1 h
  let next := ((advance t.stages[i]).run t.system).1
  change (t.stages.set i next).countP p + (if p t.stages[i] then 1 else 0) =
    t.stages.countP p + if p next then 1 else 0
  rw [List.countP_set hi]
  cases hp : p t.stages[i] with
  | false => rfl
  | true =>
    have hpos : 0 < t.stages.countP p := List.countP_pos_iff.2 ⟨_, List.getElem_mem hi, hp⟩
    simp only [if_true]
    omega

variable {advance} {P : List (Passage σ) → Interleaving σ → Prop}

/-- What holds at first and is preserved by every passage and every change that others make holds
after any schedule, of the passages so far and the interleaving that they have led to. -/
theorem run_induction {schedule : List Choice}
    (hcall : ∀ {ps t} (i : Nat) {stage : σ}, t.stages[i]? = some stage → P ps t →
      P (ps ++ [t.passage advance i stage]) (t.passage advance i stage).after)
    (houtside : ∀ {ps t change}, Choice.outside change ∈ schedule → P ps t →
      P ps (t.changed change))
    {ps : List (Passage σ)} {t : Interleaving σ} (h : P ps t) :
    P (ps ++ t.passages advance schedule) (t.run advance schedule) := by
  unfold passages run
  induction schedule generalizing ps t with
  | nil =>
    rw [follow, List.append_nil]
    exact h
  | cons choice rest ih =>
    have ih' : ∀ {ps t}, P ps t → P (ps ++ (t.follow advance rest).1) (t.follow advance rest).2 :=
      ih fun hmem => houtside (List.mem_cons_of_mem choice hmem)
    cases choice with
    | outside change => exact ih' (houtside List.mem_cons_self h)
    | call i =>
      rw [follow]
      split
      · exact ih' h
      · rename_i stage hstage
        have hlater := ih' (hcall i hstage h)
        rwa [List.append_assoc] at hlater

end Interleaving

end DriverTelemetry
