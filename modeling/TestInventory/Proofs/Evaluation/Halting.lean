import TestInventory.Proofs.Evaluation.Visits

/-!
# The machine halts

Every step from one visit to the next makes a measure smaller: first the number of
activations that are left, then the size of the text, then the length of the row.
The depth register counts the activations that are live, and an activation beyond
the limit is refused before anything in it runs.
-/

namespace TestInventory

open TestInventory.Source (Span)
open Relation

variable {σ : Type} {setting : Setting σ} {limit : Nat}

/-- Whether the body of a closure is to be run. -/
def Task.isActivation : Task → Bool
  | .activation .. => true
  | _ => false

/-- Only an activation leads to a deeper job, and only within the limit. -/
theorem Setting.depth_of_inner? {job inner : Job} (leads : setting.inner? limit job = some inner) :
    inner.depth = job.depth ∧ job.task.isActivation = false ∨
      inner.depth = job.depth + 1 ∧ job.task.isActivation = true ∧ job.depth < limit := by
  obtain ⟨registers, task⟩ := job
  cases task with
  | expression expression =>
      obtain ⟨_, -, rfl⟩ := Option.map_eq_some_iff.mp leads
      exact .inl ⟨rfl, rfl⟩
  | declarator hoisted declarator =>
      obtain ⟨target, value⟩ := declarator
      obtain ⟨_, -, rfl⟩ := Option.map_eq_some_iff.mp leads
      exact .inl ⟨rfl, rfl⟩
  | statement statement => exact .inl ⟨(size_lt_of_innerOfStatement? leads).1, rfl⟩
  | body statements =>
      cases leads
      exact .inl ⟨rfl, rfl⟩
  | pass binder item body =>
      cases leads
      exact .inl ⟨rfl, rfl⟩
  | activation closure arguments span =>
      simp only [inner?] at leads
      split at leads
      case isTrue live =>
        cases leads
        exact .inr ⟨rfl, rfl, live⟩
      case isFalse => cases leads
  | all tasks => cases leads

namespace Visit

/-- The activations left, the size of the text and the length of the row at a visit. -/
noncomputable def measure (limit : Nat) (visit : Visit σ) : Nat × Nat × Nat :=
  visit.job.measure limit

theorem measure_lt_of_starts {visit next : Visit σ} (starts : Starts setting limit visit next) :
    Prod.Lex (· < ·) (Prod.Lex (· < ·) (· < ·)) (next.measure limit) (visit.measure limit) := by
  cases starts with
  | inner leads => exact setting.below_of_inner? limit leads
  | first registers heard first rest => exact Job.below_first registers first rest
  | rest registers heard rest ended => exact Job.below_rest registers _ _ rest
  | body registers heard stands announced => exact setting.below_of_announcement limit announced

/--
What the machine is in the midst of at a visit, innermost first, when it began with
another one.
-/
inductive Within (setting : Setting σ) (limit : Nat) (start : Visit σ) :
    List (Visit σ) → Visit σ → Prop where
  | start : Within setting limit start [] start
  | step {around : List (Visit σ)} {visit next : Visit σ}
      (within : Within setting limit start around visit)
      (starts : Starts setting limit visit next) :
      Within setting limit start (visit :: around) next

theorem exists_within {start visit : Visit σ} (reaches : start.Reaches setting limit visit) :
    ∃ around, Within setting limit start around visit := by
  induction reaches with
  | refl => exact ⟨[], .start⟩
  | tail _ starts ih =>
      obtain ⟨around, within⟩ := ih
      exact ⟨_, within.step starts⟩

/-- Only an activation makes the depth grow, and only up to the limit. -/
theorem depth_of_starts {visit next : Visit σ} (starts : Starts setting limit visit next) :
    next.depth = visit.depth ∧ visit.task.isActivation = false ∨
      next.depth = visit.depth + 1 ∧ visit.task.isActivation = true ∧ visit.depth < limit := by
  cases starts with
  | inner leads => exact Setting.depth_of_inner? leads
  | first => exact .inl ⟨rfl, rfl⟩
  | rest => exact .inl ⟨rfl, rfl⟩
  | body registers heard stands announced =>
      obtain ⟨closure, -, rfl⟩ := setting.body_of_announcement announced
      exact .inl ⟨rfl, rfl⟩

/-- The depth is the number of activations that the machine is in the midst of. -/
theorem depth_of_within {start visit : Visit σ} {around : List (Visit σ)}
    (within : Within setting limit start around visit) :
    visit.depth = start.depth + around.countP (·.task.isActivation) := by
  induction within with
  | start => rfl
  | step _ starts ih =>
      rw [List.countP_cons]
      rcases depth_of_starts starts with ⟨same, other⟩ | ⟨deeper, live, -⟩
      · rw [same, ih, if_neg (by simp [other])]
        rfl
      · rw [deeper, ih, if_pos live, Nat.add_assoc]

theorem depth_le_of_starts {visit next : Visit σ} (starts : Starts setting limit visit next)
    (bounded : visit.depth ≤ limit) : next.depth ≤ limit := by
  rcases depth_of_starts starts with ⟨same, -⟩ | ⟨deeper, -, below⟩
  · rwa [same]
  · rwa [deeper]

theorem depth_le_of_reaches {start visit : Visit σ} (reaches : start.Reaches setting limit visit)
    (bounded : start.depth ≤ limit) : visit.depth ≤ limit := by
  induction reaches with
  | refl => exact bounded
  | tail _ starts ih => exact depth_le_of_starts starts ih

end Visit

/--
The machine halts for every program, and ends as the evaluation does.  At all that
it takes up, the depth is the number of live activations, and at most 64; another
activation is then refused in one step, with nothing else taken up; and each step to
what is taken up next makes the measure smaller.
-/
theorem Machine.halts (setting : Setting σ) (program : Program) (heard : σ) :
    let limit := Setting.activationLimit
    let ended := setting.evaluate limit program heard
    ∃ after : State σ,
      HaltsWith setting limit (.body program.statements) ⟨⟨.initial, heard⟩, []⟩
          (ended.1, after) ∧
        after.heard = ended.2 ∧
        ∀ visit ∈ after.trail,
          (∃ around, Visit.Within setting limit (program.visit heard) around visit ∧
            visit.depth = around.countP (·.task.isActivation)) ∧
          visit.depth ≤ 64 ∧
          (∀ closure arguments span, visit.task = .activation closure arguments span →
            visit.depth = 64 → ∀ steps trail,
            run setting limit (steps + 1) visit.task ⟨visit.toStation, trail⟩ =
              some (.error (.thrown (setting.location span) "Maximum call stack size exceeded"),
                ⟨visit.toStation, visit :: trail⟩)) ∧
          ∀ next, Visit.Starts setting limit visit next →
            Prod.Lex (· < ·) (Prod.Lex (· < ·) (· < ·)) (next.measure limit)
              (visit.measure limit) := by
  intro limit ended
  obtain ⟨visits, runs⟩ := Visit.exists_runs setting limit (program.visit heard)
  refine ⟨_, runs.haltsWith [], rfl, fun visit member => ?_⟩
  have reaches := (runs.mem_iff visit).mp (by simpa using member)
  obtain ⟨around, within⟩ := Visit.exists_within reaches
  refine ⟨⟨around, within, ?_⟩, ?_, ?_, ?_⟩
  · rw [Visit.depth_of_within within]
    exact Nat.zero_add _
  · exact Visit.depth_le_of_reaches reaches (Nat.zero_le limit)
  · intro closure arguments span same spent steps trail
    obtain ⟨station, task⟩ := visit
    cases same
    exact Machine.run_of_spent (Nat.le_of_eq spent.symm)
  · intro next starts
    exact Visit.measure_lt_of_starts starts

/-- A function that calls itself, and a call of it. -/
def selfCalling : Program where
  statements :=
    [.function default (some "again") (.block [] [.expression default
        (.call default (.identifier default "again") [])]),
      .expression default (.call default (.identifier default "again") [])]

example : ((Setting.ofText "").evaluate Setting.activationLimit selfCalling []).1 =
    .error (.thrown ⟨"/case.js", 1⟩ "Maximum call stack size exceeded") := by decide +kernel

end TestInventory
