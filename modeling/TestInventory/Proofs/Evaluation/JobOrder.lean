import TestInventory.Proofs.Evaluation.Job

/-!
# Jobs get smaller

An activation uses up one of the activations that are left; within an activation
the text gets smaller; and of jobs in a row ever fewer remain.  In this order,
taken lexicographically, all jobs that a job leads to are below it.  So jobs may
be treated by induction: a job is a row of jobs, or has an inner job, or declares
something, or is idle.
-/

namespace TestInventory

open TestInventory.Source (Span)

mutual

/-- The size of the text of a task; the body of a closure does not count. -/
noncomputable def Task.size : Task → Nat
  | .expression expression => sizeOf expression
  | .declarator _ declarator => sizeOf declarator
  | .statement statement => sizeOf statement
  | .body statements => sizeOf statements + 1
  | .pass _ _ body => sizeOf body + 1
  | .activation .. => 0
  | .all tasks => largestSize tasks + 1

/-- The size of the largest of several tasks. -/
noncomputable def largestSize : List Task → Nat
  | [] => 0
  | first :: rest => max first.size (largestSize rest)

end

/-- How many tasks are still to be done in a row. -/
def Task.elements : Task → Nat
  | .all tasks => tasks.length
  | _ => 0

theorem largestSize_map_lt {ι : Type} {items : List ι} {task : ι → Task} {bound : Nat}
    (positive : 0 < bound) (smaller : ∀ item ∈ items, (task item).size < bound) :
    largestSize (items.map task) < bound := by
  induction items with
  | nil => exact positive
  | cons first rest ih =>
      obtain ⟨here, later⟩ := List.forall_mem_cons.mp smaller
      exact Nat.max_lt.mpr ⟨here, ih later⟩

theorem sizeOf_span_pos (span : Span) : 0 < sizeOf span := by
  cases span
  simp only [Source.Span.mk.sizeOf_spec]
  omega

namespace Job

/-- The activations that are left, the size of the text, and the length of the row. -/
noncomputable def measure (limit : Nat) (job : Job) : Nat × Nat × Nat :=
  (limit - job.depth, job.task.size, job.task.elements)

/-- Whether a job is below another in the lexicographic order of their measures. -/
def Below (limit : Nat) (inner outer : Job) : Prop :=
  Prod.Lex (· < ·) (Prod.Lex (· < ·) (· < ·)) (inner.measure limit) (outer.measure limit)

variable {limit : Nat} {inner outer : Job}

theorem below_wellFounded (limit : Nat) : WellFounded (Below limit) :=
  InvImage.wf (measure limit)
    (Prod.lex Nat.lt_wfRel (Prod.lex Nat.lt_wfRel Nat.lt_wfRel)).wf

/-- A new activation leaves fewer of them. -/
theorem below_of_depth (live : outer.depth < limit) (deeper : inner.depth = outer.depth + 1) :
    Below limit inner outer :=
  .left _ _ (by omega)

/-- Within an activation the text gets smaller. -/
theorem below_of_size (same : inner.depth = outer.depth)
    (smaller : inner.task.size < outer.task.size) : Below limit inner outer := by
  unfold Below measure
  rw [same]
  exact .right _ (.left _ _ smaller)

/-- Of tasks in a row, the first is below the row. -/
theorem below_first (registers : Registers) (first : Task) (rest : List Task) :
    Below limit { registers with task := first }
      { registers with task := .all (first :: rest) } :=
  below_of_size rfl (Nat.lt_succ_of_le (Nat.le_max_left ..))

/-- The rest of a row is below the row, whatever the scopes have become. -/
theorem below_rest (registers : Registers) (scopes : Scopes) (first : Task) (rest : List Task) :
    Below limit { registers with scopes, task := .all rest }
      { registers with task := .all (first :: rest) } := by
  have fewer : (Task.all rest).elements < (Task.all (first :: rest)).elements :=
    Nat.lt_succ_self _
  have bounded : (Task.all rest).size ≤ (Task.all (first :: rest)).size :=
    Nat.succ_le_succ (Nat.le_max_right ..)
  unfold Below measure
  rcases Nat.lt_or_eq_of_le bounded with smaller | same
  · exact .right _ (.left _ _ smaller)
  · show Prod.Lex _ _ (_, _, _) (_, _, _)
    rw [same]
    exact .right _ (.right _ fewer)

end Job

namespace Setting

variable {σ : Type} (setting : Setting σ) (limit : Nat)

theorem size_lt_of_innerOfExpression? {scopes : Scopes} {scope : Nat} {expression : Expression}
    {task : Task} (leads : setting.innerOfExpression? scopes scope expression = some task) :
    task.size < (Task.expression expression).size := by
  cases expression with
  | call span callee arguments =>
      obtain ⟨-, continued⟩ := setting.treatment_spec scopes scope callee arguments
      simp only [innerOfExpression?] at leads
      cases treated : setting.treatment scopes scope callee arguments with
      | chained object =>
          rw [treated] at leads continued
          cases leads
          have smaller := Expression.sizeOf_receiver? continued.symm
          simp only [Task.size, Expression.call.sizeOf_spec]
          omega
      | iterated items closure =>
          rw [treated] at leads
          cases leads
          have small : largestSize (items.zipIdx.map fun item =>
              .activation closure [item.1, .value (.number (Float.ofNat item.2))] span) < 1 :=
            largestSize_map_lt Nat.one_pos fun _ _ => Nat.one_pos
          have room := sizeOf_span_pos span
          simp only [Task.size, Expression.call.sizeOf_spec]
          omega
      | activated closure =>
          rw [treated] at leads
          cases leads
          simp only [Task.size, Expression.call.sizeOf_spec]
          omega
      | _ =>
          rw [treated] at leads
          cases leads
  | await span operand =>
      cases leads
      simp only [Task.size, Expression.await.sizeOf_spec]
      omega
  | parenthesized span inner =>
      cases leads
      simp only [Task.size, Expression.parenthesized.sizeOf_spec]
      omega
  | sequence span items =>
      cases leads
      have smaller : largestSize (items.map .expression) < sizeOf items :=
        largestSize_map_lt (by cases items <;> simp +arith) fun _ => List.sizeOf_lt_of_mem
      simp only [Task.size, Expression.sequence.sizeOf_spec]
      omega
  | assign span target value =>
      cases leads
      simp only [Task.size, Expression.assign.sizeOf_spec]
      omega
  | _ => cases leads

theorem size_lt_of_innerOfStatement? {registers : Registers} {statement : Statement} {inner : Job}
    (leads : innerOfStatement? registers statement = some inner) :
    inner.depth = registers.depth ∧ inner.task.size < (Task.statement statement).size := by
  have declared : ∀ hoisted (declarators : List Declarator),
      largestSize (declarators.map (.declarator hoisted)) < sizeOf declarators :=
    fun hoisted declarators =>
      largestSize_map_lt (by cases declarators <;> simp +arith) fun _ => List.sizeOf_lt_of_mem
  cases statement with
  | expression span expression =>
      cases leads
      refine ⟨rfl, ?_⟩
      simp only [Task.size, Statement.expression.sizeOf_spec]
      omega
  | block span body =>
      cases leads
      refine ⟨rfl, ?_⟩
      have room := sizeOf_span_pos span
      simp only [Task.size, Statement.block.sizeOf_spec]
      omega
  | declaration span hoisted declarators =>
      cases leads
      refine ⟨rfl, ?_⟩
      have smaller := declared hoisted declarators
      simp only [Task.size, Statement.declaration.sizeOf_spec]
      omega
  | exported span declaration =>
      cases declaration with
      | declaration at_ hoisted declarators =>
          cases leads
          refine ⟨rfl, ?_⟩
          have smaller := declared hoisted declarators
          simp only [Task.size, Statement.exported.sizeOf_spec, Statement.declaration.sizeOf_spec]
          omega
      | _ => cases leads
  | forOf span binder iterated body =>
      obtain ⟨items, -, rfl⟩ := Option.map_eq_some_iff.mp leads
      refine ⟨rfl, ?_⟩
      have smaller : largestSize (items.map fun item => .pass binder item body) < sizeOf body + 2 :=
        largestSize_map_lt (Nat.succ_pos _) fun _ _ => Nat.lt_succ_self _
      have room : 0 < sizeOf span ∧ 0 < sizeOf binder :=
        ⟨sizeOf_span_pos span, by cases binder <;> simp +arith⟩
      simp only [Task.size, Statement.forOf.sizeOf_spec]
      omega
  | _ => cases leads

/-- An inner job is below the job that leads to it. -/
theorem below_of_inner? {job inner : Job} (leads : setting.inner? limit job = some inner) :
    inner.Below limit job := by
  obtain ⟨registers, task⟩ := job
  cases task with
  | expression expression =>
      simp only [inner?, Option.map_eq_some_iff] at leads
      obtain ⟨task, leads, rfl⟩ := leads
      exact Job.below_of_size rfl (setting.size_lt_of_innerOfExpression? leads)
  | declarator hoisted declarator =>
      obtain ⟨target, value⟩ := declarator
      simp only [inner?, Option.map_eq_some_iff] at leads
      obtain ⟨value, rfl, rfl⟩ := leads
      refine Job.below_of_size rfl ?_
      simp only [Task.size, Declarator.mk.sizeOf_spec, Option.some.sizeOf_spec]
      omega
  | statement statement =>
      obtain ⟨same, smaller⟩ := size_lt_of_innerOfStatement? leads
      exact Job.below_of_size same smaller
  | body statements =>
      simp only [inner?, Option.some.injEq] at leads
      subst leads
      refine Job.below_of_size rfl ?_
      have smaller : largestSize (statements.map .statement) < sizeOf statements :=
        largestSize_map_lt (by cases statements <;> simp +arith) fun _ => List.sizeOf_lt_of_mem
      simp only [Task.size]
      omega
  | pass binder item body =>
      simp only [inner?, Option.some.injEq] at leads
      subst leads
      exact Job.below_of_size rfl (Nat.lt_succ_self _)
  | activation closure arguments span =>
      simp only [inner?] at leads
      split at leads
      case isTrue live =>
        simp only [Option.some.injEq] at leads
        subst leads
        exact Job.below_of_depth live rfl
      case isFalse => cases leads
  | all tasks => cases leads

/-- The job that runs the body of an announced suite. -/
theorem body_of_announcement {registers : Registers} {span : Span} {arguments : List Element}
    {entry : Entry} {call : SuiteCall} {body : Job}
    (announced : setting.announcement registers span entry arguments = .suite call (some body)) :
    ∃ closure, Element.closureAt? registers.scopes registers.current arguments 1 = some closure ∧
      body = { registers with
        suites := setting.file.frame span :: registers.suites
        task := .activation closure [] span } := by
  cases entry with
  | suite variant =>
      simp only [announcement] at announced
      split at announced
      case h_1 closure found =>
        cases announced
        exact ⟨closure, found, rfl⟩
      case h_2 => split at announced <;> cases announced
  | test => cases announced
  | hook => cases announced

/-- The body of a suite is below the call that declares the suite. -/
theorem below_of_announcement {registers : Registers} {span : Span} {callee : Expression}
    {arguments : List Element} {entry : Entry} {call : SuiteCall} {body : Job}
    (announced : setting.announcement registers span entry arguments = .suite call (some body)) :
    body.Below limit { registers with task := .expression (.call span callee arguments) } := by
  obtain ⟨closure, -, rfl⟩ := setting.body_of_announcement announced
  refine Job.below_of_size rfl ?_
  simp only [Task.size, Expression.call.sizeOf_spec]
  omega

/--
Induction over jobs: rows of jobs, jobs with an inner job, declaring calls, and
jobs that lead to no other.  The rest of a row is taken up with whatever scopes the first has left.
-/
theorem job_induction {motive : Job → Prop}
    (none : ∀ registers : Registers, motive { registers with task := .all [] })
    (row : ∀ (registers : Registers) first rest, motive { registers with task := first } →
      (∀ scopes, motive { registers with scopes, task := .all rest }) →
      motive { registers with task := .all (first :: rest) })
    (within : ∀ job inner, setting.inner? limit job = some inner → motive inner → motive job)
    (declaring : ∀ (registers : Registers) span callee arguments entry,
      setting.interface.entryOf? callee = some entry →
      (∀ call body, setting.announcement registers span entry arguments =
        .suite call (some body) → motive body) →
      motive { registers with task := .expression (.call span callee arguments) })
    (alone : ∀ job, setting.Alone limit job → motive job) (job : Job) : motive job := by
  induction job using (Job.below_wellFounded limit).induction with
  | _ job ih =>
    cases leads : setting.inner? limit job with
    | some inner => exact within job inner leads (ih inner (setting.below_of_inner? limit leads))
    | none =>
        obtain ⟨registers, task⟩ := job
        by_cases stands : ∃ span callee arguments entry,
          task = .expression (.call span callee arguments) ∧
            setting.interface.entryOf? callee = some entry
        · obtain ⟨span, callee, arguments, entry, rfl, stands⟩ := stands
          exact declaring registers span callee arguments entry stands fun call body announced =>
            ih body (setting.below_of_announcement limit announced)
        · cases task with
          | all tasks =>
              cases tasks with
              | nil => exact none registers
              | cons first rest =>
                  exact row registers first rest (ih _ (Job.below_first registers first rest))
                    fun scopes => ih _ (Job.below_rest registers scopes first rest)
          | _ =>
              refine alone _ ⟨leads, nofun, ?_⟩
              intro span callee arguments same
              refine Option.eq_none_iff_forall_ne_some.mpr fun entry found => stands ?_
              exact ⟨span, callee, arguments, entry, same, found⟩

end Setting

end TestInventory
