import TestInventory.Proofs.Evaluation.JobOrder
import TestInventory.Proofs.Evaluation.Rearrangement

/-!
# Hoisting

A job and the same job rearranged end alike: a list of statements binds the functions
among them before any of them runs, and to run such a statement does nothing.  The
closures that the two runs create differ, so their arenas are compared throughout:
that of the rearranged job is the rearranged arena of the job.
-/

namespace TestInventory

open TestInventory.Source (Span)
open Evaluating

/-! ## Rearranged jobs -/

section Definitions

variable (change : Rearrangement)

mutual

/-- A task, rearranged. -/
def Task.rearrange : Task → Task
  | .expression expression => .expression (expression.rearrange change)
  | .declarator hoisted declarator => .declarator hoisted (declarator.rearrange change)
  | .statement statement => .statement (statement.rearrange change)
  | .body statements => .body (change.move statements (statementsRearrange change statements))
  | .pass binder item body =>
    .pass (binder.rearrange change) (item.rearrange change) (body.rearrange change)
  | .activation closure arguments span =>
    .activation (closure.rearrange change) (bindingsRearrange change arguments) span
  | .all tasks => .all (tasksRearrange tasks)

/-- Several tasks, rearranged. -/
def tasksRearrange : List Task → List Task
  | [] => []
  | first :: rest => first.rearrange :: tasksRearrange rest

end

/-- Registers with a rearranged arena. -/
def Registers.rearrange (registers : Registers) : Registers :=
  { registers with scopes := registers.scopes.rearrange change }

/-- A job, rearranged. -/
def Job.rearrange (job : Job) : Job :=
  { job.toRegisters.rearrange change with task := job.task.rearrange change }

/-- A treatment, rearranged. -/
def Treatment.rearrange : Treatment → Treatment
  | .configured => .configured
  | .chained object => .chained (object.rearrange change)
  | .iterated items closure =>
    .iterated (items.map (Binding.rearrange change)) (closure.rearrange change)
  | .declared entry => .declared entry
  | .activated closure => .activated (closure.rearrange change)
  | .skipped callee => .skipped callee

/-- What a declaring call comes to, rearranged. -/
def Announcement.rearrange : Announcement → Announcement
  | .leaf signal => .leaf signal
  | .suite call body => .suite call (body.map (Job.rearrange change))
  | .missing error => .missing error

/-- How a job ends, with a rearranged arena. -/
def rearrangeEnd {σ : Type} (ended : Outcome × Progress σ) : Outcome × Progress σ :=
  (ended.1, { ended.2 with scopes := ended.2.scopes.rearrange change })

end Definitions

variable {change : Rearrangement}

theorem tasksRearrange_eq_map (tasks : List Task) :
    tasksRearrange change tasks = tasks.map (Task.rearrange change) :=
  eq_map_of_cons rfl (fun _ _ => rfl) tasks

theorem Closure.scope_rearrange (closure : Closure) :
    (closure.rearrange change).scope = closure.scope := rfl

theorem Callback.parameters_rearrange (callback : Callback) :
    (callback.rearrange change).parameters = targetsRearrange change callback.parameters := by
  cases callback <;> rfl

theorem Callback.task_rearrange (callback : Callback) :
    (callback.rearrange change).task = callback.task.rearrange change := by
  cases callback <;> rfl

theorem Registers.enter_rearrange (registers : Registers) (parent : Nat) (ofFunction : Bool) :
    (registers.rearrange change).enter parent ofFunction =
      (registers.enter parent ofFunction).rearrange change := by
  have added := registers.scopes.add_mapBound (Binding.rearrange change) parent ofFunction
  have size := registers.scopes.size_mapBound (Binding.rearrange change)
  simp only [enter, rearrange, Scopes.rearrange, added, size]

/-! ## Changes of the scopes -/

namespace Scopes

variable (scopes : Scopes) (scope : Nat)

theorem hoist_rearrange (statements : List Statement) :
    (scopes.rearrange change).hoist scope
        (change.move statements (statementsRearrange change statements)) =
      (scopes.hoist scope statements).rearrange change := by
  rw [hoist, hoist, hoisted_move, statementsRearrange_eq_map, List.filterMap_map,
    Function.comp_def]
  simp only [Statement.hoisted?_rearrange, ← List.map_filterMap]
  generalize statements.filterMap Statement.hoisted? = functions
  induction functions generalizing scopes with
  | nil => rfl
  | cons entry rest ih =>
      rw [List.map_cons, bindFunctions, bindFunctions, ← ih]
      exact congrArg (bindFunctions · scope _)
        (scopes.bindIn_mapBound _ scope entry.1 (.callback ⟨entry.2, scope⟩))

theorem bindItem_rearrange (binder : Binder) (item : Binding) :
    (scopes.rearrange change).bindItem scope (binder.rearrange change) (item.rearrange change) =
      (scopes.bindItem scope binder item).rearrange change := by
  cases binder with
  | declaration hoisted declarators =>
      have names : (declarators.map (Declarator.rearrange change)).filterMap Declarator.name? =
          declarators.filterMap Declarator.name? := by
        rw [List.filterMap_map]
        refine congrArg (List.filterMap · declarators) (funext fun declarator => ?_)
        rcases declarator with ⟨_ | _, _ | _⟩ <;> rfl
      rw [Binder.rearrange, bindItem, bindItem, declaratorsRearrange_eq_map, names]
      generalize declarators.filterMap Declarator.name? = names
      induction names generalizing scopes with
      | nil => rfl
      | cons name rest ih =>
          rw [declareAll, declareAll, ← ih]
          exact congrArg (declareAll · scope hoisted _ rest)
            (scopes.declare_mapBound _ scope hoisted name item)
  | target target =>
      cases target with
      | name name => exact scopes.assign_mapBound _ scope name item
      | other parts => rfl

theorem bindParameters_rearrange (targets : List Target) (arguments : List Binding) :
    (scopes.rearrange change).bindParameters scope (targetsRearrange change targets)
        (bindingsRearrange change arguments) =
      (scopes.bindParameters scope targets arguments).rearrange change := by
  induction targets generalizing scopes arguments with
  | nil => rfl
  | cons target targets ih =>
      have given : bindingsRearrange change arguments.tail =
            (bindingsRearrange change arguments).tail ∧
          (arguments.head?.getD .unknown).rearrange change =
            (bindingsRearrange change arguments).head?.getD .unknown := by
        cases arguments <;> exact ⟨rfl, rfl⟩
      cases target with
      | name name =>
          rw [targetsRearrange, Target.rearrange, bindParameters, bindParameters, ← ih, given.1,
            ← given.2]
          exact congrArg (bindParameters · scope _ _) (scopes.bindIn_mapBound _ scope name _)
      | other parts =>
          rw [targetsRearrange, Target.rearrange, bindParameters, bindParameters, ← ih, given.1]

theorem finish_rearrange (task : Task) :
    (scopes.rearrange change).finish scope (task.rearrange change) =
      (scopes.finish scope task).rearrange change := by
  cases task with
  | expression expression =>
      cases expression with
      | assign _ target value =>
          cases target with
          | name name =>
              simp only [Task.rearrange, Expression.rearrange, Target.rearrange, finish,
                Expression.binding_rearrange]
              exact scopes.assign_mapBound _ scope name _
          | other parts => rfl
      | _ => rfl
  | declarator hoisted declarator =>
      obtain ⟨target, value⟩ := declarator
      cases target with
      | other parts => cases value <;> rfl
      | name name =>
          cases value with
          | none => rfl
          | some value =>
              simp only [Task.rearrange, Declarator.rearrange, Target.rearrange, finish,
                Expression.binding_rearrange]
              exact scopes.declare_mapBound _ scope hoisted name _
  | _ => rfl

end Scopes

namespace Setting

variable {σ : Type} (setting : Setting σ) (limit : Nat)

/-! ## Calls -/

section Calls

variable (scopes : Scopes) (scope : Nat)

theorem namedTreatment_rearrange (name : String) (modifier : Option String) :
    setting.namedTreatment (scopes.rearrange change) scope name modifier =
      (setting.namedTreatment scopes scope name modifier).rearrange change := by
  unfold namedTreatment
  cases setting.interface.classify name modifier with
  | some entry => rfl
  | none =>
      cases modifier with
      | some word => rfl
      | none =>
          simp only [Option.isNone_none, if_true, Scopes.closure?_lookup_rearrange]
          cases (scopes.lookup scope name).bind Binding.closure? <;> rfl

theorem iteratedTreatment_rearrange (iterated : Expression) (arguments : List Element) :
    iteratedTreatment (scopes.rearrange change) scope (iterated.rearrange change)
        (elementsRearrange change arguments) =
      (iteratedTreatment scopes scope iterated arguments).rearrange change := by
  unfold iteratedTreatment
  rw [Expression.binding_rearrange, Binding.items?_rearrange, Element.closureAt?_rearrange]
  cases (iterated.binding scopes scope).items? with
  | none => rfl
  | some items => cases Element.closureAt? scopes scope arguments 0 <;> rfl

/-- A rearranged call is treated as the call is. -/
theorem treatment_rearrange (callee : Expression) (arguments : List Element) :
    setting.treatment (scopes.rearrange change) scope (callee.rearrange change)
        (elementsRearrange change arguments) =
      (setting.treatment scopes scope callee arguments).rearrange change := by
  cases callee with
  | identifier _ name => exact setting.namedTreatment_rearrange scopes scope name none
  | member span object property =>
      have member : setting.memberTreatment (scopes.rearrange change) scope
          (object.rearrange change) property (elementsRearrange change arguments) =
            (setting.memberTreatment scopes scope object property arguments).rearrange change := by
        unfold memberTreatment
        by_cases each : property = "forEach"
        · rw [if_pos each, if_pos each]
          exact iteratedTreatment_rearrange scopes scope object arguments
        · rw [if_neg each, if_neg each]
          cases object with
          | identifier _ name => exact setting.namedTreatment_rearrange scopes scope name property
          | _ => rfl
      cases object with
      | this => rfl
      | call => rfl
      | _ => exact member
  | _ => rfl

theorem naming_rearrange (arguments : List Element) :
    setting.naming (scopes.rearrange change) scope (elementsRearrange change arguments) =
      setting.naming scopes scope arguments := by
  unfold naming
  rw [head?_elementsRearrange]
  cases arguments.head?.bind Element.plain? with
  | none => rfl
  | some expression =>
      simp only [Option.map_some, Expression.value?_rearrange, Expression.span_rearrange]

theorem thrownMessage_rearrange (place : Place) (thrown : Expression) :
    setting.thrownMessage (scopes.rearrange change) place (thrown.rearrange change) =
      setting.thrownMessage scopes place thrown := by
  unfold thrownMessage
  rw [thrown.value?_rearrange, thrown.span_rearrange]
  cases thrown with
  | construct span callee arguments =>
      simp only [Expression.rearrange]
      rw [head?_elementsRearrange]
      cases arguments.head?.bind Element.plain? with
      | none => rfl
      | some given =>
          simp only [Option.map_some, Option.bind_some, given.value?_rearrange]
  | _ => rfl

end Calls

theorem announcement_rearrange (registers : Registers) (span : Span) (entry : Entry)
    (arguments : List Element) :
    setting.announcement (registers.rearrange change) span entry
        (elementsRearrange change arguments) =
      (setting.announcement registers span entry arguments).rearrange change := by
  have named : setting.naming (registers.scopes.rearrange change) registers.current
      (elementsRearrange change arguments) = _ :=
    setting.naming_rearrange registers.scopes registers.current arguments
  have closures : ∀ position, Element.closureAt? (registers.scopes.rearrange change)
      registers.current (elementsRearrange change arguments) position = _ :=
    Element.closureAt?_rearrange registers.scopes registers.current arguments
  have length : (elementsRearrange change arguments).length = arguments.length := by
    rw [elementsRearrange_eq_map, List.length_map]
  unfold announcement
  simp only [Registers.rearrange, named, closures, Option.isSome_map, length]
  cases entry with
  | suite variant =>
      cases Element.closureAt? registers.scopes registers.current arguments 1 with
      | some closure => rfl
      | none =>
          by_cases pending : variant = .skip
          · simp only [Option.map_none, if_pos pending]
            rfl
          · simp only [Option.map_none, if_neg pending]
            rfl
  | test variant => rfl
  | hook hook => rfl

theorem namingNotes_rearrange (registers : Registers) (entry : Entry) (arguments : List Element) :
    setting.namingNotes (registers.rearrange change) entry (elementsRearrange change arguments) =
      setting.namingNotes registers entry arguments := by
  cases entry with
  | hook hook => rfl
  | _ => exact congrArg Prod.snd (setting.naming_rearrange registers.scopes registers.current _)

theorem finishNotes_rearrange (task : Task) :
    setting.finishNotes (task.rearrange change) = setting.finishNotes task := by
  cases task with
  | expression expression =>
      cases expression with
      | call span callee arguments =>
          have receiving : (callee.rearrange change).receiver?.isSome =
              callee.receiver?.isSome := by
            cases callee with
            | member _ object _ => cases object <;> rfl
            | _ => rfl
          simp only [Task.rearrange, Expression.rearrange, finishNotes, receiving,
            elementsDeclare_rearrange]
      | _ => rfl
  | _ => rfl

/-! ## Rows of statements -/

variable {limit}

/-- To run the statement that declares a function does nothing. -/
theorem ends_of_isFunction (registers : Registers) {statement : Statement}
    (function : statement.isFunction = true) (heard : σ) :
    setting.ends limit { registers with task := .statement statement } heard =
      (.ok (), ⟨registers.scopes, heard⟩) := by
  cases statement with
  | function _ name callback => rfl
  | exported _ declaration =>
      cases declaration with
      | function _ name callback => rfl
      | _ => cases function
  | _ => cases function

/-- Statements in a row do the same without the functions among them. -/
theorem ends_filter (registers : Registers) (statements : List Statement) (heard : σ) :
    setting.ends limit { registers with task := .all ((statements.filter
        fun statement => !statement.isFunction).map .statement) } heard =
      setting.ends limit { registers with task := .all (statements.map .statement) } heard := by
  induction statements generalizing registers heard with
  | nil => rfl
  | cons statement rest ih =>
      rw [List.map_cons, ends_all_cons]
      cases function : statement.isFunction with
      | true =>
          rw [List.filter_cons_of_neg (by simp [function]),
            setting.ends_of_isFunction registers function, goOn_ok]
          exact ih registers heard
      | false =>
          rw [List.filter_cons_of_pos (by simp [function]), List.map_cons, ends_all_cons]
          refine congrArg (goOn _) (funext fun after => ?_)
          exact ih { registers with scopes := after.scopes } after.heard

/-- Statements in a row do the same with the functions among them in front. -/
theorem ends_move (registers : Registers) (statements rearranged : List Statement) (heard : σ) :
    setting.ends limit { registers with
        task := .all ((change.move statements rearranged).map .statement) } heard =
      setting.ends limit { registers with task := .all (rearranged.map .statement) } heard := by
  have kept : (functionsFirst rearranged).filter (fun statement => !statement.isFunction) =
      rearranged.filter fun statement => !statement.isFunction := by
    simp [functionsFirst, List.filter_append, List.filter_filter]
  rw [Rearrangement.move]
  split
  · rw [← ends_filter, kept, ends_filter]
  · rfl

/-! ## Jobs -/

section Jobs

variable (change) (limit)

/-- Whether a job and the rearranged job end alike, with the rearranged arena. -/
def EndsRearranged (job : Job) (heard : σ) : Prop :=
  setting.ends limit (job.rearrange change) heard =
    rearrangeEnd change (setting.ends limit job heard)

variable {setting change limit}

/-- What leads from a task to an inner one leads from the rearranged task to the rearranged one. -/
theorem innerOfExpression?_rearrange (scopes : Scopes) (scope : Nat) (expression : Expression) :
    setting.innerOfExpression? (scopes.rearrange change) scope (expression.rearrange change) =
      (setting.innerOfExpression? scopes scope expression).map (Task.rearrange change) := by
  cases expression with
  | call span callee arguments =>
      simp only [Expression.rearrange, innerOfExpression?, treatment_rearrange,
        elementBindings_rearrange]
      cases setting.treatment scopes scope callee arguments with
      | iterated items closure =>
          simp only [Treatment.rearrange, Treatment.inner?, Option.map_some, Task.rearrange,
            tasksRearrange_eq_map, List.zipIdx_map, List.map_map]
          rfl
      | _ => rfl
  | sequence _ items =>
      simp only [Expression.rearrange, innerOfExpression?, Option.map_some, Task.rearrange,
        tasksRearrange_eq_map, expressionsRearrange_eq_map, List.map_map]
      rfl
  | _ => rfl

theorem innerOfStatement?_rearrange {registers : Registers} {statement : Statement} {inner : Job}
    (leads : innerOfStatement? registers statement = some inner) :
    innerOfStatement? (registers.rearrange change) (statement.rearrange change) =
      some (inner.rearrange change) := by
  have declared : ∀ hoisted (declarators : List Declarator),
      (Task.all (declarators.map (.declarator hoisted))).rearrange change =
        .all ((declaratorsRearrange change declarators).map (.declarator hoisted)) := by
    intro hoisted declarators
    simp only [Task.rearrange, tasksRearrange_eq_map, declaratorsRearrange_eq_map, List.map_map]
    rfl
  cases statement with
  | expression _ expression =>
      cases leads
      rfl
  | block _ body =>
      cases leads
      simp only [Statement.rearrange, innerOfStatement?, Registers.enter_rearrange]
      rfl
  | declaration _ hoisted declarators =>
      cases leads
      rw [Job.rearrange, declared]
      rfl
  | exported _ declaration =>
      cases declaration with
      | declaration _ hoisted declarators =>
          cases leads
          rw [Job.rearrange, declared]
          rfl
      | _ => cases leads
  | forOf _ binder iterated body =>
      obtain ⟨items, known, rfl⟩ := Option.map_eq_some_iff.mp leads
      have found : ((iterated.rearrange change).binding (registers.rearrange change).scopes
          registers.current).items? = some (items.map (Binding.rearrange change)) := by
        simp only [Registers.rearrange, Expression.binding_rearrange, Binding.items?_rearrange,
          known, Option.map_some]
      refine Option.map_eq_some_iff.mpr ⟨_, found, ?_⟩
      simp only [Job.rearrange, Task.rearrange, tasksRearrange_eq_map, List.map_map]
      rfl
  | _ => cases leads

/-- A rearranged body ends as its statements, rearranged where they stand. -/
theorem ends_body_rearrange (registers : Registers) (statements : List Statement) (heard : σ) :
    let moved := change.move statements (statementsRearrange change statements)
    setting.ends limit
        { registers.rearrange change with
          scopes := (registers.rearrange change).scopes.hoist registers.current moved
          task := .all (moved.map .statement) } heard =
      setting.ends limit
        (Job.rearrange change
          { registers with
            scopes := registers.scopes.hoist registers.current statements
            task := .all (statements.map .statement) }) heard := by
  intro moved
  have row : (Task.all (statements.map .statement)).rearrange change =
      .all ((statementsRearrange change statements).map .statement) := by
    simp only [Task.rearrange, tasksRearrange_eq_map, statementsRearrange_eq_map, List.map_map]
    rfl
  rw [Job.rearrange, row, show (registers.rearrange change).scopes.hoist registers.current moved = _
    from registers.scopes.hoist_rearrange registers.current statements]
  exact setting.ends_move _ statements _ heard

/-- The inner job of a rearranged job ends as the rearranged inner job does. -/
theorem exists_inner?_rearrange {job inner : Job} (leads : setting.inner? limit job = some inner) :
    ∃ inner', setting.inner? limit (job.rearrange change) = some inner' ∧
      ∀ heard, setting.ends limit inner' heard =
        setting.ends limit (inner.rearrange change) heard := by
  obtain ⟨registers, task⟩ := job
  cases task with
  | expression expression =>
      obtain ⟨task, found, rfl⟩ := Option.map_eq_some_iff.mp leads
      refine ⟨_, Option.map_eq_some_iff.mpr ⟨task.rearrange change, ?_, rfl⟩, fun heard => rfl⟩
      have rearranged : setting.innerOfExpression? (registers.scopes.rearrange change)
          registers.current (expression.rearrange change) = _ :=
        setting.innerOfExpression?_rearrange registers.scopes registers.current expression
      rwa [found] at rearranged
  | declarator hoisted declarator =>
      obtain ⟨target, value⟩ := declarator
      obtain ⟨value, rfl, rfl⟩ := Option.map_eq_some_iff.mp leads
      exact ⟨_, rfl, fun heard => rfl⟩
  | statement statement =>
      exact ⟨_, innerOfStatement?_rearrange leads, fun heard => rfl⟩
  | body statements =>
      cases leads
      refine ⟨_, rfl, fun heard => ?_⟩
      exact setting.ends_body_rearrange registers statements heard
  | pass binder item body =>
      cases leads
      refine ⟨_, rfl, fun heard => ?_⟩
      refine congrArg (setting.ends limit · heard) ?_
      have entered : (registers.rearrange change).enter registers.current false = _ :=
        registers.enter_rearrange registers.current false
      simp only [Job.rearrange, Task.rearrange, Registers.rearrange] at entered ⊢
      simp only [entered, Scopes.bindItem_rearrange]
  | activation closure arguments span =>
      simp only [inner?] at leads
      split at leads
      case isFalse => cases leads
      case isTrue live =>
        cases leads
        refine ⟨_, if_pos live, fun heard => ?_⟩
        refine congrArg (setting.ends limit · heard) ?_
        have entered : (registers.rearrange change).enter closure.scope true = _ :=
          registers.enter_rearrange closure.scope true
        simp only [Job.rearrange, Task.rearrange, Registers.rearrange, Closure.scope_rearrange]
          at entered ⊢
        simp only [entered, Closure.rearrange, Callback.task_rearrange,
          Callback.parameters_rearrange, Scopes.bindParameters_rearrange]
  | all tasks => cases leads

/-! ## Jobs that lead to no other -/

theorem EndsRearranged.of_warnIf {job : Job} {heard noted : σ} {declares declares' : Bool}
    {span : Span} {construct : Construct} (same : declares' = declares)
    (ran : setting.ends limit job heard =
      setting.warnIf declares span construct ⟨job.scopes, noted⟩)
    (ran' : setting.ends limit (job.rearrange change) heard =
      setting.warnIf declares' span construct ⟨job.scopes.rearrange change, noted⟩) :
    setting.EndsRearranged change limit job heard := by
  rw [EndsRearranged, ran, ran', same, warnIf_apply, warnIf_apply]
  rfl

theorem endsRearranged_call {registers : Registers} {span : Span} {callee : Expression}
    {arguments : List Element}
    (alone : setting.innerOfExpression? registers.scopes registers.current
      (.call span callee arguments) = none)
    (silent : setting.interface.entryOf? callee = none) (heard : σ) :
    setting.EndsRearranged change limit
      { registers with task := .expression (.call span callee arguments) } heard := by
  obtain ⟨declared, -⟩ :=
    setting.treatment_spec registers.scopes registers.current callee arguments
  have ran := setting.runExpression_call (setting.activation (limit - registers.depth))
    registers.place span callee arguments ⟨registers.scopes, heard⟩
  have ran' := setting.runExpression_call (setting.activation (limit - registers.depth))
    registers.place span (callee.rearrange change) (elementsRearrange change arguments)
    ⟨registers.scopes.rearrange change, heard⟩
  rw [show setting.treatment _ registers.place.scope _ _ = _ from
    setting.treatment_rearrange registers.scopes registers.current callee arguments] at ran'
  have same : elementsDeclare setting.interface (elementsRearrange change arguments) = _ :=
    elementsDeclare_rearrange arguments
  simp only [innerOfExpression?] at alone
  rw [Registers.place] at ran ran'
  cases treated : setting.treatment registers.scopes registers.current callee arguments with
  | configured =>
      rw [treated] at ran ran'
      exact ran'.trans (congrArg (rearrangeEnd change) ran.symm)
  | skipped name =>
      rw [treated] at ran ran'
      cases name with
      | none => exact .of_warnIf same ran ran'
      | some name => exact .of_warnIf same ran ran'
  | declared entry =>
      rw [treated, silent] at declared
      cases declared
  | _ =>
      rw [treated] at alone
      cases alone

theorem endsRearranged_statement {registers : Registers} {statement : Statement}
    (alone : innerOfStatement? registers statement = none) (heard : σ) :
    setting.EndsRearranged change limit { registers with task := .statement statement } heard := by
  cases statement with
  | expression => cases alone
  | block => cases alone
  | declaration => cases alone
  | function => rfl
  | exported span declaration =>
      cases declaration with
      | declaration => cases alone
      | function => rfl
      | empty => rfl
      | _ => exact .of_warnIf (Statement.declares_rearrange _) rfl rfl
  | empty => rfl
  | forOf span binder iterated body =>
      have unknown := Option.map_eq_none_iff.mp alone
      have unknown' : ((iterated.rearrange change).binding (registers.scopes.rearrange change)
          registers.current).items? = none := by
        rw [Expression.binding_rearrange, Binding.items?_rearrange, unknown, Option.map_none]
      exact .of_warnIf (Statement.declares_rearrange body)
        (setting.ends_forOf_of_unknown limit registers span binder body unknown heard)
        (setting.ends_forOf_of_unknown limit (registers.rearrange change) span _ _ unknown' heard)
  | throw span argument =>
      have same : setting.thrownMessage (registers.scopes.rearrange change) registers.place
          (argument.rearrange change) = _ :=
        setting.thrownMessage_rearrange registers.scopes registers.place argument
      let outcome (message : String) : Outcome := .error (.thrown (setting.location span) message)
      exact Prod.ext (congrArg outcome same) rfl
  | other span parts =>
      exact .of_warnIf ((partsDeclare_order _).trans (partsDeclare_rearrange parts)) rfl rfl

theorem endsRearranged_alone {job : Job} (lone : setting.Alone limit job) (heard : σ) :
    setting.EndsRearranged change limit job heard := by
  obtain ⟨alone, single, silent⟩ := lone
  obtain ⟨registers, task⟩ := job
  cases task with
  | expression expression =>
      cases expression with
      | call span callee arguments =>
          exact endsRearranged_call (Option.map_eq_none_iff.mp alone)
            (silent span callee arguments rfl) heard
      | await => cases alone
      | parenthesized => cases alone
      | sequence => cases alone
      | assign => cases alone
      | identifier => rfl
      | this => rfl
      | literal => rfl
      | function => rfl
      | _ => exact .of_warnIf (Expression.declares_rearrange _) rfl rfl
  | declarator hoisted declarator =>
      obtain ⟨target, value⟩ := declarator
      cases value with
      | some => cases alone
      | none =>
          cases target with
          | other => rfl
          | name name =>
              have declared := registers.scopes.declare_mapBound (Binding.rearrange change)
                registers.current hoisted name .unknown
              exact Prod.ext rfl (congrArg (Progress.mk · heard) declared)
  | statement statement => exact endsRearranged_statement alone heard
  | body => cases alone
  | pass => cases alone
  | activation closure arguments span =>
      have spent := setting.spent_of_inner?_eq_none limit alone
      rw [EndsRearranged, setting.ends_of_spent limit spent]
      exact setting.ends_of_spent limit spent
  | all tasks => exact absurd rfl (single tasks)

theorem endsRearranged_declaring {registers : Registers} {span : Span} {callee : Expression}
    {arguments : List Element} {entry : Entry}
    (stands : setting.interface.entryOf? callee = some entry)
    (bodyEnds : ∀ call body, setting.announcement registers span entry arguments =
      .suite call (some body) → ∀ heard, setting.EndsRearranged change limit body heard)
    (heard : σ) :
    setting.EndsRearranged change limit
      { registers with task := .expression (.call span callee arguments) } heard := by
  have stands' : setting.interface.entryOf? (callee.rearrange change) = some entry :=
    (Interface.entryOf?_rearrange callee).trans stands
  have ran := setting.ends_of_declaring limit registers span arguments stands heard
  have ran' := setting.ends_of_declaring limit (registers.rearrange change) span
    (elementsRearrange change arguments) stands' heard
  rw [announcement_rearrange, namingNotes_rearrange] at ran'
  refine ran'.trans (Eq.trans ?_ (congrArg (rearrangeEnd change) ran).symm)
  generalize setting.listener.noteAll _ heard = noted
  cases announced : setting.announcement registers span entry arguments with
  | leaf signal => rfl
  | missing error => rfl
  | suite call body =>
      simp only [Announcement.rearrange, announce]
      rcases setting.listener.suite call noted with ⟨_ | _ | _, heard'⟩
      · cases body with
        | none => rfl
        | some body =>
            have ended : setting.ends limit (body.rearrange change) heard' = _ :=
              bodyEnds call body announced heard'
            simp only [Option.map_some, endsBody, ended]
            rfl
      · rfl
      · rfl

/-- A rearranged job ends as the job does, with the rearranged arena. -/
theorem ends_rearrange (change : Rearrangement) (setting : Setting σ) (limit : Nat) (job : Job)
    (heard : σ) :
    setting.ends limit (job.rearrange change) heard =
      rearrangeEnd change (setting.ends limit job heard) := by
  show setting.EndsRearranged change limit job heard
  induction job using setting.job_induction limit generalizing heard with
  | none registers => rfl
  | row registers first rest firstEnds restEnds =>
      have ran := setting.ends_all_cons limit registers first rest heard
      have ran' := setting.ends_all_cons limit (registers.rearrange change)
        (first.rearrange change) (tasksRearrange change rest) heard
      refine ran'.trans (Eq.trans ?_ (congrArg (rearrangeEnd change) ran).symm)
      have firstEnd : setting.ends limit
          { registers.rearrange change with task := first.rearrange change } heard = _ :=
        firstEnds heard
      rw [firstEnd]
      rcases setting.ends limit { registers with task := first } heard with ⟨_ | _, after⟩
      · rfl
      · exact restEnds after.scopes after.heard
  | within job inner leads innerEnds =>
      obtain ⟨inner', leads', same⟩ : ∃ inner',
          setting.inner? limit (job.rearrange change) = some inner' ∧ _ :=
        exists_inner?_rearrange leads
      rw [EndsRearranged, setting.ends_of_inner? limit leads, setting.ends_of_inner? limit leads',
        same, innerEnds heard]
      rcases setting.ends limit inner heard with ⟨_ | ⟨⟩, after⟩
      · rfl
      · have notes : setting.finishNotes (job.task.rearrange change) = _ :=
          setting.finishNotes_rearrange job.task
        have scopes : (after.scopes.rearrange change).finish job.current _ = _ :=
          after.scopes.finish_rearrange job.current job.task
        show goOn (.ok (), _) _ = rearrangeEnd change (goOn (.ok (), after) _)
        rw [goOn_ok, goOn_ok, finish_apply, finish_apply]
        exact Prod.ext rfl (congrArg₂ Progress.mk scopes (congrArg (setting.listener.noteAll · _) notes))
  | declaring registers span callee arguments entry stands bodyEnds =>
      exact endsRearranged_declaring stands (fun call body announced => bodyEnds call body announced)
        heard
  | alone job lone => exact endsRearranged_alone lone heard

end Jobs

/-! ## Programs -/

/-- The job of a rearranged program. -/
theorem job_rearrange (change : Rearrangement) (program : Program) :
    (program.rearrange change).job = program.job.rearrange change := by
  have initial := Scopes.initial_mapBound (Binding.rearrange change)
  simp only [Program.job, Job.rearrange, Registers.rearrange, Registers.initial, Scopes.rearrange,
    initial]
  rfl

/-- A rearranged program is the same to every listener. -/
theorem evaluate_rearrange (change : Rearrangement) (setting : Setting σ) (limit : Nat)
    (program : Program) (heard : σ) :
    setting.evaluate limit (program.rearrange change) heard =
      setting.evaluate limit program heard := by
  rw [evaluate_eq_ends, evaluate_eq_ends, job_rearrange, ends_rearrange]
  rfl

/--
The functions that lists of statements declare may be moved to the front of any of
these lists: to every listener the program is the same, and it ends alike.  So are
programs that are the same once all functions are moved.
-/
theorem hoisting_changes_nothing (setting : Setting σ) (limit : Nat) (program : Program)
    (heard : σ) :
    (∀ change, setting.evaluate limit (program.rearrange change) heard =
        setting.evaluate limit program heard) ∧
      ∀ other : Program, other.rearrange .everywhere = program.rearrange .everywhere →
        setting.evaluate limit other heard = setting.evaluate limit program heard := by
  refine ⟨fun change => evaluate_rearrange change setting limit program heard, ?_⟩
  intro other same
  rw [← evaluate_rearrange .everywhere, same, evaluate_rearrange]

end Setting

end TestInventory
