import TestInventory.Proofs.Evaluation.Oversight

/-!
# Jobs

An evaluation is made of smaller ones.  A job is one of them: a part of a program
with the registers under which it is taken up, which are the scopes made so far,
the current scope, the number of live activations and the calls of the open
suites.  A job either consists of jobs in a row, or declares something, or does
one inner job and finishes, or is idle: it notes something and fails or succeeds.
-/

namespace TestInventory

open TestInventory.Source (Span)
open Evaluating

/-- A part of a program to evaluate, with what it is evaluated for. -/
inductive Task where
  | expression (expression : Expression)
  | declarator (hoisted : Bool) (declarator : Declarator)
  | statement (statement : Statement)
  /-- The statements of a body, whose functions are bound first. -/
  | body (statements : List Statement)
  /-- One pass of a loop. -/
  | pass (binder : Binder) (item : Binding) (body : Statement)
  /-- The activation of a closure by the call at a span. -/
  | activation (closure : Closure) (arguments : List Binding) (span : Span)
  | all (tasks : List Task)

/-- What an evaluation depends on besides the setting and the listener. -/
structure Registers where
  scopes : Scopes
  /-- The current scope. -/
  current : Nat
  /-- How many activations are live. -/
  depth : Nat
  /-- The calls of the suites that are open, innermost first. -/
  suites : List Frame

namespace Registers

/-- The registers before anything has run. -/
def initial : Registers := { scopes := .initial, current := Scopes.file, depth := 0, suites := [] }

/-- Where an evaluation stands. -/
def place (registers : Registers) : Place :=
  { scope := registers.current, suites := registers.suites }

/-- Go into a new scope. -/
def enter (registers : Registers) (parent : Nat) (ofFunction : Bool) : Registers :=
  { registers with
    scopes := registers.scopes.add parent ofFunction, current := registers.scopes.size }

end Registers

/-- A task and the registers under which it is taken up. -/
structure Job extends Registers where
  task : Task

/-- The job of evaluating a program. -/
def Program.job (program : Program) : Job :=
  { Registers.initial with task := .body program.statements }

/-- The parameters of a function. -/
def Callback.parameters : Callback → List Target
  | .block parameters _ => parameters
  | .arrow parameters _ => parameters

/-- The body of a function as a task. -/
def Callback.task : Callback → Task
  | .block _ body => .body body
  | .arrow _ body => .expression body

/-! ## Changes of the scopes -/

/-- The function that a statement binds before the statements around it run. -/
def Statement.hoisted? : Statement → Option (String × Callback)
  | .function _ (some name) callback => some (name, callback)
  | .exported _ (.function _ (some name) callback) => some (name, callback)
  | _ => none

/-- The name that a variable has if it has no pattern. -/
def Declarator.name? : Declarator → Option String
  | .mk (.name name) _ => some name
  | .mk (.other _) _ => none

namespace Scopes

/-- Bind functions that were created in the scope in which they are bound. -/
def bindFunctions (scopes : Scopes) (scope : Nat) : List (String × Callback) → Scopes
  | [] => scopes
  | (name, callback) :: rest =>
    (scopes.bindIn scope name (.callback ⟨callback, scope⟩)).bindFunctions scope rest

/-- Bind the functions that statements declare. -/
def hoist (scopes : Scopes) (scope : Nat) (statements : List Statement) : Scopes :=
  scopes.bindFunctions scope (statements.filterMap Statement.hoisted?)

/-- Declare several names with the same binding. -/
def declareAll (scopes : Scopes) (scope : Nat) (hoisted : Bool) (item : Binding) :
    List String → Scopes
  | [] => scopes
  | name :: rest => (scopes.declare scope hoisted name item).declareAll scope hoisted item rest

/-- Bind what a loop binds for one item. -/
def bindItem (scopes : Scopes) (scope : Nat) (binder : Binder) (item : Binding) : Scopes :=
  match binder with
  | .declaration hoisted declarators =>
    scopes.declareAll scope hoisted item (declarators.filterMap Declarator.name?)
  | .target (.name name) => scopes.assign scope name item
  | .target (.other _) => scopes

/-- Bind parameters; a missing argument is not known. -/
def bindParameters (scopes : Scopes) (scope : Nat) : List Target → List Binding → Scopes
  | [], _ => scopes
  | .name name :: targets, arguments =>
    (scopes.bindIn scope name (arguments.head?.getD .unknown)).bindParameters scope targets
      arguments.tail
  | .other _ :: targets, arguments => scopes.bindParameters scope targets arguments.tail

/-- Bind the name, if there is one, that a task binds when it is finished. -/
def finish (scopes : Scopes) (scope : Nat) : Task → Scopes
  | .expression (.assign _ (.name name) value) =>
    scopes.assign scope name (value.binding scopes scope)
  | .declarator hoisted (.mk (.name name) (some value)) =>
    scopes.declare scope hoisted name (value.binding scopes scope)
  | _ => scopes

end Scopes

namespace Setting

variable {σ : Type}

theorem hoist_apply (place : Place) (statements : List Statement) (before : Progress σ) :
    hoist place statements before =
      (.ok (), { before with scopes := before.scopes.hoist place.scope statements }) := by
  induction statements generalizing before with
  | nil => rfl
  | cons statement rest ih =>
      cases statement with
      | function _ name callback =>
          cases name with
          | none => exact ih before
          | some name => exact ih _
      | exported _ declaration =>
          cases declaration with
          | function _ name callback =>
              cases name with
              | none => exact ih before
              | some name => exact ih _
          | _ => exact ih before
      | _ => exact ih before

theorem openScope_apply (parent : Nat) (ofFunction : Bool) (before : Progress σ) :
    openScope parent ofFunction before =
      (.ok before.scopes.size,
        { before with scopes := before.scopes.add parent ofFunction }) := rfl

theorem bindItem_apply (place : Place) (binder : Binder) (item : Binding)
    (before : Progress σ) :
    bindItem place binder item before =
      (.ok (), { before with scopes := before.scopes.bindItem place.scope binder item }) := by
  cases binder with
  | declaration hoisted declarators =>
      show (declarators.forM _ : Evaluating σ Unit) before = _
      simp only [Scopes.bindItem]
      induction declarators generalizing before with
      | nil => rfl
      | cons declarator rest ih =>
          cases declarator with
          | mk target value => cases target <;> exact ih _
  | target target => cases target <;> rfl

theorem bindParameters_apply (scope : Nat) (targets : List Target) (arguments : List Binding)
    (before : Progress σ) :
    bindParameters scope targets arguments before =
      (.ok (), { before with
        scopes := before.scopes.bindParameters scope targets arguments }) := by
  induction targets generalizing arguments before with
  | nil => rfl
  | cons target rest ih => cases target <;> exact ih _ _

/-! ## Evaluating jobs -/

mutual

/-- Do a task. -/
def doTask (setting : Setting σ) (activate : Activation σ) (place : Place) :
    Task → Evaluating σ Unit
  | .expression expression => setting.runExpression activate place expression
  | .declarator hoisted declarator => setting.runDeclarators activate place hoisted [declarator]
  | .statement statement => setting.runStatement activate place statement
  | .body statements => setting.runBody activate place statements
  | .pass binder item body => inBlock place fun inner => do
    bindItem inner binder item
    setting.runStatement activate inner body
  | .activation closure arguments span => activate closure arguments span place.suites
  | .all tasks => doTasks setting activate place tasks

/-- Do tasks in a row. -/
def doTasks (setting : Setting σ) (activate : Activation σ) (place : Place) :
    List Task → Evaluating σ Unit
  | [] => return
  | first :: rest => do
    doTask setting activate place first
    doTasks setting activate place rest

end

variable (setting : Setting σ) (limit : Nat)

/-- How a job ends, and what has changed then. -/
def ends (job : Job) (heard : σ) : Outcome × Progress σ :=
  setting.doTask (setting.activation (limit - job.depth)) job.place job.task ⟨job.scopes, heard⟩

theorem evaluate_eq_ends (program : Program) (heard : σ) :
    setting.evaluate limit program heard =
      ((setting.ends limit program.job heard).1, (setting.ends limit program.job heard).2.heard) :=
  rfl

/-! ## Jobs in a row -/

/-- Of tasks in a row, the rest is done if the first ends well. -/
theorem ends_all_cons (registers : Registers) (first : Task) (rest : List Task) (heard : σ) :
    setting.ends limit { registers with task := .all (first :: rest) } heard =
      goOn (setting.ends limit { registers with task := first } heard) fun after =>
        setting.ends limit { registers with scopes := after.scopes, task := .all rest }
          after.heard :=
  andThen_apply ..

section Lists

variable (activate : Activation σ) (place : Place)

theorem runExpressions_eq_doTasks (expressions : List Expression) :
    setting.runExpressions activate place expressions =
      setting.doTasks activate place (expressions.map .expression) := by
  induction expressions with
  | nil => rfl
  | cons first rest ih => exact congrArg (_ >>= fun _ => ·) ih

theorem runStatements_eq_doTasks (statements : List Statement) :
    setting.runStatements activate place statements =
      setting.doTasks activate place (statements.map .statement) := by
  induction statements with
  | nil => rfl
  | cons first rest ih => exact congrArg (_ >>= fun _ => ·) ih

theorem runDeclarators_eq_doTasks (hoisted : Bool) (declarators : List Declarator) :
    setting.runDeclarators activate place hoisted declarators =
      setting.doTasks activate place (declarators.map (.declarator hoisted)) := by
  induction declarators with
  | nil => rfl
  | cons first rest ih =>
      rw [runDeclarators_cons, ih]
      rfl

theorem forM_eq_doTasks {ι : Type} (items : List ι) (step : ι → Evaluating σ Unit)
    (task : ι → Task) (same : ∀ item, step item = setting.doTask activate place (task item)) :
    items.forM step = setting.doTasks activate place (items.map task) := by
  induction items with
  | nil => rfl
  | cons first rest ih =>
      show (step first >>= fun _ => rest.forM step) = _
      rw [same, ih]
      rfl

end Lists

end Setting

/-! ## Jobs within jobs -/

/-- The task to which a call leads under its treatment, if it neither declares nor is skipped. -/
def Treatment.inner? (span : Span) (arguments : List Binding) : Treatment → Option Task
  | .chained object => some (.expression object)
  | .iterated items closure =>
    some (.all (items.zipIdx.map fun (item, index) =>
      .activation closure [item, .value (.number (Float.ofNat index))] span))
  | .activated closure => some (.activation closure arguments span)
  | _ => none

namespace Setting

variable {σ : Type} (setting : Setting σ) (limit : Nat)

/-- The task within an expression, if there is one that is neither declared nor left alone. -/
def innerOfExpression? (scopes : Scopes) (scope : Nat) : Expression → Option Task
  | .call span callee arguments =>
    (setting.treatment scopes scope callee arguments).inner? span
      (elementBindings scopes scope arguments)
  | .await _ operand => some (.expression operand)
  | .parenthesized _ inner => some (.expression inner)
  | .sequence _ items => some (.all (items.map .expression))
  | .assign _ _ value => some (.expression value)
  | _ => none

/-- The job within a statement, if there is one. -/
def innerOfStatement? (registers : Registers) : Statement → Option Job
  | .expression _ expression => some { registers with task := .expression expression }
  | .block _ body => some { registers.enter registers.current false with task := .body body }
  | .declaration _ hoisted declarators
  | .exported _ (.declaration _ hoisted declarators) =>
    some { registers with task := .all (declarators.map (.declarator hoisted)) }
  | .forOf _ binder iterated body =>
    (iterated.binding registers.scopes registers.current).items?.map fun items =>
      { registers with task := .all (items.map fun item => .pass binder item body) }
  | _ => none

/-- The job to which a job leads before it finishes, if there is one. -/
def inner? (job : Job) : Option Job :=
  match job.task with
  | .expression expression =>
    (setting.innerOfExpression? job.scopes job.current expression).map fun task =>
      { job with task }
  | .declarator _ (.mk _ value) => value.map fun value => { job with task := .expression value }
  | .statement statement => innerOfStatement? job.toRegisters statement
  | .body statements =>
    some { job with
      scopes := job.scopes.hoist job.current statements
      task := .all (statements.map .statement) }
  | .pass binder item body =>
    let inside := job.toRegisters.enter job.current false
    some { inside with
      scopes := inside.scopes.bindItem inside.current binder item, task := .statement body }
  | .activation closure arguments _ =>
    let inside := job.toRegisters.enter closure.scope true
    if job.depth < limit then
      some { inside with
        scopes := inside.scopes.bindParameters inside.current closure.callback.parameters arguments
        depth := job.depth + 1
        task := closure.callback.task }
    else none
  | .all _ => none

/-- What is done once the inner job of a task has ended well. -/
def finish (place : Place) : Task → Evaluating σ Unit
  | .expression (.call span callee arguments) =>
    if callee.receiver?.isSome then setting.skipCall span arguments else return
  | .expression (.assign _ (.name name) value) => do
    let binding := value.binding (← scopes) place.scope
    modifyScopes (·.assign place.scope name binding)
  | .declarator hoisted (.mk (.name name) (some value)) => do
    let binding := value.binding (← scopes) place.scope
    modifyScopes (·.declare place.scope hoisted name binding)
  | _ => return

/-- An activation leads to no other job only if none is left. -/
theorem spent_of_inner?_eq_none {registers : Registers} {closure : Closure}
    {arguments : List Binding} {span : Span}
    (alone : setting.inner? limit
      { registers with task := .activation closure arguments span } = none) :
    limit ≤ registers.depth := by
  refine Nat.not_lt.mp fun live => ?_
  simp only [inner?, if_pos live] at alone
  cases alone

/-- An activation beyond the limit fails. -/
theorem ends_of_spent {registers : Registers} {closure : Closure} {arguments : List Binding}
    {span : Span} {heard : σ} (spent : limit ≤ registers.depth) :
    setting.ends limit { registers with task := .activation closure arguments span } heard =
      (.error (.thrown (setting.location span) "Maximum call stack size exceeded"),
        ⟨registers.scopes, heard⟩) := by
  simp only [ends, doTask, Nat.sub_eq_zero_of_le spent]
  rfl

theorem ends_of_innerOfExpression? (registers : Registers) (expression : Expression)
    {task : Task} (leads : setting.innerOfExpression? registers.scopes registers.current
      expression = some task) (heard : σ) :
    setting.ends limit { registers with task := .expression expression } heard =
      goOn (setting.ends limit { registers with task } heard)
        (setting.finish registers.place (.expression expression)) := by
  cases expression with
  | call span callee arguments =>
      obtain ⟨-, continued⟩ :=
        setting.treatment_spec registers.scopes registers.current callee arguments
      simp only [innerOfExpression?] at leads
      simp only [ends, doTask, runExpression_call, finish]
      rw [← continued]
      simp only [Registers.place]
      cases treated : setting.treatment registers.scopes registers.current callee arguments with
      | chained object =>
          rw [treated] at leads
          cases leads
          exact andThen_apply ..
      | iterated items closure =>
          rw [treated] at leads
          cases leads
          refine Eq.trans ?_ (goOn_return _).symm
          exact congrFun (setting.forM_eq_doTasks _ _ items.zipIdx _
            (fun item => .activation closure [item.1, .value (.number (Float.ofNat item.2))] span)
            fun _ => rfl) _
      | activated closure =>
          rw [treated] at leads
          cases leads
          exact (goOn_return _).symm
      | _ =>
          rw [treated] at leads
          cases leads
  | await _ operand =>
      cases leads
      exact (goOn_return _).symm
  | parenthesized _ inner =>
      cases leads
      exact (goOn_return _).symm
  | sequence _ items =>
      cases leads
      exact (congrFun (setting.runExpressions_eq_doTasks _ _ items) _).trans (goOn_return _).symm
  | assign _ target value =>
      cases leads
      cases target <;> exact andThen_apply ..
  | _ => cases leads

theorem ends_of_innerOfStatement? (registers : Registers) (statement : Statement) {inner : Job}
    (leads : innerOfStatement? registers statement = some inner) (heard : σ) :
    setting.ends limit { registers with task := .statement statement } heard =
      setting.ends limit inner heard := by
  cases statement with
  | expression _ expression =>
      cases leads
      rfl
  | block _ body =>
      cases leads
      rfl
  | declaration _ hoisted declarators =>
      cases leads
      exact congrFun (setting.runDeclarators_eq_doTasks _ _ hoisted declarators) _
  | exported _ declaration =>
      cases declaration with
      | declaration _ hoisted declarators =>
          cases leads
          exact congrFun (setting.runDeclarators_eq_doTasks _ _ hoisted declarators) _
      | _ => cases leads
  | forOf _ binder iterated body =>
      obtain ⟨items, known, rfl⟩ := Option.map_eq_some_iff.mp leads
      have passes := setting.forM_eq_doTasks (setting.activation (limit - registers.depth))
        registers.place items _ (fun item => .pass binder item body) fun _ => rfl
      simp only [ends, doTask, runStatement, bind_apply, scopes_apply, Registers.place, known]
      exact congrFun passes _
  | _ => cases leads

/-- A job that ends well is finished after its inner job; another ends as its inner job does. -/
theorem ends_of_inner? {job inner : Job} (leads : setting.inner? limit job = some inner)
    (heard : σ) :
    setting.ends limit job heard =
      goOn (setting.ends limit inner heard) (setting.finish job.place job.task) := by
  obtain ⟨registers, task⟩ := job
  cases task with
  | expression expression =>
      simp only [inner?, Option.map_eq_some_iff] at leads
      obtain ⟨task, leads, rfl⟩ := leads
      exact setting.ends_of_innerOfExpression? limit registers expression leads heard
  | declarator hoisted declarator =>
      obtain ⟨target, value⟩ := declarator
      simp only [inner?, Option.map_eq_some_iff] at leads
      obtain ⟨value, rfl, rfl⟩ := leads
      cases target <;> exact andThen_apply ..
  | statement statement =>
      exact (setting.ends_of_innerOfStatement? limit registers statement leads heard).trans
        (goOn_return _).symm
  | body statements =>
      simp only [inner?, Option.some.injEq] at leads
      subst leads
      refine Eq.trans ?_ (goOn_return _).symm
      simp only [ends, doTask, runBody, andThen_apply, hoist_apply, goOn_ok]
      exact congrFun (setting.runStatements_eq_doTasks _ _ statements) _
  | pass binder item body =>
      simp only [inner?, Option.some.injEq] at leads
      subst leads
      refine Eq.trans ?_ (goOn_return _).symm
      simp only [ends, doTask, inBlock, bind_apply, openScope_apply, bindItem_apply]
      rfl
  | activation closure arguments span =>
      simp only [inner?] at leads
      split at leads
      case isTrue live =>
        simp only [Option.some.injEq] at leads
        subst leads
        obtain ⟨remaining, left⟩ : ∃ remaining, limit - registers.depth = remaining + 1 :=
          ⟨limit - registers.depth - 1, by omega⟩
        refine Eq.trans ?_ (goOn_return _).symm
        have rest : limit - (registers.depth + 1) = remaining := by omega
        obtain ⟨callback, created⟩ := closure
        cases callback with
        | block parameters body =>
            simp only [ends, doTask, left, rest, activation, bind_apply, openScope_apply,
              bindParameters_apply]
            rfl
        | arrow parameters body =>
            simp only [ends, doTask, left, rest, activation, bind_apply, openScope_apply,
              bindParameters_apply]
            rfl
      case isFalse => cases leads
  | all tasks => cases leads

end Setting

/-! ## Idle jobs -/

/-- Let a listener hear several notices. -/
def Listener.noteAll {σ : Type} (listener : Listener σ) (notes : List Notice) (heard : σ) : σ :=
  notes.foldl (fun heard note => listener.notice note heard) heard

namespace Setting

variable {σ τ : Type} (setting : Setting σ) (limit : Nat)

/-- The warnings of code that is not followed. -/
def warnings (declares : Bool) (span : Span) (construct : Construct) : List Notice :=
  if declares then [.missing setting.file.path (setting.file.line span) construct] else []

theorem warnIf_apply (declares : Bool) (span : Span) (construct : Construct)
    (before : Progress σ) :
    setting.warnIf declares span construct before =
      (.ok (), { before with
        heard := setting.listener.noteAll (setting.warnings declares span construct)
          before.heard }) := by
  cases declares <;> rfl

/-- What is noted when a task is finished. -/
def finishNotes : Task → List Notice
  | .expression (.call span callee arguments) =>
    if callee.receiver?.isSome then
      setting.warnings (elementsDeclare setting.interface arguments) span .call
    else []
  | _ => []

/-- To finish a task is to note something and to bind a name. -/
theorem finish_apply (place : Place) (task : Task) (before : Progress σ) :
    setting.finish place task before =
      (.ok (), ⟨before.scopes.finish place.scope task,
        setting.listener.noteAll (setting.finishNotes task) before.heard⟩) := by
  cases task with
  | expression expression =>
      cases expression with
      | call span callee arguments =>
          simp only [finish, finishNotes]
          by_cases chained : callee.receiver?.isSome
          · simp only [if_pos chained]
            exact setting.warnIf_apply _ span .call before
          · simp only [if_neg chained]
            rfl
      | assign span target value => cases target <;> rfl
      | _ => rfl
  | declarator hoisted declarator =>
      obtain ⟨target, value⟩ := declarator
      cases target <;> cases value <;> rfl
  | _ => rfl

/--
Whether a job does nothing but note something, whoever listens.  It leaves the
scopes as they are unless it declares a variable without a first value.
-/
def Idle (job : Job) : Prop :=
  ∃ notes outcome after,
    (∀ (τ : Type) (listener : Listener τ) (heard : τ),
      (setting.withListener listener).ends limit job heard =
        (outcome, ⟨after, listener.noteAll notes heard⟩)) ∧
    (after = job.scopes ∨
      ∃ hoisted name, job.task = .declarator hoisted (.mk (.name name) none) ∧
        after = job.scopes.declare job.current hoisted name .unknown)

section

variable {setting limit} {job : Job}

theorem Idle.of_still (outcome : Outcome)
    (ended : ∀ (τ : Type) (listener : Listener τ) (heard : τ),
      (setting.withListener listener).ends limit job heard = (outcome, ⟨job.scopes, heard⟩)) :
    setting.Idle limit job :=
  ⟨[], outcome, job.scopes, ended, .inl rfl⟩

theorem Idle.of_warnIf (declares : Bool) (span : Span) (construct : Construct)
    (ended : ∀ (τ : Type) (listener : Listener τ) (heard : τ),
      (setting.withListener listener).ends limit job heard =
        (setting.withListener listener).warnIf declares span construct ⟨job.scopes, heard⟩) :
    setting.Idle limit job :=
  ⟨setting.warnings declares span construct, .ok (), job.scopes, fun τ listener heard =>
    (ended τ listener heard).trans ((setting.withListener listener).warnIf_apply declares ..),
    .inl rfl⟩

end

theorem idle_call (registers : Registers) (span : Span) (callee : Expression)
    (arguments : List Element)
    (alone : setting.innerOfExpression? registers.scopes registers.current
      (.call span callee arguments) = none)
    (silent : setting.interface.entryOf? callee = none) :
    setting.Idle limit { registers with task := .expression (.call span callee arguments) } := by
  obtain ⟨declared, -⟩ :=
    setting.treatment_spec registers.scopes registers.current callee arguments
  simp only [innerOfExpression?] at alone
  have ran : ∀ (τ : Type) (listener : Listener τ) (heard : τ),
      (setting.withListener listener).ends limit
          { registers with task := .expression (.call span callee arguments) } heard =
        (setting.withListener listener).perform
          ((setting.withListener listener).activation (limit - registers.depth)) registers.place
          span arguments
          (setting.treatment registers.scopes registers.current callee arguments)
          ⟨registers.scopes, heard⟩ :=
    fun τ listener heard => (setting.withListener listener).runExpression_call _ _ _ _ _ _
  cases treated : setting.treatment registers.scopes registers.current callee arguments with
  | configured =>
      refine .of_still (.ok ()) fun τ listener heard => (ran τ listener heard).trans ?_
      rw [treated]
      rfl
  | skipped name =>
      cases name with
      | none =>
          refine .of_warnIf (elementsDeclare setting.interface arguments) span .call
            fun τ listener heard => (ran τ listener heard).trans ?_
          rw [treated]
          rfl
      | some name =>
          refine ⟨.skipped name ::
            setting.warnings (elementsDeclare setting.interface arguments) span .call, .ok (),
            registers.scopes, fun τ listener heard => (ran τ listener heard).trans ?_, .inl rfl⟩
          rw [treated]
          exact ((setting.withListener listener).warnIf_apply _ span .call _).trans rfl
  | declared entry =>
      rw [treated, silent] at declared
      cases declared
  | _ =>
      rw [treated] at alone
      cases alone

/-- A loop over what is not known to be a list only warns. -/
theorem ends_forOf_of_unknown (registers : Registers) (span : Span) (binder : Binder)
    {iterated : Expression} (body : Statement)
    (unknown : (iterated.binding registers.scopes registers.current).items? = none) (heard : σ) :
    setting.ends limit { registers with task := .statement (.forOf span binder iterated body) }
        heard =
      setting.warnIf (body.declares setting.interface) span .loop ⟨registers.scopes, heard⟩ := by
  simp only [ends, doTask, runStatement, bind_apply, scopes_apply, Registers.place, unknown]

theorem idle_statement (registers : Registers) (statement : Statement)
    (alone : innerOfStatement? registers statement = none) :
    setting.Idle limit { registers with task := .statement statement } := by
  cases statement with
  | expression => cases alone
  | block => cases alone
  | declaration => cases alone
  | function => exact .of_still (.ok ()) fun _ _ _ => rfl
  | exported span declaration =>
      cases declaration with
      | declaration => cases alone
      | function => exact .of_still (.ok ()) fun _ _ _ => rfl
      | empty => exact .of_still (.ok ()) fun _ _ _ => rfl
      | _ =>
          exact .of_warnIf (Statement.declares setting.interface _) span .exported
            fun _ _ _ => rfl
  | empty => exact .of_still (.ok ()) fun _ _ _ => rfl
  | forOf span binder iterated body =>
      have unknown := Option.map_eq_none_iff.mp alone
      exact .of_warnIf (body.declares setting.interface) span .loop fun τ listener heard =>
        (setting.withListener listener).ends_forOf_of_unknown limit registers span binder body
          unknown heard
  | throw span argument =>
      exact .of_still (.error (.thrown (setting.location span)
        (setting.thrownMessage registers.scopes registers.place argument))) fun _ _ _ => rfl
  | other span parts =>
      exact .of_warnIf (partsDeclare setting.interface parts) span .statement fun _ _ _ => rfl

/-- Whether a job leads to no other: it is no row, has no inner job and declares nothing. -/
structure Alone (job : Job) : Prop where
  inner : setting.inner? limit job = none
  single : ∀ tasks, job.task ≠ .all tasks
  silent : ∀ span callee arguments, job.task = .expression (.call span callee arguments) →
    setting.interface.entryOf? callee = none

theorem Alone.idle {job : Job} (lone : setting.Alone limit job) : setting.Idle limit job := by
  obtain ⟨alone, single, silent⟩ := lone
  obtain ⟨registers, task⟩ := job
  cases task with
  | expression expression =>
      cases expression with
      | call span callee arguments =>
          refine setting.idle_call limit registers span callee arguments ?_
            (silent span callee arguments rfl)
          exact Option.map_eq_none_iff.mp alone
      | await => cases alone
      | parenthesized => cases alone
      | sequence => cases alone
      | assign => cases alone
      | identifier => exact .of_still (.ok ()) fun _ _ _ => rfl
      | this => exact .of_still (.ok ()) fun _ _ _ => rfl
      | literal => exact .of_still (.ok ()) fun _ _ _ => rfl
      | function => exact .of_still (.ok ()) fun _ _ _ => rfl
      | _ =>
          exact .of_warnIf (Expression.declares setting.interface _) (Expression.span _) .expression
            fun _ _ _ => rfl
  | declarator hoisted declarator =>
      obtain ⟨target, value⟩ := declarator
      cases value with
      | some => cases alone
      | none =>
          cases target with
          | name name => exact ⟨[], .ok (), _, fun _ _ _ => rfl, .inr ⟨hoisted, name, rfl, rfl⟩⟩
          | other => exact .of_still (.ok ()) fun _ _ _ => rfl
  | statement statement => exact setting.idle_statement limit registers statement alone
  | body => cases alone
  | pass => cases alone
  | activation closure arguments span =>
      have spent := setting.spent_of_inner?_eq_none limit alone
      refine .of_still (.error (.thrown (setting.location span)
        "Maximum call stack size exceeded")) fun τ listener heard => ?_
      exact (setting.withListener listener).ends_of_spent limit spent
  | all tasks => exact absurd rfl (single tasks)

end Setting

/-! ## Declaring jobs -/

/-- What a declaring call comes to. -/
inductive Announcement where
  /-- A test or a hook. -/
  | leaf (signal : Signal)
  /-- A suite with the job of running its body, unless it is pending without one. -/
  | suite (call : SuiteCall) (body : Option Job)
  /-- A suite that has no body although it needs one. -/
  | missing (error : LoadError)

/-- The signal by which a listener learns of what is announced. -/
def Announcement.signal? : Announcement → Option Signal
  | .leaf signal => some signal
  | .suite call _ => some (.suite call)
  | .missing _ => none

namespace Setting

variable {σ τ : Type} (setting : Setting σ) (limit : Nat)

/-- The name that a call gives, with a notice if it is not known. -/
def naming (scopes : Scopes) (scope : Nat) (arguments : List Element) : String × List Notice :=
  match arguments.head?.bind Element.plain? with
  | none => ("", [])
  | some expression =>
    match expression.value? scopes scope with
    | some value => (value.toText, [])
    | none =>
      let text := setting.file.excerpt expression.span
      (text, [.unknownName setting.file.path (setting.file.line expression.span) text])

theorem nameArgument_apply (place : Place) (arguments : List Element) (before : Progress σ) :
    setting.nameArgument place arguments before =
      (.ok (setting.naming before.scopes place.scope arguments).1,
        { before with
          heard := setting.listener.noteAll (setting.naming before.scopes place.scope arguments).2
            before.heard }) := by
  unfold nameArgument naming
  cases arguments.head?.bind Element.plain? with
  | none => rfl
  | some expression =>
      dsimp only
      rw [bind_apply, scopes_apply]
      dsimp only
      cases expression.value? before.scopes place.scope <;> rfl

/-- What a declaring call comes to. -/
def announcement (registers : Registers) (span : Span) (entry : Entry)
    (arguments : List Element) : Announcement :=
  let site := setting.callSite registers.place span
  let name := (setting.naming registers.scopes registers.current arguments).1
  let closureAt? := Element.closureAt? registers.scopes registers.current arguments
  match entry with
  | .suite variant =>
    match closureAt? 1 with
    | some closure =>
      .suite { name, variant, site } (some { registers with
        suites := setting.file.frame span :: registers.suites
        task := .activation closure [] span })
    | none =>
      if variant = .skip then .suite { name, variant, site } none
      else .missing (.missingCallback name (setting.location span))
  | .test variant => .leaf (.test { name, variant, site, hasBody := (closureAt? 1).isSome })
  | .hook hook =>
    let hasBody := (List.range arguments.length).any fun index => (closureAt? index).isSome
    .leaf (.hook { hook, site, hasBody })

/-- The notices that come before a declaration; only a suite or test is given a name. -/
def namingNotes (registers : Registers) (entry : Entry) (arguments : List Element) :
    List Notice :=
  match entry with
  | .hook _ => []
  | _ => (setting.naming registers.scopes registers.current arguments).2

/-- How the body of a suite ends; a suite without one ends well. -/
def endsBody (scopes : Scopes) (body : Option Job) (heard : σ) : Outcome × Progress σ :=
  match body with
  | some inner => setting.ends limit inner heard
  | none => (.ok (), ⟨scopes, heard⟩)

/-- Let the listener hear what is announced, and run the body of a suite that it enters. -/
def announce (scopes : Scopes) (announcement : Announcement) (heard : σ) : Outcome × Progress σ :=
  match announcement with
  | .leaf signal => (.ok (), ⟨scopes, setting.listener.hear signal heard⟩)
  | .missing error => (.error error, ⟨scopes, heard⟩)
  | .suite call body =>
    match setting.listener.suite call heard with
    | (.refuse error, heard) => (.error error, ⟨scopes, heard⟩)
    | (.pass, heard) => (.ok (), ⟨scopes, heard⟩)
    | (.enter, heard) =>
      let (outcome, after) := setting.endsBody limit scopes body heard
      (outcome, { after with heard := setting.listener.leave call outcome after.heard })

/-- What is announced has the call site of the call. -/
theorem declaration?_of_announcement (registers : Registers) (span : Span) (entry : Entry)
    (arguments : List Element) {signal : Signal}
    (announced : (setting.announcement registers span entry arguments).signal? = some signal) :
    signal.declaration? = some (entry, setting.callSite registers.place span) := by
  cases entry with
  | suite variant =>
      simp only [announcement] at announced
      split at announced
      · cases announced
        rfl
      · split at announced <;> cases announced
        rfl
  | test variant =>
      cases announced
      rfl
  | hook hook =>
      cases announced
      rfl

/-- What is announced as a leaf is a test or a hook. -/
theorem leaf_of_announcement {registers : Registers} {span : Span} {entry : Entry}
    {arguments : List Element} {signal : Signal}
    (announced : setting.announcement registers span entry arguments = .leaf signal) :
    (∃ call, signal = .test call) ∨ ∃ call, signal = .hook call := by
  cases entry with
  | suite variant =>
      simp only [announcement] at announced
      split at announced
      · cases announced
      · split at announced <;> cases announced
  | test variant =>
      cases announced
      exact .inl ⟨_, rfl⟩
  | hook hook =>
      cases announced
      exact .inr ⟨_, rfl⟩

/-- A suite that is opened announces itself, with a body that does its job. -/
theorem openSuite_eq_announce (scopes : Scopes) (call : SuiteCall) (inner : Option Job)
    {body : Evaluating σ Unit}
    (does : ∀ heard, body ⟨scopes, heard⟩ = setting.endsBody limit scopes inner heard)
    (heard : σ) :
    setting.openSuite call body ⟨scopes, heard⟩ =
      setting.announce limit scopes (.suite call inner) heard := by
  rw [openSuite_apply, announce]
  rcases setting.listener.suite call heard with ⟨_ | _ | _, heard⟩
  · exact congrArg (fun ended : Outcome × Progress σ => (ended.1, { ended.2 with
      heard := setting.listener.leave call ended.1 ended.2.heard })) (does heard)
  · rfl
  · rfl

theorem treatment_of_declaring (scopes : Scopes) (scope : Nat) {callee : Expression}
    (arguments : List Element) {entry : Entry}
    (stands : setting.interface.entryOf? callee = some entry) :
    setting.treatment scopes scope callee arguments = .declared entry := by
  obtain ⟨declared, -⟩ := setting.treatment_spec scopes scope callee arguments
  cases treated : setting.treatment scopes scope callee arguments <;>
    rw [treated, stands] at declared <;> cases declared
  rfl

/-- A declaring call notes what has to be noted about its name and announces itself. -/
theorem ends_of_declaring (registers : Registers) (span : Span) {callee : Expression}
    (arguments : List Element) {entry : Entry}
    (stands : setting.interface.entryOf? callee = some entry) (heard : σ) :
    setting.ends limit { registers with task := .expression (.call span callee arguments) } heard =
      setting.announce limit registers.scopes
        (setting.announcement registers span entry arguments)
        (setting.listener.noteAll (setting.namingNotes registers entry arguments) heard) := by
  have treated : setting.treatment registers.scopes registers.place.scope callee arguments = _ :=
    setting.treatment_of_declaring registers.scopes registers.current arguments stands
  refine (setting.runExpression_call _ registers.place span callee arguments
    ⟨registers.scopes, heard⟩).trans ?_
  rw [treated]
  cases entry with
  | suite variant =>
      simp only [perform, declare, bind_apply, nameArgument_apply, scopes_apply, announcement,
        Registers.place]
      cases closure : Element.closureAt? registers.scopes registers.current arguments 1 with
      | some closure => exact openSuite_eq_announce _ limit _ _ _ (fun _ => rfl) _
      | none =>
          by_cases pending : variant = .skip
          · simp only [if_pos pending]
            exact openSuite_eq_announce _ limit _ _ none (fun _ => rfl) _
          · simp only [if_neg pending]
            rfl
  | test variant =>
      simp only [perform, declare, bind_apply, nameArgument_apply]
      rfl
  | hook hook => rfl

/-- A suite that is entered ends as its body does. -/
theorem ends_of_entered {registers : Registers} {span : Span} {callee : Expression}
    {arguments : List Element} {entry : Entry} {call : SuiteCall} {body : Job} {heard heard' : σ}
    (stands : setting.interface.entryOf? callee = some entry)
    (announced : setting.announcement registers span entry arguments = .suite call (some body))
    (entered : setting.listener.suite call
      (setting.listener.noteAll (setting.namingNotes registers entry arguments) heard) =
        (.enter, heard')) :
    setting.ends limit { registers with task := .expression (.call span callee arguments) } heard =
      let ended := setting.ends limit body heard'
      (ended.1, { ended.2 with heard := setting.listener.leave call ended.1 ended.2.heard }) := by
  rw [setting.ends_of_declaring limit registers span arguments stands, announced, announce, entered]
  rfl

end Setting

end TestInventory
