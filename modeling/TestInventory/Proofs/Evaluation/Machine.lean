import TestInventory.Proofs.Evaluation.JobOrder

/-!
# A machine with registers

The machine evaluates as a program with variables does: the current scope, the
number of live activations and the calls of the open suites stand in registers,
which are set before a part is evaluated and set back behind it, however the part
ends.  It stops without a result when it is given too few steps for the tasks that
it takes up within each other; that a number of steps is enough for every program is
a theorem.  It leaves a trail of all that it takes up.
-/

namespace TestInventory

open TestInventory.Source (Span)

/-- The registers and the state of the listener. -/
structure Station (σ : Type) extends Registers where
  heard : σ

/-- A task that is taken up, and where the machine stands then. -/
structure Visit (σ : Type) extends Station σ where
  task : Task

/-- The state of the machine. -/
structure Machine.State (σ : Type) extends Station σ where
  /-- What was taken up so far, last first. -/
  trail : List (Visit σ)

/-- A step of the machine, which may stop without a result. -/
abbrev Machine (σ : Type) := StateT (Machine.State σ) Option

namespace Machine

variable {σ : Type}

/-- Leave a trace of a task that is taken up. -/
def takeUp (task : Task) : Machine σ Unit :=
  modify fun state => { state with trail := { state.toStation with task } :: state.trail }

/-- Do a step of an evaluation that evaluates nothing else, and end as it does. -/
def ends (step : Place → Evaluating σ Unit) : Machine σ Outcome := fun state =>
  let (outcome, after) := step state.place ⟨state.scopes, state.heard⟩
  some (outcome, { state with scopes := after.scopes, heard := after.heard })

/-- Do a step of an evaluation that never fails. -/
def does (step : Place → Evaluating σ Unit) : Machine σ Unit := do
  let _ ← ends step

/-- Let the listener hear something. -/
def hears (hear : σ → σ) : Machine σ Unit :=
  modify fun state => { state with heard := hear state.heard }

/-- Tell the listener of a suite; its answer is given back. -/
def tellOfSuite (setting : Setting σ) (call : SuiteCall) : Machine σ Admission := do
  let state ← get
  let (admission, heard) := setting.listener.suite call state.heard
  set { state with heard }
  return admission

/-- Open a scope and make it current; the scope to restore is given back. -/
def enterScope (parent : Nat) (ofFunction : Bool) : Machine σ Nat := do
  let state ← get
  set { state with toRegisters := state.enter parent ofFunction }
  return state.current

/-- Make a scope current again. -/
def restore (scope : Nat) : Machine σ Unit := modify fun state => { state with current := scope }

variable (setting : Setting σ) (limit : Nat)

/-- Evaluate a task and all that it leads to. -/
def run : (steps : Nat) → Task → Machine σ Outcome
  | 0, _ => failure
  | steps + 1, task => do
    takeUp task
    match task with
    | .all [] => return .ok ()
    | .all (first :: rest) =>
      let outcome ← run steps first
      if outcome.isOk then run steps (.all rest) else return outcome
    | .body statements =>
      does fun place => Setting.hoist place statements
      run steps (.all (statements.map .statement))
    | .pass binder item body =>
      let outer ← enterScope (← get).current false
      does fun place => Setting.bindItem place binder item
      let outcome ← run steps (.statement body)
      restore outer
      return outcome
    | .activation closure arguments span =>
      if limit ≤ (← get).depth then
        ends fun _ => throw (.thrown (setting.location span) "Maximum call stack size exceeded")
      else
        let caller ← enterScope closure.scope true
        modify fun state => { state with depth := state.depth + 1 }
        does fun place =>
          Setting.bindParameters place.scope closure.callback.parameters arguments
        let outcome ← run steps closure.callback.task
        modify fun state => { state with depth := state.depth - 1 }
        restore caller
        return outcome
    | .declarator hoisted (.mk target value) =>
      match value with
      | none => ends fun place => do
        if let .name name := target then
          Evaluating.modifyScopes (·.declare place.scope hoisted name .unknown)
      | some value =>
        let outcome ← run steps (.expression value)
        if outcome.isOk then ends (setting.finish · task) else return outcome
    | .statement statement =>
      match statement with
      | .expression _ expression => run steps (.expression expression)
      | .block _ body =>
        let outer ← enterScope (← get).current false
        let outcome ← run steps (.body body)
        restore outer
        return outcome
      | .declaration _ hoisted declarators =>
        run steps (.all (declarators.map (.declarator hoisted)))
      | .function .. => return .ok ()
      | .empty _ => return .ok ()
      | .exported span declaration =>
        match declaration with
        | .declaration _ hoisted declarators =>
          run steps (.all (declarators.map (.declarator hoisted)))
        | .function .. => return .ok ()
        | declaration =>
          ends fun _ => setting.warnIf (declaration.declares setting.interface) span .exported
      | .forOf span binder iterated body =>
        let state ← get
        match (iterated.binding state.scopes state.current).items? with
        | none => ends fun _ => setting.warnIf (body.declares setting.interface) span .loop
        | some items => run steps (.all (items.map fun item => .pass binder item body))
      | .throw span argument => ends fun place => do
        let message := setting.thrownMessage (← Evaluating.scopes) place argument
        throw (.thrown (setting.location span) message)
      | .other span parts =>
        ends fun _ => setting.warnIf (partsDeclare setting.interface parts) span .statement
    | .expression expression =>
      match expression with
      | .call span callee arguments =>
        let state ← get
        match setting.treatment state.scopes state.current callee arguments with
        | .configured => return .ok ()
        | .chained object =>
          let outcome ← run steps (.expression object)
          if outcome.isOk then ends fun _ => setting.skipCall span arguments else return outcome
        | .iterated items closure =>
          run steps (.all (items.zipIdx.map fun (item, index) =>
            .activation closure [item, .value (.number (Float.ofNat index))] span))
        | .activated closure =>
          let bindings := elementBindings state.scopes state.current arguments
          run steps (.activation closure bindings span)
        | .skipped callee => ends fun _ => do
          if let some name := callee then setting.notice (.skipped name)
          setting.skipCall span arguments
        | .declared entry =>
          hears (setting.listener.noteAll (setting.namingNotes state.toRegisters entry arguments))
          match setting.announcement state.toRegisters span entry arguments with
          | .leaf signal =>
            hears (setting.listener.hear signal)
            return .ok ()
          | .missing error => return .error error
          | .suite call body =>
            match ← tellOfSuite setting call with
            | .refuse error => return .error error
            | .pass => return .ok ()
            | .enter =>
              match body with
              | none =>
                hears (setting.listener.leave call (.ok ()))
                return .ok ()
              | some body =>
                modify fun state =>
                  { state with suites := setting.file.frame span :: state.suites }
                let outcome ← run steps body.task
                modify fun state => { state with suites := state.suites.tail }
                hears (setting.listener.leave call outcome)
                return outcome
      | .await _ operand => run steps (.expression operand)
      | .parenthesized _ inner => run steps (.expression inner)
      | .sequence _ items => run steps (.all (items.map .expression))
      | .assign _ _ value =>
        let outcome ← run steps (.expression value)
        if outcome.isOk then ends (setting.finish · task) else return outcome
      | .function .. => return .ok ()
      | other =>
        ends fun _ => setting.warnIf (other.declares setting.interface) other.span .expression

/-- Whether the machine, given steps enough, does a task from a state with a certain end. -/
def HaltsWith (task : Task) (state : State σ) (result : Outcome × State σ) : Prop :=
  ∃ enough, ∀ steps, enough ≤ steps → run setting limit steps task state = some result

variable {setting limit}

/-- There is one result with which a task halts from a state. -/
theorem HaltsWith.unique {task : Task} {state : State σ} {first second : Outcome × State σ}
    (halts : HaltsWith setting limit task state first)
    (halts' : HaltsWith setting limit task state second) : first = second := by
  obtain ⟨enough, gives⟩ := halts
  obtain ⟨enough', gives'⟩ := halts'
  have same := gives (max enough enough') (Nat.le_max_left ..)
  rw [gives' (max enough enough') (Nat.le_max_right ..)] at same
  exact (Option.some.inj same).symm

section Steps

variable {α β : Type} (state : State σ)

theorem bind_apply (step : Machine σ α) (next : α → Machine σ β) :
    (step >>= next) state = (step state).bind fun result => next result.1 result.2 := rfl

theorem takeUp_apply (task : Task) :
    takeUp task state =
      some ((), { state with trail := ⟨state.toStation, task⟩ :: state.trail }) := rfl

theorem get_apply : (get : Machine σ (State σ)) state = some (state, state) := rfl

theorem modify_apply (change : State σ → State σ) :
    (modify change : Machine σ Unit) state = some ((), change state) := rfl

theorem hears_apply (hear : σ → σ) :
    hears hear state = some ((), { state with heard := hear state.heard }) := rfl

theorem tellOfSuite_apply (call : SuiteCall) :
    tellOfSuite setting call state =
      some ((setting.listener.suite call state.heard).1,
        { state with heard := (setting.listener.suite call state.heard).2 }) := rfl

theorem enterScope_apply (parent : Nat) (ofFunction : Bool) :
    enterScope parent ofFunction state =
      some (state.current, { state with toRegisters := state.enter parent ofFunction }) := rfl

theorem does_apply (step : Place → Evaluating σ Unit) :
    does step state =
      some ((), { state with
        scopes := (step state.place ⟨state.scopes, state.heard⟩).2.scopes
        heard := (step state.place ⟨state.scopes, state.heard⟩).2.heard }) := rfl

end Steps

/-- The first of a pair of tasks is done, and then what follows if it has ended well. -/
theorem bind_of_goOn {first next : Machine σ Outcome} {state : State σ}
    {registers : Registers} {trail : List (Visit σ)} {outcome : Outcome} {progress : Progress σ}
    {finish : Evaluating σ Unit}
    (ran : first state =
      some (outcome, ⟨⟨{ registers with scopes := progress.scopes }, progress.heard⟩, trail⟩))
    (finishes : next ⟨⟨{ registers with scopes := progress.scopes }, progress.heard⟩, trail⟩ =
      some ((finish progress).1, ⟨⟨{ registers with scopes := (finish progress).2.scopes },
        (finish progress).2.heard⟩, trail⟩)) :
    let ended := Evaluating.goOn (outcome, progress) finish
    (do let outcome ← first
        if outcome.isOk then next else return outcome : Machine σ Outcome) state =
      some (ended.1, ⟨⟨{ registers with scopes := ended.2.scopes }, ended.2.heard⟩, trail⟩) := by
  rw [bind_apply, ran, Option.bind_some]
  cases outcome with
  | error error => rfl
  | ok => exact finishes

section Inner

variable {steps : Nat} {registers : Registers} {heard : σ} {trail trail' : List (Visit σ)}
  {outcome : Outcome} {progress : Progress σ}

/-- Whether the machine does a task with a certain end, and leaves the registers as they were. -/
def Finishes (setting : Setting σ) (limit steps : Nat) (registers : Registers) (task : Task)
    (heard : σ) (trail trail' : List (Visit σ)) (ended : Outcome × Progress σ) : Prop :=
  run setting limit steps task ⟨⟨registers, heard⟩, trail⟩ =
    some (ended.1, ⟨⟨{ registers with scopes := ended.2.scopes }, ended.2.heard⟩, trail'⟩)

theorem finishes_of_return {result : Option (Outcome × State σ)}
    (ran : result =
      some (outcome, ⟨⟨{ registers with scopes := progress.scopes }, progress.heard⟩, trail'⟩)) :
    let ended := Evaluating.goOn (outcome, progress) (return : Evaluating σ Unit)
    result = some (ended.1, ⟨⟨{ registers with scopes := ended.2.scopes }, ended.2.heard⟩,
      trail'⟩) := by
  rwa [Evaluating.goOn_return]

theorem run_of_innerOfExpression? {expression : Expression} {task : Task}
    (leads : setting.innerOfExpression? registers.scopes registers.current expression = some task)
    (ran : run setting limit steps task
        ⟨⟨registers, heard⟩, ⟨⟨registers, heard⟩, .expression expression⟩ :: trail⟩ =
      some (outcome, ⟨⟨{ registers with scopes := progress.scopes }, progress.heard⟩, trail'⟩)) :
    Finishes setting limit (steps + 1) registers (.expression expression) heard trail trail'
      (Evaluating.goOn (outcome, progress)
        (setting.finish registers.place (.expression expression))) := by
  unfold Finishes
  cases expression with
  | call span callee arguments =>
      obtain ⟨-, continued⟩ :=
        setting.treatment_spec registers.scopes registers.current callee arguments
      simp only [Setting.innerOfExpression?] at leads
      rw [run]
      simp only [bind_apply, takeUp_apply, get_apply, Option.bind_some, Setting.finish]
      rw [← continued]
      cases treated : setting.treatment registers.scopes registers.current callee arguments with
      | chained object =>
          rw [treated] at leads
          cases leads
          exact bind_of_goOn ran rfl
      | iterated items closure =>
          rw [treated] at leads
          cases leads
          exact finishes_of_return ran
      | activated closure =>
          rw [treated] at leads
          cases leads
          exact finishes_of_return ran
      | _ =>
          rw [treated] at leads
          cases leads
  | await _ operand =>
      cases leads
      rw [run]
      exact finishes_of_return ran
  | parenthesized _ inner =>
      cases leads
      rw [run]
      exact finishes_of_return ran
  | sequence _ items =>
      cases leads
      rw [run]
      exact finishes_of_return ran
  | assign _ target value =>
      cases leads
      rw [run]
      exact bind_of_goOn ran rfl
  | _ => cases leads

theorem run_of_innerOfStatement? {statement : Statement} {inner : Job}
    (leads : Setting.innerOfStatement? registers statement = some inner)
    (ran : run setting limit steps inner.task
        ⟨⟨inner.toRegisters, heard⟩, ⟨⟨registers, heard⟩, .statement statement⟩ :: trail⟩ =
      some (outcome, ⟨⟨{ inner.toRegisters with scopes := progress.scopes }, progress.heard⟩,
        trail'⟩)) :
    Finishes setting limit (steps + 1) registers (.statement statement) heard trail trail'
      (outcome, progress) := by
  unfold Finishes
  cases statement with
  | expression _ expression =>
      cases leads
      rw [run]
      exact ran
  | block _ body =>
      cases leads
      rw [run]
      exact (congrArg (Option.bind · _) ran).trans rfl
  | declaration _ hoisted declarators =>
      cases leads
      rw [run]
      exact ran
  | exported _ declaration =>
      cases declaration with
      | declaration _ hoisted declarators =>
          cases leads
          rw [run]
          exact ran
      | _ => cases leads
  | forOf _ binder iterated body =>
      obtain ⟨items, known, rfl⟩ := Option.map_eq_some_iff.mp leads
      rw [run]
      simp only [bind_apply, takeUp_apply, get_apply, Option.bind_some, known]
      exact ran
  | _ => cases leads

/-- A job that leads to another is done by doing the other, and then finished. -/
theorem run_of_inner? {task : Task} {inner : Job}
    (leads : setting.inner? limit { registers with task } = some inner)
    (ran : run setting limit steps inner.task
        ⟨⟨inner.toRegisters, heard⟩, ⟨⟨registers, heard⟩, task⟩ :: trail⟩ =
      some (outcome, ⟨⟨{ inner.toRegisters with scopes := progress.scopes }, progress.heard⟩,
        trail'⟩)) :
    Finishes setting limit (steps + 1) registers task heard trail trail'
      (Evaluating.goOn (outcome, progress) (setting.finish registers.place task)) := by
  cases task with
  | all tasks => cases leads
  | body statements =>
      simp only [Setting.inner?, Option.some.injEq] at leads
      subst leads
      rw [Finishes, run]
      simp only [bind_apply, takeUp_apply, does_apply, Setting.hoist_apply, Option.bind_some]
      exact finishes_of_return ran
  | pass binder item body =>
      simp only [Setting.inner?, Option.some.injEq] at leads
      subst leads
      rw [Finishes, run]
      simp only [bind_apply, takeUp_apply, get_apply, enterScope_apply, does_apply,
        Setting.bindItem_apply, Option.bind_some]
      exact finishes_of_return ((congrArg (Option.bind · _) ran).trans rfl)
  | activation closure arguments span =>
      simp only [Setting.inner?] at leads
      split at leads
      case isTrue live =>
        simp only [Option.some.injEq] at leads
        subst leads
        rw [Finishes, run]
        simp only [bind_apply, takeUp_apply, get_apply, Option.bind_some,
          if_neg (Nat.not_le.mpr live), enterScope_apply, modify_apply, does_apply,
          Setting.bindParameters_apply]
        exact finishes_of_return ((congrArg (Option.bind · _) ran).trans rfl)
      case isFalse => cases leads
  | declarator hoisted declarator =>
      obtain ⟨target, value⟩ := declarator
      simp only [Setting.inner?, Option.map_eq_some_iff] at leads
      obtain ⟨value, rfl, rfl⟩ := leads
      rw [Finishes, run]
      exact bind_of_goOn ran rfl
  | statement statement => exact finishes_of_return (run_of_innerOfStatement? leads ran)
  | expression expression =>
      simp only [Setting.inner?, Option.map_eq_some_iff] at leads
      obtain ⟨task, leads, rfl⟩ := leads
      exact run_of_innerOfExpression? leads ran

/-- An activation beyond the limit is refused. -/
theorem run_of_spent {closure : Closure} {arguments : List Binding} {span : Span}
    (spent : limit ≤ registers.depth) :
    run setting limit (steps + 1) (.activation closure arguments span) ⟨⟨registers, heard⟩, trail⟩ =
      some (.error (.thrown (setting.location span) "Maximum call stack size exceeded"),
        ⟨⟨registers, heard⟩,
          ⟨⟨registers, heard⟩, .activation closure arguments span⟩ :: trail⟩) := by
  rw [run]
  simp only [bind_apply, takeUp_apply, get_apply, Option.bind_some, if_pos spent]
  rfl

theorem run_of_alone_statement {statement : Statement}
    (alone : Setting.innerOfStatement? registers statement = none) :
    Finishes setting limit (steps + 1) registers (.statement statement) heard trail
      (⟨⟨registers, heard⟩, .statement statement⟩ :: trail)
      (setting.ends limit { registers with task := .statement statement } heard) := by
  unfold Finishes
  cases statement with
  | expression => cases alone
  | block => cases alone
  | declaration => cases alone
  | exported span declaration =>
      cases declaration with
      | declaration => cases alone
      | _ =>
          rw [run.eq_def]
          rfl
  | forOf span binder iterated body =>
      have unknown := Option.map_eq_none_iff.mp alone
      have warned : setting.ends limit
          { registers with task := .statement (.forOf span binder iterated body) } heard =
          setting.warnIf (body.declares setting.interface) span .loop
            ⟨registers.scopes, heard⟩ := by
        simp only [Setting.ends, Setting.doTask, Setting.runStatement,
          Evaluating.bind_apply, Evaluating.scopes_apply, Registers.place, unknown]
      rw [run, warned]
      simp only [bind_apply, takeUp_apply, get_apply, Option.bind_some, unknown]
      rfl
  | _ =>
      rw [run.eq_def]
      rfl

/-- A call that leads to no other task and declares nothing is done in one step. -/
theorem run_of_alone_call {span : Span} {callee : Expression} {arguments : List Element}
    (alone : setting.innerOfExpression? registers.scopes registers.current
      (.call span callee arguments) = none)
    (silent : setting.interface.entryOf? callee = none) :
    Finishes setting limit (steps + 1) registers (.expression (.call span callee arguments)) heard
      trail (⟨⟨registers, heard⟩, .expression (.call span callee arguments)⟩ :: trail)
      (setting.ends limit { registers with task := .expression (.call span callee arguments) }
        heard) := by
  obtain ⟨declared, -⟩ :=
    setting.treatment_spec registers.scopes registers.current callee arguments
  have performed : setting.ends limit
      { registers with task := .expression (.call span callee arguments) } heard = _ :=
    setting.runExpression_call (setting.activation (limit - registers.depth))
      registers.place span callee arguments ⟨registers.scopes, heard⟩
  simp only [Setting.innerOfExpression?] at alone
  rw [Finishes, run, performed]
  simp only [bind_apply, takeUp_apply, get_apply, Option.bind_some, Registers.place]
  cases treated : setting.treatment registers.scopes registers.current callee arguments with
  | configured => rfl
  | skipped name => rfl
  | declared entry =>
      rw [treated, silent] at declared
      cases declared
  | _ =>
      rw [treated] at alone
      cases alone

/-- A job that leads to no other is done in one step. -/
theorem run_of_alone {task : Task} (lone : setting.Alone limit { registers with task }) :
    Finishes setting limit (steps + 1) registers task heard trail
      (⟨⟨registers, heard⟩, task⟩ :: trail)
      (setting.ends limit { registers with task } heard) := by
  obtain ⟨alone, single, silent⟩ := lone
  cases task with
  | all tasks => exact absurd rfl (single tasks)
  | body statements => cases alone
  | pass binder item body => cases alone
  | activation closure arguments span =>
      have spent := setting.spent_of_inner?_eq_none limit alone
      rw [Finishes, run_of_spent spent, setting.ends_of_spent limit spent]
  | declarator hoisted declarator =>
      obtain ⟨target, value⟩ := declarator
      cases value with
      | some => cases alone
      | none =>
          rw [Finishes, run]
          cases target <;> rfl
  | statement statement => exact run_of_alone_statement alone
  | expression expression =>
      cases expression with
      | call span callee arguments =>
          exact run_of_alone_call (Option.map_eq_none_iff.mp alone)
            (silent span callee arguments rfl)
      | await => cases alone
      | parenthesized => cases alone
      | sequence => cases alone
      | assign => cases alone
      | _ =>
          rw [Finishes, run.eq_def]
          rfl

section Declaring

variable {span : Span} {callee : Expression} {arguments : List Element} {entry : Entry}
  (stands : setting.interface.entryOf? callee = some entry)
include stands

/-- The body of a suite is done with the call of the suite on top of the open ones. -/
theorem run_of_entered {call : SuiteCall} {body : Job} {heard' : σ}
    (announced : setting.announcement registers span entry arguments = .suite call (some body))
    (entered : setting.listener.suite call
      (setting.listener.noteAll (setting.namingNotes registers entry arguments) heard) =
        (.enter, heard'))
    (ran : run setting limit steps body.task ⟨⟨body.toRegisters, heard'⟩,
        ⟨⟨registers, heard⟩, .expression (.call span callee arguments)⟩ :: trail⟩ =
      some (outcome, ⟨⟨{ body.toRegisters with scopes := progress.scopes }, progress.heard⟩,
        trail'⟩)) :
    Finishes setting limit (steps + 1) registers (.expression (.call span callee arguments)) heard
      trail trail'
      (outcome, { progress with heard := setting.listener.leave call outcome progress.heard }) := by
  rw [Finishes, run]
  simp only [bind_apply, takeUp_apply, get_apply, Option.bind_some,
    setting.treatment_of_declaring _ _ _ stands, hears_apply, announced, tellOfSuite_apply, entered]
  obtain ⟨closure, -, rfl⟩ := setting.body_of_announcement announced
  exact (congrArg (Option.bind · _) ran).trans rfl

/-- A declaring call that runs no body is done in one step. -/
theorem run_of_declaring
    (bodiless : ∀ call body heard', setting.announcement registers span entry arguments =
      .suite call (some body) → setting.listener.suite call
        (setting.listener.noteAll (setting.namingNotes registers entry arguments) heard) ≠
          (.enter, heard')) :
    Finishes setting limit (steps + 1) registers (.expression (.call span callee arguments)) heard
      trail
      (⟨⟨registers, heard⟩, .expression (.call span callee arguments)⟩ :: trail)
      (setting.ends limit { registers with task := .expression (.call span callee arguments) }
        heard) := by
  rw [Finishes, run, setting.ends_of_declaring limit registers span arguments stands]
  simp only [bind_apply, takeUp_apply, get_apply, Option.bind_some,
    setting.treatment_of_declaring _ _ _ stands, hears_apply]
  cases announced : setting.announcement registers span entry arguments with
  | leaf signal => rfl
  | missing error => rfl
  | suite call body =>
      simp only [bind_apply, tellOfSuite_apply, Option.bind_some, Setting.announce]
      rcases told : setting.listener.suite call
        (setting.listener.noteAll (setting.namingNotes registers entry arguments) heard) with
        ⟨_ | _ | _, heard'⟩
      · cases body with
        | some body => exact absurd told (bodiless call body heard' announced)
        | none => rfl
      · rfl
      · rfl

end Declaring

end Inner

end Machine

end TestInventory
