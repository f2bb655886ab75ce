import TestInventory.Evaluation.Basic
import TestInventory.Program.Parse

/-!
# Running a file for its declarations

Statements run in order.  The bodies of suites and of called helpers are run;
the bodies of tests and hooks are not.  Recursion on the text is structural.
Every activation of a function uses up one of a limited number, so an
evaluation always ends.
-/

namespace TestInventory

open TestInventory.Source (Span)
open Evaluating

namespace Setting

variable {σ : Type}

/-- Bind the functions that a list of statements declares, before any of them runs. -/
def hoist (place : Place) : List Statement → Evaluating σ Unit
  | [] => return
  | statement :: rest => do
    match statement with
    | .function _ (some name) callback => bindFunction name callback
    | .exported _ (.function _ (some name) callback) => bindFunction name callback
    | _ => pure ()
    hoist place rest
where
  bindFunction (name : String) (callback : Callback) : Evaluating σ Unit :=
    modifyScopes (·.bindIn place.scope name (.callback ⟨callback, place.scope⟩))

def bindItem (place : Place) (binder : Binder) (item : Binding) : Evaluating σ Unit :=
  match binder with
  | .declaration hoisted declarators =>
    declarators.forM fun
      | .mk (.name name) _ => modifyScopes (·.declare place.scope hoisted name item)
      | .mk (.other _) _ => return
  | .target (.name name) => modifyScopes (·.assign place.scope name item)
  | .target (.other _) => return

variable (setting : Setting σ) (activate : Activation σ)

mutual

/-- Run an expression; only its declarations and assignments matter. -/
def runExpression (place : Place) : Expression → Evaluating σ Unit
  | .call span callee arguments =>
    match callee with
    | .identifier _ name => setting.callName activate place span name none arguments
    | .member _ object property =>
      match object with
      | .this _ => return
      | .call inner callee given => do
        -- In a chain of calls the first one may declare something, and those behind it do not.
        runExpression place (.call inner callee given)
        setting.skipCall span arguments
      | object =>
        if property = "forEach" then setting.callForEach activate place span object arguments
        else match object with
          | .identifier _ name =>
            setting.callName activate place span name (some property) arguments
          | _ => setting.skipCall span arguments
    | _ => setting.skipCall span arguments
  | .await _ operand => runExpression place operand
  | .parenthesized _ inner => runExpression place inner
  | .sequence _ items => runExpressions place items
  | .assign _ target value => do
    runExpression place value
    -- The value is known only now: running it may have assigned to what it reads.
    if let .name name := target then
      let binding := value.binding (← scopes) place.scope
      modifyScopes (·.assign place.scope name binding)
  | .function .. => return
  | expression =>
    setting.warnIf (expression.declares setting.interface) expression.span .expression

def runExpressions (place : Place) : List Expression → Evaluating σ Unit
  | [] => return
  | first :: rest => do
    runExpression place first
    runExpressions place rest

end

def runDeclarators (place : Place) (hoisted : Bool) : List Declarator → Evaluating σ Unit
  | [] => return
  | .mk target value :: rest => do
    let mut binding := Binding.unknown
    if let some value := value then
      setting.runExpression activate place value
      binding := value.binding (← scopes) place.scope
    if let .name name := target then
      modifyScopes (·.declare place.scope hoisted name binding)
    runDeclarators place hoisted rest

mutual

def runStatement (place : Place) : Statement → Evaluating σ Unit
  | .expression _ expression => setting.runExpression activate place expression
  | .block _ body => do
    let scope ← openScope place.scope false
    hoist { place with scope } body
    runStatements { place with scope } body
  | .declaration _ hoisted declarators =>
    setting.runDeclarators activate place hoisted declarators
  | .function .. => return
  | .empty _ => return
  | .exported span declaration =>
    match declaration with
    | .declaration _ hoisted declarators =>
      setting.runDeclarators activate place hoisted declarators
    | .function .. => return
    | declaration => setting.warnIf (declaration.declares setting.interface) span .exported
  | .forOf span binder iterated body => do
    match (iterated.binding (← scopes) place.scope).items? with
    | none => setting.warnIf (body.declares setting.interface) span .loop
    | some items =>
      items.forM fun item => do
        let scope ← openScope place.scope false
        bindItem { place with scope } binder item
        runStatement { place with scope } body
  | .throw span argument => do
    let message := setting.thrownMessage (← scopes) place argument
    throw (.thrown (setting.location span) message)
  | .other span parts => setting.warnIf (partsDeclare setting.interface parts) span .statement

def runStatements (place : Place) : List Statement → Evaluating σ Unit
  | [] => return
  | first :: rest => do
    runStatement place first
    runStatements place rest

end

/-- Run a body: bind its functions, then run its statements. -/
def runBody (place : Place) (body : List Statement) : Evaluating σ Unit := do
  hoist place body
  setting.runStatements activate place body

/-- Run the body of a closure while activations remain. -/
def activation : (remaining : Nat) → Activation σ
  | 0 => fun _ _ span _ =>
    throw (.thrown (setting.location span) "Maximum call stack size exceeded")
  | remaining + 1 => fun closure arguments _ suites => do
    -- What the caller has bound is not seen from here, but the suites around it are open.
    let scope ← openScope closure.scope true
    match closure.callback with
    | .block parameters body =>
      bindParameters scope parameters arguments
      setting.runBody (activation remaining) { scope, suites } body
    | .arrow parameters body =>
      bindParameters scope parameters arguments
      setting.runExpression (activation remaining) { scope, suites } body

/-- How many activations there may be at one time. -/
def activationLimit : Nat := 64

def runProgram (limit : Nat) (program : Program) : Evaluating σ Unit :=
  setting.runBody (setting.activation limit) { scope := Scopes.file } program.statements

def evaluate (limit : Nat) (program : Program) (heard : σ) : Outcome × σ :=
  let (outcome, progress) := (setting.runProgram limit program).run ⟨.initial, heard⟩
  (outcome, progress.heard)

/-- Tell the listener what the file declares, if its text is a program. -/
def load (heard : σ) : Outcome × σ :=
  match Program.parse? setting.file.isScript setting.file.text with
  | none => (.error (.unreadable setting.file.path), heard)
  | some program => setting.evaluate activationLimit program heard

end Setting

end TestInventory
