import TestInventory.Evaluation.Known
import TestInventory.Interface.Occurrence
import TestInventory.Script
import TestInventory.Site.Resolver

/-!
# What an evaluation knows and changes

An evaluation reads a file under an interface and tells a listener what it
declares.  It changes the scopes and the state of the listener, and nothing
else; the current scope and the open suites are handed down.
-/

namespace TestInventory

open TestInventory.Source (Position Span)

/-- The text of a test file and the names under which it is reported. -/
structure SourceFile where
  /-- The name of the file in warnings and errors. -/
  path : String
  /-- The name of the file in call sites. -/
  frameFile : String
  text : List Char
  /-- Whether the text is a script and not a module. -/
  isScript : Bool := false
  deriving Inhabited

namespace SourceFile

def line (file : SourceFile) (span : Span) : Nat := (Position.ofOffset file.text span.start).line

def excerpt (file : SourceFile) (span : Span) : String :=
  String.ofList ((span.slice? file.text).getD [])

/-- The start of a stretch of the file as an entry of a call stack. -/
def frame (file : SourceFile) (span : Span) : Frame :=
  let position := Position.ofOffset file.text span.start
  { file := file.frameFile, line := position.line, column := position.column }

end SourceFile

/-- What stays the same while a file is evaluated. -/
structure Setting (σ : Type) where
  file : SourceFile
  interface : Interface
  resolver : Resolver
  listener : Listener σ

structure Place where
  scope : Nat
  /-- The calls of the suites that are open, innermost first. -/
  suites : List Frame := []
  deriving DecidableEq, Repr, Inhabited

structure Progress (σ : Type) where
  scopes : Scopes
  heard : σ

/-- A step of an evaluation; an error ends the evaluation and keeps what changed before. -/
abbrev Evaluating (σ : Type) := ExceptT LoadError (StateM (Progress σ))

/-- How the body of a closure is run: with arguments, from a call, under open suites. -/
abbrev Activation (σ : Type) :=
  Closure → List Binding → Span → List Frame → Evaluating σ Unit

namespace Evaluating

variable {σ : Type}

def scopes : Evaluating σ Scopes := do return (← get).scopes

def modifyScopes (change : Scopes → Scopes) : Evaluating σ Unit :=
  modify fun progress => { progress with scopes := change progress.scopes }

def tell (hear : σ → σ) : Evaluating σ Unit :=
  modify fun progress => { progress with heard := hear progress.heard }

def openScope (parent : Nat) (ofFunction : Bool) : Evaluating σ Nat := do
  let index := (← scopes).size
  modifyScopes (·.add parent ofFunction)
  return index

/-- Run a step and give its outcome in place of failing. -/
def attempt (step : Evaluating σ Unit) : Evaluating σ Outcome := fun progress =>
  let (outcome, progress) := step progress
  (.ok outcome, progress)

end Evaluating

namespace Setting

open Evaluating

variable {σ : Type} (setting : Setting σ)

def location (span : Span) : Location :=
  setting.resolver.resolve (.frames [setting.file.frame span])

/-- The call site of a call: the call itself and the open suites around it. -/
def callSite (place : Place) (span : Span) : CallSite :=
  .frames (setting.file.frame span :: place.suites)

def notice (note : Notice) : Evaluating σ Unit := tell (setting.listener.notice note)

/-- Warn of declarations in code that is not followed, if there are any. -/
def warnIf (declares : Bool) (span : Span) (construct : Construct) : Evaluating σ Unit := do
  if declares then
    setting.notice (.missing setting.file.path (setting.file.line span) construct)

/-- Leave a call alone; warn if its arguments declare something. -/
def skipCall (span : Span) (arguments : List Element) : Evaluating σ Unit :=
  setting.warnIf (elementsDeclare setting.interface arguments) span .call

/-- The name that a call gives in its first argument; an unknown name is given by its text. -/
def nameArgument (place : Place) (arguments : List Element) : Evaluating σ String := do
  match arguments.head?.bind Element.plain? with
  | none => return ""
  | some expression =>
    match expression.value? (← scopes) place.scope with
    | some value => return value.toText
    | none =>
      let text := setting.file.excerpt expression.span
      setting.notice (.unknownName setting.file.path (setting.file.line expression.span) text)
      return text

def thrownMessage (scopes : Scopes) (place : Place) (thrown : Expression) : String :=
  let given := match thrown with
    | .construct _ _ arguments =>
      (arguments.head?.bind Element.plain?).bind (·.value? scopes place.scope)
    | _ => none
  match given <|> thrown.value? scopes place.scope with
  | some value => value.toText
  | none => setting.file.excerpt thrown.span

/-- Declare a suite and run its body if the listener enters it. -/
def openSuite (call : SuiteCall) (body : Evaluating σ Unit) : Evaluating σ Unit := do
  let (admission, heard) := setting.listener.suite call (← get).heard
  tell fun _ => heard
  match admission with
  | .refuse error => throw error
  | .pass => return
  | .enter =>
    let outcome ← attempt body
    tell (setting.listener.leave call outcome)
    liftExcept outcome
where
  liftExcept : Outcome → Evaluating σ Unit
    | .ok () => return
    | .error error => throw error

def declare (activate : Activation σ) (place : Place) (span : Span) (entry : Entry)
    (arguments : List Element) : Evaluating σ Unit := do
  let site := setting.callSite place span
  match entry with
  | .suite variant =>
    let name ← setting.nameArgument place arguments
    let call : SuiteCall := { name, variant, site }
    match Element.closureAt? (← scopes) place.scope arguments 1 with
    | some closure =>
      let inner := setting.file.frame span :: place.suites
      setting.openSuite call (activate closure [] span inner)
    | none =>
      -- Only a skipped suite may do without a body, and is then pending.
      if variant = .skip then setting.openSuite call (return)
      else throw (.missingCallback name (setting.location span))
  | .test variant =>
    let name ← setting.nameArgument place arguments
    let hasBody := (Element.closureAt? (← scopes) place.scope arguments 1).isSome
    tell (setting.listener.test { name, variant, site, hasBody })
  | .hook hook =>
    let scopes ← scopes
    -- A title may stand before the body of a hook.
    let hasBody := (List.range arguments.length).any fun index =>
      (Element.closureAt? scopes place.scope arguments index).isSome
    tell (setting.listener.hook { hook, site, hasBody })

def callName (activate : Activation σ) (place : Place) (span : Span) (callee : String)
    (modifier : Option String) (arguments : List Element) : Evaluating σ Unit := do
  match setting.interface.classify callee modifier with
  | some entry => setting.declare activate place span entry arguments
  | none =>
    let scopes ← scopes
    -- A member of a helper is something else than the helper.
    let helper := if modifier.isNone then
        (scopes.lookup place.scope callee).bind Binding.closure?
      else none
    match helper with
    | some closure =>
      activate closure (elementBindings scopes place.scope arguments) span place.suites
    | none =>
      setting.notice (.skipped callee)
      setting.skipCall span arguments

/-- Run a call of `forEach`: its callback is run for every item of a known list. -/
def callForEach (activate : Activation σ) (place : Place) (span : Span) (iterated : Expression)
    (arguments : List Element) : Evaluating σ Unit := do
  let scopes ← scopes
  match (iterated.binding scopes place.scope).items?,
      Element.closureAt? scopes place.scope arguments 0 with
  | some items, some closure =>
    items.zipIdx.forM fun (item, index) =>
      activate closure [item, .value (.number (Float.ofNat index))] span place.suites
  | _, _ => setting.skipCall span arguments

/-- Bind parameters in a new scope; a missing argument is not known. -/
def bindParameters (scope : Nat) : List Target → List Binding → Evaluating σ Unit
  | [], _ => return
  | target :: targets, arguments => do
    if let .name name := target then
      modifyScopes (·.bindIn scope name (arguments.head?.getD .unknown))
    bindParameters scope targets arguments.tail

end Setting

end TestInventory
