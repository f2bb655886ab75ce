import TestInventory.Program.Binding

/-!
# Members of literals and classes

Methods, accessors and fields.  A class is never followed, so reading one yields
its parts; the rules on constructors and on static members are kept.
-/

namespace TestInventory

open TestInventory.Source
open Reading

structure Modifiers where
  isStatic : Bool := false
  asynchronous : Bool := false
  generator : Bool := false
  getter : Bool := false
  setter : Bool := false
  accessor : Bool := false
  deriving DecidableEq, Repr, Inhabited

namespace Modifiers

def needMethod (modifiers : Modifiers) : Bool :=
  modifiers.asynchronous || modifiers.generator || modifiers.getter || modifiers.setter

end Modifiers

namespace Grammar

/-- Move past a word if it modifies the member that follows; some must stand on its line. -/
def eatModifier (text : String) (sameLine : Bool) : Reading Bool := do
  if !(← atWord text) then return false
  let next ← following
  if mayFollowModifier next && !(sameLine && next.onNewLine) then advance; return true
  else return false

/-- Read the modifiers of a method: `async`, `get`, `set` and the star of generators. -/
def methodModifiers (modifiers : Modifiers) : Reading Modifiers := do
  if (← eatModifier "async" true) then
    return { modifiers with asynchronous := true, generator := (← eatSign "*") }
  if (← eatModifier "get" false) then return { modifiers with getter := true }
  if (← eatModifier "set" false) then return { modifiers with setter := true }
  return { modifiers with generator := (← eatSign "*") }

/-- Read the parameters and the body of a method.  Accessors have a fixed number of parameters. -/
def methodRest (g : Grammar) (modifiers : Modifiers) : Reading Part := do
  let start ← here
  let context : Context :=
    { asynchronous := modifiers.asynchronous, generator := modifiers.generator }
  sign "("
  let spread ← atSign "..."
  let targets ← g.parameters context
  require (!(modifiers.getter && !targets.isEmpty))
  require (!(modifiers.setter && (targets.length != 1 || spread)))
  let body ← g.functionBody context
  return .expression (.function (← spanFrom start) (.block targets body))

def decorators (g : Grammar) (context : Context) : Reading (List Part) :=
  iterate [] fun parts => do
    if (← eatSign "@") then
      return .inl (parts ++ [.expression (← g.leftHandSide context).tree])
    return .inr parts

def fieldRest (g : Grammar) : Reading (List Part) := do
  if (← eatSign "=") then
    let value ← g.assignment {}
    semicolon
    return [.expression value.tree]
  semicolon
  return []

/-- Read a member behind its decorators. -/
def classMember (g : Grammar) (context : Context) : Reading (List Part) := do
  let next ← following
  if (← atWord "static") && next.isSign "\x7b" then
    advance
    let body ← g.block { asynchronous := true }
    return body.map .statement
  let isStatic ← eatModifier "static" false
  if (← eatModifier "accessor" true) then
    let name ← g.propertyName context true
    return name.parts ++ (← g.fieldRest)
  let modifiers ← methodModifiers { isStatic }
  let name ← g.propertyName context true
  require (!(isStatic && name.known = some "prototype"))
  let isConstructor := !isStatic && name.known = some "constructor"
  if (← atSign "(") then
    require (!(isConstructor && modifiers.needMethod))
    return name.parts ++ [← g.methodRest modifiers]
  require (!(modifiers.needMethod || isConstructor))
  return name.parts ++ (← g.fieldRest)

def classBody (g : Grammar) (context : Context) : Reading (List Part) := do
  sign "\x7b"
  let members ← manyUntil "\x7d" do
    if (← eatSign ";") then return []
    let before ← g.decorators context
    return before ++ (← g.classMember context)
  return members.flatten

/--
Read a class behind its keyword.  Gives its name, if it has one, and its parts.
-/
def classRest (g : Grammar) (context : Context) : Reading (Option String × List Part) := do
  let name ← match (← token).lexeme with
    | .word text _ =>
      if text = "extends" then pure Option.none else some <$> identifier context
    | _ => pure Option.none
  let parents ← if (← eatWord "extends") then
      pure [Part.expression (← g.leftHandSide context).tree]
    else pure []
  return (name, parents ++ (← g.classBody { context with inOperator := true }))

end Grammar

end TestInventory
