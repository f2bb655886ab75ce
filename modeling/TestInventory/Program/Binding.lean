import TestInventory.Program.Grammar

/-!
# Bindings, parameters and functions

What declares variables: names and patterns, the parameters of functions, and
the bodies that see them.
-/

namespace TestInventory

open TestInventory.Source
open Reading

namespace Grammar

/-- The name of a property: the parts inside it, and its word if it is written as a word. -/
structure PropertyName where
  parts : List Part := []
  word : Option String := Option.none
  known : Option String := Option.none
  deriving Inhabited

/-- Read the name of a property; `members` says whether names of private members count. -/
def propertyName (g : Grammar) (context : Context) (members : Bool) : Reading PropertyName := do
  match (← token).lexeme with
  | .word text _ => advance; return { word := some text, known := some text }
  | .string text => advance; return { known := some text }
  | .number _ | .bigInteger => advance; return {}
  | .privateName text =>
    require (members && text != "constructor")
    advance
    return {}
  | .sign "[" =>
    advance
    let key ← g.item context
    sign "]"
    return { parts := [.expression key.tree] }
  | _ => fail

def withDefault (g : Grammar) (context : Context) (bound : Bound) : Reading Bound := do
  if (← eatSign "=") then
    let value ← g.item context
    return { bound with target := .other (bound.target.parts ++ [.expression value.tree]) }
  return bound

/-- An element of a pattern; the last component says that nothing may follow it. -/
abbrev PatternElement := Bound × Bool

def arrayPatternElement (g : Grammar) (context : Context) : Reading PatternElement := do
  if (← atSign ",") then return ({ target := .other [] }, false)
  if (← eatSign "...") then
    let rest ← g.binding context
    return ({ rest with target := .other rest.target.parts }, true)
  return (← g.withDefault context (← g.binding context), false)

def objectPatternElement (g : Grammar) (context : Context) : Reading PatternElement := do
  if (← eatSign "...") then
    let name ← identifier context
    return ({ target := .other [], names := [name] }, true)
  let key ← g.propertyName context false
  if (← eatSign ":") then
    let bound ← g.withDefault context (← g.binding context)
    return ({ bound with target := .other (key.parts ++ bound.target.parts) }, false)
  match key.word with
  | some name =>
    require (namesVariable context name)
    return (← g.withDefault context { target := .name name, names := [name] }, false)
  | Option.none => fail

/-- Join the elements of a pattern; only the last one may refuse others behind it. -/
def joinElements (elements : List PatternElement) (comma : Bool) : Reading Bound := do
  require (elements.dropLast.all fun element => !element.2)
  require (!(comma && elements.getLast?.any (·.2)))
  return {
    target := .other (elements.flatMap fun element => element.1.target.parts)
    names := elements.flatMap fun element => element.1.names }

def bindingTarget (g : Grammar) (context : Context) : Reading Bound := do
  if (← eatSign "[") then
    let (elements, comma) ← separatedUntil "]" (g.arrayPatternElement context)
    joinElements elements comma
  else if (← eatSign "\x7b") then
    let (elements, comma) ← separatedUntil "\x7d" (g.objectPatternElement context)
    joinElements elements comma
  else
    let name ← identifier context
    return { target := .name name, names := [name] }

def parameter (g : Grammar) (context : Context) : Reading PatternElement := do
  if (← eatSign "...") then
    let rest ← g.binding context
    return ({ rest with target := .other rest.target.parts }, true)
  return (← g.withDefault context (← g.binding context), false)

/-- Read the parameters behind an opening parenthesis, up to the closing one. -/
def parameters (g : Grammar) (context : Context) : Reading (List Target) := do
  let (elements, comma) ← separatedUntil ")" (g.parameter { context with inOperator := true })
  let _ ← joinElements elements comma
  return elements.map fun element => element.1.target

/-- Read the body of a function in braces, without its directives. -/
def functionBody (g : Grammar) (context : Context) : Reading (List Statement) := do
  let statements ← g.block { context with inOperator := true, inFunction := true }
  return statements.dropWhile Statement.isDirective

def functionRest (g : Grammar) (asynchronous generator : Bool) : Reading Callback := do
  let context : Context := { asynchronous, generator }
  sign "("
  let targets ← g.parameters context
  return .block targets (← g.functionBody context)

/-- Read the body of an arrow function; its arrow has been read. -/
def arrowBody (g : Grammar) (context : Context) (asynchronous : Bool) (targets : List Target) :
    Reading Callback := do
  let context := { context with asynchronous, generator := false }
  if (← atSign "\x7b") then
    return .block targets (← g.functionBody context)
  return .arrow targets (← g.assignment context).tree

def arrowHead (g : Grammar) (context : Context) : Reading (List Target) := do
  sign "("
  let targets ← g.parameters context
  require (!(← token).onNewLine)
  sign "=>"
  return targets

end Grammar

end TestInventory
