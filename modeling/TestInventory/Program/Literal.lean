import TestInventory.Program.Class

/-!
# Literals with parts

Array and object literals, templates and regular expressions.  Array and object
literals may turn out to be patterns; their shape says whether they can.
-/

namespace TestInventory

open TestInventory.Source
open Reading

namespace Grammar

/-- An element or a property, and the initialisers it brings to a pattern if it can stand in one. -/
structure PatternItem (α : Type) where
  content : α
  initialisers : Option (List Nat) := Option.none
  last : Bool := false

def literalShape {α : Type} (items : List (PatternItem α)) (comma : Bool) : Shape :=
  let fits := (items.dropLast.all fun item => !item.last) &&
    !(comma && items.getLast?.any (·.last))
  match items.mapM (·.initialisers) with
  | some initialisers => if fits then .pattern initialisers.flatten else .plain
  | Option.none => .plain

def arrayItem (g : Grammar) (context : Context) : Reading (PatternItem Element) := do
  if (← atSign ",") then return { content := .hole, initialisers := some [] }
  if (← eatSign "...") then
    let operand ← g.item context
    return { content := .spread operand.tree, initialisers := operand.asRest?, last := true }
  let operand ← g.item context
  return { content := .plain operand.tree, initialisers := operand.inPattern? }

def arrayRest (g : Grammar) (context : Context) (start : Nat) : Reading Operand := do
  let (items, comma) ← separatedUntil "]" (g.arrayItem context)
  return ⟨.array (← spanFrom start) (items.map (·.content)), literalShape items comma⟩

def objectItem (g : Grammar) (context : Context) : Reading (PatternItem (List Part)) := do
  if (← eatSign "...") then
    let operand ← g.item context
    return {
      content := [.expression operand.tree]
      initialisers := if operand.isSimple then some [] else Option.none
      last := true }
  let start ← here
  let modifiers ← methodModifiers {}
  let name ← g.propertyName context false
  if modifiers.needMethod || (← atSign "(") then
    return { content := name.parts ++ [← g.methodRest modifiers] }
  if (← eatSign ":") then
    let operand ← g.item context
    return {
      content := name.parts ++ [.expression operand.tree]
      initialisers := operand.inPattern? }
  match name.word with
  | some word =>
    require (namesVariable context word)
    if (← eatSign "=") then
      let value ← g.item context
      modify fun s => { s with pending := start :: s.pending }
      return { content := [.expression value.tree], initialisers := some [start] }
    return { content := [], initialisers := some [] }
  | Option.none => fail

def objectRest (g : Grammar) (context : Context) (start : Nat) : Reading Operand := do
  let (items, comma) ← separatedUntil "\x7d" (g.objectItem context)
  return ⟨.other (← spanFrom start) (items.flatMap (·.content)), literalShape items comma⟩

/-- Read a template; the token at hand is its first piece. -/
def template (g : Grammar) (context : Context) :
    Reading (List (Option String) × List Expression) :=
  iterate ([], []) fun (pieces, holes) => do
    match (← token).lexeme with
    | .template value closed =>
      advance
      if closed then return .inr ((value :: pieces).reverse, holes.reverse)
      let hole ← g.whole context
      require (← atSign "\x7d")
      match (← get).after.template with
      | some (lexeme, after) =>
        replace lexeme after
        return .inl (value :: pieces, hole :: holes)
      | Option.none => fail
    | _ => fail

/-- Read a template that no function is applied to; all its escapes must be known. -/
def templateLiteral (g : Grammar) (context : Context) : Reading Operand := do
  let start ← here
  let (pieces, holes) ← g.template context
  match pieces.mapM id with
  | some texts => return ⟨.template (← spanFrom start) texts holes, .plain⟩
  | Option.none => fail

/-- Read a regular expression; the token at hand begins with its slash. -/
def pattern : Reading Operand := do
  let start ← here
  match (← get).start.rest with
  | '/' :: rest =>
    match Cursor.pattern ⟨rest, start + 1⟩ with
    | some after =>
      replace .pattern after
      advance
      Operand.other start []
    | Option.none => fail
  | _ => fail

end Grammar

end TestInventory
