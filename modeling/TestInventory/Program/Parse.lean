import TestInventory.Program.Module

/-!
# From text to program

`Program.parse?` reads a whole text as a module or as a script.  The nesting of
the forms is bounded by the length of the text, so the grammar is built up to
that depth.

The language is that of scripts and modules as they stand.  What some tools add to
it, elements written as markup (JSX) and types (TypeScript), is no part of it:
such a text is no program here, whatever the name of its file.
-/

namespace TestInventory

open TestInventory.Source
open Reading

namespace Grammar

/-- Read a statement that begins with a word, if that word decides its form. -/
def keywordStatement? (g : Grammar) (context : Context) (single : Bool) (text : String) :
    Reading (Option Statement) := do
  let start ← here
  match text with
  | "if" => advance; some <$> g.ifRest context start
  | "do" => advance; some <$> g.doRest context start
  | "while" =>
    advance
    let test ← g.condition context
    let body ← g.single context
    some <$> Statement.ofParts start [test, body]
  | "with" =>
    advance
    let object ← g.condition context
    let body ← g.single context
    some <$> Statement.ofParts start [object, body]
  | "for" => advance; some <$> g.forStatement context start
  | "continue" | "break" => advance; optionalLabel context; some <$> Statement.ofParts start []
  | "switch" =>
    advance
    let subject ← g.condition context
    let cases ← g.switchCases context
    some <$> Statement.ofParts start (subject :: cases)
  | "throw" => advance; some <$> g.throwRest context start
  | "try" => advance; some <$> g.tryRest context start
  | "debugger" => advance; semicolon; some <$> Statement.ofParts start []
  | "return" => advance; some <$> g.returnRest context start
  | "function" =>
    advance
    return some (← g.functionDeclaration context start false single false).1
  | "class" =>
    require (!single)
    return some (← g.classDeclaration context start [] false).1
  | "async" =>
    let next ← following
    if next.isWord "function" && !next.onNewLine then
      advance
      advance
      return some (← g.functionDeclaration context start true single false).1
    else return Option.none
  | "import" =>
    let next ← following
    if next.isSign "(" || next.isSign "." then return Option.none
    advance
    some <$> importDeclaration context start
  | "export" => advance; some <$> g.exportDeclaration context start []
  | _ =>
    match (← declarationKind? context single false) with
    | some kind =>
      declarationKeywords
      return some (← g.variableStatement context kind start single).1
    | Option.none => return Option.none

def decoratedStatement (g : Grammar) (context : Context) (single : Bool) : Reading Statement := do
  let start ← here
  require (!single)
  let before ← g.decorators context
  if (← eatWord "export") then g.exportDeclaration context start before
  else return (← g.classDeclaration context start before false).1

def anyStatement (g : Grammar) (context : Context) (single : Bool) : Reading Statement := do
  let context := { context with inOperator := true }
  let start ← here
  match (← token).lexeme with
  | .sign "\x7b" =>
    let body ← g.block context
    return .block (← spanFrom start) body
  | .sign ";" => advance; return .empty (← spanFrom start)
  | .sign "@" => g.decoratedStatement context single
  | .word text false =>
    match (← g.keywordStatement? context single text) with
    | some statement => return statement
    | Option.none => g.expressionStatement context
  | _ => g.expressionStatement context

/-- The grammar for forms that nest up to a depth. -/
def toDepth : Nat → Grammar
  | 0 => .none
  | depth + 1 =>
    { assignment := fun context => (toDepth depth).assignmentExpression context
      unary := fun context => (toDepth depth).unaryExpression context
      binary := fun context level => (toDepth depth).binaryExpression context level
      primary := fun context => (toDepth depth).primaryExpression context
      leftHandSide := fun context => (toDepth depth).leftHandSideExpression context
      binding := fun context => (toDepth depth).bindingTarget context
      statement := fun context single => (toDepth depth).anyStatement context single }

end Grammar

namespace Program

def wholeText (g : Grammar) (context : Context) : Reading (List Statement) := do
  let body ← iterate [] fun body => do
    if (← token).isFinish then return .inr body.reverse
    return .inl ((← g.statement context false) :: body)
  require (← get).pending.isEmpty
  return body.dropWhile Statement.isDirective

/-- The place behind a line that names the interpreter of the file, if the text begins with one. -/
def skipInterpreter (text : List Char) : Cursor :=
  match text with
  | '#' :: '!' :: rest =>
    let line := rest.takeWhile (!isLineTerminator ·)
    ⟨rest.dropWhile (!isLineTerminator ·), 2 + Text.byteLength line⟩
  | _ => ⟨text, 0⟩

/-- Read a text as a program.  Scripts differ from modules in comments and in `await`. -/
def parse? (script : Bool) (text : List Char) : Option Program :=
  let bound := text.length + 2
  let (token, start, after) := (skipInterpreter text).next script true
  let state : ReadState := { script, bound, token, start, after }
  let context : Context := { asynchronous := !script }
  match wholeText (Grammar.toDepth (4 * bound)) context state with
  | (.ok body, _) => some ⟨body⟩
  | (.error _, _) => none

end Program

end TestInventory
