import TestInventory.Program.Expression

/-!
# Statements

Declarations, loops and the other statements.  Loops over the elements of an
array, blocks, variables, functions and `throw` keep their form; all others keep
only what stands inside them.
-/

namespace TestInventory

open TestInventory.Source
open Reading

inductive VariableKind where
  | var
  | «let»
  | const
  | using
  deriving DecidableEq, Repr, Inhabited

/-- A declarator with the names that it binds. -/
structure Declared where
  target : Bound
  value : Option Expression
  deriving Inhabited

namespace Declared

def tree (declared : Declared) : Declarator := .mk declared.target.target declared.value

end Declared

namespace Statement

/-- A statement of a form that is not followed, from `start` to where reading stands. -/
def ofParts (start : Nat) (parts : List Part) : Reading Statement :=
  return .other (← spanFrom start) parts

end Statement

namespace Grammar

def declarator (g : Grammar) (context : Context) : Reading Declared := do
  let target ← g.binding context
  let value ← if (← eatSign "=") then some <$> g.assignment context else pure Option.none
  return ⟨target, value.map (·.tree)⟩

/-- Whether a declarator may do without a first value. -/
def completeDeclarator (kind : VariableKind) (declared : Declared) : Bool :=
  declared.value.isSome || match declared.target.target with
    | .name _ => kind == .var || kind == .«let»
    | .other _ => false

def declarators (g : Grammar) (context : Context) : Reading (List Declared) := do
  let first ← g.declarator context
  iterate [first] fun items => do
    if (← eatSign ",") then return .inl ((← g.declarator context) :: items)
    return .inr items.reverse

def variableStatement (g : Grammar) (context : Context) (kind : VariableKind) (start : Nat)
    (single : Bool) : Reading (Statement × List String) := do
  require (!(single && kind != .var))
  let items ← g.declarators { context with inOperator := true }
  require (items.all (completeDeclarator kind))
  semicolon
  let statement : Statement :=
    .declaration (← spanFrom start) (kind == .var) (items.map Declared.tree)
  return (statement, items.flatMap (·.target.names))

/-- Read a function declaration behind `function`, or behind `async function`. -/
def functionDeclaration (g : Grammar) (context : Context) (start : Nat)
    (asynchronous single nameless : Bool) : Reading (Statement × List String) := do
  let generator ← eatSign "*"
  require (!(single && (asynchronous || generator)))
  let name ← if nameless && (← atSign "(") then pure Option.none
    else some <$> identifier context
  let callback ← g.functionRest asynchronous generator
  return (.function (← spanFrom start) name callback, name.toList)

def classDeclaration (g : Grammar) (context : Context) (start : Nat) (before : List Part)
    (nameless : Bool) : Reading (Statement × List String) := do
  word "class"
  let (name, parts) ← g.classRest context
  require (nameless || name.isSome)
  return (← Statement.ofParts start (before ++ parts), name.toList)

/-- Whether `let` begins a declaration when this token follows it. -/
def letDeclares (single : Bool) (next : Token) : Bool :=
  match next.lexeme with
  | .word text _ => !single && text != "in" && text != "instanceof"
  | .sign text => text == "[" || (text == "\x7b" && !single)
  | _ => false

/-- Whether `using` begins a declaration when this token follows it. -/
def usingDeclares (next : Token) : Bool :=
  !next.onNewLine && match next.lexeme with
    | .word text _ => !isReserved text
    | _ => false

def atAwaitUsing (context : Context) : Reading Bool := lookAhead do
  if !context.asynchronous || !(← eatWord "await") then return false
  let next ← token
  if next.onNewLine || !next.isWord "using" then return false
  advance
  return usingDeclares (← token)

/-- The kind of declaration that begins at the token at hand, behind a `for` or not. -/
def declarationKind? (context : Context) (single loop : Bool) : Reading (Option VariableKind) := do
  match (← token).lexeme with
  | .word "var" false => return some .var
  | .word "const" false => return some .const
  | .word "let" false =>
    return if letDeclares single (← following) then some .let else Option.none
  | .word "using" false =>
    let next ← following
    return if usingDeclares next && !(loop && next.isWord "of") then some .using else Option.none
  | .word "await" false =>
    return if (← atAwaitUsing context) then some .using else Option.none
  | _ => return Option.none

def declarationKeywords : Reading Unit := do
  let _ ← eatWord "await"
  advance

def condition (g : Grammar) (context : Context) : Reading Part := do
  sign "("
  let tree ← g.whole context
  sign ")"
  return .expression tree

/-- Read a statement where there is room for one only. -/
def single (g : Grammar) (context : Context) : Reading Part := do
  return .statement (← g.statement context true)

/-- Read the rest of a loop with three parts; its first part has been read. -/
def countingLoop (g : Grammar) (context : Context) (start : Nat) (first : List Part) :
    Reading Statement := do
  sign ";"
  let test ← if (← atSign ";") then pure [] else pure [Part.expression (← g.whole context)]
  sign ";"
  let update ← if (← atSign ")") then pure [] else pure [Part.expression (← g.whole context)]
  sign ")"
  let body ← g.single context
  Statement.ofParts start (first ++ test ++ update ++ [body])

def binderParts : Binder → List Part
  | .declaration _ items =>
    items.flatMap fun
      | .mk target value => target.parts ++ Part.ofExpressions value.toList
  | .target target => target.parts

/-- Read the rest of a loop over the keys or the elements of an object; its binder has been read. -/
def iteratingLoop (g : Grammar) (context : Context) (start : Nat) (awaited : Bool)
    (binder : Binder) : Reading Statement := do
  if (← eatWord "in") then
    require (!awaited)
    let object ← g.whole context
    sign ")"
    let body ← g.single context
    Statement.ofParts start (binderParts binder ++ [.expression object, body])
  else
    word "of"
    let iterated ← g.item context
    sign ")"
    let body ← g.statement context true
    return .forOf (← spanFrom start) binder iterated.tree body

def forStatement (g : Grammar) (context : Context) (start : Nat) : Reading Statement := do
  let awaited ← eatWord "await"
  require (!awaited || context.asynchronous)
  sign "("
  let inner := { context with inOperator := false }
  if (← atSign ";") then
    require (!awaited)
    return ← g.countingLoop context start []
  match (← declarationKind? context false true) with
  | some kind =>
    declarationKeywords
    let items ← g.declarators inner
    let trees := items.map Declared.tree
    if (← atWord "of") || (← atWord "in") then
      g.iteratingLoop context start awaited (.declaration (kind == .var) trees)
    else
      require (!awaited && items.all (completeDeclarator kind))
      g.countingLoop context start (binderParts (.declaration (kind == .var) trees))
  | Option.none =>
    let startsAsync ← atWord "async"
    let first ← g.expression inner
    let isAsyncName := startsAsync && match first.tree with
      | .identifier .. => true
      | _ => false
    if (← atWord "of") || (← atWord "in") then
      require (!(isAsyncName && !awaited && (← atWord "of")))
      let target ← first.toTarget
      g.iteratingLoop context start awaited (.target target)
    else
      require (!awaited)
      g.countingLoop context start [.expression first.tree]

def switchCases (g : Grammar) (context : Context) : Reading (List Part) := do
  sign "\x7b"
  let cases ← manyUntil "\x7d" do
    let test ← if (← eatWord "case") then pure [Part.expression (← g.whole context)]
      else do word "default"; pure []
    sign ":"
    let body ← iterate [] fun body => do
      if (← atWord "case") || (← atWord "default") || (← atSign "\x7d") then
        return .inr body.reverse
      return .inl (Part.statement (← g.statement context false) :: body)
    return test ++ body
  return cases.flatten

def tryRest (g : Grammar) (context : Context) (start : Nat) : Reading Statement := do
  let body ← g.block context
  let handler ← if (← eatWord "catch") then do
      let parameter ← if (← eatSign "(") then do
          let bound ← g.binding context
          sign ")"
          pure bound.target.parts
        else pure []
      let statements ← g.block context
      pure (some (parameter ++ statements.map .statement))
    else pure Option.none
  let finalizer ← if (← eatWord "finally") then some <$> g.block context else pure Option.none
  require (handler.isSome || finalizer.isSome)
  Statement.ofParts start
    (body.map .statement ++ handler.getD [] ++ (finalizer.getD []).map .statement)

/-- Read the label that `break` and `continue` may name. -/
def optionalLabel (context : Context) : Reading Unit := do
  if !(← mayEnd) then
    let _ ← identifier context
  semicolon

/-- Read an expression statement, or a statement with a label. -/
def expressionStatement (g : Grammar) (context : Context) : Reading Statement := do
  let start ← here
  let operand ← g.expression { context with inOperator := true }
  match operand.tree with
  | .identifier .. =>
    if (← eatSign ":") then
      return ← Statement.ofParts start [← g.single context]
  | _ => pure ()
  semicolon
  return .expression (← spanFrom start) operand.tree

/-- Read a loop with its condition at the end, behind `do`. -/
def doRest (g : Grammar) (context : Context) (start : Nat) : Reading Statement := do
  let body ← g.single context
  word "while"
  let test ← g.condition context
  let _ ← eatSign ";"
  Statement.ofParts start [body, test]

def ifRest (g : Grammar) (context : Context) (start : Nat) : Reading Statement := do
  let test ← g.condition context
  let consequent ← g.single context
  let alternate ← if (← eatWord "else") then pure [← g.single context] else pure []
  Statement.ofParts start ([test, consequent] ++ alternate)

def throwRest (g : Grammar) (context : Context) (start : Nat) : Reading Statement := do
  require (!(← token).onNewLine)
  let argument ← g.whole context
  semicolon
  return .throw (← spanFrom start) argument

def returnRest (g : Grammar) (context : Context) (start : Nat) : Reading Statement := do
  require context.inFunction
  let result ← if (← mayEnd) then pure [] else pure [Part.expression (← g.whole context)]
  semicolon
  Statement.ofParts start result

end Grammar

end TestInventory
