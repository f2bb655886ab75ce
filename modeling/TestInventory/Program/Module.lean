import TestInventory.Program.Statement

/-!
# Imports and exports

What links a module to others.  No name may be exported twice.  A name that is
exported without a module to take it from must be that of a variable.
-/

namespace TestInventory

open TestInventory.Source
open Reading

inductive BindingName where
  | word (content : String)
  | quoted (content : String)
  deriving DecidableEq, Repr, Inhabited

namespace BindingName

def content : BindingName → String
  | .word name => name
  | .quoted name => name

/-- Whether the name may be that of a variable of a module. -/
def isLocal : BindingName → Bool
  | .word name =>
    !isReserved name && !strictWords.contains name && name != "yield" && name != "await"
  | .quoted _ => false

end BindingName

namespace Grammar

def bindingName : Reading BindingName := do
  match (← token).lexeme with
  | .word text _ => advance; return .word text
  | .string text => advance; return .quoted text
  | _ => fail

def renamed : Reading (BindingName × BindingName) := do
  let name ← bindingName
  if (← eatWord "as") then return (name, ← bindingName)
  return (name, name)

def moduleName : Reading Unit := do
  match (← token).lexeme with
  | .string _ => advance
  | _ => fail

def moduleAttributes : Reading Unit := do
  let t ← token
  if t.isWord "with" || (t.isWord "assert" && !t.onNewLine) then
    advance
    sign "\x7b"
    let _ ← separatedUntil "\x7d" do
      let _ ← bindingName
      sign ":"
      moduleName

/-- Read `from` and the module behind it, up to the end of the statement. -/
def source : Reading Unit := do
  word "from"
  moduleName
  moduleAttributes
  semicolon

def importedBinding (context : Context) : Reading Unit := do
  let (_, given) ← renamed
  match given with
  | .word text => require (namesVariable context text)
  | .quoted _ => fail

/-- Read the bindings of an import other than its default. -/
def importedBindings (context : Context) : Reading Unit := do
  if (← eatSign "*") then
    word "as"
    let _ ← identifier context
  else
    sign "\x7b"
    let _ ← separatedUntil "\x7d" (importedBinding context)

/-- Whether `source` or `defer` stands here as the phase of an import. -/
def atPhase : Reading Bool := lookAhead do
  if (← eatWord "defer") then return ← atSign "*"
  if !(← eatWord "source") then return false
  match (← token).lexeme with
  | .word text _ =>
    if text != "from" then return true
    advance
    atWord "from"
  | _ => return false

def importDeclaration (context : Context) (start : Nat) : Reading Statement := do
  match (← token).lexeme with
  | .string _ =>
    moduleName
    moduleAttributes
    semicolon
  | _ =>
    if (← atPhase) then advance
    match (← token).lexeme with
    | .word .. =>
      let _ ← identifier context
      if (← eatSign ",") then importedBindings context
    | _ => importedBindings context
    source
  Statement.ofParts start []

def exporting (start : Nat) (declared : Statement × List String) : Reading Statement := do
  declared.2.forM exportName
  return .exported (← spanFrom start) declared.1

def exportDefault (g : Grammar) (context : Context) (start : Nat) (before : List Part) :
    Reading Statement := do
  exportName "default"
  let here' ← here
  let t ← token
  let next ← following
  let isAsync := t.isWord "async" && next.isWord "function" && !next.onNewLine
  if t.isWord "function" || isAsync then
    if isAsync then advance
    advance
    let (statement, _) ← g.functionDeclaration context here' isAsync false true
    Statement.ofParts start [.statement statement]
  else if t.isWord "class" || t.isSign "@" then
    let before := before ++ (← g.decorators context)
    let (statement, _) ← g.classDeclaration context here' before true
    Statement.ofParts start [.statement statement]
  else
    let value ← g.item context
    semicolon
    Statement.ofParts start [.expression value.tree]

/-- Read an export of everything behind its star. -/
def exportAll (start : Nat) : Reading Statement := do
  if (← eatWord "as") then exportName (← bindingName).content
  source
  Statement.ofParts start []

def exportBindings (start : Nat) : Reading Statement := do
  let (bindings, _) ← separatedUntil "\x7d" renamed
  if (← atWord "from") then source
  else
    require (bindings.all (·.1.isLocal))
    semicolon
  bindings.forM fun binding => exportName binding.2.content
  Statement.ofParts start []

def exportDeclaration (g : Grammar) (context : Context) (start : Nat) (before : List Part) :
    Reading Statement := do
  if (← eatWord "default") then return ← g.exportDefault context start before
  if (← eatSign "*") then return ← exportAll start
  if (← eatSign "\x7b") then return ← exportBindings start
  let inner ← here
  let t ← token
  let next ← following
  if t.isWord "async" && next.isWord "function" && !next.onNewLine then
    advance
    advance
    exporting start (← g.functionDeclaration context inner true false false)
  else if (← eatWord "function") then
    exporting start (← g.functionDeclaration context inner false false false)
  else if t.isWord "class" || t.isSign "@" then
    let before := before ++ (← g.decorators context)
    exporting start (← g.classDeclaration context inner before false)
  else match (← declarationKind? context false false) with
    | some kind =>
      declarationKeywords
      exporting start (← g.variableStatement context kind inner false)
    | Option.none => fail

end Grammar

end TestInventory
