import TestInventory.Program.Literal

/-!
# Expressions

From names and literals up to assignments and arrow functions.  Each reader takes
the grammar of the nested forms and reads one level of precedence.
-/

namespace TestInventory

open TestInventory.Source
open Reading

namespace Grammar

/-- Read a function expression behind `function`, or behind `async function`. -/
def functionExpression (g : Grammar) (start : Nat) (asynchronous : Bool) : Reading Operand := do
  let generator ← eatSign "*"
  if !(← atSign "(") then
    let _ ← identifier { asynchronous, generator }
  let callback ← g.functionRest asynchronous generator
  return ⟨.function (← spanFrom start) callback, .plain⟩

def arguments (g : Grammar) (context : Context) : Reading (List Element) := do
  let (elements, _) ← separatedUntil ")" do
    if (← eatSign "...") then return Element.spread (← g.item context).tree
    return .plain (← g.item context).tree
  return elements

/-- Read a dynamic import or the properties of the module behind `import`. -/
def importRest (g : Grammar) (context : Context) (start : Nat) : Reading Operand := do
  if (← eatSign ".") then
    if (← eatWord "meta") then return ← Operand.other start []
    if !(← eatWord "source") then word "defer"
    require (← atSign "(")
  sign "("
  let source ← g.item context
  let options ← if (← eatSign ",") then
      if (← atSign ")") then pure []
      else
        let options ← g.item context
        let _ ← eatSign ","
        pure [options.tree]
    else pure []
  sign ")"
  Operand.other start (Part.ofExpressions (source.tree :: options)) .importCall

def parenthesizedRest (g : Grammar) (context : Context) (start : Nat) : Reading Operand := do
  let inner ← g.expression { context with inOperator := true }
  sign ")"
  let shape : Shape := match inner.shape with
    | .name name => .name name
    | .member => .member
    | _ => .plain
  return ⟨.parenthesized (← spanFrom start) inner.tree, shape⟩

/-- How far the reading of members and calls has come. -/
structure Chain where
  operand : Operand
  optional : Bool := false
  deriving Inhabited

def namedMember (chain : Chain) (start : Nat) (optional : Bool) : Reading Chain := do
  let object := chain.operand.tree
  match (← token).lexeme with
  | .privateName _ =>
    advance
    return ⟨← Operand.other start [.expression object] .member, optional⟩
  | .word text _ =>
    advance
    return ⟨⟨.member (← spanFrom start) object text, .member⟩, optional⟩
  | _ => fail

def computedMember (g : Grammar) (context : Context) (chain : Chain) (start : Nat)
    (optional : Bool) : Reading Chain := do
  let key ← g.whole context
  sign "]"
  let parts := Part.ofExpressions [chain.operand.tree, key]
  return ⟨← Operand.other start parts .member, optional⟩

def callRest (g : Grammar) (context : Context) (chain : Chain) (start : Nat)
    (optional : Bool) : Reading Chain := do
  let elements ← g.arguments context
  return ⟨⟨.call (← spanFrom start) chain.operand.tree elements, .plain⟩, optional⟩

/-- Read what follows `?.`. -/
def optionalLink (g : Grammar) (context : Context) (calls : Bool) (chain : Chain)
    (start : Nat) : Reading Chain := do
  if (← eatSign "[") then g.computedMember context chain start true
  else if calls && (← eatSign "(") then g.callRest context chain start true
  else namedMember chain start true

/-- Read members, and calls where they are wanted, behind an operand. -/
def links (g : Grammar) (context : Context) (calls : Bool) (start : Nat) (operand : Operand) :
    Reading Chain :=
  iterate ({ operand } : Chain) fun chain => do
    match (← token).lexeme with
    | .sign "." => advance; return .inl (← namedMember chain start chain.optional)
    | .sign "?." => advance; return .inl (← g.optionalLink context calls chain start)
    | .sign "[" => advance; return .inl (← g.computedMember context chain start chain.optional)
    | .sign "(" =>
      if calls then advance; return .inl (← g.callRest context chain start chain.optional)
      else return .inr chain
    | .template .. =>
      require (!chain.optional)
      let (_, holes) ← g.template context
      let parts := Part.ofExpressions (chain.operand.tree :: holes)
      return .inl { chain with operand := ← Operand.other start parts }
    | _ => return .inr chain

/-- Read the construction of an object behind `new`, or the target of one. -/
def constructRest (g : Grammar) (context : Context) (start : Nat) : Reading Operand := do
  if (← eatSign ".") then
    word "target"
    return ← Operand.other start []
  let calleeStart ← here
  let callee ← g.primary context
  let chain ← g.links context false calleeStart callee
  require (!chain.optional && chain.operand.shape != .importCall)
  let elements ← if (← eatSign "(") then g.arguments context else pure []
  return ⟨.construct (← spanFrom start) chain.operand.tree elements, .plain⟩

def classExpression (g : Grammar) (context : Context) (start : Nat) (before : List Part) :
    Reading Operand := do
  word "class"
  let (_, parts) ← g.classRest context
  Operand.other start (before ++ parts)

def variableName (context : Context) : Reading Operand := do
  let start ← here
  let name ← identifier context
  return ⟨.identifier (← spanFrom start) name, .name name⟩

def wordExpression (g : Grammar) (context : Context) (text : String) : Reading Operand := do
  let start ← here
  match text with
  | "this" => advance; return ⟨.this (← spanFrom start), .plain⟩
  | "true" => advance; return ⟨.literal (← spanFrom start) (.boolean true), .plain⟩
  | "false" => advance; return ⟨.literal (← spanFrom start) (.boolean false), .plain⟩
  | "null" => advance; Operand.other start []
  | "function" => advance; g.functionExpression start false
  | "class" => g.classExpression context start []
  | "new" => advance; g.constructRest context start
  | "import" => advance; g.importRest context start
  | "super" =>
    advance
    let next ← token
    require (next.isSign "." || next.isSign "[" || next.isSign "(")
    Operand.other start []
  | "async" =>
    let next ← following
    if next.isWord "function" && !next.onNewLine then
      advance; advance; g.functionExpression start true
    else variableName context
  | _ => variableName context

/-- Read an expression without operators, members or calls. -/
def primaryExpression (g : Grammar) (context : Context) : Reading Operand := do
  let start ← here
  match (← token).lexeme with
  | .word text false => g.wordExpression context text
  | .word _ true => variableName context
  | .string value => advance; return ⟨.literal (← spanFrom start) (.text value), .plain⟩
  | .number value => advance; return ⟨.literal (← spanFrom start) (.number value), .plain⟩
  | .bigInteger => advance; Operand.other start []
  | .template .. => g.templateLiteral context
  | .sign "(" => advance; g.parenthesizedRest context start
  | .sign "[" => advance; g.arrayRest context start
  | .sign "\x7b" => advance; g.objectRest context start
  | .sign "/" | .sign "/=" => pattern
  | .sign "@" => g.classExpression context start (← g.decorators context)
  | _ => fail

def leftHandSideExpression (g : Grammar) (context : Context) : Reading Operand := do
  let start ← here
  let first ← g.primaryExpression context
  let chain ← g.links context true start first
  if chain.optional then Operand.other start [.expression chain.operand.tree]
  else return chain.operand

def isUnaryOperator (token : Token) : Bool :=
  match token.lexeme with
  | .sign text => ["+", "-", "~", "!"].contains text
  | .word text false => ["delete", "void", "typeof"].contains text
  | _ => false

/-- Whether the token adds or subtracts one. -/
def isUpdate (token : Token) : Bool := token.isSign "++" || token.isSign "--"

/-- Whether `await` stands here as an operator. -/
def atAwait (context : Context) : Reading Bool := do
  if !(← atWord "await") then return false
  if context.asynchronous then return true
  require (!startsOperand (← following))
  return false

def unaryExpression (g : Grammar) (context : Context) : Reading Operand := do
  let start ← here
  let t ← token
  if isUpdate t then
    advance
    let operand ← g.unary context
    require operand.isSimple
    Operand.other start [.expression operand.tree]
  else if isUnaryOperator t then
    advance
    let operand ← g.unary context
    if t.isSign "-" then return ⟨.negative (← spanFrom start) operand.tree, .unary⟩
    else Operand.other start [.expression operand.tree] .unary
  else if (← atAwait context) then
    advance
    let operand ← g.unary context
    return ⟨.await (← spanFrom start) operand.tree, .unary⟩
  else
    let operand ← g.leftHandSideExpression context
    let next ← token
    if isUpdate next && !next.onNewLine then
      require operand.isSimple
      advance
      Operand.other start [.expression operand.tree]
    else return operand

/-- How tight the binary operator at a token binds, if there is one. -/
def operatorLevel? (context : Context) (token : Token) : Option Nat :=
  match token.lexeme with
  | .sign text =>
    [("??", 1), ("||", 2), ("&&", 3), ("|", 4), ("^", 5), ("&", 6), ("==", 7), ("!=", 7),
      ("===", 7), ("!==", 7), ("<", 8), (">", 8), ("<=", 8), (">=", 8), ("<<", 9), (">>", 9),
      (">>>", 9), ("+", 10), ("-", 10), ("*", 11), ("/", 11), ("%", 11), ("**", 12)].lookup text
  | .word "instanceof" false => some 8
  | .word "in" false => if context.inOperator then some 8 else Option.none
  | _ => Option.none

def privateTest (g : Grammar) (context : Context) : Reading Operand := do
  let start ← here
  advance
  word "in"
  let object ← g.binary context 8
  require (object.shape != .privateTest)
  Operand.other start [.expression object.tree] .privateTest

def joinOperands (start : Nat) (operator : Token) (left right : Operand) : Reading Operand := do
  require (!(operator.isSign "**" && left.shape = .unary))
  require (!(operator.isSign "??" && (left.shape = .junction || right.shape = .junction)))
  if operator.isSign "+" then
    return ⟨.sum (← spanFrom start) left.tree right.tree, .plain⟩
  let shape : Shape := if operator.isSign "&&" || operator.isSign "||" then .junction else .plain
  Operand.other start (Part.ofExpressions [left.tree, right.tree]) shape

/-- Read an expression whose operators all bind tighter than a level. -/
def binaryExpression (g : Grammar) (context : Context) (level : Nat) : Reading Operand := do
  let start ← here
  let first ← match (← token).lexeme with
    | .privateName _ => if context.inOperator then g.privateTest context else fail
    | _ => g.unaryExpression context
  iterate first fun left => do
    let operator ← token
    match operatorLevel? context operator with
    | Option.none => return .inr left
    | some tight =>
      if level < tight || (tight = 12 && level = 12) then
        advance
        let right ← g.binary context tight
        return .inl (← joinOperands start operator left right)
      else return .inr left

/-- Read the branches of a condition, if its question mark is at hand. -/
def conditionalRest (g : Grammar) (context : Context) (start : Nat) (test : Operand) :
    Reading Operand := do
  if !(← eatSign "?") then return test
  let consequent ← g.item context
  sign ":"
  let alternate ← g.assignment context
  Operand.other start (Part.ofExpressions [test.tree, consequent.tree, alternate.tree])

def atYield (context : Context) : Reading Bool := do
  if !(← atWord "yield") then return false
  if context.generator then return true
  require (!startsOperand (← following))
  return false

def yieldExpression (g : Grammar) (context : Context) : Reading Operand := do
  let start ← here
  advance
  let next ← token
  if next.onNewLine then return ← Operand.other start []
  let delegates ← eatSign "*"
  let stops := next.isFinish || next.isWord "in" ||
    ["\x7d", ")", "]", ":", ",", ";"].any next.isSign
  if stops && !delegates then return ← Operand.other start []
  let operand ← g.assignment context
  Operand.other start [.expression operand.tree]

inductive ArrowHint where
  | never
  | perhaps

/-- Whether parameters of an arrow function may stand here, judged by the next two tokens. -/
def arrowHint : Reading ArrowHint := lookAhead do
  if !(← eatSign "(") then return .never
  let first ← token
  match first.lexeme with
  | .sign ")" | .sign "[" | .sign "\x7b" | .sign "..." => return .perhaps
  | .word text _ =>
    if isReserved text then return .never
    advance
    let second ← token
    if second.isSign "," || second.isSign "=" || second.isSign ")" then return .perhaps
    else return .never
  | _ => return .never

/-- Read the head of an arrow function here, if there is one; a refusal is remembered. -/
def arrowHead? (g : Grammar) (context : Context) : Reading (Option (List Target)) := do
  let start ← here
  if (← get).refused.contains start then return Option.none
  match (← arrowHint) with
  | .never => return Option.none
  | .perhaps =>
    match (← attempt (g.arrowHead context)) with
    | some targets => return some targets
    | Option.none =>
      modify fun s => { s with refused := start :: s.refused }
      return Option.none

def parenthesizedArrow? (g : Grammar) (context : Context) : Reading (Option Operand) := do
  let start ← here
  let isAsync ← do
    if !(← atWord "async") then pure false
    else
      let next ← following
      pure (next.isSign "(" && !next.onNewLine)
  let s ← get
  if isAsync then advance
  match (← g.arrowHead? (if isAsync then { context with asynchronous := true } else context)) with
  | some targets =>
    let callback ← g.arrowBody context isAsync targets
    return some ⟨.function (← spanFrom start) callback, .plain⟩
  | Option.none =>
    modify fun t => { s with refused := t.refused }
    return Option.none

/-- Whether `async name =>` stands here, all on one line. -/
def atAsyncArrow : Reading Bool := lookAhead do
  if !(← eatWord "async") then return false
  let name ← token
  match name.lexeme with
  | .word text _ =>
    if name.onNewLine || isReserved text then return false
    advance
    let arrow ← token
    return arrow.isSign "=>" && !arrow.onNewLine
  | _ => return false

def asyncArrow (g : Grammar) (context : Context) : Reading Operand := do
  let start ← here
  advance
  let name ← identifier { context with asynchronous := true }
  sign "=>"
  let callback ← g.arrowBody context true [.name name]
  return ⟨.function (← spanFrom start) callback, .plain⟩

def compoundAssignments : List String :=
  ["+=", "-=", "*=", "/=", "%=", "**=", "<<=", ">>=", ">>>=", "&=", "|=", "^=", "&&=", "||=",
    "??="]

/-- Read what may follow the operators: an arrow, an assignment or a condition. -/
def assignmentRest (g : Grammar) (context : Context) (start : Nat) (left : Operand) :
    Reading Operand := do
  let operator ← token
  match left.tree, operator.lexeme with
  | .identifier _ name, .sign "=>" =>
    require (!operator.onNewLine)
    advance
    let callback ← g.arrowBody context false [.name name]
    return ⟨.function (← spanFrom start) callback, .plain⟩
  | _, .sign "=" =>
    let target ← left.toTarget
    advance
    let value ← g.assignment context
    return ⟨.assign (← spanFrom start) target value.tree, .initialised⟩
  | _, .sign text =>
    if compoundAssignments.contains text then
      require left.isSimple
      advance
      let value ← g.assignment context
      Operand.other start (Part.ofExpressions [left.tree, value.tree])
    else g.conditionalRest context start left
  | _, _ => return left

/-- Read an assignment expression: everything but a sequence. -/
def assignmentExpression (g : Grammar) (context : Context) : Reading Operand := do
  if (← atYield context) then return ← g.yieldExpression context
  match (← g.parenthesizedArrow? context) with
  | some arrow => return arrow
  | Option.none =>
    if (← atAsyncArrow) then return ← g.asyncArrow context
    let start ← here
    let left ← g.binaryExpression context 0
    g.assignmentRest context start left

end Grammar

end TestInventory
