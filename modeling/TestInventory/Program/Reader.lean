import TestInventory.Program.Basic
import TestInventory.Source.Lexer

/-!
# Reading a program

The state of reading and the steps shared by all of the grammar: looking at the
token at hand, moving on, looking ahead, and ending a statement without a
semicolon.  A step that fails makes the whole text unreadable unless it is part
of an attempt.
-/

namespace TestInventory

open TestInventory.Source

structure Context where
  inOperator : Bool := true
  /-- Whether `yield` is an operator here. -/
  generator : Bool := false
  /-- Whether `await` is an operator here. -/
  asynchronous : Bool := false
  inFunction : Bool := false
  deriving DecidableEq, Repr, Inhabited

structure ReadState where
  /-- Whether the text is a script and not a module. -/
  script : Bool
  /-- More than any list in the text can be long. -/
  bound : Nat
  token : Token
  start : Cursor
  after : Cursor
  lastStop : Nat := 0
  /-- Where object literals hold initialisers that only patterns may hold. -/
  pending : List Nat := []
  /-- Where no arrow function starts, although it might have. -/
  refused : List Nat := []
  exported : List String := []
  deriving Inhabited

/-- A step of reading.  The state survives a failure, so that attempts can learn from it. -/
abbrev Reading := ExceptT Unit (StateM ReadState)

namespace Reading

def fail {α : Type} : Reading α := throw ()

def require (condition : Bool) : Reading Unit := if condition then pure () else fail

def token : Reading Token := return (← get).token

def here : Reading Nat := return (← get).token.span.start

/-- The stretch from an offset up to the end of the last token that was read. -/
def spanFrom (start : Nat) : Reading Span := return ⟨start, (← get).lastStop⟩

def advance : Reading Unit :=
  modify fun s =>
    let (token, start, after) := s.after.next s.script false
    { s with token, start, after, lastStop := s.token.span.stop }

/-- Put another reading of the token at hand in its place. -/
def replace (lexeme : Lexeme) (after : Cursor) : Reading Unit :=
  modify fun s =>
    { s with
      token := ⟨lexeme, ⟨s.token.span.start, after.offset⟩, s.token.onNewLine⟩
      after }

def atSign (text : String) : Reading Bool := return (← token).isSign text

def atWord (text : String) : Reading Bool := return (← token).isWord text

def eatSign (text : String) : Reading Bool := do
  if (← atSign text) then advance; return true else return false

def eatWord (text : String) : Reading Bool := do
  if (← atWord text) then advance; return true else return false

/-- Move past this punctuator, which must be at hand. -/
def sign (text : String) : Reading Unit := do require (← eatSign text)

def word (text : String) : Reading Unit := do require (← eatWord text)

/-- Read on, then return to this place. -/
def lookAhead {α : Type} (step : Reading α) : Reading α := fun s =>
  let (result, s') := step s
  -- What has been refused stays refused, so that no head is read over and over.
  (result, { s with refused := s'.refused })

/-- Read on; return to this place if that fails. -/
def attempt {α : Type} (step : Reading α) : Reading (Option α) := fun s =>
  match step s with
  | (.ok result, s) => (.ok (some result), s)
  | (.error _, s') => (.ok none, { s with refused := s'.refused })

def following : Reading Token := lookAhead do advance; token

/-- Repeat a step until it is done; `bound` limits the repetitions. -/
def loop {σ β : Type} (step : σ → Reading (σ ⊕ β)) : (bound : Nat) → σ → Reading β
  | 0, _ => fail
  | bound + 1, s => do
    match (← step s) with
    | .inl s => loop step bound s
    | .inr result => return result

def iterate {σ β : Type} (start : σ) (step : σ → Reading (σ ⊕ β)) : Reading β := do
  loop step (← get).bound start

/-- Read items up to a closing punctuator, which is read too. -/
def manyUntil {α : Type} (close : String) (item : Reading α) : Reading (List α) :=
  iterate [] fun items => do
    if (← eatSign close) then return .inr items.reverse
    return .inl ((← item) :: items)

/--
Read items with commas between them up to a closing punctuator, which is read
too.  Also says whether a comma stands behind the last item.
-/
def separatedUntil {α : Type} (close : String) (item : Reading α) : Reading (List α × Bool) :=
  iterate ([], false) fun (items, comma) => do
    if (← eatSign close) then return .inr (items.reverse, comma)
    let next ← item
    if (← eatSign ",") then return .inl (next :: items, true)
    sign close
    return .inr ((next :: items).reverse, false)

/-- Whether a statement may end here without a semicolon. -/
def mayEnd : Reading Bool := do
  let t ← token
  return t.onNewLine || t.isSign "\x7d" || t.isSign ";" || t.isFinish

def semicolon : Reading Unit := do
  require (← mayEnd)
  let _ ← eatSign ";"

def namesVariable (context : Context) (word : String) : Bool :=
  !isReserved word && !(context.generator && word == "yield") &&
    !(context.asynchronous && word == "await")

def identifier (context : Context) : Reading String := do
  match (← token).lexeme with
  | .word text _ =>
    require (namesVariable context text)
    advance
    return text
  | _ => fail

/-- Whether a token could stand on the line of `await` or `yield` only as its operand. -/
def startsOperand (token : Token) : Bool :=
  !token.onNewLine && match token.lexeme with
    | .word text _ => text != "in" && text != "instanceof"
    | .number _ | .bigInteger | .string _ => true
    | _ => false

/-- Whether a token may stand behind a word that modifies the member it begins. -/
def mayFollowModifier (token : Token) : Bool :=
  match token.lexeme with
  | .word .. | .string _ | .number _ | .bigInteger | .privateName _ => true
  | .sign text => text == "[" || text == "\x7b" || text == "*" || text == "..."
  | _ => false

/-- Note a name that the program exports; no name is exported twice. -/
def exportName (name : String) : Reading Unit := do
  let s ← get
  require (!s.exported.contains name)
  set { s with exported := name :: s.exported }

end Reading

end TestInventory
