import TestInventory.Program.Reader

/-!
# The recursive forms of the grammar

An expression is read together with what it may become: an assignment sign
behind it turns names, members and some literals into targets.  `Grammar` holds
the readers of the forms that nest; the modules that read one form each take it
as an argument, and `Program.parse?` ties the knot.
-/

namespace TestInventory

/-- What else an expression could be, besides an expression. -/
inductive Shape where
  | plain
  | name (name : String)
  | member
  /-- A pattern; it holds initialisers at these offsets that no literal may hold. -/
  | pattern (initialisers : List Nat)
  /-- A target with a default value, inside a pattern. -/
  | initialised
  /-- The operand of a unary operator or of `await`; it may not be raised to a power. -/
  | unary
  /-- A conjunction or disjunction; it may not be an operand of `??`. -/
  | junction
  /-- A test for a private member; it may not be the operand of another. -/
  | privateTest
  /-- A dynamic import; it may not be constructed. -/
  | importCall
  deriving DecidableEq, Repr, Inhabited

structure Operand where
  tree : Expression
  shape : Shape := .plain
  deriving Inhabited

/-- A target of a declaration with the names that it binds. -/
structure Bound where
  target : Target
  names : List String := []
  deriving Inhabited

/-- Readers of the forms that nest. -/
structure Grammar where
  assignment : Context → Reading Operand
  unary : Context → Reading Operand
  /-- Operators bind tighter than this level. -/
  binary : Context → (level : Nat) → Reading Operand
  primary : Context → Reading Operand
  /-- Members and calls, without operators. -/
  leftHandSide : Context → Reading Operand
  binding : Context → Reading Bound
  /-- `single` where the grammar has room for one statement only. -/
  statement : Context → (single : Bool) → Reading Statement

namespace Grammar

def none : Grammar where
  assignment _ := Reading.fail
  unary _ := Reading.fail
  binary _ _ := Reading.fail
  primary _ := Reading.fail
  leftHandSide _ := Reading.fail
  binding _ := Reading.fail
  statement _ _ := Reading.fail

end Grammar

namespace Part

def ofExpressions (expressions : List Expression) : List Part := expressions.map .expression

end Part

namespace Target

def parts : Target → List Part
  | .name _ => []
  | .other parts => parts

end Target

namespace Operand

/-- An expression of a form that is not followed, from `start` to where reading stands. -/
def other (start : Nat) (parts : List Part) (shape : Shape := .plain) : Reading Operand :=
  return ⟨.other (← Reading.spanFrom start) parts, shape⟩

def isSimple (operand : Operand) : Bool :=
  match operand.shape with
  | .name _ | .member => true
  | _ => false

/-- The initialisers of an operand that may stand in a pattern, if it may. -/
def inPattern? (operand : Operand) : Option (List Nat) :=
  match operand.shape with
  | .name _ | .member | .initialised => some []
  | .pattern initialisers => some initialisers
  | _ => Option.none

def asRest? (operand : Operand) : Option (List Nat) :=
  if operand.shape = .initialised then Option.none else operand.inPattern?

/-- Read an operand as the target of an assignment; its initialisers are then in place. -/
def toTarget (operand : Operand) : Reading Target := do
  match operand.shape with
  | .name name => return .name name
  | .member => return .other [.expression operand.tree]
  | .pattern initialisers =>
    modify fun s => { s with pending := s.pending.filter (!initialisers.contains ·) }
    return .other [.expression operand.tree]
  | _ => Reading.fail

end Operand

namespace Grammar

open Reading

def expression (g : Grammar) (context : Context) : Reading Operand := do
  let start ← here
  let first ← g.assignment context
  if !(← atSign ",") then return first
  let items ← iterate [first.tree] fun items => do
    if (← eatSign ",") then return .inl ((← g.assignment context).tree :: items)
    return .inr items.reverse
  return ⟨.sequence (← spanFrom start) items, .plain⟩

/-- Read an expression in a place where `in` is an operator. -/
def whole (g : Grammar) (context : Context) : Reading Expression := do
  return (← g.expression { context with inOperator := true }).tree

/-- Read an assignment in a place where `in` is an operator. -/
def item (g : Grammar) (context : Context) : Reading Operand :=
  g.assignment { context with inOperator := true }

def block (g : Grammar) (context : Context) : Reading (List Statement) := do
  sign "\x7b"
  manyUntil "\x7d" (g.statement context false)

end Grammar

namespace Statement

/-- Whether a statement is a string literal by itself, as directives are. -/
def isDirective : Statement → Bool
  | .expression _ (.literal _ (.text _)) => true
  | _ => false

end Statement

end TestInventory
