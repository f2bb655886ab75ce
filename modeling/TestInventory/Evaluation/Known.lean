import TestInventory.Decimal.Text
import TestInventory.Evaluation.Scope

/-!
# What is known without running code

Names of declarations, arrays to loop over and callbacks are read off the text
and the names bound so far.  `Expression.value?` gives texts, numbers and truth
values, `Expression.closure?` gives callbacks, and `Expression.binding` gives
whatever a name may be bound to.
-/

namespace TestInventory

namespace Value

def toText : Value → String
  | .text content => content
  | .number content => Decimal.text content
  | .boolean true => "true"
  | .boolean false => "false"

/-- The sum of two numbers, or else two texts behind one another. -/
def add : Value → Value → Value
  | .number left, .number right => .number (left + right)
  | left, right => .text (left.toText ++ right.toText)

def negate? : Value → Option Value
  | .number content => some (.number (-content))
  | _ => none

end Value

def Binding.value? : Binding → Option Value
  | .value content => some content
  | _ => none

def Binding.closure? : Binding → Option Closure
  | .callback closure => some closure
  | _ => none

def Binding.items? : Binding → Option (List Binding)
  | .list items => some items
  | _ => none

/-- Pieces of text with values between them, as one text. -/
def interleave : List String → List String → String
  | [], _ => ""
  | [piece], _ => piece
  | piece :: pieces, [] => piece ++ interleave pieces []
  | piece :: pieces, value :: values => piece ++ value ++ interleave pieces values

mutual

/-- The value of an expression, as far as it is known. -/
def Expression.value? (scopes : Scopes) (scope : Nat) : Expression → Option Value
  | .literal _ value => some value
  | .template _ pieces holes =>
    (valueTexts? scopes scope holes).map fun values => .text (interleave pieces values)
  | .sum _ left right => do
    let left ← left.value? scopes scope
    let right ← right.value? scopes scope
    return left.add right
  | .negative _ operand => (operand.value? scopes scope).bind Value.negate?
  | .parenthesized _ inner => inner.value? scopes scope
  | .identifier _ name => (scopes.lookup scope name).bind Binding.value?
  | _ => none

/-- The values of several expressions as texts, if all are known. -/
def valueTexts? (scopes : Scopes) (scope : Nat) : List Expression → Option (List String)
  | [] => some []
  | first :: rest => do
    let value ← first.value? scopes scope
    let values ← valueTexts? scopes scope rest
    return value.toText :: values

end

/-- The callback that an expression stands for, created in the current scope or bound before. -/
def Expression.closure? (scopes : Scopes) (scope : Nat) : Expression → Option Closure
  | .function _ callback => some ⟨callback, scope⟩
  | .parenthesized _ inner => inner.closure? scopes scope
  | .identifier _ name => (scopes.lookup scope name).bind Binding.closure?
  | _ => none

mutual

/-- What a name holds after it was given an expression. -/
def Expression.binding (scopes : Scopes) (scope : Nat) : Expression → Binding
  | .function _ callback => .callback ⟨callback, scope⟩
  | .array _ elements => .list (elementBindings scopes scope elements)
  | .parenthesized _ inner => inner.binding scopes scope
  | .identifier _ name => (scopes.lookup scope name).getD .unknown
  | expression => ((expression.value? scopes scope).map .value).getD .unknown

def elementBindings (scopes : Scopes) (scope : Nat) : List Element → List Binding
  | [] => []
  | first :: rest => first.binding scopes scope :: elementBindings scopes scope rest

/-- What an element holds; spread and left out elements are not known. -/
def Element.binding (scopes : Scopes) (scope : Nat) : Element → Binding
  | .plain expression => expression.binding scopes scope
  | .spread _ => .unknown
  | .hole => .unknown

end

namespace Element

def closureAt? (scopes : Scopes) (scope : Nat) (elements : List Element) (index : Nat) :
    Option Closure :=
  (elements[index]?).bind fun element => element.plain?.bind (·.closure? scopes scope)

end Element

end TestInventory
