import TestInventory.Interface
import TestInventory.Program.Basic

/-!
# Declarations in a stretch of code

A call declares something when its callee is a word of the interface, or a
member of one that is a modifier.  `declares` looks for such a call anywhere in
a form: in nested functions, in arguments, in default values.  It decides
whether code that is not followed leaves declarations out.
-/

namespace TestInventory

namespace Interface

def entryOf? (interface : Interface) : Expression → Option Entry
  | .identifier _ name => interface.classify name none
  | .member _ (.identifier _ name) property => interface.classify name (some property)
  | _ => none

end Interface

mutual

/-- Whether a declaring call occurs in an expression. -/
def Expression.declares (interface : Interface) : Expression → Bool
  | .identifier .. => false
  | .this _ => false
  | .literal .. => false
  | .template _ _ holes => expressionsDeclare interface holes
  | .array _ elements => elementsDeclare interface elements
  | .function _ callback => callback.declares interface
  | .call _ callee arguments =>
    (interface.entryOf? callee).isSome || callee.declares interface ||
      elementsDeclare interface arguments
  | .construct _ callee arguments =>
    callee.declares interface || elementsDeclare interface arguments
  | .member _ object _ => object.declares interface
  | .await _ operand => operand.declares interface
  | .parenthesized _ inner => inner.declares interface
  | .sequence _ items => expressionsDeclare interface items
  | .assign _ target value => target.declares interface || value.declares interface
  | .sum _ left right => left.declares interface || right.declares interface
  | .negative _ operand => operand.declares interface
  | .other _ parts => partsDeclare interface parts

def expressionsDeclare (interface : Interface) : List Expression → Bool
  | [] => false
  | first :: rest => first.declares interface || expressionsDeclare interface rest

def Element.declares (interface : Interface) : Element → Bool
  | .plain expression => expression.declares interface
  | .spread expression => expression.declares interface
  | .hole => false

def elementsDeclare (interface : Interface) : List Element → Bool
  | [] => false
  | first :: rest => first.declares interface || elementsDeclare interface rest

def Target.declares (interface : Interface) : Target → Bool
  | .name _ => false
  | .other parts => partsDeclare interface parts

def targetsDeclare (interface : Interface) : List Target → Bool
  | [] => false
  | first :: rest => first.declares interface || targetsDeclare interface rest

def Part.declares (interface : Interface) : Part → Bool
  | .expression expression => expression.declares interface
  | .statement statement => statement.declares interface

def partsDeclare (interface : Interface) : List Part → Bool
  | [] => false
  | first :: rest => first.declares interface || partsDeclare interface rest

def Callback.declares (interface : Interface) : Callback → Bool
  | .block parameters body =>
    targetsDeclare interface parameters || statementsDeclare interface body
  | .arrow parameters body => targetsDeclare interface parameters || body.declares interface

def Declarator.declares (interface : Interface) : Declarator → Bool
  | .mk target none => target.declares interface
  | .mk target (some value) => target.declares interface || value.declares interface

def declaratorsDeclare (interface : Interface) : List Declarator → Bool
  | [] => false
  | first :: rest => first.declares interface || declaratorsDeclare interface rest

def Statement.declares (interface : Interface) : Statement → Bool
  | .expression _ expression => expression.declares interface
  | .block _ body => statementsDeclare interface body
  | .declaration _ _ declarators => declaratorsDeclare interface declarators
  | .function _ _ callback => callback.declares interface
  | .exported _ declaration => declaration.declares interface
  | .empty _ => false
  | .forOf _ binder iterated body =>
    binder.declares interface || iterated.declares interface || body.declares interface
  | .throw _ argument => argument.declares interface
  | .other _ parts => partsDeclare interface parts

def statementsDeclare (interface : Interface) : List Statement → Bool
  | [] => false
  | first :: rest => first.declares interface || statementsDeclare interface rest

def Binder.declares (interface : Interface) : Binder → Bool
  | .declaration _ declarators => declaratorsDeclare interface declarators
  | .target target => target.declares interface

end

end TestInventory
