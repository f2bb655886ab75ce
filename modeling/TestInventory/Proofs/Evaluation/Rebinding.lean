import TestInventory.Program.Basic
import TestInventory.Proofs.Listwise

/-!
# Text that rebinds names

Only three forms bind a name outside the current scope: an assignment to a name, a
loop that assigns its items to a name, and a hoisted variable.  `rebinds` looks for
them anywhere in a form, as a search of the text would.
-/

namespace TestInventory

/-- Whether a target is a name and no pattern. -/
def Target.isName : Target → Bool
  | .name _ => true
  | .other _ => false

mutual

/-- Whether a name may be rebound by an expression or by a function in it. -/
def Expression.rebinds : Expression → Bool
  | .identifier .. => false
  | .this _ => false
  | .literal .. => false
  | .template _ _ holes => expressionsRebind holes
  | .array _ elements => elementsRebind elements
  | .function _ callback => callback.rebinds
  | .call _ callee arguments => callee.rebinds || elementsRebind arguments
  | .construct _ callee arguments => callee.rebinds || elementsRebind arguments
  | .member _ object _ => object.rebinds
  | .await _ operand => operand.rebinds
  | .parenthesized _ inner => inner.rebinds
  | .sequence _ items => expressionsRebind items
  | .assign _ target value => target.isName || target.rebinds || value.rebinds
  | .sum _ left right => left.rebinds || right.rebinds
  | .negative _ operand => operand.rebinds
  | .other _ parts => partsRebind parts

def expressionsRebind : List Expression → Bool
  | [] => false
  | first :: rest => first.rebinds || expressionsRebind rest

def Element.rebinds : Element → Bool
  | .plain expression => expression.rebinds
  | .spread expression => expression.rebinds
  | .hole => false

def elementsRebind : List Element → Bool
  | [] => false
  | first :: rest => first.rebinds || elementsRebind rest

def Target.rebinds : Target → Bool
  | .name _ => false
  | .other parts => partsRebind parts

def targetsRebind : List Target → Bool
  | [] => false
  | first :: rest => first.rebinds || targetsRebind rest

def Part.rebinds : Part → Bool
  | .expression expression => expression.rebinds
  | .statement statement => statement.rebinds

def partsRebind : List Part → Bool
  | [] => false
  | first :: rest => first.rebinds || partsRebind rest

def Callback.rebinds : Callback → Bool
  | .block parameters body => targetsRebind parameters || statementsRebind body
  | .arrow parameters body => targetsRebind parameters || body.rebinds

def Declarator.rebinds : Declarator → Bool
  | .mk target none => target.rebinds
  | .mk target (some value) => target.rebinds || value.rebinds

def declaratorsRebind : List Declarator → Bool
  | [] => false
  | first :: rest => first.rebinds || declaratorsRebind rest

def Statement.rebinds : Statement → Bool
  | .expression _ expression => expression.rebinds
  | .block _ body => statementsRebind body
  | .declaration _ hoisted declarators => hoisted || declaratorsRebind declarators
  | .function _ _ callback => callback.rebinds
  | .exported _ declaration => declaration.rebinds
  | .empty _ => false
  | .forOf _ binder iterated body => binder.rebinds || iterated.rebinds || body.rebinds
  | .throw _ argument => argument.rebinds
  | .other _ parts => partsRebind parts

def statementsRebind : List Statement → Bool
  | [] => false
  | first :: rest => first.rebinds || statementsRebind rest

def Binder.rebinds : Binder → Bool
  | .declaration hoisted declarators => hoisted || declaratorsRebind declarators
  | .target target => target.isName || target.rebinds

end

/-- Whether text that is held to it rebinds no name. -/
def Tame (strict rebinds : Bool) : Prop := strict = true → rebinds = false

namespace Tame

variable {strict : Bool}

theorem or_iff {first second : Bool} :
    Tame strict (first || second) ↔ Tame strict first ∧ Tame strict second := by
  cases strict <;> cases first <;> cases second <;> simp [Tame]

theorem any_iff {α : Type} {items : List α} {rebinds : α → Bool} :
    Tame strict (items.any rebinds) ↔ ∀ item ∈ items, Tame strict (rebinds item) := by
  induction items with
  | nil => simp [Tame]
  | cons first rest ih => rw [List.any_cons, or_iff, ih, List.forall_mem_cons]

end Tame

/-- Whether a name may be rebound anywhere in a program. -/
def Program.rebinds (program : Program) : Bool := statementsRebind program.statements

theorem expressionsRebind_eq_any (expressions : List Expression) :
    expressionsRebind expressions = expressions.any Expression.rebinds :=
  eq_any_of_cons rfl (fun _ _ => rfl) expressions

theorem elementsRebind_eq_any (elements : List Element) :
    elementsRebind elements = elements.any Element.rebinds :=
  eq_any_of_cons rfl (fun _ _ => rfl) elements

theorem declaratorsRebind_eq_any (declarators : List Declarator) :
    declaratorsRebind declarators = declarators.any Declarator.rebinds :=
  eq_any_of_cons rfl (fun _ _ => rfl) declarators

theorem statementsRebind_eq_any (statements : List Statement) :
    statementsRebind statements = statements.any Statement.rebinds :=
  eq_any_of_cons rfl (fun _ _ => rfl) statements

end TestInventory
