import Mathlib.Logic.Basic
import TestInventory.Proofs.Evaluation.Job
import TestInventory.Proofs.Evaluation.Mapping
import TestInventory.Proofs.Interface.Occurrence

/-!
# Moving functions to the front

The functions that a list of statements declares may be moved to its front, wherever
the list stands: in the file, in a block or in the body of a function.  What is read
off an expression, and whether a form declares something, stays the same, and the
functions that a list binds first are the same ones in the same order.
-/

namespace TestInventory

open TestInventory.Source (Span)

/-! ## Rearranged programs -/

/-- Whether a statement is a function that is bound before the statements around it run. -/
def Statement.isFunction (statement : Statement) : Bool := statement.hoisted?.isSome

/-- Statements with the functions among them in front, each kind in its order. -/
def functionsFirst (statements : List Statement) : List Statement :=
  statements.filter Statement.isFunction ++
    statements.filter fun statement => !statement.isFunction

/--
Of which lists of statements the functions are moved to the front, and in which order
the parts of code that is not followed are put.
-/
structure Rearrangement where
  chosen : List Statement → Bool
  order : List Part → List Part
  perm : ∀ parts, (order parts).Perm parts

/-- All functions are moved to the front of their lists. -/
def Rearrangement.everywhere : Rearrangement where
  chosen _ := true
  order parts := parts
  perm parts := .refl parts

/-- Move the functions among rearranged statements if those of the list are moved. -/
def Rearrangement.move (change : Rearrangement) (statements rearranged : List Statement) :
    List Statement :=
  if change.chosen statements then functionsFirst rearranged else rearranged

section Definitions

variable (change : Rearrangement)

mutual

/-- An expression with its lists of statements rearranged. -/
def Expression.rearrange : Expression → Expression
  | .identifier span name => .identifier span name
  | .this span => .this span
  | .literal span value => .literal span value
  | .template span pieces holes => .template span pieces (expressionsRearrange holes)
  | .array span elements => .array span (elementsRearrange elements)
  | .function span callback => .function span callback.rearrange
  | .call span callee arguments => .call span callee.rearrange (elementsRearrange arguments)
  | .construct span callee arguments =>
    .construct span callee.rearrange (elementsRearrange arguments)
  | .member span object property => .member span object.rearrange property
  | .await span operand => .await span operand.rearrange
  | .parenthesized span inner => .parenthesized span inner.rearrange
  | .sequence span items => .sequence span (expressionsRearrange items)
  | .assign span target value => .assign span target.rearrange value.rearrange
  | .sum span left right => .sum span left.rearrange right.rearrange
  | .negative span operand => .negative span operand.rearrange
  | .other span parts => .other span (change.order (partsRearrange parts))

/-- Several expressions, rearranged. -/
def expressionsRearrange : List Expression → List Expression
  | [] => []
  | first :: rest => first.rearrange :: expressionsRearrange rest

/-- An element or argument, rearranged. -/
def Element.rearrange : Element → Element
  | .plain expression => .plain expression.rearrange
  | .spread expression => .spread expression.rearrange
  | .hole => .hole

/-- Several elements or arguments, rearranged. -/
def elementsRearrange : List Element → List Element
  | [] => []
  | first :: rest => first.rearrange :: elementsRearrange rest

/-- A target, rearranged. -/
def Target.rearrange : Target → Target
  | .name name => .name name
  | .other parts => .other (change.order (partsRearrange parts))

/-- Several targets, rearranged. -/
def targetsRearrange : List Target → List Target
  | [] => []
  | first :: rest => first.rearrange :: targetsRearrange rest

/-- A part, rearranged. -/
def Part.rearrange : Part → Part
  | .expression expression => .expression expression.rearrange
  | .statement statement => .statement statement.rearrange

/-- Several parts, each rearranged in its place. -/
def partsRearrange : List Part → List Part
  | [] => []
  | first :: rest => first.rearrange :: partsRearrange rest

/-- A function, rearranged. -/
def Callback.rearrange : Callback → Callback
  | .block parameters body =>
    .block (targetsRearrange parameters) (change.move body (statementsRearrange body))
  | .arrow parameters body => .arrow (targetsRearrange parameters) body.rearrange

/-- A variable with its first value, rearranged. -/
def Declarator.rearrange : Declarator → Declarator
  | .mk target none => .mk target.rearrange none
  | .mk target (some value) => .mk target.rearrange (some value.rearrange)

/-- Several variables, rearranged. -/
def declaratorsRearrange : List Declarator → List Declarator
  | [] => []
  | first :: rest => first.rearrange :: declaratorsRearrange rest

/-- A statement, rearranged. -/
def Statement.rearrange : Statement → Statement
  | .expression span expression => .expression span expression.rearrange
  | .block span body => .block span (change.move body (statementsRearrange body))
  | .declaration span hoisted declarators =>
    .declaration span hoisted (declaratorsRearrange declarators)
  | .function span name callback => .function span name callback.rearrange
  | .exported span declaration => .exported span declaration.rearrange
  | .empty span => .empty span
  | .forOf span binder iterated body =>
    .forOf span binder.rearrange iterated.rearrange body.rearrange
  | .throw span argument => .throw span argument.rearrange
  | .other span parts => .other span (change.order (partsRearrange parts))

/-- Several statements, each rearranged in its place. -/
def statementsRearrange : List Statement → List Statement
  | [] => []
  | first :: rest => first.rearrange :: statementsRearrange rest

/-- What a loop binds, rearranged. -/
def Binder.rearrange : Binder → Binder
  | .declaration hoisted declarators => .declaration hoisted (declaratorsRearrange declarators)
  | .target target => .target target.rearrange

end

/-- A program with its lists of statements rearranged. -/
def Program.rearrange (program : Program) : Program :=
  ⟨change.move program.statements (statementsRearrange change program.statements)⟩

/-- A closure with a rearranged function. -/
def Closure.rearrange (closure : Closure) : Closure :=
  ⟨closure.callback.rearrange change, closure.scope⟩

mutual

/-- A binding with rearranged closures. -/
def Binding.rearrange : Binding → Binding
  | .value value => .value value
  | .list items => .list (bindingsRearrange items)
  | .callback closure => .callback (closure.rearrange change)
  | .unknown => .unknown

/-- Several bindings with rearranged closures. -/
def bindingsRearrange : List Binding → List Binding
  | [] => []
  | first :: rest => first.rearrange :: bindingsRearrange rest

end

/-- An arena with rearranged closures. -/
def Scopes.rearrange (scopes : Scopes) : Scopes := scopes.mapBound (Binding.rearrange change)

end Definitions

variable {change : Rearrangement}

theorem bindingsRearrange_eq_map (items : List Binding) :
    bindingsRearrange change items = items.map (Binding.rearrange change) :=
  eq_map_of_cons rfl (fun _ _ => rfl) items

theorem expressionsRearrange_eq_map (expressions : List Expression) :
    expressionsRearrange change expressions = expressions.map (Expression.rearrange change) :=
  eq_map_of_cons rfl (fun _ _ => rfl) expressions

theorem elementsRearrange_eq_map (elements : List Element) :
    elementsRearrange change elements = elements.map (Element.rearrange change) :=
  eq_map_of_cons rfl (fun _ _ => rfl) elements

theorem declaratorsRearrange_eq_map (declarators : List Declarator) :
    declaratorsRearrange change declarators =
      declarators.map (Declarator.rearrange change) :=
  eq_map_of_cons rfl (fun _ _ => rfl) declarators

theorem statementsRearrange_eq_map (statements : List Statement) :
    statementsRearrange change statements = statements.map (Statement.rearrange change) :=
  eq_map_of_cons rfl (fun _ _ => rfl) statements

/-! ## Functions that are bound first -/

theorem Statement.hoisted?_rearrange (statement : Statement) :
    (statement.rearrange change).hoisted? =
      statement.hoisted?.map fun entry => (entry.1, entry.2.rearrange change) := by
  cases statement with
  | function _ name callback => cases name <;> rfl
  | exported _ declaration =>
      cases declaration with
      | function _ name callback => cases name <;> rfl
      | _ => rfl
  | _ => rfl

/-- The functions that a list binds first are the same if they come first. -/
theorem hoisted_functionsFirst (statements : List Statement) :
    (functionsFirst statements).filterMap Statement.hoisted? =
      statements.filterMap Statement.hoisted? := by
  have others : ∀ statement ∈ statements.filter fun statement => !statement.isFunction,
      statement.hoisted? = none := by
    intro statement member
    have plain := (List.mem_filter.mp member).2
    simpa [Statement.isFunction] using plain
  rw [functionsFirst, List.filterMap_append, List.filterMap_eq_nil_iff.mpr others, List.append_nil,
    List.filterMap_filter]
  refine congrArg (List.filterMap · statements) (funext fun statement => ?_)
  rw [Statement.isFunction]
  cases statement.hoisted? <;> rfl

theorem hoisted_move (statements rearranged : List Statement) :
    (change.move statements rearranged).filterMap Statement.hoisted? =
      rearranged.filterMap Statement.hoisted? := by
  rw [Rearrangement.move]
  split
  · exact hoisted_functionsFirst rearranged
  · rfl

/-! ## What is known of an expression -/

theorem Binding.value?_rearrange (binding : Binding) :
    (binding.rearrange change).value? = binding.value? := by
  cases binding <;> rfl

theorem Binding.closure?_rearrange (binding : Binding) :
    (binding.rearrange change).closure? = binding.closure?.map (Closure.rearrange change) := by
  cases binding <;> rfl

theorem Binding.items?_rearrange (binding : Binding) :
    (binding.rearrange change).items? =
      binding.items?.map fun items => items.map (Binding.rearrange change) := by
  cases binding with
  | list items => exact congrArg some (bindingsRearrange_eq_map items)
  | _ => rfl

namespace Scopes

theorem lookup_rearrange (scopes : Scopes) (start : Nat) (name : String) :
    (scopes.rearrange change).lookup start name =
      (scopes.lookup start name).map (Binding.rearrange change) :=
  scopes.lookup_mapBound _ start name

theorem value?_lookup_rearrange (scopes : Scopes) (start : Nat) (name : String) :
    ((scopes.rearrange change).lookup start name).bind Binding.value? =
      (scopes.lookup start name).bind Binding.value? := by
  rw [lookup_rearrange]
  cases scopes.lookup start name with
  | none => rfl
  | some binding => exact binding.value?_rearrange

theorem closure?_lookup_rearrange (scopes : Scopes) (start : Nat) (name : String) :
    ((scopes.rearrange change).lookup start name).bind Binding.closure? =
      ((scopes.lookup start name).bind Binding.closure?).map (Closure.rearrange change) := by
  rw [lookup_rearrange]
  cases scopes.lookup start name with
  | none => rfl
  | some binding => exact binding.closure?_rearrange

end Scopes

theorem Expression.span_rearrange (expression : Expression) :
    (expression.rearrange change).span = expression.span := by
  cases expression <;> rfl

theorem Element.plain?_rearrange (element : Element) :
    (element.rearrange change).plain? = element.plain?.map (Expression.rearrange change) := by
  cases element <;> rfl

/-- The first argument of a call. -/
theorem head?_elementsRearrange (elements : List Element) :
    (elementsRearrange change elements).head?.bind Element.plain? =
      (elements.head?.bind Element.plain?).map (Expression.rearrange change) := by
  cases elements with
  | nil => rfl
  | cons first rest => exact first.plain?_rearrange

section Known

variable (scopes : Scopes) (scope : Nat)

mutual

theorem Expression.value?_rearrange (expression : Expression) :
    (expression.rearrange change).value? (scopes.rearrange change) scope =
      expression.value? scopes scope := by
  cases expression with
  | identifier _ name => exact scopes.value?_lookup_rearrange scope name
  | template _ pieces holes =>
      simp only [Expression.rearrange, Expression.value?, valueTexts?_rearrange holes]
  | sum _ left right =>
      simp only [Expression.rearrange, Expression.value?, Expression.value?_rearrange left,
        Expression.value?_rearrange right]
  | negative _ operand =>
      simp only [Expression.rearrange, Expression.value?, Expression.value?_rearrange operand]
  | parenthesized _ inner => exact Expression.value?_rearrange inner
  | _ => rfl

theorem valueTexts?_rearrange (expressions : List Expression) :
    valueTexts? (scopes.rearrange change) scope (expressionsRearrange change expressions) =
      valueTexts? scopes scope expressions := by
  cases expressions with
  | nil => rfl
  | cons first rest =>
      simp only [expressionsRearrange, valueTexts?, Expression.value?_rearrange first,
        valueTexts?_rearrange rest]

end

theorem Expression.closure?_rearrange (expression : Expression) :
    (expression.rearrange change).closure? (scopes.rearrange change) scope =
      (expression.closure? scopes scope).map (Closure.rearrange change) := by
  cases expression with
  | identifier _ name => exact scopes.closure?_lookup_rearrange scope name
  | parenthesized _ inner => exact closure?_rearrange inner
  | _ => rfl

theorem Element.closureAt?_rearrange (elements : List Element) (index : Nat) :
    closureAt? (scopes.rearrange change) scope (elementsRearrange change elements) index =
      (closureAt? scopes scope elements index).map (Closure.rearrange change) := by
  rw [closureAt?, closureAt?, elementsRearrange_eq_map, List.getElem?_map]
  cases elements[index]? with
  | none => rfl
  | some element =>
      cases element with
      | plain expression => exact expression.closure?_rearrange scopes scope
      | spread expression => rfl
      | hole => rfl

mutual

theorem Expression.binding_rearrange (expression : Expression) :
    (expression.rearrange change).binding (scopes.rearrange change) scope =
      (expression.binding scopes scope).rearrange change := by
  have valued : ((((expression.rearrange change).value? (scopes.rearrange change) scope).map
      Binding.value).getD .unknown) =
        (((expression.value? scopes scope).map Binding.value).getD .unknown).rearrange change := by
    rw [Expression.value?_rearrange]
    cases expression.value? scopes scope <;> rfl
  cases expression with
  | identifier _ name =>
      simp only [Expression.rearrange, Expression.binding, Scopes.lookup_rearrange]
      cases scopes.lookup scope name <;> rfl
  | function _ callback => rfl
  | array _ elements => exact congrArg Binding.list (elementBindings_rearrange elements)
  | parenthesized _ inner => exact Expression.binding_rearrange inner
  | _ => exact valued

theorem elementBindings_rearrange (elements : List Element) :
    elementBindings (scopes.rearrange change) scope (elementsRearrange change elements) =
      bindingsRearrange change (elementBindings scopes scope elements) := by
  cases elements with
  | nil => rfl
  | cons first rest =>
      exact congr (congrArg List.cons (Element.binding_rearrange first))
        (elementBindings_rearrange rest)

theorem Element.binding_rearrange (element : Element) :
    (element.rearrange change).binding (scopes.rearrange change) scope =
      (element.binding scopes scope).rearrange change := by
  cases element with
  | plain expression => exact Expression.binding_rearrange expression
  | spread expression => rfl
  | hole => rfl

end

end Known

/-! ## Declarations -/

section Declarations

variable {interface : Interface}

theorem Interface.entryOf?_rearrange (callee : Expression) :
    interface.entryOf? (callee.rearrange change) = interface.entryOf? callee := by
  cases callee with
  | member _ object property => cases object <;> rfl
  | _ => rfl

/-- The order of parts does not matter to whether one of them declares something. -/
theorem partsDeclare_order (parts : List Part) :
    partsDeclare interface (change.order parts) = partsDeclare interface parts := by
  rw [partsDeclare_eq_any, partsDeclare_eq_any]
  exact (change.perm parts).any_eq

/-- Moving functions does not matter to whether a statement declares something. -/
theorem statementsDeclare_move (statements rearranged : List Statement) :
    statementsDeclare interface (change.move statements rearranged) =
      statementsDeclare interface rearranged := by
  rw [Rearrangement.move]
  split
  · rw [statementsDeclare_eq_any, statementsDeclare_eq_any]
    exact (List.filter_append_perm _ rearranged).any_eq
  · rfl

mutual

/-- A rearranged form declares something exactly if the form does. -/
theorem Expression.declares_rearrange (expression : Expression) :
    (expression.rearrange change).declares interface = expression.declares interface := by
  cases expression with
  | template _ _ holes => exact expressionsDeclare_rearrange holes
  | array _ elements => exact elementsDeclare_rearrange elements
  | function _ callback => exact Callback.declares_rearrange callback
  | call _ callee arguments =>
      simp only [Expression.rearrange, Expression.declares, Interface.entryOf?_rearrange,
        Expression.declares_rearrange callee, elementsDeclare_rearrange arguments]
  | construct _ callee arguments =>
      exact congrArg₂ or (Expression.declares_rearrange callee)
        (elementsDeclare_rearrange arguments)
  | member _ object _ => exact Expression.declares_rearrange object
  | await _ operand => exact Expression.declares_rearrange operand
  | parenthesized _ inner => exact Expression.declares_rearrange inner
  | sequence _ items => exact expressionsDeclare_rearrange items
  | assign _ target value =>
      exact congrArg₂ or (Target.declares_rearrange target)
        (Expression.declares_rearrange value)
  | sum _ left right =>
      exact congrArg₂ or (Expression.declares_rearrange left)
        (Expression.declares_rearrange right)
  | negative _ operand => exact Expression.declares_rearrange operand
  | other _ parts => exact (partsDeclare_order _).trans (partsDeclare_rearrange parts)
  | _ => rfl

theorem expressionsDeclare_rearrange (expressions : List Expression) :
    expressionsDeclare interface (expressionsRearrange change expressions) =
      expressionsDeclare interface expressions := by
  cases expressions with
  | nil => rfl
  | cons first rest =>
      exact congrArg₂ or (Expression.declares_rearrange first)
        (expressionsDeclare_rearrange rest)

theorem Element.declares_rearrange (element : Element) :
    (element.rearrange change).declares interface = element.declares interface := by
  cases element with
  | plain expression => exact Expression.declares_rearrange expression
  | spread expression => exact Expression.declares_rearrange expression
  | hole => rfl

theorem elementsDeclare_rearrange (elements : List Element) :
    elementsDeclare interface (elementsRearrange change elements) =
      elementsDeclare interface elements := by
  cases elements with
  | nil => rfl
  | cons first rest =>
      exact congrArg₂ or (Element.declares_rearrange first) (elementsDeclare_rearrange rest)

theorem Target.declares_rearrange (target : Target) :
    (target.rearrange change).declares interface = target.declares interface := by
  cases target with
  | name name => rfl
  | other parts => exact (partsDeclare_order _).trans (partsDeclare_rearrange parts)

theorem targetsDeclare_rearrange (targets : List Target) :
    targetsDeclare interface (targetsRearrange change targets) =
      targetsDeclare interface targets := by
  cases targets with
  | nil => rfl
  | cons first rest =>
      exact congrArg₂ or (Target.declares_rearrange first) (targetsDeclare_rearrange rest)

theorem Part.declares_rearrange (part : Part) :
    (part.rearrange change).declares interface = part.declares interface := by
  cases part with
  | expression expression => exact Expression.declares_rearrange expression
  | statement statement => exact Statement.declares_rearrange statement

theorem partsDeclare_rearrange (parts : List Part) :
    partsDeclare interface (partsRearrange change parts) = partsDeclare interface parts := by
  cases parts with
  | nil => rfl
  | cons first rest =>
      exact congrArg₂ or (Part.declares_rearrange first) (partsDeclare_rearrange rest)

theorem Callback.declares_rearrange (callback : Callback) :
    (callback.rearrange change).declares interface = callback.declares interface := by
  cases callback with
  | block parameters body =>
      exact congrArg₂ or (targetsDeclare_rearrange parameters)
        ((statementsDeclare_move body _).trans (statementsDeclare_rearrange body))
  | arrow parameters body =>
      exact congrArg₂ or (targetsDeclare_rearrange parameters)
        (Expression.declares_rearrange body)

theorem Declarator.declares_rearrange (declarator : Declarator) :
    (declarator.rearrange change).declares interface = declarator.declares interface := by
  cases declarator with
  | mk target value =>
      cases value with
      | none => exact Target.declares_rearrange target
      | some value =>
          exact congrArg₂ or (Target.declares_rearrange target)
            (Expression.declares_rearrange value)

theorem declaratorsDeclare_rearrange (declarators : List Declarator) :
    declaratorsDeclare interface (declaratorsRearrange change declarators) =
      declaratorsDeclare interface declarators := by
  cases declarators with
  | nil => rfl
  | cons first rest =>
      exact congrArg₂ or (Declarator.declares_rearrange first)
        (declaratorsDeclare_rearrange rest)

theorem Statement.declares_rearrange (statement : Statement) :
    (statement.rearrange change).declares interface = statement.declares interface := by
  cases statement with
  | expression _ expression => exact Expression.declares_rearrange expression
  | block _ body => exact (statementsDeclare_move body _).trans (statementsDeclare_rearrange body)
  | declaration _ _ declarators => exact declaratorsDeclare_rearrange declarators
  | function _ _ callback => exact Callback.declares_rearrange callback
  | exported _ declaration => exact Statement.declares_rearrange declaration
  | empty _ => rfl
  | forOf _ binder iterated body =>
      exact congrArg₂ or (congrArg₂ or (Binder.declares_rearrange binder)
        (Expression.declares_rearrange iterated)) (Statement.declares_rearrange body)
  | throw _ argument => exact Expression.declares_rearrange argument
  | other _ parts => exact (partsDeclare_order _).trans (partsDeclare_rearrange parts)

theorem statementsDeclare_rearrange (statements : List Statement) :
    statementsDeclare interface (statementsRearrange change statements) =
      statementsDeclare interface statements := by
  cases statements with
  | nil => rfl
  | cons first rest =>
      exact congrArg₂ or (Statement.declares_rearrange first)
        (statementsDeclare_rearrange rest)

theorem Binder.declares_rearrange (binder : Binder) :
    (binder.rearrange change).declares interface = binder.declares interface := by
  cases binder with
  | declaration _ declarators => exact declaratorsDeclare_rearrange declarators
  | target target => exact Target.declares_rearrange target

end

end Declarations

end TestInventory
