import Mathlib.Logic.Basic
import TestInventory.Evaluation.Known
import TestInventory.Interface.Occurrence
import TestInventory.Proofs.Evaluation.Mapping
import TestInventory.Proofs.Listwise

/-!
# Outlines of programs

The body of a function that is written as an argument of a hook call, or behind
the first argument of a test call, is never run.  The outline of a program is
the program with these bodies taken out, wherever such calls stand.  What is
known of an expression without running it, and whether it declares something,
can be read off its outline.
-/

namespace TestInventory

open TestInventory.Source (Span)

/--
From which argument on a declaring call takes functions that are never run: the
second argument of a test call and the first of a hook call.
-/
def Entry.opaqueFrom? : Entry → Option Nat
  | .suite _ => none
  | .test _ => some 1
  | .hook _ => some 0

/-- From which argument on a call with the given callee takes functions that are never run. -/
def Interface.opaqueFrom? (interface : Interface) (callee : Expression) : Option Nat :=
  (interface.entryOf? callee).bind Entry.opaqueFrom?

section Definitions

variable (interface : Interface)

mutual

/-- The outline of an expression; a `bare` one is a function whose body is taken out. -/
def Expression.outline (bare : Bool) : Expression → Expression
  | .identifier span name => .identifier span name
  | .this span => .this span
  | .literal span value => .literal span value
  | .template span pieces holes => .template span pieces (expressionsOutline holes)
  | .array span elements => .array span (elementsOutline none elements)
  | .function span callback => .function span (callback.outline bare)
  | .call span callee arguments =>
    .call span (callee.outline false) (elementsOutline (interface.opaqueFrom? callee) arguments)
  | .construct span callee arguments =>
    .construct span (callee.outline false) (elementsOutline none arguments)
  | .member span object property => .member span (object.outline false) property
  | .await span operand => .await span (operand.outline false)
  | .parenthesized span inner => .parenthesized span (inner.outline bare)
  | .sequence span items => .sequence span (expressionsOutline items)
  | .assign span target value => .assign span target.outline (value.outline false)
  | .sum span left right => .sum span (left.outline false) (right.outline false)
  | .negative span operand => .negative span (operand.outline false)
  | .other span parts => .other span (partsOutline parts)

/-- The outlines of several expressions. -/
def expressionsOutline : List Expression → List Expression
  | [] => []
  | first :: rest => first.outline false :: expressionsOutline rest

/-- The outline of an element or argument. -/
def Element.outline (bare : Bool) : Element → Element
  | .plain expression => .plain (expression.outline bare)
  | .spread expression => .spread (expression.outline false)
  | .hole => .hole

/-- The outlines of elements or arguments, from one of them on with the bodies taken out. -/
def elementsOutline (bareFrom : Option Nat) : List Element → List Element
  | [] => []
  | first :: rest =>
    first.outline (bareFrom == some 0) :: elementsOutline (bareFrom.map (· - 1)) rest

/-- The outline of a target. -/
def Target.outline : Target → Target
  | .name name => .name name
  | .other parts => .other (partsOutline parts)

/-- The outlines of several targets. -/
def targetsOutline : List Target → List Target
  | [] => []
  | first :: rest => first.outline :: targetsOutline rest

/-- The outline of a part. -/
def Part.outline : Part → Part
  | .expression expression => .expression (expression.outline false)
  | .statement statement => .statement statement.outline

/-- The outlines of several parts. -/
def partsOutline : List Part → List Part
  | [] => []
  | first :: rest => first.outline :: partsOutline rest

/-- The outline of a function; a `bare` one keeps its parameters only. -/
def Callback.outline (bare : Bool) : Callback → Callback
  | .block parameters body =>
    .block (targetsOutline parameters) (if bare then [] else statementsOutline body)
  | .arrow parameters body =>
    if bare then .block (targetsOutline parameters) []
    else .arrow (targetsOutline parameters) (body.outline false)

/-- The outline of a variable with its first value. -/
def Declarator.outline : Declarator → Declarator
  | .mk target none => .mk target.outline none
  | .mk target (some value) => .mk target.outline (some (value.outline false))

/-- The outlines of several variables. -/
def declaratorsOutline : List Declarator → List Declarator
  | [] => []
  | first :: rest => first.outline :: declaratorsOutline rest

/-- The outline of a statement. -/
def Statement.outline : Statement → Statement
  | .expression span expression => .expression span (expression.outline false)
  | .block span body => .block span (statementsOutline body)
  | .declaration span hoisted declarators =>
    .declaration span hoisted (declaratorsOutline declarators)
  | .function span name callback => .function span name (callback.outline false)
  | .exported span declaration => .exported span declaration.outline
  | .empty span => .empty span
  | .forOf span binder iterated body =>
    .forOf span binder.outline (iterated.outline false) body.outline
  | .throw span argument => .throw span (argument.outline false)
  | .other span parts => .other span (partsOutline parts)

/-- The outlines of several statements. -/
def statementsOutline : List Statement → List Statement
  | [] => []
  | first :: rest => first.outline :: statementsOutline rest

/-- The outline of what a loop binds. -/
def Binder.outline : Binder → Binder
  | .declaration hoisted declarators => .declaration hoisted (declaratorsOutline declarators)
  | .target target => .target target.outline

end

/-- The outline of a program. -/
def Program.outline (program : Program) : Program :=
  ⟨statementsOutline interface program.statements⟩

/-- The outline of a closure. -/
def Closure.outline (closure : Closure) : Closure :=
  ⟨closure.callback.outline interface false, closure.scope⟩

mutual

/-- The outline of what a name is bound to. -/
def Binding.outline : Binding → Binding
  | .value value => .value value
  | .list items => .list (bindingsOutline items)
  | .callback closure => .callback (closure.outline interface)
  | .unknown => .unknown

/-- The outlines of several bindings. -/
def bindingsOutline : List Binding → List Binding
  | [] => []
  | first :: rest => first.outline :: bindingsOutline rest

end

/-- The outline of a scope. -/
def Scope.outline (scope : Scope) : Scope :=
  { scope with
    bindings := scope.bindings.map fun entry => (entry.1, entry.2.outline interface) }

/-- The outline of an arena of scopes. -/
def Scopes.outline (scopes : Scopes) : Scopes := ⟨scopes.arena.map (Scope.outline interface)⟩

end Definitions

variable {interface : Interface}

theorem bindingsOutline_eq_map (items : List Binding) :
    bindingsOutline interface items = items.map (Binding.outline interface) :=
  eq_map_of_cons rfl (fun _ _ => rfl) items

theorem declaratorsOutline_eq_map (declarators : List Declarator) :
    declaratorsOutline interface declarators =
      declarators.map (Declarator.outline interface) :=
  eq_map_of_cons rfl (fun _ _ => rfl) declarators

theorem Binding.value?_outline (binding : Binding) :
    (binding.outline interface).value? = binding.value? := by
  cases binding <;> rfl

theorem Binding.closure?_outline (binding : Binding) :
    (binding.outline interface).closure? =
      binding.closure?.map (Closure.outline interface) := by
  cases binding <;> rfl

theorem Binding.items?_outline (binding : Binding) :
    (binding.outline interface).items? = binding.items?.map (bindingsOutline interface) := by
  cases binding <;> rfl

/-! ## Scopes -/

namespace Scopes

@[simp]
theorem size_outline (scopes : Scopes) : (scopes.outline interface).size = scopes.size :=
  scopes.size_mapBound _

theorem initial_outline : initial.outline interface = initial := initial_mapBound _

theorem add_outline (scopes : Scopes) (parent : Nat) (ofFunction : Bool) :
    (scopes.outline interface).add parent ofFunction =
      (scopes.add parent ofFunction).outline interface :=
  scopes.add_mapBound _ parent ofFunction

theorem bindIn_outline (scopes : Scopes) (index : Nat) (name : String) (binding : Binding) :
    (scopes.outline interface).bindIn index name (binding.outline interface) =
      (scopes.bindIn index name binding).outline interface :=
  scopes.bindIn_mapBound _ index name binding

theorem lookup_outline (scopes : Scopes) (start : Nat) (name : String) :
    (scopes.outline interface).lookup start name =
      (scopes.lookup start name).map (Binding.outline interface) :=
  scopes.lookup_mapBound _ start name

/-- The value of a name is the same in an outline. -/
theorem value?_lookup_outline (scopes : Scopes) (start : Nat) (name : String) :
    ((scopes.outline interface).lookup start name).bind Binding.value? =
      (scopes.lookup start name).bind Binding.value? := by
  rw [lookup_outline]
  cases scopes.lookup start name with
  | none => rfl
  | some binding => exact binding.value?_outline

/-- The callback of a name is its outline in an outline. -/
theorem closure?_lookup_outline (scopes : Scopes) (start : Nat) (name : String) :
    ((scopes.outline interface).lookup start name).bind Binding.closure? =
      ((scopes.lookup start name).bind Binding.closure?).map (Closure.outline interface) := by
  rw [lookup_outline]
  cases scopes.lookup start name with
  | none => rfl
  | some binding => exact binding.closure?_outline

theorem declare_outline (scopes : Scopes) (start : Nat) (hoisted : Bool) (name : String)
    (binding : Binding) :
    (scopes.outline interface).declare start hoisted name (binding.outline interface) =
      (scopes.declare start hoisted name binding).outline interface :=
  scopes.declare_mapBound _ start hoisted name binding

theorem assign_outline (scopes : Scopes) (start : Nat) (name : String) (binding : Binding) :
    (scopes.outline interface).assign start name (binding.outline interface) =
      (scopes.assign start name binding).outline interface :=
  scopes.assign_mapBound _ start name binding

end Scopes

/-! ## What is known of an expression -/

theorem Expression.span_outline (bare : Bool) (expression : Expression) :
    (expression.outline interface bare).span = expression.span := by
  cases expression <;> rfl

theorem Element.plain?_outline (bare : Bool) (element : Element) :
    (element.outline interface bare).plain? =
      element.plain?.map (Expression.outline interface bare) := by
  cases element <;> rfl

mutual

theorem Expression.value?_outline (scopes : Scopes) (scope : Nat) (bare : Bool)
    (expression : Expression) :
    (expression.outline interface bare).value? (scopes.outline interface) scope =
      expression.value? scopes scope := by
  cases expression with
  | identifier _ name => exact scopes.value?_lookup_outline scope name
  | template _ pieces holes =>
      simp only [Expression.outline, Expression.value?, valueTexts?_outline scopes scope holes]
  | sum _ left right =>
      simp only [Expression.outline, Expression.value?,
        Expression.value?_outline scopes scope false left,
        Expression.value?_outline scopes scope false right]
  | negative _ operand =>
      simp only [Expression.outline, Expression.value?,
        Expression.value?_outline scopes scope false operand]
  | parenthesized _ inner =>
      simp only [Expression.outline, Expression.value?,
        Expression.value?_outline scopes scope bare inner]
  | _ => rfl

theorem valueTexts?_outline (scopes : Scopes) (scope : Nat) (expressions : List Expression) :
    valueTexts? (scopes.outline interface) scope (expressionsOutline interface expressions) =
      valueTexts? scopes scope expressions := by
  cases expressions with
  | nil => rfl
  | cons first rest =>
      simp only [expressionsOutline, valueTexts?,
        Expression.value?_outline scopes scope false first,
        valueTexts?_outline scopes scope rest]

end

theorem Expression.closure?_outline (scopes : Scopes) (scope : Nat) (expression : Expression) :
    (expression.outline interface false).closure? (scopes.outline interface) scope =
      (expression.closure? scopes scope).map (Closure.outline interface) := by
  cases expression with
  | identifier _ name => exact scopes.closure?_lookup_outline scope name
  | parenthesized _ inner =>
      simp only [outline, closure?, closure?_outline scopes scope inner]
  | _ => rfl

/-- Whether an expression stands for a callback does not depend on the body of a function. -/
theorem Expression.isSome_closure?_outline (scopes : Scopes) (scope : Nat) (bare : Bool)
    (expression : Expression) :
    ((expression.outline interface bare).closure? (scopes.outline interface) scope).isSome =
      (expression.closure? scopes scope).isSome := by
  cases expression with
  | identifier _ name =>
      simp only [outline, closure?, scopes.closure?_lookup_outline, Option.isSome_map]
  | parenthesized _ inner =>
      simp only [outline, closure?, isSome_closure?_outline scopes scope bare inner]
  | _ => rfl

mutual

theorem Expression.binding_outline (scopes : Scopes) (scope : Nat) (expression : Expression) :
    (expression.outline interface false).binding (scopes.outline interface) scope =
      (expression.binding scopes scope).outline interface := by
  cases expression with
  | identifier _ name =>
      simp only [Expression.outline, Expression.binding, Scopes.lookup_outline]
      cases scopes.lookup scope name <;> rfl
  | function _ callback => rfl
  | array _ elements =>
      simp only [Expression.outline, Expression.binding, Binding.outline,
        elementBindings_outline scopes scope elements]
  | parenthesized _ inner =>
      simp only [Expression.outline, Expression.binding,
        Expression.binding_outline scopes scope inner]
  | literal _ value => rfl
  | template span pieces holes => exact known_outline scopes scope (.template span pieces holes)
  | sum span left right => exact known_outline scopes scope (.sum span left right)
  | negative span operand => exact known_outline scopes scope (.negative span operand)
  | _ => rfl
where
  /-- The binding of an expression that can only be known as a value. -/
  known_outline (scopes : Scopes) (scope : Nat) (expression : Expression) :
      ((((expression.outline interface false).value? (scopes.outline interface) scope).map
        Binding.value).getD .unknown) =
        (((expression.value? scopes scope).map Binding.value).getD .unknown).outline interface := by
    rw [Expression.value?_outline]
    cases expression.value? scopes scope <;> rfl

theorem elementBindings_outline (scopes : Scopes) (scope : Nat) (elements : List Element) :
    elementBindings (scopes.outline interface) scope (elementsOutline interface none elements) =
      bindingsOutline interface (elementBindings scopes scope elements) := by
  cases elements with
  | nil => rfl
  | cons first rest =>
      exact congr (congrArg List.cons (Element.binding_outline scopes scope first))
        (elementBindings_outline scopes scope rest)

theorem Element.binding_outline (scopes : Scopes) (scope : Nat) (element : Element) :
    (element.outline interface false).binding (scopes.outline interface) scope =
      (element.binding scopes scope).outline interface := by
  cases element with
  | plain expression => exact Expression.binding_outline scopes scope expression
  | spread expression => rfl
  | hole => rfl

end

/-! ## Arguments -/

/-- An argument loses the body of its function if it stands far enough behind. -/
theorem getElem?_elementsOutline (bareFrom : Option Nat) (elements : List Element) (index : Nat) :
    (elementsOutline interface bareFrom elements)[index]? =
      elements[index]?.map (Element.outline interface (bareFrom.any (· ≤ index))) := by
  induction elements generalizing bareFrom index with
  | nil => rfl
  | cons first rest ih =>
      cases index with
      | zero => cases bareFrom with
        | none => rfl
        | some position => cases position <;> rfl
      | succ index =>
          rw [elementsOutline, List.getElem?_cons_succ, List.getElem?_cons_succ, ih]
          cases bareFrom with
          | none => rfl
          | some position =>
              simp only [Option.map_some, Option.any_some, Nat.sub_le_iff_le_add]

theorem length_elementsOutline (bareFrom : Option Nat) (elements : List Element) :
    (elementsOutline interface bareFrom elements).length = elements.length := by
  induction elements generalizing bareFrom with
  | nil => rfl
  | cons first rest ih => exact congrArg (· + 1) (ih _)

/-- The first argument of a call, unless it may lose the body of a function. -/
theorem head?_elementsOutline (bareFrom : Option Nat) (elements : List Element)
    (kept : bareFrom ≠ some 0) :
    (elementsOutline interface bareFrom elements).head?.bind Element.plain? =
      (elements.head?.bind Element.plain?).map (Expression.outline interface false) := by
  cases elements with
  | nil => rfl
  | cons first rest =>
      have whole : (bareFrom == some 0) = false := beq_eq_false_iff_ne.mpr kept
      simp only [elementsOutline, whole, List.head?_cons, Option.bind_some,
        Element.plain?_outline]

namespace Element

/-- Whether there is a callback at an index does not depend on the bodies taken out. -/
theorem isSome_closureAt?_outline (scopes : Scopes) (scope : Nat) (bareFrom : Option Nat)
    (elements : List Element) (index : Nat) :
    (closureAt? (scopes.outline interface) scope (elementsOutline interface bareFrom elements)
      index).isSome = (closureAt? scopes scope elements index).isSome := by
  rw [closureAt?, closureAt?, getElem?_elementsOutline]
  cases elements[index]? with
  | none => rfl
  | some element =>
      cases element with
      | plain expression => exact expression.isSome_closure?_outline scopes scope _
      | spread expression => rfl
      | hole => rfl

/-- The callback among arguments of which none loses a body. -/
theorem closureAt?_outline (scopes : Scopes) (scope : Nat) (elements : List Element)
    (index : Nat) :
    closureAt? (scopes.outline interface) scope (elementsOutline interface none elements) index =
      (closureAt? scopes scope elements index).map (Closure.outline interface) := by
  rw [closureAt?, closureAt?, getElem?_elementsOutline]
  cases elements[index]? with
  | none => rfl
  | some element =>
      cases element with
      | plain expression => exact expression.closure?_outline scopes scope
      | spread expression => rfl
      | hole => rfl

end Element

/-! ## Declarations in an outline -/

theorem Interface.entryOf?_outline (callee : Expression) :
    interface.entryOf? (callee.outline interface false) = interface.entryOf? callee := by
  cases callee with
  | member _ object property => cases object <;> rfl
  | _ => rfl

/-- Only the arguments of a call that declares something lose bodies. -/
theorem Interface.opaqueFrom?_eq_none (callee : Expression)
    (other : interface.entryOf? callee = none) : interface.opaqueFrom? callee = none := by
  rw [opaqueFrom?, other, Option.bind_none]

mutual

/-- A form declares something exactly if its outline does. -/
theorem Expression.declares_outline (expression : Expression) :
    (expression.outline interface false).declares interface = expression.declares interface := by
  cases expression with
  | template _ _ holes => exact expressionsDeclare_outline holes
  | array _ elements => exact elementsDeclare_outline elements
  | function _ callback => exact Callback.declares_outline callback
  | call _ callee arguments =>
      simp only [Expression.outline, Expression.declares, Interface.entryOf?_outline,
        Expression.declares_outline callee]
      -- The bodies taken out stand in a call that declares something itself.
      cases entry : interface.entryOf? callee with
      | some entry => rfl
      | none =>
          rw [interface.opaqueFrom?_eq_none callee entry, elementsDeclare_outline arguments]
  | construct _ callee arguments =>
      exact congrArg₂ or (Expression.declares_outline callee)
        (elementsDeclare_outline arguments)
  | member _ object _ => exact Expression.declares_outline object
  | await _ operand => exact Expression.declares_outline operand
  | parenthesized _ inner => exact Expression.declares_outline inner
  | sequence _ items => exact expressionsDeclare_outline items
  | assign _ target value =>
      exact congrArg₂ or (Target.declares_outline target)
        (Expression.declares_outline value)
  | sum _ left right =>
      exact congrArg₂ or (Expression.declares_outline left)
        (Expression.declares_outline right)
  | negative _ operand => exact Expression.declares_outline operand
  | other _ parts => exact partsDeclare_outline parts
  | _ => rfl

theorem expressionsDeclare_outline (expressions : List Expression) :
    expressionsDeclare interface (expressionsOutline interface expressions) =
      expressionsDeclare interface expressions := by
  cases expressions with
  | nil => rfl
  | cons first rest =>
      exact congrArg₂ or (Expression.declares_outline first)
        (expressionsDeclare_outline rest)

theorem Element.declares_outline (element : Element) :
    (element.outline interface false).declares interface = element.declares interface := by
  cases element with
  | plain expression => exact Expression.declares_outline expression
  | spread expression => exact Expression.declares_outline expression
  | hole => rfl

theorem elementsDeclare_outline (elements : List Element) :
    elementsDeclare interface (elementsOutline interface none elements) =
      elementsDeclare interface elements := by
  cases elements with
  | nil => rfl
  | cons first rest =>
      exact congrArg₂ or (Element.declares_outline first) (elementsDeclare_outline rest)

theorem Target.declares_outline (target : Target) :
    (target.outline interface).declares interface = target.declares interface := by
  cases target with
  | name name => rfl
  | other parts => exact partsDeclare_outline parts

theorem targetsDeclare_outline (targets : List Target) :
    targetsDeclare interface (targetsOutline interface targets) =
      targetsDeclare interface targets := by
  cases targets with
  | nil => rfl
  | cons first rest =>
      exact congrArg₂ or (Target.declares_outline first) (targetsDeclare_outline rest)

theorem Part.declares_outline (part : Part) :
    (part.outline interface).declares interface = part.declares interface := by
  cases part with
  | expression expression => exact Expression.declares_outline expression
  | statement statement => exact Statement.declares_outline statement

theorem partsDeclare_outline (parts : List Part) :
    partsDeclare interface (partsOutline interface parts) = partsDeclare interface parts := by
  cases parts with
  | nil => rfl
  | cons first rest =>
      exact congrArg₂ or (Part.declares_outline first) (partsDeclare_outline rest)

theorem Callback.declares_outline (callback : Callback) :
    (callback.outline interface false).declares interface = callback.declares interface := by
  cases callback with
  | block parameters body =>
      exact congrArg₂ or (targetsDeclare_outline parameters)
        (statementsDeclare_outline body)
  | arrow parameters body =>
      exact congrArg₂ or (targetsDeclare_outline parameters)
        (Expression.declares_outline body)

theorem Declarator.declares_outline (declarator : Declarator) :
    (declarator.outline interface).declares interface = declarator.declares interface := by
  cases declarator with
  | mk target value =>
      cases value with
      | none => exact Target.declares_outline target
      | some value =>
          exact congrArg₂ or (Target.declares_outline target)
            (Expression.declares_outline value)

theorem declaratorsDeclare_outline (declarators : List Declarator) :
    declaratorsDeclare interface (declaratorsOutline interface declarators) =
      declaratorsDeclare interface declarators := by
  cases declarators with
  | nil => rfl
  | cons first rest =>
      exact congrArg₂ or (Declarator.declares_outline first)
        (declaratorsDeclare_outline rest)

theorem Statement.declares_outline (statement : Statement) :
    (statement.outline interface).declares interface = statement.declares interface := by
  cases statement with
  | expression _ expression => exact Expression.declares_outline expression
  | block _ body => exact statementsDeclare_outline body
  | declaration _ _ declarators => exact declaratorsDeclare_outline declarators
  | function _ _ callback => exact Callback.declares_outline callback
  | exported _ declaration => exact Statement.declares_outline declaration
  | empty _ => rfl
  | forOf _ binder iterated body =>
      exact congrArg₂ or (congrArg₂ or (Binder.declares_outline binder)
        (Expression.declares_outline iterated)) (Statement.declares_outline body)
  | throw _ argument => exact Expression.declares_outline argument
  | other _ parts => exact partsDeclare_outline parts

theorem statementsDeclare_outline (statements : List Statement) :
    statementsDeclare interface (statementsOutline interface statements) =
      statementsDeclare interface statements := by
  cases statements with
  | nil => rfl
  | cons first rest =>
      exact congrArg₂ or (Statement.declares_outline first)
        (statementsDeclare_outline rest)

theorem Binder.declares_outline (binder : Binder) :
    (binder.outline interface).declares interface = binder.declares interface := by
  cases binder with
  | declaration _ declarators => exact declaratorsDeclare_outline declarators
  | target target => exact Target.declares_outline target

end

end TestInventory
