import TestInventory.Proofs.Evaluation.Arena
import TestInventory.Proofs.Evaluation.Job

/-!
# Looking up names

All that is read off an expression depends on the scopes just through the names that
are looked up from the current scope.  A name is found in the innermost scope that
binds it.  So a name that is bound in some scope is found there or further inside, and
what it is bound to further out has no influence on anything that is read.
-/

namespace TestInventory

open TestInventory.Source (Span)

/-! ## Reading through names -/

/-- Whether the same is found from a scope, whatever name is looked up. -/
def Scopes.SameNames (first second : Scopes) (scope : Nat) : Prop :=
  ∀ name, first.lookup scope name = second.lookup scope name

section Reading

variable {first second : Scopes} {scope : Nat}

mutual

theorem Expression.value?_congr (same : first.SameNames second scope) (expression : Expression) :
    expression.value? first scope = expression.value? second scope := by
  cases expression with
  | template _ pieces holes => simp only [Expression.value?, valueTexts?_congr same holes]
  | sum _ left right =>
      simp only [Expression.value?, Expression.value?_congr same left,
        Expression.value?_congr same right]
  | negative _ operand => simp only [Expression.value?, Expression.value?_congr same operand]
  | parenthesized _ inner => exact Expression.value?_congr same inner
  | identifier _ name => simp only [Expression.value?, same name]
  | _ => rfl

theorem valueTexts?_congr (same : first.SameNames second scope) (expressions : List Expression) :
    valueTexts? first scope expressions = valueTexts? second scope expressions := by
  cases expressions with
  | nil => rfl
  | cons head rest =>
      simp only [valueTexts?, Expression.value?_congr same head, valueTexts?_congr same rest]

end

theorem Expression.closure?_congr (same : first.SameNames second scope)
    (expression : Expression) : expression.closure? first scope = expression.closure? second scope := by
  cases expression with
  | parenthesized _ inner => exact Expression.closure?_congr same inner
  | identifier _ name => simp only [Expression.closure?, same name]
  | _ => rfl

theorem Element.closureAt?_congr (same : first.SameNames second scope) (elements : List Element)
    (index : Nat) :
    Element.closureAt? first scope elements index =
      Element.closureAt? second scope elements index := by
  simp only [Element.closureAt?, Expression.closure?_congr same]

mutual

theorem Expression.binding_congr (same : first.SameNames second scope) (expression : Expression) :
    expression.binding first scope = expression.binding second scope := by
  cases expression with
  | array _ elements => exact congrArg Binding.list (elementBindings_congr same elements)
  | parenthesized _ inner => exact Expression.binding_congr same inner
  | identifier _ name => simp only [Expression.binding, same name]
  | function => rfl
  | _ => simp only [Expression.binding, Expression.value?_congr same]

theorem elementBindings_congr (same : first.SameNames second scope) (elements : List Element) :
    elementBindings first scope elements = elementBindings second scope elements := by
  cases elements with
  | nil => rfl
  | cons head rest =>
      simp only [elementBindings, Element.binding_congr same head, elementBindings_congr same rest]

theorem Element.binding_congr (same : first.SameNames second scope) (element : Element) :
    element.binding first scope = element.binding second scope := by
  cases element with
  | plain expression => exact Expression.binding_congr same expression
  | spread => rfl
  | hole => rfl

end

end Reading

namespace Setting

variable {σ : Type} (setting : Setting σ)

/-- Whether the same is read off all that can stand in a scope. -/
structure ReadsAlike (scope : Nat) (first second : Scopes) : Prop where
  /-- Names of declarations, and what is thrown. -/
  value : ∀ expression : Expression, expression.value? first scope = expression.value? second scope
  /-- Callbacks. -/
  closure : ∀ expression : Expression,
    expression.closure? first scope = expression.closure? second scope
  /-- Lists that are iterated, and all that a name is given. -/
  binding : ∀ expression : Expression,
    expression.binding first scope = expression.binding second scope
  naming : ∀ arguments, setting.naming first scope arguments =
    setting.naming second scope arguments
  treatment : ∀ callee arguments, setting.treatment first scope callee arguments =
    setting.treatment second scope callee arguments

theorem namedTreatment_congr {first second : Scopes} {scope : Nat}
    (same : first.SameNames second scope) (name : String) (modifier : Option String) :
    setting.namedTreatment first scope name modifier =
      setting.namedTreatment second scope name modifier := by
  simp only [namedTreatment, same name]

theorem iteratedTreatment_congr {first second : Scopes} {scope : Nat}
    (same : first.SameNames second scope) (iterated : Expression) (arguments : List Element) :
    iteratedTreatment first scope iterated arguments =
      iteratedTreatment second scope iterated arguments := by
  simp only [iteratedTreatment, Expression.binding_congr same, Element.closureAt?_congr same]

theorem treatment_congr {first second : Scopes} {scope : Nat}
    (same : first.SameNames second scope) (callee : Expression) (arguments : List Element) :
    setting.treatment first scope callee arguments =
      setting.treatment second scope callee arguments := by
  cases callee with
  | identifier _ name => exact setting.namedTreatment_congr same name none
  | member _ object property =>
      have iterated := iteratedTreatment_congr same object arguments
      have named := setting.namedTreatment_congr same
      cases object <;> simp only [treatment, memberTreatment, iterated, named]
  | _ => rfl

/-- What is read off anything depends on nothing but the names that are found. -/
theorem readsAlike_of_sameNames {first second : Scopes} {scope : Nat}
    (same : first.SameNames second scope) : setting.ReadsAlike scope first second where
  value := Expression.value?_congr same
  closure := Expression.closure?_congr same
  binding := Expression.binding_congr same
  naming arguments := by simp only [naming, Expression.value?_congr same]
  treatment := setting.treatment_congr same

end Setting

/-! ## Scopes inside scopes -/

namespace Scopes

variable {scopes : Scopes}

/-- Whether a scope is another one or, from parent to parent, stands inside it. -/
inductive Inside (scopes : Scopes) : Nat → Nat → Prop where
  | self (scope : Nat) : Inside scopes scope scope
  | parent {inner parent outer : Nat} {scope : Scope}
      (found : scopes.arena[inner]? = some scope) (enclosing : scope.parent = some parent)
      (inside : Inside scopes parent outer) : Inside scopes inner outer

/-- A name is found in the scope itself or else from its parent. -/
theorem Rooted.lookup_eq (rooted : scopes.Rooted) {start : Nat} {scope : Scope}
    (found : scopes.arena[start]? = some scope) (name : String) :
    scopes.lookup start name =
      (scope.bindings.find? name).or (scope.parent.bind (scopes.lookup · name)) := by
  rw [lookup, rooted.chain_eq found, List.findSome?_cons]
  cases scope.bindings.find? name with
  | some => rfl
  | none => cases scope.parent <;> rfl

/-- A name that a scope binds is found there or further inside. -/
theorem Inside.exists_binding (rooted : scopes.Rooted) {inner outer : Nat}
    (inside : scopes.Inside inner outer) {scope : Scope}
    (found : scopes.arena[outer]? = some scope) {name : String} (binds : scope.bindings.binds name) :
    ∃ index holder binding, scopes.Inside inner index ∧ scopes.Inside index outer ∧
      scopes.arena[index]? = some holder ∧ holder.bindings.find? name = some binding ∧
      scopes.lookup inner name = some binding := by
  induction inside with
  | self outer =>
      obtain ⟨binding, bound⟩ := Option.isSome_iff_exists.mp binds
      refine ⟨outer, scope, binding, .self outer, .self outer, found, bound, ?_⟩
      rw [rooted.lookup_eq found, bound, Option.some_or]
  | @parent inner _ _ here present enclosing inside ih =>
      cases bound : here.bindings.find? name with
      | some binding =>
          refine ⟨inner, here, binding, .self inner, .parent present enclosing inside, present,
            bound, ?_⟩
          rw [rooted.lookup_eq present, bound, Option.some_or]
      | none =>
          obtain ⟨index, holder, binding, between, within, held, holds, seen⟩ := ih found
          refine ⟨index, holder, binding, .parent present enclosing between, within, held, holds, ?_⟩
          rw [rooted.lookup_eq present, bound, Option.none_or, enclosing]
          exact seen

/-- A scope after a name was bound in one. -/
def rebound (index : Nat) (name : String) (binding : Binding) (entry : Nat × Scope) : Scope :=
  if index = entry.1 then { entry.2 with bindings := entry.2.bindings.bind name binding }
  else entry.2

/-- To bind a name in a scope changes just that scope in all chains. -/
theorem chain_bindIn (scopes : Scopes) (index : Nat) (name : String) (binding : Binding)
    (start : Nat) :
    (scopes.bindIn index name binding).chain start =
      (scopes.chain start).map fun entry => (entry.1, rebound index name binding entry) := by
  fun_induction chain scopes start with
  | case1 start missing =>
      rw [chain, getElem?_bindIn, missing]
      simp
  | case2 start scope found ih =>
      have held : (scopes.bindIn index name binding).arena[start]? =
          some (rebound index name binding (start, scope)) := by
        rw [getElem?_bindIn, found, rebound]
        split <;> rfl
      have parent : (rebound index name binding (start, scope)).parent = scope.parent := by
        rw [rebound]
        split <;> rfl
      rw [chain, held, List.map_cons]
      dsimp only
      rw [parent]
      cases enclosing : scope.parent with
      | none => rfl
      | some parent =>
          by_cases smaller : parent < start
          · simp only [if_pos smaller, ih parent smaller]
          · simp only [if_neg smaller, List.map_nil]

theorem lookup_bindIn (scopes : Scopes) (index : Nat) (name : String) (binding : Binding)
    (start : Nat) (other : String) :
    (scopes.bindIn index name binding).lookup start other =
      (scopes.chain start).findSome? fun entry =>
        (rebound index name binding entry).bindings.find? other := by
  rw [lookup, chain_bindIn, List.findSome?_map]
  rfl

/-- To bind a name has no influence on what is found under other names. -/
theorem lookup_bindIn_of_ne (scopes : Scopes) (index : Nat) {name other : String}
    (different : ¬ name = other) (binding : Binding) (start : Nat) :
    (scopes.bindIn index name binding).lookup start other = scopes.lookup start other := by
  rw [lookup_bindIn, lookup]
  congr 1
  funext entry
  rw [rebound]
  split
  · rw [Bindings.find?_bind, if_neg different]
  · rfl

/-- What a bound name is bound to further out has no influence on the names that are found. -/
theorem Inside.sameNames (rooted : scopes.Rooted) {inner outer : Nat}
    (inside : scopes.Inside inner outer) {scope : Scope}
    (found : scopes.arena[outer]? = some scope) {name : String} (binds : scope.bindings.binds name)
    {outside : Nat} (apart : ¬ scopes.Inside outside outer) (binding : Binding) :
    scopes.SameNames (scopes.bindIn outside name binding) inner := by
  intro other
  by_cases same : name = other
  · subst same
    rw [lookup_bindIn, lookup]
    -- Up to the scope that binds the name no scope has changed.
    induction inside with
    | self outer =>
        obtain ⟨held, bound⟩ := Option.isSome_iff_exists.mp binds
        have kept : outside ≠ outer := by
          rintro rfl
          exact apart (.self outside)
        rw [rooted.chain_eq found, List.findSome?_cons, List.findSome?_cons, rebound,
          if_neg kept, bound]
    | @parent inner parent outer here present enclosing inside ih =>
        have kept : outside ≠ inner := by
          rintro rfl
          exact apart (.parent present enclosing inside)
        rw [rooted.chain_eq present, List.findSome?_cons, List.findSome?_cons, rebound,
          if_neg kept, enclosing]
        cases here.bindings.find? name with
        | some => rfl
        | none => exact ih found apart
  · exact (lookup_bindIn_of_ne scopes outside same binding inner).symm

end Scopes

end TestInventory
