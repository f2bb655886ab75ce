import TestInventory.Interface.Occurrence
import TestInventory.Script

/-!
# Declaring calls in the open

A declaring call stands in the open if it is outside every function body, or in
the body of a function that is called right where it is written.  An exposure is
such a call together with the forms of code around it.
-/

namespace TestInventory

open TestInventory.Source (Span)

/-- A form of code in its place. -/
abbrev Surrounding := Construct × Span

/-- A declaring call in the open. -/
structure Exposure where
  entry : Entry
  span : Span
  /-- The forms around the call that are not followed as a whole, innermost first. -/
  around : List Surrounding
  deriving DecidableEq, Repr, Inhabited

section Definitions

variable (interface : Interface)

mutual

/-- The declaring calls in the open in an expression; a `called` one is the callee of a call. -/
def Expression.exposures (called : Bool) (around : List Surrounding) :
    Expression → List Exposure
  | .identifier .. => []
  | .this _ => []
  | .literal .. => []
  | .template span _ holes => expressionsExposures ((.expression, span) :: around) holes
  | .array span elements => elementsExposures ((.expression, span) :: around) elements
  | .function _ callback => callback.exposures called around
  | .call span callee arguments =>
    (interface.entryOf? callee).toList.map (⟨·, span, around⟩) ++
      callee.exposures true ((.call, span) :: around) ++
      elementsExposures ((.call, span) :: around) arguments
  | .construct span callee arguments =>
    callee.exposures false ((.expression, span) :: around) ++
      elementsExposures ((.expression, span) :: around) arguments
  | .member span object _ => object.exposures false ((.expression, span) :: around)
  | .await _ operand => operand.exposures false around
  | .parenthesized _ inner => inner.exposures called around
  | .sequence _ items => expressionsExposures around items
  | .assign _ target value => target.exposures around ++ value.exposures false around
  | .sum span left right =>
    left.exposures false ((.expression, span) :: around) ++
      right.exposures false ((.expression, span) :: around)
  | .negative span operand => operand.exposures false ((.expression, span) :: around)
  | .other span parts => partsExposures ((.expression, span) :: around) parts

/-- The declaring calls in the open in several expressions. -/
def expressionsExposures (around : List Surrounding) : List Expression → List Exposure
  | [] => []
  | first :: rest => first.exposures false around ++ expressionsExposures around rest

/-- The declaring calls in the open in an element or argument. -/
def Element.exposures (around : List Surrounding) : Element → List Exposure
  | .plain expression => expression.exposures false around
  | .spread expression => expression.exposures false around
  | .hole => []

/-- The declaring calls in the open in several elements or arguments. -/
def elementsExposures (around : List Surrounding) : List Element → List Exposure
  | [] => []
  | first :: rest => first.exposures around ++ elementsExposures around rest

/-- The declaring calls in the open in a target. -/
def Target.exposures (around : List Surrounding) : Target → List Exposure
  | .name _ => []
  | .other parts => partsExposures around parts

/-- The declaring calls in the open in several targets. -/
def targetsExposures (around : List Surrounding) : List Target → List Exposure
  | [] => []
  | first :: rest => first.exposures around ++ targetsExposures around rest

/-- The declaring calls in the open in a part. -/
def Part.exposures (around : List Surrounding) : Part → List Exposure
  | .expression expression => expression.exposures false around
  | .statement statement => statement.exposures around

/-- The declaring calls in the open in several parts. -/
def partsExposures (around : List Surrounding) : List Part → List Exposure
  | [] => []
  | first :: rest => first.exposures around ++ partsExposures around rest

/-- The declaring calls in the open in a function; its body counts if it is `called`. -/
def Callback.exposures (called : Bool) (around : List Surrounding) : Callback → List Exposure
  | .block parameters body =>
    targetsExposures around parameters ++
      (if called then statementsExposures around body else [])
  | .arrow parameters body =>
    targetsExposures around parameters ++ (if called then body.exposures false around else [])

/-- The declaring calls in the open in a variable or its first value. -/
def Declarator.exposures (around : List Surrounding) : Declarator → List Exposure
  | .mk target none => target.exposures around
  | .mk target (some value) => target.exposures around ++ value.exposures false around

/-- The declaring calls in the open in several variables. -/
def declaratorsExposures (around : List Surrounding) : List Declarator → List Exposure
  | [] => []
  | first :: rest => first.exposures around ++ declaratorsExposures around rest

/-- The declaring calls in the open in a statement. -/
def Statement.exposures (around : List Surrounding) : Statement → List Exposure
  | .expression _ expression => expression.exposures false around
  | .block _ body => statementsExposures around body
  | .declaration _ _ declarators => declaratorsExposures around declarators
  | .function _ _ callback => callback.exposures false around
  | .exported span declaration => declaration.exposures ((.exported, span) :: around)
  | .empty _ => []
  | .forOf span binder iterated body =>
    binder.exposures ((.loop, span) :: around) ++
      iterated.exposures false ((.loop, span) :: around) ++
      body.exposures ((.loop, span) :: around)
  | .throw _ argument => argument.exposures false around
  | .other span parts => partsExposures ((.statement, span) :: around) parts

/-- The declaring calls in the open in several statements. -/
def statementsExposures (around : List Surrounding) : List Statement → List Exposure
  | [] => []
  | first :: rest => first.exposures around ++ statementsExposures around rest

/-- The declaring calls in the open in what a loop binds. -/
def Binder.exposures (around : List Surrounding) : Binder → List Exposure
  | .declaration _ declarators => declaratorsExposures around declarators
  | .target target => target.exposures around

end

/-- The declaring calls in the open in a program. -/
def Program.exposures (program : Program) : List Exposure :=
  statementsExposures interface [] program.statements

end Definitions

variable {interface : Interface}

/-! ## Exposures and the search for declarations -/

/-- Exposures within some forms, from code of which is known whether it declares something. -/
def ExposuresWithin (around : List Surrounding) (declares : Bool) (exposures : List Exposure) :
    Prop :=
  ∀ exposure ∈ exposures, declares = true ∧ ∀ form ∈ around, form ∈ exposure.around

namespace ExposuresWithin

variable {around : List Surrounding} {declares declares' : Bool}
  {exposures exposures' : List Exposure}

theorem nil : ExposuresWithin around declares [] := nofun

theorem append (first : ExposuresWithin around declares exposures)
    (second : ExposuresWithin around declares' exposures') :
    ExposuresWithin around (declares || declares') (exposures ++ exposures') := by
  intro exposure member
  rcases List.mem_append.mp member with member | member
  · obtain ⟨found, inside⟩ := first exposure member
    exact ⟨by rw [found, Bool.true_or], inside⟩
  · obtain ⟨found, inside⟩ := second exposure member
    exact ⟨by rw [found, Bool.or_true], inside⟩

/-- What stands within a form and others stands within the others. -/
theorem outer {form : Surrounding} (inner : ExposuresWithin (form :: around) declares exposures) :
    ExposuresWithin around declares exposures := by
  intro exposure member
  obtain ⟨found, inside⟩ := inner exposure member
  exact ⟨found, fun form member => inside form (List.mem_cons_of_mem _ member)⟩

/-- What stands within more forms stands within some of them. -/
theorem drop {forms : List Surrounding}
    (inner : ExposuresWithin (forms ++ around) declares exposures) :
    ExposuresWithin around declares exposures := by
  induction forms with
  | nil => exact inner
  | cons form rest ih => exact ih inner.outer

/-- Exposures that count under a condition. -/
theorem ite (counts : Bool) (within : ExposuresWithin around declares exposures) :
    ExposuresWithin around declares (if counts then exposures else []) := by
  cases counts with
  | true => exact within
  | false => exact nil

end ExposuresWithin

/-- The form that an expression is for all that stands in it, unless it is followed. -/
def Expression.forms : Expression → List Surrounding
  | .function .. | .call .. | .await .. | .parenthesized .. | .sequence .. | .assign .. => []
  | expression => [(.expression, expression.span)]

mutual

/-- The search for declarations finds every declaring call in the open. -/
theorem Expression.exposures_within (called : Bool) (around : List Surrounding)
    (expression : Expression) :
    ExposuresWithin (expression.forms ++ around) (expression.declares interface)
      (expression.exposures interface called around) := by
  cases expression with
  | identifier _ name => exact .nil
  | this _ => exact .nil
  | literal _ value => exact .nil
  | template _ _ holes => exact expressionsExposures_within _ holes
  | array _ elements => exact elementsExposures_within _ elements
  | function _ callback => exact Callback.exposures_within called _ callback
  | call span callee arguments =>
      refine .append (.append ?_ (Expression.exposures_within true _ callee).drop.outer)
        (elementsExposures_within _ arguments).outer
      intro exposure member
      obtain ⟨entry, found, rfl⟩ := List.mem_map.mp member
      rw [Option.mem_toList.mp found]
      exact ⟨rfl, fun _ => id⟩
  | construct _ callee arguments =>
      exact .append (Expression.exposures_within false _ callee).drop
        (elementsExposures_within _ arguments)
  | member _ object _ => exact (Expression.exposures_within false _ object).drop
  | await _ operand => exact (Expression.exposures_within false _ operand).drop
  | parenthesized _ inner => exact (Expression.exposures_within called _ inner).drop
  | sequence _ items => exact expressionsExposures_within _ items
  | assign _ target value =>
      exact .append (Target.exposures_within _ target)
        (Expression.exposures_within false _ value).drop
  | sum _ left right =>
      exact .append (Expression.exposures_within false _ left).drop
        (Expression.exposures_within false _ right).drop
  | negative _ operand => exact (Expression.exposures_within false _ operand).drop
  | other _ parts => exact partsExposures_within _ parts

theorem expressionsExposures_within (around : List Surrounding)
    (expressions : List Expression) :
    ExposuresWithin around (expressionsDeclare interface expressions)
      (expressionsExposures interface around expressions) := by
  cases expressions with
  | nil => exact .nil
  | cons first rest =>
      exact .append (Expression.exposures_within false around first).drop
        (expressionsExposures_within around rest)

theorem Element.exposures_within (around : List Surrounding) (element : Element) :
    ExposuresWithin around (element.declares interface) (element.exposures interface around) := by
  cases element with
  | plain expression => exact (Expression.exposures_within false around expression).drop
  | spread expression => exact (Expression.exposures_within false around expression).drop
  | hole => exact .nil

theorem elementsExposures_within (around : List Surrounding) (elements : List Element) :
    ExposuresWithin around (elementsDeclare interface elements)
      (elementsExposures interface around elements) := by
  cases elements with
  | nil => exact .nil
  | cons first rest =>
      exact .append (Element.exposures_within around first)
        (elementsExposures_within around rest)

theorem Target.exposures_within (around : List Surrounding) (target : Target) :
    ExposuresWithin around (target.declares interface) (target.exposures interface around) := by
  cases target with
  | name name => exact .nil
  | other parts => exact partsExposures_within around parts

theorem targetsExposures_within (around : List Surrounding) (targets : List Target) :
    ExposuresWithin around (targetsDeclare interface targets)
      (targetsExposures interface around targets) := by
  cases targets with
  | nil => exact .nil
  | cons first rest =>
      exact .append (Target.exposures_within around first) (targetsExposures_within around rest)

theorem Part.exposures_within (around : List Surrounding) (part : Part) :
    ExposuresWithin around (part.declares interface) (part.exposures interface around) := by
  cases part with
  | expression expression => exact (Expression.exposures_within false around expression).drop
  | statement statement => exact Statement.exposures_within around statement

theorem partsExposures_within (around : List Surrounding) (parts : List Part) :
    ExposuresWithin around (partsDeclare interface parts)
      (partsExposures interface around parts) := by
  cases parts with
  | nil => exact .nil
  | cons first rest =>
      exact .append (Part.exposures_within around first) (partsExposures_within around rest)

theorem Callback.exposures_within (called : Bool) (around : List Surrounding)
    (callback : Callback) :
    ExposuresWithin around (callback.declares interface)
      (callback.exposures interface called around) := by
  cases callback with
  | block parameters body =>
      exact .append (targetsExposures_within around parameters)
        (.ite called (statementsExposures_within around body))
  | arrow parameters body =>
      exact .append (targetsExposures_within around parameters)
        (.ite called (Expression.exposures_within false around body).drop)

theorem Declarator.exposures_within (around : List Surrounding) (declarator : Declarator) :
    ExposuresWithin around (declarator.declares interface)
      (declarator.exposures interface around) := by
  cases declarator with
  | mk target value =>
      cases value with
      | none => exact Target.exposures_within around target
      | some value =>
          exact .append (Target.exposures_within around target)
            (Expression.exposures_within false around value).drop

theorem declaratorsExposures_within (around : List Surrounding)
    (declarators : List Declarator) :
    ExposuresWithin around (declaratorsDeclare interface declarators)
      (declaratorsExposures interface around declarators) := by
  cases declarators with
  | nil => exact .nil
  | cons first rest =>
      exact .append (Declarator.exposures_within around first)
        (declaratorsExposures_within around rest)

theorem Statement.exposures_within (around : List Surrounding) (statement : Statement) :
    ExposuresWithin around (statement.declares interface)
      (statement.exposures interface around) := by
  cases statement with
  | expression _ expression => exact (Expression.exposures_within false _ expression).drop
  | block _ body => exact statementsExposures_within _ body
  | declaration _ _ declarators => exact declaratorsExposures_within _ declarators
  | function _ _ callback => exact Callback.exposures_within false _ callback
  | exported _ declaration => exact (Statement.exposures_within _ declaration).outer
  | empty _ => exact .nil
  | forOf _ binder iterated body =>
      exact .append (.append (Binder.exposures_within _ binder).outer
        (Expression.exposures_within false _ iterated).drop.outer)
        (Statement.exposures_within _ body).outer
  | throw _ argument => exact (Expression.exposures_within false _ argument).drop
  | other _ parts => exact (partsExposures_within _ parts).outer

theorem statementsExposures_within (around : List Surrounding) (statements : List Statement) :
    ExposuresWithin around (statementsDeclare interface statements)
      (statementsExposures interface around statements) := by
  cases statements with
  | nil => exact .nil
  | cons first rest =>
      exact .append (Statement.exposures_within around first)
        (statementsExposures_within around rest)

theorem Binder.exposures_within (around : List Surrounding) (binder : Binder) :
    ExposuresWithin around (binder.declares interface) (binder.exposures interface around) := by
  cases binder with
  | declaration _ declarators => exact declaratorsExposures_within around declarators
  | target target => exact Target.exposures_within around target

end

end TestInventory
