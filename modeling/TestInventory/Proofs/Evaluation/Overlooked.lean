import TestInventory.Proofs.Evaluation.Exposure
import TestInventory.Proofs.Evaluation.Simulation

/-!
# Where the evaluation does not look

A declaring call in the open that is neither declared nor warned of is lost
without a trace.  The evaluation looks for declarations in most of the code that
it does not follow, but not everywhere.  This module lists, along a run, the
declaring calls in the open at which it does not look.
-/

namespace TestInventory

open TestInventory.Source (Span)
open Evaluating

namespace Setting

variable {σ : Type} (setting : Setting σ)

section Overlooked

variable (activate : Activation σ)

/--
The declaring calls in the open in the parts of a call that are not looked at:
its callee, and its arguments unless the call is skipped.
-/
def overlookedParts (scopes : Scopes) (scope : Nat) (around : List Surrounding) (span : Span)
    (callee : Expression) (arguments : List Element) : List Exposure :=
  callee.exposures setting.interface true ((.call, span) :: around) ++
    match setting.treatment scopes scope callee arguments with
    | .skipped _ => []
    | _ => elementsExposures setting.interface ((.call, span) :: around) arguments

mutual

/-- The declaring calls in the open that running an expression does not look at. -/
def overlookedExpression (place : Place) (around : List Surrounding) :
    Expression → Progress σ → List Exposure
  | .call span callee arguments, before =>
    match callee with
    | .member at_ (.call inner callee given) _ =>
      overlookedExpression place ((.expression, at_) :: (.call, span) :: around)
        (.call inner callee given) before
    | callee =>
      setting.overlookedParts before.scopes place.scope around span callee arguments
  | .await _ operand, before => overlookedExpression place around operand before
  | .parenthesized _ inner, before => overlookedExpression place around inner before
  | .sequence _ items, before => overlookedExpressions place around items before
  | .assign _ target value, before =>
    target.exposures setting.interface around ++ overlookedExpression place around value before
  | .function _ callback, _ => callback.exposures setting.interface false around
  | _, _ => []

/-- The declaring calls in the open that running expressions does not look at. -/
def overlookedExpressions (place : Place) (around : List Surrounding) :
    List Expression → Progress σ → List Exposure
  | [], _ => []
  | first :: rest, before =>
    overlookedExpression place around first before ++
      overlookedExpressions place around rest
        (setting.runExpression activate place first before).2

end

/-- The declaring calls in the open that declaring variables does not look at. -/
def overlookedDeclarators (place : Place) (hoisted : Bool) (around : List Surrounding) :
    List Declarator → Progress σ → List Exposure
  | [], _ => []
  | .mk target value :: rest, before =>
    target.exposures setting.interface around ++
      (match value with
        | none => []
        | some value => setting.overlookedExpression activate place around value before) ++
      overlookedDeclarators place hoisted around rest
        (setting.runDeclarators activate place hoisted [.mk target value] before).2

/-- What all passes of a loop overlook of the exposures in its body. -/
def overlookedPasses {ι : Type} (exposures : List Exposure)
    (overlooked : ι → Progress σ → List Exposure) (pass : ι → Evaluating σ Unit) :
    List ι → Progress σ → List Exposure
  | [], _ => exposures
  | item :: rest, before =>
    (overlooked item before).filter
      (· ∈ overlookedPasses exposures overlooked pass rest (pass item before).2)

/-- Go into a block, and on to what follows. -/
def inBlock (place : Place) (next : Place → Evaluating σ Unit) : Evaluating σ Unit := do
  let scope ← openScope place.scope false
  next { place with scope }

mutual

/-- The declaring calls in the open that running a statement does not look at. -/
def overlookedStatement (place : Place) (around : List Surrounding) :
    Statement → Progress σ → List Exposure
  | .expression _ expression, before =>
    setting.overlookedExpression activate place around expression before
  | .block _ body, before =>
    overlookedStatements { place with scope := before.scopes.size } around body
      (inBlock place (hoist · body) before).2
  | .declaration _ hoisted declarators, before =>
    setting.overlookedDeclarators activate place hoisted around declarators before
  | .function _ _ callback, _ => callback.exposures setting.interface false around
  | .exported span declaration, before =>
    match declaration with
    | .declaration _ hoisted declarators =>
      setting.overlookedDeclarators activate place hoisted ((.exported, span) :: around)
        declarators before
    | .function _ _ callback =>
      callback.exposures setting.interface false ((.exported, span) :: around)
    | _ => []
  | .forOf span binder iterated body, before =>
    binder.exposures setting.interface ((.loop, span) :: around) ++
      iterated.exposures setting.interface false ((.loop, span) :: around) ++
      match (iterated.binding before.scopes place.scope).items? with
      | none => []
      | some items =>
        overlookedPasses (body.exposures setting.interface ((.loop, span) :: around))
          (fun item before => overlookedStatement { place with scope := before.scopes.size }
            ((.loop, span) :: around) body
            (inBlock place (bindItem · binder item) before).2)
          (fun item => inBlock place fun inner => do
            bindItem inner binder item
            setting.runStatement activate inner body)
          items before
  | _, _ => []

/-- The declaring calls in the open that running statements does not look at. -/
def overlookedStatements (place : Place) (around : List Surrounding) :
    List Statement → Progress σ → List Exposure
  | [], _ => []
  | first :: rest, before =>
    overlookedStatement place around first before ++
      overlookedStatements place around rest
        (setting.runStatement activate place first before).2

end

/-- The declaring calls in the open that running a body does not look at. -/
def overlookedBody (place : Place) (body : List Statement) (before : Progress σ) :
    List Exposure :=
  setting.overlookedStatements activate place [] body (hoist place body before).2

end Overlooked

/-- The declaring calls in the open that the evaluation of a program does not look at. -/
def overlooked (limit : Nat) (program : Program) : List Exposure :=
  let observed := setting.withListener Signal.observer
  observed.overlookedBody (observed.activation limit) { scope := Scopes.file } program.statements
    ⟨.initial, []⟩

/-! ## Only declaring calls in the open are overlooked -/

section Subset

variable {setting} (activate : Activation σ)

theorem append_subset_append {first first' second second' : List Exposure}
    (left : first ⊆ first') (right : second ⊆ second') : first ++ second ⊆ first' ++ second' :=
  List.append_subset.mpr
    ⟨List.Subset.trans left (List.subset_append_left _ _),
      List.Subset.trans right (List.subset_append_right _ _)⟩

theorem overlookedParts_subset (scopes : Scopes) (scope : Nat) (around : List Surrounding)
    (span : Span) (callee : Expression) (arguments : List Element) :
    setting.overlookedParts scopes scope around span callee arguments ⊆
      (Expression.call span callee arguments).exposures setting.interface false around := by
  intro exposure member
  rcases List.mem_append.mp member with inCallee | inArguments
  · exact List.mem_append_left _ (List.mem_append_right _ inCallee)
  · refine List.mem_append_right _ ?_
    cases treated : setting.treatment scopes scope callee arguments <;>
      rw [treated] at inArguments
    case skipped => exact absurd inArguments List.not_mem_nil
    all_goals exact inArguments

mutual

theorem overlookedExpression_subset (place : Place) (around : List Surrounding)
    (expression : Expression) (before : Progress σ) :
    setting.overlookedExpression activate place around expression before ⊆
      expression.exposures setting.interface false around := by
  cases expression with
  | call span callee arguments =>
      have whole := setting.overlookedParts_subset before.scopes place.scope around span callee
        arguments
      cases callee with
      | member at_ object property =>
          cases object with
          | call inner callee given =>
              have object := overlookedExpression_subset place
                ((.expression, at_) :: (.call, span) :: around) (.call inner callee given) before
              exact fun _ member =>
                List.mem_append_left _ (List.mem_append_right _ (object member))
          | _ => exact whole
      | _ => exact whole
  | await _ operand => exact overlookedExpression_subset place around operand before
  | parenthesized _ inner => exact overlookedExpression_subset place around inner before
  | sequence _ items => exact overlookedExpressions_subset place around items before
  | assign _ target value =>
      exact append_subset_append (List.Subset.refl _)
        (overlookedExpression_subset place around value before)
  | function _ callback => exact List.Subset.refl _
  | _ => exact List.nil_subset _
termination_by sizeOf expression

theorem overlookedExpressions_subset (place : Place) (around : List Surrounding)
    (expressions : List Expression) (before : Progress σ) :
    setting.overlookedExpressions activate place around expressions before ⊆
      expressionsExposures setting.interface around expressions := by
  cases expressions with
  | nil => exact List.nil_subset _
  | cons first rest =>
      exact append_subset_append (overlookedExpression_subset place around first before)
        (overlookedExpressions_subset place around rest _)
termination_by sizeOf expressions

end

theorem overlookedDeclarators_subset (place : Place) (hoisted : Bool)
    (around : List Surrounding) (declarators : List Declarator) (before : Progress σ) :
    setting.overlookedDeclarators activate place hoisted around declarators before ⊆
      declaratorsExposures setting.interface around declarators := by
  induction declarators generalizing before with
  | nil => exact List.nil_subset _
  | cons first rest ih =>
      cases first with
      | mk target value =>
          refine append_subset_append ?_ (ih _)
          cases value with
          | none => exact (List.append_nil _).symm ▸ List.Subset.refl _
          | some value =>
              exact append_subset_append (List.Subset.refl _)
                (overlookedExpression_subset activate place around value before)

theorem overlookedPasses_subset {ι : Type} {exposures : List Exposure}
    {overlooked : ι → Progress σ → List Exposure} (pass : ι → Evaluating σ Unit)
    (inside : ∀ item before, overlooked item before ⊆ exposures) (items : List ι)
    (before : Progress σ) :
    overlookedPasses exposures overlooked pass items before ⊆ exposures := by
  cases items with
  | nil => exact List.Subset.refl _
  | cons item rest => exact List.Subset.trans List.filter_sublist.subset (inside item before)

mutual

theorem overlookedStatement_subset (place : Place) (around : List Surrounding)
    (statement : Statement) (before : Progress σ) :
    setting.overlookedStatement activate place around statement before ⊆
      statement.exposures setting.interface around := by
  cases statement with
  | expression _ expression => exact overlookedExpression_subset activate place around _ before
  | block _ body => exact overlookedStatements_subset _ around body _
  | declaration _ hoisted declarators =>
      exact overlookedDeclarators_subset activate place hoisted around declarators before
  | function _ _ callback => exact List.Subset.refl _
  | exported span declaration =>
      cases declaration with
      | declaration _ hoisted declarators =>
          exact overlookedDeclarators_subset activate place hoisted _ declarators before
      | function _ _ callback => exact List.Subset.refl _
      | _ => exact List.nil_subset _
  | empty _ => exact List.nil_subset _
  | forOf span binder iterated body =>
      refine append_subset_append (List.Subset.refl _) ?_
      cases (iterated.binding before.scopes place.scope).items? with
      | none => exact List.nil_subset _
      | some items =>
          exact overlookedPasses_subset _
            (fun _ _ => overlookedStatement_subset _ ((.loop, span) :: around) body _) items before
  | throw _ argument => exact List.nil_subset _
  | other _ parts => exact List.nil_subset _

theorem overlookedStatements_subset (place : Place) (around : List Surrounding)
    (statements : List Statement) (before : Progress σ) :
    setting.overlookedStatements activate place around statements before ⊆
      statementsExposures setting.interface around statements := by
  cases statements with
  | nil => exact List.nil_subset _
  | cons first rest =>
      exact append_subset_append (overlookedStatement_subset place around first before)
        (overlookedStatements_subset place around rest _)

end

end Subset

end Setting

end TestInventory
