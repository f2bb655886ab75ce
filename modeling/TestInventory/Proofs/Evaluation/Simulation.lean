import TestInventory.Proofs.Evaluation.Outline
import TestInventory.Proofs.Evaluation.Treatment
import TestInventory.Proofs.Signal

/-!
# A program and its outline, before two listeners

The evaluation of a program before one listener and that of its outline before
another keep pace.  The scopes of the second run are the outlines of those of
the first, and the states of the listeners stay related, provided that the
listeners hear alike.
-/

namespace TestInventory

open TestInventory.Source (Span)
open Evaluating

variable {σ τ : Type}

/-- Two listeners hear alike: from related states they admit the same and reach related states. -/
structure Listener.Alike (first : Listener σ) (second : Listener τ) (related : σ → τ → Prop) :
    Prop where
  admission : ∀ call s t, related s t → (first.suite call s).1 = (second.suite call t).1
  suite : ∀ call s t, related s t → related (first.suite call s).2 (second.suite call t).2
  leave : ∀ call outcome s t, related s t →
    related (first.leave call outcome s) (second.leave call outcome t)
  test : ∀ call s t, related s t → related (first.test call s) (second.test call t)
  hook : ∀ call s t, related s t → related (first.hook call s) (second.hook call t)
  notice : ∀ note s t, related s t → related (first.notice note s) (second.notice note t)

/-- A listener hears like itself. -/
theorem Listener.alike_self (listener : Listener σ) : listener.Alike listener Eq where
  admission _ _ _ same := same ▸ rfl
  suite _ _ _ same := same ▸ rfl
  leave _ _ _ _ same := same ▸ rfl
  test _ _ _ same := same ▸ rfl
  hook _ _ _ same := same ▸ rfl
  notice _ _ _ same := same ▸ rfl

/-- The setting with another listener. -/
def Setting.withListener (setting : Setting σ) (listener : Listener τ) : Setting τ :=
  { file := setting.file
    interface := setting.interface
    resolver := setting.resolver
    listener }

@[simp]
theorem Setting.file_withListener (setting : Setting σ) (listener : Listener τ) :
    (setting.withListener listener).file = setting.file := rfl

@[simp]
theorem Setting.listener_withListener (setting : Setting σ) (listener : Listener τ) :
    (setting.withListener listener).listener = listener := rfl

/-- What the second run has made when the first has made something. -/
structure Mirrors (interface : Interface) (related : σ → τ → Prop) (first : Progress σ)
    (second : Progress τ) : Prop where
  scopes : second.scopes = first.scopes.outline interface
  heard : related first.heard second.heard

/-- Steps of the two runs that keep pace. -/
abbrev KeepPace (interface : Interface) (related : σ → τ → Prop) {α β : Type}
    (valued : α → β → Prop) (first : Evaluating σ α) (second : Evaluating τ β) : Prop :=
  Agree (Mirrors interface related) valued first second

/-- Ways to run closures that keep pace. -/
def Activation.KeepPace (interface : Interface) (related : σ → τ → Prop)
    (first : Activation σ) (second : Activation τ) : Prop :=
  ∀ closure arguments span suites,
    TestInventory.KeepPace interface related Eq (first closure arguments span suites)
      (second (closure.outline interface) (bindingsOutline interface arguments) span suites)

namespace Evaluating

variable {interface : Interface} {related : σ → τ → Prop}

theorem scopes_keepPace :
    KeepPace interface related (fun first second => second = first.outline interface)
      (scopes : Evaluating σ Scopes) (scopes : Evaluating τ Scopes) :=
  fun _ _ mirrors => ⟨mirrors.scopes, mirrors⟩

theorem modifyScopes_keepPace {change change' : Scopes → Scopes}
    (same : ∀ scopes, change' (scopes.outline interface) = (change scopes).outline interface) :
    KeepPace interface related Eq (modifyScopes change : Evaluating σ Unit)
      (modifyScopes change' : Evaluating τ Unit) :=
  .modify fun before _ mirrors => ⟨mirrors.scopes ▸ same before.scopes, mirrors.heard⟩

theorem tell_keepPace {hear : σ → σ} {hear' : τ → τ}
    (keeps : ∀ s t, related s t → related (hear s) (hear' t)) :
    KeepPace interface related Eq (tell hear) (tell hear') :=
  .modify fun _ _ mirrors => ⟨mirrors.scopes, keeps _ _ mirrors.heard⟩

theorem openScope_keepPace (parent : Nat) (ofFunction : Bool) :
    KeepPace interface related Eq (openScope parent ofFunction : Evaluating σ Nat)
      (openScope parent ofFunction : Evaluating τ Nat) := by
  refine scopes_keepPace.bind fun made made' same => ?_
  refine .andThen (modifyScopes_keepPace fun scopes => ?_) (.pure ?_)
  · exact scopes.add_outline parent ofFunction
  · rw [same, Scopes.size_outline]

end Evaluating

/-! ## Treatments -/

/-- The outline of a treatment. -/
def Treatment.outline (interface : Interface) : Treatment → Treatment
  | .configured => .configured
  | .chained object => .chained (object.outline interface false)
  | .iterated items closure =>
    .iterated (bindingsOutline interface items) (closure.outline interface)
  | .declared entry => .declared entry
  | .activated closure => .activated (closure.outline interface)
  | .skipped callee => .skipped callee

namespace Setting

theorem namedTreatment_outline (setting : Setting σ) (other : Listener τ) (scopes : Scopes)
    (scope : Nat) (name : String) (modifier : Option String) :
    (setting.withListener other).namedTreatment (scopes.outline setting.interface) scope name
        modifier =
      (setting.namedTreatment scopes scope name modifier).outline setting.interface := by
  have same : (setting.withListener other).interface = setting.interface := rfl
  simp only [namedTreatment, same]
  cases setting.interface.classify name modifier with
  | some entry => rfl
  | none =>
      cases modifier with
      | some word => rfl
      | none =>
          simp only [Option.isNone_none, if_true, Scopes.closure?_lookup_outline]
          cases (scopes.lookup scope name).bind Binding.closure? <;> rfl

theorem iteratedTreatment_outline {interface : Interface} (scopes : Scopes) (scope : Nat)
    (iterated : Expression) (arguments : List Element) :
    iteratedTreatment (scopes.outline interface) scope (iterated.outline interface false)
        (elementsOutline interface none arguments) =
      (iteratedTreatment scopes scope iterated arguments).outline interface := by
  unfold iteratedTreatment
  rw [Expression.binding_outline, Binding.items?_outline, Element.closureAt?_outline]
  cases (iterated.binding scopes scope).items? with
  | none => rfl
  | some items => cases Element.closureAt? scopes scope arguments 0 <;> rfl

theorem memberTreatment_outline (setting : Setting σ) (other : Listener τ) (scopes : Scopes)
    (scope : Nat) (object : Expression) (property : String) (bareFrom : Option Nat)
    (whole : property = "forEach" → bareFrom = none) (arguments : List Element) :
    (setting.withListener other).memberTreatment (scopes.outline setting.interface) scope
        (object.outline setting.interface false) property
        (elementsOutline setting.interface bareFrom arguments) =
      (setting.memberTreatment scopes scope object property arguments).outline
        setting.interface := by
  unfold memberTreatment
  by_cases each : property = "forEach"
  · rw [if_pos each, if_pos each, whole each]
    exact iteratedTreatment_outline scopes scope object arguments
  · rw [if_neg each, if_neg each]
    cases object with
    | identifier _ name => exact setting.namedTreatment_outline other scopes scope name property
    | _ => rfl

/-- The outline of a call is treated as the call is. -/
theorem treatment_outline (setting : Setting σ) (other : Listener τ) (scopes : Scopes)
    (scope : Nat) (callee : Expression) (arguments : List Element) :
    (setting.withListener other).treatment (scopes.outline setting.interface) scope
        (callee.outline setting.interface false)
        (elementsOutline setting.interface (setting.interface.opaqueFrom? callee) arguments) =
      (setting.treatment scopes scope callee arguments).outline setting.interface := by
  cases callee with
  | identifier _ name => exact setting.namedTreatment_outline other scopes scope name none
  | member span object property =>
      have whole : property = "forEach" →
          setting.interface.opaqueFrom? (.member span object property) = none := fun each =>
        setting.interface.opaqueFrom?_eq_none _
          (each ▸ setting.interface.entryOf?_forEach span object)
      have member := setting.memberTreatment_outline other scopes scope object property _ whole
        arguments
      cases object with
      | this => rfl
      | call => rfl
      | _ => exact member
  | _ => rfl

variable {setting : Setting σ} {other : Listener τ} {related : σ → τ → Prop}

variable {interface : Interface}

/-! ## Names -/

theorem bindFunction_keepPace (place : Place) (name : String) (callback : Callback) :
    KeepPace interface related Eq
      (hoist.bindFunction place name callback : Evaluating σ Unit)
      (hoist.bindFunction place name (callback.outline interface false) : Evaluating τ Unit) :=
  modifyScopes_keepPace fun scopes =>
    scopes.bindIn_outline place.scope name (.callback ⟨callback, place.scope⟩)

theorem hoist_keepPace (place : Place) (statements : List Statement) :
    KeepPace interface related Eq (hoist place statements : Evaluating σ Unit)
      (hoist place (statementsOutline interface statements) : Evaluating τ Unit) := by
  induction statements with
  | nil => exact .pure rfl
  | cons statement rest ih =>
      have bound := fun name callback =>
        (bindFunction_keepPace place name callback).andThen ih
      cases statement with
      | function _ name callback =>
          cases name with
          | none => exact ih
          | some name => exact bound name callback
      | exported _ declaration =>
          cases declaration with
          | function _ name callback =>
              cases name with
              | none => exact ih
              | some name => exact bound name callback
          | _ => exact ih
      | _ => exact ih

theorem declareName_keepPace (place : Place) (hoisted : Bool) (name : String)
    (binding : Binding) :
    KeepPace interface related Eq
      (modifyScopes (·.declare place.scope hoisted name binding) : Evaluating σ Unit)
      (modifyScopes (·.declare place.scope hoisted name (binding.outline interface)) :
        Evaluating τ Unit) :=
  modifyScopes_keepPace fun scopes => scopes.declare_outline place.scope hoisted name binding

theorem bindItem_keepPace (place : Place) (binder : Binder) (item : Binding) :
    KeepPace interface related Eq (bindItem place binder item : Evaluating σ Unit)
      (bindItem place (binder.outline interface) (item.outline interface) :
        Evaluating τ Unit) := by
  cases binder with
  | declaration hoisted declarators =>
      simp only [bindItem, Binder.outline, declaratorsOutline_eq_map]
      refine .forM _ (fun declarator => ?_) declarators
      cases declarator with
      | mk target value =>
          cases target with
          | name name =>
              cases value <;> exact declareName_keepPace place hoisted name item
          | other parts => cases value <;> exact .pure rfl
  | target target =>
      cases target with
      | name name =>
          exact modifyScopes_keepPace fun scopes => scopes.assign_outline place.scope name item
      | other parts => exact .pure rfl

theorem bindParameters_keepPace (scope : Nat) (targets : List Target) (arguments : List Binding) :
    KeepPace interface related Eq (bindParameters scope targets arguments : Evaluating σ Unit)
      (bindParameters scope (targetsOutline interface targets)
        (bindingsOutline interface arguments) : Evaluating τ Unit) := by
  induction targets generalizing arguments with
  | nil => exact .pure rfl
  | cons target targets ih =>
      have first : bindingsOutline interface arguments.tail =
            (bindingsOutline interface arguments).tail ∧
          (arguments.head?.getD .unknown).outline interface =
            (bindingsOutline interface arguments).head?.getD .unknown := by
        cases arguments <;> exact ⟨rfl, rfl⟩
      have rest := ih arguments.tail
      rw [first.1] at rest
      cases target with
      | name name =>
          refine .andThen (modifyScopes_keepPace fun scopes => ?_) rest
          rw [← first.2]
          exact scopes.bindIn_outline scope name _
      | other parts => exact rest

/-! ## Declarations and calls -/

section Listening

variable (alike : setting.listener.Alike other related)
include alike

theorem notice_keepPace (note : Notice) :
    KeepPace setting.interface related Eq (setting.notice note)
      ((setting.withListener other).notice note) :=
  tell_keepPace (alike.notice note)

theorem warnIf_keepPace {declares declares' : Bool} (same : declares' = declares) (span : Span)
    (construct : Construct) :
    KeepPace setting.interface related Eq (setting.warnIf declares span construct)
      ((setting.withListener other).warnIf declares' span construct) := by
  subst same
  cases declares' with
  | false => exact .pure rfl
  | true => exact notice_keepPace alike _

theorem skipCall_keepPace (span : Span) (arguments : List Element) :
    KeepPace setting.interface related Eq (setting.skipCall span arguments)
      ((setting.withListener other).skipCall span
        (elementsOutline setting.interface none arguments)) :=
  warnIf_keepPace alike (elementsDeclare_outline arguments) span .call

theorem nameArgument_keepPace (place : Place) (bareFrom : Option Nat) (kept : bareFrom ≠ some 0)
    (arguments : List Element) :
    KeepPace setting.interface related Eq (setting.nameArgument place arguments)
      ((setting.withListener other).nameArgument place
        (elementsOutline setting.interface bareFrom arguments)) := by
  unfold nameArgument
  rw [head?_elementsOutline bareFrom arguments kept]
  cases arguments.head?.bind Element.plain? with
  | none => exact .pure rfl
  | some expression =>
      refine scopes_keepPace.bind fun scopes scopes' same => ?_
      rw [same, expression.value?_outline]
      cases expression.value? scopes place.scope with
      | some value => exact .pure rfl
      | none =>
          rw [expression.span_outline]
          exact (notice_keepPace alike _).andThen (.pure rfl)

theorem openSuite_keepPace (call : SuiteCall) {body : Evaluating σ Unit}
    {body' : Evaluating τ Unit} (bodies : KeepPace setting.interface related Eq body body') :
    KeepPace setting.interface related Eq (setting.openSuite call body)
      ((setting.withListener other).openSuite call body') := by
  intro before before' mirrors
  have admitted := alike.admission call _ _ mirrors.heard
  have entered := alike.suite call _ _ mirrors.heard
  rw [openSuite_apply, openSuite_apply, listener_withListener]
  cases told : setting.listener.suite call before.heard with
  | mk admission heard =>
      cases told' : other.suite call before'.heard with
      | mk admission' heard' =>
          rw [told, told'] at admitted entered
          cases admitted
          cases admission with
          | refuse error => exact ⟨rfl, mirrors.scopes, entered⟩
          | pass => exact ⟨rfl, mirrors.scopes, entered⟩
          | enter =>
              obtain ⟨outcomes, after⟩ := bodies { before with heard }
                { before' with heard := heard' } ⟨mirrors.scopes, entered⟩
              refine ⟨outcomes, after.scopes, ?_⟩
              show related (setting.listener.leave call _ _) (other.leave call _ _)
              rw [ResultsAgree.iff_eq.mp outcomes]
              exact alike.leave call _ _ _ after.heard

/-- A declaration does not depend on the bodies that its call never runs. -/
theorem declare_keepPace {activate : Activation σ} {activate' : Activation τ}
    (activations : activate.KeepPace setting.interface related activate') (place : Place)
    (span : Span) (entry : Entry) (arguments : List Element) :
    KeepPace setting.interface related Eq (setting.declare activate place span entry arguments)
      ((setting.withListener other).declare activate' place span entry
        (elementsOutline setting.interface entry.opaqueFrom? arguments)) := by
  cases entry with
  | suite variant =>
      refine (nameArgument_keepPace alike place none nofun arguments).bind ?_
      rintro name _ rfl
      refine scopes_keepPace.bind fun scopes scopes' same => ?_
      rw [same, Entry.opaqueFrom?, Element.closureAt?_outline]
      cases Element.closureAt? scopes place.scope arguments 1 with
      | some closure =>
          exact openSuite_keepPace alike _ (activations closure [] span _)
      | none =>
          by_cases pending : variant = .skip
          · simp only [if_pos pending, Option.map_none]
            exact openSuite_keepPace alike _ (.pure rfl)
          · simp only [if_neg pending, Option.map_none]
            exact .throw _
  | test variant =>
      refine (nameArgument_keepPace alike place (some 1) nofun arguments).bind ?_
      rintro name _ rfl
      refine scopes_keepPace.bind fun scopes scopes' same => ?_
      rw [same, Entry.opaqueFrom?, Element.isSome_closureAt?_outline]
      exact tell_keepPace (alike.test _)
  | hook hook =>
      refine scopes_keepPace.bind fun scopes scopes' same => ?_
      simp only [same, Entry.opaqueFrom?, Element.isSome_closureAt?_outline,
        length_elementsOutline]
      exact tell_keepPace (alike.hook _)

/-- What is done with a call and with its outline; `chained` is about the call it continues. -/
theorem perform_keepPace {activate : Activation σ} {activate' : Activation τ}
    (activations : activate.KeepPace setting.interface related activate') (place : Place)
    (span : Span) (arguments : List Element) (treatment : Treatment)
    (chained : ∀ object, treatment = .chained object →
      KeepPace setting.interface related Eq (setting.runExpression activate place object)
        ((setting.withListener other).runExpression activate' place
          (object.outline setting.interface false))) :
    KeepPace setting.interface related Eq (setting.perform activate place span arguments treatment)
      ((setting.withListener other).perform activate' place span
        (elementsOutline setting.interface (treatment.declared?.bind Entry.opaqueFrom?) arguments)
        (treatment.outline setting.interface)) := by
  cases treatment with
  | configured => exact .pure rfl
  | chained object =>
      exact (chained object rfl).andThen (skipCall_keepPace alike span arguments)
  | iterated items closure =>
      simp only [perform, Treatment.outline, bindingsOutline_eq_map, List.zipIdx_map]
      refine .forM _ (fun item => ?_) items.zipIdx
      exact activations closure [item.1, .value (.number (Float.ofNat item.2))] span place.suites
  | declared entry => exact declare_keepPace alike activations place span entry arguments
  | activated closure =>
      refine scopes_keepPace.bind fun scopes scopes' same => ?_
      rw [same]
      show KeepPace setting.interface related Eq _ (activate' _ (elementBindings _ _
        (elementsOutline setting.interface none arguments)) _ _)
      rw [elementBindings_outline]
      exact activations closure _ span place.suites
  | skipped callee =>
      have rest := skipCall_keepPace alike span arguments
      cases callee with
      | none => exact rest
      | some name => exact (notice_keepPace alike (.skipped name)).andThen rest

end Listening

/-! ## Expressions and statements -/

variable {activate : Activation σ} {activate' : Activation τ}

mutual

theorem runExpression_keepPace (alike : setting.listener.Alike other related)
    (activations : activate.KeepPace setting.interface related activate') (place : Place)
    (expression : Expression) :
    KeepPace setting.interface related Eq (setting.runExpression activate place expression)
      ((setting.withListener other).runExpression activate' place
        (expression.outline setting.interface false)) := by
  cases expression with
  | call span callee arguments =>
      intro before before' mirrors
      obtain ⟨entry, continued⟩ :=
        setting.treatment_spec before.scopes place.scope callee arguments
      have kept := perform_keepPace alike activations place span arguments
        (setting.treatment before.scopes place.scope callee arguments) fun object chained => by
          rw [chained] at continued
          have smaller := Expression.sizeOf_receiver? continued.symm
          exact runExpression_keepPace alike activations place object
      rw [Expression.outline, runExpression_call, runExpression_call, mirrors.scopes,
        treatment_outline]
      rw [entry] at kept
      exact kept before before' mirrors
  | await _ operand => exact runExpression_keepPace alike activations place operand
  | parenthesized _ inner => exact runExpression_keepPace alike activations place inner
  | sequence _ items => exact runExpressions_keepPace alike activations place items
  | assign _ target value =>
      have ran := runExpression_keepPace alike activations place value
      cases target with
      | name name =>
          refine ran.andThen (scopes_keepPace.bind fun scopes scopes' same => ?_)
          rw [same, value.binding_outline]
          exact modifyScopes_keepPace fun scopes => scopes.assign_outline place.scope name _
      | other parts => exact ran.andThen (.pure rfl)
  | function _ callback => exact .pure rfl
  | _ => exact warnIf_keepPace alike (Expression.declares_outline _) _ .expression
termination_by sizeOf expression

theorem runExpressions_keepPace (alike : setting.listener.Alike other related)
    (activations : activate.KeepPace setting.interface related activate') (place : Place)
    (expressions : List Expression) :
    KeepPace setting.interface related Eq (setting.runExpressions activate place expressions)
      ((setting.withListener other).runExpressions activate' place
        (expressionsOutline setting.interface expressions)) := by
  cases expressions with
  | nil => exact .pure rfl
  | cons first rest =>
      exact (runExpression_keepPace alike activations place first).andThen
        (runExpressions_keepPace alike activations place rest)
termination_by sizeOf expressions

end

theorem runDeclarators_keepPace (alike : setting.listener.Alike other related)
    (activations : activate.KeepPace setting.interface related activate') (place : Place)
    (hoisted : Bool) (declarators : List Declarator) :
    KeepPace setting.interface related Eq
      (setting.runDeclarators activate place hoisted declarators)
      ((setting.withListener other).runDeclarators activate' place hoisted
        (declaratorsOutline setting.interface declarators)) := by
  induction declarators with
  | nil => exact .pure rfl
  | cons declarator rest ih =>
      have declared := fun name (binding : Binding) =>
        (declareName_keepPace place hoisted name binding).andThen ih
      cases declarator with
      | mk target value =>
          cases value with
          | none =>
              cases target with
              | name name => exact declared name .unknown
              | other parts => exact ih
          | some value =>
              refine (runExpression_keepPace alike activations place value).andThen
                (scopes_keepPace.bind fun scopes scopes' same => ?_)
              cases target with
              | name name =>
                  rw [same, value.binding_outline]
                  exact declared name (value.binding scopes place.scope)
              | other parts => exact ih

/-- What a thrown expression says can be read off its outline. -/
theorem thrownMessage_outline (setting : Setting σ) (other : Listener τ) (scopes : Scopes)
    (place : Place) (thrown : Expression) :
    (setting.withListener other).thrownMessage (scopes.outline setting.interface) place
        (thrown.outline setting.interface false) =
      setting.thrownMessage scopes place thrown := by
  unfold thrownMessage
  rw [thrown.value?_outline, thrown.span_outline]
  cases thrown with
  | construct span callee arguments =>
      simp only [Expression.outline]
      rw [head?_elementsOutline none arguments nofun]
      cases arguments.head?.bind Element.plain? with
      | none => rfl
      | some given =>
          simp only [Option.map_some, Option.bind_some, given.value?_outline]
          rfl
  | _ => rfl

/-- The items over which a loop runs, in the program and in its outline. -/
theorem items_outline {interface : Interface} (scopes : Scopes) (scope : Nat)
    (iterated : Expression) :
    ((iterated.outline interface false).binding (scopes.outline interface) scope).items? =
      (iterated.binding scopes scope).items?.map fun items =>
        items.map (Binding.outline interface) := by
  rw [iterated.binding_outline, Binding.items?_outline]
  simp only [funext bindingsOutline_eq_map]

mutual

theorem runStatement_keepPace (alike : setting.listener.Alike other related)
    (activations : activate.KeepPace setting.interface related activate') (place : Place)
    (statement : Statement) :
    KeepPace setting.interface related Eq (setting.runStatement activate place statement)
      ((setting.withListener other).runStatement activate' place
        (statement.outline setting.interface)) := by
  cases statement with
  | expression _ expression => exact runExpression_keepPace alike activations place expression
  | block _ body =>
      refine (openScope_keepPace place.scope false).bind ?_
      rintro scope _ rfl
      exact (hoist_keepPace _ body).andThen (runStatements_keepPace alike activations _ body)
  | declaration _ hoisted declarators =>
      exact runDeclarators_keepPace alike activations place hoisted declarators
  | function _ _ callback => exact .pure rfl
  | exported span declaration =>
      cases declaration with
      | declaration _ hoisted declarators =>
          exact runDeclarators_keepPace alike activations place hoisted declarators
      | function _ _ callback => exact .pure rfl
      | _ => exact warnIf_keepPace alike (Statement.declares_outline _) span .exported
  | empty _ => exact .pure rfl
  | forOf span binder iterated body =>
      refine scopes_keepPace.bind fun scopes scopes' same => ?_
      rw [same, items_outline]
      cases (iterated.binding scopes place.scope).items? with
      | none => exact warnIf_keepPace alike body.declares_outline span .loop
      | some items =>
          refine .forM _ (fun item => ?_) items
          refine (openScope_keepPace place.scope false).bind ?_
          rintro scope _ rfl
          exact (bindItem_keepPace _ binder item).andThen
            (runStatement_keepPace alike activations _ body)
  | throw span argument =>
      refine scopes_keepPace.bind fun scopes scopes' same => ?_
      rw [same, thrownMessage_outline]
      exact .throw _
  | other span parts => exact warnIf_keepPace alike (partsDeclare_outline parts) span .statement

theorem runStatements_keepPace (alike : setting.listener.Alike other related)
    (activations : activate.KeepPace setting.interface related activate') (place : Place)
    (statements : List Statement) :
    KeepPace setting.interface related Eq (setting.runStatements activate place statements)
      ((setting.withListener other).runStatements activate' place
        (statementsOutline setting.interface statements)) := by
  cases statements with
  | nil => exact .pure rfl
  | cons first rest =>
      exact (runStatement_keepPace alike activations place first).andThen
        (runStatements_keepPace alike activations place rest)

end

theorem runBody_keepPace (alike : setting.listener.Alike other related)
    (activations : activate.KeepPace setting.interface related activate') (place : Place)
    (body : List Statement) :
    KeepPace setting.interface related Eq (setting.runBody activate place body)
      ((setting.withListener other).runBody activate' place
        (statementsOutline setting.interface body)) :=
  (hoist_keepPace place body).andThen (runStatements_keepPace alike activations place body)

/-! ## Whole runs -/

/-- Closures and their outlines keep pace, however many activations remain. -/
theorem activation_keepPace (alike : setting.listener.Alike other related) (remaining : Nat) :
    (setting.activation remaining).KeepPace setting.interface related
      ((setting.withListener other).activation remaining) := by
  induction remaining with
  | zero => exact fun _ _ _ _ => .throw _
  | succ remaining ih =>
      intro closure arguments span suites
      refine (openScope_keepPace closure.scope true).bind ?_
      rintro scope _ rfl
      cases closure with
      | mk callback created =>
          cases callback with
          | block parameters body =>
              exact (bindParameters_keepPace scope parameters arguments).andThen
                (runBody_keepPace alike ih _ body)
          | arrow parameters body =>
              exact (bindParameters_keepPace scope parameters arguments).andThen
                (runExpression_keepPace alike ih _ body)

/--
The evaluation of a program and that of its outline end alike, and leave
listeners that hear alike in related states.
-/
theorem evaluate_keepPace (alike : setting.listener.Alike other related) (limit : Nat)
    (program : Program) {heard : σ} {heard' : τ} (start : related heard heard') :
    (setting.evaluate limit program heard).1 =
        ((setting.withListener other).evaluate limit (program.outline setting.interface)
          heard').1 ∧
      related (setting.evaluate limit program heard).2
        ((setting.withListener other).evaluate limit (program.outline setting.interface)
          heard').2 := by
  have kept := runBody_keepPace alike (activation_keepPace alike limit) { scope := Scopes.file }
    program.statements
  obtain ⟨outcomes, after⟩ := kept ⟨.initial, heard⟩ ⟨.initial, heard'⟩
    ⟨Scopes.initial_outline.symm, start⟩
  exact ⟨ResultsAgree.iff_eq.mp outcomes, after.heard⟩

/-- A program and its outline are the same to every listener. -/
theorem evaluate_outline (setting : Setting σ) (limit : Nat) (program : Program) (heard : σ) :
    setting.evaluate limit (program.outline setting.interface) heard =
      setting.evaluate limit program heard := by
  obtain ⟨outcomes, states⟩ :=
    evaluate_keepPace setting.listener.alike_self limit program (Eq.refl heard)
  exact (Prod.ext outcomes states).symm

/-- The evaluation of one program before two listeners that hear alike. -/
theorem evaluate_alike (alike : setting.listener.Alike other related) (limit : Nat)
    (program : Program) {heard : σ} {heard' : τ} (start : related heard heard') :
    (setting.evaluate limit program heard).1 =
        ((setting.withListener other).evaluate limit program heard').1 ∧
      related (setting.evaluate limit program heard).2
        ((setting.withListener other).evaluate limit program heard').2 := by
  have kept := evaluate_keepPace alike limit program start
  rw [show setting.interface = (setting.withListener other).interface from rfl,
    (setting.withListener other).evaluate_outline] at kept
  exact kept

/-! ## Bodies that are never run -/

/--
Programs with the same outline differ at most in the bodies of functions written
as arguments of hook calls, or behind the first argument of test calls.  Every
listener hears the same of them, and they end alike.
-/
theorem evaluate_eq_of_outline_eq (setting : Setting σ) (limit : Nat) (first second : Program)
    (same : first.outline setting.interface = second.outline setting.interface) (heard : σ) :
    setting.evaluate limit first heard = setting.evaluate limit second heard := by
  rw [← setting.evaluate_outline limit first, same, setting.evaluate_outline]

/-- A file that declares one test whose body is given. -/
def oneTest (body : List Statement) : Program where
  statements := [.expression default (.call default (.identifier default "it")
    [.plain (.literal default (.text "adds")), .plain (.function default (.block [] body))])]

/-- A hook in the body of a test is not heard of. -/
theorem evaluate_eq_of_outline_eq_oneTest :
    let setting : Setting (List Signal) :=
      { file := { path := "/case.js", frameFile := "/case.js", text := "it('adds')".toList }
        interface := .bdd
        resolver := .absolute
        listener := Signal.observer }
    let inner : Statement := .expression default (.call default (.identifier default "before") [])
    (oneTest [inner]).outline .bdd = (oneTest []).outline .bdd ∧
      setting.evaluate activationLimit (oneTest [inner]) [] =
        setting.evaluate activationLimit (oneTest []) [] ∧
      (setting.evaluate activationLimit (oneTest [inner]) []).2 =
        [.test { name := "adds"
                 site := .frames [{ file := "/case.js", line := 1, column := 1 }] }] := by
  intro setting inner
  refine ⟨rfl, setting.evaluate_eq_of_outline_eq activationLimit _ _ rfl [], ?_⟩
  decide +kernel

end Setting

end TestInventory
