import TestInventory.Proofs.Evaluation.Listening
import TestInventory.Proofs.Evaluation.Overlooked

/-!
# Declaring calls that are noticed

Everything heard stays heard, and each step of an evaluation makes up for the
declaring calls in the code that it is about, unless it overlooks them.  So a
declaring call is lost only where the evaluation does not look.
-/

namespace TestInventory

open TestInventory.Source (Span)
open Evaluating

/-- What a signal declares, and at which call site. -/
def Signal.declaration? : Signal → Option (Entry × CallSite)
  | .suite call => some (.suite call.variant, call.site)
  | .test call => some (.test call.variant, call.site)
  | .hook call => some (.hook call.hook, call.site)
  | _ => none

namespace Setting

variable {σ : Type} (setting : Setting σ)

/--
Whether what was heard tells of a declaring call under open suites: what it
stands for was declared by it, or a form around it was warned of.
-/
def Noticed (suites : List Frame) (heard : List Signal) (exposure : Exposure) : Prop :=
  (∃ signal ∈ heard, signal.declaration? =
      some (exposure.entry, .frames (setting.file.frame exposure.span :: suites))) ∨
    ∃ form ∈ exposure.around,
      .notice (.missing setting.file.path (setting.file.line form.2) form.1) ∈ heard

instance (suites : List Frame) (heard : List Signal) (exposure : Exposure) :
    Decidable (setting.Noticed suites heard exposure) :=
  inferInstanceAs (Decidable (_ ∨ _))

end Setting

/-! ## What was heard is kept -/

namespace Evaluating

variable {α : Type}

/-- Whether a step only adds to what was heard. -/
def Grows (step : Evaluating (List Signal) α) : Prop :=
  ∀ before, before.heard <+: (step before).2.heard

/-- A step that keeps pace with another before the observer only adds to what was heard. -/
theorem grows_of_keepPace {interface : Interface} {β : Type} {valued : α → β → Prop}
    {step : Evaluating (List Signal) α} {step' : Evaluating (List Signal) β}
    (kept : ∀ start, KeepPace interface (Signal.observer.HasHeard start) valued step step') :
    Grows step := by
  intro before
  obtain ⟨-, after⟩ := kept before.heard before ⟨before.scopes.outline interface, []⟩ ⟨rfl, rfl⟩
  have heard := after.heard
  rw [Listener.HasHeard, Signal.observer_replay] at heard
  exact ⟨_, heard.symm⟩

/-- Steps in a row only add to what was heard if each does. -/
theorem Grows.bind {β : Type} {step : Evaluating (List Signal) α}
    {next : α → Evaluating (List Signal) β} (first : Grows step)
    (second : ∀ result, Grows (next result)) : Grows (step >>= next) := by
  intro before
  have grown := first before
  rw [bind_apply]
  cases ran : step before with
  | mk outcome between =>
      rw [ran] at grown
      cases outcome with
      | error error => exact grown
      | ok result => exact grown.trans (second result between)

theorem Grows.forM {ι : Type} {step : ι → Evaluating (List Signal) Unit}
    (grows : ∀ item, Grows (step item)) (items : List ι) : Grows (items.forM step) := by
  induction items with
  | nil => exact fun before => List.prefix_refl before.heard
  | cons item items ih => exact (grows item).bind fun _ => ih

end Evaluating

namespace Setting

section Growth

variable {setting : Setting (List Signal)} (observing : setting.listener = Signal.observer)
include observing

theorem alike_of_observing (start : List Signal) :
    setting.listener.Alike Signal.observer (Signal.observer.HasHeard start) :=
  observing ▸ Signal.observer_enters.alike_observer start

variable (remaining : Nat) (place : Place)

theorem activation_observing (start : List Signal) :
    (setting.activation remaining).KeepPace setting.interface (Signal.observer.HasHeard start)
      ((setting.withListener Signal.observer).activation remaining) :=
  activation_keepPace (alike_of_observing observing start) remaining

theorem activation_grows (closure : Closure) (arguments : List Binding) (span : Span)
    (suites : List Frame) : Grows (setting.activation remaining closure arguments span suites) :=
  grows_of_keepPace fun start =>
    activation_observing observing remaining start closure arguments span suites

theorem skipCall_grows (span : Span) (arguments : List Element) :
    Grows (setting.skipCall span arguments) :=
  grows_of_keepPace fun start =>
    skipCall_keepPace (alike_of_observing observing start) span arguments

theorem runExpressions_grows (expressions : List Expression) :
    Grows (setting.runExpressions (setting.activation remaining) place expressions) :=
  grows_of_keepPace fun start =>
    runExpressions_keepPace (alike_of_observing observing start)
      (activation_observing observing remaining start) place expressions

theorem runDeclarators_grows (hoisted : Bool) (declarators : List Declarator) :
    Grows (setting.runDeclarators (setting.activation remaining) place hoisted declarators) :=
  grows_of_keepPace fun start =>
    runDeclarators_keepPace (alike_of_observing observing start)
      (activation_observing observing remaining start) place hoisted declarators

theorem runStatement_grows (statement : Statement) :
    Grows (setting.runStatement (setting.activation remaining) place statement) :=
  grows_of_keepPace fun start =>
    runStatement_keepPace (alike_of_observing observing start)
      (activation_observing observing remaining start) place statement

theorem runStatements_grows (statements : List Statement) :
    Grows (setting.runStatements (setting.activation remaining) place statements) :=
  grows_of_keepPace fun start =>
    runStatements_keepPace (alike_of_observing observing start)
      (activation_observing observing remaining start) place statements

end Growth

theorem bindItem_grows (place : Place) (binder : Binder) (item : Binding) :
    Grows (bindItem place binder item) :=
  grows_of_keepPace fun _ =>
    (bindItem_keepPace place binder item : KeepPace Interface.bdd _ Eq _ _)

/-- Variables are declared one after another. -/
theorem runDeclarators_cons {σ : Type} (setting : Setting σ) (activate : Activation σ)
    (place : Place) (hoisted : Bool) (first : Declarator) (rest : List Declarator) :
    setting.runDeclarators activate place hoisted (first :: rest) =
      setting.runDeclarators activate place hoisted [first] >>= fun _ =>
        setting.runDeclarators activate place hoisted rest := by
  cases first with
  | mk target value =>
      cases value <;> cases target <;>
        simp only [runDeclarators, bind_assoc, pure_bind]

/-! ## Accounts of steps -/

variable {setting : Setting (List Signal)}

/-- What was noticed stays noticed. -/
theorem Noticed.mono {suites : List Frame} {heard heard' : List Signal} {exposure : Exposure}
    (noticed : setting.Noticed suites heard exposure) (grown : heard <+: heard') :
    setting.Noticed suites heard' exposure := by
  rcases noticed with ⟨signal, member, same⟩ | ⟨form, around, member⟩
  · exact .inl ⟨signal, grown.subset member, same⟩
  · exact .inr ⟨form, around, grown.subset member⟩

/-- A step accounts for exposures if it overlooks them or they are noticed once it succeeded. -/
def Accounts (setting : Setting (List Signal)) (suites : List Frame)
    (step : Evaluating (List Signal) Unit) (exposures : List Exposure)
    (overlooked : Progress (List Signal) → List Exposure) : Prop :=
  ∀ before after, step before = (.ok (), after) → ∀ exposure ∈ exposures,
    exposure ∈ overlooked before ∨ setting.Noticed suites after.heard exposure

/-- Steps in a row account for the exposures of both. -/
theorem Accounts.andThen {suites : List Frame} {step next : Evaluating (List Signal) Unit}
    {exposures exposures' : List Exposure}
    {overlooked overlooked' : Progress (List Signal) → List Exposure}
    (first : setting.Accounts suites step exposures overlooked) (grows : Grows next)
    (second : setting.Accounts suites next exposures' overlooked') :
    setting.Accounts suites (step >>= fun _ => next) (exposures ++ exposures')
      fun before => overlooked before ++ overlooked' (step before).2 := by
  intro before after ran exposure member
  obtain ⟨_, between, ran, rest⟩ := bind_eq_ok.mp ran
  have grown : between.heard <+: after.heard := by
    have grown := grows between
    rwa [rest] at grown
  rcases List.mem_append.mp member with member | member
  · rcases first before between ran exposure member with unseen | noticed
    · exact .inl (List.mem_append_left _ unseen)
    · exact .inr (noticed.mono grown)
  · rcases second between after rest exposure member with unseen | noticed
    · refine .inl (List.mem_append_right _ ?_)
      rw [ran]
      exact unseen
    · exact .inr noticed

section Steps

variable (observing : setting.listener = Signal.observer)
include observing

theorem mem_hear (signal : Signal) (heard : List Signal) :
    signal ∈ setting.listener.hear signal heard := by
  rw [observing, Signal.observer_hear]
  exact List.mem_append_right heard List.mem_cons_self

/-- A warning lets all be noticed that stands in the form that it is about. -/
theorem warnIf_noticed {suites : List Frame} {span : Span} {construct : Construct}
    {around : List Surrounding} {declares : Bool} {exposures : List Exposure}
    (within : ExposuresWithin ((construct, span) :: around) declares exposures)
    {before after : Progress (List Signal)}
    (ran : setting.warnIf declares span construct before = (.ok (), after))
    {exposure : Exposure} (member : exposure ∈ exposures) :
    setting.Noticed suites after.heard exposure := by
  obtain ⟨found, inside⟩ := within exposure member
  rw [found] at ran
  cases ran
  exact .inr ⟨(construct, span), inside _ List.mem_cons_self,
    mem_hear observing (.notice _) before.heard⟩

/-- A call that is left alone accounts for its arguments. -/
theorem skipCall_accounts (suites : List Frame) (around : List Surrounding) (span : Span)
    (arguments : List Element) :
    setting.Accounts suites (setting.skipCall span arguments)
      (elementsExposures setting.interface ((.call, span) :: around) arguments) fun _ => [] :=
  fun _ _ ran _ member =>
    .inr (warnIf_noticed observing (elementsExposures_within _ arguments) ran member)

/-- A suite is heard of whatever its body does. -/
theorem openSuite_hears (call : SuiteCall) {body : Evaluating (List Signal) Unit}
    (grows : Grows body) (before : Progress (List Signal)) :
    .suite call ∈ (setting.openSuite call body before).2.heard := by
  rw [openSuite_apply, observing]
  show _ ∈ (body { before with heard := before.heard ++ [.suite call] }).2.heard ++ [_]
  have grown := grows { before with heard := before.heard ++ [.suite call] }
  exact List.mem_append_left _ (grown.subset (List.mem_append_right _ List.mem_cons_self))

/-- A call that declares something without failing is heard of at its call site. -/
theorem declare_hears (remaining : Nat) (place : Place) (span : Span) (entry : Entry)
    (arguments : List Element) {before after : Progress (List Signal)}
    (ran : setting.declare (setting.activation remaining) place span entry arguments before =
      (.ok (), after)) :
    ∃ signal ∈ after.heard,
      signal.declaration? = some (entry, setting.callSite place span) := by
  cases entry with
  | suite variant =>
      obtain ⟨name, named, -, ran⟩ := bind_eq_ok.mp ran
      obtain ⟨scopes, between, -, ran⟩ := bind_eq_ok.mp ran
      have heard : ∀ body, Grows body → setting.openSuite
          { name, variant, site := setting.callSite place span } body between = (.ok (), after) →
          ∃ signal ∈ after.heard, signal.declaration? =
            some (.suite variant, setting.callSite place span) := by
        intro body grows opened
        refine ⟨.suite { name, variant, site := setting.callSite place span }, ?_, rfl⟩
        have hears := openSuite_hears observing
          { name, variant, site := setting.callSite place span } grows between
        rwa [opened] at hears
      cases closure : Element.closureAt? scopes place.scope arguments 1 with
      | some closure =>
          rw [closure] at ran
          exact heard _ (activation_grows observing remaining _ _ _ _) ran
      | none =>
          rw [closure] at ran
          by_cases pending : variant = .skip
          · simp only [if_pos pending] at ran
            exact heard _ (fun before => List.prefix_refl _) ran
          · simp only [if_neg pending] at ran
            cases ran
  | test variant =>
      obtain ⟨name, named, -, ran⟩ := bind_eq_ok.mp ran
      obtain ⟨scopes, between, -, ran⟩ := bind_eq_ok.mp ran
      cases ran
      exact ⟨.test _, mem_hear observing (.test _) between.heard, rfl⟩
  | hook hook =>
      obtain ⟨scopes, between, -, ran⟩ := bind_eq_ok.mp ran
      cases ran
      exact ⟨.hook _, mem_hear observing (.hook _) between.heard, rfl⟩

variable (remaining : Nat)

/-- A call accounts for itself and for its parts. -/
theorem call_accounts (place : Place) (called : Bool) (around : List Surrounding) (span : Span)
    (callee : Expression) (arguments : List Element) :
    setting.Accounts place.suites
      (setting.runExpression (setting.activation remaining) place (.call span callee arguments))
      ((Expression.call span callee arguments).exposures setting.interface called around)
      fun before =>
        setting.overlookedParts before.scopes place.scope around span callee arguments := by
  intro before after ran exposure member
  rw [runExpression_call] at ran
  obtain ⟨declared, -⟩ := setting.treatment_spec before.scopes place.scope callee arguments
  rcases List.mem_append.mp member with member | inArguments
  · rcases List.mem_append.mp member with own | inCallee
    · obtain ⟨entry, found, rfl⟩ := List.mem_map.mp own
      rw [Option.mem_toList.mp found] at declared
      cases treated : setting.treatment before.scopes place.scope callee arguments with
      | declared entry' =>
          rw [treated] at declared ran
          cases declared
          exact .inr (.inl (declare_hears observing remaining place span entry arguments ran))
      | _ =>
          rw [treated] at declared
          cases declared
    · exact .inl (List.mem_append_left _ inCallee)
  · have skipped := fun before ran =>
      (skipCall_accounts observing place.suites around span arguments before after ran exposure
        inArguments).resolve_left List.not_mem_nil
    dsimp only [overlookedParts]
    cases treated : setting.treatment before.scopes place.scope callee arguments with
    | skipped name =>
        rw [treated] at ran
        cases name with
        | none => exact .inr (skipped before ran)
        | some name =>
            obtain ⟨_, between, -, ran⟩ := bind_eq_ok.mp ran
            exact .inr (skipped between ran)
    | _ => exact .inl (List.mem_append_right _ inArguments)

mutual

/-- An expression that is run accounts for all that stands in it. -/
theorem runExpression_accounts (place : Place) (around : List Surrounding)
    (expression : Expression) :
    setting.Accounts place.suites
      (setting.runExpression (setting.activation remaining) place expression)
      (expression.exposures setting.interface false around)
      (setting.overlookedExpression (setting.activation remaining) place around expression) := by
  have within : ExposuresWithin (expression.forms ++ around)
      (expression.declares setting.interface)
      (expression.exposures setting.interface false around) :=
    expression.exposures_within false around
  cases expression with
  | call span callee arguments =>
      have whole := call_accounts observing remaining place false around span callee arguments
      cases callee with
      | member at_ object property =>
          cases object with
          | call inner callee given =>
              -- The object is run, and only then is the call itself left alone.
              have both := (runExpression_accounts place
                ((.expression, at_) :: (.call, span) :: around) (.call inner callee given)).andThen
                  (skipCall_grows observing span arguments)
                  (skipCall_accounts observing place.suites around span arguments)
              intro before after ran exposure member
              have accounted := both before after ran exposure member
              simp only [List.append_nil] at accounted
              exact accounted
          | _ => exact whole
      | _ => exact whole
  | await _ operand => exact runExpression_accounts place around operand
  | parenthesized _ inner => exact runExpression_accounts place around inner
  | sequence _ items => exact runExpressions_accounts place around items
  | assign _ target value =>
      intro before after ran exposure member
      obtain ⟨_, between, ran, rest⟩ := bind_eq_ok.mp ran
      rcases List.mem_append.mp member with inTarget | inValue
      · exact .inl (List.mem_append_left _ inTarget)
      · rcases runExpression_accounts place around value before between ran exposure inValue with
          unseen | noticed
        · exact .inl (List.mem_append_right _ unseen)
        · -- Giving a name a value is not heard of.
          cases target <;> cases rest <;> exact .inr noticed
  | function _ callback => exact fun _ _ _ _ member => .inl member
  | _ =>
      intro before after ran exposure member
      exact .inr (warnIf_noticed observing within ran member)
termination_by sizeOf expression

theorem runExpressions_accounts (place : Place) (around : List Surrounding)
    (expressions : List Expression) :
    setting.Accounts place.suites
      (setting.runExpressions (setting.activation remaining) place expressions)
      (expressionsExposures setting.interface around expressions)
      (setting.overlookedExpressions (setting.activation remaining) place around
        expressions) := by
  cases expressions with
  | nil => exact fun _ _ _ _ member => absurd member List.not_mem_nil
  | cons first rest =>
      exact (runExpression_accounts place around first).andThen
        (runExpressions_grows observing remaining place rest)
        (runExpressions_accounts place around rest)
termination_by sizeOf expressions

end

theorem runDeclarator_accounts (place : Place) (hoisted : Bool) (around : List Surrounding)
    (target : Target) (value : Option Expression) :
    setting.Accounts place.suites
      (setting.runDeclarators (setting.activation remaining) place hoisted [.mk target value])
      ((Declarator.mk target value).exposures setting.interface around)
      fun before => target.exposures setting.interface around ++
        match value with
        | none => []
        | some value =>
          setting.overlookedExpression (setting.activation remaining) place around value
            before := by
  cases value with
  | none => exact fun _ _ _ _ member => .inl (List.mem_append_left _ member)
  | some value =>
      intro before after ran exposure member
      obtain ⟨_, between, ran, rest⟩ := bind_eq_ok.mp ran
      rcases List.mem_append.mp member with inTarget | inValue
      · exact .inl (List.mem_append_left _ inTarget)
      · rcases runExpression_accounts observing remaining place around value before between ran
          exposure inValue with unseen | noticed
        · exact .inl (List.mem_append_right _ unseen)
        · cases target <;> cases rest <;> exact .inr noticed

theorem runDeclarators_accounts (place : Place) (hoisted : Bool) (around : List Surrounding)
    (declarators : List Declarator) :
    setting.Accounts place.suites
      (setting.runDeclarators (setting.activation remaining) place hoisted declarators)
      (declaratorsExposures setting.interface around declarators)
      (setting.overlookedDeclarators (setting.activation remaining) place hoisted around
        declarators) := by
  induction declarators with
  | nil => exact fun _ _ _ _ member => absurd member List.not_mem_nil
  | cons first rest ih =>
      cases first with
      | mk target value =>
          rw [runDeclarators_cons]
          exact (runDeclarator_accounts observing remaining place hoisted around target
            value).andThen (runDeclarators_grows observing remaining place hoisted rest) ih

omit observing in
/-- What is done in a block accounts for what its last part accounts for. -/
theorem inBlock_accounts {exposures : List Exposure} (place : Place)
    (prepare next : Place → Evaluating (List Signal) Unit)
    (overlooked : Place → Progress (List Signal) → List Exposure)
    (accounts : ∀ scope, setting.Accounts place.suites (next { place with scope }) exposures
      (overlooked { place with scope })) :
    setting.Accounts place.suites (inBlock place fun inner => do prepare inner; next inner)
      exposures fun before => overlooked { place with scope := before.scopes.size }
        (inBlock place prepare before).2 := by
  intro before after ran exposure member
  obtain ⟨scope, opened, made, ran⟩ := bind_eq_ok.mp ran
  cases made
  obtain ⟨_, between, prepared, ran⟩ := bind_eq_ok.mp ran
  have reached : (inBlock place prepare before).2 = between := congrArg Prod.snd prepared
  simp only [reached]
  exact accounts _ between after ran exposure member

omit observing in
/-- A loop accounts for what each of its passes accounts for. -/
theorem passes_accounts {ι : Type} {suites : List Frame} {exposures : List Exposure}
    {overlooked : ι → Progress (List Signal) → List Exposure}
    {pass : ι → Evaluating (List Signal) Unit} (grows : ∀ item, Grows (pass item))
    (accounts : ∀ item, setting.Accounts suites (pass item) exposures (overlooked item))
    (items : List ι) :
    setting.Accounts suites (items.forM pass) exposures
      (overlookedPasses exposures overlooked pass items) := by
  induction items with
  | nil => exact fun _ _ _ _ member => .inl member
  | cons item items ih =>
      intro before after ran exposure member
      obtain ⟨_, between, ran, rest⟩ := bind_eq_ok.mp ran
      rcases accounts item before between ran exposure member with unseen | noticed
      · rcases ih between after rest exposure member with still | noticed
        · refine .inl (List.mem_filter.mpr ⟨unseen, decide_eq_true ?_⟩)
          rw [ran]
          exact still
        · exact .inr noticed
      · have grown := Grows.forM grows items between
        rw [rest] at grown
        exact .inr (noticed.mono grown)

theorem pass_grows (place : Place) (binder : Binder) (item : Binding) (body : Statement) :
    Grows (inBlock place fun inner => do
      bindItem inner binder item
      setting.runStatement (setting.activation remaining) inner body) :=
  .bind (fun before => List.prefix_refl before.heard) fun _ =>
    (bindItem_grows _ binder item).bind fun _ =>
      runStatement_grows observing remaining _ body

mutual

/-- A statement that is run accounts for all that stands in it. -/
theorem runStatement_accounts (place : Place) (around : List Surrounding)
    (statement : Statement) :
    setting.Accounts place.suites
      (setting.runStatement (setting.activation remaining) place statement)
      (statement.exposures setting.interface around)
      (setting.overlookedStatement (setting.activation remaining) place around statement) := by
  cases statement with
  | expression _ expression =>
      exact runExpression_accounts observing remaining place around expression
  | block _ body =>
      exact inBlock_accounts place (hoist · body)
        (setting.runStatements (setting.activation remaining) · body)
        (setting.overlookedStatements (setting.activation remaining) · around body)
        fun scope => runStatements_accounts { place with scope } around body
  | declaration _ hoisted declarators =>
      exact runDeclarators_accounts observing remaining place hoisted around declarators
  | function _ _ callback => exact fun _ _ _ _ member => .inl member
  | exported span declaration =>
      have within : ExposuresWithin ((.exported, span) :: around)
          (declaration.declares setting.interface)
          (declaration.exposures setting.interface ((.exported, span) :: around)) :=
        declaration.exposures_within _
      cases declaration with
      | declaration _ hoisted declarators =>
          exact runDeclarators_accounts observing remaining place hoisted _ declarators
      | function _ _ callback => exact fun _ _ _ _ member => .inl member
      | _ =>
          intro before after ran exposure member
          exact .inr (warnIf_noticed observing within ran member)
  | empty _ => exact fun _ _ _ _ member => absurd member List.not_mem_nil
  | forOf span binder iterated body =>
      intro before after ran exposure member
      obtain ⟨scopes, between, known, ran⟩ := bind_eq_ok.mp ran
      cases known
      rcases List.mem_append.mp member with inHead | inBody
      · exact .inl (List.mem_append_left _ inHead)
      · have passes := fun item => inBlock_accounts place (bindItem · binder item)
          (setting.runStatement (setting.activation remaining) · body)
          (setting.overlookedStatement (setting.activation remaining) · ((.loop, span) :: around)
            body)
          fun scope => runStatement_accounts { place with scope } ((.loop, span) :: around) body
        simp only [overlookedStatement]
        cases found : (iterated.binding before.scopes place.scope).items? with
        | none =>
            rw [found] at ran
            exact .inr (warnIf_noticed observing (body.exposures_within _) ran inBody)
        | some items =>
            rw [found] at ran
            have grows := fun item => pass_grows observing remaining place binder item body
            rcases passes_accounts grows passes items before after ran exposure inBody with
              unseen | noticed
            · exact .inl (List.mem_append_right _ unseen)
            · exact .inr noticed
  | throw span argument =>
      intro before after ran
      cases ran
  | other span parts =>
      intro before after ran exposure member
      exact .inr (warnIf_noticed observing (partsExposures_within _ parts) ran member)

theorem runStatements_accounts (place : Place) (around : List Surrounding)
    (statements : List Statement) :
    setting.Accounts place.suites
      (setting.runStatements (setting.activation remaining) place statements)
      (statementsExposures setting.interface around statements)
      (setting.overlookedStatements (setting.activation remaining) place around
        statements) := by
  cases statements with
  | nil => exact fun _ _ _ _ member => absurd member List.not_mem_nil
  | cons first rest =>
      exact (runStatement_accounts place around first).andThen
        (runStatements_grows observing remaining place rest)
        (runStatements_accounts place around rest)

end

/-- A body that is run accounts for all that stands in it. -/
theorem runBody_accounts (place : Place) (body : List Statement) :
    setting.Accounts place.suites (setting.runBody (setting.activation remaining) place body)
      (statementsExposures setting.interface [] body)
      (setting.overlookedBody (setting.activation remaining) place body) := by
  intro before after ran exposure member
  obtain ⟨_, between, hoisted, ran⟩ := bind_eq_ok.mp ran
  have accounted := runStatements_accounts observing remaining place [] body between after ran
    exposure member
  rwa [overlookedBody, hoisted]

end Steps

/-- A declaring call in the open is noticed unless the evaluation overlooks it. -/
theorem overlooked_or_noticed {σ : Type} (setting : Setting σ) (limit : Nat) (program : Program)
    (loads : setting.outcome limit program = .ok ()) (exposure : Exposure)
    (member : exposure ∈ program.exposures setting.interface) :
    exposure ∈ setting.overlooked limit program ∨
      setting.Noticed [] (setting.signals limit program) exposure :=
  @runBody_accounts (setting.withListener Signal.observer) rfl limit
    { scope := Scopes.file } program.statements ⟨.initial, []⟩ _ (Prod.ext loads rfl) exposure
    member

/-- What the evaluation overlooks stands in the open. -/
theorem overlooked_subset {σ : Type} (setting : Setting σ) (limit : Nat) (program : Program) :
    setting.overlooked limit program ⊆ program.exposures setting.interface :=
  overlookedStatements_subset _ _ [] program.statements _

/--
In a file that loads, all declaring calls in the open are noticed exactly if
those are that the evaluation overlooks.
-/
theorem noticed_iff_of_overlooked {σ : Type} (setting : Setting σ) (limit : Nat)
    (program : Program) (loads : setting.outcome limit program = .ok ()) :
    (∀ exposure ∈ program.exposures setting.interface,
        setting.Noticed [] (setting.signals limit program) exposure) ↔
      ∀ exposure ∈ setting.overlooked limit program,
        setting.Noticed [] (setting.signals limit program) exposure := by
  constructor
  · intro noticed exposure unseen
    exact noticed exposure (setting.overlooked_subset limit program unseen)
  · intro noticed exposure member
    rcases setting.overlooked_or_noticed limit program loads exposure member with unseen | found
    · exact noticed exposure unseen
    · exact found

/-- A module with the given text, before the observer. -/
def ofText (text : String) : Setting (List Signal) where
  file := { path := "/case.js", frameFile := "/case.js", text := text.toList }
  interface := .bdd
  resolver := .absolute
  listener := Signal.observer

/-- A call that is left alone, with a test among its arguments. -/
def wrappedTest : Program where
  statements := [.expression default (.call default (.identifier default "wrap")
    [.plain (.call default (.identifier default "it") [.plain (.literal default (.text "a"))])])]

/-- Nothing is overlooked there, so the test is noticed. -/
theorem noticed_iff_of_overlooked_wrappedTest :
    (ofText "wrap(it('a'))").outcome activationLimit wrappedTest = .ok () ∧
      (wrappedTest.exposures .bdd).length = 1 ∧
      ∀ exposure ∈ wrappedTest.exposures .bdd, (ofText "wrap(it('a'))").Noticed []
        ((ofText "wrap(it('a'))").signals activationLimit wrappedTest) exposure := by
  have loads : (ofText "wrap(it('a'))").outcome activationLimit wrappedTest = .ok () := by
    decide +kernel
  have nothing : (ofText "wrap(it('a'))").overlooked activationLimit wrappedTest = [] := by
    decide +kernel
  refine ⟨loads, rfl, ?_⟩
  apply ((ofText "wrap(it('a'))").noticed_iff_of_overlooked activationLimit wrappedTest loads).mpr
  rw [nothing]
  exact fun _ unseen => absurd unseen List.not_mem_nil

/-- Whether a text loads although one of its declaring calls in the open is not noticed. -/
def loses (text : String) : Bool :=
  (Program.parse? false text.toList).any fun program =>
    (ofText text).outcome activationLimit program = .ok () ∧
      ∃ exposure ∈ program.exposures .bdd,
        ¬ (ofText text).Noticed [] ((ofText text).signals activationLimit program) exposure

/--
Calls that are lost: in the callee of a call that is left alone, in the object
of its method, among the arguments of a declaring call, of a call of a helper
and of a setting, in a list that is iterated, and in the default of a pattern.
-/
theorem all_lose :
    ["(() => it('lost'))();", "(it('lost')).timeout(5);", "it('a', it('lost'));",
      "const helper = () => 0; helper(it('lost'));", "this.timeout(it('lost'));",
      "[it('lost')].forEach(() => 0);", "for (const x of [it('lost')]) wrap(x);",
      "const [x = it('lost')] = [];"].all loses = true := by
  decide +kernel

end Setting

end TestInventory
