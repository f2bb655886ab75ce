import TestInventory.Proofs.Evaluation.Treatment
import TestInventory.Proofs.Listwise

/-!
# What the search for declarations finds

A form of the syntax holds other forms, down to names and literals.  The search for
declarations finds something in a form exactly if a declaring call occurs in it, at
whatever depth and in whatever place, and the calls that it looks for are those that
the evaluation runs as declarations.
-/

namespace TestInventory

open TestInventory.Source (Span)

/-! ## Forms inside forms -/

/-- A form of the syntax, of whatever sort. -/
inductive Form where
  | expression (expression : Expression)
  | element (element : Element)
  | target (target : Target)
  | part (part : Part)
  | callback (callback : Callback)
  | declarator (declarator : Declarator)
  | statement (statement : Statement)
  | binder (binder : Binder)

/-- The forms that stand immediately inside an expression. -/
def Expression.inside : Expression → List Form
  | .identifier .. | .this _ | .literal .. => []
  | .template _ _ holes => holes.map .expression
  | .array _ elements => elements.map .element
  | .function _ callback => [.callback callback]
  | .call _ callee arguments => .expression callee :: arguments.map .element
  | .construct _ callee arguments => .expression callee :: arguments.map .element
  | .member _ object _ => [.expression object]
  | .await _ operand => [.expression operand]
  | .parenthesized _ inner => [.expression inner]
  | .sequence _ items => items.map .expression
  | .assign _ target value => [.target target, .expression value]
  | .sum _ left right => [.expression left, .expression right]
  | .negative _ operand => [.expression operand]
  | .other _ parts => parts.map .part

/-- The forms that stand immediately inside a statement. -/
def Statement.inside : Statement → List Form
  | .expression _ content => [.expression content]
  | .block _ body => body.map .statement
  | .declaration _ _ declarators => declarators.map .declarator
  | .function _ _ callback => [.callback callback]
  | .exported _ declared => [.statement declared]
  | .empty _ => []
  | .forOf _ binder iterated body => [.binder binder, .expression iterated, .statement body]
  | .throw _ argument => [.expression argument]
  | .other _ parts => parts.map .part

namespace Form

/-- The forms that stand immediately inside a form. -/
def inside : Form → List Form
  | .expression content => content.inside
  | .element (.plain content) | .element (.spread content) => [.expression content]
  | .element .hole => []
  | .target (.name _) => []
  | .target (.other parts) => parts.map .part
  | .part (.expression content) => [.expression content]
  | .part (.statement content) => [.statement content]
  | .callback (.block parameters body) => parameters.map .target ++ body.map .statement
  | .callback (.arrow parameters body) => parameters.map .target ++ [.expression body]
  | .declarator (.mk name value) => .target name :: (value.map .expression).toList
  | .statement content => content.inside
  | .binder (.declaration _ declarators) => declarators.map .declarator
  | .binder (.target bound) => [.target bound]

/-- Whether a form occurs in another: it is that form, or occurs in one inside it. -/
inductive Occurs (form : Form) : Form → Prop where
  | here : Occurs form form
  | deeper {outer inner : Form} (member : inner ∈ outer.inside) (occurs : Occurs form inner) :
    Occurs form outer

/-- Whether the search for declarations finds something in a form. -/
def declares (interface : Interface) : Form → Bool
  | .expression content => content.declares interface
  | .element content => content.declares interface
  | .target content => content.declares interface
  | .part content => content.declares interface
  | .callback content => content.declares interface
  | .declarator content => content.declares interface
  | .statement content => content.declares interface
  | .binder content => content.declares interface

end Form

/-- Whether a callee stands for an entry: a word of the interface, or such a member of one. -/
inductive Interface.Names (interface : Interface) (entry : Entry) : Expression → Prop where
  | word {span : Span} {name : String} (known : interface.classify name none = some entry) :
    Names interface entry (.identifier span name)
  | member {span at_ : Span} {name property : String}
      (known : interface.classify name (some property) = some entry) :
    Names interface entry (.member span (.identifier at_ name) property)

variable {interface : Interface}

theorem Interface.entryOf?_eq_some_iff (callee : Expression) (entry : Entry) :
    interface.entryOf? callee = some entry ↔ interface.Names entry callee := by
  constructor
  · intro known
    cases callee with
    | identifier => exact .word known
    | member _ object property =>
        cases object with
        | identifier => exact .member known
        | _ => cases known
    | _ => cases known
  · intro names
    cases names with
    | word known => exact known
    | member known => exact known

/-! ## The search, form by form -/

theorem expressionsDeclare_eq_any :
    ∀ items, expressionsDeclare interface items = items.any (Expression.declares interface) :=
  eq_any_of_cons rfl fun _ _ => rfl

theorem elementsDeclare_eq_any :
    ∀ items, elementsDeclare interface items = items.any (Element.declares interface) :=
  eq_any_of_cons rfl fun _ _ => rfl

theorem targetsDeclare_eq_any :
    ∀ items, targetsDeclare interface items = items.any (Target.declares interface) :=
  eq_any_of_cons rfl fun _ _ => rfl

theorem partsDeclare_eq_any :
    ∀ items, partsDeclare interface items = items.any (Part.declares interface) :=
  eq_any_of_cons rfl fun _ _ => rfl

theorem declaratorsDeclare_eq_any :
    ∀ items, declaratorsDeclare interface items = items.any (Declarator.declares interface) :=
  eq_any_of_cons rfl fun _ _ => rfl

theorem statementsDeclare_eq_any :
    ∀ items, statementsDeclare interface items = items.any (Statement.declares interface) :=
  eq_any_of_cons rfl fun _ _ => rfl

namespace Form

/-- The entry that a form stands for by itself, if it is a declaring call. -/
def called? (interface : Interface) : Form → Option Entry
  | .expression (.call _ callee _) => interface.entryOf? callee
  | _ => none

theorem exists_call_of_called {form : Form} {entry : Entry}
    (stands : form.called? interface = some entry) :
    ∃ span callee arguments, form = .expression (.call span callee arguments) ∧
      interface.entryOf? callee = some entry := by
  cases form with
  | expression content =>
      cases content with
      | call span callee arguments => exact ⟨span, callee, arguments, rfl, stands⟩
      | _ => cases stands
  | _ => cases stands

theorem declares_expression (content : Expression) :
    content.declares interface =
      ((called? interface (.expression content)).isSome ||
        content.inside.any (declares interface)) := by
  cases content <;>
    simp [Expression.declares, Expression.inside, called?, expressionsDeclare_eq_any,
      elementsDeclare_eq_any, partsDeclare_eq_any, declares, Function.comp_def, Bool.or_assoc]

theorem declares_statement (content : Statement) :
    content.declares interface = content.inside.any (declares interface) := by
  cases content <;>
    simp [Statement.declares, Statement.inside, statementsDeclare_eq_any,
      declaratorsDeclare_eq_any, partsDeclare_eq_any, declares, Function.comp_def, Bool.or_assoc]

/-- The search finds something if the form is a declaring call or something inside it is found. -/
theorem declares_eq (form : Form) :
    form.declares interface =
      ((form.called? interface).isSome || form.inside.any (declares interface)) := by
  cases form with
  | expression content => exact declares_expression content
  | statement content => exact declares_statement content
  | element content => cases content <;> simp [declares, Element.declares, inside, called?]
  | target content =>
      cases content <;>
        simp [declares, Target.declares, inside, called?, partsDeclare_eq_any, Function.comp_def]
  | part content => cases content <;> simp [declares, Part.declares, inside, called?]
  | callback content =>
      cases content <;>
        simp [declares, Callback.declares, inside, called?, targetsDeclare_eq_any,
          statementsDeclare_eq_any, Function.comp_def]
  | declarator content =>
      obtain ⟨name, value⟩ := content
      cases value <;> simp [declares, Declarator.declares, inside, called?]
  | binder content =>
      cases content <;>
        simp [declares, Binder.declares, inside, called?, declaratorsDeclare_eq_any,
          Function.comp_def]

theorem sizeOf_lt_of_mem_expression {content : Expression} {inner : Form}
    (member : inner ∈ content.inside) : sizeOf inner < 1 + sizeOf content := by
  cases content <;> simp [Expression.inside] at member ⊢ <;> grind [→ List.sizeOf_lt_of_mem]

theorem sizeOf_lt_of_mem_statement {content : Statement} {inner : Form}
    (member : inner ∈ content.inside) : sizeOf inner < 1 + sizeOf content := by
  cases content <;> simp [Statement.inside] at member ⊢ <;> grind [→ List.sizeOf_lt_of_mem]

/-- What stands inside a form is smaller. -/
theorem sizeOf_lt_of_mem_inside {outer inner : Form} (member : inner ∈ outer.inside) :
    sizeOf inner < sizeOf outer := by
  cases outer with
  | expression content => exact sizeOf_lt_of_mem_expression member
  | statement content => exact sizeOf_lt_of_mem_statement member
  | element content => cases content <;> simp_all [inside]
  | target content => cases content <;> simp [inside] at member ⊢; grind [→ List.sizeOf_lt_of_mem]
  | part content => cases content <;> simp_all [inside]
  | callback content =>
      cases content <;> simp [inside] at member ⊢ <;> grind [→ List.sizeOf_lt_of_mem]
  | declarator content =>
      obtain ⟨name, value⟩ := content
      cases value <;> simp [inside] at member ⊢ <;> grind
  | binder content => cases content <;> simp [inside] at member ⊢ <;> grind [→ List.sizeOf_lt_of_mem]

/-- The search finds something in a form exactly if a declaring call occurs in it. -/
theorem declares_iff (form : Form) :
    form.declares interface = true ↔
      ∃ call entry, call.called? interface = some entry ∧ Occurs call form := by
  constructor
  · intro found
    induction size : sizeOf form using Nat.strongRecOn generalizing form with
    | _ _ ih =>
      rw [declares_eq, Bool.or_eq_true, List.any_eq_true, Option.isSome_iff_exists] at found
      obtain ⟨entry, stands⟩ | ⟨inner, member, found⟩ := found
      · exact ⟨form, entry, stands, .here⟩
      · have smaller := size ▸ sizeOf_lt_of_mem_inside member
        obtain ⟨call, entry, stands, occurs⟩ := ih _ smaller inner found rfl
        exact ⟨call, entry, stands, .deeper member occurs⟩
  · rintro ⟨call, entry, stands, occurs⟩
    induction occurs with
    | here => rw [declares_eq, stands, Option.isSome_some, Bool.true_or]
    | deeper member _ ih =>
        rw [declares_eq, List.any_eq_true.mpr ⟨_, member, ih⟩, Bool.or_true]

end Form

/-! ## The search and the evaluation -/

namespace Setting

variable {σ : Type} (setting : Setting σ)

/-- A call is treated as a declaration of what its callee stands for, and only then as one. -/
theorem treatment_eq_declared_iff (scopes : Scopes) (scope : Nat) (callee : Expression)
    (arguments : List Element) (entry : Entry) :
    setting.treatment scopes scope callee arguments = .declared entry ↔
      setting.interface.entryOf? callee = some entry := by
  rw [← (setting.treatment_spec scopes scope callee arguments).1]
  cases setting.treatment scopes scope callee arguments <;> simp [Treatment.declared?]

/--
The search for declarations finds something in a form exactly if a call occurs in it, at
whatever depth, whose callee is a word of the interface or such a member of one.  A call
passes the test of the search exactly if the evaluation, wherever it comes to the call,
runs it as a declaration, and then both take it for the same entry.
-/
theorem search_exact :
    (∀ form : Form, form.declares setting.interface = true ↔
      ∃ span callee arguments entry, setting.interface.Names entry callee ∧
        Form.Occurs (.expression (.call span callee arguments)) form) ∧
    ∀ activate place span callee arguments (before : Progress σ),
      let treatment := setting.treatment before.scopes place.scope callee arguments
      setting.runExpression activate place (.call span callee arguments) before =
          setting.perform activate place span arguments treatment before ∧
        ((setting.interface.entryOf? callee).isSome = true ↔
          ∃ entry, treatment = .declared entry) ∧
        ∀ entry, treatment = .declared entry ↔ setting.interface.Names entry callee := by
  refine ⟨fun form => ?_, fun activate place span callee arguments before => ?_⟩
  · rw [Form.declares_iff]
    constructor
    · rintro ⟨call, entry, stands, occurs⟩
      obtain ⟨span, callee, arguments, rfl, stands⟩ := Form.exists_call_of_called stands
      have names := (Interface.entryOf?_eq_some_iff callee entry).mp stands
      exact ⟨span, callee, arguments, entry, names, occurs⟩
    · rintro ⟨span, callee, arguments, entry, names, occurs⟩
      have stands := (Interface.entryOf?_eq_some_iff callee entry).mpr names
      exact ⟨.expression (.call span callee arguments), entry, stands, occurs⟩
  · have declared := setting.treatment_eq_declared_iff before.scopes place.scope callee arguments
    refine ⟨setting.runExpression_call activate place span callee arguments before, ?_, ?_⟩
    · simp only [declared, Option.isSome_iff_exists]
    · intro entry
      rw [declared, Interface.entryOf?_eq_some_iff]

end Setting

end TestInventory
