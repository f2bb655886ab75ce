import TestInventory.Proofs.Evaluation.Tandem
import TestInventory.Proofs.Listwise

/-!
# What is read in scopes that correspond

From scopes that correspond the same is read off the same code, but for the scopes of
closures.  So calls are treated alike, and they lead to tasks that are alike.  Whether
a task hoists a variable out of its block can be read off its text.
-/

namespace TestInventory

open TestInventory.Source (Span)

/-! ## What is read -/

/-- Whether the same names are found from scopes that correspond. -/
structure Scopes.SeenAlike (roles : Roles) (first second : Scopes) (scope : Nat) : Prop where
  live : roles.Live scope
  names : ∀ name, Option.Rel (Binding.Alike roles) (first.lookup scope name)
    (second.lookup (roles.index scope) name)

section Reading

variable {roles : Roles} {first second : Scopes} {scope : Nat}

mutual

theorem Expression.value?_alike (seen : first.SeenAlike roles second scope)
    (expression : Expression) :
    expression.value? second (roles.index scope) = expression.value? first scope := by
  cases expression with
  | template _ pieces holes => simp only [Expression.value?, valueTexts?_alike seen holes]
  | sum _ left right =>
      simp only [Expression.value?, Expression.value?_alike seen left,
        Expression.value?_alike seen right]
  | negative _ operand => simp only [Expression.value?, Expression.value?_alike seen operand]
  | parenthesized _ inner => exact Expression.value?_alike seen inner
  | identifier _ name =>
      have bound := seen.names name
      rw [Expression.value?, Expression.value?]
      generalize first.lookup scope name = held at bound ⊢
      generalize second.lookup (roles.index scope) name = held' at bound ⊢
      cases bound with
      | none => rfl
      | some same => exact same.value?_eq
  | _ => rfl

theorem valueTexts?_alike (seen : first.SeenAlike roles second scope)
    (expressions : List Expression) :
    valueTexts? second (roles.index scope) expressions = valueTexts? first scope expressions := by
  cases expressions with
  | nil => rfl
  | cons head rest =>
      simp only [valueTexts?, Expression.value?_alike seen head, valueTexts?_alike seen rest]

end

theorem closure?_lookup_alike (seen : first.SeenAlike roles second scope) (name : String) :
    Option.Rel (Closure.Alike roles) ((first.lookup scope name).bind Binding.closure?)
      ((second.lookup (roles.index scope) name).bind Binding.closure?) := by
  have bound := seen.names name
  generalize first.lookup scope name = held at bound ⊢
  generalize second.lookup (roles.index scope) name = held' at bound ⊢
  cases bound with
  | none => exact .none
  | some same => exact same.closure?

theorem Expression.closure?_alike (seen : first.SeenAlike roles second scope)
    (expression : Expression) :
    Option.Rel (Closure.Alike roles) (expression.closure? first scope)
      (expression.closure? second (roles.index scope)) := by
  cases expression with
  | identifier _ name => exact closure?_lookup_alike seen name
  | function _ callback => exact .some ⟨rfl, seen.live, rfl⟩
  | parenthesized _ inner => exact Expression.closure?_alike seen inner
  | _ => exact .none

theorem Element.closureAt?_alike (seen : first.SeenAlike roles second scope)
    (elements : List Element) (index : Nat) :
    Option.Rel (Closure.Alike roles) (Element.closureAt? first scope elements index)
      (Element.closureAt? second (roles.index scope) elements index) := by
  rw [Element.closureAt?, Element.closureAt?]
  cases elements[index]? with
  | none => exact .none
  | some element =>
      cases element with
      | plain expression => exact Expression.closure?_alike seen expression
      | _ => exact .none

mutual

theorem Expression.binding_alike (seen : first.SeenAlike roles second scope)
    (expression : Expression) :
    (expression.binding first scope).Alike roles
      (expression.binding second (roles.index scope)) := by
  have known : ∀ content : Option Value, Binding.Alike roles
      ((content.map .value).getD .unknown) ((content.map .value).getD .unknown) := by
    intro content
    cases content with
    | none => exact .unknown
    | some content => exact .value content
  cases expression with
  | identifier _ name =>
      have bound := seen.names name
      rw [Expression.binding, Expression.binding]
      generalize first.lookup scope name = held at bound ⊢
      generalize second.lookup (roles.index scope) name = held' at bound ⊢
      cases bound with
      | none => exact .unknown
      | some same => exact same
  | function _ callback => exact .callback ⟨rfl, seen.live, rfl⟩
  | array _ elements => exact .of_items (elementBindings_alike seen elements)
  | parenthesized _ inner => exact Expression.binding_alike seen inner
  | _ =>
      simp only [Expression.binding, Expression.value?_alike seen]
      exact known _

theorem elementBindings_alike (seen : first.SeenAlike roles second scope)
    (elements : List Element) :
    List.Forall₂ (Binding.Alike roles) (elementBindings first scope elements)
      (elementBindings second (roles.index scope) elements) := by
  cases elements with
  | nil => exact .nil
  | cons head rest =>
      exact .cons (Element.binding_alike seen head) (elementBindings_alike seen rest)

theorem Element.binding_alike (seen : first.SeenAlike roles second scope) (element : Element) :
    (element.binding first scope).Alike roles
      (element.binding second (roles.index scope)) := by
  cases element with
  | plain expression => exact Expression.binding_alike seen expression
  | spread expression => exact .unknown
  | hole => exact .unknown

end

end Reading

/-! ## Tasks -/

/-- Whether two tasks are the same text, with bindings that are alike. -/
inductive Task.Alike (roles : Roles) : Task → Task → Prop where
  | expression (expression : Expression) :
    Alike roles (.expression expression) (.expression expression)
  | declarator (hoisted : Bool) (declarator : Declarator) :
    Alike roles (.declarator hoisted declarator) (.declarator hoisted declarator)
  | statement (statement : Statement) : Alike roles (.statement statement) (.statement statement)
  | body (statements : List Statement) : Alike roles (.body statements) (.body statements)
  | pass (binder : Binder) {item item' : Binding} (same : item.Alike roles item')
      (body : Statement) : Alike roles (.pass binder item body) (.pass binder item' body)
  | activation {closure closure' : Closure} (same : closure.Alike roles closure')
      {arguments arguments' : List Binding}
      (given : List.Forall₂ (Binding.Alike roles) arguments arguments') (span : Span) :
    Alike roles (.activation closure arguments span) (.activation closure' arguments' span)
  | none : Alike roles (.all []) (.all [])
  | row {first first' : Task} {rest rest' : List Task} (here : Alike roles first first')
      (later : Alike roles (.all rest) (.all rest')) :
    Alike roles (.all (first :: rest)) (.all (first' :: rest'))

theorem Task.Alike.all {roles : Roles} {tasks tasks' : List Task}
    (each : List.Forall₂ (Task.Alike roles) tasks tasks') :
    Task.Alike roles (.all tasks) (.all tasks') := by
  induction each with
  | nil => exact .none
  | cons here _ ih => exact .row here ih

theorem Task.Alike.callback {roles : Roles} (callback : Callback) :
    callback.task.Alike roles callback.task := by
  cases callback with
  | block parameters body => exact .body body
  | arrow parameters body => exact .expression body

/-- Whether a loop binds its items outside of the block around it. -/
def Binder.hoists : Binder → Bool
  | .declaration hoisted _ => hoisted
  | .target _ => false

mutual

/-- Whether a statement, as far as it is followed, declares variables of the function around. -/
def Statement.hoists : Statement → Bool
  | .block _ body => statementsHoist body
  | .declaration _ hoisted _ => hoisted
  | .exported _ declaration => declaration.hoists
  | .forOf _ binder _ body => binder.hoists || body.hoists
  | _ => false

/-- Whether one of several statements does so. -/
def statementsHoist : List Statement → Bool
  | [] => false
  | first :: rest => first.hoists || statementsHoist rest

end

mutual

/-- Whether a task declares variables of the function around. -/
def Task.hoists : Task → Bool
  | .declarator hoisted _ => hoisted
  | .statement statement => statement.hoists
  | .body statements => statementsHoist statements
  | .pass binder _ body => binder.hoists || body.hoists
  | .all tasks => tasksHoist tasks
  | _ => false

/-- Whether one of several tasks does so. -/
def tasksHoist : List Task → Bool
  | [] => false
  | first :: rest => first.hoists || tasksHoist rest

end

theorem statementsHoist_eq_any (statements : List Statement) :
    statementsHoist statements = statements.any Statement.hoists :=
  eq_any_of_cons rfl (fun _ _ => rfl) statements

theorem tasksHoist_eq_any (tasks : List Task) : tasksHoist tasks = tasks.any Task.hoists :=
  eq_any_of_cons rfl (fun _ _ => rfl) tasks

theorem Task.hoists_statements (statements : List Statement) :
    (Task.all (statements.map .statement)).hoists = statementsHoist statements := by
  rw [Task.hoists, tasksHoist_eq_any, statementsHoist_eq_any, List.any_map]
  rfl

/-! ## Calls -/

/-- Whether two calls are treated alike. -/
inductive Treatment.Alike (roles : Roles) : Treatment → Treatment → Prop where
  | configured : Alike roles .configured .configured
  | chained (object : Expression) : Alike roles (.chained object) (.chained object)
  | iterated {items items' : List Binding}
      (each : List.Forall₂ (Binding.Alike roles) items items') {closure closure' : Closure}
      (same : closure.Alike roles closure') :
    Alike roles (.iterated items closure) (.iterated items' closure')
  | declared (entry : Entry) : Alike roles (.declared entry) (.declared entry)
  | activated {closure closure' : Closure} (same : closure.Alike roles closure') :
    Alike roles (.activated closure) (.activated closure')
  | skipped (callee : Option String) : Alike roles (.skipped callee) (.skipped callee)

namespace Setting

variable {σ : Type} {setting : Setting σ} {limit : Nat} {roles : Roles}

section Calls

variable {first second : Scopes} {scope : Nat} (seen : first.SeenAlike roles second scope)
include seen

theorem namedTreatment_alike (name : String) (modifier : Option String) :
    (setting.namedTreatment first scope name modifier).Alike roles
      (setting.namedTreatment second (roles.index scope) name modifier) := by
  unfold namedTreatment
  cases setting.interface.classify name modifier with
  | some entry => exact .declared entry
  | none =>
      cases modifier with
      | some word => exact .skipped _
      | none =>
          have known := closure?_lookup_alike seen name
          simp only [Option.isNone_none, if_true]
          generalize (first.lookup scope name).bind Binding.closure? = held at known ⊢
          generalize (second.lookup (roles.index scope) name).bind Binding.closure? =
            held' at known ⊢
          cases known with
          | none => exact .skipped _
          | some same => exact .activated same

theorem iteratedTreatment_alike (iterated : Expression) (arguments : List Element) :
    (iteratedTreatment first scope iterated arguments).Alike roles
      (iteratedTreatment second (roles.index scope) iterated arguments) := by
  have items := (Expression.binding_alike seen iterated).items?
  have known := Element.closureAt?_alike seen arguments 0
  unfold iteratedTreatment
  generalize (iterated.binding first scope).items? = items at items ⊢
  generalize (iterated.binding second (roles.index scope)).items? = items' at items ⊢
  generalize Element.closureAt? first scope arguments 0 = held at known ⊢
  generalize Element.closureAt? second (roles.index scope) arguments 0 = held' at known ⊢
  cases items with
  | none => exact .skipped none
  | some each =>
      cases known with
      | none => exact .skipped none
      | some same => exact .iterated each same

/-- A call is treated alike in scopes that correspond. -/
theorem treatment_alike (callee : Expression) (arguments : List Element) :
    (setting.treatment first scope callee arguments).Alike roles
      (setting.treatment second (roles.index scope) callee arguments) := by
  cases callee with
  | identifier _ name => exact namedTreatment_alike seen name none
  | member span object property =>
      have member : (setting.memberTreatment first scope object property arguments).Alike roles
          (setting.memberTreatment second (roles.index scope) object property arguments) := by
        unfold memberTreatment
        by_cases each : property = "forEach"
        · rw [if_pos each, if_pos each]
          exact iteratedTreatment_alike seen object arguments
        · rw [if_neg each, if_neg each]
          cases object with
          | identifier _ name => exact namedTreatment_alike seen name property
          | _ => exact .skipped none
      cases object with
      | this => exact .configured
      | call => exact .chained _
      | _ => exact member
  | _ => exact .skipped none

theorem naming_alike (arguments : List Element) :
    setting.naming second (roles.index scope) arguments = setting.naming first scope arguments := by
  simp only [naming, Expression.value?_alike seen]

theorem thrownMessage_alike (suites : List Frame) (thrown : Expression) :
    setting.thrownMessage second ⟨roles.index scope, suites⟩ thrown =
      setting.thrownMessage first ⟨scope, suites⟩ thrown := by
  simp only [thrownMessage, Expression.value?_alike seen]

end Calls

end Setting

/-- Items that are alike are so with their indices. -/
theorem forall₂_zipIdx {α β : Type} {related : α → β → Prop} {items : List α} {items' : List β}
    (each : List.Forall₂ related items items') (start : Nat) :
    List.Forall₂ (fun item item' => related item.1 item'.1 ∧ item.2 = item'.2)
      (items.zipIdx start) (items'.zipIdx start) := by
  induction each generalizing start with
  | nil => exact .nil
  | cons here _ ih => exact .cons ⟨here, rfl⟩ (ih (start + 1))

/-- Tasks made of one item each are alike if the items are. -/
theorem Task.Alike.of_items {α β : Type} {related : α → β → Prop} {roles : Roles}
    {items : List α} {items' : List β} (each : List.Forall₂ related items items')
    {task : α → Task} {task' : β → Task}
    (same : ∀ item item', related item item' → (task item).Alike roles (task' item')) :
    Task.Alike roles (.all (items.map task)) (.all (items'.map task')) :=
  .all (List.forall₂_map_left_iff.mpr (List.forall₂_map_right_iff.mpr
    (each.imp fun item item' related => same item item' related)))

theorem Task.Alike.of_texts {α : Type} {roles : Roles} (items : List α) {task : α → Task}
    (same : ∀ item, (task item).Alike roles (task item)) :
    Task.Alike roles (.all (items.map task)) (.all (items.map task)) :=
  .all (List.forall₂_map_left_iff.mpr (List.forall₂_map_right_iff.mpr
    (List.forall₂_same.mpr fun item _ => same item)))

/-- Calls that are treated alike lead to tasks that are alike, and in which nothing is hoisted. -/
theorem Treatment.Alike.inner? {roles : Roles} {treatment treatment' : Treatment}
    (alike : treatment.Alike roles treatment') {arguments arguments' : List Binding}
    (given : List.Forall₂ (Binding.Alike roles) arguments arguments') {span : Span} {task : Task}
    (leads : treatment.inner? span arguments = some task) :
    ∃ task', treatment'.inner? span arguments' = some task' ∧ task.Alike roles task' ∧
      task.hoists = false := by
  cases alike with
  | configured => cases leads
  | declared entry => cases leads
  | skipped callee => cases leads
  | chained object =>
      cases leads
      exact ⟨_, rfl, .expression object, rfl⟩
  | activated same =>
      cases leads
      exact ⟨_, rfl, .activation same given span, rfl⟩
  | iterated each same =>
      cases leads
      refine ⟨_, rfl, .of_items (forall₂_zipIdx each 0) ?_, ?_⟩
      · rintro ⟨item, index⟩ ⟨item', _⟩ ⟨alike, rfl⟩
        exact .activation same (.cons alike (.cons (.value _) .nil)) span
      · rw [Task.hoists, tasksHoist_eq_any, List.any_map, List.any_eq_false]
        exact fun _ _ => Bool.false_ne_true

theorem Scopes.Alike.bindItem {roles : Roles} {first second : Scopes}
    (alike : first.Alike roles second) {scope : Nat} (live : roles.Live scope)
    (made : scope < first.size) {binder : Binder}
    (settled : binder.hoists = true → first.Settled roles scope) {item item' : Binding}
    (same : item.Alike roles item') :
    (first.bindItem scope binder item).Alike roles
      (second.bindItem (roles.index scope) binder item') := by
  cases binder with
  | declaration hoisted declarators => exact alike.declareAll live made settled _ same
  | target target =>
      cases target with
      | name name => exact alike.assign live made name same
      | other parts => exact alike

end TestInventory
