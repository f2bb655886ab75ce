import Mathlib.Data.List.ReduceOption
import TestInventory.Proofs.Evaluation.Naming
import TestInventory.Proofs.Evaluation.Restoration

/-!
# What loops run over

A list that a loop runs over was made by an array literal, however it has been copied
from name to name since.  It has one item for each element of the literal, so it is
the array of the language if no element is spread; and `forEach`, which leaves out what
an array leaves out, is then right if no place is left out either.  What is not known to
be a list is not run over, and a warning says so if declarations are lost.
-/

namespace TestInventory

open TestInventory.Source (Span)
open Evaluating

/-! ## Array literals -/

/-- An array literal, evaluated among some scopes in one of them. -/
structure ArrayLiteral where
  elements : List Element
  scopes : Scopes
  scope : Nat

namespace Element

/-- Whether an element stands for all items of another list. -/
def isSpread : Element → Bool
  | .spread _ => true
  | _ => false

/--
The places of an array that an element makes, where what a spread expression runs
through is given; a place that is left out holds nothing.
-/
def slots (scopes : Scopes) (scope : Nat) (spread : Expression → List Binding) :
    Element → List (Option Binding)
  | .plain expression => [some (expression.binding scopes scope)]
  | .spread expression => (spread expression).map some
  | .hole => [none]

end Element

namespace ArrayLiteral

variable (literal : ArrayLiteral)

/-- The items of the list that is made for a literal. -/
def items : List Binding := elementBindings literal.scopes literal.scope literal.elements

/-- The places of the array that the language makes for a literal. -/
def slots (spread : Expression → List Binding) : List (Option Binding) :=
  literal.elements.flatMap (Element.slots literal.scopes literal.scope spread)

/-- What `for...of` visits in an array: what is left out counts as not known. -/
def visited (slots : List (Option Binding)) : List Binding := slots.map (·.getD .unknown)

/-- What `forEach` visits in an array: each item with its index, but nothing for what is left out. -/
def visitedEach (slots : List (Option Binding)) : List (Binding × Nat) :=
  slots.zipIdx.filterMap fun (slot, index) => slot.map (·, index)

theorem items_eq_map :
    literal.items = literal.elements.map (Element.binding literal.scopes literal.scope) := by
  rw [items]
  induction literal.elements with
  | nil => rfl
  | cons first rest ih => exact congrArg (_ :: ·) ih

theorem length_items : literal.items.length = literal.elements.length := by
  rw [items_eq_map, List.length_map]

/-- The indices do not matter to which items `forEach` visits. -/
theorem map_fst_visitedEach (slots : List (Option Binding)) :
    (visitedEach slots).map Prod.fst = slots.reduceOption := by
  have first : ∀ entry : Option Binding × Nat,
      ((entry.1.map (·, entry.2)).map Prod.fst : Option Binding) = entry.1 := by
    rintro ⟨slot, index⟩
    cases slot <;> rfl
  rw [visitedEach, List.map_filterMap]
  conv_rhs => rw [List.reduceOption, ← List.zipIdx_map_fst 0 slots, List.filterMap_map]
  exact congrArg (List.filterMap · _) (funext first)

/-- Where nothing is left out, `forEach` visits all items. -/
theorem visitedEach_map_some (items : List Binding) :
    visitedEach (items.map some) = items.zipIdx := by
  rw [visitedEach, List.zipIdx_map, List.filterMap_map]
  exact List.filterMap_some

theorem slots_of_unspread (unspread : ∀ element ∈ literal.elements, element.isSpread = false)
    (spread : Expression → List Binding) :
    literal.slots spread =
      literal.elements.map fun element =>
        element.plain?.map (·.binding literal.scopes literal.scope) := by
  rw [slots, List.map_eq_flatMap]
  refine List.flatMap_congr fun element member => ?_
  cases element with
  | spread => cases unspread _ member
  | _ => rfl

/-- If all that is spread is empty, an array has a place for every element that is not spread. -/
theorem length_slots_nil :
    (literal.slots fun _ => []).length + literal.elements.countP Element.isSpread =
      literal.elements.length := by
  rw [slots]
  induction literal.elements with
  | nil => rfl
  | cons first rest ih =>
      rw [List.flatMap_cons, List.length_append, List.countP_cons, List.length_cons, ← ih]
      cases first <;> simp [Element.slots, Element.isSpread] <;> omega

/-- If all that is spread is empty, an array holds an item for every plain element. -/
theorem length_reduceOption_slots_nil :
    (literal.slots fun _ => []).reduceOption.length =
      literal.elements.countP fun element => element.plain?.isSome := by
  rw [slots]
  induction literal.elements with
  | nil => rfl
  | cons first rest ih =>
      rw [List.flatMap_cons, List.reduceOption_append, List.length_append, List.countP_cons, ih,
        Nat.add_comm]
      cases first <;> rfl

/-- The list is what `for...of` visits, whatever is spread, exactly if nothing is spread. -/
theorem items_eq_visited_iff :
    (∀ spread, literal.items = visited (literal.slots spread)) ↔
      ∀ element ∈ literal.elements, element.isSpread = false := by
  constructor
  · intro right
    have lengths := congrArg List.length (right fun _ => [])
    rw [length_items, visited, List.length_map, ← literal.length_slots_nil] at lengths
    have none : literal.elements.countP Element.isSpread = 0 := by omega
    simpa [List.countP_eq_zero] using none
  · intro unspread spread
    rw [items_eq_map, literal.slots_of_unspread unspread, visited, List.map_map]
    refine List.map_congr_left fun element _ => ?_
    cases element <;> rfl

/-- The list is what `forEach` visits, whatever is spread, exactly if all elements are plain. -/
theorem zipIdx_items_eq_visitedEach_iff :
    (∀ spread, literal.items.zipIdx = visitedEach (literal.slots spread)) ↔
      ∀ element ∈ literal.elements, element.plain?.isSome = true := by
  constructor
  · intro right
    have lengths := congrArg (fun visits => (visits.map Prod.fst).length) (right fun _ => [])
    simp only [List.zipIdx_map_fst, map_fst_visitedEach, length_items,
      length_reduceOption_slots_nil] at lengths
    exact List.countP_eq_length.mp lengths.symm
  · intro plain spread
    have unspread : ∀ element ∈ literal.elements, element.isSpread = false := by
      intro element member
      have expressed := plain element member
      cases element with
      | spread => cases expressed
      | _ => rfl
    rw [literal.slots_of_unspread unspread, ← visitedEach_map_some, items_eq_map, List.map_map]
    refine congrArg visitedEach (List.map_congr_left fun element member => ?_)
    have expressed := plain element member
    cases element with
    | plain => rfl
    | _ => cases expressed

end ArrayLiteral

/-! ## Lists in bindings -/

/-- Whether all lists in a binding are known ones. -/
inductive Binding.Lists (known : List Binding → Prop) : Binding → Prop where
  | value (content : Value) : Lists known (.value content)
  | list (items : List Binding) (has : known items) (all : ∀ item ∈ items, Lists known item) :
    Lists known (.list items)
  | callback (closure : Closure) : Lists known (.callback closure)
  | unknown : Lists known .unknown

/-- Whether an array literal is an expression or makes an item of a list in it. -/
inductive Expression.Makes : Expression → List Element → Prop where
  | array (span : Span) (elements : List Element) : Makes (.array span elements) elements
  | element (span : Span) {elements inside : List Element} {expression : Expression}
      (member : .plain expression ∈ elements) (makes : expression.Makes inside) :
    Makes (.array span elements) inside
  | parenthesized (span : Span) {inner : Expression} {elements : List Element}
      (makes : inner.Makes elements) : Makes (.parenthesized span inner) elements

/-- Whether all lists in the arguments of a task are known ones. -/
inductive Task.Lists (known : List Binding → Prop) : Task → Prop where
  | expression (expression : Expression) : Lists known (.expression expression)
  | declarator (hoisted : Bool) (declarator : Declarator) :
    Lists known (.declarator hoisted declarator)
  | statement (statement : Statement) : Lists known (.statement statement)
  | body (statements : List Statement) : Lists known (.body statements)
  | pass (binder : Binder) {item : Binding} (body : Statement) (lists : item.Lists known) :
    Lists known (.pass binder item body)
  | activation (closure : Closure) {arguments : List Binding} (span : Span)
      (each : ∀ binding ∈ arguments, binding.Lists known) :
    Lists known (.activation closure arguments span)
  | all {tasks : List Task} (each : ∀ task ∈ tasks, Lists known task) : Lists known (.all tasks)

/-- Whether all lists that names are bound to are known ones. -/
def Scopes.Lists (known : List Binding → Prop) (scopes : Scopes) : Prop :=
  ∀ (index : Nat) (scope : Scope) (name : String) (binding : Binding),
    scopes.arena[index]? = some scope → scope.bindings.find? name = some binding →
    binding.Lists known

section Lists

variable {known : List Binding → Prop}

theorem Binding.Lists.of_items? {binding : Binding} (lists : binding.Lists known)
    {items : List Binding} (found : binding.items? = some items) :
    known items ∧ ∀ item ∈ items, item.Lists known := by
  cases lists with
  | list items has all =>
      cases found
      exact ⟨has, all⟩
  | _ => cases found

namespace Scopes.Lists

variable {scopes : Scopes}

theorem initial : Scopes.initial.Lists known := by
  intro index scope name binding found bound
  cases index with
  | zero =>
      cases found
      cases bound
  | succ index =>
      have small : index + 1 < 1 := lt_size_of_getElem? found
      omega

variable (lists : scopes.Lists known)
include lists

theorem lookup {scope : Nat} {name : String} {binding : Binding}
    (found : scopes.lookup scope name = some binding) : binding.Lists known := by
  obtain ⟨entry, member, bound⟩ := List.exists_of_findSome?_eq_some found
  exact lists entry.1 entry.2 name binding (getElem?_of_mem_chain member) bound

theorem add (parent : Nat) (ofFunction : Bool) : (scopes.add parent ofFunction).Lists known := by
  intro index scope name binding found bound
  rw [getElem?_add] at found
  split at found
  · cases found
    cases bound
  · exact lists index scope name binding found bound

theorem bindIn {binding : Binding} (holds : binding.Lists known) (index : Nat) (name : String) :
    (scopes.bindIn index name binding).Lists known := by
  intro other scope word bound found has
  rw [getElem?_bindIn] at found
  split at found
  · obtain ⟨old, present, rfl⟩ := Option.map_eq_some_iff.mp found
    rw [Bindings.find?_bind] at has
    split at has
    · cases has
      exact holds
    · exact lists other old word bound present has
  · exact lists other scope word bound found has

theorem hoist (scope : Nat) (statements : List Statement) :
    (scopes.hoist scope statements).Lists known := by
  rw [Scopes.hoist]
  generalize statements.filterMap Statement.hoisted? = functions
  induction functions generalizing scopes with
  | nil => exact lists
  | cons entry rest ih => exact ih (lists.bindIn (.callback _) scope entry.1)

theorem bindItem {item : Binding} (holds : item.Lists known) (scope : Nat) (binder : Binder) :
    (scopes.bindItem scope binder item).Lists known := by
  cases binder with
  | declaration hoisted declarators =>
      rw [Scopes.bindItem]
      generalize declarators.filterMap Declarator.name? = names
      induction names generalizing scopes with
      | nil => exact lists
      | cons name rest ih => exact ih (lists.bindIn holds _ name)
  | target target =>
      cases target with
      | name name => exact lists.bindIn holds _ name
      | other parts => exact lists

theorem bindParameters (scope : Nat) (targets : List Target) {arguments : List Binding}
    (each : ∀ binding ∈ arguments, binding.Lists known) :
    (scopes.bindParameters scope targets arguments).Lists known := by
  induction targets generalizing scopes arguments with
  | nil => exact lists
  | cons target rest ih =>
      have others : ∀ binding ∈ arguments.tail, binding.Lists known :=
        fun binding member => each binding (List.mem_of_mem_tail member)
      cases target with
      | other parts => exact ih lists others
      | name name =>
          have first : (arguments.head?.getD .unknown).Lists known := by
            cases arguments with
            | nil => exact .unknown
            | cons first rest => exact each first List.mem_cons_self
          exact ih (lists.bindIn first scope name) others

end Scopes.Lists

mutual

/-- The lists in what a name is given are those bound before and those of array literals. -/
theorem Expression.binding_lists {scopes : Scopes} (lists : scopes.Lists known) {scope : Nat}
    (expression : Expression)
    (makes : ∀ elements, expression.Makes elements →
      known (elementBindings scopes scope elements)) :
    (expression.binding scopes scope).Lists known := by
  have valued : ∀ value : Option Value,
      ((value.map .value).getD .unknown : Binding).Lists known := by
    intro value
    cases value with
    | none => exact .unknown
    | some content => exact .value content
  cases expression with
  | identifier _ name =>
      rw [Expression.binding]
      cases found : scopes.lookup scope name with
      | none => exact .unknown
      | some binding => exact lists.lookup found
  | function _ callback => exact .callback _
  | array span elements =>
      exact .list _ (makes elements (.array span elements)) (elementBindings_list lists elements
        fun expression member inside made => makes inside (.element span member made))
  | parenthesized span inner =>
      exact Expression.binding_lists lists inner fun elements made =>
        makes elements (.parenthesized span made)
  | _ => exact valued _

theorem elementBindings_list {scopes : Scopes} (lists : scopes.Lists known) {scope : Nat}
    (given : List Element)
    (makes : ∀ expression, .plain expression ∈ given → ∀ elements, expression.Makes elements →
      known (elementBindings scopes scope elements)) :
    ∀ binding ∈ elementBindings scopes scope given, binding.Lists known := by
  cases given with
  | nil => nofun
  | cons first rest =>
      refine List.forall_mem_cons.mpr ⟨?_, elementBindings_list lists rest fun expression member =>
        makes expression (List.mem_cons_of_mem first member)⟩
      cases first with
      | plain expression =>
          exact Expression.binding_lists lists expression (makes expression List.mem_cons_self)
      | spread => exact .unknown
      | hole => exact .unknown

end

end Lists

/-! ## Lists through a run -/

/-- Whether the arguments of a job and its arena have no lists but known ones. -/
structure Job.Lists (known : List Binding → Prop) (job : Job) : Prop where
  scopes : job.scopes.Lists known
  task : job.task.Lists known

section Runs

variable {σ : Type} (setting : Setting σ) (limit : Nat)

namespace Visit

/--
Whether an expression is read for what it holds at a visit, and among which scopes:
what is assigned or declared, after it has been evaluated; an argument of a call; the
object of which a method is called; and what a loop runs over.
-/
inductive Evaluates (visit : Visit σ) : Scopes → Expression → Prop where
  | assigned {span : Span} {target : Target} {value : Expression} {after : Progress σ}
      (task : visit.task = .expression (.assign span target value))
      (ended : setting.ends limit { visit.toRegisters with task := .expression value }
        visit.heard = (.ok (), after)) :
    Evaluates visit after.scopes value
  | declared {hoisted : Bool} {target : Target} {value : Expression} {after : Progress σ}
      (task : visit.task = .declarator hoisted (.mk target (some value)))
      (ended : setting.ends limit { visit.toRegisters with task := .expression value }
        visit.heard = (.ok (), after)) :
    Evaluates visit after.scopes value
  | argument {span : Span} {callee argument : Expression} {arguments : List Element}
      (task : visit.task = .expression (.call span callee arguments))
      (member : .plain argument ∈ arguments) : Evaluates visit visit.scopes argument
  | object {span place : Span} {object : Expression} {property : String} {arguments : List Element}
      (task : visit.task = .expression (.call span (.member place object property) arguments)) :
    Evaluates visit visit.scopes object
  | iterated {span : Span} {binder : Binder} {iterated : Expression} {body : Statement}
      (task : visit.task = .statement (.forOf span binder iterated body)) :
    Evaluates visit visit.scopes iterated

/-- Whether an array literal is evaluated in the course of a run. -/
def Made (start : Visit σ) (literal : ArrayLiteral) : Prop :=
  ∃ visit expression, start.Reaches setting limit visit ∧
    visit.Evaluates setting limit literal.scopes expression ∧ literal.scope = visit.current ∧
    expression.Makes literal.elements

/-- Whether the lists of all array literals that are evaluated from a visit on are known. -/
def Knows (known : List Binding → Prop) (start : Visit σ) : Prop :=
  ∀ literal, start.Made setting limit literal → known literal.items

variable {setting limit} {known : List Binding → Prop} {visit next : Visit σ}

theorem Knows.of_starts (knows : visit.Knows setting limit known)
    (starts : Starts setting limit visit next) : next.Knows setting limit known := by
  rintro literal ⟨later, expression, reaches, evaluates, here, makes⟩
  exact knows literal ⟨later, expression, .head starts reaches, evaluates, here, makes⟩

/-- What is read at a visit holds no lists but known ones. -/
theorem Knows.binding_lists (knows : visit.Knows setting limit known) {scopes : Scopes}
    (lists : scopes.Lists known) {expression : Expression}
    (evaluates : visit.Evaluates setting limit scopes expression) :
    (expression.binding scopes visit.current).Lists known :=
  Expression.binding_lists lists expression fun elements makes =>
    knows ⟨elements, scopes, visit.current⟩ ⟨visit, expression, .refl, evaluates, rfl, makes⟩

theorem Knows.arguments_list (knows : visit.Knows setting limit known)
    (lists : visit.scopes.Lists known) {span : Span} {callee : Expression}
    {arguments : List Element} (task : visit.task = .expression (.call span callee arguments)) :
    ∀ binding ∈ elementBindings visit.scopes visit.current arguments, binding.Lists known :=
  elementBindings_list lists arguments fun argument member elements makes =>
    knows ⟨elements, visit.scopes, visit.current⟩
      ⟨visit, argument, .refl, .argument task member, rfl, makes⟩

end Visit

namespace Setting

variable {setting limit} {known : List Binding → Prop}

/-- A callback is run for the items of the object of the call. -/
theorem iterated_of_treatment {scopes : Scopes} {scope : Nat} {callee : Expression}
    {arguments : List Element} {items : List Binding} {closure : Closure}
    (treated : setting.treatment scopes scope callee arguments = .iterated items closure) :
    ∃ place object, callee = .member place object "forEach" ∧
      (object.binding scopes scope).items? = some items := by
  have named : ∀ name modifier,
      setting.namedTreatment scopes scope name modifier ≠ .iterated items closure := by
    intro name modifier same
    rcases setting.namedTreatment_cases scopes scope name modifier with
      ⟨entry, -, other⟩ | ⟨-, ⟨activated, other⟩ | other⟩ <;> cases other.symm.trans same
  cases callee with
  | identifier _ name => exact absurd treated (named name none)
  | member place object property =>
      have member : setting.memberTreatment scopes scope object property arguments =
          .iterated items closure := by
        cases object with
        | this => cases treated
        | call => cases treated
        | _ => exact treated
      unfold memberTreatment at member
      split at member
      case isTrue each =>
        subst each
        refine ⟨place, object, rfl, ?_⟩
        unfold iteratedTreatment at member
        split at member
        case h_1 found _ =>
          cases member
          exact found
        case h_2 => cases member
      case isFalse =>
        split at member
        · exact absurd member (named _ _)
        · cases member
  | _ => cases treated

theorem lists_of_innerOfExpression? {registers : Registers} {heard : σ} {expression : Expression}
    (lists : registers.scopes.Lists known)
    (knows : Visit.Knows setting limit known ⟨⟨registers, heard⟩, .expression expression⟩)
    {task : Task} (leads : setting.innerOfExpression? registers.scopes registers.current
      expression = some task) : task.Lists known := by
  cases expression with
  | call span callee arguments =>
      simp only [innerOfExpression?] at leads
      cases treated : setting.treatment registers.scopes registers.current callee arguments with
      | chained object =>
          rw [treated] at leads
          cases leads
          exact .expression object
      | iterated items closure =>
          rw [treated] at leads
          cases leads
          obtain ⟨place, object, rfl, found⟩ := iterated_of_treatment treated
          have all := (knows.binding_lists lists (.object rfl)).of_items? found
          refine .all fun task member => ?_
          obtain ⟨⟨item, index⟩, indexed, rfl⟩ := List.mem_map.mp member
          refine .activation closure span (List.forall_mem_cons.mpr ⟨?_, ?_⟩)
          · exact all.2 item (List.fst_mem_of_mem_zipIdx indexed)
          · exact List.forall_mem_singleton.mpr (.value _)
      | activated closure =>
          rw [treated] at leads
          cases leads
          exact .activation closure span (knows.arguments_list lists rfl)
      | _ =>
          rw [treated] at leads
          cases leads
  | await _ operand =>
      cases leads
      exact .expression operand
  | parenthesized _ inner =>
      cases leads
      exact .expression inner
  | sequence _ items =>
      cases leads
      refine .all fun task member => ?_
      obtain ⟨item, -, rfl⟩ := List.mem_map.mp member
      exact .expression item
  | assign _ _ value =>
      cases leads
      exact .expression value
  | _ => cases leads

theorem lists_of_innerOfStatement? {registers : Registers} {heard : σ} {statement : Statement}
    (lists : registers.scopes.Lists known)
    (knows : Visit.Knows setting limit known ⟨⟨registers, heard⟩, .statement statement⟩)
    {inner : Job} (leads : innerOfStatement? registers statement = some inner) :
    inner.Lists known := by
  have declared : ∀ hoisted (declarators : List Declarator),
      (Task.all (declarators.map (.declarator hoisted))).Lists known := by
    refine fun hoisted declarators => .all fun task member => ?_
    obtain ⟨declarator, -, rfl⟩ := List.mem_map.mp member
    exact .declarator hoisted declarator
  cases statement with
  | expression _ expression =>
      cases leads
      exact ⟨lists, .expression expression⟩
  | block _ body =>
      cases leads
      exact ⟨lists.add registers.current false, .body body⟩
  | declaration _ hoisted declarators =>
      cases leads
      exact ⟨lists, declared hoisted declarators⟩
  | exported _ declaration =>
      cases declaration with
      | declaration _ hoisted declarators =>
          cases leads
          exact ⟨lists, declared hoisted declarators⟩
      | _ => cases leads
  | forOf _ binder iterated body =>
      obtain ⟨items, found, rfl⟩ := Option.map_eq_some_iff.mp leads
      have all := (knows.binding_lists lists (.iterated rfl)).of_items? found
      refine ⟨lists, .all fun task member => ?_⟩
      obtain ⟨item, inside, rfl⟩ := List.mem_map.mp member
      exact .pass binder body (all.2 item inside)
  | _ => cases leads

theorem lists_of_inner? {job inner : Job} {heard : σ} (lists : job.Lists known)
    (knows : (job.visit heard).Knows setting limit known)
    (leads : setting.inner? limit job = some inner) : inner.Lists known := by
  obtain ⟨registers, task⟩ := job
  obtain ⟨arena, given⟩ := lists
  cases task with
  | expression expression =>
      obtain ⟨task, found, rfl⟩ := Option.map_eq_some_iff.mp leads
      exact ⟨arena, lists_of_innerOfExpression? arena knows found⟩
  | declarator hoisted declarator =>
      obtain ⟨target, value⟩ := declarator
      obtain ⟨value, -, rfl⟩ := Option.map_eq_some_iff.mp leads
      exact ⟨arena, .expression value⟩
  | statement statement => exact lists_of_innerOfStatement? arena knows leads
  | body statements =>
      cases leads
      refine ⟨arena.hoist registers.current statements, .all fun task member => ?_⟩
      obtain ⟨statement, -, rfl⟩ := List.mem_map.mp member
      exact .statement statement
  | pass binder item body =>
      cases leads
      cases given with
      | pass _ _ holds =>
          exact ⟨(arena.add registers.current false).bindItem holds _ binder, .statement body⟩
  | activation closure arguments span =>
      simp only [inner?] at leads
      split at leads
      case isFalse => cases leads
      case isTrue live =>
        cases leads
        cases given with
        | activation _ _ each =>
            refine ⟨(arena.add closure.scope true).bindParameters _ _ each, ?_⟩
            rcases closure with ⟨_ | _, _⟩
            · exact .body _
            · exact .expression _
  | all tasks => cases leads

theorem lists_finish {job : Job} {heard : σ} (knows : (job.visit heard).Knows setting limit known)
    {inner : Job} (leads : setting.inner? limit job = some inner) {after : Progress σ}
    (ended : setting.ends limit inner heard = (.ok (), after))
    (lists : after.scopes.Lists known) :
    (after.scopes.finish job.current job.task).Lists known := by
  obtain ⟨registers, task⟩ := job
  cases task with
  | expression expression =>
      cases expression with
      | assign span target value =>
          cases target with
          | name name =>
              cases leads
              exact lists.bindIn (knows.binding_lists lists (.assigned rfl ended)) _ name
          | other parts => exact lists
      | _ => exact lists
  | declarator hoisted declarator =>
      obtain ⟨target, value⟩ := declarator
      cases target with
      | other parts => cases value <;> exact lists
      | name name =>
          cases value with
          | none => exact lists
          | some value =>
              cases leads
              exact lists.bindIn (knows.binding_lists lists (.declared rfl ended)) _ name
  | _ => exact lists

theorem lists_alone {job : Job} (lists : job.Lists known) (lone : setting.Alone limit job)
    (heard : σ) : (setting.ends limit job heard).2.scopes.Lists known := by
  obtain ⟨notes, outcome, after, idles, changes⟩ := lone.idle
  have ended : setting.ends limit job heard = _ := idles σ setting.listener heard
  rw [ended]
  rcases changes with rfl | ⟨hoisted, name, -, rfl⟩
  · exact lists.scopes
  · exact lists.scopes.bindIn .unknown _ name

/-- Whatever a job does, names are bound to no lists but those that were, or were made. -/
theorem lists_ends {job : Job} {heard : σ} (lists : job.Lists known)
    (knows : (job.visit heard).Knows setting limit known) :
    (setting.ends limit job heard).2.scopes.Lists known := by
  induction job using setting.job_induction limit generalizing heard with
  | none registers => exact lists.scopes
  | row registers first rest firstLists restLists =>
      obtain ⟨arena, given⟩ := lists
      cases given with
      | all each =>
        obtain ⟨here, later⟩ := List.forall_mem_cons.mp each
        have kept := firstLists ⟨arena, here⟩ (knows.of_starts (.first registers heard first rest))
        rw [ends_all_cons]
        rcases ended : setting.ends limit { registers with task := first } heard with ⟨_ | _, after⟩
        · rwa [ended] at kept
        · rw [ended] at kept
          exact restLists _ ⟨kept, .all later⟩ (knows.of_starts (.rest registers heard rest ended))
  | within job inner leads innerLists =>
      have kept : (setting.ends limit inner heard).2.scopes.Lists known :=
        innerLists (lists_of_inner? lists knows leads) (knows.of_starts (.inner leads))
      rw [setting.ends_of_inner? limit leads]
      rcases ended : setting.ends limit inner heard with ⟨_ | _, after⟩
      · rwa [ended] at kept
      · rw [ended] at kept
        rw [goOn_ok, setting.finish_apply]
        exact lists_finish knows leads ended kept
  | declaring registers span callee arguments entry stands bodyLists =>
      rw [setting.ends_of_declaring limit registers span arguments stands]
      cases announced : setting.announcement registers span entry arguments with
      | leaf signal => exact lists.scopes
      | missing error => exact lists.scopes
      | suite call body =>
          simp only [announce]
          rcases entered : setting.listener.suite call _ with ⟨_ | _ | _, heard'⟩
          · cases body with
            | none => exact lists.scopes
            | some body =>
                have knows := knows.of_starts (.body registers heard stands announced entered)
                obtain ⟨closure, -, rfl⟩ := setting.body_of_announcement announced
                have given : Task.Lists known (.activation closure [] span) :=
                  .activation closure span (List.forall_mem_nil _)
                exact bodyLists call _ announced ⟨lists.scopes, given⟩ knows
          · exact lists.scopes
          · exact lists.scopes
  | alone job lone => exact lists_alone lists lone heard

end Setting

namespace Visit

variable {setting limit} {known : List Binding → Prop} {start visit next : Visit σ}

theorem lists_of_starts (lists : visit.job.Lists known) (knows : visit.Knows setting limit known)
    (starts : Starts setting limit visit next) : next.job.Lists known := by
  cases starts with
  | inner leads => exact Setting.lists_of_inner? lists knows leads
  | first registers heard first rest =>
      obtain ⟨arena, given⟩ := lists
      cases given with
      | all each => exact ⟨arena, each first List.mem_cons_self⟩
  | @rest registers heard first rest after ended =>
      obtain ⟨arena, given⟩ := lists
      cases given with
      | all each =>
        obtain ⟨here, later⟩ := List.forall_mem_cons.mp each
        have first : Job.Lists known { registers with task := first } := ⟨arena, here⟩
        have kept := Setting.lists_ends first (knows.of_starts (.first registers heard _ rest))
        rw [ended] at kept
        exact ⟨kept, .all later⟩
  | body registers heard stands announced =>
      obtain ⟨closure, -, rfl⟩ := setting.body_of_announcement announced
      exact ⟨lists.scopes, .activation closure _ nofun⟩

theorem lists_of_reaches (lists : start.job.Lists known) (knows : start.Knows setting limit known)
    (reaches : start.Reaches setting limit visit) :
    visit.job.Lists known ∧ visit.Knows setting limit known := by
  induction reaches with
  | refl => exact ⟨lists, knows⟩
  | tail _ starts ih => exact ⟨lists_of_starts ih.1 ih.2 starts, ih.2.of_starts starts⟩

/-- What is read in the course of a program holds no lists but those of its array literals. -/
theorem exists_made {program : Program} {heard : σ}
    (reaches : (program.visit heard).Reaches setting limit visit) {expression : Expression}
    (evaluates : visit.Evaluates setting limit visit.scopes expression) {items : List Binding}
    (found : (expression.binding visit.scopes visit.current).items? = some items) :
    ∃ literal, (program.visit heard).Made setting limit literal ∧ literal.items = items := by
  let known items := ∃ literal, (program.visit heard).Made setting limit literal ∧
    literal.items = items
  have knows : (program.visit heard).Knows setting limit known :=
    fun literal made => ⟨literal, made, rfl⟩
  have begins : (program.visit heard).job.Lists known := ⟨.initial, .body program.statements⟩
  obtain ⟨lists, knows⟩ := lists_of_reaches begins knows reaches
  exact ((knows.binding_lists lists.scopes evaluates).of_items? found).1

end Visit

/-! ## Loops -/

/-- Whether an expression is `this` or a call; a method of these is not one of a list. -/
def Expression.isReceiver : Expression → Bool
  | .this _ => true
  | .call .. => true
  | _ => false

namespace Task

/-- The passes of a loop over items. -/
def passes (binder : Binder) (items : List Binding) (body : Statement) : Task :=
  .all (items.map fun item => .pass binder item body)

/-- The activations of a callback for items, each with its index. -/
def calls (closure : Closure) (items : List (Binding × Nat)) (span : Span) : Task :=
  .all (items.map fun (item, index) =>
    .activation closure [item, .value (.number (Float.ofNat index))] span)

end Task

namespace Setting

variable {setting limit}

/-- A call of `forEach` is treated as one, whatever it is a method of. -/
theorem treatment_forEach {scopes : Scopes} {scope : Nat} {place : Span} {object : Expression}
    {arguments : List Element} (free : object.isReceiver = false) :
    setting.treatment scopes scope (.member place object "forEach") arguments =
      iteratedTreatment scopes scope object arguments := by
  cases object with
  | this => cases free
  | call => cases free
  | _ => rfl

/-- A call of `forEach` on a list runs the callback for each item and does nothing else. -/
theorem ends_forEach_of_iterated {registers : Registers} {span place : Span} {object : Expression}
    {arguments : List Element} (free : object.isReceiver = false) {items : List Binding}
    {closure : Closure}
    (iterated : iteratedTreatment registers.scopes registers.current object arguments =
      .iterated items closure) (heard : σ) :
    setting.ends limit
        { registers with task := .expression (.call span (.member place object "forEach")
          arguments) } heard =
      setting.ends limit { registers with task := .calls closure items.zipIdx span } heard := by
  have leads : setting.innerOfExpression? registers.scopes registers.current
      (.call span (.member place object "forEach") arguments) =
        some (.calls closure items.zipIdx span) := by
    rw [innerOfExpression?, treatment_forEach free, iterated]
    rfl
  refine (setting.ends_of_innerOfExpression? limit registers _ leads heard).trans ?_
  cases object with
  | call => cases free
  | _ => exact goOn_return _

/-- A call of `forEach` that is not followed only warns. -/
theorem ends_forEach_of_skipped {registers : Registers} {span place : Span} {object : Expression}
    {arguments : List Element} (free : object.isReceiver = false)
    (skipped : iteratedTreatment registers.scopes registers.current object arguments =
      .skipped none) (heard : σ) :
    setting.ends limit
        { registers with task := .expression (.call span (.member place object "forEach")
          arguments) } heard =
      (.ok (), ⟨registers.scopes, setting.listener.noteAll
        (setting.warnings (elementsDeclare setting.interface arguments) span .call) heard⟩) := by
  refine (setting.runExpression_call _ registers.place span _ arguments
    ⟨registers.scopes, heard⟩).trans ?_
  rw [show setting.treatment registers.scopes registers.place.scope _ arguments = .skipped none from
    (treatment_forEach free).trans skipped]
  exact setting.warnIf_apply _ span .call _

end Setting

/--
Whatever loop the machine takes up runs its body once for each item of a list that an
array literal made, with the item and, for `forEach`, its index; or its operand is not
known to be a list, or its callback not known, and it only warns if declarations are
lost.  For `for...of` these are the items that the array of the language has, whatever
is spread, exactly if nothing is spread; and for `forEach` exactly if all elements are
plain.
-/
theorem Machine.iterates (program : Program) (heard : σ) :
    let ended := setting.evaluate limit program heard
    let start := program.visit heard
    ∃ final : State σ,
      HaltsWith setting limit (.body program.statements) ⟨⟨.initial, heard⟩, []⟩
          (ended.1, final) ∧
        final.heard = ended.2 ∧
        ∀ visit ∈ final.trail,
          (∀ span binder iterated body,
            visit.task = .statement (.forOf span binder iterated body) →
            match (iterated.binding visit.scopes visit.current).items? with
            | some items =>
              setting.ends limit visit.job visit.heard =
                  setting.ends limit { visit.toRegisters with task := .passes binder items body }
                    visit.heard ∧
                ∃ literal, start.Made setting limit literal ∧ literal.items = items ∧
                  ((∀ spread, items = ArrayLiteral.visited (literal.slots spread)) ↔
                    ∀ element ∈ literal.elements, element.isSpread = false)
            | none =>
              setting.ends limit visit.job visit.heard =
                (.ok (), ⟨visit.scopes, setting.listener.noteAll
                  (setting.warnings (body.declares setting.interface) span .loop) visit.heard⟩)) ∧
          ∀ span place object arguments,
            visit.task = .expression (.call span (.member place object "forEach") arguments) →
            object.isReceiver = false →
            match (object.binding visit.scopes visit.current).items?,
              Element.closureAt? visit.scopes visit.current arguments 0 with
            | some items, some closure =>
              setting.ends limit visit.job visit.heard =
                  setting.ends limit
                    { visit.toRegisters with task := .calls closure items.zipIdx span }
                    visit.heard ∧
                ∃ literal, start.Made setting limit literal ∧ literal.items = items ∧
                  ((∀ spread, items.zipIdx = ArrayLiteral.visitedEach (literal.slots spread)) ↔
                    ∀ element ∈ literal.elements, element.plain?.isSome = true)
            | _, _ =>
              setting.ends limit visit.job visit.heard =
                (.ok (), ⟨visit.scopes, setting.listener.noteAll
                  (setting.warnings (elementsDeclare setting.interface arguments) span .call)
                    visit.heard⟩) := by
  intro ended start
  obtain ⟨visits, runs⟩ := Visit.exists_runs setting limit start
  refine ⟨_, runs.haltsWith [], rfl, fun visit member => ?_⟩
  have reaches := (runs.mem_iff visit).mp (by simpa using member)
  obtain ⟨⟨registers, heard'⟩, task⟩ := visit
  refine ⟨?_, ?_⟩
  · rintro span binder iterated body ⟨⟩
    split
    case h_1 items found =>
      refine ⟨?_, ?_⟩
      · refine setting.ends_of_innerOfStatement? limit registers _ ?_ heard'
        exact Option.map_eq_some_iff.mpr ⟨items, found, rfl⟩
      · obtain ⟨literal, made, rfl⟩ := Visit.exists_made reaches (.iterated rfl) found
        exact ⟨literal, made, rfl, literal.items_eq_visited_iff⟩
    case h_2 unknown =>
      exact (setting.ends_forOf_of_unknown limit registers span binder body unknown heard').trans
        (setting.warnIf_apply _ span .loop _)
  · rintro span place object arguments ⟨⟩ free
    split
    case h_1 items closure found known =>
      refine ⟨Setting.ends_forEach_of_iterated free ?_ heard', ?_⟩
      · rw [Setting.iteratedTreatment, found, known]
      · obtain ⟨literal, made, rfl⟩ := Visit.exists_made reaches (.object rfl) found
        exact ⟨literal, made, rfl, literal.zipIdx_items_eq_visitedEach_iff⟩
    case h_2 other =>
      refine Setting.ends_forEach_of_skipped free ?_ heard'
      unfold Setting.iteratedTreatment
      split
      case h_1 items closure found known => exact absurd known (other items closure found)
      case h_2 => rfl

end Runs

/-- The array literal over which the first statement of a program loops. -/
def Program.iterated? (program : Program) : Option ArrayLiteral :=
  match program.statements with
  | .expression _ (.call _ (.member _ (.array _ elements) "forEach") _) :: _ =>
    some ⟨elements, .initial, Scopes.file⟩
  | .forOf _ _ (.array _ elements) _ :: _ => some ⟨elements, .initial, Scopes.file⟩
  | _ => none

namespace Setting

/-- The names of the tests of a text, if there is no warning. -/
def unwarnedNames (text : String) : Option (List String) :=
  (Program.parse? false text.toList).bind fun program =>
    let signals := (ofText text).signals activationLimit program
    if signals.any (fun signal => match signal with
        | .notice note => note.isWarning
        | _ => false) then none
    else some (signals.filterMap Signal.name?)

/-- The places of the array of the language over which the first statement of a text loops. -/
def slotsOf (text : String) : Option (List (Option Binding)) :=
  ((Program.parse? false text.toList).bind Program.iterated?).map fun literal =>
    literal.slots fun spread => ((spread.binding .initial Scopes.file).items?).getD []

/--
An element that is spread counts as one, and a place that is left out is visited:
`forEach` and `for...of` run the body too few or too many times, with nothing said of it.
-/
theorem elements_miscounted :
    let spread := "[...['a', 'b']].forEach((n, i) => it(i));"
    let leftOut := "['a', , 'b'].forEach((n, i) => it(i));"
    let loop := "for (const n of [...['a', 'b']]) it('t');"
    ((slotsOf spread).map fun slots => (ArrayLiteral.visitedEach slots).map Prod.snd) =
        some [0, 1] ∧
      unwarnedNames spread = some ["0"] ∧
      ((slotsOf leftOut).map fun slots => (ArrayLiteral.visitedEach slots).map Prod.snd) =
        some [0, 2] ∧
      unwarnedNames leftOut = some ["0", "1", "2"] ∧
      ((slotsOf loop).map fun slots => (ArrayLiteral.visited slots).length) = some 2 ∧
      unwarnedNames loop = some ["t"] := by
  decide +kernel

end Setting

end TestInventory
