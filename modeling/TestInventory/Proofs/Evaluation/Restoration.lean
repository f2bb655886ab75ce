import TestInventory.Proofs.Evaluation.Arena
import TestInventory.Proofs.Evaluation.Visits

/-!
# What is restored and what is kept

Whatever is evaluated, and however it ends, the current scope, the depth and the open
suites are afterwards what they were before, and the arena has only grown.  Text
that rebinds no name changes only the scope in which it stands, and a block, a pass
of a loop and an activation change only scopes that are made for them.
-/

namespace TestInventory

open TestInventory.Source (Span)

variable {strict : Bool}

/-! ## Changes of the arena -/

namespace Scopes.Grown

variable {scopes : Scopes} {scope : Nat} (sound : scopes.Sound strict) (made : scope < scopes.size)
include sound

theorem declare {binding : Binding} (holds : binding.Holds (Closure.Sound strict scopes.size))
    {hoisted : Bool} (tame : Tame strict hoisted) (name : String) :
    Grown strict scope scopes (scopes.declare scope hoisted name binding) := by
  refine .bindIn sound holds _ name fun isStrict => ?_
  rw [tame isStrict]
  rfl

theorem assign {binding : Binding} (holds : binding.Holds (Closure.Sound strict scopes.size))
    (tame : Tame strict true) (name : String) :
    Grown strict scope scopes (scopes.assign scope name binding) :=
  .bindIn sound holds _ name fun isStrict => nomatch tame isStrict

include made

theorem bindFunctions {functions : List (String × Callback)}
    (tame : ∀ entry ∈ functions, Tame strict entry.2.rebinds) :
    Grown strict scope scopes (scopes.bindFunctions scope functions) := by
  induction functions generalizing scopes with
  | nil => exact .refl scope sound
  | cons entry rest ih =>
      obtain ⟨here, later⟩ := List.forall_mem_cons.mp tame
      have first : Grown strict scope scopes _ :=
        .bindIn sound (.callback ⟨entry.2, scope⟩ ⟨made, here⟩) scope entry.1 fun _ => rfl
      exact first.trans (ih first.sound (Nat.lt_of_lt_of_le made first.size) later) (.inl rfl)

theorem hoist {statements : List Statement} (tame : Tame strict (statementsRebind statements)) :
    Grown strict scope scopes (scopes.hoist scope statements) := by
  refine bindFunctions sound made fun entry member => ?_
  obtain ⟨statement, member, found⟩ := List.mem_filterMap.mp member
  rw [statementsRebind_eq_any, Tame.any_iff] at tame
  have free := tame statement member
  cases statement with
  | function _ name callback =>
      cases name with
      | none => cases found
      | some name =>
          cases found
          exact free
  | exported _ declaration =>
      cases declaration with
      | function _ name callback =>
          cases name with
          | none => cases found
          | some name =>
              cases found
              exact free
      | _ => cases found
  | _ => cases found

theorem declareAll {binding : Binding} (holds : binding.Holds (Closure.Sound strict scopes.size))
    {hoisted : Bool} (tame : Tame strict hoisted) (names : List String) :
    Grown strict scope scopes (scopes.declareAll scope hoisted binding names) := by
  induction names generalizing scopes with
  | nil => exact .refl scope sound
  | cons name rest ih =>
      have first : Grown strict scope scopes (scopes.declare scope hoisted name binding) :=
        declare sound holds tame name
      have kept := holds.mono fun _ has => has.mono first.size
      exact first.trans (ih first.sound (Nat.lt_of_lt_of_le made first.size) kept) (.inl rfl)

theorem bindItem {binder : Binder} {item : Binding}
    (holds : item.Holds (Closure.Sound strict scopes.size)) (tame : Tame strict binder.rebinds) :
    Grown strict scope scopes (scopes.bindItem scope binder item) := by
  cases binder with
  | declaration hoisted declarators =>
      exact declareAll sound made holds (Tame.or_iff.mp tame).1 _
  | target target =>
      cases target with
      | name name =>
          have free : Tame strict (true || Target.rebinds (.name name)) := tame
          exact assign sound holds (Tame.or_iff.mp free).1 name
      | other parts => exact .refl scope sound

theorem bindParameters (targets : List Target) {arguments : List Binding}
    (hold : ∀ binding ∈ arguments, binding.Holds (Closure.Sound strict scopes.size)) :
    Grown strict scope scopes (scopes.bindParameters scope targets arguments) := by
  induction targets generalizing scopes arguments with
  | nil => exact .refl scope sound
  | cons target rest ih =>
      have others : ∀ binding ∈ arguments.tail, binding.Holds (Closure.Sound strict scopes.size) :=
        fun binding member => hold binding (List.mem_of_mem_tail member)
      cases target with
      | other parts => exact ih sound made others
      | name name =>
          have holds :
              (arguments.head?.getD .unknown).Holds (Closure.Sound strict scopes.size) := by
            cases arguments with
            | nil => exact .unknown
            | cons first rest => exact hold first List.mem_cons_self
          have first : Grown strict scope scopes _ := .bindIn sound holds scope name fun _ => rfl
          refine first.trans (ih first.sound (Nat.lt_of_lt_of_le made first.size) ?_) (.inl rfl)
          exact fun binding member => (others binding member).mono fun _ has => has.mono first.size

end Scopes.Grown

/-! ## Sound jobs -/

/-- Whether a task brings no closures but sound ones, and no text that rebinds names. -/
inductive Task.Sound (strict : Bool) (size : Nat) : Task → Prop where
  | expression {expression : Expression} (tame : Tame strict expression.rebinds) :
    Sound strict size (.expression expression)
  | declarator {hoisted : Bool} {declarator : Declarator}
      (tame : Tame strict (hoisted || declarator.rebinds)) :
    Sound strict size (.declarator hoisted declarator)
  | statement {statement : Statement} (tame : Tame strict statement.rebinds) :
    Sound strict size (.statement statement)
  | body {statements : List Statement} (tame : Tame strict (statementsRebind statements)) :
    Sound strict size (.body statements)
  | pass {binder : Binder} {item : Binding} {body : Statement}
      (holds : item.Holds (Closure.Sound strict size))
      (tame : Tame strict (binder.rebinds || body.rebinds)) :
    Sound strict size (.pass binder item body)
  | activation {closure : Closure} {arguments : List Binding} (span : Span)
      (sound : closure.Sound strict size)
      (hold : ∀ binding ∈ arguments, binding.Holds (Closure.Sound strict size)) :
    Sound strict size (.activation closure arguments span)
  | all {tasks : List Task} (each : ∀ task ∈ tasks, Sound strict size task) :
    Sound strict size (.all tasks)

theorem Task.Sound.mono {size size' : Nat} {task : Task} (sound : task.Sound strict size)
    (larger : size ≤ size') : task.Sound strict size' := by
  induction sound with
  | expression tame => exact .expression tame
  | declarator tame => exact .declarator tame
  | statement tame => exact .statement tame
  | body tame => exact .body tame
  | pass holds tame => exact .pass (holds.mono fun _ has => has.mono larger) tame
  | activation span sound hold =>
      exact .activation span (sound.mono larger) fun binding member =>
        (hold binding member).mono fun _ has => has.mono larger
  | all _ ih => exact .all ih

/-- Whether a task opens a scope of its own, in which all else of it is done. -/
def Task.opens : Task → Bool
  | .statement (.block ..) => true
  | .pass .. => true
  | .activation .. => true
  | _ => false

/-- What opens a scope of its own binds no name once it is finished. -/
theorem Scopes.finish_of_opens {task : Task} (opens : task.opens = true) (scopes : Scopes)
    (scope : Nat) : scopes.finish scope task = scopes := by
  cases task with
  | statement => rfl
  | pass => rfl
  | activation => rfl
  | _ => cases opens

namespace Job

/-- Whether a job stands in a scope of a sound arena and has a sound task. -/
structure Sound (strict : Bool) (job : Job) : Prop where
  scopes : job.scopes.Sound strict
  current : job.current < job.scopes.size
  task : job.task.Sound strict job.scopes.size

/-- The scope that a job may change if it rebinds no name: the current one, or one of its own. -/
def touched (job : Job) : Nat := if job.task.opens then job.scopes.size else job.current

theorem touched_of_opens {job : Job} (opens : job.task.opens = true) :
    job.touched = job.scopes.size := if_pos opens

theorem touched_of_not_opens (job : Job) (closed : job.task.opens = false) :
    job.touched = job.current := if_neg (by simp [closed])

/-- A job changes no scope that was there, the current one apart. -/
theorem touched_or (job : Job) : job.touched = job.current ∨ job.scopes.size ≤ job.touched := by
  cases opens : job.task.opens with
  | true => exact .inr (Nat.le_of_eq (touched_of_opens opens).symm)
  | false => exact .inl (touched_of_not_opens job opens)

/-- A sound job that grows out of another, in whose scope it stands or in a new one. -/
structure GrowsFrom (strict : Bool) (inner outer : Job) : Prop where
  sound : inner.Sound strict
  grown : Scopes.Grown strict outer.touched outer.scopes inner.scopes
  touches : inner.touched = outer.touched ∨ outer.scopes.size ≤ inner.touched

/-- What stands in the same scope grows out of a task that opens none. -/
theorem GrowsFrom.of_same {registers : Registers} {task task' : Task} {scopes : Scopes}
    (closed : task.opens = false)
    (made : registers.current < registers.scopes.size)
    (grown : Scopes.Grown strict registers.current registers.scopes scopes)
    (free : task'.Sound strict scopes.size) :
    GrowsFrom strict { registers with scopes, task := task' } { registers with task } where
  sound := ⟨grown.sound, Nat.lt_of_lt_of_le made grown.size, free⟩
  grown := by
    rw [touched_of_not_opens _ closed]
    exact grown
  touches := by
    rw [touched_of_not_opens { registers with task } closed]
    rcases touched_or { registers with scopes, task := task' } with same | beyond
    · exact .inl same
    · exact .inr (Nat.le_trans grown.size beyond)

/-- What stands in a new scope grows out of a task that opens one. -/
theorem GrowsFrom.of_new {registers inner : Registers} {task task' : Task}
    (opens : task.opens = true) (new : inner.current = registers.scopes.size)
    (larger : registers.scopes.size < inner.scopes.size)
    (grown : Scopes.Grown strict registers.scopes.size registers.scopes inner.scopes)
    (free : task'.Sound strict inner.scopes.size) :
    GrowsFrom strict { inner with task := task' } { registers with task } where
  sound := ⟨grown.sound, Nat.lt_of_le_of_lt (Nat.le_of_eq new) larger, free⟩
  grown := by
    rw [touched_of_opens opens]
    exact grown
  touches := by
    refine .inr ?_
    rcases touched_or { inner with task := task' } with same | beyond
    · exact Nat.le_of_eq (same.trans new).symm
    · exact Nat.le_trans grown.size beyond

end Job

/-- Whether a treatment of a call brings no closures but those with a property. -/
def Treatment.Brings (property : Closure → Prop) : Treatment → Prop
  | .iterated items closure => (∀ item ∈ items, item.Holds property) ∧ property closure
  | .activated closure => property closure
  | _ => True

theorem Expression.rebinds_of_receiver? {callee object : Expression}
    (receiver : callee.receiver? = some object) : callee.rebinds = object.rebinds := by
  cases callee with
  | member _ receiving property =>
      cases receiving with
      | call =>
          cases receiver
          rfl
      | _ => cases receiver
  | _ => cases receiver

/-! ## What evaluating does to the arena -/

namespace Setting

variable {σ : Type} {setting : Setting σ} {limit : Nat}

section Calls

variable {scopes : Scopes} {scope : Nat} (sound : scopes.Sound strict)
include sound

theorem namedTreatment_brings (name : String) (modifier : Option String) :
    (setting.namedTreatment scopes scope name modifier).Brings
      (Closure.Sound strict scopes.size) := by
  unfold namedTreatment
  split
  · trivial
  · split
    case h_1 closure known =>
      split at known
      · exact sound.closure_of_lookup known
      · cases known
    case h_2 => trivial

variable (made : scope < scopes.size)
include made

theorem iteratedTreatment_brings {iterated : Expression} {arguments : List Element}
    (tame : Tame strict iterated.rebinds) (tameArguments : Tame strict (elementsRebind arguments)) :
    (iteratedTreatment scopes scope iterated arguments).Brings
      (Closure.Sound strict scopes.size) := by
  unfold iteratedTreatment
  split
  case h_1 items closure knownItems known =>
    exact ⟨(Expression.binding_holds sound made iterated tame).of_items? knownItems,
      Element.closureAt?_sound sound made tameArguments known⟩
  case h_2 => trivial

theorem treatment_brings {callee : Expression} {arguments : List Element}
    (tame : Tame strict callee.rebinds) (tameArguments : Tame strict (elementsRebind arguments)) :
    (setting.treatment scopes scope callee arguments).Brings
      (Closure.Sound strict scopes.size) := by
  cases callee with
  | identifier _ name => exact namedTreatment_brings sound name none
  | member _ object property =>
      have iterated : (iteratedTreatment scopes scope object arguments).Brings
          (Closure.Sound strict scopes.size) :=
        iteratedTreatment_brings sound made tame tameArguments
      have member : (setting.memberTreatment scopes scope object property arguments).Brings
          (Closure.Sound strict scopes.size) := by
        unfold memberTreatment
        split
        · exact iterated
        · split
          · exact namedTreatment_brings sound ..
          · trivial
      cases object with
      | this => trivial
      | call => trivial
      | _ => exact member
  | _ => trivial

theorem sound_of_innerOfExpression? {expression : Expression}
    (tame : Tame strict expression.rebinds) {task : Task}
    (leads : setting.innerOfExpression? scopes scope expression = some task) :
    task.Sound strict scopes.size := by
  cases expression with
  | call span callee arguments =>
      obtain ⟨tameCallee, tameArguments⟩ := Tame.or_iff.mp tame
      have brings := setting.treatment_brings sound made tameCallee tameArguments
      obtain ⟨-, continued⟩ := setting.treatment_spec scopes scope callee arguments
      simp only [innerOfExpression?] at leads
      cases treated : setting.treatment scopes scope callee arguments with
      | chained object =>
          rw [treated] at leads continued
          cases leads
          exact .expression (Expression.rebinds_of_receiver? continued.symm ▸ tameCallee)
      | iterated items closure =>
          rw [treated] at leads brings
          cases leads
          obtain ⟨hold, soundClosure⟩ := brings
          refine .all fun task member => ?_
          obtain ⟨⟨item, index⟩, indexed, rfl⟩ := List.mem_map.mp member
          refine .activation span soundClosure (List.forall_mem_cons.mpr ⟨?_, ?_⟩)
          · exact hold item (List.fst_mem_of_mem_zipIdx indexed)
          · exact List.forall_mem_singleton.mpr (.value _)
      | activated closure =>
          rw [treated] at leads brings
          cases leads
          exact .activation span brings (elementBindings_hold sound made arguments tameArguments)
      | _ =>
          rw [treated] at leads
          cases leads
  | await _ operand =>
      cases leads
      exact .expression tame
  | parenthesized _ inner =>
      cases leads
      exact .expression tame
  | sequence _ items =>
      cases leads
      have free : Tame strict (expressionsRebind items) := tame
      rw [expressionsRebind_eq_any, Tame.any_iff] at free
      refine .all fun task member => ?_
      obtain ⟨item, inside, rfl⟩ := List.mem_map.mp member
      exact .expression (free item inside)
  | assign _ target value =>
      cases leads
      exact .expression (Tame.or_iff.mp tame).2
  | _ => cases leads

end Calls

theorem grows_of_innerOfStatement? {registers : Registers} {statement : Statement} {inner : Job}
    (sound : Job.Sound strict { registers with task := .statement statement })
    (leads : innerOfStatement? registers statement = some inner) :
    inner.GrowsFrom strict { registers with task := .statement statement } := by
  obtain ⟨arena, made, free⟩ := sound
  cases free with
  | statement tame =>
    have same := Scopes.Grown.refl registers.current arena
    have declared : ∀ hoisted declarators,
        Tame strict (Statement.declaration default hoisted declarators).rebinds →
        Task.Sound strict registers.scopes.size (.all (declarators.map (.declarator hoisted))) := by
      intro hoisted declarators tame
      obtain ⟨tameHoisted, tame⟩ := Tame.or_iff.mp tame
      rw [declaratorsRebind_eq_any, Tame.any_iff] at tame
      refine .all fun task member => ?_
      obtain ⟨declarator, inside, rfl⟩ := List.mem_map.mp member
      exact .declarator (Tame.or_iff.mpr ⟨tameHoisted, tame declarator inside⟩)
    cases statement with
    | expression _ expression =>
        cases leads
        exact .of_same rfl made same (.expression tame)
    | block _ body =>
        cases leads
        refine .of_new rfl rfl (Nat.lt_of_lt_of_eq (Nat.lt_succ_self _) (Scopes.size_add ..).symm)
          (.add arena made false) ?_
        exact .body tame
    | declaration _ hoisted declarators =>
        cases leads
        exact .of_same rfl made same (declared hoisted declarators tame)
    | exported _ declaration =>
        cases declaration with
        | declaration _ hoisted declarators =>
            cases leads
            exact .of_same rfl made same (declared hoisted declarators tame)
        | _ => cases leads
    | forOf _ binder iterated body =>
        obtain ⟨items, known, rfl⟩ := Option.map_eq_some_iff.mp leads
        obtain ⟨tame, tameBody⟩ := Tame.or_iff.mp tame
        obtain ⟨tameBinder, tame⟩ := Tame.or_iff.mp tame
        have hold := (Expression.binding_holds arena made iterated tame).of_items? known
        refine .of_same rfl made same (.all fun task member => ?_)
        obtain ⟨item, inside, rfl⟩ := List.mem_map.mp member
        exact .pass (hold item inside) (Tame.or_iff.mpr ⟨tameBinder, tameBody⟩)
    | _ => cases leads

theorem sound_of_callback {size : Nat} {callback : Callback}
    (tame : Tame strict callback.rebinds) : callback.task.Sound strict size := by
  cases callback with
  | block parameters body => exact .body (Tame.or_iff.mp tame).2
  | arrow parameters body => exact .expression (Tame.or_iff.mp tame).2

theorem grows_of_inner? {job inner : Job} (sound : job.Sound strict)
    (leads : setting.inner? limit job = some inner) : inner.GrowsFrom strict job := by
  obtain ⟨registers, task⟩ := job
  obtain ⟨arena, made, free⟩ := sound
  have same := Scopes.Grown.refl registers.current arena
  have opened : ∀ parent ofFunction, registers.scopes.size <
      (registers.scopes.add parent ofFunction).size := fun parent ofFunction =>
    Nat.lt_of_lt_of_eq (Nat.lt_succ_self _) (Scopes.size_add ..).symm
  cases task with
  | expression expression =>
      obtain ⟨task, found, rfl⟩ := Option.map_eq_some_iff.mp leads
      cases free with
      | expression tame =>
          exact .of_same rfl made same (sound_of_innerOfExpression? arena made tame found)
  | declarator hoisted declarator =>
      obtain ⟨target, value⟩ := declarator
      obtain ⟨value, rfl, rfl⟩ := Option.map_eq_some_iff.mp leads
      cases free with
      | declarator tame =>
          exact .of_same rfl made same (.expression (Tame.or_iff.mp (Tame.or_iff.mp tame).2).2)
  | statement statement => exact grows_of_innerOfStatement? ⟨arena, made, free⟩ leads
  | body statements =>
      cases leads
      cases free with
      | body tame =>
          refine .of_same rfl made (.hoist arena made tame) (.all fun task member => ?_)
          rw [statementsRebind_eq_any, Tame.any_iff] at tame
          obtain ⟨statement, inside, rfl⟩ := List.mem_map.mp member
          exact .statement (tame statement inside)
  | pass binder item body =>
      cases leads
      cases free with
      | pass holds tame =>
          obtain ⟨tameBinder, tameBody⟩ := Tame.or_iff.mp tame
          have first : Scopes.Grown strict registers.scopes.size registers.scopes
              (registers.scopes.add registers.current false) := .add arena made false
          have second := Scopes.Grown.bindItem first.sound (opened registers.current false)
            (holds.mono fun _ has => has.mono first.size) tameBinder
          refine .of_new rfl rfl ?_ (first.trans second (.inl rfl)) (.statement tameBody)
          exact Nat.lt_of_lt_of_le (opened registers.current false) second.size
  | activation closure arguments span =>
      simp only [inner?] at leads
      split at leads
      case isFalse => cases leads
      case isTrue live =>
        cases leads
        cases free with
        | activation _ soundClosure hold =>
            have first : Scopes.Grown strict registers.scopes.size registers.scopes
                (registers.scopes.add closure.scope true) := .add arena soundClosure.scope true
            have second := Scopes.Grown.bindParameters first.sound (opened closure.scope true)
              closure.callback.parameters fun binding member =>
                (hold binding member).mono fun _ has => has.mono first.size
            refine .of_new rfl rfl ?_ (first.trans second (.inl rfl))
              (sound_of_callback soundClosure.tame)
            exact Nat.lt_of_lt_of_le (opened closure.scope true) second.size
  | all tasks => cases leads

/-- The body of an announced suite may change what the call may change. -/
theorem grows_of_announcement {registers : Registers} {span : Span} {callee : Expression}
    {arguments : List Element} {entry : Entry} {call : SuiteCall} {body : Job}
    (sound : Job.Sound strict { registers with task := .expression (.call span callee arguments) })
    (announced : setting.announcement registers span entry arguments = .suite call (some body)) :
    body.GrowsFrom strict { registers with task := .expression (.call span callee arguments) } := by
  obtain ⟨arena, made, free⟩ := sound
  obtain ⟨closure, known, rfl⟩ := setting.body_of_announcement announced
  cases free with
  | expression tame =>
      have soundClosure :=
        Element.closureAt?_sound arena made (Tame.or_iff.mp tame).2 known
      exact {
        sound := ⟨arena, made, .activation span soundClosure nofun⟩
        grown := .refl _ arena
        touches := .inr (Nat.le_refl _) }

theorem grows_finish {scopes : Scopes} {scope : Nat} (arena : scopes.Sound strict)
    (made : scope < scopes.size) {task : Task} (free : task.Sound strict scopes.size) :
    Scopes.Grown strict scope scopes (scopes.finish scope task) := by
  have same := Scopes.Grown.refl scope arena
  cases free with
  | expression tame =>
      rename_i expression
      cases expression with
      | assign _ target value =>
          obtain ⟨tameTarget, tameValue⟩ := Tame.or_iff.mp tame
          cases target with
          | name name =>
              exact .assign arena (Expression.binding_holds arena made value tameValue)
                (Tame.or_iff.mp tameTarget).1 name
          | other => exact same
      | _ => exact same
  | declarator tame =>
      rename_i hoisted declarator
      obtain ⟨tameHoisted, tame⟩ := Tame.or_iff.mp tame
      obtain ⟨target, value⟩ := declarator
      cases target with
      | other => cases value <;> exact same
      | name name =>
          cases value with
          | none => exact same
          | some value =>
              have free : Tame strict (Target.rebinds (.name name) || value.rebinds) := tame
              have holds := Expression.binding_holds arena made value (Tame.or_iff.mp free).2
              exact .declare arena holds tameHoisted name
  | _ => exact same

section

variable (setting : Setting σ) (limit : Nat)

/-- Whether the arena only grows while a job is done, with at most one old scope touched. -/
def EndsGrown (strict : Bool) (job : Job) (heard : σ) : Prop :=
  Scopes.Grown strict job.touched job.scopes (setting.ends limit job heard).2.scopes

variable {setting limit}

theorem endsGrown_row {registers : Registers} {first : Task} {rest : List Task} {heard : σ}
    (sound : Job.Sound strict { registers with task := .all (first :: rest) })
    (firstGrows : Job.Sound strict { registers with task := first } →
      setting.EndsGrown limit strict { registers with task := first } heard)
    (restGrows : ∀ scopes, Job.Sound strict { registers with scopes, task := .all rest } →
      ∀ heard, setting.EndsGrown limit strict { registers with scopes, task := .all rest } heard) :
    setting.EndsGrown limit strict { registers with task := .all (first :: rest) } heard := by
  obtain ⟨arena, made, free⟩ := sound
  cases free with
  | all each =>
    obtain ⟨here, later⟩ := List.forall_mem_cons.mp each
    have grown := firstGrows ⟨arena, made, here⟩
    have through := (Scopes.Grown.refl registers.current arena).trans grown (Job.touched_or _)
    rw [EndsGrown, ends_all_cons]
    rcases ended : setting.ends limit { registers with task := first } heard with ⟨_ | _, after⟩
    · rw [ended] at through
      exact through
    · rw [ended] at through
      have soundRest : Job.Sound strict
          { registers with scopes := after.scopes, task := .all rest } :=
        ⟨through.sound, Nat.lt_of_lt_of_le made through.size,
          .all fun task member => (later task member).mono through.size⟩
      exact through.trans (restGrows after.scopes soundRest after.heard) (.inl rfl)

theorem endsGrown_within {job inner : Job} (sound : job.Sound strict)
    (leads : setting.inner? limit job = some inner) {heard : σ}
    (innerGrows : inner.Sound strict → setting.EndsGrown limit strict inner heard) :
    setting.EndsGrown limit strict job heard := by
  obtain ⟨soundInner, grown, touches⟩ := grows_of_inner? sound leads
  have through := grown.trans (innerGrows soundInner) touches
  rw [EndsGrown, setting.ends_of_inner? limit leads]
  rcases ended : setting.ends limit inner heard with ⟨_ | _, after⟩
  · rw [ended] at through
    exact through
  · rw [ended] at through
    rw [Evaluating.goOn_ok, setting.finish_apply]
    cases opens : job.task.opens with
    | true =>
        rw [Scopes.finish_of_opens opens]
        exact through
    | false =>
        have made := Nat.lt_of_lt_of_le sound.current through.size
        exact through.trans (grows_finish through.sound made (sound.task.mono through.size))
          (.inl (job.touched_of_not_opens opens).symm)

theorem endsGrown_declaring {registers : Registers} {span : Span} {callee : Expression}
    {arguments : List Element} {entry : Entry}
    (sound : Job.Sound strict
      { registers with task := .expression (.call span callee arguments) })
    (stands : setting.interface.entryOf? callee = some entry)
    (bodyGrows : ∀ call body, setting.announcement registers span entry arguments =
      .suite call (some body) → body.Sound strict →
      ∀ heard, setting.EndsGrown limit strict body heard) (heard : σ) :
    setting.EndsGrown limit strict
      { registers with task := .expression (.call span callee arguments) } heard := by
  have same := Scopes.Grown.refl registers.current sound.scopes
  rw [EndsGrown, setting.ends_of_declaring limit registers span arguments stands]
  cases announced : setting.announcement registers span entry arguments with
  | leaf signal => exact same
  | missing error => exact same
  | suite call body =>
      simp only [announce]
      rcases setting.listener.suite call _ with ⟨_ | _ | _, heard'⟩
      · cases body with
        | none => exact same
        | some body =>
            obtain ⟨soundBody, grown, touches⟩ := grows_of_announcement sound announced
            exact grown.trans (bodyGrows call body announced soundBody heard') touches
      · exact same
      · exact same

theorem endsGrown_alone {job : Job} (sound : job.Sound strict)
    (lone : setting.Alone limit job) (heard : σ) : setting.EndsGrown limit strict job heard := by
  obtain ⟨notes, outcome, after, idles, changes⟩ := lone.idle
  have ended : setting.ends limit job heard = _ := idles σ setting.listener heard
  rw [EndsGrown, ended]
  rcases changes with rfl | ⟨hoisted, name, declares, rfl⟩
  · exact .refl _ sound.scopes
  · obtain ⟨registers, task⟩ := job
    cases declares
    cases sound.task with
    | declarator tame => exact .declare sound.scopes .unknown (Tame.or_iff.mp tame).1 name

end

/-- Whatever a job does, the arena has only grown, and at most one old scope was touched. -/
theorem grown_ends (setting : Setting σ) (limit : Nat) {job : Job} (sound : job.Sound strict)
    (heard : σ) :
    Scopes.Grown strict job.touched job.scopes (setting.ends limit job heard).2.scopes := by
  show setting.EndsGrown limit strict job heard
  induction job using setting.job_induction limit generalizing heard with
  | none registers => exact .refl _ sound.scopes
  | row registers first rest firstGrows restGrows =>
      exact endsGrown_row sound (firstGrows · heard) restGrows
  | within job inner leads innerGrows => exact endsGrown_within sound leads (innerGrows · heard)
  | declaring registers span callee arguments entry stands bodyGrows =>
      exact endsGrown_declaring sound stands bodyGrows heard
  | alone job lone => exact endsGrown_alone sound lone heard

end Setting

/-! ## What the machine leaves behind -/

variable {σ : Type} {setting : Setting σ} {limit : Nat}

/-- The job of a program is sound, and strictly so if the program rebinds no name. -/
theorem Program.sound_job {program : Program} (tame : Tame strict program.rebinds) :
    program.job.Sound strict :=
  ⟨Scopes.sound_initial strict, Nat.zero_lt_one, .body tame⟩

theorem Visit.sound_of_starts {visit next : Visit σ} (sound : visit.job.Sound strict)
    (starts : Starts setting limit visit next) : next.job.Sound strict := by
  cases starts with
  | inner leads => exact (Setting.grows_of_inner? sound leads).sound
  | first registers heard first rest =>
      obtain ⟨arena, made, free⟩ := sound
      cases free with
      | all each => exact ⟨arena, made, each first List.mem_cons_self⟩
  | @rest registers heard first rest after ended =>
      obtain ⟨arena, made, free⟩ := sound
      cases free with
      | all each =>
        obtain ⟨here, later⟩ := List.forall_mem_cons.mp each
        have soundFirst : Job.Sound strict { registers with task := first } := ⟨arena, made, here⟩
        have grown := setting.grown_ends limit soundFirst heard
        rw [ended] at grown
        refine ⟨grown.sound, Nat.lt_of_lt_of_le made grown.size, .all fun task member => ?_⟩
        exact (later task member).mono grown.size
  | body registers heard stands announced =>
      exact (Setting.grows_of_announcement sound announced).sound

theorem Visit.sound_of_reaches {start visit : Visit σ} (sound : start.job.Sound strict)
    (reaches : start.Reaches setting limit visit) : visit.job.Sound strict := by
  induction reaches with
  | refl => exact sound
  | tail _ starts ih => exact sound_of_starts ih starts

/--
Whether the current scope is one of a tree of scopes, and every chain of scopes
leads from parent to parent to the scope of the file.
-/
structure Registers.Valid (registers : Registers) : Prop where
  rooted : registers.scopes.Rooted
  current : registers.current < registers.scopes.size
  chain : ∀ (start : Nat) (scope : Scope), registers.scopes.arena[start]? = some scope →
    registers.scopes.chain start = (start, scope) ::
      match scope.parent with
      | none => []
      | some parent => registers.scopes.chain parent
  ends : ∀ start < registers.scopes.size, ∃ scope : Scope,
    (registers.scopes.chain start).getLast? = some (Scopes.file, scope) ∧ scope.ofFunction = true

theorem Registers.Valid.of_rooted {registers : Registers} (rooted : registers.scopes.Rooted)
    (made : registers.current < registers.scopes.size) : registers.Valid :=
  ⟨rooted, made, fun _ _ found => rooted.chain_eq found, fun _ small => rooted.getLast?_chain small⟩

/--
Whatever the machine takes up while it does a program, it ends there as the
evaluation does.  However that is, the current scope, the depth and the open suites
are afterwards as before, the scopes form a tree before and after, and no scope loses
its parent, its kind or a binding.  If the program rebinds no name, then a block, a
pass of a loop and an activation change none of the scopes that were there before,
and all else only the current one.
-/
theorem Machine.restores (setting : Setting σ) (limit : Nat) (program : Program) (heard : σ) :
    let ended := setting.evaluate limit program heard
    ∃ final : State σ,
      HaltsWith setting limit (.body program.statements) ⟨⟨.initial, heard⟩, []⟩
          (ended.1, final) ∧
        final.heard = ended.2 ∧
        ∀ visit ∈ final.trail, visit.Valid ∧
          ∀ trail, ∃ after : State σ,
            let ended := setting.ends limit visit.job visit.heard
            HaltsWith setting limit visit.task ⟨visit.toStation, trail⟩ (ended.1, after) ∧
              after.scopes = ended.2.scopes ∧ after.heard = ended.2.heard ∧
              after.current = visit.current ∧ after.depth = visit.depth ∧
              after.suites = visit.suites ∧ after.Valid ∧ visit.scopes.Keeps after.scopes ∧
              (program.rebinds = false → ∀ index < visit.scopes.size,
                visit.task.opens = true ∨ index ≠ visit.current →
                after.scopes.arena[index]? = visit.scopes.arena[index]?) := by
  intro ended
  obtain ⟨visits, runs⟩ := Visit.exists_runs setting limit (program.visit heard)
  refine ⟨_, runs.haltsWith [], rfl, fun visit member => ?_⟩
  have reaches := (runs.mem_iff visit).mp (by simpa using member)
  have start : ∀ {strict : Bool}, Tame strict program.rebinds →
      (program.visit heard).job.Sound strict := Program.sound_job
  have lax : Tame false program.rebinds := nofun
  have sound : visit.job.Sound false := Visit.sound_of_reaches (start lax) reaches
  refine ⟨.of_rooted sound.scopes.toRooted sound.current, fun trail => ?_⟩
  obtain ⟨visits, runs⟩ := Visit.exists_runs setting limit visit
  have grown := setting.grown_ends limit sound visit.heard
  refine ⟨_, runs.haltsWith trail, rfl, rfl, rfl, rfl, rfl, ?_, grown.toKeeps, ?_⟩
  · exact .of_rooted grown.sound.toRooted (Nat.lt_of_lt_of_le sound.current grown.size)
  · intro tame index small apart
    have strictly : visit.job.Sound true :=
      Visit.sound_of_reaches (start fun _ => tame) reaches
    have grown := setting.grown_ends limit strictly visit.heard
    refine grown.same rfl index small ?_
    rcases apart with opens | other
    · rw [Job.touched_of_opens opens]
      exact Nat.ne_of_lt small
    · rcases visit.job.touched_or with same | beyond
      · rw [same]
        exact other
      · exact Nat.ne_of_lt (Nat.lt_of_lt_of_le small beyond)

end TestInventory
