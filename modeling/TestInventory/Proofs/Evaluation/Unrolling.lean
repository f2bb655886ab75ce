import TestInventory.Proofs.Evaluation.Arrays
import TestInventory.Proofs.Evaluation.Imitation

/-!
# Loops written out

A loop over a known list of values does what a row of blocks does, each of which
declares the variable of the loop and holds the body; and, unless variables of the
function are declared in the body or the limit is hit, what `forEach` does with a
callback that has the variable as its parameter.  Each pass has a variable of its own.
-/

namespace TestInventory

open TestInventory.Source (Span)
open Evaluating

/-! ## Variables of scopes -/

namespace Scopes

variable {scopes : Scopes}

/--
Whether a scope has a variable of its own: whatever reads the name inside finds it there
or further inside, and does not see what the name is bound to elsewhere.
-/
structure Owns (scopes : Scopes) (own : Nat) (name : String) : Prop where
  found : ∀ inner, scopes.Inside inner own → ∃ index holder binding,
    scopes.Inside inner index ∧ scopes.Inside index own ∧ scopes.arena[index]? = some holder ∧
      holder.bindings.find? name = some binding ∧ scopes.lookup inner name = some binding
  kept : ∀ inner outside, scopes.Inside inner own → ¬ scopes.Inside outside own →
    ∀ binding, scopes.SameNames (scopes.bindIn outside name binding) inner

theorem Rooted.owns (rooted : scopes.Rooted) {own : Nat} {scope : Scope}
    (present : scopes.arena[own]? = some scope) {name : String}
    (binds : scope.bindings.binds name) : scopes.Owns own name where
  found _ inside := inside.exists_binding rooted present binds
  kept _ _ inside apart binding := inside.sameNames rooted present binds apart binding

theorem Inside.le (rooted : scopes.Rooted) {inner outer : Nat}
    (inside : scopes.Inside inner outer) : outer ≤ inner := by
  induction inside with
  | self scope => exact Nat.le_refl scope
  | parent found enclosing _ ih =>
      exact Nat.le_of_lt (Nat.lt_of_le_of_lt ih (rooted.parent_lt found enclosing))

/-- Of two scopes with the same scope around them neither is inside the other. -/
theorem Rooted.not_inside (rooted : scopes.Rooted) {first second : Nat} {scope scope' : Scope}
    (found : scopes.arena[first]? = some scope) (found' : scopes.arena[second]? = some scope')
    {parent : Nat} (enclosing : scope.parent = some parent)
    (enclosing' : scope'.parent = some parent) (other : first ≠ second) :
    ¬ scopes.Inside first second := by
  intro inside
  cases inside with
  | self => exact other rfl
  | parent present between inside =>
      cases found.symm.trans present
      cases enclosing.symm.trans between
      exact Nat.not_lt.mpr (inside.le rooted) (rooted.parent_lt found' enclosing')

end Scopes

/-! ## Loops -/

/-- A loop over values that declares a constant for each of them. -/
structure Loop extends Registers where
  iterated : Expression
  values : List Value
  name : String
  body : Statement
  sound : scopes.Sound false
  made : current < scopes.size
  known : (iterated.binding scopes current).items? = some (values.map .value)

namespace Loop

variable (loop : Loop)

/-- The loop as a statement. -/
def statement (span : Span) : Statement :=
  .forOf span (.constant loop.name) loop.iterated loop.body

/-- The call of `forEach` with certain statements in the callback, as a statement. -/
def forEach (whole call place function : Span) (statements : List Statement) : Statement :=
  .expression whole (.forEach call place function loop.iterated loop.name statements)

/-- The pass for a value. -/
def task (value : Value) : Task := .pass (.constant loop.name) (.value value) loop.body

/-- How a row of statements ends where the loop stands. -/
def run {σ : Type} (setting : Setting σ) (limit : Nat) (heard : σ) (row : List Statement) :
    Outcome × Progress σ :=
  setting.ends limit { loop.toRegisters with task := .all (row.map .statement) } heard

theorem sound_passes (values : List Value) :
    ∀ task ∈ values.map loop.task, ∀ size, task.Sound false size := by
  intro task member size
  obtain ⟨value, -, rfl⟩ := List.mem_map.mp member
  exact .pass (.value value) nofun

theorem abreast : Abreast .same loop.toRegisters loop.toRegisters where
  scopes := .refl loop.sound
  live := .inl rfl
  current := (Roles.index_same _).symm
  suites := rfl
  depth := Nat.le_refl _
  sound := loop.sound
  made := loop.made
  level := rfl
  settled _ _ := by simp [Roles.same]

theorem ends_statement {σ : Type} (setting : Setting σ) (limit : Nat) (span : Span) (heard : σ) :
    setting.ends limit { loop.toRegisters with task := .statement (loop.statement span) } heard =
      setting.ends limit { loop.toRegisters with task := .all (loop.values.map loop.task) }
        heard := by
  have leads : Setting.innerOfStatement? loop.toRegisters (loop.statement span) =
      some { loop.toRegisters with
        task := .all ((loop.values.map Binding.value).map fun item =>
          .pass (.constant loop.name) item loop.body) } :=
    Option.map_eq_some_iff.mpr ⟨_, loop.known, rfl⟩
  rw [List.map_map] at leads
  exact setting.ends_of_innerOfStatement? limit loop.toRegisters _ leads heard

/-- What is known to be a list is neither `this` nor a call. -/
theorem not_isReceiver : loop.iterated.isReceiver = false := by
  have known := loop.known
  cases iterated : loop.iterated with
  | this => rw [iterated] at known; cases known
  | call => rw [iterated] at known; cases known
  | _ => rfl

end Loop

namespace Setting

variable {σ : Type} (setting : Setting σ) (limit : Nat)

/-- A pass that a loop comes to, with what the passes before have left. -/
structure Pass (loop : Loop) (heard : σ) where
  before : List Value
  value : Value
  after : List Value
  split : loop.values = before ++ value :: after
  between : Progress σ
  reached : setting.ends limit
    { loop.toRegisters with task := .all (before.map loop.task) } heard = (.ok (), between)

namespace Pass

variable {setting limit} {loop : Loop} {heard : σ} (pass : setting.Pass limit loop heard)

/-- Where the loop stands before the pass. -/
def start : Registers := { loop.toRegisters with scopes := pass.between.scopes }

/-- The scope of the pass. -/
def own : Nat := pass.between.scopes.size

/-- Inside the pass, before the body. -/
def inside : Registers := pass.start.inPass loop.name pass.value

/-- How the pass ends. -/
def ended : Outcome × Progress σ :=
  setting.ends limit { pass.inside with task := .statement loop.body } pass.between.heard

/-- The pass and what follows it come after the passes before. -/
theorem ends_row (others : List Task) :
    setting.ends limit { loop.toRegisters with
        task := .all (pass.before.map loop.task ++ loop.task pass.value :: others) } heard =
      goOn pass.ended fun after =>
        setting.ends limit { loop.toRegisters with scopes := after.scopes, task := .all others }
          after.heard := by
  rw [ends_all_append, pass.reached]
  show setting.ends limit { pass.start with task := .all (loop.task pass.value :: others) }
    pass.between.heard = _
  rw [ends_all_cons]
  exact congrArg (goOn · _) (setting.ends_pass pass.start loop.name pass.value _ loop.body)

theorem grown_between : Scopes.Grown false loop.current loop.scopes pass.between.scopes := by
  have sound : Job.Sound false
      { loop.toRegisters with task := .all (pass.before.map loop.task) } :=
    ⟨loop.sound, loop.made, .all fun task member => loop.sound_passes pass.before task member _⟩
  have grown := setting.grown_ends limit sound heard
  rwa [pass.reached] at grown

theorem made_start : pass.start.current < pass.start.scopes.size :=
  Nat.lt_of_lt_of_le loop.made pass.grown_between.size

theorem grown_inside :
    Scopes.Grown false pass.own pass.between.scopes pass.inside.scopes :=
  Registers.grown_inPass loop.name pass.value pass.grown_between.sound pass.made_start

theorem own_lt_size : pass.own < pass.inside.scopes.size :=
  pass.start.made_inPass loop.name pass.value

/-- The scope of a pass is there to stay, whatever else follows the pass. -/
theorem keeps_row {others : List Task} (sound : ∀ task ∈ others, ∀ size, task.Sound false size) :
    pass.inside.scopes.Keeps (setting.ends limit { loop.toRegisters with
      task := .all (pass.before.map loop.task ++ loop.task pass.value :: others) }
        heard).2.scopes := by
  have sound_inside : Job.Sound false { pass.inside with task := .statement loop.body } :=
    ⟨pass.grown_inside.sound, pass.own_lt_size, .statement nofun⟩
  have grown : Scopes.Grown false _ pass.inside.scopes pass.ended.2.scopes :=
    setting.grown_ends limit sound_inside pass.between.heard
  rw [pass.ends_row]
  generalize pass.ended = ended at grown ⊢
  obtain ⟨_ | ⟨⟩, after⟩ := ended
  · exact grown.toKeeps
  · have made : loop.current < after.scopes.size :=
      Nat.lt_of_lt_of_le (Nat.lt_trans pass.made_start pass.own_lt_size) grown.size
    have later : Job.Sound false
        { loop.toRegisters with scopes := after.scopes, task := .all others } :=
      ⟨grown.sound, made, .all fun task member => sound task member _⟩
    exact grown.toKeeps.trans (setting.grown_ends limit later after.heard).toKeeps

/-- The scope of a pass was made where the loop stands and binds the item. -/
theorem getElem?_own : pass.inside.scopes.arena[pass.own]? =
    some { parent := some loop.current, bindings := [(loop.name, .value pass.value)] } := by
  have added : (pass.start.scopes.add pass.start.current false).arena[pass.own]? =
      some { parent := some loop.current } := (Scopes.getElem?_add ..).trans (if_pos rfl)
  exact (Scopes.getElem?_bindIn ..).trans ((if_pos rfl).trans (by rw [added]; rfl))

theorem exists_own {later : Scopes} (keeps : pass.inside.scopes.Keeps later) :
    ∃ scope : Scope, later.arena[pass.own]? = some scope ∧ scope.parent = some loop.current ∧
      scope.bindings.binds loop.name := by
  obtain ⟨scope, found, parent, -, binds⟩ := keeps.kept _ _ pass.getElem?_own
  refine ⟨scope, found, parent, binds loop.name ?_⟩
  simp [Bindings.binds, Bindings.find?_cons]

theorem lookup_own :
    pass.inside.scopes.lookup pass.own loop.name = some (.value pass.value) := by
  rw [pass.grown_inside.sound.toRooted.lookup_eq pass.getElem?_own]
  simp [Bindings.find?_cons]

theorem owns {later : Scopes} (rooted : later.Rooted) (keeps : pass.inside.scopes.Keeps later) :
    later.Owns pass.own loop.name := by
  obtain ⟨scope, found, -, binds⟩ := pass.exists_own keeps
  exact rooted.owns found binds

/-- A pass that comes after another one finds the scope of that one. -/
theorem keeps_between (first second : setting.Pass limit loop heard)
    (earlier : first.before.length < second.before.length) :
    first.inside.scopes.Keeps second.between.scopes := by
  have prefixed : first.before ++ [first.value] <+: second.before := by
    have shorter : (first.before ++ [first.value]).length ≤ second.before.length := by
      simpa using Nat.succ_le_of_lt earlier
    refine List.prefix_of_prefix_length_le ⟨first.after, ?_⟩
      ⟨second.value :: second.after, second.split.symm⟩ shorter
    rw [first.split, List.append_assoc, List.singleton_append]
  obtain ⟨others, split⟩ := prefixed
  have keeps := first.keeps_row (loop.sound_passes others)
  have row : first.before.map loop.task ++ loop.task first.value :: others.map loop.task =
      second.before.map loop.task := by
    rw [← split]
    simp
  rwa [row, second.reached] at keeps

/-- No scope of a pass is inside that of another one. -/
theorem apart (first second : setting.Pass limit loop heard)
    (earlier : first.before.length < second.before.length) {later : Scopes}
    (rooted : later.Rooted) (keeps : second.inside.scopes.Keeps later) :
    ¬ later.Inside first.own second.own ∧ ¬ later.Inside second.own first.own := by
  have between := first.keeps_between second earlier
  have other : first.own ≠ second.own :=
    Nat.ne_of_lt (Nat.lt_of_lt_of_le first.own_lt_size between.size)
  obtain ⟨_, found, parent, -⟩ :=
    first.exists_own ((between.trans second.grown_inside.toKeeps).trans keeps)
  obtain ⟨_, found', parent', -⟩ := second.exists_own keeps
  exact ⟨rooted.not_inside found found' parent parent' other,
    rooted.not_inside found' found parent' parent other.symm⟩

end Pass

/--
Whether two runs have ended alike that began with the same scopes: these still correspond
each to itself, and closures were created in scopes that correspond.
-/
def EndedTogether (scopes : Scopes) (first second : Outcome × Progress σ) : Prop :=
  ∃ roles : Roles, (∀ index < scopes.size, roles index = .kept ∧ roles.index index = index) ∧
    EndedAlike roles first second

variable {setting limit}

theorem EndedAbreast.together {scopes : Scopes} {first second : Outcome × Progress σ}
    (alike : EndedAbreast .same scopes first second) : EndedTogether scopes first second := by
  obtain ⟨roles, agree, alike⟩ := alike
  refine ⟨roles, fun index old => ⟨agree index old, ?_⟩, alike⟩
  exact (Roles.index_congr agree (Nat.le_of_lt old)).trans (Roles.index_same index)

end Setting

namespace Loop

variable {σ : Type} {setting : Setting σ} {limit : Nat} (loop : Loop) {heard : σ} (span : Span)
  (rest : List Statement)

/-- What follows the loop follows its passes. -/
theorem run_statement :
    loop.run setting limit heard (loop.statement span :: rest) =
      setting.ends limit { loop.toRegisters with
        task := .all (loop.values.map loop.task ++ rest.map .statement) } heard := by
  rw [run, List.map_cons, Setting.ends_all_cons, Setting.ends_all_append, loop.ends_statement]

/-- The loop goes on with a pass once those before it have ended. -/
theorem run_pass (pass : setting.Pass limit loop heard) :
    loop.run setting limit heard (loop.statement span :: rest) =
      setting.ends limit { loop.toRegisters with
        task := .all (pass.before.map loop.task ++ loop.task pass.value ::
          (pass.after.map loop.task ++ rest.map .statement)) } heard := by
  rw [loop.run_statement, pass.split, List.map_append, List.append_assoc]
  rfl

theorem run_of_error (pass : setting.Pass limit loop heard) {error : LoadError}
    (failed : pass.ended.1 = .error error) :
    loop.run setting limit heard (loop.statement span :: rest) = pass.ended := by
  rw [loop.run_pass span rest pass, pass.ends_row]
  rcases ended : pass.ended with ⟨outcome, after⟩
  rw [ended] at failed
  cases failed
  rfl

theorem keeps_run (pass : setting.Pass limit loop heard) :
    pass.inside.scopes.Keeps
      (loop.run setting limit heard (loop.statement span :: rest)).2.scopes := by
  rw [loop.run_pass span rest pass]
  refine pass.keeps_row fun task member => ?_
  rcases List.mem_append.mp member with member | member
  · exact loop.sound_passes pass.after task member
  · exact Task.sound_statements rest task member

/-- If the passes do what certain tasks do, then so does the loop, whatever follows. -/
theorem together {tasks : List Task}
    (each : List.Forall₂ (setting.Imitates limit loop.current) (loop.values.map loop.task) tasks)
    (bounded : (∀ task ∈ tasks, task.isActivation = false) ∨
      ¬ Visit.HitsLimit setting limit ⟨⟨loop.toRegisters, heard⟩, .all tasks⟩) :
    Setting.EndedTogether loop.scopes
      (loop.run setting limit heard (loop.statement span :: rest))
      (setting.ends limit { loop.toRegisters with
        task := .all (tasks ++ rest.map .statement) } heard) := by
  have sound : ∀ task ∈ loop.values.map loop.task, task.Sound false loop.scopes.size :=
    fun task member => loop.sound_passes loop.values task member _
  obtain ⟨roles, agree, alike⟩ := Setting.ends_row each loop.abreast rfl sound bounded
  have soundJob : Job.Sound false
      { loop.toRegisters with task := .all (loop.values.map loop.task) } :=
    ⟨loop.sound, loop.made, .all sound⟩
  have grown := setting.grown_ends limit soundJob heard
  rw [loop.run_statement, Setting.ends_all_append, Setting.ends_all_append]
  refine Setting.EndedAbreast.together
    (Setting.goOn_alike loop.abreast agree alike grown.sound grown.toKeeps ?_)
  intro scopes scopes' heard' _ _ abreast
  exact Setting.ends_row (Setting.imitates_statements rest loop.current) abreast rfl
    (fun task member => Task.sound_statements rest task member _)
    (.inl (Task.isActivation_statements rest))

variable {statements : List Statement} (writtenOut : loop.body.WrittenOut loop.name statements)
include writtenOut

theorem together_blocks {blocks : List Statement}
    (each : List.Forall₂ (Statement.IsPass loop.name statements) loop.values blocks) :
    Setting.EndedTogether loop.scopes
      (loop.run setting limit heard (loop.statement span :: rest))
      (loop.run setting limit heard (blocks ++ rest)) := by
  have passes : List.Forall₂ (setting.Imitates limit loop.current) (loop.values.map loop.task)
      (blocks.map .statement) :=
    List.forall₂_map_left_iff.mpr (List.forall₂_map_right_iff.mpr
      (each.imp fun _ _ isPass => Setting.imitates_isPass writtenOut isPass loop.current))
  rw [run, run, List.map_append]
  exact loop.together span rest passes (.inl (Task.isActivation_statements blocks))

theorem together_forEach (unhoisting : statementsHoist statements = false)
    (whole call place function : Span)
    (free : ¬ Visit.HitsLimit setting limit ⟨⟨loop.toRegisters, heard⟩,
      .statement (loop.forEach whole call place function statements)⟩) :
    Setting.EndedTogether loop.scopes
      (loop.run setting limit heard (loop.statement span :: rest))
      (loop.run setting limit heard
        (loop.forEach whole call place function statements :: rest)) := by
  let each : Expression := .forEach call place function loop.iterated loop.name statements
  let closure : Closure := ⟨.each loop.name statements, loop.current⟩
  let calls : Task := .calls closure (loop.values.map Binding.value).zipIdx call
  have treated : Setting.iteratedTreatment loop.scopes loop.current loop.iterated
      [.plain (.function function (.each loop.name statements))] =
        .iterated (loop.values.map .value) closure := by
    rw [Setting.iteratedTreatment, loop.known]
    rfl
  have leads : setting.inner? limit { loop.toRegisters with
      task := .statement (.expression whole each) } =
        some { loop.toRegisters with task := .expression each } := rfl
  have leadsEach : setting.inner? limit { loop.toRegisters with task := .expression each } =
      some { loop.toRegisters with task := calls } := by
    refine Option.map_eq_some_iff.mpr ⟨calls, ?_, rfl⟩
    simp only [each, Expression.forEach, Setting.innerOfExpression?]
    rw [Setting.treatment_forEach loop.not_isReceiver, treated]
    rfl
  have ends : setting.ends limit
      { loop.toRegisters with task := .statement (.expression whole each) } heard =
        setting.ends limit { loop.toRegisters with task := calls } heard :=
    (setting.ends_of_innerOfStatement? limit loop.toRegisters _ rfl heard).trans
      (Setting.ends_forEach_of_iterated loop.not_isReceiver treated heard)
  have freeEach := Visit.not_hitsLimit_of_inner? free leads
  have together := loop.together span rest
    (Setting.imitates_calls writtenOut unhoisting loop.current call loop.values 0)
    (.inr (Visit.not_hitsLimit_of_inner? freeEach leadsEach))
  rw [Setting.ends_all_append] at together
  show Setting.EndedTogether loop.scopes _ (setting.ends limit { loop.toRegisters with
    task := .all (.statement (.expression whole each) :: rest.map .statement) } heard)
  rwa [Setting.ends_all_cons, ends]

end Loop

namespace Setting

variable {σ : Type}

/--
A loop over values does what a row of blocks does, each of which declares the variable
of the loop as a constant and goes on with the body; and, unless variables of the
function are declared there or the limit is hit, what `forEach` does with a callback
that has the variable as its parameter, whatever follows them.  An error of a pass ends
the loop.  Each pass has a variable of its own: it begins with the item, and what is
bound outside the scope of the pass, so in that of any other pass, is not seen inside.
-/
theorem loops_unroll (setting : Setting σ) (limit : Nat) (loop : Loop) {statements : List Statement}
    (writtenOut : loop.body.WrittenOut loop.name statements) (span : Span)
    (rest : List Statement) (heard : σ) :
    let looped := loop.run setting limit heard (loop.statement span :: rest)
    (∀ blocks : List Statement,
        List.Forall₂ (Statement.IsPass loop.name statements) loop.values blocks →
        EndedTogether loop.scopes looped (loop.run setting limit heard (blocks ++ rest))) ∧
      (∀ whole call place function : Span, statementsHoist statements = false →
        ¬ Visit.HitsLimit setting limit ⟨⟨loop.toRegisters, heard⟩,
          .statement (loop.forEach whole call place function statements)⟩ →
        EndedTogether loop.scopes looped (loop.run setting limit heard
          (loop.forEach whole call place function statements :: rest))) ∧
      ∀ pass : setting.Pass limit loop heard,
        (∀ error, pass.ended.1 = .error error → looped = pass.ended) ∧
        pass.inside.scopes.lookup pass.own loop.name = some (.value pass.value) ∧
        pass.inside.scopes.Keeps looped.2.scopes ∧
        (∀ later : Scopes, later.Rooted → pass.inside.scopes.Keeps later →
          later.Owns pass.own loop.name) ∧
        ∀ next : setting.Pass limit loop heard, pass.before.length < next.before.length →
          pass.inside.scopes.Keeps next.between.scopes ∧
          ∀ later : Scopes, later.Rooted → next.inside.scopes.Keeps later →
            ¬ later.Inside pass.own next.own ∧ ¬ later.Inside next.own pass.own := by
  intro looped
  refine ⟨fun blocks each => loop.together_blocks span rest writtenOut each,
    fun whole call place function unhoisting free =>
      loop.together_forEach span rest writtenOut unhoisting whole call place function free,
    fun pass => ⟨fun error failed => loop.run_of_error span rest pass failed, pass.lookup_own,
      loop.keeps_run span rest pass, fun later rooted keeps => pass.owns rooted keeps, ?_⟩⟩
  intro next earlier
  exact ⟨pass.keeps_between next earlier,
    fun later rooted keeps => pass.apart next earlier rooted keeps⟩

/-- A file with a loop that declares a test for each of two names. -/
def unrolledFile : Setting (List Signal) := ofText "for (const x of ['a', 'b']) \x7b it(x); \x7d"

/-- What is in the block of that loop. -/
def unrolledBody : List Statement :=
  [.expression ⟨30, 36⟩ (.call ⟨30, 35⟩ (.identifier ⟨30, 32⟩ "it")
    [.plain (.identifier ⟨33, 34⟩ "x")])]

/-- The loop in that file. -/
def unrolledLoop : Loop := { Registers.initial with
  iterated := .array ⟨16, 26⟩
    [.plain (.literal ⟨17, 20⟩ (.text "a")), .plain (.literal ⟨22, 25⟩ (.text "b"))]
  values := [.text "a", .text "b"]
  name := "x"
  body := .block ⟨28, 38⟩ unrolledBody
  sound := Scopes.sound_initial false
  made := Nat.zero_lt_one
  known := rfl }

/-- Before its second pass the loop has declared the first test. -/
def unrolledPass : unrolledFile.Pass activationLimit unrolledLoop [] where
  before := [.text "a"]
  value := .text "b"
  after := []
  split := rfl
  between := (unrolledFile.ends activationLimit
    { Registers.initial with task := unrolledLoop.task (.text "a") } []).2
  reached := (ends_single ..).trans (Prod.ext (by decide +kernel) rfl)

/-- The loop, two blocks and a call declare the same tests. -/
theorem loops_unroll_unrolledLoop :
    let run := unrolledLoop.run unrolledFile activationLimit []
    let block (name : String) : Statement :=
      .block default (.constant default default "x" (.text name) :: unrolledBody)
    let looped := run [unrolledLoop.statement ⟨0, 38⟩]
    looped.2.heard.filterMap Signal.name? = ["a", "b"] ∧
      EndedTogether .initial looped (run [block "a", block "b"]) ∧
      EndedTogether .initial looped
        (run [unrolledLoop.forEach default default default default unrolledBody]) ∧
      unrolledPass.inside.scopes.lookup unrolledPass.own "x" = some (.value (.text "b")) := by
  intro run block looped
  have writtenOut : unrolledLoop.body.WrittenOut "x" unrolledBody :=
    .opened _ unrolledBody fun _ member => nomatch member
  obtain ⟨blocks, calls, passes⟩ :=
    unrolledFile.loops_unroll activationLimit unrolledLoop writtenOut ⟨0, 38⟩ [] []
  have own : unrolledPass.inside.scopes.lookup unrolledPass.own "x" = some (.value (.text "b")) :=
    (passes unrolledPass).2.1
  refine ⟨by decide +kernel, blocks [block "a", block "b"] ?_, calls _ _ _ _ rfl ?_, own⟩
  · exact .cons ⟨_, _, _, rfl⟩ (.cons ⟨_, _, _, rfl⟩ .nil)
  · intro hits
    obtain ⟨span, failed⟩ := hits.fails
    have ended : (unrolledFile.ends activationLimit { unrolledLoop.toRegisters with
      task := .statement (unrolledLoop.forEach default default default default unrolledBody) }
        []).1 = .ok () := by decide +kernel
    cases ended.symm.trans failed

end Setting

end TestInventory
