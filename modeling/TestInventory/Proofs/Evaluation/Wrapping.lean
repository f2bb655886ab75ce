import TestInventory.Proofs.Evaluation.Job

/-!
# Wrapped calls

Parentheses, `await`, sequences, assignments, initializers and methods that are called
on the result of a call are wrappings of the calls in them: they run these calls from
left to right, each one once, and besides bind names.  The value that a name is bound to
is read off the expression without running it again.
-/

namespace TestInventory

open TestInventory.Source (Span)
open Evaluating

/-- What a wrapping does: it runs a call or binds a name. -/
inductive Deed where
  | run (call : Expression)
  | assign (name : String) (value : Expression)
  /-- A variable, which may have no first value. -/
  | declare (hoisted : Bool) (name : String) (value : Option Expression)

namespace Deed

/-- Whether a deed runs nothing. -/
def binds : Deed → Bool
  | .run _ => false
  | _ => true

/-- The scopes after a name is bound. -/
def bind (scopes : Scopes) (scope : Nat) : Deed → Scopes
  | .run _ => scopes
  | .assign name value => scopes.assign scope name (value.binding scopes scope)
  | .declare hoisted name value =>
    scopes.declare scope hoisted name ((value.map (·.binding scopes scope)).getD .unknown)

/-- The scopes after names are bound in turn. -/
def bindAll (scopes : Scopes) (scope : Nat) (deeds : List Deed) : Scopes :=
  deeds.foldl (fun scopes deed => deed.bind scopes scope) scopes

end Deed

/-- Whether nothing in an expression is run when the expression is. -/
def Expression.isStill (interface : Interface) : Expression → Bool
  | .function .. => true
  | .call .. | .await .. | .parenthesized .. | .sequence .. | .assign .. => false
  | expression => !expression.declares interface

/-- Whether a task is a wrapping of calls, and what it does in which order. -/
inductive Task.Wraps (interface : Interface) : Task → List Deed → Prop where
  /-- A call that is not one of a method of the result of another. -/
  | call {span : Span} {callee : Expression} {arguments : List Element}
      (direct : callee.receiver? = none) :
      Wraps interface (.expression (.call span callee arguments))
        [.run (.call span callee arguments)]
  | still {expression : Expression} (still : expression.isStill interface = true) :
      Wraps interface (.expression expression) []
  | parenthesized {span : Span} {inner : Expression} {deeds : List Deed}
      (wraps : Wraps interface (.expression inner) deeds) :
      Wraps interface (.expression (.parenthesized span inner)) deeds
  | await {span : Span} {operand : Expression} {deeds : List Deed}
      (wraps : Wraps interface (.expression operand) deeds) :
      Wraps interface (.expression (.await span operand)) deeds
  /-- A call of a method, whatever its name, whose arguments declare nothing. -/
  | chained {span : Span} {callee object : Expression} {arguments : List Element}
      {deeds : List Deed} (receiver : callee.receiver? = some object)
      (wraps : Wraps interface (.expression object) deeds)
      (quiet : elementsDeclare interface arguments = false) :
      Wraps interface (.expression (.call span callee arguments)) deeds
  | assign {span : Span} {name : String} {value : Expression} {deeds : List Deed}
      (wraps : Wraps interface (.expression value) deeds) :
      Wraps interface (.expression (.assign span (.name name) value))
        (deeds ++ [.assign name value])
  | assignOther {span : Span} {parts : List Part} {value : Expression} {deeds : List Deed}
      (wraps : Wraps interface (.expression value) deeds) :
      Wraps interface (.expression (.assign span (.other parts) value)) deeds
  | sequence {span : Span} {items : List Expression} {deeds : List Deed}
      (wraps : Wraps interface (.all (items.map .expression)) deeds) :
      Wraps interface (.expression (.sequence span items)) deeds
  | nil : Wraps interface (.all []) []
  | cons {first : Task} {rest : List Task} {deeds later : List Deed}
      (wraps : Wraps interface first deeds) (others : Wraps interface (.all rest) later) :
      Wraps interface (.all (first :: rest)) (deeds ++ later)
  | uninitialized {hoisted : Bool} {name : String} :
      Wraps interface (.declarator hoisted (.mk (.name name) none)) [.declare hoisted name none]
  | initialized {hoisted : Bool} {name : String} {value : Expression} {deeds : List Deed}
      (wraps : Wraps interface (.expression value) deeds) :
      Wraps interface (.declarator hoisted (.mk (.name name) (some value)))
        (deeds ++ [.declare hoisted name (some value)])
  | destructured {hoisted : Bool} {parts : List Part} {value : Expression} {deeds : List Deed}
      (wraps : Wraps interface (.expression value) deeds) :
      Wraps interface (.declarator hoisted (.mk (.other parts) (some value))) deeds
  | expression {span : Span} {expression : Expression} {deeds : List Deed}
      (wraps : Wraps interface (.expression expression) deeds) :
      Wraps interface (.statement (.expression span expression)) deeds
  | declaration {span : Span} {hoisted : Bool} {declarators : List Declarator}
      {deeds : List Deed}
      (wraps : Wraps interface (.all (declarators.map (.declarator hoisted))) deeds) :
      Wraps interface (.statement (.declaration span hoisted declarators)) deeds
  | exported {span within : Span} {hoisted : Bool} {declarators : List Declarator}
      {deeds : List Deed}
      (wraps : Wraps interface (.statement (.declaration within hoisted declarators)) deeds) :
      Wraps interface (.statement (.exported span (.declaration within hoisted declarators))) deeds

namespace Setting

variable {σ : Type} (setting : Setting σ) (limit : Nat)

/-- Do a deed. -/
def endsDeed (registers : Registers) (deed : Deed) (heard : σ) : Outcome × Progress σ :=
  match deed with
  | .run call => setting.ends limit { registers with task := .expression call } heard
  | deed => (.ok (), ⟨deed.bind registers.scopes registers.current, heard⟩)

/-- Do deeds in turn, up to the first error. -/
def endsDeeds (registers : Registers) : List Deed → σ → Outcome × Progress σ
  | [], heard => (.ok (), ⟨registers.scopes, heard⟩)
  | first :: rest, heard =>
    goOn (setting.endsDeed limit registers first heard) fun after =>
      endsDeeds { registers with scopes := after.scopes } rest after.heard

theorem warnIf_of_quiet {declares : Bool} (quiet : declares = false) (span : Span)
    (construct : Construct) (before : Progress σ) :
    setting.warnIf declares span construct before = (.ok (), before) := by
  subst quiet
  rfl

/-- A call of a method of the result of another call continues that call. -/
theorem treatment_of_receiver? {callee object : Expression}
    (receiver : callee.receiver? = some object) (scopes : Scopes) (scope : Nat)
    (arguments : List Element) :
    setting.treatment scopes scope callee arguments = .chained object := by
  have continued := (setting.treatment_spec scopes scope callee arguments).2
  rw [receiver] at continued
  cases treated : setting.treatment scopes scope callee arguments with
  | chained other =>
      rw [treated] at continued
      exact congrArg Treatment.chained (Option.some.inj continued)
  | _ =>
      rw [treated] at continued
      cases continued

variable {setting limit} {registers : Registers} {heard : σ}

theorem endsDeeds_append (deeds later : List Deed) :
    setting.endsDeeds limit registers (deeds ++ later) heard =
      goOn (setting.endsDeeds limit registers deeds heard) fun after =>
        setting.endsDeeds limit { registers with scopes := after.scopes } later after.heard := by
  induction deeds generalizing registers heard with
  | nil => rfl
  | cons first deeds ih =>
      rw [List.cons_append, endsDeeds, endsDeeds]
      rcases setting.endsDeed limit registers first heard with ⟨_ | ⟨⟩, after⟩
      · rfl
      · exact ih

theorem endsDeeds_singleton (deed : Deed) :
    setting.endsDeeds limit registers [deed] heard =
      setting.endsDeed limit registers deed heard :=
  goOn_return _

theorem endsDeed_of_binds {deed : Deed} (binds : deed.binds = true) :
    setting.endsDeed limit registers deed heard =
      (.ok (), ⟨deed.bind registers.scopes registers.current, heard⟩) := by
  cases deed with
  | run call => cases binds
  | assign => rfl
  | declare => rfl

/-- Names are bound without anything being told. -/
theorem endsDeeds_of_binds {deeds : List Deed} (binds : ∀ deed ∈ deeds, deed.binds = true) :
    setting.endsDeeds limit registers deeds heard =
      (.ok (), ⟨Deed.bindAll registers.scopes registers.current deeds, heard⟩) := by
  induction deeds generalizing registers with
  | nil => rfl
  | cons first deeds ih =>
      obtain ⟨here, later⟩ := List.forall_mem_cons.mp binds
      rw [endsDeeds, endsDeed_of_binds here, goOn_ok, ih later]
      rfl

/-! ## Wrappings do their deeds -/

theorem ends_of_isStill {expression : Expression}
    (still : expression.isStill setting.interface = true) :
    setting.ends limit { registers with task := .expression expression } heard =
      (.ok (), ⟨registers.scopes, heard⟩) := by
  cases expression with
  | function => rfl
  | call | await | parenthesized | sequence | assign => cases still
  | _ =>
      simp only [ends, doTask, runExpression]
      exact setting.warnIf_of_quiet (by simpa [Expression.isStill] using still) _ _ _

/-- A task that leads to another and is finished by nothing ends as that does. -/
theorem ends_of_inner?_of_return {job inner : Job} (leads : setting.inner? limit job = some inner)
    (unfinished : setting.finish job.place job.task = return) :
    setting.ends limit job heard = setting.ends limit inner heard := by
  rw [setting.ends_of_inner? limit leads, unfinished, goOn_return]

/-- A task that leads to another and then binds a name does one deed more. -/
theorem endsDeeds_concat {task : Task} {inner : Task} {deeds : List Deed} {deed : Deed}
    (leads : setting.inner? limit { registers with task } = some { registers with task := inner })
    (does : setting.ends limit { registers with task := inner } heard =
      setting.endsDeeds limit registers deeds heard)
    (binds : deed.binds = true)
    (finishes : ∀ after : Progress σ, setting.finish registers.place task after =
      (.ok (), { after with scopes := deed.bind after.scopes registers.current })) :
    setting.ends limit { registers with task } heard =
      setting.endsDeeds limit registers (deeds ++ [deed]) heard := by
  rw [setting.ends_of_inner? limit leads, does, endsDeeds_append]
  refine congrArg (goOn _) (funext fun after => ?_)
  rw [endsDeeds_singleton, endsDeed_of_binds binds]
  exact finishes after

/-- A wrapping of calls does what it is made of. -/
theorem ends_of_wraps {task : Task} {deeds : List Deed}
    (wraps : task.Wraps setting.interface deeds) (registers : Registers) (heard : σ) :
    setting.ends limit { registers with task } heard =
      setting.endsDeeds limit registers deeds heard := by
  induction wraps generalizing registers heard with
  | @call span callee arguments direct =>
      exact (endsDeeds_singleton (.run (.call span callee arguments))).symm
  | still still => exact ends_of_isStill still
  | parenthesized wraps ih => exact (ends_of_inner?_of_return rfl rfl).trans (ih registers heard)
  | await wraps ih => exact (ends_of_inner?_of_return rfl rfl).trans (ih registers heard)
  | @chained span callee object arguments deeds receiver wraps quiet ih =>
      have leads : setting.inner? limit
          { registers with task := .expression (.call span callee arguments) } =
            some { registers with task := .expression object } := by
        simp only [inner?, innerOfExpression?, setting.treatment_of_receiver? receiver,
          Treatment.inner?, Option.map_some]
      -- The arguments are looked at for a warning only, and there is nothing to warn of.
      have finished : setting.finish registers.place (.expression (.call span callee arguments)) =
          return := by
        funext after
        simp only [finish, receiver, Option.isSome_some]
        exact setting.warnIf_of_quiet quiet span .call after
      exact (ends_of_inner?_of_return leads finished).trans (ih registers heard)
  | assign wraps ih => exact endsDeeds_concat rfl (ih registers heard) rfl fun _ => rfl
  | assignOther wraps ih => exact (ends_of_inner?_of_return rfl rfl).trans (ih registers heard)
  | sequence wraps ih => exact (ends_of_inner?_of_return rfl rfl).trans (ih registers heard)
  | nil => rfl
  | cons wraps others ih later =>
      rw [ends_all_cons, ih, endsDeeds_append]
      exact congrArg (goOn _) (funext fun after => later _ _)
  | uninitialized => rfl
  | initialized wraps ih => exact endsDeeds_concat rfl (ih registers heard) rfl fun _ => rfl
  | destructured wraps ih => exact (ends_of_inner?_of_return rfl rfl).trans (ih registers heard)
  | expression wraps ih => exact (ends_of_inner?_of_return rfl rfl).trans (ih registers heard)
  | declaration wraps ih => exact (ends_of_inner?_of_return rfl rfl).trans (ih registers heard)
  | exported wraps ih => exact ih registers heard

/-- A row of deeds with one call in it ends as the call does, with the names bound before it. -/
theorem endsDeeds_single {before after : List Deed} {call : Expression}
    (early : ∀ deed ∈ before, deed.binds = true) (late : ∀ deed ∈ after, deed.binds = true) :
    let row := setting.endsDeeds limit registers (before ++ .run call :: after) heard
    let alone := setting.ends limit { registers with
      scopes := Deed.bindAll registers.scopes registers.current before
      task := .expression call } heard
    row.1 = alone.1 ∧ row.2.heard = alone.2.heard := by
  intro row alone
  have split : row = goOn alone fun between =>
      setting.endsDeeds limit { registers with scopes := between.scopes } after between.heard := by
    simp only [row, endsDeeds_append, endsDeeds_of_binds early, goOn_ok]
    rfl
  rw [split]
  rcases alone with ⟨_ | ⟨⟩, between⟩
  · exact ⟨rfl, rfl⟩
  · rw [goOn_ok, endsDeeds_of_binds late]
    exact ⟨rfl, rfl⟩

/--
Wrappings are transparent.  A wrapping runs the calls in it from left to right, each one
once, up to the first error.  So one with a single call in it tells every listener what
the call alone does, and ends as the call does; names that are bound before the call are
bound for it.
-/
theorem wrapping_transparent (setting : Setting σ) (limit : Nat) (registers : Registers)
    (heard : σ) {task : Task} {deeds : List Deed} (wraps : task.Wraps setting.interface deeds) :
    let wrapped := setting.ends limit { registers with task } heard
    wrapped = setting.endsDeeds limit registers deeds heard ∧
      (∀ early late, deeds = early ++ late →
        wrapped = goOn (setting.endsDeeds limit registers early heard) fun between =>
          setting.endsDeeds limit { registers with scopes := between.scopes } late
            between.heard) ∧
      ∀ before call after, deeds = before ++ .run call :: after →
        (∀ deed ∈ before, deed.binds = true) → (∀ deed ∈ after, deed.binds = true) →
        let alone := setting.ends limit { registers with
          scopes := Deed.bindAll registers.scopes registers.current before
          task := .expression call } heard
        wrapped.1 = alone.1 ∧ wrapped.2.heard = alone.2.heard := by
  intro wrapped
  have done : wrapped = setting.endsDeeds limit registers deeds heard :=
    ends_of_wraps wraps registers heard
  refine ⟨done, fun early late split => ?_, fun before call after split binds later => ?_⟩
  · rw [done, split, endsDeeds_append]
  · rw [done, split]
    exact endsDeeds_single binds later

/-- The test `it("b")`. -/
def bareTest : Expression :=
  .call default (.identifier default "it") [.plain (.literal default (.text "b"))]

/-- The assignment in `await (x = it("b").tag("c"))`. -/
def assignedTest : Expression :=
  .assign default (.name "x") (.call default (.member default bareTest "tag")
    [.plain (.literal default (.text "c"))])

/-- The test in `export const a = await (x = it("b").tag("c"));`. -/
def exportedTest : Statement :=
  .exported default (.declaration default false
    [.mk (.name "a") (some (.await default (.parenthesized default assignedTest)))])

/-- The exported test is declared once, as the bare one is. -/
theorem wrapping_transparent_exportedTest :
    let setting := ofText ""
    let heard (task : Task) := (setting.ends 64 { Registers.initial with task } []).2.heard
    (∃ after, (Task.statement exportedTest).Wraps setting.interface (.run bareTest :: after) ∧
        ∀ deed ∈ after, deed.binds = true) ∧
      heard (.statement exportedTest) = heard (.expression bareTest) ∧
      (heard (.statement exportedTest)).length = 1 := by
  intro setting heard
  obtain ⟨after, wraps, binds⟩ : ∃ after,
      (Task.statement exportedTest).Wraps setting.interface (.run bareTest :: after) ∧
        ∀ deed ∈ after, deed.binds = true :=
    ⟨_, .exported (.declaration (.cons (.initialized (.await (.parenthesized
      (.assign (.chained rfl (.call rfl) rfl))))) .nil)), by simp [Deed.binds]⟩
  have same := (setting.wrapping_transparent 64 Registers.initial [] wraps).2.2 [] bareTest after
    rfl (List.forall_mem_nil _) binds
  refine ⟨⟨after, wraps, binds⟩, same.2, ?_⟩
  decide +kernel

end Setting

end TestInventory
