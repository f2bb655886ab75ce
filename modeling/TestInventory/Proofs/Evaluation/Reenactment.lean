import TestInventory.Proofs.Evaluation.Likeness
import TestInventory.Proofs.Evaluation.Limit
import TestInventory.Proofs.Evaluation.Restoration

/-!
# Runs that correspond

The same code is run in scopes that correspond.  What is read off it is the same, what
it binds is bound in scopes that correspond, and so both runs end alike, as long as
no variable is hoisted out of a promoted block and the second run, which may have more
activations live, does not hit the limit.
-/

namespace TestInventory

open TestInventory.Source (Span)
open Evaluating

/-! ## Jobs -/

theorem Task.Alike.isActivation_eq {roles : Roles} {task task' : Task}
    (alike : task.Alike roles task') : task'.isActivation = task.isActivation := by
  cases alike <;> rfl

/-- Whether two evaluations stand at scopes that correspond. -/
structure Registers.Alike (roles : Roles) (first second : Registers) : Prop where
  scopes : first.scopes.Alike roles second.scopes
  live : roles.Live first.current
  current : second.current = roles.index first.current
  suites : second.suites = first.suites
  depth : first.depth ≤ second.depth

/--
Whether two jobs are the same text at scopes that correspond, from which no variable is
hoisted out of a promoted block.
-/
structure Job.Alike (roles : Roles) (first second : Job) : Prop
    extends Registers.Alike roles first.toRegisters second.toRegisters where
  task : first.task.Alike roles second.task
  settled : first.task.hoists = true → first.scopes.Settled roles first.current

namespace Registers.Alike

variable {roles : Roles} {registers registers' : Registers}
  (alike : registers.Alike roles registers')
include alike

theorem seen (made : registers.current < registers.scopes.size) :
    registers.scopes.SeenAlike roles registers'.scopes registers.current :=
  ⟨alike.live, alike.scopes.lookup alike.live made⟩

theorem enter (sound : registers.scopes.Sound false) {parent : Nat}
    (live : roles.Live parent) (made : parent < registers.scopes.size) (ofFunction : Bool) :
    (registers.enter parent ofFunction).Alike roles
      (registers'.enter (roles.index parent) ofFunction) where
  scopes := alike.scopes.addKept sound live made ofFunction
  live := .inl (alike.scopes.fresh _ (Nat.le_refl _))
  current := alike.scopes.size
  suites := alike.suites
  depth := alike.depth

theorem settled_enter (sound : registers.scopes.Sound false)
    (made : registers.current < registers.scopes.size)
    (settled : registers.scopes.Settled roles registers.current) :
    (registers.scopes.add registers.current false).Settled roles registers.scopes.size :=
  settled.add sound made (fun _ _ => rfl) (by simp [alike.scopes.fresh _ (Nat.le_refl _)])

end Registers.Alike

/-- Whether two jobs have ended alike. -/
structure EndedAlike {σ : Type} (roles : Roles) (first second : Outcome × Progress σ) : Prop where
  outcome : second.1 = first.1
  heard : second.2.heard = first.2.heard
  scopes : first.2.scopes.Alike roles second.2.scopes

namespace EndedAlike

variable {σ : Type} {roles : Roles} {scopes scopes' : Scopes} (alike : scopes.Alike roles scopes')
  {ended ended' : Outcome × Progress σ} {noted : σ}
include alike

theorem of_same {outcome : Outcome} (ran : ended = (outcome, ⟨scopes, noted⟩))
    (ran' : ended' = (outcome, ⟨scopes', noted⟩)) : EndedAlike roles ended ended' := by
  rw [ran, ran']
  exact ⟨rfl, rfl, alike⟩

theorem of_warnIf (setting : Setting σ) {declares : Bool} {span : Span} {construct : Construct}
    (ran : ended = setting.warnIf declares span construct ⟨scopes, noted⟩)
    (ran' : ended' = setting.warnIf declares span construct ⟨scopes', noted⟩) :
    EndedAlike roles ended ended' :=
  of_same alike (ran.trans (setting.warnIf_apply ..)) (ran'.trans (setting.warnIf_apply ..))

end EndedAlike

namespace Setting

variable {σ : Type} {setting : Setting σ} {limit : Nat} {roles : Roles}

theorem innerOfExpression?_alike {first second : Scopes} {scope : Nat}
    (seen : first.SeenAlike roles second scope) {expression : Expression} {task : Task}
    (leads : setting.innerOfExpression? first scope expression = some task) :
    ∃ task', setting.innerOfExpression? second (roles.index scope) expression = some task' ∧
      task.Alike roles task' ∧ task.hoists = false := by
  cases expression with
  | call span callee arguments =>
      exact (treatment_alike seen callee arguments).inner?
        (elementBindings_alike seen arguments) leads
  | await _ operand =>
      cases leads
      exact ⟨_, rfl, .expression operand, rfl⟩
  | parenthesized _ inner =>
      cases leads
      exact ⟨_, rfl, .expression inner, rfl⟩
  | sequence _ items =>
      cases leads
      refine ⟨_, rfl, .of_texts items fun item => .expression item, ?_⟩
      rw [Task.hoists, tasksHoist_eq_any, List.any_map, List.any_eq_false]
      exact fun _ _ => Bool.false_ne_true
  | assign _ _ value =>
      cases leads
      exact ⟨_, rfl, .expression value, rfl⟩
  | _ => cases leads

theorem innerOfStatement?_alike {registers registers' : Registers} {statement : Statement}
    {inner : Job} (sound : Job.Sound false { registers with task := .statement statement })
    (alike : registers.Alike roles registers')
    (settled : statement.hoists = true → registers.scopes.Settled roles registers.current)
    (leads : innerOfStatement? registers statement = some inner) :
    ∃ inner', innerOfStatement? registers' statement = some inner' ∧ inner.Alike roles inner' := by
  have declared (hoisted : Bool) (declarators : List Declarator)
      (settled : hoisted = true → registers.scopes.Settled roles registers.current) :
      Job.Alike roles { registers with task := .all (declarators.map (.declarator hoisted)) }
        { registers' with task := .all (declarators.map (.declarator hoisted)) } := by
    refine { alike with task := .of_texts _ fun item => .declarator hoisted item, settled := ?_ }
    intro hoists
    obtain ⟨declarator, -, isHoisted⟩ : ∃ declarator ∈ declarators, hoisted = true := by
      simpa [Task.hoists, tasksHoist_eq_any] using hoists
    exact settled isHoisted
  cases statement with
  | expression _ expression =>
      cases leads
      refine ⟨_, rfl, { alike with task := .expression expression, settled := fun hoists => ?_ }⟩
      cases hoists
  | block _ body =>
      cases leads
      have entered := alike.enter sound.scopes alike.live sound.current false
      refine ⟨_, rfl, ?_⟩
      rw [alike.current]
      refine { entered with task := .body body, settled := fun hoists => ?_ }
      exact alike.settled_enter sound.scopes sound.current (settled hoists)
  | declaration _ hoisted declarators =>
      cases leads
      exact ⟨_, rfl, declared hoisted declarators settled⟩
  | exported _ declaration =>
      cases declaration with
      | declaration _ hoisted declarators =>
          cases leads
          exact ⟨_, rfl, declared hoisted declarators settled⟩
      | _ => cases leads
  | forOf _ binder iterated body =>
      obtain ⟨items, known, rfl⟩ := Option.map_eq_some_iff.mp leads
      have same := (Expression.binding_alike (alike.seen sound.current) iterated).items?
      rw [known, ← alike.current] at same
      obtain ⟨items', known', each⟩ : ∃ items', (iterated.binding registers'.scopes
          registers'.current).items? = some items' ∧
            List.Forall₂ (Binding.Alike roles) items items' := by
        generalize (iterated.binding registers'.scopes registers'.current).items? = found at same ⊢
        cases same with
        | some each => exact ⟨_, rfl, each⟩
      refine ⟨_, Option.map_eq_some_iff.mpr ⟨items', known', rfl⟩, ?_⟩
      refine { alike with
        task := .of_items each fun _ _ same => .pass binder same body, settled := fun hoists => ?_ }
      obtain ⟨item, -, passHoists⟩ : ∃ item ∈ items, (binder.hoists || body.hoists) = true := by
        simpa [Task.hoists, tasksHoist_eq_any] using hoists
      exact settled passHoists
  | _ => cases leads

section Entering

variable {registers registers' : Registers} {inner : Job}
  (alike : registers.Alike roles registers')
include alike

theorem exists_inner?_body {statements : List Statement}
    (sound : Job.Sound false { registers with task := .body statements })
    (settled : statementsHoist statements = true →
      registers.scopes.Settled roles registers.current)
    (leads : setting.inner? limit { registers with task := .body statements } = some inner) :
    ∃ inner', setting.inner? limit { registers' with task := .body statements } = some inner' ∧
      inner.Alike roles inner' := by
  have grown := (grows_of_inner? sound leads).grown
  cases leads
  refine ⟨_, rfl, ?_⟩
  have hoisted := alike.scopes.hoist alike.live statements
  rw [← alike.current] at hoisted
  refine { alike with
    scopes := hoisted
    task := .of_texts statements fun statement => .statement statement
    settled := fun hoists => ?_ }
  have all := (Task.hoists_statements statements).symm.trans hoists
  exact (settled all).keeps grown.toKeeps sound.current

theorem exists_inner?_pass {binder : Binder} {item item' : Binding} {body : Statement}
    (sound : Job.Sound false { registers with task := .pass binder item body })
    (settled : (binder.hoists || body.hoists) = true →
      registers.scopes.Settled roles registers.current)
    (same : item.Alike roles item')
    (leads : setting.inner? limit { registers with task := .pass binder item body } = some inner) :
    ∃ inner', setting.inner? limit { registers' with task := .pass binder item' body } =
      some inner' ∧ inner.Alike roles inner' := by
  cases leads
  refine ⟨_, rfl, ?_⟩
  have entered := alike.enter sound.scopes alike.live sound.current false
  have inside : (binder.hoists || body.hoists) = true →
      (registers.scopes.add registers.current false).Settled roles registers.scopes.size :=
    fun hoists => alike.settled_enter sound.scopes sound.current (settled hoists)
  have made : registers.scopes.size < (registers.scopes.add registers.current false).size := by
    simp
  rw [← alike.current] at entered
  have bound := entered.scopes.bindItem entered.live made
    (fun hoists => inside (by rw [hoists, Bool.true_or])) same
  rw [← entered.current] at bound
  refine { entered with
    scopes := bound, task := .statement body, settled := fun hoists => ?_ }
  cases sound.task with
  | pass holds tame =>
    have first : Scopes.Grown false registers.scopes.size registers.scopes
        (registers.scopes.add registers.current false) := .add sound.scopes sound.current false
    have second := Scopes.Grown.bindItem first.sound made
      (holds.mono fun _ has => has.mono first.size) (Tame.or_iff.mp tame).1
    exact (inside (by rw [show body.hoists = true from hoists, Bool.or_true])).keeps
      second.toKeeps made

theorem exists_inner?_activation {callback : Callback} {scope : Nat}
    {arguments arguments' : List Binding} {span : Span}
    (sound : Job.Sound false
      { registers with task := .activation ⟨callback, scope⟩ arguments span })
    (live : roles.Live scope) (given : List.Forall₂ (Binding.Alike roles) arguments arguments')
    (leads : setting.inner? limit
      { registers with task := .activation ⟨callback, scope⟩ arguments span } = some inner)
    (left : registers'.depth < limit) :
    ∃ inner', setting.inner? limit
      { registers' with task := .activation ⟨callback, roles.index scope⟩ arguments' span } =
        some inner' ∧ inner.Alike roles inner' := by
  simp only [inner?] at leads
  split at leads
  case isFalse => cases leads
  case isTrue =>
    cases leads
    refine ⟨_, if_pos left, ?_⟩
    cases sound.task with
    | activation _ soundClosure hold =>
      have entered := alike.enter sound.scopes live soundClosure.scope true
      have bound := entered.scopes.bindParameters entered.live callback.parameters given
      rw [← entered.current] at bound
      refine { entered with
        scopes := bound
        depth := Nat.succ_le_succ alike.depth
        task := .callback callback
        settled := fun _ => ?_ }
      have grown : Scopes.Grown false registers.scopes.size registers.scopes
          (registers.scopes.add scope true) := .add sound.scopes soundClosure.scope true
      have made : registers.scopes.size < (registers.scopes.add scope true).size := by simp
      have found : (registers.scopes.add scope true).arena[registers.scopes.size]? =
          some { parent := some scope, ofFunction := true } :=
        (Scopes.getElem?_add ..).trans (if_pos rfl)
      have grown' := Scopes.Grown.bindParameters grown.sound made callback.parameters
        fun binding member => (hold binding member).mono fun _ has => has.mono grown.size
      have function : (registers.scopes.add scope true).Settled roles registers.scopes.size :=
        Scopes.settled_of_function grown.sound.toRooted found rfl
      exact function.keeps grown'.toKeeps made

end Entering

/-- Jobs that are alike lead to jobs that are alike, if enough activations are left. -/
theorem exists_inner?_alike {job job' inner : Job} (sound : job.Sound false)
    (alike : job.Alike roles job') (leads : setting.inner? limit job = some inner)
    (left : job.task.isActivation = true → job'.depth < limit) :
    ∃ inner', setting.inner? limit job' = some inner' ∧ inner.Alike roles inner' := by
  obtain ⟨registers, task⟩ := job
  obtain ⟨registers', task'⟩ := job'
  obtain ⟨alike, same, settled⟩ := alike
  cases same with
  | expression expression =>
      obtain ⟨task, found, rfl⟩ := Option.map_eq_some_iff.mp leads
      obtain ⟨task', found', same, unhoisted⟩ :=
        innerOfExpression?_alike (alike.seen sound.current) found
      rw [← alike.current] at found'
      refine ⟨_, Option.map_eq_some_iff.mpr ⟨task', found', rfl⟩, ?_⟩
      exact { alike with
        task := same, settled := fun hoists => nomatch unhoisted.symm.trans hoists }
  | declarator hoisted declarator =>
      obtain ⟨target, value⟩ := declarator
      obtain ⟨value, rfl, rfl⟩ := Option.map_eq_some_iff.mp leads
      exact ⟨_, rfl, { alike with task := .expression value, settled := nofun }⟩
  | statement statement => exact innerOfStatement?_alike sound alike settled leads
  | body statements => exact exists_inner?_body alike sound settled leads
  | pass binder same body => exact exists_inner?_pass alike sound settled same leads
  | @activation closure closure' same arguments arguments' given span =>
      obtain rfl := same.eq
      exact exists_inner?_activation alike sound same.live given leads (left rfl)
  | none => cases leads
  | row => cases leads

/-! ## The end of a job -/

section Ends

variable {registers registers' : Registers} (alike : registers.Alike roles registers')
  (made : registers.current < registers.scopes.size)
include alike made

theorem finish_alike {task task' : Task} (same : task.Alike roles task')
    (settled : task.hoists = true → registers.scopes.Settled roles registers.current) :
    (registers.scopes.finish registers.current task).Alike roles
      (registers'.scopes.finish registers'.current task') := by
  have seen := alike.seen made
  have arenas := alike.scopes
  rw [alike.current]
  cases same with
  | expression expression =>
      cases expression with
      | assign _ target value =>
          cases target with
          | name name =>
              exact arenas.assign alike.live made name (Expression.binding_alike seen value)
          | other parts => exact arenas
      | _ => exact arenas
  | declarator hoisted declarator =>
      obtain ⟨target, value⟩ := declarator
      cases target with
      | other parts => cases value <;> exact arenas
      | name name =>
          cases value with
          | none => exact arenas
          | some value =>
              have bound := Expression.binding_alike seen value
              exact arenas.declare alike.live made settled name bound
  | _ => exact arenas

theorem endedAlike_call {span : Span} {callee : Expression} {arguments : List Element}
    (alone : setting.innerOfExpression? registers.scopes registers.current
      (.call span callee arguments) = none)
    (silent : setting.interface.entryOf? callee = none) (heard : σ) :
    EndedAlike roles
      (setting.ends limit { registers with task := .expression (.call span callee arguments) }
        heard)
      (setting.ends limit { registers' with task := .expression (.call span callee arguments) }
        heard) := by
  obtain ⟨declared, -⟩ :=
    setting.treatment_spec registers.scopes registers.current callee arguments
  have ran := setting.runExpression_call (setting.activation (limit - registers.depth))
    registers.place span callee arguments ⟨registers.scopes, heard⟩
  have ran' := setting.runExpression_call (setting.activation (limit - registers'.depth))
    registers'.place span callee arguments ⟨registers'.scopes, heard⟩
  have same : (setting.treatment registers.scopes registers.current callee arguments).Alike
      roles _ := treatment_alike (alike.seen made) callee arguments
  rw [← alike.current] at same
  simp only [innerOfExpression?] at alone
  rw [Registers.place] at ran ran'
  generalize setting.treatment registers.scopes registers.current callee arguments = treated
    at declared alone same ran
  generalize setting.treatment registers'.scopes registers'.current callee arguments = treated'
    at same ran'
  cases same with
  | configured => exact .of_same alike.scopes ran ran'
  | skipped name =>
      cases name with
      | none => exact .of_warnIf alike.scopes setting ran ran'
      | some name => exact .of_warnIf alike.scopes setting ran ran'
  | declared entry =>
      rw [silent] at declared
      cases declared
  | _ => cases alone

theorem endedAlike_statement {statement : Statement}
    (alone : innerOfStatement? registers statement = none) (heard : σ) :
    EndedAlike roles (setting.ends limit { registers with task := .statement statement } heard)
      (setting.ends limit { registers' with task := .statement statement } heard) := by
  have still {outcome : Outcome} {ended ended' : Outcome × Progress σ}
      (ran : ended = (outcome, ⟨registers.scopes, heard⟩))
      (ran' : ended' = (outcome, ⟨registers'.scopes, heard⟩)) : EndedAlike roles ended ended' :=
    .of_same alike.scopes ran ran'
  cases statement with
  | expression => cases alone
  | block => cases alone
  | declaration => cases alone
  | function => exact still rfl rfl
  | exported span declaration =>
      cases declaration with
      | declaration => cases alone
      | function => exact still rfl rfl
      | empty => exact still rfl rfl
      | _ => exact .of_warnIf alike.scopes setting rfl rfl
  | empty => exact still rfl rfl
  | forOf span binder iterated body =>
      have unknown := Option.map_eq_none_iff.mp alone
      have same := (Expression.binding_alike (alike.seen made) iterated).items?
      rw [unknown, ← alike.current] at same
      have unknown' : (iterated.binding registers'.scopes registers'.current).items? = none := by
        generalize (iterated.binding registers'.scopes registers'.current).items? = found at same ⊢
        cases same
        rfl
      exact .of_warnIf alike.scopes setting
        (setting.ends_forOf_of_unknown limit registers span binder body unknown heard)
        (setting.ends_forOf_of_unknown limit registers' span binder body unknown' heard)
  | throw span argument =>
      have same : setting.thrownMessage registers'.scopes _ argument = _ :=
        thrownMessage_alike (alike.seen made) registers.suites argument
      rw [← alike.current, ← alike.suites] at same
      refine still rfl (Prod.ext ?_ rfl)
      let outcome (message : String) : Outcome := .error (.thrown (setting.location span) message)
      exact congrArg outcome same
  | other span parts => exact .of_warnIf alike.scopes setting rfl rfl

/-- What a call announces is the same, up to the job of running a body. -/
inductive AnnouncedAlike (roles : Roles) : Announcement → Announcement → Prop where
  | leaf (signal : Signal) : AnnouncedAlike roles (.leaf signal) (.leaf signal)
  | pending (call : SuiteCall) : AnnouncedAlike roles (.suite call none) (.suite call none)
  | suite (call : SuiteCall) {body body' : Job} (alike : body.Alike roles body') :
    AnnouncedAlike roles (.suite call (some body)) (.suite call (some body'))
  | missing (error : LoadError) : AnnouncedAlike roles (.missing error) (.missing error)

theorem announcement_alike (span : Span) (entry : Entry) (arguments : List Element) :
    AnnouncedAlike roles (setting.announcement registers span entry arguments)
      (setting.announcement registers' span entry arguments) := by
  have seen := alike.seen made
  have named : setting.naming registers'.scopes _ arguments = _ := naming_alike seen arguments
  have closures := Element.closureAt?_alike seen arguments
  rw [← alike.current] at named
  simp only [← alike.current] at closures
  have bodies (index : Nat) :
      (Element.closureAt? registers'.scopes registers'.current arguments index).isSome =
        (Element.closureAt? registers.scopes registers.current arguments index).isSome := by
    have same := closures index
    generalize Element.closureAt? registers.scopes registers.current arguments index = held
      at same ⊢
    generalize Element.closureAt? registers'.scopes registers'.current arguments index = held'
      at same ⊢
    cases same <;> rfl
  unfold announcement
  simp only [named, bodies, Registers.place, callSite, alike.suites]
  cases entry with
  | suite variant =>
      have same := closures 1
      simp only
      generalize Element.closureAt? registers.scopes registers.current arguments 1 = held at same ⊢
      generalize Element.closureAt? registers'.scopes registers'.current arguments 1 = held'
        at same ⊢
      cases same with
      | none =>
          by_cases pending : variant = .skip
          · simp only [if_pos pending]
            exact .pending _
          · simp only [if_neg pending]
            exact .missing _
      | some same =>
          refine .suite _ { alike with
            suites := rfl
            task := .activation same .nil span
            settled := fun hoists => (Bool.false_ne_true hoists).elim }
  | test variant => exact .leaf _
  | hook hook => exact .leaf _

theorem namingNotes_alike (entry : Entry) (arguments : List Element) :
    setting.namingNotes registers' entry arguments =
      setting.namingNotes registers entry arguments := by
  have named : setting.naming registers'.scopes _ arguments = _ :=
    naming_alike (alike.seen made) arguments
  rw [← alike.current] at named
  cases entry with
  | hook hook => rfl
  | _ => exact congrArg Prod.snd named

end Ends

theorem endedAlike_alone {job job' : Job} (made : job.current < job.scopes.size)
    (alike : job.Alike roles job') (lone : setting.Alone limit job) (heard : σ) :
    EndedAlike roles (setting.ends limit job heard) (setting.ends limit job' heard) := by
  obtain ⟨alone, single, silent⟩ := lone
  obtain ⟨registers, task⟩ := job
  obtain ⟨registers', task'⟩ := job'
  obtain ⟨alike, same, settled⟩ := alike
  have still {outcome : Outcome} {ended ended' : Outcome × Progress σ}
      (ran : ended = (outcome, ⟨registers.scopes, heard⟩))
      (ran' : ended' = (outcome, ⟨registers'.scopes, heard⟩)) : EndedAlike roles ended ended' :=
    .of_same alike.scopes ran ran'
  cases same with
  | expression expression =>
      cases expression with
      | call span callee arguments =>
          exact endedAlike_call alike made (Option.map_eq_none_iff.mp alone)
            (silent span callee arguments rfl) heard
      | await => cases alone
      | parenthesized => cases alone
      | sequence => cases alone
      | assign => cases alone
      | identifier => exact still rfl rfl
      | this => exact still rfl rfl
      | literal => exact still rfl rfl
      | function => exact still rfl rfl
      | _ => exact .of_warnIf alike.scopes setting rfl rfl
  | declarator hoisted declarator =>
      obtain ⟨target, value⟩ := declarator
      cases value with
      | some => cases alone
      | none =>
          cases target with
          | other => exact still rfl rfl
          | name name =>
              have declared := alike.scopes.declare alike.live made settled name .unknown
              rw [← alike.current] at declared
              exact ⟨rfl, rfl, declared⟩
  | statement statement => exact endedAlike_statement alike made alone heard
  | body => cases alone
  | pass => cases alone
  | activation same given span =>
      have spent := setting.spent_of_inner?_eq_none limit alone
      exact still (setting.ends_of_spent limit spent)
        (setting.ends_of_spent limit (Nat.le_trans spent alike.depth))
  | none => exact absurd rfl (single _)
  | row => exact absurd rfl (single _)

theorem finishNotes_alike {task task' : Task} (same : task.Alike roles task') :
    setting.finishNotes task' = setting.finishNotes task := by
  cases same <;> rfl

theorem endedAlike_declaring {registers registers' : Registers}
    (alike : registers.Alike roles registers') (made : registers.current < registers.scopes.size)
    {span : Span} {callee : Expression} {arguments : List Element} {entry : Entry}
    (stands : setting.interface.entryOf? callee = some entry) {heard : σ}
    (bodyEnds : ∀ call body body' heard',
      setting.announcement registers span entry arguments = .suite call (some body) →
      setting.announcement registers' span entry arguments = .suite call (some body') →
      body.Alike roles body' →
      setting.listener.suite call (setting.listener.noteAll
        (setting.namingNotes registers' entry arguments) heard) = (.enter, heard') →
      EndedAlike roles (setting.ends limit body heard') (setting.ends limit body' heard')) :
    EndedAlike roles
      (setting.ends limit { registers with task := .expression (.call span callee arguments) }
        heard)
      (setting.ends limit { registers' with task := .expression (.call span callee arguments) }
        heard) := by
  have noted : setting.namingNotes registers' entry arguments = _ :=
    namingNotes_alike alike made entry arguments
  have same : AnnouncedAlike roles (setting.announcement registers span entry arguments) _ :=
    announcement_alike alike made span entry arguments
  rw [setting.ends_of_declaring limit registers span arguments stands,
    setting.ends_of_declaring limit registers' span arguments stands, ← noted]
  generalize announced : setting.announcement registers span entry arguments = announcement
    at same ⊢
  generalize announced' : setting.announcement registers' span entry arguments = announcement'
    at same ⊢
  cases same with
  | leaf signal => exact ⟨rfl, rfl, alike.scopes⟩
  | missing error => exact ⟨rfl, rfl, alike.scopes⟩
  | pending call =>
      simp only [announce]
      rcases setting.listener.suite call _ with ⟨_ | _ | _, heard'⟩
      · exact ⟨rfl, rfl, alike.scopes⟩
      · exact ⟨rfl, rfl, alike.scopes⟩
      · exact ⟨rfl, rfl, alike.scopes⟩
  | suite call same =>
      simp only [announce]
      rcases entered : setting.listener.suite call _ with ⟨_ | _ | _, heard'⟩
      · obtain ⟨outcome, heard, arenas⟩ :=
          bodyEnds call _ _ heard' announced announced' same entered
        refine ⟨outcome, ?_, arenas⟩
        simp only [endsBody, outcome, heard]
      · exact ⟨rfl, rfl, alike.scopes⟩
      · exact ⟨rfl, rfl, alike.scopes⟩

theorem endedAlike_within {job job' inner inner' : Job} (sound : job.Sound false)
    (alike : job.Alike roles job') (leads : setting.inner? limit job = some inner)
    (leads' : setting.inner? limit job' = some inner') {heard : σ}
    (same : EndedAlike roles (setting.ends limit inner heard) (setting.ends limit inner' heard)) :
    EndedAlike roles (setting.ends limit job heard) (setting.ends limit job' heard) := by
  have grows := grows_of_inner? sound leads
  have keeps := grows.grown.toKeeps.trans (setting.grown_ends limit grows.sound heard).toKeeps
  rw [setting.ends_of_inner? limit leads, setting.ends_of_inner? limit leads']
  generalize setting.ends limit inner heard = ended at keeps same ⊢
  generalize setting.ends limit inner' heard = ended' at same ⊢
  obtain ⟨outcome, after⟩ := ended
  obtain ⟨outcome', after'⟩ := ended'
  obtain ⟨rfl, heardAlike, arenas⟩ := same
  rcases outcome' with _ | ⟨⟩
  · rw [goOn_error, goOn_error]
    exact ⟨rfl, heardAlike, arenas⟩
  · dsimp only at heardAlike arenas keeps
    show EndedAlike roles (goOn (.ok (), after) _) (goOn (.ok (), after') _)
    rw [goOn_ok, goOn_ok, finish_apply, finish_apply]
    have standing : Registers.Alike roles { job.toRegisters with scopes := after.scopes }
        { job'.toRegisters with scopes := after'.scopes } :=
      { alike.toAlike with scopes := arenas }
    have finished := finish_alike standing (Nat.lt_of_lt_of_le sound.current keeps.size) alike.task
      fun hoists => (alike.settled hoists).keeps keeps sound.current
    refine ⟨rfl, ?_, finished⟩
    rw [heardAlike, finishNotes_alike alike.task]

/-- The rest of a row is run in scopes that correspond if the first task has ended alike. -/
theorem endedAlike_row {registers registers' : Registers} {first first' : Task}
    {rest rest' : List Task} (sound : Job.Sound false { registers with task := .all (first :: rest) })
    (alike : registers.Alike roles registers')
    (later : Task.Alike roles (.all rest) (.all rest'))
    (settled : (Task.all rest).hoists = true →
      registers.scopes.Settled roles registers.current) {heard : σ}
    (firstEnd : EndedAlike roles (setting.ends limit { registers with task := first } heard)
      (setting.ends limit { registers' with task := first' } heard))
    (restEnds : ∀ scopes scopes' heard',
      setting.ends limit { registers' with task := first' } heard = (.ok (), ⟨scopes', heard'⟩) →
      Job.Sound false { registers with scopes, task := .all rest } →
      Job.Alike roles { registers with scopes, task := .all rest }
        { registers' with scopes := scopes', task := .all rest' } →
      EndedAlike roles (setting.ends limit { registers with scopes, task := .all rest } heard')
        (setting.ends limit { registers' with scopes := scopes', task := .all rest' } heard')) :
    EndedAlike roles (setting.ends limit { registers with task := .all (first :: rest) } heard)
      (setting.ends limit { registers' with task := .all (first' :: rest') } heard) := by
  obtain ⟨arena, made, given⟩ := sound
  cases given with
  | all each =>
    obtain ⟨soundHere, soundLater⟩ := List.forall_mem_cons.mp each
    have soundFirst : Job.Sound false { registers with task := first } := ⟨arena, made, soundHere⟩
    have grown := setting.grown_ends limit soundFirst heard
    rw [ends_all_cons, ends_all_cons]
    generalize setting.ends limit { registers with task := first } heard = ended
      at firstEnd grown ⊢
    generalize setting.ends limit { registers' with task := first' } heard = ended'
      at firstEnd restEnds ⊢
    obtain ⟨outcome, scopes, heard'⟩ := ended
    obtain ⟨outcome', scopes', heard''⟩ := ended'
    obtain ⟨rfl, rfl, arenas⟩ := firstEnd
    rcases outcome' with _ | ⟨⟩
    · exact ⟨rfl, rfl, arenas⟩
    · have soundRest : Job.Sound false { registers with scopes, task := .all rest } :=
        ⟨grown.sound, Nat.lt_of_lt_of_le made grown.size,
          .all fun task member => (soundLater task member).mono grown.size⟩
      exact restEnds scopes scopes' _ rfl soundRest { alike with
        scopes := arenas
        task := later
        settled := fun hoists => (settled hoists).keeps grown.toKeeps made }

/-- What jobs that are alike lead to runs as deep as it did if they do so themselves. -/
theorem depth_eq_of_inner? {job job' inner inner' : Job} (alike : job.Alike roles job')
    (leads : setting.inner? limit job = some inner)
    (leads' : setting.inner? limit job' = some inner') (same : job'.depth = job.depth) :
    inner'.depth = inner.depth := by
  have lives := alike.task.isActivation_eq
  rcases depth_of_inner? leads with ⟨first, other⟩ | ⟨first, live, -⟩
  · rcases depth_of_inner? leads' with ⟨second, -⟩ | ⟨-, live', -⟩
    · rw [first, second, same]
    · cases other.symm.trans (lives.symm.trans live')
  · rcases depth_of_inner? leads' with ⟨-, other'⟩ | ⟨second, -, -⟩
    · cases other'.symm.trans (lives.trans live)
    · rw [first, second, same]

/-- The same text does the same in scopes that correspond. -/
theorem ends_alike (setting : Setting σ) (limit : Nat) {job job' : Job} (sound : job.Sound false)
    (alike : job.Alike roles job') {heard : σ}
    (bounded : job'.depth = job.depth ∨ ¬ (job'.visit heard).HitsLimit setting limit) :
    EndedAlike roles (setting.ends limit job heard) (setting.ends limit job' heard) := by
  -- The second run follows the first one job by job.
  induction job using setting.job_induction limit generalizing job' heard with
  | none registers =>
      obtain ⟨registers', task'⟩ := job'
      obtain ⟨alike, same, -⟩ := alike
      cases same
      exact ⟨rfl, rfl, alike.scopes⟩
  | row registers first rest firstEnds restEnds =>
      obtain ⟨registers', task'⟩ := job'
      obtain ⟨alike, same, settled⟩ := alike
      cases same with
      | @row _ first' _ rest' here later =>
        have soundFirst : Job.Sound false { registers with task := first } := by
          cases sound.task with
          | all each => exact ⟨sound.scopes, sound.current, each first List.mem_cons_self⟩
        have firstAlike : Job.Alike roles { registers with task := first }
            { registers' with task := first' } :=
          { alike with
            task := here
            settled := fun hoists => settled (Bool.or_eq_true_iff.mpr (.inl hoists)) }
        have firstEnd : EndedAlike roles
            (setting.ends limit { registers with task := first } heard)
            (setting.ends limit { registers' with task := first' } heard) :=
          firstEnds soundFirst firstAlike (bounded.imp_right
            (Visit.not_hitsLimit_of_starts · (.first registers' heard first' rest')))
        refine endedAlike_row sound alike later
          (fun hoists => settled (Bool.or_eq_true_iff.mpr (.inr hoists))) firstEnd ?_
        intro scopes scopes' heard' ended soundRest restAlike
        exact restEnds scopes soundRest restAlike (bounded.imp_right
          (Visit.not_hitsLimit_of_starts · (.rest registers' heard rest' ended)))
  | within job inner leads innerEnds =>
      -- The first run may have fewer activations live, so the second one could be refused here.
      have left : job.task.isActivation = true → job'.depth < limit := by
        intro live
        rcases bounded with same | free
        · rcases depth_of_inner? leads with ⟨-, other⟩ | ⟨-, -, below⟩
          · cases other.symm.trans live
          · exact same.trans_lt below
        · exact Visit.depth_lt_of_not_hitsLimit free (alike.task.isActivation_eq.trans live)
      obtain ⟨inner', leads', innerAlike⟩ := exists_inner?_alike sound alike leads left
      have innerSound := (grows_of_inner? sound leads).sound
      refine endedAlike_within sound alike leads leads' (innerEnds innerSound innerAlike ?_)
      exact bounded.imp (depth_eq_of_inner? alike leads leads')
        (Visit.not_hitsLimit_of_inner? · leads')
  | declaring registers span callee arguments entry stands bodyEnds =>
      obtain ⟨registers', task'⟩ := job'
      obtain ⟨alike, same, settled⟩ := alike
      cases same
      refine endedAlike_declaring alike sound.current stands ?_
      intro call body body' heard' announced announced' bodyAlike entered
      have bodySound := (grows_of_announcement sound announced).sound
      refine bodyEnds call body announced bodySound bodyAlike (bounded.imp (fun same => ?_) ?_)
      · obtain ⟨_, -, rfl⟩ := setting.body_of_announcement announced
        obtain ⟨_, -, rfl⟩ := setting.body_of_announcement announced'
        exact same
      · exact (Visit.not_hitsLimit_of_starts ·
          (.body registers' heard stands announced' entered))
  | alone job lone => exact endedAlike_alone sound.current alike lone heard

end Setting

end TestInventory
