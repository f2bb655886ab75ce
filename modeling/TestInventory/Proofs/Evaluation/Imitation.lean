import TestInventory.Proofs.Evaluation.Reenactment

/-!
# What does the same as a pass

A pass of a loop binds its item in a scope of its own and runs the body there.  A block
that declares a constant and goes on with the body does the same, as does an activation
of a callback that has the variable as its parameter, if no variable of the function is
declared in the body and the limit is not hit.  Rows of tasks end alike if each task of
one imitates the task of the other.
-/

namespace TestInventory

open TestInventory.Source (Span)
open Evaluating

/-! ## Forms of a loop -/

/-- The binder of a loop that declares a constant. -/
def Binder.constant (name : String) : Binder := .declaration false [.mk (.name name) none]

/-- The declaration of a constant whose value is a literal. -/
def Statement.constant (declared literal : Span) (name : String) (value : Value) : Statement :=
  .declaration declared false [.mk (.name name) (some (.literal literal value))]

/--
Whether a loop body comes to certain statements in braces: as it is or, if it is a block
itself, without its own braces.  These must not declare the variable of the loop once more
as a function.
-/
inductive Statement.WrittenOut (name : String) : Statement → List Statement → Prop where
  | whole (body : Statement) : WrittenOut name body [body]
  | opened (span : Span) (statements : List Statement)
      (free : ∀ function ∈ statements.filterMap Statement.hoisted?, function.1 ≠ name) :
    WrittenOut name (.block span statements) statements

/-- Whether a statement is a block that declares a constant and goes on with certain statements. -/
def Statement.IsPass (name : String) (statements : List Statement) (value : Value)
    (statement : Statement) : Prop :=
  ∃ block declared literal : Span,
    statement = .block block (.constant declared literal name value :: statements)

/-- The callback with one parameter that runs certain statements. -/
def Callback.each (name : String) (statements : List Statement) : Callback :=
  .block [.name name] statements

/-- The call of `forEach` with a callback of one parameter. -/
def Expression.forEach (span place function : Span) (iterated : Expression) (name : String)
    (statements : List Statement) : Expression :=
  .call span (.member place iterated "forEach")
    [.plain (.function function (.each name statements))]

namespace Task

/-- Statements bring no closures. -/
theorem sound_statements (statements : List Statement) :
    ∀ task ∈ statements.map Task.statement, ∀ size, task.Sound false size := by
  intro task member size
  obtain ⟨statement, -, rfl⟩ := List.mem_map.mp member
  exact .statement nofun

theorem isActivation_statements (statements : List Statement) :
    ∀ task ∈ statements.map Task.statement, task.isActivation = false := by
  intro task member
  obtain ⟨statement, -, rfl⟩ := List.mem_map.mp member
  rfl

end Task

/-! ## Passes -/

namespace Registers

variable (registers : Registers) (name : String) (value : Value) (statements : List Statement)

/-- Inside a pass: a new scope binds the item. -/
def inPass : Registers :=
  { registers with
    scopes := (registers.scopes.add registers.current false).bindIn registers.scopes.size name
      (.value value)
    current := registers.scopes.size }

/-- Inside a block: a new scope binds the functions among the statements. -/
def inBlock : Registers :=
  { registers with
    scopes := (registers.scopes.add registers.current false).hoist registers.scopes.size statements
    current := registers.scopes.size }

/-- Inside a block that has also declared a constant. -/
def inConstant : Registers :=
  { registers.inBlock statements with
    scopes := (registers.inBlock statements).scopes.bindIn registers.scopes.size name
      (.value value) }

/-- Inside an activation: a new scope binds the parameter, and then functions. -/
def inActivation (scope : Nat) : Registers :=
  { registers with
    scopes := ((registers.scopes.add scope true).bindIn registers.scopes.size name
      (.value value)).hoist registers.scopes.size statements
    current := registers.scopes.size
    depth := registers.depth + 1 }

theorem size_inPass : (registers.inPass name value).scopes.size = registers.scopes.size + 1 := by
  simp [inPass]

theorem made_inPass :
    (registers.inPass name value).current < (registers.inPass name value).scopes.size := by
  simp [inPass]

/-- What hoists no function binds just the constant. -/
theorem inConstant_of_unhoisted {body : Statement} (unhoisted : body.hoisted? = none) :
    registers.inConstant name value [body] = registers.inPass name value := by
  simp [inConstant, inBlock, inPass, Scopes.hoist, unhoisted, Scopes.bindFunctions]

/-- Nor does it bind anything but the parameter. -/
theorem scopes_inActivation_of_unhoisted {body : Statement} (unhoisted : body.hoisted? = none)
    (scope : Nat) :
    (registers.inActivation name value [body] scope).scopes =
      (registers.scopes.add scope true).bindIn registers.scopes.size name (.value value) := by
  simp [inActivation, Scopes.hoist, unhoisted, Scopes.bindFunctions]

variable {registers} (sound : registers.scopes.Sound false)
  (made : registers.current < registers.scopes.size)
include sound made

theorem grown_inPass :
    Scopes.Grown false registers.scopes.size registers.scopes
      (registers.inPass name value).scopes := by
  have grown : Scopes.Grown false registers.scopes.size registers.scopes
      (registers.scopes.add registers.current false) := .add sound made false
  exact grown.trans (.bindIn grown.sound (.value value) _ name fun _ => rfl) (.inl rfl)

theorem sound_inBlock :
    Job.Sound false { registers.inBlock statements with
      task := .all (statements.map .statement) } := by
  have added : Scopes.Grown false registers.scopes.size registers.scopes
      (registers.scopes.add registers.current false) := .add sound made false
  have inside : registers.scopes.size < (registers.scopes.add registers.current false).size := by
    simp
  have tame : Tame false (statementsRebind statements) := nofun
  have hoisted := Scopes.Grown.hoist added.sound inside tame
  exact ⟨hoisted.sound, Nat.lt_of_lt_of_le inside hoisted.size,
    .all fun task member => Task.sound_statements statements task member _⟩

end Registers

/-- Whether two runs are about to do the same, with as many activations live. -/
structure Abreast (roles : Roles) (first second : Registers) : Prop
    extends Registers.Alike roles first second where
  sound : first.scopes.Sound false
  made : first.current < first.scopes.size
  level : second.depth = first.depth
  settled : first.scopes.Settled roles first.current

namespace Abreast

variable {roles : Roles} {registers registers' : Registers}
  (abreast : Abreast roles registers registers')
include abreast

theorem made' : registers'.current < registers'.scopes.size := by
  rw [abreast.current]
  exact abreast.scopes.index_lt_size abreast.live abreast.made

theorem sound_pass (name : String) (value : Value) (body : Statement) :
    Job.Sound false { registers with task := .pass (.constant name) (.value value) body } :=
  ⟨abreast.sound, abreast.made, .pass (.value value) nofun⟩

theorem sound_inPass (name : String) (value : Value) :
    (registers.inPass name value).scopes.Sound false :=
  (Registers.grown_inPass name value abreast.sound abreast.made).sound

/-- A block inside a pass does what another scope does that binds the same. -/
theorem opened {role : Role} (isLive : role = .kept ∨ role = .promoted) (name : String)
    (value : Value) {statements : List Statement}
    (settled : statementsHoist statements = true → role = .kept) {inner : Registers}
    (arenas : ((registers.inPass name value).inBlock statements).scopes.Alike
      (roles.merge registers.scopes.size role) inner.scopes)
    (current : inner.current = registers'.scopes.size)
    (suites : inner.suites = registers'.suites) (depth : registers'.depth ≤ inner.depth) :
    Job.Alike (roles.merge registers.scopes.size role)
      { (registers.inPass name value).inBlock statements with
        task := .all (statements.map .statement) }
      { inner with task := .all (statements.map .statement) } := by
  have agree : ∀ other < registers.scopes.size, roles.merge registers.scopes.size role other =
      roles other := fun other old => roles.merge_of_lt _ role old
  have here : ((registers.inPass name value).inBlock statements).current =
      registers.scopes.size + 1 := by
    simp [Registers.inBlock, Registers.inPass]
  refine {
    scopes := arenas
    live := ?_
    current := ?_
    suites := suites.trans abreast.suites
    depth := Nat.le_trans abreast.depth depth
    task := .of_texts statements fun statement => .statement statement
    settled := fun hoists => ?_ }
  · rw [here]
    rwa [Roles.Live, roles.merge_inner]
  · rw [here, Roles.index_succ_of_merged (roles.merge_outer ..)]
    exact current.trans (abreast.scopes.index_size agree).symm
  · have kept := settled ((Task.hoists_statements statements).symm.trans hoists)
    have outside := (abreast.settled.add abreast.sound abreast.made agree
      (by simp [roles.merge_outer])).bindIn registers.scopes.size name (.value value)
    have inside := outside.add (abreast.sound_inPass name value) (registers.made_inPass name value)
      (fun _ _ => rfl) (by simp [roles.merge_inner, kept])
    exact inside.hoist _ statements

/-- Two runs are abreast again after what has ended alike. -/
theorem after {roles' : Roles}
    (agree : ∀ index < registers.scopes.size, roles' index = roles index)
    {scopes scopes' : Scopes} (alike : scopes.Alike roles' scopes')
    (sound : scopes.Sound false) (keeps : registers.scopes.Keeps scopes) :
    Abreast roles' { registers with scopes } { registers' with scopes := scopes' } where
  scopes := alike
  live := abreast.live.of_eq (agree _ abreast.made)
  current := abreast.current.trans
    (Roles.index_congr agree (Nat.le_of_lt abreast.made)).symm
  suites := abreast.suites
  depth := abreast.depth
  sound := sound
  made := Nat.lt_of_lt_of_le abreast.made keeps.size
  level := abreast.level
  settled := (abreast.settled.of_agree agree).keeps keeps abreast.made

end Abreast

namespace Setting

variable {σ : Type} {setting : Setting σ} {limit : Nat}

section Passes

variable (registers : Registers) (name : String) (value : Value) (heard : σ)

theorem ends_pass (body : Statement) :
    setting.ends limit { registers with task := .pass (.constant name) (.value value) body } heard =
      setting.ends limit { registers.inPass name value with task := .statement body } heard :=
  (setting.ends_of_inner? limit rfl heard).trans (goOn_return _)

theorem ends_block (span : Span) (statements : List Statement) :
    setting.ends limit { registers with task := .statement (.block span statements) } heard =
      setting.ends limit
        { registers.inBlock statements with task := .all (statements.map .statement) } heard :=
  (setting.ends_of_innerOfStatement? limit registers _ rfl heard).trans
    ((setting.ends_of_inner? limit rfl heard).trans (goOn_return _))

theorem ends_single (task : Task) :
    setting.ends limit { registers with task := .all [task] } heard =
      setting.ends limit { registers with task } heard := by
  rw [ends_all_cons]
  exact goOn_return _

theorem ends_constant (declared literal : Span) :
    setting.ends limit
        { registers with task := .statement (.constant declared literal name value) } heard =
      (.ok (), ⟨registers.scopes.bindIn registers.current name (.value value), heard⟩) := rfl

/-- A block that declares a constant binds functions first and then the constant. -/
theorem ends_isPass {statements : List Statement} {statement : Statement}
    (isPass : statement.IsPass name statements value) :
    setting.ends limit { registers with task := .statement statement } heard =
      setting.ends limit
        { registers.inConstant name value statements with
          task := .all (statements.map .statement) } heard := by
  obtain ⟨block, declared, literal, rfl⟩ := isPass
  rw [ends_block, List.map_cons, ends_all_cons]
  exact congrArg (goOn · _) (setting.ends_constant _ name value heard declared literal)

variable (statements : List Statement) (scope : Nat) (index : Binding) (span : Span)

theorem inner?_activation (live : registers.depth < limit) :
    setting.inner? limit
        { registers with
          task := .activation ⟨.each name statements, scope⟩ [.value value, index] span } =
      some { registers with
        scopes := (registers.scopes.add scope true).bindIn registers.scopes.size name (.value value)
        current := registers.scopes.size
        depth := registers.depth + 1
        task := .body statements } :=
  if_pos live

/-- An activation binds the parameter first and then functions. -/
theorem ends_activation (live : registers.depth < limit) :
    setting.ends limit
        { registers with
          task := .activation ⟨.each name statements, scope⟩ [.value value, index] span } heard =
      setting.ends limit
        { registers.inActivation name value statements scope with
          task := .all (statements.map .statement) } heard := by
  rw [setting.ends_of_inner? limit
    (setting.inner?_activation registers name value statements scope index span live)]
  exact (goOn_return _).trans ((setting.ends_of_inner? limit rfl heard).trans (goOn_return _))

/-- What an activation leads to does not hit the limit either. -/
theorem not_hitsLimit_inActivation
    (free : ¬ Visit.HitsLimit setting limit ⟨⟨registers, heard⟩,
      .activation ⟨.each name statements, scope⟩ [.value value, index] span⟩) :
    registers.depth < limit ∧ ¬ Visit.HitsLimit setting limit
      ⟨⟨registers.inActivation name value statements scope, heard⟩,
        .all (statements.map .statement)⟩ := by
  have live : registers.depth < limit := Visit.depth_lt_of_not_hitsLimit free rfl
  have freeBody := Visit.not_hitsLimit_of_inner? free
    (setting.inner?_activation registers name value statements scope index span live)
  exact ⟨live, Visit.not_hitsLimit_of_inner? freeBody rfl⟩

end Passes

/-! ## Passes that correspond -/

/-- Whether two runs have ended alike, and the scopes they began with have kept their roles. -/
def EndedAbreast (roles : Roles) (scopes : Scopes) (first second : Outcome × Progress σ) : Prop :=
  ∃ roles' : Roles, (∀ index < scopes.size, roles' index = roles index) ∧
    EndedAlike roles' first second

/--
Whether a task does what another one does, when the runs are abreast and the second one is
at a certain scope; if it is an activation, it must not hit the limit.
-/
def Imitates (setting : Setting σ) (limit : Nat) (current : Nat) (task task' : Task) : Prop :=
  ∀ (roles : Roles) (registers registers' : Registers) (heard : σ),
    Abreast roles registers registers' → registers'.current = current →
    (task'.isActivation = true →
      ¬ Visit.HitsLimit setting limit ⟨⟨registers', heard⟩, task'⟩) →
    EndedAbreast roles registers.scopes (setting.ends limit { registers with task } heard)
      (setting.ends limit { registers' with task := task' } heard)

/-- To run the statement that declares a function does nothing. -/
theorem ends_of_hoisted? (registers : Registers) {statement : Statement}
    {function : String × Callback} (hoisted : statement.hoisted? = some function) (heard : σ) :
    setting.ends limit { registers with task := .statement statement } heard =
      (.ok (), ⟨registers.scopes, heard⟩) := by
  cases statement with
  | function _ name callback => rfl
  | exported _ declaration =>
      cases declaration with
      | function _ name callback => rfl
      | _ => cases hoisted
  | _ => cases hoisted

/-- A block that holds the whole body does what a pass does. -/
theorem imitates_isPass_whole {name : String} {value : Value} {body statement : Statement}
    (isPass : statement.IsPass name [body] value) (current : Nat) :
    setting.Imitates limit current (.pass (.constant name) (.value value) body)
      (.statement statement) := by
  intro roles registers registers' heard abreast _ _
  rw [setting.ends_isPass registers' name value heard isPass, List.map_singleton, ends_single]
  cases hoisted : body.hoisted? with
  | none =>
      refine ⟨roles, fun _ _ => rfl, ?_⟩
      rw [Registers.inConstant_of_unhoisted registers' name value hoisted, ← setting.ends_pass]
      exact ends_alike setting limit (abreast.sound_pass name value body) { abreast with
        task := .pass _ (.value value) body, settled := fun _ => abreast.settled }
        (.inl abreast.level)
  | some function =>
      -- A function is only bound in the block, where nothing refers to it.
      obtain ⟨index, dead, arenas⟩ := abreast.scopes.enterDead abreast.sound abreast.live
        abreast.made name value abreast.made' false
      refine ⟨_, fun other old => Function.update_of_ne (Nat.ne_of_lt old) .dead roles, ?_⟩
      rw [setting.ends_pass, ends_of_hoisted? _ hoisted, ends_of_hoisted? _ hoisted]
      have apart := (arenas.hoist_dead dead [body]).bindIn_dead' dead name (.value value)
      rw [index] at apart
      exact ⟨rfl, rfl, apart⟩

/-- A callback that holds the whole body does what a pass does. -/
theorem imitates_activation_whole {name : String} {value : Value} {body : Statement}
    (unhoisting : body.hoists = false) (current : Nat) (index : Binding) (span : Span) :
    setting.Imitates limit current (.pass (.constant name) (.value value) body)
      (.activation ⟨.each name [body], current⟩ [.value value, index] span) := by
  intro roles registers registers' heard abreast here free
  subst here
  obtain ⟨live, freeInside⟩ := not_hitsLimit_inActivation _ _ _ _ _ _ _ _ (free rfl)
  rw [setting.ends_activation registers' name value heard _ _ _ _ live, List.map_singleton,
    ends_single, setting.ends_pass]
  cases hoisted : body.hoisted? with
  | none =>
      have agree : ∀ other < registers.scopes.size,
          Function.update roles registers.scopes.size .promoted other = roles other :=
        fun other old => Function.update_of_ne (Nat.ne_of_lt old) .promoted roles
      have arenas : (registers.inPass name value).scopes.Alike
          (Function.update roles registers.scopes.size .promoted)
          (registers'.inActivation name value [body] registers'.current).scopes := by
        rw [registers'.scopes_inActivation_of_unhoisted name value hoisted, abreast.current]
        exact abreast.scopes.enter abreast.sound abreast.live abreast.made name value (.inr rfl)
      have alike : Job.Alike (Function.update roles registers.scopes.size .promoted)
          { registers.inPass name value with task := .statement body }
          { registers'.inActivation name value [body] registers'.current with
            task := .statement body } := {
        scopes := arenas
        live := .inr (Function.update_self ..)
        current := (abreast.scopes.index_size agree).symm
        suites := abreast.suites
        depth := Nat.le_succ_of_le abreast.depth
        task := .statement body
        settled := fun hoists => nomatch unhoisting.symm.trans hoists }
      have sound : Job.Sound false { registers.inPass name value with task := .statement body } :=
        ⟨abreast.sound_inPass name value, registers.made_inPass name value, .statement nofun⟩
      exact ⟨_, agree, ends_alike setting limit sound alike
        (.inr (Visit.not_hitsLimit_of_starts freeInside (.first _ heard _ _)))⟩
  | some function =>
      obtain ⟨index, dead, arenas⟩ := abreast.scopes.enterDead abreast.sound abreast.live
        abreast.made name value abreast.made' true
      refine ⟨_, fun other old => Function.update_of_ne (Nat.ne_of_lt old) .dead roles, ?_⟩
      rw [ends_of_hoisted? _ hoisted, ends_of_hoisted? _ hoisted]
      have apart := (arenas.bindIn_dead' dead name (.value value)).hoist_dead dead [body]
      rw [index] at apart
      exact ⟨rfl, rfl, apart⟩

/-- A block that holds what is in the block of the body does what a pass does. -/
theorem imitates_isPass_opened {name : String} {value : Value} {statements : List Statement}
    {statement : Statement}
    (free : ∀ function ∈ statements.filterMap Statement.hoisted?, function.1 ≠ name)
    (isPass : statement.IsPass name statements value) (span : Span) (current : Nat) :
    setting.Imitates limit current (.pass (.constant name) (.value value) (.block span statements))
      (.statement statement) := by
  intro roles registers registers' heard abreast _ _
  -- The scopes of the pass and of the block inside it count as one.
  have arenas := (abreast.scopes.enterMerged abreast.sound abreast.live abreast.made name value
    (.inl rfl) statements).2 free
  rw [← abreast.current, ← registers.size_inPass name value] at arenas
  have alike : Job.Alike (roles.merge registers.scopes.size .kept)
      { (registers.inPass name value).inBlock statements with
        task := .all (statements.map .statement) }
      { registers'.inConstant name value statements with
        task := .all (statements.map .statement) } :=
    abreast.opened (.inl rfl) name value (fun _ => rfl) arenas rfl rfl (Nat.le_refl _)
  refine ⟨_, fun other old => roles.merge_of_lt _ .kept old, ?_⟩
  rw [setting.ends_isPass registers' name value heard isPass, ends_pass, ends_block]
  exact ends_alike setting limit (Registers.sound_inBlock statements
    (abreast.sound_inPass name value) (registers.made_inPass name value)) alike (.inl abreast.level)

/-- A callback that holds what is in the block of the body does what a pass does. -/
theorem imitates_activation_opened {name : String} {value : Value} {statements : List Statement}
    (unhoisting : statementsHoist statements = false) (span : Span) (current : Nat)
    (index : Binding) (call : Span) :
    setting.Imitates limit current (.pass (.constant name) (.value value) (.block span statements))
      (.activation ⟨.each name statements, current⟩ [.value value, index] call) := by
  intro roles registers registers' heard abreast here free
  subst here
  obtain ⟨live, freeInside⟩ := not_hitsLimit_inActivation _ _ _ _ _ _ _ _ (free rfl)
  have arenas := (abreast.scopes.enterMerged abreast.sound abreast.live abreast.made name value
    (.inr rfl) statements).1
  rw [← abreast.current, ← registers.size_inPass name value] at arenas
  have alike : Job.Alike (roles.merge registers.scopes.size .promoted)
      { (registers.inPass name value).inBlock statements with
        task := .all (statements.map .statement) }
      { registers'.inActivation name value statements registers'.current with
        task := .all (statements.map .statement) } :=
    abreast.opened (.inr rfl) name value (fun hoists => nomatch unhoisting.symm.trans hoists)
      arenas rfl rfl (Nat.le_succ _)
  refine ⟨_, fun other old => roles.merge_of_lt _ .promoted old, ?_⟩
  rw [setting.ends_activation registers' name value heard _ _ _ _ live, ends_pass, ends_block]
  exact ends_alike setting limit (Registers.sound_inBlock statements
    (abreast.sound_inPass name value) (registers.made_inPass name value)) alike (.inr freeInside)

/-- A block that declares the constant and goes on with the body does what a pass does. -/
theorem imitates_isPass {name : String} {value : Value} {body statement : Statement}
    {statements : List Statement} (writtenOut : body.WrittenOut name statements)
    (isPass : statement.IsPass name statements value) (current : Nat) :
    setting.Imitates limit current (.pass (.constant name) (.value value) body)
      (.statement statement) := by
  cases writtenOut with
  | whole => exact imitates_isPass_whole isPass current
  | opened span statements free => exact imitates_isPass_opened free isPass span current

/-- A callback with the parameter and the body does what a pass does. -/
theorem imitates_activation {name : String} {value : Value} {body : Statement}
    {statements : List Statement} (writtenOut : body.WrittenOut name statements)
    (unhoisting : statementsHoist statements = false) (current : Nat) (index : Binding)
    (span : Span) :
    setting.Imitates limit current (.pass (.constant name) (.value value) body)
      (.activation ⟨.each name statements, current⟩ [.value value, index] span) := by
  cases writtenOut with
  | whole =>
      exact imitates_activation_whole ((Bool.or_false _).symm.trans unhoisting) current index span
  | opened place statements _ =>
      exact imitates_activation_opened unhoisting place current index span

/-- The calls of a callback for values, with their indices, do what the passes do. -/
theorem imitates_calls {name : String} {body : Statement} {statements : List Statement}
    (writtenOut : body.WrittenOut name statements)
    (unhoisting : statementsHoist statements = false) (current : Nat) (span : Span)
    (values : List Value) (first : Nat) :
    List.Forall₂ (setting.Imitates limit current)
      (values.map fun value => .pass (.constant name) (.value value) body)
      (((values.map Binding.value).zipIdx first).map fun (item, index) =>
        .activation ⟨.each name statements, current⟩
          [item, .value (.number (Float.ofNat index))] span) := by
  induction values generalizing first with
  | nil => exact .nil
  | cons value rest ih =>
      exact .cons (imitates_activation writtenOut unhoisting current _ span) (ih (first + 1))

/-- A statement does what it does. -/
theorem imitates_statement (statement : Statement) (current : Nat) :
    setting.Imitates limit current (.statement statement) (.statement statement) := by
  intro roles registers registers' heard abreast _ _
  refine ⟨roles, fun _ _ => rfl, ?_⟩
  have sound : Job.Sound false { registers with task := .statement statement } :=
    ⟨abreast.sound, abreast.made, .statement nofun⟩
  exact ends_alike setting limit sound { abreast with
    task := .statement statement, settled := fun _ => abreast.settled } (.inl abreast.level)

theorem imitates_statements (statements : List Statement) (current : Nat) :
    List.Forall₂ (setting.Imitates limit current) (statements.map .statement)
      (statements.map .statement) :=
  List.forall₂_map_left_iff.mpr (List.forall₂_map_right_iff.mpr
    (List.forall₂_same.mpr fun statement _ => imitates_statement statement current))

/-! ## Rows of passes -/

/-- What a row does is done by its parts in turn. -/
theorem ends_all_append (registers : Registers) (tasks rest : List Task) (heard : σ) :
    setting.ends limit { registers with task := .all (tasks ++ rest) } heard =
      goOn (setting.ends limit { registers with task := .all tasks } heard) fun after =>
        setting.ends limit { registers with scopes := after.scopes, task := .all rest }
          after.heard := by
  induction tasks generalizing registers heard with
  | nil => rfl
  | cons first tasks ih =>
      rw [List.cons_append, ends_all_cons, ends_all_cons]
      rcases setting.ends limit { registers with task := first } heard with ⟨_ | ⟨⟩, after⟩
      · rfl
      · exact ih { registers with scopes := after.scopes } after.heard

/-- What follows ends alike too if it does so wherever the runs are abreast. -/
theorem goOn_alike {roles roles' : Roles} {registers registers' : Registers}
    (abreast : Abreast roles registers registers')
    (agree : ∀ index < registers.scopes.size, roles' index = roles index)
    {ended ended' : Outcome × Progress σ} (alike : EndedAlike roles' ended ended')
    (sound : ended.2.scopes.Sound false) (keeps : registers.scopes.Keeps ended.2.scopes)
    {next next' : Progress σ → Outcome × Progress σ}
    (follow : ∀ scopes scopes' heard, ended' = (.ok (), ⟨scopes', heard⟩) →
      registers.scopes.Keeps scopes →
      Abreast roles' { registers with scopes } { registers' with scopes := scopes' } →
      EndedAbreast roles' scopes (next ⟨scopes, heard⟩) (next' ⟨scopes', heard⟩)) :
    EndedAbreast roles registers.scopes (goOn ended next) (goOn ended' next') := by
  obtain ⟨outcome, scopes, heard⟩ := ended
  obtain ⟨outcome', scopes', heard'⟩ := ended'
  obtain ⟨rfl, rfl, arenas⟩ := alike
  rcases outcome' with _ | ⟨⟩
  · exact ⟨roles', agree, rfl, rfl, arenas⟩
  · obtain ⟨roles'', agree', later⟩ := follow scopes scopes' _ rfl keeps
      (abreast.after agree arenas sound keeps)
    refine ⟨roles'', fun index old => ?_, later⟩
    exact (agree' index (Nat.lt_of_lt_of_le old keeps.size)).trans (agree index old)

/-- Rows do the same if each task of one imitates the task of the other. -/
theorem ends_row {current : Nat} {tasks tasks' : List Task}
    (each : List.Forall₂ (setting.Imitates limit current) tasks tasks') {roles : Roles}
    {registers registers' : Registers} (abreast : Abreast roles registers registers')
    (here : registers'.current = current)
    (sound : ∀ task ∈ tasks, task.Sound false registers.scopes.size) {heard : σ}
    (bounded : (∀ task ∈ tasks', task.isActivation = false) ∨
      ¬ Visit.HitsLimit setting limit ⟨⟨registers', heard⟩, .all tasks'⟩) :
    EndedAbreast roles registers.scopes
      (setting.ends limit { registers with task := .all tasks } heard)
      (setting.ends limit { registers' with task := .all tasks' } heard) := by
  induction each generalizing roles registers registers' heard with
  | nil => exact ⟨roles, fun _ _ => rfl, rfl, rfl, abreast.scopes⟩
  | @cons first first' rest rest' imitates _ ih =>
      obtain ⟨soundFirst, soundRest⟩ := List.forall_mem_cons.mp sound
      obtain ⟨roles', agree, alike⟩ := imitates roles registers registers' heard abreast here
        fun live => bounded.elim
          (fun inactive => nomatch live.symm.trans (inactive first' List.mem_cons_self))
          (Visit.not_hitsLimit_of_starts · (.first registers' heard first' rest'))
      have soundJob : Job.Sound false { registers with task := first } :=
        ⟨abreast.sound, abreast.made, soundFirst⟩
      have grown := setting.grown_ends limit soundJob heard
      rw [ends_all_cons, ends_all_cons]
      refine goOn_alike abreast agree alike grown.sound grown.toKeeps ?_
      intro scopes scopes' heard' ended' keeps later
      refine ih later here (fun task member => (soundRest task member).mono keeps.size) ?_
      exact bounded.imp (fun inactive task member => inactive task (List.mem_cons_of_mem _ member))
        (Visit.not_hitsLimit_of_starts · (.rest registers' heard rest' ended'))

end Setting

end TestInventory
