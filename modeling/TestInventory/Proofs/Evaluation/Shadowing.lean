import TestInventory.Proofs.Evaluation.Lookup
import TestInventory.Proofs.Evaluation.Order

/-!
# Shadowing

A function or block that declares a name shadows what the name means around it: once
a plain parameter, loop variable or variable of the block has been declared, the name
is found in that scope or further inside.  What it is bound to further out has no
influence on anything that is read there, be it a name, a list, a callback or a
callee.  A pattern, however, declares nothing.
-/

namespace TestInventory

open TestInventory.Source (Span)

/-! ## Names that are bound -/

namespace Scopes

variable {scopes : Scopes} {index : Nat} {name : String}

/-- A scope that is made now is one of the scopes. -/
theorem size_lt_size_add (scopes : Scopes) (parent : Nat) (ofFunction : Bool) :
    scopes.size < (scopes.add parent ofFunction).size := by
  rw [size_add]
  exact Nat.lt_succ_self _

theorem binds_bindIn (made : index < scopes.size) (name : String) (binding : Binding) :
    (scopes.bindIn index name binding).Binds index name := by
  refine ⟨{ scopes.arena[index] with
    bindings := scopes.arena[index].bindings.bind name binding }, ?_, ?_⟩
  · rw [getElem?_bindIn, if_pos rfl, Array.getElem?_eq_getElem made]
    rfl
  · rw [Bindings.binds, Bindings.find?_bind, if_pos rfl]
    rfl

theorem Binds.bindIn (bound : scopes.Binds index name) (other : Nat) (word : String)
    (binding : Binding) : (scopes.bindIn other word binding).Binds index name := by
  obtain ⟨scope, found, binds⟩ := bound
  rw [Binds, getElem?_bindIn, found]
  by_cases same : other = index
  · exact ⟨_, if_pos same, Bindings.binds_bind binds word binding⟩
  · exact ⟨scope, if_neg same, binds⟩

theorem Binds.declareAll (bound : scopes.Binds index name) (scope : Nat) (item : Binding)
    (names : List String) : (scopes.declareAll scope false item names).Binds index name := by
  induction names generalizing scopes with
  | nil => exact bound
  | cons word rest ih => exact ih (bound.bindIn scope word item)

theorem Binds.bindParameters (bound : scopes.Binds index name) (scope : Nat)
    (targets : List Target) (arguments : List Binding) :
    (scopes.bindParameters scope targets arguments).Binds index name := by
  induction targets generalizing scopes arguments with
  | nil => exact bound
  | cons target rest ih =>
      cases target with
      | name word => exact ih (bound.bindIn scope word _) arguments.tail
      | other => exact ih bound arguments.tail

/-- All names that a block declares are bound in its scope. -/
theorem binds_declareAll {names : List String} (made : index < scopes.size) (item : Binding)
    (member : name ∈ names) : (scopes.declareAll index false item names).Binds index name := by
  induction names generalizing scopes with
  | nil => cases member
  | cons word rest ih =>
      rcases List.mem_cons.mp member with rfl | later
      · exact (binds_bindIn made name item).declareAll index item rest
      · refine ih ?_ later
        show index < (scopes.bindIn index word item).size
        rwa [size_bindIn]

/-- All plain parameters are bound in the scope of the activation. -/
theorem binds_bindParameters {targets : List Target} (made : index < scopes.size)
    (arguments : List Binding) (member : .name name ∈ targets) :
    (scopes.bindParameters index targets arguments).Binds index name := by
  induction targets generalizing scopes arguments with
  | nil => cases member
  | cons target rest ih =>
      rcases List.mem_cons.mp member with rfl | later
      · exact (binds_bindIn made name _).bindParameters index rest arguments.tail
      · cases target with
        | name word =>
            refine ih ?_ arguments.tail later
            rwa [size_bindIn]
        | other => exact ih made arguments.tail later

end Scopes

/-! ## Visits that declare -/

namespace Visit

variable {σ : Type} {setting : Setting σ} {limit : Nat}

/--
Whether a visit declares a name that stands by itself, and what is taken up then: the
body of a function with such a parameter, the body of a loop with such a variable, or
what follows such a variable in a block.
-/
inductive Declares (setting : Setting σ) (limit : Nat) (name : String) :
    Visit σ → Visit σ → Prop where
  | parameter {visit next : Visit σ} {closure : Closure} {arguments : List Binding} {span : Span}
      (activates : visit.task = .activation closure arguments span)
      (plain : .name name ∈ closure.callback.parameters)
      (starts : Starts setting limit visit next) : Declares setting limit name visit next
  | loop {visit next : Visit σ} {declarators : List Declarator} {item : Binding} {body : Statement}
      {value : Option Expression}
      (passes : visit.task = .pass (.declaration false declarators) item body)
      (plain : .mk (.name name) value ∈ declarators)
      (starts : Starts setting limit visit next) : Declares setting limit name visit next
  | block (registers : Registers) (heard : σ) {value : Option Expression} (rest : List Task)
      {after : Progress σ}
      (ended : setting.ends limit
        { registers with task := .declarator false (.mk (.name name) value) } heard =
          (.ok (), after)) :
      Declares setting limit name
        ⟨⟨registers, heard⟩, .all (.declarator false (.mk (.name name) value) :: rest)⟩
        ⟨⟨{ registers with scopes := after.scopes }, after.heard⟩, .all rest⟩

theorem Declares.starts {name : String} {visit next : Visit σ}
    (declares : visit.Declares setting limit name next) : Starts setting limit visit next := by
  cases declares with
  | parameter _ _ starts => exact starts
  | loop _ _ starts => exact starts
  | block registers heard rest ended => exact .rest registers heard rest ended

/-- A variable that stands by itself is bound in its block, whether it has a first value or not. -/
theorem binds_of_declarator {registers : Registers} {name : String} {value : Option Expression}
    (sound : Job.Sound false { registers with task := .declarator false (.mk (.name name) value) })
    {heard : σ} {after : Progress σ}
    (ended : setting.ends limit
      { registers with task := .declarator false (.mk (.name name) value) } heard =
        (.ok (), after)) : after.scopes.Binds registers.current name := by
  cases value with
  | none =>
      cases ended
      exact Scopes.binds_bindIn sound.current name .unknown
  | some value =>
      have leads : setting.inner? limit
        { registers with task := .declarator false (.mk (.name name) (some value)) } =
          some { registers with task := .expression value } := rfl
      obtain ⟨soundInner, grown, -⟩ := Setting.grows_of_inner? sound leads
      have larger := (grown.toKeeps.trans
        (setting.grown_ends limit soundInner heard).toKeeps).size
      rw [setting.ends_of_inner? limit leads] at ended
      rcases inside : setting.ends limit { registers with task := .expression value } heard
        with ⟨_ | _, between⟩
      · rw [inside] at ended
        cases ended
      · rw [inside] at ended larger
        rw [Evaluating.goOn_ok, setting.finish_apply] at ended
        cases ended
        exact Scopes.binds_bindIn (Nat.lt_of_lt_of_le sound.current larger) name _

/-- What a visit declares is bound in the scope that is current then. -/
theorem Declares.binds {name : String} {visit next : Visit σ} (sound : visit.job.Sound false)
    (declares : visit.Declares setting limit name next) :
    next.scopes.Binds next.current name := by
  cases declares with
  | @parameter _ _ closure arguments span activates plain starts =>
      obtain ⟨⟨registers, heard⟩, task⟩ := visit
      cases activates
      cases starts with
      | @inner _ inner leads =>
          have leads : setting.inner? limit
            { registers with task := .activation closure arguments span } = some inner := leads
          simp only [Setting.inner?] at leads
          split at leads
          case isTrue =>
            cases leads
            exact Scopes.binds_bindParameters (Scopes.size_lt_size_add _ _ _) arguments plain
          case isFalse => cases leads
  | @loop _ _ declarators item body value passes plain starts =>
      obtain ⟨⟨registers, heard⟩, task⟩ := visit
      cases passes
      cases starts with
      | inner leads =>
          cases leads
          have named : name ∈ declarators.filterMap Declarator.name? :=
            List.mem_filterMap.mpr ⟨_, plain, rfl⟩
          exact Scopes.binds_declareAll (Scopes.size_lt_size_add _ _ _) item named
  | block registers heard rest ended =>
      cases sound.task with
      | all each =>
        exact binds_of_declarator
          ⟨sound.scopes, sound.current, each _ List.mem_cons_self⟩ ended

end Visit

/-! ## Names that are read -/

namespace Setting

variable {σ : Type}

/-- Whether what is read off a name is just what a binding holds. -/
structure Reads (setting : Setting σ) (scopes : Scopes) (scope : Nat) (name : String)
    (binding : Binding) : Prop where
  value : ∀ span, (Expression.identifier span name).value? scopes scope = binding.value?
  closure : ∀ span, (Expression.identifier span name).closure? scopes scope = binding.closure?
  /-- A list that is iterated, and what another name is given. -/
  holds : ∀ span, (Expression.identifier span name).binding scopes scope = binding
  /-- A callee that is no word of the interface. -/
  callee : ∀ span arguments, setting.interface.classify name none = none →
    setting.treatment scopes scope (.identifier span name) arguments =
      (binding.closure?.map Treatment.activated).getD (.skipped (some name))
  /-- The name of a declaration, with a notice if it is not known. -/
  naming : ∀ span rest, setting.naming scopes scope (.plain (.identifier span name) :: rest) =
    match binding.value? with
    | some value => (value.toText, [])
    | none => (setting.file.excerpt span, [.unknownName setting.file.path (setting.file.line span)
        (setting.file.excerpt span)])

/-- What is read off a name is what the name is bound to. -/
theorem reads_of_lookup (setting : Setting σ) {scopes : Scopes} {scope : Nat} {name : String}
    {binding : Binding} (found : scopes.lookup scope name = some binding) :
    setting.Reads scopes scope name binding where
  value span := by rw [Expression.value?, found, Option.bind_some]
  closure span := by rw [Expression.closure?, found, Option.bind_some]
  holds span := by rw [Expression.binding, found, Option.getD_some]
  callee span arguments other := by
    rw [treatment, namedTreatment, other, found]
    simp only [Option.isNone_none, if_true, Option.bind_some]
    cases binding.closure? <;> rfl
  naming span rest := by
    cases known : binding.value? <;>
      simp only [Setting.naming, List.head?_cons, Option.bind_some, Element.plain?,
        Expression.value?, found, known, Expression.span]

/--
Once a function or block has declared a name that stands by itself, whatever reads the
name inside reads a binding of that scope or of one further inside.  A binding that is
no value makes an unknown name: the declaration is named by its text, with a notice.
And nothing that is read there changes with what the name is bound to further out.
-/
theorem shadows (setting : Setting σ) (limit : Nat) (program : Program) (heard : σ)
    {name : String} {declaring next reading : Visit σ}
    (reaches : (program.visit heard).Reaches setting limit declaring)
    (declares : declaring.Declares setting limit name next)
    (later : Visit.Precedes setting limit (program.visit heard) next reading)
    (inside : reading.scopes.Inside reading.current next.current) :
    (∃ index holder binding, reading.scopes.Inside reading.current index ∧
        reading.scopes.Inside index next.current ∧
        reading.scopes.arena[index]? = some holder ∧
        holder.bindings.find? name = some binding ∧
        setting.Reads reading.scopes reading.current name binding) ∧
      ∀ outside, ¬ reading.scopes.Inside outside next.current → ∀ binding,
        setting.ReadsAlike reading.current reading.scopes
          (reading.scopes.bindIn outside name binding) := by
  have lax : Tame false program.rebinds := nofun
  have sound : (program.visit heard).job.Sound false := Program.sound_job lax
  have bound := declares.binds (Visit.sound_of_reaches sound reaches)
  obtain ⟨scope, found, binds⟩ := (later.keeps sound).binds bound
  have rooted : reading.scopes.Rooted := (Visit.sound_of_reaches sound later.reaches).scopes.toRooted
  obtain ⟨index, holder, binding, between, within, held, holds, seen⟩ :=
    inside.exists_binding rooted found binds
  refine ⟨⟨index, holder, binding, between, within, held, holds, setting.reads_of_lookup seen⟩, ?_⟩
  intro outside apart other
  exact setting.readsAlike_of_sameNames (inside.sameNames rooted found binds apart other)

/-- A file with a suite whose body has a parameter with the name of a variable of the file. -/
def shadowedFile : Setting (List Signal) := ofText "let x = 'a';\ndescribe('s', (x) => it(x));"

/-- The body of that suite. -/
def shadowedBody : Callback :=
  .arrow [.name "x"] (.call ⟨34, 39⟩ (.identifier default "it")
    [.plain (.identifier ⟨37, 38⟩ "x")])

/-- The program in that file. -/
def shadowedProgram : Program where
  statements :=
    [.declaration default false [.mk (.name "x") (some (.literal default (.text "a")))],
      .expression default (.call ⟨13, 40⟩ (.identifier default "describe")
        [.plain (.literal default (.text "s")), .plain (.function default shadowedBody)])]

/-- Where the machine stands when it runs the body of the suite. -/
def shadowedStation : Station (List Signal) where
  scopes := Scopes.initial.bindIn Scopes.file "x" (.value (.text "a"))
  current := Scopes.file
  depth := 0
  suites := [shadowedFile.file.frame ⟨13, 40⟩]
  heard := [.suite { name := "s", site := .frames [shadowedFile.file.frame ⟨13, 40⟩] }]

/-- In the body the parameter is read, whatever the variable of the file holds. -/
theorem shadows_shadowedProgram :
    let start := shadowedProgram.visit []
    let body : Job := { shadowedStation.toRegisters with
      task := .activation ⟨shadowedBody, Scopes.file⟩ [] ⟨13, 40⟩ }
    let inside := (shadowedStation.scopes.add Scopes.file true).bindIn 1 "x" .unknown
    start.Reaches shadowedFile activationLimit (body.visit shadowedStation.heard) ∧
      (inside.arena[Scopes.file]?.bind (·.bindings.find? "x")) = some (.value (.text "a")) ∧
      ∀ other, shadowedFile.naming (inside.bindIn Scopes.file "x" other) 1
        [.plain (.identifier ⟨37, 38⟩ "x")] = ("x", [.unknownName "/case.js" 2 "x"]) := by
  intro start body inside
  let first : Statement :=
    .declaration default false [.mk (.name "x") (some (.literal default (.text "a")))]
  have ended : shadowedFile.ends activationLimit
    { Registers.initial with task := .statement first } [] =
      (.ok (), ⟨shadowedStation.scopes, []⟩) := rfl
  let call : Visit (List Signal) :=
    ⟨⟨{ Registers.initial with scopes := shadowedStation.scopes }, []⟩,
      .expression (.call ⟨13, 40⟩ (.identifier default "describe")
        [.plain (.literal default (.text "s")), .plain (.function default shadowedBody)])⟩
  have reachesCall : start.Reaches shadowedFile activationLimit call := by
    have atStart : start.Reaches shadowedFile activationLimit start := .refl
    have atSuite := (atStart.tail (.inner rfl)).tail (.rest _ _ _ ended)
    have atCall := (atSuite.tail (.first _ _ _ _)).tail (.inner rfl)
    exact atCall
  have enters : call.Starts shadowedFile activationLimit (body.visit shadowedStation.heard) :=
    .body _ _ rfl rfl rfl
  have reaches := reachesCall.tail enters
  let next : Job :=
    { shadowedStation with scopes := inside, current := 1, depth := 1, task := shadowedBody.task }
  have leads : shadowedFile.inner? activationLimit body = some next := rfl
  have declares : (body.visit shadowedStation.heard).Declares shadowedFile activationLimit "x"
    (next.visit shadowedStation.heard) := .parameter rfl (.head _) (.inner leads)
  obtain ⟨-, same⟩ := shadowedFile.shadows activationLimit shadowedProgram [] reaches declares
    (.leads (reaches.tail declares.starts) .refl) (.self 1)
  refine ⟨reaches, rfl, fun other => ?_⟩
  have outside : ¬ inside.Inside Scopes.file 1 := by
    intro within
    cases within with
    | parent found enclosing _ =>
        cases found
        cases enclosing
  refine ((same Scopes.file outside other).naming _).symm.trans ?_
  decide +kernel

/--
Whether a test with a shadowed name is named by what the name means further out, and
nothing is said of it.
-/
def leaks (text : String) : Bool :=
  let setting := ofText ("let x = 'a';\n" ++ text)
  (Program.parse? false setting.file.text).any fun program =>
    let signals := setting.signals activationLimit program
    signals.any (fun signal => match signal with
      | .test call => call.name = "a"
      | _ => false) &&
    signals.all fun signal => match signal with
      | .notice (.unknownName ..) => false
      | _ => true

/--
A name within a pattern is not declared: a parameter that is taken apart, has a default
or takes all the rest, a variable that is taken apart, and one of a loop.
-/
theorem patterns_leak :
    ["const f = (\x7b x \x7d) => it(x); f(\x7b x: 'c' \x7d);",
      "const f = (x = 'c') => it(x); f();", "const f = (...x) => it(x); f('c');",
      "\x7b const \x7b x \x7d = y; it(x); \x7d", "\x7b const [x] = ['c']; it(x); \x7d",
      "for (const \x7b x \x7d of [1]) it(x);"].all leaks = true := by
  decide +kernel

end Setting

end TestInventory
