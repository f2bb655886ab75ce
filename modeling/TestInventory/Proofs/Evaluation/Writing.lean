import TestInventory.Proofs.Evaluation.Correspondence
import TestInventory.Proofs.Evaluation.Order

/-!
# Writing to scopes

A name that is written in one scope is read there and from every scope from which the
way outwards to it is clear of the name; nothing else is read differently.  An
assignment writes the scope to which the name resolves, a declaration the current scope
or that of the function around it.
-/

namespace TestInventory

namespace Scopes

/-- Whether a scope is the nearest of a kind, from a scope outwards. -/
inductive Nearest (scopes : Scopes) (wanted : Scope → Bool) : Nat → Nat → Prop where
  | here {start : Nat} {scope : Scope} (found : scopes.arena[start]? = some scope)
      (isWanted : wanted scope = true) : Nearest scopes wanted start start
  | outer {start parent index : Nat} {scope : Scope} (found : scopes.arena[start]? = some scope)
      (unwanted : wanted scope = false) (enclosing : scope.parent = some parent)
      (nearest : Nearest scopes wanted parent index) : Nearest scopes wanted start index

/-- Whether a name resolves to a scope: the nearest one that binds it. -/
abbrev Resolves (scopes : Scopes) (name : String) : Nat → Nat → Prop :=
  scopes.Nearest (·.bindings.binds name)

/-- Whether a name resolves to no scope. -/
def Unbound (scopes : Scopes) (name : String) (start : Nat) : Prop :=
  ¬ ∃ index, scopes.Resolves name start index

/-- Whether no scope binds a name on the way from a scope outwards to another. -/
inductive ClearTo (scopes : Scopes) (name : String) : Nat → Nat → Prop where
  | here (index : Nat) : ClearTo scopes name index index
  | outer {start parent index : Nat} {scope : Scope} (found : scopes.arena[start]? = some scope)
      (free : scope.bindings.binds name = false) (enclosing : scope.parent = some parent)
      (clear : ClearTo scopes name parent index) : ClearTo scopes name start index

variable {scopes : Scopes} {start index : Nat} {name : String} {wanted : Scope → Bool}

/-! ## Resolving names -/

theorem Nearest.search_eq (rooted : scopes.Rooted) (nearest : scopes.Nearest wanted start index) :
    scopes.search wanted start = some index := by
  induction nearest with
  | here found isWanted => rw [rooted.search_eq found, if_pos isWanted]
  | outer found unwanted enclosing _ ih =>
      rw [rooted.search_eq found, unwanted, if_neg Bool.false_ne_true, enclosing]
      exact ih

/-- What a search outwards finds is the nearest scope of that kind. -/
theorem Rooted.nearest_of_search (rooted : scopes.Rooted) {start : Nat}
    (searched : scopes.search wanted start = some index) : scopes.Nearest wanted start index := by
  induction start using Nat.strongRecOn with
  | _ start ih =>
    cases found : scopes.arena[start]? with
    | none =>
        rw [search, chain, found] at searched
        cases searched
    | some scope =>
        rw [rooted.search_eq found] at searched
        cases kind : wanted scope with
        | true =>
            rw [if_pos kind] at searched
            cases searched
            exact .here found kind
        | false =>
            rw [kind, if_neg Bool.false_ne_true] at searched
            obtain ⟨parent, enclosing, searched⟩ := Option.bind_eq_some_iff.mp searched
            exact .outer found kind enclosing
              (ih parent (rooted.parent_lt found enclosing) searched)

theorem Nearest.unique (rooted : scopes.Rooted) {other : Nat}
    (nearest : scopes.Nearest wanted start index) (second : scopes.Nearest wanted start other) :
    index = other :=
  Option.some.inj ((nearest.search_eq rooted).symm.trans (second.search_eq rooted))

/-- There is a function scope around every scope. -/
theorem Rooted.nearest_functionScope (rooted : scopes.Rooted) (made : start < scopes.size) :
    scopes.Nearest Scope.ofFunction start (scopes.functionScope start) := by
  obtain ⟨last, ends, isFunction⟩ := rooted.getLast?_chain made
  have member := List.mem_of_getLast? ends
  cases searched : scopes.search Scope.ofFunction start with
  | some index =>
      rw [functionScope_eq, searched]
      exact rooted.nearest_of_search searched
  | none =>
      rw [search, Option.map_eq_none_iff, List.find?_eq_none] at searched
      exact absurd isFunction (searched _ member)

theorem Nearest.lt_size (nearest : scopes.Nearest wanted start index) : index < scopes.size := by
  induction nearest with
  | here found => exact lt_size_of_getElem? found
  | outer _ _ _ _ ih => exact ih

theorem Nearest.inside (nearest : scopes.Nearest wanted start index) :
    scopes.Inside start index := by
  induction nearest with
  | here => exact .self _
  | outer found _ enclosing _ ih => exact .parent found enclosing ih

/-- A name resolves to a scope that binds it if the way there is clear of it. -/
theorem resolves_iff :
    scopes.Resolves name start index ↔
      scopes.ClearTo name start index ∧ scopes.Binds index name := by
  constructor
  · intro resolves
    induction resolves with
    | here found binds => exact ⟨.here _, _, found, binds⟩
    | outer found free enclosing _ ih => exact ⟨.outer found free enclosing ih.1, ih.2⟩
  · rintro ⟨clear, scope, found, binds⟩
    induction clear with
    | here => exact .here found binds
    | outer present free enclosing _ ih => exact .outer present free enclosing (ih found)

/-- If a name resolves to no scope, then the way to the scope of the file is clear of it. -/
theorem Unbound.clearTo_file (rooted : scopes.Rooted) {start : Nat} (made : start < scopes.size)
    (unbound : scopes.Unbound name start) : scopes.ClearTo name start file := by
  induction start using Nat.strongRecOn with
  | _ start ih =>
    by_cases outermost : start = file
    · rw [outermost]
      exact .here file
    · obtain ⟨scope, found⟩ : ∃ scope, scopes.arena[start]? = some scope :=
        ⟨_, Array.getElem?_eq_getElem made⟩
      obtain ⟨parent, enclosing, smaller⟩ := rooted.parent start scope found outermost
      have free : scope.bindings.binds name = false :=
        Bool.eq_false_iff.mpr fun binds => unbound ⟨start, .here found binds⟩
      refine .outer found free enclosing (ih parent smaller (Nat.lt_trans smaller made) ?_)
      rintro ⟨index, resolves⟩
      exact unbound ⟨index, .outer found free enclosing resolves⟩

theorem unbound_of_clearTo_file (rooted : scopes.Rooted) (free : ¬ scopes.Binds file name)
    (clear : scopes.ClearTo name start file) : scopes.Unbound name start := by
  rintro ⟨index, resolves⟩
  induction resolves with
  | @here start _ found binds =>
      cases clear with
      | here => exact free ⟨_, found, binds⟩
      | outer present unbound =>
          cases found.symm.trans present
          exact absurd binds (Bool.eq_false_iff.mp unbound)
  | outer found _ enclosing _ ih =>
      cases clear with
      | here =>
          obtain ⟨_, present, outermost, -⟩ := rooted.file
          cases found.symm.trans present
          cases enclosing.symm.trans outermost
      | outer present _ enclosing' clear =>
          cases found.symm.trans present
          cases enclosing.symm.trans enclosing'
          exact ih clear

/-- A name is assigned where it resolves, or in the scope of the file if it does not. -/
theorem Rooted.owner_cases (rooted : scopes.Rooted) (start : Nat) (name : String) :
    scopes.Resolves name start (scopes.owner start name) ∨
      scopes.Unbound name start ∧ scopes.owner start name = Scopes.file := by
  rw [owner_eq]
  cases searched : scopes.search (·.bindings.binds name) start with
  | some index => exact .inl (rooted.nearest_of_search searched)
  | none =>
      refine .inr ⟨?_, rfl⟩
      rintro ⟨index, resolves⟩
      cases searched.symm.trans (resolves.search_eq rooted)

/-! ## Reading what was written -/

/-- Whether two arenas differ in nothing but that one scope now binds a name. -/
structure Writes (before after : Scopes) (written : Nat) (name : String) (binding : Binding) :
    Prop where
  bound : ∃ scope, after.arena[written]? = some scope ∧ scope.bindings.find? name = some binding
  kept : ∀ index, index ≠ written → after.arena[index]? = before.arena[index]?
  /-- Other names are read as before, from every scope. -/
  others : ∀ other, other ≠ name → ∀ start, after.lookup start other = before.lookup start other

theorem writes_bindIn (made : index < scopes.size) (name : String) (binding : Binding) :
    scopes.Writes (scopes.bindIn index name binding) index name binding where
  bound := by
    rw [getElem?_bindIn, if_pos rfl, Array.getElem?_eq_getElem made]
    exact ⟨_, rfl, by rw [Bindings.find?_bind, if_pos rfl]⟩
  kept other apart := by rw [getElem?_bindIn, if_neg apart.symm]
  others other different := lookup_bindIn_of_ne scopes index different.symm binding

/-- What was written is read from where the way to it is clear. -/
theorem ClearTo.lookup_bindIn (rooted : scopes.Rooted) (clear : scopes.ClearTo name start index)
    (made : index < scopes.size) (binding : Binding) :
    (scopes.bindIn index name binding).lookup start name = some binding := by
  have rooted' := rooted.bindIn index name binding
  have here : (scopes.bindIn index name binding).lookup index name = some binding := by
    obtain ⟨scope, found, bound⟩ := (writes_bindIn made name binding).bound
    rw [rooted'.lookup_eq found, bound, Option.some_or]
  induction clear with
  | here => exact here
  | @outer start parent index scope found free enclosing clear ih =>
      by_cases written : index = start
      · exact written ▸ here
      · have found' : (scopes.bindIn index name binding).arena[start]? = some scope := by
          rw [getElem?_bindIn, if_neg written, found]
        have unbound : scope.bindings.find? name = none := by
          simpa [Bindings.binds] using free
        rw [rooted'.lookup_eq found', unbound, Option.none_or, enclosing]
        exact ih made rooted' here

/-- What was written is not read from where the way to it is not clear. -/
theorem lookup_bindIn_of_not_clear (rooted : scopes.Rooted) {start : Nat}
    (hidden : ¬ scopes.ClearTo name start index) (binding : Binding) :
    (scopes.bindIn index name binding).lookup start name = scopes.lookup start name := by
  have rooted' := rooted.bindIn index name binding
  induction start using Nat.strongRecOn with
  | _ start ih =>
    have apart : ¬ index = start := by
      rintro rfl
      exact hidden (.here index)
    have same : (scopes.bindIn index name binding).arena[start]? = scopes.arena[start]? := by
      rw [getElem?_bindIn, if_neg apart]
    cases found : scopes.arena[start]? with
    | none => rw [lookup, lookup, chain, chain, same, found]
    | some scope =>
        rw [rooted'.lookup_eq (same.trans found), rooted.lookup_eq found]
        cases bound : scope.bindings.find? name with
        | some => rfl
        | none =>
            cases enclosing : scope.parent with
            | none => rfl
            | some parent =>
                have free : scope.bindings.binds name = false := by
                  rw [Bindings.binds, bound, Option.isSome_none]
                exact ih parent (rooted.parent_lt found enclosing)
                  fun clear => hidden (.outer found free enclosing clear)

/-- Whether an arena is left by an assignment to a name, made in a scope. -/
structure Assigns (before after : Scopes) (current : Nat) (name : String) (binding : Binding)
    (written : Nat) : Prop extends before.Writes after written name binding where
  /-- Written is the scope to which the name resolves, or that of the file. -/
  target : before.Resolves name current written ∨
    before.Unbound name current ∧ written = Scopes.file
  read : after.lookup current name = some binding
  /-- From these scopes the name is read differently. -/
  changed : ∀ start, start < before.size → before.Resolves name start written ∨
      before.Unbound name start ∧ before.Unbound name current →
    after.lookup start name = some binding
  /-- From all others it is read as before. -/
  unchanged : ∀ start, ¬ (before.Resolves name start written ∨
      before.Unbound name start ∧ before.Unbound name current) →
    after.lookup start name = before.lookup start name

/-- Whether an arena is left by a declaration of a name, made in a scope. -/
structure Declares (before after : Scopes) (current : Nat) (hoisted : Bool) (name : String)
    (binding : Binding) (function : Nat) : Prop
    extends before.Writes after (if hoisted then function else current) name binding where
  /-- The nearest function scope. -/
  nearest : before.Nearest Scope.ofFunction current function
  read : after.lookup (if hoisted then function else current) name = some binding
  /-- No scope outside of the function scope is written. -/
  outside : ∀ index, ¬ before.Inside index function →
    after.arena[index]? = before.arena[index]?

/-- The scope to which a name is assigned is one of the arena. -/
theorem Rooted.owner_lt_size (rooted : scopes.Rooted) (start : Nat) (name : String) :
    scopes.owner start name < scopes.size := by
  rcases rooted.owner_cases start name with resolves | ⟨-, atFile⟩
  · exact resolves.lt_size
  · obtain ⟨scope, found, -⟩ := rooted.file
    rw [atFile]
    exact lt_size_of_getElem? found

/-- The way to the scope that an assignment writes is clear from just these scopes. -/
theorem Rooted.of_clearTo_owner (rooted : scopes.Rooted) {current : Nat}
    (made : current < scopes.size)
    (clear : scopes.ClearTo name start (scopes.owner current name)) :
    scopes.Resolves name start (scopes.owner current name) ∨
      scopes.Unbound name start ∧ scopes.Unbound name current := by
  rcases rooted.owner_cases current name with resolves | ⟨unbound, atFile⟩
  · exact .inl (resolves_iff.mpr ⟨clear, (resolves_iff.mp resolves).2⟩)
  · have free : ¬ scopes.Binds Scopes.file name := fun binds =>
      unbound ⟨_, resolves_iff.mpr ⟨unbound.clearTo_file rooted made, binds⟩⟩
    rw [atFile] at clear
    exact .inr ⟨unbound_of_clearTo_file rooted free clear, unbound⟩

theorem Rooted.clearTo_owner (rooted : scopes.Rooted) {current : Nat} (within : start < scopes.size)
    (target : scopes.Resolves name start (scopes.owner current name) ∨
      scopes.Unbound name start ∧ scopes.Unbound name current) :
    scopes.ClearTo name start (scopes.owner current name) := by
  rcases target with resolves | ⟨unbound, nowhere⟩
  · exact (resolves_iff.mp resolves).1
  · rcases rooted.owner_cases current name with resolves | ⟨-, atFile⟩
    · exact absurd ⟨_, resolves⟩ nowhere
    · rw [atFile]
      exact unbound.clearTo_file rooted within

/-- After an assignment the name is read differently from just the scopes where it should. -/
theorem Rooted.assigns (rooted : scopes.Rooted) {current : Nat} (made : current < scopes.size)
    (name : String) (binding : Binding) :
    scopes.Assigns (scopes.assign current name binding) current name binding
      (scopes.owner current name) := by
  have target := rooted.owner_cases current name
  have small := rooted.owner_lt_size current name
  refine { writes_bindIn small name binding with target, read := ?_, changed := ?_, unchanged := ?_ }
  · have here : scopes.Resolves name current _ ∨ scopes.Unbound name current ∧ _ :=
      target.imp_right fun unbound => ⟨unbound.1, unbound.1⟩
    exact (rooted.clearTo_owner made here).lookup_bindIn rooted small binding
  · intro start within seen
    exact (rooted.clearTo_owner within seen).lookup_bindIn rooted small binding
  · intro start unseen
    exact lookup_bindIn_of_not_clear rooted
      (fun clear => unseen (rooted.of_clearTo_owner made clear)) binding

/-- A declaration writes the scope of the function around, or the current one inside it. -/
theorem Rooted.declares (rooted : scopes.Rooted) {current : Nat} (made : current < scopes.size)
    (hoisted : Bool) (name : String) (binding : Binding) :
    scopes.Declares (scopes.declare current hoisted name binding) current hoisted name binding
      (scopes.functionScope current) := by
  have nearest := rooted.nearest_functionScope made
  have small : (if hoisted then scopes.functionScope current else current) < scopes.size := by
    cases hoisted with
    | true => exact nearest.lt_size
    | false => exact made
  refine { writes_bindIn small name binding with nearest, read := ?_, outside := ?_ }
  · exact (ClearTo.here _).lookup_bindIn rooted small binding
  · intro index apart
    refine (writes_bindIn small name binding).kept index ?_
    rintro rfl
    refine apart ?_
    cases hoisted with
    | true => exact .self _
    | false => exact nearest.inside

end Scopes

/-! ## Reachable arenas -/

/--
What registers may become without anything being taken up: scopes are opened inside
others, names are bound, and a scope that was made before is current again.
-/
inductive Registers.Becomes (registers : Registers) : Registers → Prop where
  | same : Becomes registers registers
  | enter {later : Registers} (becomes : Becomes registers later) {parent : Nat}
      (made : parent < later.scopes.size) (ofFunction : Bool) :
    Becomes registers (later.enter parent ofFunction)
  | bind {later : Registers} (becomes : Becomes registers later) (index : Nat) (name : String)
      (binding : Binding) :
    Becomes registers { later with scopes := later.scopes.bindIn index name binding }
  | restore {later : Registers} (becomes : Becomes registers later) {scope : Nat}
      (made : scope < later.scopes.size) : Becomes registers { later with current := scope }

theorem Registers.Becomes.rooted {registers later : Registers}
    (becomes : registers.Becomes later) (rooted : registers.scopes.Rooted)
    (made : registers.current < registers.scopes.size) :
    later.scopes.Rooted ∧ later.current < later.scopes.size := by
  induction becomes with
  | same => exact ⟨rooted, made⟩
  | @enter later _ parent made ofFunction ih =>
      refine ⟨ih.1.add made ofFunction, ?_⟩
      rw [Registers.enter, Scopes.size_add]
      exact Nat.lt_succ_self later.scopes.size
  | bind _ index name binding ih =>
      refine ⟨ih.1.bindIn index name binding, ?_⟩
      rw [Scopes.size_bindIn]
      exact ih.2
  | restore _ made ih => exact ⟨ih.1, made⟩

variable {σ : Type}

/--
Wherever a run stands, and whatever scopes it goes on to open and names it goes on to
bind, an assignment and a declaration write one scope.  What they write is read back
where they are made, or in the function around; the name is read differently only from
scopes where it resolved to the scope that is written, or resolved nowhere and is now
bound in the scope of the file; and no other name is read differently from anywhere.
-/
theorem Machine.reads_back (setting : Setting σ) (limit : Nat) (program : Program) (heard : σ) :
    let ended := setting.evaluate limit program heard
    ∃ final : State σ,
      HaltsWith setting limit (.body program.statements) ⟨⟨.initial, heard⟩, []⟩
          (ended.1, final) ∧
        final.heard = ended.2 ∧
        ∀ visit ∈ final.trail, ∀ registers, visit.toRegisters.Becomes registers →
          ∀ name binding,
            (∃ written, registers.scopes.Assigns
              (registers.scopes.assign registers.current name binding) registers.current name
              binding written) ∧
            ∀ hoisted, ∃ function, registers.scopes.Declares
              (registers.scopes.declare registers.current hoisted name binding)
              registers.current hoisted name binding function := by
  intro ended
  obtain ⟨visits, runs⟩ := Visit.exists_runs setting limit (program.visit heard)
  refine ⟨_, runs.haltsWith [], rfl, fun visit member registers becomes name binding => ?_⟩
  have reaches := (runs.mem_iff visit).mp (by simpa using member)
  have lax : Tame false program.rebinds := nofun
  have start : (program.visit heard).job.Sound false := Program.sound_job lax
  have sound : visit.job.Sound false := Visit.sound_of_reaches start reaches
  obtain ⟨rooted, made⟩ := becomes.rooted sound.scopes.toRooted sound.current
  exact ⟨⟨_, rooted.assigns made name binding⟩,
    fun hoisted => ⟨_, rooted.declares made hoisted name binding⟩⟩

end TestInventory
