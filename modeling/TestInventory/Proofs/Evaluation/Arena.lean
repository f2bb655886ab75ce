import TestInventory.Evaluation.Known
import TestInventory.Proofs.Evaluation.Rebinding

/-!
# The arena of scopes

All scopes of a file stay in one arena.  In a sound arena every scope but that of
the file has a parent made before it, and every closure was created in a scope of
the arena.  An arena only grows: scopes keep their parents, their kind and the names
bound in them.
-/

namespace TestInventory

/-- Whether all closures in a binding have a property. -/
inductive Binding.Holds (property : Closure → Prop) : Binding → Prop where
  | value (content : Value) : Holds property (.value content)
  | list (items : List Binding) (all : ∀ item ∈ items, Holds property item) :
    Holds property (.list items)
  | callback (closure : Closure) (has : property closure) : Holds property (.callback closure)
  | unknown : Holds property .unknown

/--
Whether a closure was created in one of so many scopes.  If it is strict, the code
of the closure must not rebind names.
-/
structure Closure.Sound (strict : Bool) (size : Nat) (closure : Closure) : Prop where
  scope : closure.scope < size
  tame : Tame strict closure.callback.rebinds

theorem Binding.Holds.mono {first second : Closure → Prop} {binding : Binding}
    (holds : binding.Holds first) (weaker : ∀ closure, first closure → second closure) :
    binding.Holds second := by
  induction holds with
  | value content => exact .value content
  | list items _ ih => exact .list items ih
  | callback closure has => exact .callback closure (weaker closure has)
  | unknown => exact .unknown

theorem Binding.Holds.of_items? {property : Closure → Prop} {binding : Binding}
    (holds : binding.Holds property) {items : List Binding} (known : binding.items? = some items) :
    ∀ item ∈ items, item.Holds property := by
  cases holds with
  | list items all =>
      cases known
      exact all
  | _ => cases known

theorem Closure.Sound.mono {strict : Bool} {size size' : Nat} {closure : Closure}
    (sound : closure.Sound strict size) (larger : size ≤ size') : closure.Sound strict size' :=
  ⟨Nat.lt_of_lt_of_le sound.scope larger, sound.tame⟩

namespace Bindings

theorem find?_cons (entry : String × Binding) (rest : Bindings) (name : String) :
    find? (entry :: rest) name = if entry.1 = name then some entry.2 else find? rest name := by
  by_cases same : entry.1 = name
  · simp [find?, same]
  · simp [find?, same]

theorem find?_bind (bindings : Bindings) (name other : String) (binding : Binding) :
    (bindings.bind name binding).find? other =
      if name = other then some binding else bindings.find? other := by
  induction bindings with
  | nil => exact find?_cons (name, binding) [] other
  | cons entry rest ih =>
      by_cases here : entry.1 = name
      · rw [bind, if_pos here, find?_cons, find?_cons, here]
        split <;> rfl
      · rw [bind, if_neg here, find?_cons, find?_cons, ih]
        by_cases same : entry.1 = other
        · rw [if_pos same, if_pos same, if_neg (fun hit => here (same.trans hit.symm))]
        · rw [if_neg same, if_neg same]

/-- Binding a name unbinds none. -/
theorem binds_bind {bindings : Bindings} {other : String} (bound : bindings.binds other)
    (name : String) (binding : Binding) : (bindings.bind name binding).binds other := by
  rw [binds, find?_bind]
  split
  · rfl
  · exact bound

end Bindings

namespace Scopes

/-- Whether the scopes are a tree whose root is the scope of the file. -/
structure Rooted (scopes : Scopes) : Prop where
  file : ∃ scope : Scope, scopes.arena[Scopes.file]? = some scope ∧ scope.parent = none ∧
    scope.ofFunction = true
  parent : ∀ (index : Nat) (scope : Scope), scopes.arena[index]? = some scope →
    index ≠ Scopes.file → ∃ parent, scope.parent = some parent ∧ parent < index

/-- Whether an arena is sound. -/
structure Sound (strict : Bool) (scopes : Scopes) : Prop extends Rooted scopes where
  closures : ∀ (index : Nat) (scope : Scope) (name : String) (binding : Binding),
    scopes.arena[index]? = some scope → scope.bindings.find? name = some binding →
    binding.Holds (Closure.Sound strict scopes.size)

/-- Whether an arena has at most gained scopes and bindings. -/
structure Keeps (before after : Scopes) : Prop where
  size : before.size ≤ after.size
  kept : ∀ (index : Nat) (old : Scope), before.arena[index]? = some old →
    ∃ new : Scope, after.arena[index]? = some new ∧ new.parent = old.parent ∧
      new.ofFunction = old.ofFunction ∧
      ∀ name, old.bindings.binds name → new.bindings.binds name

/--
Whether an arena has grown into another one that is sound.  If it is strict, then of
the old scopes only one may have been touched.
-/
structure Grown (strict : Bool) (touched : Nat) (before after : Scopes) : Prop
    extends Keeps before after where
  sound : after.Sound strict
  same : strict = true → ∀ index, index < before.size → index ≠ touched →
    after.arena[index]? = before.arena[index]?

variable {strict : Bool} {touched : Nat} {scopes before between after : Scopes}

theorem getElem?_bindIn (scopes : Scopes) (index other : Nat) (name : String) (binding : Binding) :
    (scopes.bindIn index name binding).arena[other]? =
      if index = other then
        scopes.arena[other]?.map fun scope =>
          { scope with bindings := scope.bindings.bind name binding }
      else scopes.arena[other]? :=
  Array.getElem?_modify

@[simp]
theorem size_bindIn (scopes : Scopes) (index : Nat) (name : String) (binding : Binding) :
    (scopes.bindIn index name binding).size = scopes.size :=
  Array.size_modify

theorem getElem?_add (scopes : Scopes) (parent index : Nat) (ofFunction : Bool) :
    (scopes.add parent ofFunction).arena[index]? =
      if index = scopes.size then some { parent := some parent, ofFunction }
      else scopes.arena[index]? :=
  Array.getElem?_push

@[simp]
theorem size_add (scopes : Scopes) (parent : Nat) (ofFunction : Bool) :
    (scopes.add parent ofFunction).size = scopes.size + 1 :=
  Array.size_push ..

/-- An index that is not that of a scope made by now holds no scope. -/
theorem lt_size_of_getElem? {index : Nat} {scope : Scope}
    (found : scopes.arena[index]? = some scope) : index < scopes.size :=
  (Array.getElem?_eq_some_iff.mp found).1

theorem sound_initial (strict : Bool) : Sound strict initial := by
  have single : ∀ (index : Nat) (scope : Scope), initial.arena[index]? = some scope →
      index = Scopes.file ∧ scope = { ofFunction := true } := by
    intro index scope found
    cases index with
    | zero =>
        cases found
        exact ⟨rfl, rfl⟩
    | succ index =>
        have small : index + 1 < 1 := lt_size_of_getElem? found
        omega
  refine ⟨⟨⟨_, rfl, rfl, rfl⟩, ?_⟩, ?_⟩
  · intro index scope found other
    exact absurd (single index scope found).1 other
  · intro index scope name binding found bound
    obtain ⟨-, rfl⟩ := single index scope found
    cases bound

/-! ## What is seen from a scope -/

theorem getElem?_of_mem_chain {start : Nat} {entry : Nat × Scope}
    (member : entry ∈ scopes.chain start) : scopes.arena[entry.1]? = some entry.2 := by
  fun_induction chain scopes start with
  | case1 => cases member
  | case2 start scope found ih =>
      rcases List.mem_cons.mp member with rfl | outside
      · exact found
      · cases enclosing : scope.parent with
        | none =>
            rw [enclosing] at outside
            cases outside
        | some parent =>
            rw [enclosing] at outside
            by_cases smaller : parent < start
            · exact ih parent smaller (by simpa [smaller] using outside)
            · simp [smaller] at outside

theorem Sound.lookup (sound : scopes.Sound strict) {start : Nat} {name : String}
    {binding : Binding} (found : scopes.lookup start name = some binding) :
    binding.Holds (Closure.Sound strict scopes.size) := by
  obtain ⟨entry, member, bound⟩ := List.exists_of_findSome?_eq_some found
  exact sound.closures entry.1 entry.2 name binding (getElem?_of_mem_chain member) bound

theorem Sound.closure_of_lookup (sound : scopes.Sound strict) {start : Nat} {name : String}
    {closure : Closure}
    (known : (scopes.lookup start name).bind Binding.closure? = some closure) :
    closure.Sound strict scopes.size := by
  obtain ⟨binding, found, known⟩ := Option.bind_eq_some_iff.mp known
  cases binding with
  | callback closure =>
      cases known
      cases sound.lookup found with
      | callback _ has => exact has
  | _ => cases known

/-- In a tree a chain goes on to the parent, whatever it is. -/
theorem Rooted.chain_eq (rooted : scopes.Rooted) {start : Nat} {scope : Scope}
    (found : scopes.arena[start]? = some scope) :
    scopes.chain start = (start, scope) ::
      match scope.parent with
      | none => []
      | some parent => scopes.chain parent := by
  rw [chain, found]
  dsimp only
  cases enclosing : scope.parent with
  | none => rfl
  | some parent =>
      have inner : start ≠ Scopes.file := by
        rintro rfl
        obtain ⟨_, present, outermost, -⟩ := rooted.file
        cases found.symm.trans present
        cases enclosing.symm.trans outermost
      obtain ⟨_, same, smaller⟩ := rooted.parent start scope found inner
      cases enclosing.symm.trans same
      exact congrArg _ (if_pos smaller)

/-- Every chain in a tree ends at the scope of the file. -/
theorem Rooted.getLast?_chain (rooted : scopes.Rooted) {start : Nat}
    (made : start < scopes.size) :
    ∃ scope : Scope, (scopes.chain start).getLast? = some (Scopes.file, scope) ∧
      scope.ofFunction = true := by
  induction start using Nat.strongRecOn with
  | _ start ih =>
    obtain ⟨scope, found⟩ : ∃ scope, scopes.arena[start]? = some scope :=
      ⟨_, Array.getElem?_eq_getElem made⟩
    rw [rooted.chain_eq found]
    by_cases outermost : start = Scopes.file
    · obtain ⟨_, present, none, isFunction⟩ := rooted.file
      rw [outermost] at found
      cases found.symm.trans present
      rw [none, outermost]
      exact ⟨_, rfl, isFunction⟩
    · obtain ⟨parent, enclosing, smaller⟩ := rooted.parent start scope found outermost
      rw [enclosing]
      obtain ⟨last, ends, isFunction⟩ := ih parent smaller (Nat.lt_trans smaller made)
      refine ⟨last, ?_, isFunction⟩
      rw [List.getLast?_cons, ends]
      rfl

/-! ## Changes -/

theorem exists_of_getElem?_bindIn {index other : Nat} {name : String} {binding : Binding}
    {new : Scope} (found : (scopes.bindIn index name binding).arena[other]? = some new) :
    ∃ old : Scope, scopes.arena[other]? = some old ∧
      (new = old ∨ new = { old with bindings := old.bindings.bind name binding }) := by
  rw [getElem?_bindIn] at found
  split at found
  · obtain ⟨old, present, rfl⟩ := Option.map_eq_some_iff.mp found
    exact ⟨old, present, .inr rfl⟩
  · exact ⟨new, found, .inl rfl⟩

theorem Rooted.bindIn (rooted : scopes.Rooted) (index : Nat) (name : String) (binding : Binding) :
    (scopes.bindIn index name binding).Rooted where
  file := by
    obtain ⟨old, present, outermost, isFunction⟩ := rooted.file
    rw [getElem?_bindIn, present]
    split
    · exact ⟨_, rfl, outermost, isFunction⟩
    · exact ⟨old, rfl, outermost, isFunction⟩
  parent other new found inner := by
    obtain ⟨old, present, rfl | rfl⟩ := exists_of_getElem?_bindIn found
    · exact rooted.parent other _ present inner
    · exact rooted.parent other old present inner

theorem Rooted.add (rooted : scopes.Rooted) {parent : Nat} (made : parent < scopes.size)
    (ofFunction : Bool) : (scopes.add parent ofFunction).Rooted where
  file := by
    obtain ⟨old, present, rest⟩ := rooted.file
    have small := lt_size_of_getElem? present
    rw [getElem?_add, if_neg (Nat.ne_of_lt small)]
    exact ⟨old, present, rest⟩
  parent index scope found inner := by
    rw [getElem?_add] at found
    split at found
    case isTrue last =>
      cases found
      exact ⟨parent, rfl, last ▸ made⟩
    case isFalse => exact rooted.parent index scope found inner

namespace Keeps

theorem refl (scopes : Scopes) : scopes.Keeps scopes where
  size := Nat.le_refl _
  kept _ old found := ⟨old, found, rfl, rfl, fun _ bound => bound⟩

theorem trans (first : before.Keeps between) (second : between.Keeps after) :
    before.Keeps after where
  size := Nat.le_trans first.size second.size
  kept index old found := by
    obtain ⟨mid, foundMid, parent, flag, binds⟩ := first.kept index old found
    obtain ⟨new, foundNew, parent', flag', binds'⟩ := second.kept index mid foundMid
    exact ⟨new, foundNew, parent'.trans parent, flag'.trans flag,
      fun name bound => binds' name (binds name bound)⟩

end Keeps

namespace Grown

theorem refl (touched : Nat) (sound : scopes.Sound strict) :
    Grown strict touched scopes scopes where
  toKeeps := .refl scopes
  sound := sound
  same _ _ _ _ := rfl

/-- What grows further may touch what was touched before, and what is new. -/
theorem trans {other : Nat} (first : Grown strict touched before between)
    (second : Grown strict other between after)
    (touches : other = touched ∨ before.size ≤ other) : Grown strict touched before after where
  toKeeps := first.toKeeps.trans second.toKeeps
  sound := second.sound
  same isStrict index small differs := by
    refine (second.same isStrict index (Nat.lt_of_lt_of_le small first.size) ?_).trans
      (first.same isStrict index small differs)
    rcases touches with rfl | beyond
    · exact differs
    · exact Nat.ne_of_lt (Nat.lt_of_lt_of_le small beyond)

/-- A name is bound in one scope. -/
theorem bindIn (sound : scopes.Sound strict) {binding : Binding}
    (holds : binding.Holds (Closure.Sound strict scopes.size)) (index : Nat) (name : String)
    (here : strict = true → index = touched) :
    Grown strict touched scopes (scopes.bindIn index name binding) where
  sound := by
    refine ⟨sound.toRooted.bindIn index name binding, ?_⟩
    intro other new bound value found known
    rw [size_bindIn]
    obtain ⟨old, present, rfl | rfl⟩ := exists_of_getElem?_bindIn found
    · exact sound.closures other _ bound value present known
    · rw [Bindings.find?_bind] at known
      split at known
      · cases known
        exact holds
      · exact sound.closures other old bound value present known
  size := Nat.le_of_eq (size_bindIn ..).symm
  kept other old found := by
    rw [getElem?_bindIn, found]
    split
    · exact ⟨_, rfl, rfl, rfl, fun _ bound => Bindings.binds_bind bound name binding⟩
    · exact ⟨old, rfl, rfl, rfl, fun _ bound => bound⟩
  same isStrict other _ differs := by
    rw [getElem?_bindIn, if_neg]
    rintro rfl
    exact differs (here isStrict)

/-- A scope is made inside another. -/
theorem add (sound : scopes.Sound strict) {parent : Nat} (made : parent < scopes.size)
    (ofFunction : Bool) : Grown strict touched scopes (scopes.add parent ofFunction) where
  sound := by
    refine ⟨sound.toRooted.add made ofFunction, ?_⟩
    intro index scope name binding found bound
    rw [getElem?_add] at found
    split at found
    · cases found
      cases bound
    · refine (sound.closures index scope name binding found bound).mono fun _ has => ?_
      exact has.mono (Nat.le_of_lt (by rw [size_add]; exact Nat.lt_succ_self _))
  size := by
    rw [size_add]
    exact Nat.le_succ _
  kept index old found := by
    have small := lt_size_of_getElem? found
    rw [getElem?_add, if_neg (Nat.ne_of_lt small)]
    exact ⟨old, found, rfl, rfl, fun _ bound => bound⟩
  same _ index small _ := by
    rw [getElem?_add, if_neg (Nat.ne_of_lt small)]

end Grown

end Scopes

/-! ## Closures that are known -/

section Known

variable {strict : Bool} {scopes : Scopes} {scope : Nat}

theorem Expression.closure?_sound (sound : scopes.Sound strict) (made : scope < scopes.size)
    (expression : Expression) {closure : Closure} (tame : Tame strict expression.rebinds)
    (known : expression.closure? scopes scope = some closure) :
    closure.Sound strict scopes.size := by
  cases expression with
  | identifier _ name => exact sound.closure_of_lookup known
  | function _ callback =>
      cases known
      exact ⟨made, tame⟩
  | parenthesized _ inner => exact Expression.closure?_sound sound made inner tame known
  | _ => cases known

theorem Element.closureAt?_sound (sound : scopes.Sound strict) (made : scope < scopes.size)
    {elements : List Element} {index : Nat} {closure : Closure}
    (tame : Tame strict (elementsRebind elements))
    (known : Element.closureAt? scopes scope elements index = some closure) :
    closure.Sound strict scopes.size := by
  obtain ⟨element, found, known⟩ := Option.bind_eq_some_iff.mp known
  obtain ⟨expression, plain, known⟩ := Option.bind_eq_some_iff.mp known
  rw [elementsRebind_eq_any, Tame.any_iff] at tame
  have free := tame element (List.mem_of_getElem? found)
  cases element with
  | plain inner =>
      cases plain
      exact Expression.closure?_sound sound made _ free known
  | _ => cases plain

mutual

theorem Expression.binding_holds (sound : scopes.Sound strict) (made : scope < scopes.size)
    (expression : Expression) (tame : Tame strict expression.rebinds) :
    (expression.binding scopes scope).Holds (Closure.Sound strict scopes.size) := by
  have holds : ∀ known : Option Value,
      ((known.map .value).getD .unknown : Binding).Holds (Closure.Sound strict scopes.size) := by
    intro known
    cases known with
    | none => exact .unknown
    | some content => exact .value content
  cases expression with
  | identifier _ name =>
      rw [Expression.binding]
      cases found : scopes.lookup scope name with
      | none => exact .unknown
      | some binding => exact sound.lookup found
  | function _ callback => exact .callback _ ⟨made, tame⟩
  | array _ elements => exact .list _ (elementBindings_hold sound made elements tame)
  | parenthesized _ inner => exact Expression.binding_holds sound made inner tame
  | _ => exact holds _

theorem elementBindings_hold (sound : scopes.Sound strict) (made : scope < scopes.size)
    (elements : List Element) (tame : Tame strict (elementsRebind elements)) (binding : Binding)
    (member : binding ∈ elementBindings scopes scope elements) :
    binding.Holds (Closure.Sound strict scopes.size) := by
  cases elements with
  | nil => cases member
  | cons first rest =>
      obtain ⟨here, later⟩ := Tame.or_iff.mp tame
      rcases List.mem_cons.mp member with rfl | member
      · exact Element.binding_holds sound made first here
      · exact elementBindings_hold sound made rest later binding member

theorem Element.binding_holds (sound : scopes.Sound strict) (made : scope < scopes.size)
    (element : Element) (tame : Tame strict element.rebinds) :
    (element.binding scopes scope).Holds (Closure.Sound strict scopes.size) := by
  cases element with
  | plain expression => exact Expression.binding_holds sound made expression tame
  | spread expression => exact .unknown
  | hole => exact .unknown

end

end Known

end TestInventory
