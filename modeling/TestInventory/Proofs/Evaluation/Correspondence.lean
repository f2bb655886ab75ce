import Mathlib.Data.List.Forall2
import Mathlib.Data.Nat.Count
import TestInventory.Proofs.Evaluation.Lookup

/-!
# Arenas that correspond

Two runs of the same code can be compared although they make different scopes.  Every
scope of the first run has a role.  Most are kept: the second run has such a scope too,
perhaps under another index.  A promoted scope is one of a block in the first run and
one of a function in the second.  A merged scope and the scope inside it count as one
in the second run.  A dead scope is one that nothing refers to any more.  From scopes
that correspond the same names are found, and what is bound, assigned or declared in
both arenas leaves them in correspondence.
-/

namespace TestInventory

/-! ## Roles -/

/-- What becomes of a scope of the first run in the second one. -/
inductive Role where
  | kept
  /-- A block in the first run and a function in the second. -/
  | promoted
  /-- One with the scope that was made next, which is the only one inside it. -/
  | merged
  /-- Nothing refers to the scope any more. -/
  | dead
  deriving DecidableEq

/-- The roles of all scopes of the first run. -/
abbrev Roles := Nat → Role

namespace Roles

/-- Whether code may refer to a scope. -/
def Live (roles : Roles) (index : Nat) : Prop := roles index = .kept ∨ roles index = .promoted

/-- The index in the second run of a scope of the first; merged scopes are passed over. -/
def index (roles : Roles) (scope : Nat) : Nat :=
  Nat.count (fun other => roles other ≠ .merged) scope

variable {roles roles' : Roles} {first second : Nat}

theorem Live.ne_merged (live : roles.Live first) : roles first ≠ .merged := by
  rcases live with kept | promoted
  · simp [kept]
  · simp [promoted]

theorem Live.ne_dead (live : roles.Live first) : roles first ≠ .dead := by
  rcases live with kept | promoted
  · simp [kept]
  · simp [promoted]

theorem Live.of_eq (live : roles.Live first) (same : roles' first = roles first) :
    roles'.Live first := by
  rwa [Live, same]

theorem index_file (roles : Roles) : roles.index Scopes.file = Scopes.file := Nat.count_zero _

theorem index_getD (roles : Roles) (found : Option Nat) :
    (found.map roles.index).getD Scopes.file = roles.index (found.getD Scopes.file) := by
  cases found with
  | none => exact roles.index_file.symm
  | some holder => rfl

/-- A merged scope has the index of the scope inside it. -/
theorem index_succ_of_merged (merged : roles first = .merged) :
    roles.index (first + 1) = roles.index first := by
  simp [index, Nat.count_succ, merged]

theorem index_succ (other : roles first ≠ .merged) :
    roles.index (first + 1) = roles.index first + 1 := by
  simp [index, Nat.count_succ, other]

theorem index_lt (other : roles first ≠ .merged) (smaller : first < second) :
    roles.index first < roles.index second := Nat.count_strict_mono other smaller

theorem index_inj (other : roles first ≠ .merged) (other' : roles second ≠ .merged) :
    roles.index first = roles.index second ↔ first = second :=
  ⟨Nat.count_injective other other', congrArg _⟩

/-- The index of a scope depends on the scopes made before it. -/
theorem index_congr {bound : Nat} (agree : ∀ other < bound, roles' other = roles other)
    {scope : Nat} (small : scope ≤ bound) : roles'.index scope = roles.index scope := by
  induction scope with
  | zero => rfl
  | succ scope ih =>
      have same := agree scope small
      simp only [index, Nat.count_succ, same] at ih ⊢
      rw [ih (Nat.le_of_succ_le small)]

/-- All scopes are kept. -/
def same : Roles := fun _ => .kept

theorem index_same (scope : Nat) : same.index scope = scope := by
  simp [index, same, Nat.count_true]

end Roles

/-! ## Bindings -/

/-- Whether two closures are the same function, created in scopes that correspond. -/
structure Closure.Alike (roles : Roles) (first second : Closure) : Prop where
  callback : second.callback = first.callback
  live : roles.Live first.scope
  scope : second.scope = roles.index first.scope

theorem Closure.Alike.eq {roles : Roles} {first second : Closure}
    (alike : first.Alike roles second) : second = ⟨first.callback, roles.index first.scope⟩ := by
  obtain ⟨callback, scope⟩ := second
  exact congrArg₂ Closure.mk alike.callback alike.scope

/-- Whether two bindings are the same up to the scopes of closures, which correspond. -/
inductive Binding.Alike (roles : Roles) : Binding → Binding → Prop where
  | value (content : Value) : Alike roles (.value content) (.value content)
  | list {items items' : List Binding} (length : items.length = items'.length)
      (each : ∀ pair ∈ items.zip items', Alike roles pair.1 pair.2) :
    Alike roles (.list items) (.list items')
  | callback {closure closure' : Closure} (alike : closure.Alike roles closure') :
    Alike roles (.callback closure) (.callback closure')
  | unknown : Alike roles .unknown .unknown

namespace Binding.Alike

variable {roles roles' : Roles} {first second : Binding}

theorem value?_eq (alike : first.Alike roles second) : second.value? = first.value? := by
  cases alike <;> rfl

theorem closure? (alike : first.Alike roles second) :
    Option.Rel (Closure.Alike roles) first.closure? second.closure? := by
  cases alike with
  | callback alike => exact .some alike
  | _ => exact .none

theorem items? (alike : first.Alike roles second) :
    Option.Rel (List.Forall₂ (Binding.Alike roles)) first.items? second.items? := by
  cases alike with
  | list length each => exact .some (List.forall₂_iff_zip.mpr ⟨length, fun member => each _ member⟩)
  | _ => exact .none

theorem of_items {items items' : List Binding}
    (alike : List.Forall₂ (Binding.Alike roles) items items') :
    Binding.Alike roles (.list items) (.list items') := by
  obtain ⟨length, each⟩ := List.forall₂_iff_zip.mp alike
  exact .list length fun pair member => each member

theorem refl {property : Closure → Prop} (holds : first.Holds property) :
    first.Alike .same first := by
  induction holds with
  | value content => exact .value content
  | list items _ ih => exact .of_items (List.forall₂_same.mpr ih)
  | callback closure => exact .callback ⟨rfl, .inl rfl, (Roles.index_same _).symm⟩
  | unknown => exact .unknown

/-- Only the scopes made by now matter. -/
theorem of_agree (alike : first.Alike roles second) {bound : Nat}
    (holds : first.Holds fun closure => closure.scope < bound)
    (agree : ∀ other < bound, roles' other = roles other) : first.Alike roles' second := by
  induction alike with
  | value content => exact .value content
  | list length _ ih =>
      cases holds with
      | list _ all =>
          exact .list length fun pair member => ih pair member (all _ (List.of_mem_zip member).1)
  | callback alike =>
      cases holds with
      | callback _ small =>
          refine .callback ⟨alike.callback, alike.live.of_eq (agree _ small), ?_⟩
          rw [alike.scope, Roles.index_congr agree (Nat.le_of_lt small)]
  | unknown => exact .unknown

end Binding.Alike

/-! ## Scopes -/

namespace Bindings

theorem find?_append (inner outer : Bindings) (name : String) :
    find? (inner ++ outer) name = (inner.find? name).or (outer.find? name) := by
  simp only [find?, List.find?_append, Option.map_or]

end Bindings

/-- Whether a scope corresponds to another one, when merged scopes count as one. -/
structure Scope.Alike (roles : Roles) (index : Nat) (first second : Scope) : Prop where
  parent : second.parent = first.parent.map roles.index
  live : ∀ parent, first.parent = some parent → roles.Live parent
  kind : second.ofFunction = (first.ofFunction || decide (roles index = .promoted))
  bound : ∀ name, Option.Rel (Binding.Alike roles) (first.bindings.find? name)
    (second.bindings.find? name)

namespace Scopes

/-- A scope together with the one around it if that is merged. -/
def group (roles : Roles) (scopes : Scopes) (index : Nat) : Option Scope :=
  scopes.arena[index]?.map fun scope =>
    match (scope.parent.filter fun parent => roles parent = .merged).bind (scopes.arena[·]?) with
    | none => scope
    | some around =>
      { scope with parent := around.parent, bindings := scope.bindings ++ around.bindings }

/-- Whether two arenas correspond. -/
structure Alike (roles : Roles) (first second : Scopes) : Prop where
  rooted : first.Rooted
  rooted' : second.Rooted
  size : second.size = roles.index first.size
  fresh : ∀ index, first.size ≤ index → roles index = .kept
  file : roles.Live Scopes.file
  merged : ∀ index, roles index = .merged → roles.Live (index + 1) ∧
    ∃ around inner : Scope, first.arena[index]? = some around ∧ around.ofFunction = false ∧
      first.arena[index + 1]? = some inner ∧ inner.parent = some index
  only : ∀ (index : Nat) (scope : Scope) (parent : Nat), first.arena[index]? = some scope →
    scope.parent = some parent → roles parent = .merged → index = parent + 1
  scope : ∀ (index : Nat) (scope : Scope), roles.Live index → first.group roles index = some scope →
    ∃ scope', second.arena[roles.index index]? = some scope' ∧ scope.Alike roles index scope'

/-- Whether none of the scopes inside that count as one with a scope is searched for. -/
def Foremost (roles : Roles) (scopes : Scopes) (wanted : Scope → Bool) (index : Nat) : Prop :=
  roles.Live index ∨ roles index = .merged ∧ ∀ inner : Scope,
    scopes.arena[index + 1]? = some inner → wanted inner = false

variable {roles : Roles} {first second scopes : Scopes} {index : Nat} {scope : Scope}

theorem group_of_free (roles : Roles) (found : scopes.arena[index]? = some scope)
    (free : ∀ parent, scope.parent = some parent → roles parent ≠ .merged) :
    scopes.group roles index = some scope := by
  have none : (scope.parent.filter fun parent => roles parent = .merged) = none := by
    cases enclosing : scope.parent with
    | none => rfl
    | some parent => simp [Option.filter, free parent enclosing]
  simp [group, found, none]

theorem group_of_merged (roles : Roles) (found : scopes.arena[index]? = some scope) {parent : Nat}
    (enclosing : scope.parent = some parent) (merged : roles parent = .merged) {around : Scope}
    (foundAround : scopes.arena[parent]? = some around) :
    scopes.group roles index =
      some { scope with
        parent := around.parent, bindings := scope.bindings ++ around.bindings } := by
  simp [group, found, enclosing, Option.filter, merged, foundAround]

/-- An arena corresponds to itself. -/
theorem Alike.refl (sound : scopes.Sound false) : scopes.Alike .same scopes where
  rooted := sound.toRooted
  rooted' := sound.toRooted
  size := (Roles.index_same _).symm
  fresh _ _ := rfl
  file := .inl rfl
  merged _ merged := nomatch merged
  only _ _ _ _ _ merged := nomatch merged
  scope index scope live grouped := by
    obtain ⟨inner, found, -⟩ := Option.map_eq_some_iff.mp grouped
    cases grouped.symm.trans (group_of_free .same found fun _ _ merged => nomatch merged)
    refine ⟨scope, (Roles.index_same index).symm ▸ found, ?_, fun _ _ => .inl rfl, ?_, ?_⟩
    · rw [show Roles.same.index = id from funext Roles.index_same, Option.map_id, id]
    · simp [Roles.same]
    · intro name
      cases held : scope.bindings.find? name with
      | none => exact .none
      | some binding => exact .some (.refl (sound.closures index scope name binding found held))

/-! ## Searching -/

/-- The scope that a search outwards finds. -/
def search (scopes : Scopes) (wanted : Scope → Bool) (start : Nat) : Option Nat :=
  ((scopes.chain start).find? (wanted ·.2)).map (·.1)

theorem functionScope_eq (scopes : Scopes) (start : Nat) :
    scopes.functionScope start = (scopes.search Scope.ofFunction start).getD file := rfl

theorem owner_eq (scopes : Scopes) (start : Nat) (name : String) :
    scopes.owner start name = (scopes.search (·.bindings.binds name) start).getD file := rfl

theorem Rooted.search_eq (rooted : scopes.Rooted) (found : scopes.arena[index]? = some scope)
    (wanted : Scope → Bool) :
    scopes.search wanted index =
      if wanted scope then some index else scope.parent.bind (scopes.search wanted) := by
  rw [search, rooted.chain_eq found, List.find?_cons]
  cases wanted scope with
  | true => rfl
  | false => cases scope.parent <;> rfl

theorem Rooted.parent_lt (rooted : scopes.Rooted) (found : scopes.arena[index]? = some scope)
    {parent : Nat} (enclosing : scope.parent = some parent) : parent < index := by
  have inner : index ≠ Scopes.file := by
    rintro rfl
    obtain ⟨_, present, outermost, -⟩ := rooted.file
    cases found.symm.trans present
    cases enclosing.symm.trans outermost
  obtain ⟨_, same, smaller⟩ := rooted.parent index scope found inner
  cases enclosing.symm.trans same
  exact smaller

/-- The scopes from an index outwards, with their kinds. -/
def kinds (scopes : Scopes) (start : Nat) : List (Nat × Bool) :=
  (scopes.chain start).map fun entry => (entry.1, entry.2.ofFunction)

/-- Whether variables of the function around a scope stay outside of all promoted blocks. -/
def Settled (roles : Roles) (scopes : Scopes) (index : Nat) : Prop :=
  ∀ entry ∈ (scopes.kinds index).takeWhile (!·.2), roles entry.1 ≠ .promoted

theorem Rooted.kinds_eq (rooted : scopes.Rooted) (found : scopes.arena[index]? = some scope) :
    scopes.kinds index = (index, scope.ofFunction) :: (scope.parent.map scopes.kinds).getD [] := by
  rw [kinds, rooted.chain_eq found, List.map_cons]
  cases scope.parent <;> rfl

theorem kinds_bindIn (scopes : Scopes) (holder : Nat) (name : String) (binding : Binding)
    (index : Nat) : (scopes.bindIn holder name binding).kinds index = scopes.kinds index := by
  rw [kinds, kinds, chain_bindIn, List.map_map]
  refine List.map_congr_left fun entry _ => ?_
  simp only [Function.comp, rebound]
  split <;> rfl

/-- The kinds of scopes stay what they are. -/
theorem Keeps.kinds_eq (keeps : first.Keeps second) (made : index < first.size) :
    second.kinds index = first.kinds index := by
  rw [kinds, kinds]
  fun_induction chain first index with
  | case1 index missing =>
      have found : first.arena[index]? = some _ := Array.getElem?_eq_getElem made
      cases found.symm.trans missing
  | case2 index scope found ih =>
      obtain ⟨new, present, parent, kind, -⟩ := keeps.kept index scope found
      rw [chain, present]
      simp only [parent, List.map_cons, kind]
      cases enclosing : scope.parent with
      | none => rfl
      | some outer =>
          by_cases smaller : outer < index
          · simp only [if_pos smaller, ih outer smaller (Nat.lt_trans smaller made)]
          · simp only [if_neg smaller, List.map_nil]

theorem Settled.bindIn (settled : scopes.Settled roles index) (holder : Nat) (name : String)
    (binding : Binding) : (scopes.bindIn holder name binding).Settled roles index := by
  rwa [Settled, kinds_bindIn]

theorem Settled.hoist (settled : scopes.Settled roles index) (holder : Nat)
    (statements : List Statement) : (scopes.hoist holder statements).Settled roles index := by
  unfold Scopes.hoist
  generalize statements.filterMap Statement.hoisted? = functions
  induction functions generalizing scopes with
  | nil => exact settled
  | cons entry rest ih => exact ih (settled.bindIn holder entry.1 _)

theorem Settled.keeps (settled : first.Settled roles index) (keeps : first.Keeps second)
    (made : index < first.size) : second.Settled roles index := by
  rwa [Settled, keeps.kinds_eq made]

/-- A function is settled, whatever is around it. -/
theorem settled_of_function (rooted : scopes.Rooted) (found : scopes.arena[index]? = some scope)
    (isFunction : scope.ofFunction = true) : scopes.Settled roles index := by
  simp [Settled, rooted.kinds_eq found, isFunction]

/-- Whoever is inside a block is as settled as the block around it. -/
theorem settled_block_iff (rooted : scopes.Rooted) (found : scopes.arena[index]? = some scope)
    (isBlock : scope.ofFunction = false) :
    scopes.Settled roles index ↔ roles index ≠ .promoted ∧
      ∀ parent, scope.parent = some parent → scopes.Settled roles parent := by
  cases enclosing : scope.parent with
  | none => simp [Settled, rooted.kinds_eq found, isBlock, enclosing]
  | some parent => simp [Settled, rooted.kinds_eq found, isBlock, enclosing]

/-- Only the roles of scopes that were made matter. -/
theorem Settled.of_agree (settled : scopes.Settled roles index) {roles' : Roles}
    (agree : ∀ other < scopes.size, roles' other = roles other) : scopes.Settled roles' index := by
  intro entry inside
  obtain ⟨made, member, rfl⟩ := List.mem_map.mp ((List.takeWhile_sublist _).subset inside)
  rw [agree made.1 (lt_size_of_getElem? (getElem?_of_mem_chain member))]
  exact settled _ inside

/-- A new block that is not promoted is as settled as the block around it. -/
theorem Settled.add (settled : scopes.Settled roles index) (sound : scopes.Sound false)
    (made : index < scopes.size) {roles' : Roles}
    (agree : ∀ other < scopes.size, roles' other = roles other)
    (unpromoted : roles' scopes.size ≠ .promoted) :
    (scopes.add index false).Settled roles' scopes.size := by
  have grown : Grown false index scopes (scopes.add index false) := .add sound made false
  have found : (scopes.add index false).arena[scopes.size]? = some { parent := some index } :=
    (getElem?_add ..).trans (if_pos rfl)
  refine (settled_block_iff grown.sound.toRooted found rfl).mpr ⟨unpromoted, ?_⟩
  intro parent enclosing
  cases enclosing
  exact (settled.of_agree agree).keeps grown.toKeeps made

namespace Alike

variable (alike : first.Alike roles second)
include alike

/-- A scope stands alone or counts as one with the merged scope around it. -/
theorem group_cases (found : first.arena[index]? = some scope) :
    (first.group roles index = some scope ∧
        ∀ parent, scope.parent = some parent → roles parent ≠ .merged) ∨
      ∃ outer around, index = outer + 1 ∧ roles outer = .merged ∧ scope.parent = some outer ∧
        first.arena[outer]? = some around ∧ around.ofFunction = false ∧
        first.group roles index =
          some { scope with
            parent := around.parent, bindings := scope.bindings ++ around.bindings } := by
  by_cases merged : ∃ outer, scope.parent = some outer ∧ roles outer = .merged
  · obtain ⟨outer, enclosing, merged⟩ := merged
    obtain ⟨-, around, _, foundAround, isBlock, -⟩ := alike.merged outer merged
    exact .inr ⟨outer, around, alike.only index scope outer found enclosing merged, merged,
      enclosing, foundAround, isBlock, group_of_merged roles found enclosing merged foundAround⟩
  · have free : ∀ parent, scope.parent = some parent → roles parent ≠ .merged :=
      fun parent enclosing same => merged ⟨parent, enclosing, same⟩
    exact .inl ⟨group_of_free roles found free, free⟩

theorem exists_group (made : index < first.size) :
    ∃ scope, first.group roles index = some scope := by
  have found : first.arena[index]? = some _ := Array.getElem?_eq_getElem made
  rcases alike.group_cases found with ⟨grouped, -⟩ | ⟨_, _, -, -, -, -, -, grouped⟩
  · exact ⟨_, grouped⟩
  · exact ⟨_, grouped⟩

variable (grouped : first.group roles index = some scope)
include grouped

theorem lookup_group (name : String) :
    first.lookup index name =
      (scope.bindings.find? name).or (scope.parent.bind (first.lookup · name)) := by
  obtain ⟨inner, found, -⟩ := Option.map_eq_some_iff.mp grouped
  rcases alike.group_cases found with ⟨alone, -⟩ |
    ⟨outer, around, -, -, enclosing, foundAround, -, together⟩
  · cases grouped.symm.trans alone
    exact alike.rooted.lookup_eq found name
  · cases grouped.symm.trans together
    rw [alike.rooted.lookup_eq found, enclosing, Option.bind_some,
      alike.rooted.lookup_eq foundAround, Bindings.find?_append, Option.or_assoc]

theorem parent_lt {parent : Nat} (enclosing : scope.parent = some parent) : parent < index := by
  obtain ⟨inner, found, -⟩ := Option.map_eq_some_iff.mp grouped
  rcases alike.group_cases found with ⟨alone, -⟩ |
    ⟨outer, around, -, -, between, foundAround, -, together⟩
  · cases grouped.symm.trans alone
    exact alike.rooted.parent_lt found enclosing
  · cases grouped.symm.trans together
    exact Nat.lt_trans (alike.rooted.parent_lt foundAround enclosing)
      (alike.rooted.parent_lt found between)

/-- Scopes that count as one are searched in a row, and then the scopes around them. -/
theorem search_group (wanted : Scope → Bool) :
    first.search wanted index =
        (if wanted scope then some index else scope.parent.bind (first.search wanted)) ∨
      ∃ outer inner around, index = outer + 1 ∧ roles outer = .merged ∧
        first.arena[index]? = some inner ∧ around.ofFunction = false ∧
        scope = { inner with
          parent := around.parent, bindings := inner.bindings ++ around.bindings } ∧
        first.search wanted index =
          if wanted inner then some index else if wanted around then some outer
          else scope.parent.bind (first.search wanted) := by
  obtain ⟨inner, found, -⟩ := Option.map_eq_some_iff.mp grouped
  rcases alike.group_cases found with ⟨alone, -⟩ |
    ⟨outer, around, next, merged, enclosing, foundAround, isBlock, together⟩
  · cases grouped.symm.trans alone
    exact .inl (alike.rooted.search_eq found wanted)
  · cases grouped.symm.trans together
    refine .inr ⟨outer, inner, around, next, merged, found, isBlock, rfl, ?_⟩
    rw [alike.rooted.search_eq found, enclosing, Option.bind_some,
      alike.rooted.search_eq foundAround]

theorem settled_group (settled : first.Settled roles index) (isBlock : scope.ofFunction = false) :
    roles index ≠ .promoted ∧
      ∀ parent, scope.parent = some parent → first.Settled roles parent := by
  obtain ⟨inner, found, -⟩ := Option.map_eq_some_iff.mp grouped
  rcases alike.group_cases found with ⟨alone, -⟩ |
    ⟨outer, around, rfl, merged, enclosing, foundAround, isBlock', together⟩
  · cases grouped.symm.trans alone
    exact (settled_block_iff alike.rooted found isBlock).mp settled
  · cases grouped.symm.trans together
    obtain ⟨unpromoted, outside⟩ := (settled_block_iff alike.rooted found isBlock).mp settled
    exact ⟨unpromoted,
      ((settled_block_iff alike.rooted foundAround isBlock').mp (outside outer enclosing)).2⟩

theorem map_search_group {wanted : Scope → Bool}
    (joint : ∀ inner around : Scope, around.ofFunction = false →
      wanted { inner with
        parent := around.parent, bindings := inner.bindings ++ around.bindings } =
          (wanted inner || wanted around)) :
    (first.search wanted index).map roles.index =
      if wanted scope then some (roles.index index)
      else (scope.parent.bind (first.search wanted)).map roles.index := by
  rcases alike.search_group grouped wanted with searched |
    ⟨outer, inner, around, rfl, merged, -, isBlock, rfl, searched⟩
  · rw [searched]
    split <;> rfl
  · rw [searched, joint inner around isBlock]
    cases wanted inner with
    | true => rfl
    | false =>
        cases wanted around with
        | true => exact congrArg some (Roles.index_succ_of_merged merged).symm
        | false => rfl

omit grouped

/-- Induction from the scopes around to the scopes inside them. -/
theorem climb {motive : Nat → Prop}
    (step : ∀ (index : Nat) (scope scope' : Scope), roles.Live index →
      first.group roles index = some scope → second.arena[roles.index index]? = some scope' →
      scope.Alike roles index scope' → (∀ parent, scope.parent = some parent → motive parent) →
      motive index)
    (live : roles.Live index) (made : index < first.size) : motive index := by
  induction index using Nat.strongRecOn with
  | _ index ih =>
    obtain ⟨scope, grouped⟩ := alike.exists_group made
    obtain ⟨scope', found', matched⟩ := alike.scope index scope live grouped
    refine step index scope scope' live grouped found' matched fun parent enclosing => ?_
    have smaller := alike.parent_lt grouped enclosing
    exact ih parent smaller (matched.live parent enclosing) (Nat.lt_trans smaller made)

/-- The same names are found from scopes that correspond. -/
theorem lookup (live : roles.Live index) (made : index < first.size) (name : String) :
    Option.Rel (Binding.Alike roles) (first.lookup index name)
      (second.lookup (roles.index index) name) := by
  refine alike.climb (motive := fun index => Option.Rel (Binding.Alike roles)
    (first.lookup index name) (second.lookup (roles.index index) name)) ?_ live made
  intro index scope scope' live grouped found' matched ih
  have bound := matched.bound name
  rw [alike.lookup_group grouped, alike.rooted'.lookup_eq found', matched.parent]
  generalize scope.bindings.find? name = held at bound
  generalize scope'.bindings.find? name = held' at bound
  cases bound with
  | some same => exact .some same
  | none =>
      rw [Option.none_or, Option.none_or]
      cases enclosing : scope.parent with
      | none => exact .none
      | some parent => exact ih parent enclosing

/-- What a search finds is the first of the scopes that count as one. -/
theorem foremost_of_search {wanted : Scope → Bool} (live : roles.Live index)
    (made : index < first.size) {holder : Nat} (found : first.search wanted index = some holder) :
    first.Foremost roles wanted holder := by
  refine alike.climb (motive := fun index => first.search wanted index = some holder →
    first.Foremost roles wanted holder) ?_ live made found
  intro index scope scope' live grouped _ _ ih found
  have beyond (further : scope.parent.bind (first.search wanted) = some holder) :
      first.Foremost roles wanted holder := by
    obtain ⟨parent, enclosing, further⟩ := Option.bind_eq_some_iff.mp further
    exact ih parent enclosing further
  rcases alike.search_group grouped wanted with searched |
    ⟨outer, inner, around, rfl, merged, foundInner, -, -, searched⟩
  · rw [searched] at found
    split at found
    · cases found
      exact .inl live
    · exact beyond found
  · rw [searched] at found
    split at found
    case isTrue =>
      cases found
      exact .inl live
    case isFalse unwanted =>
      split at found
      · cases found
        refine .inr ⟨merged, fun other foundOther => ?_⟩
        cases foundInner.symm.trans foundOther
        simpa using unwanted
      · exact beyond found

/-- A name is assigned in scopes that correspond. -/
theorem owner (live : roles.Live index) (made : index < first.size) (name : String) :
    second.owner (roles.index index) name = roles.index (first.owner index name) ∧
      first.Foremost roles (·.bindings.binds name) (first.owner index name) := by
  have same : second.search (·.bindings.binds name) (roles.index index) =
      (first.search (·.bindings.binds name) index).map roles.index := by
    refine alike.climb (motive := fun index =>
      second.search (·.bindings.binds name) (roles.index index) =
        (first.search (·.bindings.binds name) index).map roles.index) ?_ live made
    intro index scope scope' live grouped found' matched ih
    have binds : scope'.bindings.binds name = scope.bindings.binds name := by
      have bound := matched.bound name
      rw [Bindings.binds, Bindings.binds]
      generalize scope.bindings.find? name = held at bound
      generalize scope'.bindings.find? name = held' at bound
      cases bound <;> rfl
    rw [alike.rooted'.search_eq found', alike.map_search_group grouped fun inner around _ => by
      simp only [Bindings.binds, Bindings.find?_append, Option.isSome_or], binds, matched.parent]
    cases enclosing : scope.parent with
    | none => rfl
    | some parent =>
        rw [Option.map_some, Option.bind_some, Option.bind_some, ih parent enclosing]
  rw [owner_eq, owner_eq, same]
  refine ⟨roles.index_getD _, ?_⟩
  cases found : first.search (·.bindings.binds name) index with
  | none => exact .inl alike.file
  | some holder => exact alike.foremost_of_search live made found

/-- Unless blocks were promoted, variables of the function belong to scopes that correspond. -/
theorem functionScope (live : roles.Live index) (made : index < first.size)
    (settled : first.Settled roles index) :
    second.functionScope (roles.index index) = roles.index (first.functionScope index) ∧
      roles.Live (first.functionScope index) := by
  have same : second.search Scope.ofFunction (roles.index index) =
      (first.search Scope.ofFunction index).map roles.index := by
    refine alike.climb (motive := fun index => first.Settled roles index →
      second.search Scope.ofFunction (roles.index index) =
        (first.search Scope.ofFunction index).map roles.index) ?_ live made settled
    intro index scope scope' live grouped found' matched ih settled
    rw [alike.rooted'.search_eq found', alike.map_search_group grouped
      fun inner around isBlock => by simp [isBlock], matched.kind, matched.parent]
    cases kind : scope.ofFunction with
    | true => rfl
    | false =>
        -- At a promoted block only the search in the second arena would stop.
        obtain ⟨unpromoted, outside⟩ := alike.settled_group grouped settled kind
        rw [Bool.false_or, decide_eq_false unpromoted]
        cases enclosing : scope.parent with
        | none => rfl
        | some parent =>
            exact ih parent enclosing (outside parent enclosing)
  rw [functionScope_eq, functionScope_eq, same]
  refine ⟨roles.index_getD _, ?_⟩
  cases found : first.search Scope.ofFunction index with
  | none => exact alike.file
  | some holder =>
      rcases alike.foremost_of_search live made found with live | ⟨merged, -⟩
      · exact live
      · obtain ⟨-, around, -, foundAround, isBlock, -⟩ := alike.merged holder merged
        obtain ⟨entry, hit, rfl⟩ := Option.map_eq_some_iff.mp found
        cases (getElem?_of_mem_chain (List.mem_of_find?_eq_some hit)).symm.trans foundAround
        have isFunction := List.find?_some (p := fun entry : Nat × Scope => entry.2.ofFunction) hit
        cases isBlock.symm.trans isFunction

end Alike

end Scopes

end TestInventory
