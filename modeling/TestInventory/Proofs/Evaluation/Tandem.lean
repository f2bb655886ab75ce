import Mathlib.Logic.Function.Basic
import TestInventory.Proofs.Evaluation.Correspondence

/-!
# Changes in both arenas

Names that are bound, assigned or declared in both of two arenas that correspond, and
scopes that are made in both, leave them in correspondence.  What is bound in a dead
scope does not matter.  A scope that binds an item may have one scope or two in its
place, and these may be blocks or functions.
-/

namespace TestInventory

namespace Roles

/-- The roles once a scope and another one inside it have been made that count as one. -/
def merge (roles : Roles) (outer : Nat) (role : Role) : Roles :=
  Function.update (Function.update roles outer .merged) (outer + 1) role

variable (roles : Roles) (outer : Nat) (role : Role)

theorem merge_outer : roles.merge outer role outer = .merged := by
  simp [merge]

theorem merge_inner : roles.merge outer role (outer + 1) = role := Function.update_self ..

theorem merge_of_lt {other : Nat} (old : other < outer) :
    roles.merge outer role other = roles other := by
  simp [merge, Function.update_of_ne (Nat.ne_of_lt old),
    Function.update_of_ne (Nat.ne_of_lt (Nat.lt_succ_of_lt old))]

theorem merge_of_gt {other : Nat} (later : outer + 1 < other) :
    roles.merge outer role other = roles other := by
  simp [merge, Function.update_of_ne (Nat.ne_of_gt later),
    Function.update_of_ne (Nat.ne_of_gt (Nat.lt_of_succ_lt later))]

end Roles

namespace Scopes

variable {roles : Roles} {first second scopes : Scopes} {index : Nat} {scope : Scope}

section Rebound

variable (holder : Nat) (name : String) (binding : Binding)

theorem getElem?_rebound (found : scopes.arena[index]? = some scope) :
    (scopes.bindIn holder name binding).arena[index]? =
      some (rebound holder name binding (index, scope)) := by
  rw [getElem?_bindIn, found, rebound]
  split <;> rfl

theorem parent_rebound (entry : Nat × Scope) :
    (rebound holder name binding entry).parent = entry.2.parent := by
  rw [rebound]
  split <;> rfl

theorem ofFunction_rebound (entry : Nat × Scope) :
    (rebound holder name binding entry).ofFunction = entry.2.ofFunction := by
  rw [rebound]
  split <;> rfl

theorem find?_rebound (entry : Nat × Scope) (other : String) :
    (rebound holder name binding entry).bindings.find? other =
      if holder = entry.1 ∧ name = other then some binding else entry.2.bindings.find? other := by
  rw [rebound]
  by_cases here : holder = entry.1
  · rw [if_pos here, Bindings.find?_bind]
    simp only [here, true_and]
  · rw [if_neg here]
    simp only [here, false_and, if_false]

end Rebound

namespace Alike

variable (alike : first.Alike roles second)
include alike

theorem index_eq_iff (live : roles.Live index) {holder : Nat} {wanted : Scope → Bool}
    (foremost : first.Foremost roles wanted holder) :
    roles.index holder = roles.index index ↔
      holder = index ∨ roles holder = .merged ∧ holder + 1 = index := by
  rcases foremost with here | ⟨merged, -⟩
  · rw [Roles.index_inj here.ne_merged live.ne_merged]
    simp [here.ne_merged]
  · have inside := (alike.merged holder merged).1
    rw [← Roles.index_succ_of_merged merged, Roles.index_inj inside.ne_merged live.ne_merged]
    constructor
    · intro same
      exact .inr ⟨merged, same⟩
    · rintro (rfl | ⟨-, same⟩)
      · exact absurd merged live.ne_merged
      · exact same

/-- To bind a name in a scope is to bind it in all that counts as one with the scope. -/
theorem group_bindIn (live : roles.Live index) {holder : Nat} {name : String}
    (foremost : first.Foremost roles (·.bindings.binds name) holder) (binding : Binding)
    {changed : Scope}
    (grouped : (first.bindIn holder name binding).group roles index = some changed) :
    ∃ scope, first.group roles index = some scope ∧ changed.parent = scope.parent ∧
      changed.ofFunction = scope.ofFunction ∧ ∀ other, changed.bindings.find? other =
        if roles.index holder = roles.index index ∧ name = other then some binding
        else scope.bindings.find? other := by
  obtain ⟨new, present, -⟩ := Option.map_eq_some_iff.mp grouped
  obtain ⟨inner, found, -⟩ := exists_of_getElem?_bindIn present
  have found' := getElem?_rebound holder name binding found
  rcases alike.group_cases found with ⟨alone, free⟩ |
    ⟨outer, around, rfl, merged, enclosing, foundAround, -, together⟩
  · have alone' := group_of_free roles found'
      (by rwa [parent_rebound])
    cases grouped.symm.trans alone'
    refine ⟨inner, alone, parent_rebound .., ofFunction_rebound .., fun other => ?_⟩
    have same : roles.index holder = roles.index index ↔ holder = index := by
      rw [alike.index_eq_iff live foremost, or_iff_left]
      rintro ⟨merged, rfl⟩
      obtain ⟨-, -, inside, -, -, foundInside, enclosing⟩ := alike.merged holder merged
      cases found.symm.trans foundInside
      exact free holder enclosing merged
    rw [find?_rebound]
    simp only [same]
  · have foundAround' := getElem?_rebound holder name binding foundAround
    have together' := group_of_merged roles found'
      ((parent_rebound ..).trans enclosing) merged foundAround'
    cases grouped.symm.trans together'
    refine ⟨_, together, parent_rebound .., ofFunction_rebound .., fun other => ?_⟩
    simp only [Bindings.find?_append, find?_rebound, alike.index_eq_iff live foremost]
    by_cases bound : name = other
    · subst bound
      by_cases here : holder = outer + 1
      · simp [here]
      · by_cases outside : holder = outer
        · subst outside
          -- The scope around is bound in only if the scope inside does not bind the name.
          rcases foremost with live | ⟨-, unbound⟩
          · exact absurd merged live.ne_merged
          · have none := unbound inner found
            simp only [Bindings.binds, Option.isSome_eq_false_iff, Option.isNone_iff_eq_none]
              at none
            simp [none, merged]
        · simp [here, outside]
    · simp [bound]

section Bound

variable (holder : Nat) (name : String) (binding : Binding)

theorem merged_bindIn (merged : roles index = .merged) :
    roles.Live (index + 1) ∧ ∃ around inner : Scope,
      (first.bindIn holder name binding).arena[index]? = some around ∧ around.ofFunction = false ∧
        (first.bindIn holder name binding).arena[index + 1]? = some inner ∧
        inner.parent = some index := by
  obtain ⟨live, around, inner, foundAround, isBlock, found, enclosing⟩ := alike.merged index merged
  exact ⟨live, _, _, getElem?_rebound holder name binding foundAround,
    (ofFunction_rebound ..).trans isBlock, getElem?_rebound holder name binding found,
    (parent_rebound ..).trans enclosing⟩

theorem only_bindIn {new : Scope} {parent : Nat}
    (found : (first.bindIn holder name binding).arena[index]? = some new)
    (enclosing : new.parent = some parent) (merged : roles parent = .merged) :
    index = parent + 1 := by
  obtain ⟨old, present, rfl | rfl⟩ := exists_of_getElem?_bindIn found
  · exact alike.only index _ parent present enclosing merged
  · exact alike.only index old parent present enclosing merged

end Bound

/-- What is bound in scopes that correspond leaves the arenas in correspondence. -/
theorem bindIn {holder : Nat} {name : String}
    (foremost : first.Foremost roles (·.bindings.binds name) holder) {binding binding' : Binding}
    (bound : binding.Alike roles binding') :
    (first.bindIn holder name binding).Alike roles
      (second.bindIn (roles.index holder) name binding') where
  rooted := alike.rooted.bindIn ..
  rooted' := alike.rooted'.bindIn ..
  size := by rw [size_bindIn, size_bindIn, alike.size]
  fresh := by
    rw [size_bindIn]
    exact alike.fresh
  file := alike.file
  merged index := alike.merged_bindIn holder name binding
  only index new parent := alike.only_bindIn holder name binding
  scope index changed live grouped := by
    obtain ⟨scope, old, parent, kind, find⟩ := alike.group_bindIn live foremost binding grouped
    obtain ⟨scope', found', matched⟩ := alike.scope index scope live old
    refine ⟨_, getElem?_rebound (roles.index holder) name binding' found', ?_, ?_, ?_, ?_⟩
    · rw [parent_rebound, parent, matched.parent]
    · rw [parent]
      exact matched.live
    · rw [ofFunction_rebound, kind, matched.kind]
    · intro other
      rw [find, find?_rebound]
      split
      · exact .some bound
      · exact matched.bound other

omit alike in
theorem eq_of_getElem?_add {parent : Nat} {kind : Bool} (large : first.size ≤ index)
    (found : (first.add parent kind).arena[index]? = some scope) :
    index = first.size ∧ scope = { parent := some parent, ofFunction := kind } := by
  rw [getElem?_add] at found
  split at found
  case isTrue last =>
    cases found
    exact ⟨last, rfl⟩
  case isFalse => exact absurd (lt_size_of_getElem? found) (Nat.not_lt.mpr large)

omit alike in
/-- The scopes that count as one with a scope depend on it and on the scope around it. -/
theorem group_congr {first' : Scopes} {roles' : Roles}
    (here : first'.arena[index]? = first.arena[index]?)
    (around : ∀ scope parent, first.arena[index]? = some scope → scope.parent = some parent →
      roles' parent = roles parent ∧
        (roles parent = .merged → first'.arena[parent]? = first.arena[parent]?)) :
    first'.group roles' index = first.group roles index := by
  rw [group, group, here]
  refine Option.map_congr fun scope found => ?_
  cases enclosing : scope.parent with
  | none => rfl
  | some parent =>
      obtain ⟨agree, same⟩ := around scope parent found enclosing
      by_cases merged : roles parent = .merged
      · simp [Option.filter, agree, merged, same merged]
      · simp [Option.filter, agree, merged]

/-- Scopes that were made before others go on to correspond. -/
theorem before_new (sound : first.Sound false) {first' second' : Scopes} {roles' : Roles}
    (same : ∀ other < first.size, first'.arena[other]? = first.arena[other]?)
    (same' : ∀ other < second.size, second'.arena[other]? = second.arena[other]?)
    (agree : ∀ other < first.size, roles' other = roles other) (made : index < first.size)
    (live : roles'.Live index) (grouped : first'.group roles' index = some scope) :
    ∃ scope', second'.arena[roles'.index index]? = some scope' ∧
      scope.Alike roles' index scope' := by
  rw [group_congr (same index made) fun inner parent found enclosing =>
    have smaller := Nat.lt_trans (alike.rooted.parent_lt found enclosing) made
    ⟨agree parent smaller, fun _ => same parent smaller⟩] at grouped
  have live' : roles.Live index := live.of_eq (agree index made).symm
  obtain ⟨scope', found', matched⟩ := alike.scope index scope live' grouped
  have smaller : roles.index index < second.size := by
    rw [alike.size]
    exact Roles.index_lt live'.ne_merged made
  have parents : ∀ parent, scope.parent = some parent → parent < first.size :=
    fun parent enclosing => Nat.lt_trans (alike.parent_lt grouped enclosing) made
  rw [Roles.index_congr agree (Nat.le_of_lt made)]
  refine ⟨scope', (same' _ smaller).trans found', ?_, ?_, ?_, fun name => ?_⟩
  · rw [matched.parent]
    refine Option.map_congr fun parent enclosing => ?_
    exact (Roles.index_congr agree (Nat.le_of_lt (parents parent enclosing))).symm
  · intro parent enclosing
    exact (matched.live parent enclosing).of_eq (agree parent (parents parent enclosing))
  · rw [matched.kind, agree index made]
  · have bound := matched.bound name
    generalize scope'.bindings.find? name = held' at bound ⊢
    cases held : scope.bindings.find? name with
    | none =>
        rw [held] at bound
        cases bound
        exact .none
    | some binding =>
        rw [held] at bound
        cases bound with
        | some same =>
          have found : first.lookup index name = some binding := by
            rw [alike.lookup_group grouped, held, Option.some_or]
          exact .some (same.of_agree ((sound.lookup found).mono fun _ has => has.scope) agree)

/-- Arenas go on to correspond if what is new in them does. -/
theorem extend (sound : first.Sound false) {first' second' : Scopes} {roles' : Roles}
    (rooted : first'.Rooted) (rooted' : second'.Rooted)
    (same : ∀ other < first.size, first'.arena[other]? = first.arena[other]?)
    (same' : ∀ other < second.size, second'.arena[other]? = second.arena[other]?)
    (agree : ∀ other < first.size, roles' other = roles other)
    (size : second'.size = roles'.index first'.size)
    (fresh : ∀ index, first'.size ≤ index → roles' index = .kept)
    (merged : ∀ index, first.size ≤ index → roles' index = .merged → roles'.Live (index + 1) ∧
      ∃ around inner : Scope, first'.arena[index]? = some around ∧ around.ofFunction = false ∧
        first'.arena[index + 1]? = some inner ∧ inner.parent = some index)
    (only : ∀ (index : Nat) (scope : Scope) (parent : Nat), first.size ≤ index →
      first'.arena[index]? = some scope → scope.parent = some parent → roles' parent = .merged →
      index = parent + 1)
    (scope : ∀ (index : Nat) (scope : Scope), first.size ≤ index → roles'.Live index →
      first'.group roles' index = some scope →
      ∃ scope', second'.arena[roles'.index index]? = some scope' ∧
        scope.Alike roles' index scope') :
    first'.Alike roles' second' where
  rooted := rooted
  rooted' := rooted'
  size := size
  fresh := fresh
  file := by
    obtain ⟨_, present, -⟩ := alike.rooted.file
    exact alike.file.of_eq (agree _ (lt_size_of_getElem? present))
  merged index isMerged := by
    rcases Nat.lt_or_ge index first.size with old | new
    · obtain ⟨live, around, inner, foundAround, isBlock, found, enclosing⟩ :=
        alike.merged index ((agree index old).symm.trans isMerged)
      have made := lt_size_of_getElem? found
      exact ⟨live.of_eq (agree _ made), around, inner, (same index old).trans foundAround, isBlock,
        (same _ made).trans found, enclosing⟩
    · exact merged index new isMerged
  only index inner parent found enclosing isMerged := by
    rcases Nat.lt_or_ge index first.size with old | new
    · have found' := (same index old).symm.trans found
      have made := Nat.lt_trans (alike.rooted.parent_lt found' enclosing) old
      exact alike.only index inner parent found' enclosing ((agree parent made).symm.trans isMerged)
    · exact only index inner parent new found enclosing isMerged
  scope index inner live grouped := by
    rcases Nat.lt_or_ge index first.size with old | new
    · exact alike.before_new sound same same' agree old live grouped
    · exact scope index inner new live grouped

section New

variable (sound : first.Sound false) {parent : Nat} (live : roles.Live parent)
  (made : parent < first.size) {roles' : Roles}
  (agree : ∀ other < first.size, roles' other = roles other)
include sound live made agree

omit sound agree in
theorem index_lt_size : roles.index parent < second.size := by
  rw [alike.size]
  exact Roles.index_lt live.ne_merged made

/-- A scope is made in both arenas; it is dead or is made inside scopes that correspond. -/
theorem add (unmerged : roles' first.size ≠ .merged)
    (fresh : ∀ other, first.size < other → roles' other = .kept) {kind kind' : Bool}
    {parent' : Nat} (made' : parent' < second.size)
    (matched : roles'.Live first.size → parent' = roles.index parent ∧
      kind' = (kind || decide (roles' first.size = .promoted))) :
    (first.add parent kind).Alike roles' (second.add parent' kind') := by
  have size : second.size = roles'.index first.size :=
    alike.size.trans (Roles.index_congr agree (Nat.le_refl _)).symm
  have parentLive : roles'.Live parent := live.of_eq (agree parent made)
  refine alike.extend sound (alike.rooted.add made kind) (alike.rooted'.add made' kind')
    ?_ ?_ agree ?_ ?_ ?_ ?_ ?_
  · intro other old
    rw [getElem?_add, if_neg (Nat.ne_of_lt old)]
  · intro other old
    rw [getElem?_add, if_neg (Nat.ne_of_lt old)]
  · rw [size_add, size_add, Roles.index_succ unmerged, size]
  · intro other large
    rw [size_add] at large
    exact fresh other large
  · intro index large merged
    rcases Nat.lt_or_eq_of_le large with beyond | rfl
    · cases (fresh index beyond).symm.trans merged
    · exact absurd merged unmerged
  · intro index scope outer large found enclosing merged
    obtain ⟨-, rfl⟩ := eq_of_getElem?_add large found
    cases enclosing
    exact absurd merged parentLive.ne_merged
  · intro index scope large live grouped
    obtain ⟨inner, found, -⟩ := Option.map_eq_some_iff.mp grouped
    obtain ⟨rfl, rfl⟩ := eq_of_getElem?_add large found
    have alone := group_of_free roles' found fun outer enclosing =>
      Option.some.inj enclosing ▸ parentLive.ne_merged
    cases grouped.symm.trans alone
    obtain ⟨rfl, kinds⟩ := matched live
    refine ⟨_, (getElem?_add ..).trans (if_pos size.symm), ?_, ?_, kinds, fun name => .none⟩
    · exact congrArg some (Roles.index_congr agree (Nat.le_of_lt made)).symm
    · exact fun outer enclosing => Option.some.inj enclosing ▸ parentLive

/-- A block inside which a block is made counts as one with it. -/
theorem addMerged (merged : roles' first.size = .merged) (new : roles'.Live (first.size + 1))
    (fresh : ∀ other, first.size + 1 < other → roles' other = .kept) {kind kind' : Bool}
    (kinds : kind' = (kind || decide (roles' (first.size + 1) = .promoted))) :
    ((first.add parent false).add first.size kind).Alike roles'
      (second.add (roles.index parent) kind') := by
  have size : second.size = roles'.index first.size :=
    alike.size.trans (Roles.index_congr agree (Nat.le_refl _)).symm
  have parentLive : roles'.Live parent := live.of_eq (agree parent made)
  have rooted := alike.rooted.add made false
  have between : first.size < (first.add parent false).size := by simp
  have found : ((first.add parent false).add first.size kind).arena[first.size]? =
      some { parent := some parent } := by
    rw [getElem?_add, if_neg (Nat.ne_of_lt between), getElem?_add, if_pos rfl]
  have found' : ((first.add parent false).add first.size kind).arena[first.size + 1]? =
      some { parent := some first.size, ofFunction := kind } := by
    rw [getElem?_add, if_pos (size_add ..).symm]
  refine alike.extend sound (rooted.add between kind)
    (alike.rooted'.add (alike.index_lt_size live made) kind') ?_ ?_ agree ?_ ?_ ?_ ?_ ?_
  · intro other old
    rw [getElem?_add, if_neg (Nat.ne_of_lt (Nat.lt_trans old between)), getElem?_add,
      if_neg (Nat.ne_of_lt old)]
  · intro other old
    rw [getElem?_add, if_neg (Nat.ne_of_lt old)]
  · rw [size_add, size_add, size_add, Roles.index_succ new.ne_merged,
      Roles.index_succ_of_merged merged, size]
  · intro other large
    rw [size_add, size_add] at large
    exact fresh other large
  · intro index large isMerged
    obtain rfl : index = first.size := by
      by_contra other
      rcases Nat.lt_or_eq_of_le (Nat.lt_of_le_of_ne large (Ne.symm other)) with beyond | rfl
      · cases (fresh index beyond).symm.trans isMerged
      · exact new.ne_merged isMerged
    exact ⟨new, _, _, found, rfl, found', rfl⟩
  · intro index scope outer large present enclosing isMerged
    rcases Nat.lt_or_eq_of_le large with beyond | rfl
    · obtain ⟨rfl, rfl⟩ := eq_of_getElem?_add (by rwa [size_add]) present
      cases enclosing
      exact size_add ..
    · cases found.symm.trans present
      cases enclosing
      exact absurd isMerged parentLive.ne_merged
  · intro index scope large live grouped
    obtain ⟨inner, present, -⟩ := Option.map_eq_some_iff.mp grouped
    rcases Nat.lt_or_eq_of_le large with beyond | rfl
    · obtain ⟨rfl, rfl⟩ := eq_of_getElem?_add (by rwa [size_add]) present
      rw [size_add] at grouped ⊢
      cases grouped.symm.trans (group_of_merged roles' found' rfl merged found)
      refine ⟨_, (getElem?_add ..).trans (if_pos ?_), ?_, ?_, kinds, fun name => .none⟩
      · rw [Roles.index_succ_of_merged merged, size]
      · exact congrArg some (Roles.index_congr agree (Nat.le_of_lt made)).symm
      · exact fun outer enclosing => Option.some.inj enclosing ▸ parentLive
    · exact absurd merged live.ne_merged

omit agree in
/-- A scope that is made in both arenas inside scopes that correspond is kept. -/
theorem addKept (kind : Bool) :
    (first.add parent kind).Alike roles (second.add (roles.index parent) kind) := by
  have kept := alike.fresh first.size (Nat.le_refl _)
  refine alike.add sound live made (fun _ _ => rfl) (by simp [kept])
    (fun other large => alike.fresh other (Nat.le_of_lt large)) (alike.index_lt_size live made) ?_
  intro _
  exact ⟨rfl, by simp [kept]⟩

end New

/-! ### Dead scopes -/

section Dead

variable {holder : Nat} (dead : roles holder = .dead) (name : String) (binding : Binding)
include dead

/-- What is bound in a dead scope of the first arena does not matter. -/
theorem bindIn_dead : (first.bindIn holder name binding).Alike roles second where
  rooted := alike.rooted.bindIn ..
  rooted' := alike.rooted'
  size := by rw [size_bindIn, alike.size]
  fresh := by
    rw [size_bindIn]
    exact alike.fresh
  file := alike.file
  merged index := alike.merged_bindIn holder name binding
  only index new parent := alike.only_bindIn holder name binding
  scope index scope live grouped := by
    refine alike.scope index scope live ((group_congr ?_ ?_).symm.trans grouped)
    · rw [getElem?_bindIn, if_neg]
      rintro rfl
      exact live.ne_dead dead
    · refine fun _ parent _ _ => ⟨rfl, fun merged => ?_⟩
      rw [getElem?_bindIn, if_neg]
      rintro rfl
      cases merged.symm.trans dead

/-- What is bound in a dead scope of the second arena does not matter. -/
theorem bindIn_dead' : first.Alike roles (second.bindIn (roles.index holder) name binding) :=
  { alike with
    rooted' := alike.rooted'.bindIn ..
    size := by rw [size_bindIn, alike.size]
    scope := fun index scope live grouped => by
      obtain ⟨scope', found', matched⟩ := alike.scope index scope live grouped
      refine ⟨scope', ?_, matched⟩
      have unmerged : roles holder ≠ .merged := by simp [dead]
      rw [getElem?_bindIn, if_neg, found']
      rw [Roles.index_inj unmerged live.ne_merged]
      rintro rfl
      exact live.ne_dead dead }

end Dead

/-! ### Changes through names -/

section Named

variable (live : roles.Live index) (made : index < first.size)
include live made

theorem assign (name : String) {binding binding' : Binding}
    (bound : binding.Alike roles binding') :
    (first.assign index name binding).Alike roles
      (second.assign (roles.index index) name binding') := by
  obtain ⟨same, foremost⟩ := alike.owner live made name
  rw [Scopes.assign, Scopes.assign, same]
  exact alike.bindIn foremost bound

theorem declare {hoisted : Bool} (settled : hoisted = true → first.Settled roles index)
    (name : String) {binding binding' : Binding} (bound : binding.Alike roles binding') :
    (first.declare index hoisted name binding).Alike roles
      (second.declare (roles.index index) hoisted name binding') := by
  cases hoisted with
  | false => exact alike.bindIn (.inl live) bound
  | true =>
      obtain ⟨same, outer⟩ := alike.functionScope live made (settled rfl)
      rw [Scopes.declare, Scopes.declare, if_pos rfl, if_pos rfl, same]
      exact alike.bindIn (.inl outer) bound

theorem declareAll {hoisted : Bool} (settled : hoisted = true → first.Settled roles index)
    (names : List String) {binding binding' : Binding} (bound : binding.Alike roles binding') :
    (first.declareAll index hoisted binding names).Alike roles
      (second.declareAll (roles.index index) hoisted binding' names) := by
  induction names generalizing first second with
  | nil => exact alike
  | cons name rest ih =>
      refine ih (alike.declare live made settled name bound) ?_ fun isHoisted => ?_
      · rwa [Scopes.declare, size_bindIn]
      · exact Settled.bindIn (settled isHoisted) _ name binding

omit made

theorem hoist (statements : List Statement) :
    (first.hoist index statements).Alike roles (second.hoist (roles.index index) statements) := by
  unfold Scopes.hoist
  generalize statements.filterMap Statement.hoisted? = functions
  induction functions generalizing first second with
  | nil => exact alike
  | cons entry rest ih =>
      exact ih (alike.bindIn (.inl live) (.callback ⟨rfl, live, rfl⟩))

theorem bindParameters (targets : List Target) {arguments arguments' : List Binding}
    (given : List.Forall₂ (Binding.Alike roles) arguments arguments') :
    (first.bindParameters index targets arguments).Alike roles
      (second.bindParameters (roles.index index) targets arguments') := by
  induction targets generalizing first second arguments arguments' with
  | nil => exact alike
  | cons target rest ih =>
      have others : List.Forall₂ (Binding.Alike roles) arguments.tail arguments'.tail := by
        cases given with
        | nil => exact .nil
        | cons _ later => exact later
      have head : (arguments.head?.getD .unknown).Alike roles
          (arguments'.head?.getD .unknown) := by
        cases given with
        | nil => exact .unknown
        | cons here _ => exact here
      cases target with
      | name name => exact ih (alike.bindIn (.inl live) head) others
      | other parts => exact ih alike others

end Named

end Alike

/-! ## Orders of changes -/

theorem ext_getElem? {first second : Scopes}
    (same : ∀ index : Nat, first.arena[index]? = second.arena[index]?) : first = second :=
  congrArg Scopes.mk (Array.ext_getElem? same)

/-- It makes no difference whether a name is bound before or after a scope is made. -/
theorem bindIn_add {index : Nat} (made : index < scopes.size) (name : String) (binding : Binding)
    (parent : Nat) (ofFunction : Bool) :
    (scopes.bindIn index name binding).add parent ofFunction =
      (scopes.add parent ofFunction).bindIn index name binding := by
  refine ext_getElem? fun other => ?_
  simp only [getElem?_add, getElem?_bindIn, size_bindIn]
  by_cases last : other = scopes.size
  · simp [last, Nat.ne_of_lt made]
  · simp [last]

/-- It makes no difference in which order names are bound in two scopes. -/
theorem bindIn_comm {index other : Nat} (apart : index ≠ other) (name name' : String)
    (binding binding' : Binding) :
    (scopes.bindIn index name binding).bindIn other name' binding' =
      (scopes.bindIn other name' binding').bindIn index name binding := by
  refine ext_getElem? fun place => ?_
  simp only [getElem?_bindIn]
  by_cases here : index = place
  · have elsewhere : other ≠ place := fun same => apart (here.trans same.symm)
    simp [here, elsewhere]
  · simp [here]

theorem bindIn_hoist {index other : Nat} (apart : index ≠ other) (name : String)
    (binding : Binding) (statements : List Statement) :
    (scopes.bindIn index name binding).hoist other statements =
      (scopes.hoist other statements).bindIn index name binding := by
  unfold hoist
  generalize statements.filterMap Statement.hoisted? = functions
  induction functions generalizing scopes with
  | nil => rfl
  | cons entry rest ih =>
      rw [bindFunctions, bindFunctions, bindIn_comm apart, ih]

/-- To hoist functions does not bind any other name. -/
theorem find?_hoist {index : Nat} {name : String} {statements : List Statement}
    (free : ∀ function ∈ statements.filterMap Statement.hoisted?, function.1 ≠ name) {place : Nat}
    {scope : Scope} (found : (scopes.hoist index statements).arena[place]? = some scope) :
    ∃ old : Scope, scopes.arena[place]? = some old ∧
      scope.bindings.find? name = old.bindings.find? name := by
  unfold hoist at found
  generalize statements.filterMap Statement.hoisted? = functions at free found
  induction functions generalizing scopes with
  | nil => exact ⟨scope, found, rfl⟩
  | cons entry rest ih =>
      obtain ⟨here, later⟩ := List.forall_mem_cons.mp free
      obtain ⟨between, present, same⟩ := ih later found
      obtain ⟨old, before, rfl | rfl⟩ := exists_of_getElem?_bindIn present
      · exact ⟨_, before, same⟩
      · refine ⟨old, before, same.trans ?_⟩
        rw [Bindings.find?_bind, if_neg here]

/-! ## Scopes that bind an item -/

namespace Alike

variable (alike : first.Alike roles second)
include alike

theorem index_size {roles' : Roles} (agree : ∀ other < first.size, roles' other = roles other) :
    roles'.index first.size = second.size :=
  (Roles.index_congr agree (Nat.le_refl _)).trans alike.size.symm

theorem hoist_dead {holder : Nat} (dead : roles holder = .dead) (statements : List Statement) :
    first.Alike roles (second.hoist (roles.index holder) statements) := by
  unfold Scopes.hoist
  generalize statements.filterMap Statement.hoisted? = functions
  induction functions generalizing second with
  | nil => exact alike
  | cons entry rest ih => exact ih (alike.bindIn_dead' dead _ _)

variable (sound : first.Sound false) {parent : Nat} (live : roles.Live parent)
  (made : parent < first.size) (name : String) (value : Value)
include sound live made

/-- The scope of a pass corresponds to one block or function that binds the item. -/
theorem enter {role : Role} (isLive : role = .kept ∨ role = .promoted) :
    let roles' : Roles := Function.update roles first.size role
    ((first.add parent false).bindIn first.size name (.value value)).Alike roles'
      ((second.add (roles.index parent) (decide (role = .promoted))).bindIn second.size name
        (.value value)) := by
  intro roles'
  have agree : ∀ other < first.size, roles' other = roles other :=
    fun other old => Function.update_of_ne (Nat.ne_of_lt old) role roles
  have new : roles' first.size = role := Function.update_self ..
  have newLive : roles'.Live first.size := by rwa [Roles.Live, new]
  have added : (first.add parent false).Alike roles'
      (second.add (roles.index parent) (decide (role = .promoted))) := by
    refine alike.add sound live made agree newLive.ne_merged (fun other beyond => ?_)
      (alike.index_lt_size live made) fun _ => ⟨rfl, by simp [new]⟩
    exact (Function.update_of_ne (Nat.ne_of_gt beyond) role roles).trans
      (alike.fresh other (Nat.le_of_lt beyond))
  rw [← alike.index_size agree]
  exact added.bindIn (.inl newLive) (.value value)

/-- Passes correspond whatever is bound in their scopes, if nothing refers to these any more. -/
theorem enterDead {parent' : Nat} (made' : parent' < second.size) (kind' : Bool) :
    let roles' : Roles := Function.update roles first.size .dead
    roles'.index first.size = second.size ∧ roles' first.size = .dead ∧
      ((first.add parent false).bindIn first.size name (.value value)).Alike roles'
        (second.add parent' kind') := by
  intro roles'
  have agree : ∀ other < first.size, roles' other = roles other :=
    fun other old => Function.update_of_ne (Nat.ne_of_lt old) .dead roles
  have dead : roles' first.size = .dead := Function.update_self ..
  have added : (first.add parent false).Alike roles' (second.add parent' kind') := by
    refine alike.add sound live made agree (by simp [dead]) (fun other beyond => ?_) made' ?_
    · exact (Function.update_of_ne (Nat.ne_of_gt beyond) .dead roles).trans
        (alike.fresh other (Nat.le_of_lt beyond))
    · exact fun isLive => absurd dead isLive.ne_dead
  exact ⟨alike.index_size agree, dead, added.bindIn_dead dead name (.value value)⟩

/-- A block inside a pass corresponds to one scope that binds the item, before or after. -/
theorem enterMerged {role : Role} (isLive : role = .kept ∨ role = .promoted)
    (statements : List Statement) :
    let roles' : Roles := roles.merge first.size role
    let inside := (((first.add parent false).bindIn first.size name (.value value)).add first.size
      false).hoist (first.size + 1) statements
    let opened := second.add (roles.index parent) (decide (role = .promoted))
    inside.Alike roles' ((opened.bindIn second.size name (.value value)).hoist second.size
        statements) ∧
      ((∀ function ∈ statements.filterMap Statement.hoisted?, function.1 ≠ name) →
        inside.Alike roles' ((opened.hoist second.size statements).bindIn second.size name
          (.value value))) := by
  intro roles' inside opened
  have agree : ∀ other < first.size, roles' other = roles other :=
    fun other old => roles.merge_of_lt _ role old
  have merged : roles' first.size = .merged := roles.merge_outer ..
  have new : roles' (first.size + 1) = role := roles.merge_inner ..
  have newLive : roles'.Live (first.size + 1) := by rwa [Roles.Live, new]
  have index : roles'.index first.size = second.size := alike.index_size agree
  have index' : roles'.index (first.size + 1) = second.size :=
    (Roles.index_succ_of_merged merged).trans index
  have base : ((first.add parent false).add first.size false).Alike roles' opened := by
    refine alike.addMerged sound live made agree merged newLive (fun other beyond => ?_)
      (by simp [new])
    exact (roles.merge_of_gt _ role beyond).trans (alike.fresh other (by omega))
  -- The item could as well be bound once both scopes have been made.
  have commuted : inside = (((first.add parent false).add first.size false).bindIn first.size name
      (.value value)).hoist (first.size + 1) statements :=
    congrArg (Scopes.hoist · _ _) (bindIn_add (by simp) ..)
  rw [commuted]
  have empty (inner : Scope) (found : ((first.add parent false).add first.size false).arena[
      first.size + 1]? = some inner) : inner.bindings.find? name = none := by
    obtain ⟨-, rfl⟩ := eq_of_getElem?_add (Nat.le_of_eq (size_add ..)) found
    rfl
  constructor
  · have foremost : Foremost roles' ((first.add parent false).add first.size false)
        (·.bindings.binds name) first.size :=
      .inr ⟨merged, fun inner found => congrArg Option.isSome (empty inner found)⟩
    have bound := (base.bindIn foremost (.value value)).hoist newLive statements
    rwa [index, index'] at bound
  · intro free
    rw [bindIn_hoist (Nat.ne_of_lt (Nat.lt_succ_self _))]
    have foremost : Foremost roles'
        (((first.add parent false).add first.size false).hoist (first.size + 1) statements)
        (·.bindings.binds name) first.size := by
      refine .inr ⟨merged, fun inner found => ?_⟩
      obtain ⟨old, before, same⟩ := find?_hoist free found
      exact congrArg Option.isSome (same.trans (empty old before))
    have bound := (base.hoist newLive statements).bindIn foremost (.value value)
    rwa [index, index'] at bound

end Alike

end Scopes

end TestInventory
