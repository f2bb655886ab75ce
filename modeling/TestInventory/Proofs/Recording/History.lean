import TestInventory.Proofs.Recording.Declarations

/-!
# The tree that any insertions leave

Declarations may be inserted under any routes, open or not.  The tree then has a node
for every level that some declaration passes through or ends at.  A node keeps what was
declared last at its path, except that a leaf becomes a marker when a declaration
passes through it for the first time.
-/

namespace TestInventory

namespace Declaration

/-- Whether a declaration is made below a path, so that its route passes through it. -/
def Passes (declaration : Declaration) (path : List String) : Prop :=
  path ≠ [] ∧ path <+: declaration.route

instance (declaration : Declaration) (path : List String) : Decidable (declaration.Passes path) :=
  inferInstanceAs (Decidable (_ ∧ _))

/-- The name that a declaration passes through or ends at on the level below a path. -/
def nameBelow? (declaration : Declaration) (path : List String) : Option String :=
  if path <+: declaration.route then declaration.path[path.length]? else none

/-- The names on the level below a path, in the order in which they were first reached. -/
def namesBelow (made : List Declaration) (path : List String) : List String :=
  (made.filterMap (·.nameBelow? path)).eraseDups

/--
Whether what was declared last at a path is lost: a test or hook, with a later
declaration that is the first of all to pass through the path.
-/
def Displaced (made : List Declaration) (path : List String) : Prop :=
  ∃ early last late, made = early ++ last :: late ∧
    last.path = path ∧ last.record.kind.isLeaf = true ∧
    (∀ declaration ∈ late, declaration.path ≠ path) ∧
    (∀ declaration ∈ early, ¬ declaration.Passes path) ∧
    ∃ declaration ∈ late, declaration.Passes path

variable {made : List Declaration} {declaration : Declaration} {path : List String}

theorem Displaced.passed (displaced : Displaced made path) :
    ∃ declaration ∈ made, declaration.Passes path := by
  obtain ⟨early, last, late, rfl, -, -, -, -, first, member, passes⟩ := displaced
  exact ⟨first, List.mem_append_right _ (List.mem_cons_of_mem _ member), passes⟩

/-- A declaration does not pass through its own path. -/
theorem Passes.path_ne (passes : declaration.Passes path) : declaration.path ≠ path := by
  rintro rfl
  have bound := passes.2.length_le
  rw [Declaration.path, List.length_append, List.length_singleton] at bound
  omega

/-- What leads to a declaration is its own path or one that it passes through. -/
theorem prefix_path_iff (nonempty : path ≠ []) :
    path <+: declaration.path ↔ declaration.path = path ∨ declaration.Passes path := by
  rw [Declaration.path, List.prefix_concat_iff, Passes, eq_comm]
  exact or_congr_right (iff_and_self.mpr fun _ => nonempty)

theorem isSome_nameBelow?_iff :
    (declaration.nameBelow? path).isSome ↔ path <+: declaration.route := by
  unfold nameBelow?
  split
  case isTrue passes =>
    have bound := passes.length_le
    simp [Declaration.path, passes, Nat.lt_succ_of_le bound]
  case isFalse apart => simp [apart]

/-- A declaration adds a name below a path if it is the first to reach that name. -/
theorem namesBelow_concat (made : List Declaration) (declaration : Declaration)
    (path : List String) :
    namesBelow (made ++ [declaration]) path =
      match declaration.nameBelow? path with
      | some name =>
        if name ∈ namesBelow made path then namesBelow made path
        else namesBelow made path ++ [name]
      | none => namesBelow made path := by
  cases reached : declaration.nameBelow? path with
  | none => simp [namesBelow, List.filterMap_append, reached]
  | some name =>
      simp only [namesBelow, List.filterMap_append, List.filterMap_cons, List.filterMap_nil,
        reached, eraseDups_concat, List.mem_eraseDups]

/-- Nothing stands below a path exactly if no declaration goes on from there. -/
theorem namesBelow_eq_nil_iff :
    namesBelow made path = [] ↔ ∀ declaration ∈ made, ¬ path <+: declaration.route := by
  simp only [List.eq_nil_iff_forall_not_mem, namesBelow, List.mem_eraseDups, List.mem_filterMap,
    not_exists, not_and]
  constructor
  · intro none declaration member passes
    obtain ⟨name, reached⟩ := Option.isSome_iff_exists.mp (isSome_nameBelow?_iff.mpr passes)
    exact none name declaration member reached
  · intro apart name declaration member reached
    exact apart declaration member
      (isSome_nameBelow?_iff.mp (Option.isSome_iff_exists.mpr ⟨name, reached⟩))

/-- A list with one more element is split at that element or before it. -/
theorem concat_eq_split_iff {α : Type} {made early late : List α} {final last : α} :
    made ++ [final] = early ++ last :: late ↔
      (made = early ∧ final = last ∧ late = []) ∨
        ∃ shorter, late = shorter ++ [final] ∧ made = early ++ last :: shorter := by
  rcases late.eq_nil_or_concat' with rfl | ⟨shorter, other, rfl⟩
  · simp
  · rw [← List.cons_append, ← List.append_assoc, ← List.concat_eq_append, ← List.concat_eq_append,
      List.concat_inj]
    constructor
    · rintro ⟨rfl, rfl⟩
      exact .inr ⟨shorter, rfl, rfl⟩
    · rintro (⟨-, -, none⟩ | ⟨_, same, rfl⟩)
      · simp at none
      · obtain ⟨rfl, last⟩ := List.append_inj' same rfl
        exact ⟨rfl, (List.singleton_inj.mp last).symm⟩

/-- What was declared last at a path has nothing at that path behind it. -/
theorem lastAt?_eq_some_iff {record : Record} :
    lastAt? made path = some record ↔
      ∃ early last late, made = early ++ last :: late ∧ last.path = path ∧
        last.record = record ∧ ∀ declaration ∈ late, declaration.path ≠ path := by
  induction made using List.reverseRecOn with
  | nil => simp [lastAt?]
  | append_singleton made declaration ih =>
      rw [lastAt?_concat]
      split
      case isTrue here =>
        constructor
        · rintro ⟨⟩
          exact ⟨made, declaration, [], rfl, here.symm, rfl, List.forall_mem_nil _⟩
        · rintro ⟨early, last, late, split, _, rfl, later⟩
          rcases concat_eq_split_iff.mp split with ⟨-, rfl, -⟩ | ⟨shorter, rfl, -⟩
          · rfl
          · exact absurd here.symm (later declaration (by simp))
      case isFalse apart =>
        rw [ih]
        constructor
        · rintro ⟨early, last, late, rfl, there, same, later⟩
          refine ⟨early, last, late ++ [declaration], by simp, there, same, ?_⟩
          exact List.forall_mem_append.mpr ⟨later, List.forall_mem_singleton.mpr (Ne.symm apart)⟩
        · rintro ⟨early, last, late, split, there, same, later⟩
          rcases concat_eq_split_iff.mp split with ⟨-, rfl, -⟩ | ⟨shorter, rfl, rfl⟩
          · exact absurd there.symm apart
          · exact ⟨early, last, shorter, rfl, there, same, (List.forall_mem_append.mp later).1⟩

/-- A declaration displaces a leaf if it is the first to pass through it. -/
theorem displaced_concat :
    Displaced (made ++ [declaration]) path ↔
      declaration.path ≠ path ∧
        (Displaced made path ∨
          declaration.Passes path ∧ (∀ other ∈ made, ¬ other.Passes path) ∧
            ∃ record, lastAt? made path = some record ∧ record.kind.isLeaf = true) := by
  constructor
  · rintro ⟨early, last, late, split, there, leaf, later, unpassed, first, member, passes⟩
    rcases concat_eq_split_iff.mp split with ⟨-, -, rfl⟩ | ⟨shorter, rfl, rfl⟩
    · cases member
    · obtain ⟨later, apart⟩ := List.forall_mem_append.mp later
      refine ⟨apart declaration List.mem_cons_self, ?_⟩
      by_cases before : ∃ other ∈ shorter, other.Passes path
      · exact .inl ⟨early, last, shorter, rfl, there, leaf, later, unpassed, before⟩
      · have unpassedLater : ∀ other ∈ shorter, ¬ other.Passes path :=
          fun other member passes => before ⟨other, member, passes⟩
        have final : first = declaration := by
          rcases List.mem_append.mp member with inside | final
          · exact absurd passes (unpassedLater first inside)
          · exact List.mem_singleton.mp final
        refine .inr ⟨final ▸ passes, ?_, last.record, ?_, leaf⟩
        · refine List.forall_mem_append.mpr ⟨unpassed, List.forall_mem_cons.mpr ⟨?_, unpassedLater⟩⟩
          exact fun passes => passes.path_ne there
        · exact lastAt?_eq_some_iff.mpr ⟨early, last, shorter, rfl, there, rfl, later⟩
  · rintro ⟨apart, ⟨early, last, late, rfl, there, leaf, later, unpassed, first, member, passes⟩ |
      ⟨passes, unpassed, record, found, leaf⟩⟩
    · refine ⟨early, last, late ++ [declaration], by simp, there, leaf, ?_, unpassed, first, ?_, passes⟩
      · exact List.forall_mem_append.mpr ⟨later, List.forall_mem_singleton.mpr apart⟩
      · exact List.mem_append_left _ member
    · obtain ⟨early, last, late, rfl, there, rfl, later⟩ := lastAt?_eq_some_iff.mp found
      refine ⟨early, last, late ++ [declaration], by simp, there, leaf, ?_, ?_, declaration, ?_, passes⟩
      · exact List.forall_mem_append.mpr ⟨later, List.forall_mem_singleton.mpr apart⟩
      · exact (List.forall_mem_append.mp unpassed).1
      · exact List.mem_append_right _ List.mem_cons_self

end Declaration

/-! ## One insertion -/

namespace Tree

/-- Insert a declaration. -/
def add (tree : Tree) (declaration : Declaration) : Tree :=
  tree.insert declaration.route declaration.name declaration.record

/-- A level through which a route passes keeps what stands below it. -/
theorem snd_levelOf (tree : Tree) (segment : String) :
    (levelOf (tree.find? segment)).2 = tree.levelAt [segment] := by
  rw [levelAt]
  cases tree.find? segment with
  | none => rfl
  | some found =>
      obtain ⟨record, children⟩ := found
      cases children with
      | empty => simp only [levelOf, levelAt, apply_ite Prod.snd, ite_self]
      | entry => simp [levelOf, isEmpty, levelAt]

theorem levelAt_cons (tree : Tree) (segment : String) (path : List String) :
    tree.levelAt (segment :: path) = (tree.levelAt [segment]).levelAt path := by
  rw [levelAt, levelAt]
  cases tree.find? segment with
  | none => exact (levelAt_empty path).symm
  | some found => rfl

theorem lookup?_cons (tree : Tree) (segment : String) {path : List String} (below : path ≠ []) :
    tree.lookup? (segment :: path) = (tree.levelAt [segment]).lookup? path := by
  rw [levelAt]
  cases found : tree.find? segment with
  | none =>
      obtain ⟨next, rest, rfl⟩ := List.exists_cons_of_ne_nil below
      rw [lookup?_cons_cons, found]
      exact (lookup?_empty _).symm
  | some found => exact lookup?_of_find? found below

/-- What stands at a path with what stands below it. -/
def nodeAt? (tree : Tree) (path : List String) : Option (Record × Tree) :=
  (tree.lookup? path).map (·, tree.levelAt path)

theorem nodeAt?_singleton (tree : Tree) (name : String) : tree.nodeAt? [name] = tree.find? name := by
  rw [nodeAt?, lookup?, levelAt]
  cases tree.find? name <;> rfl

/-- A leaf with nothing below it, and a level that is missing, become a marker. -/
theorem fst_levelOf_nodeAt? (tree : Tree) (path : List String) :
    (levelOf (tree.nodeAt? path)).1 =
      match tree.lookup? path with
      | some record =>
        if record.kind.isLeaf && (tree.levelAt path).isEmpty then .marker else record
      | none => .marker := by
  rw [nodeAt?]
  cases tree.lookup? path with
  | none => rfl
  | some record => exact apply_ite Prod.fst _ _ _

theorem nodeAt?_cons (tree : Tree) (segment : String) {path : List String} (below : path ≠ []) :
    tree.nodeAt? (segment :: path) = (tree.levelAt [segment]).nodeAt? path := by
  rw [nodeAt?, nodeAt?, lookup?_cons tree segment below, levelAt_cons]

section

variable (tree : Tree) (segment : String) (route : List String) (name : String) (record : Record)

/-- Below its first level a declaration is inserted under the rest of its route. -/
theorem levelAt_insert_self :
    (tree.insert (segment :: route) name record).levelAt [segment] =
      (tree.levelAt [segment]).insert route name record := by
  rw [insert, levelAt, find?_alter, if_pos rfl, ← snd_levelOf]
  rfl

/-- Below other names a declaration changes nothing. -/
theorem levelAt_insert_of_ne {here : String} (apart : here ≠ segment) :
    (tree.insert (segment :: route) name record).levelAt [here] = tree.levelAt [here] := by
  rw [insert, levelAt, levelAt, find?_alter, if_neg apart]

end

/--
Inserting a declaration replaces the record at its own path, and turns what it passes
through into a level.
-/
theorem lookup?_add (tree : Tree) (declaration : Declaration) (path : List String) :
    (tree.add declaration).lookup? path =
      if path = declaration.path then some declaration.record
      else if declaration.Passes path then some (levelOf (tree.nodeAt? path)).1
      else tree.lookup? path := by
  obtain ⟨route, name, record⟩ := declaration
  simp only [add, Declaration.path, Declaration.Passes]
  induction route generalizing tree path with
  | nil =>
      match path with
      | [] => rfl
      | [here] =>
          by_cases same : here = name
          · simp [insert, lookup?, find?_alter, same]
          · simp [insert, lookup?, find?_alter, same]
      | here :: next :: rest =>
          rw [insert, lookup?_cons_cons, lookup?_cons_cons, find?_alter]
          by_cases same : here = name
          · cases present : tree.find? name <;> simp [same, present]
          · simp [same]
  | cons segment route ih =>
      match path with
      | [] => rfl
      | [here] =>
          by_cases same : here = segment
          · simp [insert, lookup?, find?_alter, same, nodeAt?_singleton]
          · simp [insert, lookup?, find?_alter, same]
      | here :: next :: rest =>
          have below : next :: rest ≠ [] := List.cons_ne_nil _ _
          rw [lookup?_cons _ here below, lookup?_cons _ here below]
          by_cases same : here = segment
          · subst same
            rw [levelAt_insert_self, ih, nodeAt?_cons tree here below]
            simp
          · rw [levelAt_insert_of_ne tree segment route name record same]
            simp [same]

/-- Inserting a declaration adds the names that it reaches first behind their siblings. -/
theorem names_levelAt_add (tree : Tree) (declaration : Declaration) (path : List String) :
    ((tree.add declaration).levelAt path).names =
      match declaration.nameBelow? path with
      | some name =>
        if name ∈ (tree.levelAt path).names then (tree.levelAt path).names
        else (tree.levelAt path).names ++ [name]
      | none => (tree.levelAt path).names := by
  obtain ⟨route, name, record⟩ := declaration
  simp only [add, Declaration.nameBelow?, Declaration.path]
  induction route generalizing tree path with
  | nil =>
      cases path with
      | nil => by_cases present : name ∈ tree.names <;> simp [insert, levelAt, names_alter, present]
      | cons here rest =>
          simp only [insert, levelAt, find?_alter]
          by_cases same : here = name
          · cases present : tree.find? name <;> simp [same, present]
          · simp [same]
  | cons segment route ih =>
      cases path with
      | nil => by_cases present : segment ∈ tree.names <;> simp [insert, levelAt, names_alter, present]
      | cons here rest =>
          rw [levelAt_cons, levelAt_cons tree]
          by_cases same : here = segment
          · subst same
            rw [levelAt_insert_self, ih]
            simp
          · rw [levelAt_insert_of_ne tree segment route name record same]
            simp [same]

/-! ## Any insertions -/

/--
Whether a tree is what is left by declarations: their levels are there, in the order in
which they were first reached, and hold what was declared last or a marker.
-/
structure Reflects (tree : Tree) (made : List Declaration) : Prop where
  present : ∀ path, (tree.lookup? path).isSome ↔
    path ≠ [] ∧ ∃ declaration ∈ made, path <+: declaration.path
  names : ∀ path, (tree.levelAt path).names = Declaration.namesBelow made path
  kept : ∀ path record, Declaration.lastAt? made path = some record →
    ¬ Declaration.Displaced made path → tree.lookup? path = some record
  marked : ∀ path, (tree.lookup? path).isSome →
    Declaration.lastAt? made path = none ∨ Declaration.Displaced made path →
      tree.lookup? path = some .marker

namespace Reflects

variable {tree : Tree} {made : List Declaration}

/-- Nothing has been inserted into an empty tree. -/
theorem start : Reflects .empty [] where
  present path := by simp
  names path := by simp [Tree.names, Declaration.namesBelow]
  kept path record last := by cases last
  marked path present := by simp at present

/-- Nothing stands below what no declaration has passed through. -/
theorem isEmpty_levelAt (reflects : tree.Reflects made) (path : List String) :
    (tree.levelAt path).isEmpty = true ↔ ∀ other ∈ made, ¬ path <+: other.route := by
  rw [← Declaration.namesBelow_eq_nil_iff, ← reflects.names]
  cases tree.levelAt path <;> simp [isEmpty, Tree.names]

/-- A marker stays a marker when something passes through it. -/
theorem levelOf_marked {path : List String}
    (marked : ∀ record, tree.lookup? path = some record → record = .marker) :
    (levelOf (tree.nodeAt? path)).1 = .marker := by
  rw [fst_levelOf_nodeAt?]
  cases found : tree.lookup? path with
  | none => rfl
  | some record =>
      cases marked record found
      rfl

/-- A leaf is displaced by the first that passes through it, and only by that. -/
theorem levelOf_kept (reflects : tree.Reflects made) {path : List String} {record : Record}
    (found : tree.lookup? path = some record) (nonempty : path ≠ []) :
    (levelOf (tree.nodeAt? path)).1 =
      if record.kind.isLeaf = true ∧ ∀ other ∈ made, ¬ other.Passes path then .marker
      else record := by
  have below : (tree.levelAt path).isEmpty = true ↔ ∀ other ∈ made, ¬ other.Passes path := by
    simp only [reflects.isEmpty_levelAt, Declaration.Passes, nonempty, ne_eq, not_false_iff,
      true_and]
  simp only [fst_levelOf_nodeAt?, found, Bool.and_eq_true, below]

/-- One more declaration is inserted. -/
theorem add (reflects : tree.Reflects made) (declaration : Declaration) :
    (tree.add declaration).Reflects (made ++ [declaration]) where
  present path := by
    rw [lookup?_add]
    by_cases nonempty : path = []
    · subst nonempty
      simp [lookup?, Declaration.path, Declaration.Passes]
    · have reached := reflects.present path
      simp only [List.mem_append, List.mem_singleton, or_and_right, exists_or, exists_eq_left,
        Declaration.prefix_path_iff nonempty, ne_eq, nonempty, not_false_iff, true_and]
        at reached ⊢
      by_cases here : path = declaration.path
      · simp [here]
      · by_cases passes : declaration.Passes path
        · simp [here, passes]
        · simp [here, passes, Ne.symm here, reached]
  names path := by
    rw [names_levelAt_add, Declaration.namesBelow_concat, reflects.names]
  kept path record last kept := by
    rw [Declaration.displaced_concat] at kept
    rw [Declaration.lastAt?_concat] at last
    rw [lookup?_add]
    by_cases here : path = declaration.path
    · rwa [if_pos here] at last ⊢
    · rw [if_neg here] at last ⊢
      have apart : declaration.path ≠ path := Ne.symm here
      have found := reflects.kept path record last fun displaced => kept ⟨apart, .inl displaced⟩
      split
      case isTrue passes =>
        rw [reflects.levelOf_kept found passes.1, if_neg]
        rintro ⟨leaf, unpassed⟩
        exact kept ⟨apart, .inr ⟨passes, unpassed, record, last, leaf⟩⟩
      case isFalse => exact found
  marked path present lost := by
    rw [Declaration.displaced_concat] at lost
    rw [Declaration.lastAt?_concat] at lost
    rw [lookup?_add] at present ⊢
    by_cases here : path = declaration.path
    · simp [here] at lost
    · rw [if_neg here] at lost present ⊢
      split
      case isTrue passes =>
        rcases lost with none | ⟨-, displaced | ⟨-, unpassed, record, last, leaf⟩⟩
        · exact congrArg some (levelOf_marked fun record found =>
            Option.some.inj (found.symm.trans (reflects.marked path (by simp [found]) (.inl none))))
        · exact congrArg some (levelOf_marked fun record found => Option.some.inj
            (found.symm.trans (reflects.marked path (by simp [found]) (.inr displaced))))
        · have found := reflects.kept path record last fun displaced => by
            obtain ⟨other, member, passes⟩ := displaced.passed
            exact unpassed other member passes
          rw [reflects.levelOf_kept found passes.1, if_pos ⟨leaf, unpassed⟩]
      case isFalse apart =>
        rw [if_neg apart] at present
        refine reflects.marked path present (lost.imp_right ?_)
        rintro ⟨-, displaced | ⟨passes, -⟩⟩
        · exact displaced
        · exact absurd passes apart

end Reflects

/-- Whether a declaration changes what is recorded at a path that is not its own. -/
def Discards (tree : Tree) (declaration : Declaration) (path : List String) : Prop :=
  declaration.path ≠ path ∧
    ∃ record, tree.lookup? path = some record ∧ (tree.add declaration).lookup? path ≠ some record

section

variable {tree : Tree} {made : List Declaration} {declaration : Declaration} {path : List String}

/-- Only the first declaration that passes through a path changes what is recorded there. -/
theorem Discards.passes (discards : tree.Discards declaration path) (reflects : tree.Reflects made) :
    declaration.Passes path ∧ (∀ other ∈ made, ¬ other.Passes path) ∧
      ∃ record, tree.lookup? path = some record ∧ record.kind.isLeaf = true ∧
        (tree.add declaration).lookup? path = some .marker := by
  obtain ⟨apart, record, found, changed⟩ := discards
  rw [lookup?_add, if_neg (Ne.symm apart)] at changed ⊢
  by_cases passes : declaration.Passes path
  · rw [if_pos passes, reflects.levelOf_kept found passes.1] at changed ⊢
    split at changed
    case isTrue first => exact ⟨passes, first.2, record, found, first.1, if_pos first ▸ rfl⟩
    case isFalse => exact absurd rfl changed
  · rw [if_neg passes] at changed
    exact absurd found changed

/-- What a declaration changes at a path of others has nothing below it. -/
theorem Reflects.lookup?_below (reflects : tree.Reflects made)
    (unpassed : ∀ other ∈ made, ¬ other.Passes path) (nonempty : path ≠ []) {below : List String}
    (further : below ≠ []) : tree.lookup? (path ++ below) = none := by
  refine Option.not_isSome_iff_eq_none.mp fun present => ?_
  obtain ⟨-, other, member, reached⟩ := (reflects.present _).mp present
  have leads : path <+: other.path := (List.prefix_append path below).trans reached
  rcases (Declaration.prefix_path_iff nonempty).mp leads with rfl | passes
  · have bound := reached.length_le
    rw [List.length_append] at bound
    have longer := List.length_pos_iff.mpr further
    omega
  · exact unpassed other member passes

end

end Tree

namespace Assembler

/-- Record declarations one after another. -/
def insertAll (assembler : Assembler) (made : List Declaration) : Assembler :=
  made.foldl (fun assembler declaration =>
    assembler.insert declaration.route declaration.name declaration.record) assembler

/-- The last declaration is inserted into the tree that the others leave. -/
theorem tree_insertAll_concat (assembler : Assembler) (made : List Declaration)
    (declaration : Declaration) :
    (assembler.insertAll (made ++ [declaration])).tree =
      (assembler.insertAll made).tree.add declaration := by
  rw [insertAll, List.foldl_append]
  rfl

theorem reflects_insertAll (made : List Declaration) :
    (({} : Assembler).insertAll made).tree.Reflects made := by
  induction made using List.reverseRecOn with
  | nil => exact .start
  | append_singleton made declaration ih =>
      rw [tree_insertAll_concat]
      exact ih.add declaration

/--
The tree that any declarations leave, under whatever routes they are inserted.  A node
is there for each level that some declaration passes through or ends at, and the names
of a level stand in the order in which they were first reached.  A node holds what was
declared last at its path; it is a marker if nothing was declared there, or if the last
was a test or hook and a later declaration was the first of all to pass through it.  No
insertion removes a node or moves a sibling, and one that changes the record at a path
of others puts a marker in the place of a leaf with nothing below it, at each path once
at most.
-/
theorem tree_of_insertions (made : List Declaration) :
    let treeOf (made : List Declaration) := (({} : Assembler).insertAll made).tree
    (∀ path, ((treeOf made).lookup? path).isSome ↔
      path ≠ [] ∧ ∃ declaration ∈ made, path <+: declaration.path) ∧
    (∀ path, ((treeOf made).levelAt path).names = Declaration.namesBelow made path) ∧
    (∀ path, ((treeOf made).lookup? path).isSome →
      (∀ record, Declaration.lastAt? made path = some record →
        ¬ Declaration.Displaced made path → (treeOf made).lookup? path = some record) ∧
      (Declaration.lastAt? made path = none ∨ Declaration.Displaced made path →
        (treeOf made).lookup? path = some .marker)) ∧
    ∀ before declaration after, made = before ++ declaration :: after →
      (∀ path, ((treeOf before).lookup? path).isSome →
        ((treeOf (before ++ [declaration])).lookup? path).isSome) ∧
      (∀ path, ((treeOf before).levelAt path).names <+:
        ((treeOf (before ++ [declaration])).levelAt path).names) ∧
      ∀ path, (treeOf before).Discards declaration path →
        (∃ record, (treeOf before).lookup? path = some record ∧ record.kind.isLeaf = true ∧
          (treeOf (before ++ [declaration])).lookup? path = some .marker) ∧
        (∀ below, below ≠ [] → (treeOf before).lookup? (path ++ below) = none) ∧
        ∀ before' declaration' after', made = before' ++ declaration' :: after' →
          (treeOf before').Discards declaration' path → before' = before := by
  intro treeOf
  have reflects : ∀ made, (treeOf made).Reflects made := reflects_insertAll
  refine ⟨(reflects made).present, (reflects made).names, fun path present =>
    ⟨(reflects made).kept path, (reflects made).marked path present⟩, ?_⟩
  rintro before declaration after rfl
  refine ⟨fun path present => ?_, fun path => ?_, fun path discards => ?_⟩
  · obtain ⟨nonempty, other, member, reached⟩ := ((reflects before).present path).mp present
    exact ((reflects _).present path).mpr
      ⟨nonempty, other, List.mem_append_left _ member, reached⟩
  · rw [(reflects _).names, (reflects _).names, Declaration.namesBelow_concat]
    split
    · split
      · exact List.prefix_refl _
      · exact List.prefix_append _ _
    · exact List.prefix_refl _
  · obtain ⟨passes, unpassed, leaf⟩ := discards.passes (reflects before)
    rw [← tree_insertAll_concat] at leaf
    refine ⟨leaf, fun below => (reflects before).lookup?_below unpassed passes.1, ?_⟩
    intro before' declaration' after' split discards'
    obtain ⟨passes', unpassed', -⟩ := discards'.passes (reflects before')
    -- Both are the first of all to pass through the path.
    rcases List.append_eq_append_iff.mp split with ⟨between, rfl, here⟩ | ⟨between, rfl, here⟩
    · cases between with
      | nil => exact List.append_nil before
      | cons first rest =>
          obtain ⟨rfl, -⟩ := List.cons.inj here
          exact absurd passes (unpassed' _ (by simp))
    · cases between with
      | nil => exact (List.append_nil before').symm
      | cons first rest =>
          obtain ⟨rfl, -⟩ := List.cons.inj here
          exact absurd passes' (unpassed _ (by simp))

end Assembler

end TestInventory
