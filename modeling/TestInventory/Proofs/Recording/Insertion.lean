import TestInventory.Tree

/-!
# Recording under open levels

Recording a declaration may have to put a marker in the place of a level that is
missing or that is a leaf.  When it does not, it changes the record at one path,
adds at most one name to one level, and leaves everything else as it was.
-/

namespace TestInventory

namespace Tree

/-- The level below a path; nothing stands below a path that is not there. -/
def levelAt : List String → Tree → Tree
  | [], tree => tree
  | name :: path, tree =>
    match tree.find? name with
    | some (_, children) => children.levelAt path
    | none => .empty

/-- Whether recording under a route puts a marker somewhere along the route. -/
def needsMarker : List String → Tree → Bool
  | [], _ => false
  | segment :: route, tree =>
    match tree.find? segment with
    | some (record, children) =>
      (record.kind.isLeaf && children.isEmpty) || children.needsMarker route
    | none => true

/-! ## Changing one entry of a level -/

theorem find?_alter (tree : Tree) (key : String)
    (change : Option (Record × Tree) → Record × Tree) (name : String) :
    (tree.alter key change).find? name =
      if name = key then some (change (tree.find? key)) else tree.find? name := by
  induction tree with
  | empty =>
      by_cases same : name = key
      · simp [alter, find?, same]
      · simp [alter, find?, same, Ne.symm same]
  | entry first record children rest _ ih =>
      by_cases here : first = key
      · by_cases same : name = key
        · simp [alter, find?, here, same]
        · simp [alter, find?, here, same, Ne.symm same]
      · by_cases found : first = name
        · have other : name ≠ key := fun same => here (found.trans same)
          simp [alter, find?, found, other]
        · simp [alter, find?, here, found, ih]

theorem mem_names_iff (tree : Tree) (name : String) :
    name ∈ tree.names ↔ (tree.find? name).isSome := by
  induction tree with
  | empty => simp [names, find?]
  | entry first record children rest _ ih =>
      by_cases here : first = name
      · simp [names, find?, here]
      · simp [names, find?, here, ih, Ne.symm here]

theorem names_alter (tree : Tree) (key : String)
    (change : Option (Record × Tree) → Record × Tree) :
    (tree.alter key change).names =
      if key ∈ tree.names then tree.names else tree.names ++ [key] := by
  induction tree with
  | empty => simp [alter, names]
  | entry first record children rest _ ih =>
      by_cases here : first = key
      · simp [alter, names, here]
      · simp only [alter, here, if_false, names, ih, List.mem_cons, Ne.symm here, false_or]
        by_cases later : key ∈ rest.names
        · simp [later]
        · simp [later]

/-! ## Paths -/

@[simp]
theorem lookup?_empty (path : List String) : lookup? path empty = none := by
  match path with
  | [] => rfl
  | [_] => rfl
  | _ :: _ :: _ => rfl

@[simp]
theorem levelAt_empty (path : List String) : levelAt path empty = empty := by
  cases path <;> rfl

/-- A path of two or more names goes through the entry of the first. -/
theorem lookup?_cons_cons (name next : String) (path : List String) (tree : Tree) :
    tree.lookup? (name :: next :: path) =
      (tree.find? name).bind fun found => found.2.lookup? (next :: path) := rfl

/-- Below an entry that is there, a path goes on in its children. -/
theorem lookup?_of_find? {tree children : Tree} {segment : String} {record : Record}
    (found : tree.find? segment = some (record, children)) {path : List String}
    (nonempty : path ≠ []) : tree.lookup? (segment :: path) = children.lookup? path := by
  cases path with
  | nil => exact absurd rfl nonempty
  | cons next path => rw [lookup?_cons_cons, found, Option.bind_some]

/-- When every level of a route is recorded as a suite, no marker is needed. -/
theorem needsMarker_eq_false {tree : Tree} {route : List String}
    (opened : ∀ path, path ≠ [] → path <+: route →
      ∃ record, tree.lookup? path = some record ∧ record.kind.isSuite = true) :
    tree.needsMarker route = false := by
  induction route generalizing tree with
  | nil => rfl
  | cons segment route ih =>
      obtain ⟨record, atSegment, suite⟩ := opened [segment] (List.cons_ne_nil _ _)
        (List.prefix_append [segment] route)
      obtain ⟨⟨recorded, children⟩, found, same⟩ := Option.map_eq_some_iff.mp atSegment
      have inner : children.needsMarker route = false := by
        refine ih fun path nonempty isPrefix => ?_
        rw [← lookup?_of_find? found nonempty]
        exact opened (segment :: path) (List.cons_ne_nil _ _) (List.prefix_cons_iff.mpr
          (Or.inr ⟨path, rfl, isPrefix⟩))
      have notLeaf : recorded.kind.isLeaf = false := by
        rw [Kind.isLeaf, show recorded = record from same, suite]
        rfl
      simp only [needsMarker, found, notLeaf, inner, Bool.false_and, Bool.or_false]

/-! ## Recording without markers -/

section

variable {tree : Tree} {route : List String} (name : String) (record : Record)

/-- A level on a route without markers is kept as it is. -/
theorem levelOf_of_needsMarker {segment : String}
    (open_ : tree.needsMarker (segment :: route) = false) :
    ∃ found : Record × Tree, tree.find? segment = some found ∧
      levelOf (some found) = found ∧ found.2.needsMarker route = false := by
  cases found : tree.find? segment with
  | none => simp [needsMarker, found] at open_
  | some entry =>
      simp only [needsMarker, found, Bool.or_eq_false_iff] at open_
      exact ⟨entry, rfl, by simp [levelOf, open_.1], open_.2⟩

/-- Recording a declaration changes the record at its own path and no other. -/
theorem lookup?_insert (open_ : tree.needsMarker route = false) (path : List String) :
    (tree.insert route name record).lookup? path =
      if path = route ++ [name] then some record else tree.lookup? path := by
  induction route generalizing tree path with
  | nil =>
      match path with
      | [] => rfl
      | [here] =>
          by_cases same : here = name
          · simp [insert, lookup?, find?_alter, same]
          · simp [insert, lookup?, find?_alter, same]
      | here :: next :: rest =>
          rw [insert, lookup?_cons_cons, lookup?_cons_cons, find?_alter]
          by_cases same : here = name
          · cases present : tree.find? name <;> simp [same, present]
          · simp [same]
  | cons segment route ih =>
      obtain ⟨⟨level, children⟩, found, kept, inner⟩ := levelOf_of_needsMarker open_
      match path with
      | [] => rfl
      | [here] =>
          by_cases same : here = segment
          · simp [insert, lookup?, find?_alter, same, found, kept]
          · simp [insert, lookup?, find?_alter, same]
      | here :: next :: rest =>
          rw [insert, lookup?_cons_cons, lookup?_cons_cons, find?_alter]
          by_cases same : here = segment
          · simpa [same, found, kept] using ih inner (next :: rest)
          · simp [same]

/-- Recording a declaration puts its name behind its siblings unless it is there already. -/
theorem names_levelAt_insert (open_ : tree.needsMarker route = false) (path : List String) :
    ((tree.insert route name record).levelAt path).names =
      if path = route ∧ name ∉ (tree.levelAt path).names then (tree.levelAt path).names ++ [name]
      else (tree.levelAt path).names := by
  induction route generalizing tree path with
  | nil =>
      cases path with
      | nil =>
          simp only [insert, levelAt, names_alter, true_and]
          by_cases present : name ∈ tree.names <;> simp [present]
      | cons here rest =>
          simp only [insert, levelAt, find?_alter, List.cons_ne_nil, false_and, if_false]
          by_cases same : here = name
          · cases present : tree.find? name <;> simp [same, present]
          · simp [same]
  | cons segment route ih =>
      obtain ⟨⟨level, children⟩, found, kept, inner⟩ := levelOf_of_needsMarker open_
      cases path with
      | nil =>
          have present : segment ∈ tree.names := by
            rw [mem_names_iff, found]
            rfl
          simp [insert, levelAt, names_alter, present]
      | cons here rest =>
          simp only [insert, levelAt, find?_alter]
          by_cases same : here = segment
          · simpa [same, found, kept] using ih inner rest
          · simp [same]

end

end Tree

end TestInventory
