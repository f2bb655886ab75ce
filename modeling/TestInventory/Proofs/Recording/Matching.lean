import TestInventory.Proofs.Recording.Insertion

/-!
# Trees that match at every path

A tree on whose levels no name stands twice is known by its records and by the
names of its levels.
-/

namespace TestInventory

namespace Tree

/-! ## The first entry and the later siblings -/

section

variable {name : String}

theorem find?_eq_none_of_not_mem {tree : Tree} (absent : name ∉ tree.names) :
    tree.find? name = none := by
  rwa [mem_names_iff, Bool.not_eq_true, Option.isSome_eq_false_iff, Option.isNone_iff_eq_none]
    at absent

theorem lookup?_eq_none {tree : Tree} (absent : tree.find? name = none) (path : List String) :
    tree.lookup? (name :: path) = none := by
  cases path with
  | nil => rw [lookup?, absent, Option.map_none]
  | cons next path => rw [lookup?_cons_cons, absent, Option.bind_none]

theorem levelAt_eq_empty {tree : Tree} (absent : tree.find? name = none) (path : List String) :
    tree.levelAt (name :: path) = empty := by
  rw [levelAt, absent]

variable {other : String} (record : Record) (children rest : Tree) (different : name ≠ other)
include different

theorem find?_entry_of_ne : (entry name record children rest).find? other = rest.find? other :=
  if_neg different

/-- The paths of other names go through the later siblings. -/
theorem lookup?_entry_of_ne (path : List String) :
    (entry name record children rest).lookup? (other :: path) = rest.lookup? (other :: path) := by
  cases path with
  | nil => rw [lookup?, lookup?, find?_entry_of_ne record children rest different]
  | cons next path =>
      rw [lookup?_cons_cons, lookup?_cons_cons, find?_entry_of_ne record children rest different]

theorem levelAt_entry_of_ne (path : List String) :
    (entry name record children rest).levelAt (other :: path) = rest.levelAt (other :: path) := by
  rw [levelAt, levelAt, find?_entry_of_ne record children rest different]

end

/-- Whether no level of a tree has a name twice. -/
def Distinct (tree : Tree) : Prop := ∀ path, (tree.levelAt path).names.Nodup

/-- Whether trees have the same record at every path and the same names on every level. -/
structure Matches (first second : Tree) : Prop where
  names : ∀ path, (first.levelAt path).names = (second.levelAt path).names
  records : ∀ path, first.lookup? path = second.lookup? path

section

variable {name : String} {record record' : Record} {children rest children' rest' : Tree}

theorem find?_entry_self :
    (entry name record children rest).find? name = some (record, children) :=
  if_pos rfl

theorem Distinct.below (distinct : (entry name record children rest).Distinct) :
    children.Distinct := by
  intro path
  have below := distinct (name :: path)
  rwa [levelAt, find?_entry_self] at below

theorem Distinct.find?_rest (distinct : (entry name record children rest).Distinct) :
    rest.find? name = none :=
  find?_eq_none_of_not_mem (List.nodup_cons.mp (distinct [])).1

theorem Distinct.later (distinct : (entry name record children rest).Distinct) :
    rest.Distinct := by
  intro path
  cases path with
  | nil => exact (List.nodup_cons.mp (distinct [])).2
  | cons next path =>
      by_cases same : name = next
      · rw [levelAt_eq_empty (same ▸ distinct.find?_rest)]
        exact List.nodup_nil
      · rw [← levelAt_entry_of_ne record children rest same]
        exact distinct (next :: path)

section

variable (same : (entry name record children rest).Matches (entry name record' children' rest'))
include same

theorem Matches.record_eq : record = record' := by
  have here := same.records [name]
  rw [lookup?, lookup?, find?_entry_self, find?_entry_self] at here
  exact Option.some.inj here

theorem Matches.below : children.Matches children' where
  names path := by
    have below := same.names (name :: path)
    rwa [levelAt, levelAt, find?_entry_self, find?_entry_self] at below
  records path := by
    cases path with
    | nil => rfl
    | cons next path =>
        have below := same.records (name :: next :: path)
        rwa [lookup?_cons_cons, lookup?_cons_cons, find?_entry_self, find?_entry_self] at below

/-- The later siblings match too, since the first name stands on neither side again. -/
theorem Matches.later (gone : rest.find? name = none) (gone' : rest'.find? name = none) :
    rest.Matches rest' where
  names path := by
    cases path with
    | nil => exact (List.cons.inj (same.names [])).2
    | cons next path =>
        by_cases first : name = next
        · rw [levelAt_eq_empty (first ▸ gone), levelAt_eq_empty (first ▸ gone')]
        · rw [← levelAt_entry_of_ne record children rest first,
            ← levelAt_entry_of_ne record' children' rest' first]
          exact same.names (next :: path)
  records path := by
    cases path with
    | nil => rfl
    | cons next path =>
        by_cases first : name = next
        · rw [lookup?_eq_none (first ▸ gone), lookup?_eq_none (first ▸ gone')]
        · rw [← lookup?_entry_of_ne record children rest first,
            ← lookup?_entry_of_ne record' children' rest' first]
          exact same.records (next :: path)

end

end

/-- A tree without repeated names is known by its records and the names of its levels. -/
theorem Distinct.eq_of_matches {first second : Tree} (distinct : first.Distinct)
    (distinct' : second.Distinct) (same : first.Matches second) : first = second := by
  induction first generalizing second with
  | empty =>
      cases second with
      | empty => rfl
      | entry => cases same.names []
  | entry name record children rest childrenIh restIh =>
      cases second with
      | empty => cases same.names []
      | entry other record' children' rest' =>
          obtain ⟨rfl, -⟩ := List.cons.inj (same.names [])
          have later := same.later distinct.find?_rest distinct'.find?_rest
          rw [same.record_eq, childrenIh distinct.below distinct'.below same.below,
            restIh distinct.later distinct'.later later]

end Tree

end TestInventory
