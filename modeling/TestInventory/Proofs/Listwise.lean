/-!
# Recursions through lists

Syntax and trees hold lists of their own kind, so a function on them comes with one that
goes through such a list.  It asks something of the items or changes them, one after
another, and is then what `List.any` or `List.map` makes of the function on an item.
-/

namespace TestInventory

variable {α β : Type}

/-- A search through a list that looks at one item after another looks at each. -/
theorem eq_any_of_cons {search : List α → Bool} {finds : α → Bool} (nil : search [] = false)
    (cons : ∀ first rest, search (first :: rest) = (finds first || search rest))
    (items : List α) : search items = items.any finds := by
  induction items with
  | nil => exact nil
  | cons first rest ih => rw [cons, ih, List.any_cons]

/-- A change of a list that changes one item after another changes each. -/
theorem eq_map_of_cons {changeAll : List α → List β} {change : α → β} (nil : changeAll [] = [])
    (cons : ∀ first rest, changeAll (first :: rest) = change first :: changeAll rest)
    (items : List α) : changeAll items = items.map change := by
  induction items with
  | nil => exact nil
  | cons first rest ih => rw [cons, ih, List.map_cons]

end TestInventory
