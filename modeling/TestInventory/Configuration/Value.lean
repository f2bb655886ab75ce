/-!
# Configured values

Every source of settings gives values under names.  What no setting can use
(numbers, dates, tables) is kept as one value that fits nothing.
-/

namespace TestInventory

inductive ConfigValue where
  | text (content : String)
  | boolean (content : Bool)
  | list (items : List ConfigValue)
  /-- A value that no setting can use. -/
  | other
  deriving Repr, Inhabited

/-- The values of one source; of two values under a name the later one counts. -/
abbrev ConfigLayer := List (String × ConfigValue)

namespace ConfigValue

def text? : ConfigValue → Option String
  | .text content => some content
  | _ => none

def boolean? : ConfigValue → Option Bool
  | .boolean content => some content
  | _ => none

def texts? : ConfigValue → Option (List String)
  | .list items => items.mapM text?
  | _ => none

end ConfigValue

end TestInventory
