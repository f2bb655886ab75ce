import TestInventory.Inventory
import TestInventory.Json.Reader

/-!
# Inventories as JSON

An inventory is written as an object of its four parts.  Reading is lenient:
unknown fields are ignored, and an object may also be given as the array of its
values.  Everything that is not ignored nests less than 128 levels deep.
-/

namespace TestInventory

namespace ExtendedTree

/-- The fields of a node before its children. -/
def recordFields (record : Record) : List (Option String × Json) :=
  [(some "kind", .ofText record.kind.name),
    (some "sourceFile", .ofText record.location.file),
    (some "sourceLine", .ofNat record.location.line)]

def toFields : ExtendedTree → List (Option String × Json)
  | .empty => []
  | .leaf name record rest => (some name, .object (recordFields record)) :: rest.toFields
  | .branch name record children rest =>
    (some name,
      .object (recordFields record ++ [(some "children", .object children.toFields)])) ::
      rest.toFields

def ofNodes : List (String × Record × Option ExtendedTree) → ExtendedTree
  | [] => .empty
  | (name, record, none) :: rest => .leaf name record (ofNodes rest)
  | (name, record, some children) :: rest => .branch name record children (ofNodes rest)

end ExtendedTree

namespace SimpleTree

def toFields : SimpleTree → List (Option String × Json)
  | .empty => []
  | .leaf name text rest => (some name, .ofText text) :: rest.toFields
  | .branch name children rest => (some name, .object children.toFields) :: rest.toFields

def ofNodes : List (String × (String ⊕ SimpleTree)) → SimpleTree
  | [] => .empty
  | (name, .inl text) :: rest => .leaf name text (ofNodes rest)
  | (name, .inr children) :: rest => .branch name children (ofNodes rest)

end SimpleTree

namespace Json

/-- Put a value under a key: behind the others, or in the place of the present one. -/
def setKey {α : Type} (entries : List (String × α)) (key : String) (value : α) :
    List (String × α) :=
  match entries with
  | [] => [(key, value)]
  | entry :: rest =>
    if entry.1 = key then (key, value) :: rest else entry :: setKey rest key value

/-- Read every field; a later field replaces an earlier one of its name. -/
def entries? {α : Type} (read? : Json → Option α) (fields : List (Option String × Json)) :
    Option (List (String × α)) :=
  fields.foldlM (fun entries (key, value) => do
    return setKey entries (← key) (← read? value)) []

/-- The value of a field that may be absent; none when it is given twice. -/
def single? (fields : List (Option String × Json)) (key : String) : Option (Option Json) :=
  match fields.filter (·.1 = some key) with
  | [] => some none
  | [(_, value)] => some (some value)
  | _ => none

/--
The values of the fields with these names, given as an object or as an array
without its last values.  Names that are no text are refused, unknown ones not.
-/
def parts? (keys : List String) : Json → Option (List (Option Json))
  | .object fields => do
    guard (fields.all (·.1.isSome))
    keys.mapM (single? fields)
  | .array items => do
    guard (items.length ≤ keys.length)
    return keys.zipIdx.map fun (_, index) => items[index]?
  | _ => none

def text? : Json → Option String
  | .string content => content
  | _ => none

/-- Read texts in a row, within a number of levels. -/
def texts? : (levels : Nat) → Json → Option (List String)
  | _ + 1, .array items => items.mapM text?
  | _, _ => none

/-- Read a line number: a whole number of 32 bits. -/
def line? : Json → Option Nat
  | .number text => do
    let line ← Text.decimal? text.toList
    if line < 0x100000000 then some line else none
  | _ => none

/-- Read a kind, given by its name or as an object with nothing under that name. -/
def kind? : (levels : Nat) → Json → Option Kind
  | _, .string content => content.bind Kind.ofName?
  | _ + 1, .object [(name, .null)] => name.bind Kind.ofName?
  | _, _ => none

def simpleTree? : (levels : Nat) → Json → Option SimpleTree
  | levels + 1, .object fields => do
    let nodes ← entries? (fun
      | .string content => content.map .inl
      | value => (simpleTree? levels value).map .inr) fields
    return .ofNodes nodes
  | _, _ => none

mutual

def extendedTree? : (levels : Nat) → Json → Option ExtendedTree
  | levels + 1, .object fields => do
    let nodes ← entries? (extendedNode? levels) fields
    return .ofNodes nodes
  | _, _ => none

def extendedNode? : (levels : Nat) → Json → Option (Record × Option ExtendedTree)
  | 0, _ => none
  | levels + 1, value => do
    match ← parts? ["kind", "sourceFile", "sourceLine", "children"] value with
    | [some kind, some file, some line, children] =>
      let record : Record := ⟨← kind? levels kind, ⟨← text? file, ← line? line⟩⟩
      match children with
      | none => return (record, none)
      | some .null => return (record, none)
      | some children => return (record, some (← extendedTree? levels children))
    | _ => none

end

end Json

namespace Inventory

def toJson (inventory : Inventory) : Json :=
  .object
    [(some "suites", .ofTexts inventory.suites),
      (some "tests", .ofTexts inventory.tests),
      (some "tree", .object inventory.tree.toFields),
      (some "extendedTree", .object inventory.extendedTree.toFields)]

/-- The inventory that a value stands for, within a number of levels. -/
def ofJson? : (levels : Nat) → Json → Option Inventory
  | 0, _ => none
  | levels + 1, value => do
    match ← Json.parts? ["suites", "tests", "tree", "extendedTree"] value with
    | [some suites, some tests, some tree, some extendedTree] =>
      return { suites := ← Json.texts? levels suites
               tests := ← Json.texts? levels tests
               tree := ← Json.simpleTree? levels tree
               extendedTree := ← Json.extendedTree? levels extendedTree }
    | _ => none

def levelLimit : Nat := 127

def render (inventory : Inventory) (compact : Bool) : String :=
  if compact then inventory.toJson.compact else inventory.toJson.pretty

def parse? (text : String) : Option Inventory := (Json.parse? text).bind (ofJson? levelLimit)

end Inventory

end TestInventory
