import TestInventory.Configuration.Value
import TestInventory.Toml.Number
import TestInventory.Toml.Text

/-!
# TOML files

A file is a list of lines: keys with values, and headers that open tables.  A
table is built once: by a header, by dotted keys, or by the headers of tables
inside it.  `Toml.parse?` gives the values at the top of a file; tables are
checked and kept as values that fit nothing.
-/

namespace TestInventory

namespace Toml

inductive Node where
  | value (content : ConfigValue)
  /--
  A table.  An implicit one has no header of its own; a dotted one was made by
  the dots of a key.
  -/
  | table (implicit dotted : Bool) (entries : List (String × Node))
  /-- Tables in a row, of which only the last is still open. -/
  | tables (last : List (String × Node))
  deriving Inhabited

abbrev Entries := List (String × Node)

/-- Put a node under a key: in the place of the present one, or behind the others. -/
def setNode (key : String) (node : Node) : Entries → Entries
  | [] => [(key, node)]
  | entry :: rest => if entry.1 = key then (key, node) :: rest else entry :: setNode key node rest

/--
Change the table to which a path leads from another, making implicit tables on
the way.  Dotted keys may not lead into a table that has a header.  The change
is told whether the table was made by the dots of a key.
-/
def within (dots : Bool) (change : Bool → Entries → Option Entries) :
    (dotted : Bool) → Entries → List String → Option Entries
  | dotted, entries, [] => change dotted entries
  | _, entries, key :: path =>
    match entries.lookup key with
    | none => do
      let inner ← within dots change dots [] path
      return setNode key (.table true dots inner) entries
    | some (.value _) => none
    | some (.tables last) => do
      let inner ← within dots change false last path
      return setNode key (.tables inner) entries
    | some (.table implicit dotted last) => do
      -- What a header has opened is not added to by dots.
      guard (!dots || implicit)
      let inner ← within dots change dotted last path
      return setNode key (.table implicit dotted inner) entries

/-- Give a key of a table a value; `dots` tells whether dots led to the table. -/
def assign (dots : Bool) (key : String) (content : ConfigValue) (dotted : Bool)
    (entries : Entries) : Option Entries :=
  if dotted = dots ∧ (entries.lookup key).isNone then some (entries ++ [(key, .value content)])
  else none

def assignKey (path : List String) (content : ConfigValue) (entries : Entries) : Option Entries := do
  let key ← path.getLast?
  within true (assign (1 < path.length) key content) false entries path.dropLast

def openTable (key : String) (_dotted : Bool) (entries : Entries) : Option Entries :=
  match entries.lookup key with
  | none => some (setNode key (.table false false []) entries)
  | some (.table true false inner) => some (setNode key (.table false false inner) entries)
  | some _ => none

/-- Open one more of the tables in a row. -/
def openNext (key : String) (_dotted : Bool) (entries : Entries) : Option Entries :=
  match entries.lookup key with
  | none => some (setNode key (.tables []) entries)
  | some (.tables _) => some (setNode key (.tables []) entries)
  | some _ => none

def keyValue (value : Scan ConfigValue) : Scan (List String × ConfigValue) := do
  let path ← key
  Scan.word "="
  let _ ← Scan.run isBlank
  return (path, ← value)

def lineTable (value : Scan ConfigValue) : Scan Unit := do
  let _ ← Scan.run isBlank
  if (← Scan.eat "\x7d") then return
  Scan.iterate (fun entries => do
    let (path, content) ← keyValue value
    let entries ← (assignKey path content entries).getM
    let _ ← Scan.run isBlank
    if (← Scan.eat ",") then return .inl entries
    Scan.word "\x7d"
    return .inr ()) ([] : Entries)

def value : (depth : Nat) → Scan ConfigValue
  | 0 => failure
  | depth + 1 => do
    match ← Scan.peek? with
    | none => failure
    | some c =>
      if c = '"' || c = '\'' then return .text (← anyText)
      if (← Scan.eat "[") then return .list (← Scan.items blankLines (value depth) "]")
      if (← Scan.eat "\x7b") then
        lineTable (value depth)
        return .other
      if (← Scan.eat "true") then return .boolean true
      if (← Scan.eat "false") then return .boolean false
      number
      return .other

def depthLimit : Nat := 80

/-- A file as read so far: its top table, and the path of the table that is open. -/
structure Document where
  entries : Entries := []
  path : List String := []

def header (document : Document) : Scan Document := do
  Scan.word "["
  let inRow ← Scan.eat "["
  let path ← key
  Scan.word (if inRow then "]]" else "]")
  let name ← path.getLast?.getM
  let change := if inRow then openNext name else openTable name
  let entries ← (within false change false document.entries path.dropLast).getM
  return { entries, path }

def field (document : Document) : Scan Document := do
  let (path, content) ← keyValue (value depthLimit)
  let change (_dotted : Bool) (entries : Entries) := assignKey path content entries
  let entries ← (within false change false document.entries document.path).getM
  return { document with entries }

/-- Read a line of a file; without an end of its own it is the last one. -/
def line (document : Document) : Scan (Document ⊕ Document) := do
  let _ ← Scan.run isBlank
  let document ← match ← Scan.peek? with
    | none => pure document
    | some c =>
      if c = '[' then header document
      else if c = '#' || c = '\n' || c = '\x0d' then pure document
      else field document
  let _ ← Scan.run isBlank
  comment
  if (← optional lineEnd).isSome then return .inl document
  Scan.finish
  return .inr document

def Node.content : Node → ConfigValue
  | .value content => content
  | _ => .other

/-- The values at the top of a file, or `none` when the text is no such file. -/
def parse? (text : String) : Option ConfigLayer := do
  let marked : Scan Document := do
    let _ ← Scan.eat "\ufeff"
    Scan.iterate line {}
  let document ← marked.complete? text
  return document.entries.map fun (key, node) => (key, node.content)

end Toml

end TestInventory
