import TestInventory.Kind
import TestInventory.Site

/-!
# The declaration tree

Every level is a list of siblings in the order in which their names were first
seen.  Names are merged: declaring a name again keeps its place and its
children and replaces what is recorded about it.
-/

namespace TestInventory

structure Record where
  kind : Kind
  location : Location
  deriving DecidableEq, Repr, Inhabited

namespace Record

/-- The record of a nesting level that has no declaration of its own. -/
def marker : Record := ⟨.suite .plain, .unknown⟩

end Record

/-- One level of siblings: the first entry with its children, then the rest. -/
inductive Tree where
  | empty
  | entry (name : String) (record : Record) (children rest : Tree)
  deriving DecidableEq, Repr, Inhabited

namespace Tree

def isEmpty : Tree → Bool
  | .empty => true
  | .entry .. => false

def names : Tree → List String
  | .empty => []
  | .entry name _ _ rest => name :: rest.names

/-- The record and the children under a name. -/
def find? (key : String) : Tree → Option (Record × Tree)
  | .empty => none
  | .entry name record children rest =>
    if name = key then some (record, children) else rest.find? key

def lookup? : List String → Tree → Option Record
  | [], _ => none
  | [name], tree => (tree.find? name).map Prod.fst
  | name :: path, tree => (tree.find? name).bind fun found => lookup? path found.2

/--
Change the entry of a name where it stands, or put a new one behind the last
sibling.  The change is told the present entry, if there is one.
-/
def alter (key : String) (change : Option (Record × Tree) → Record × Tree) : Tree → Tree
  | .empty =>
    let (record, children) := change none
    .entry key record children .empty
  | .entry name record children rest =>
    if name = key then
      let (record, children) := change (some (record, children))
      .entry name record children rest
    else .entry name record children (rest.alter key change)

/--
The entry through which a route passes.  A missing level, and a test or hook
with nothing below it, become a marker without children.
-/
def levelOf : Option (Record × Tree) → Record × Tree
  | none => (.marker, .empty)
  | some (record, children) =>
    if record.kind.isLeaf && children.isEmpty then (.marker, .empty) else (record, children)

/-- Record a declaration under the suites of a route. -/
def insert (tree : Tree) (route : List String) (name : String) (record : Record) : Tree :=
  match route with
  -- A name that was there keeps what is below it.
  | [] => tree.alter name fun present => (record, (present.map Prod.snd).getD .empty)
  | segment :: route => tree.alter segment fun present =>
    let (level, children) := levelOf present
    (level, children.insert route name record)

end Tree

end TestInventory
