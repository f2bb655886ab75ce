import TestInventory.Tree

/-!
# Inventories

The result of a run: the dotted paths of all suites and tests, and two views of
the tree.  The extended view keeps what was recorded about every declaration;
the simple view keeps the location of the declarations that nest nothing.
-/

namespace TestInventory

/-- The extended view of a level.  A node without children is a leaf, whatever its kind. -/
inductive ExtendedTree where
  | empty
  | leaf (name : String) (record : Record) (rest : ExtendedTree)
  | branch (name : String) (record : Record) (children rest : ExtendedTree)
  deriving DecidableEq, Repr, Inhabited

/-- The simple view of a level: a location in words, or a level below. -/
inductive SimpleTree where
  | empty
  | leaf (name : String) (text : String) (rest : SimpleTree)
  | branch (name : String) (children rest : SimpleTree)
  deriving DecidableEq, Repr, Inhabited

structure Inventory where
  suites : List String := []
  tests : List String := []
  tree : SimpleTree := .empty
  extendedTree : ExtendedTree := .empty
  deriving DecidableEq, Repr, Inhabited

namespace ExtendedTree

/-- The simple view; where a branch was declared is not carried over. -/
def project : ExtendedTree → SimpleTree
  | .empty => .empty
  | .leaf name record rest => .leaf name record.location.text rest.project
  | .branch name _ children rest => .branch name children.project rest.project

end ExtendedTree

namespace Tree

/-- The extended view; a level without entries disappears. -/
def prune : Tree → ExtendedTree
  | .empty => .empty
  | .entry name record .empty rest => .leaf name record rest.prune
  | .entry name record children rest => .branch name record children.prune rest.prune

end Tree

namespace Inventory

def ofTree (suites tests : List String) (tree : Tree) : Inventory where
  suites := suites
  tests := tests
  tree := tree.prune.project
  extendedTree := tree.prune

end Inventory

end TestInventory
