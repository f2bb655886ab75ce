import TestInventory.Recorder

/-!
# What the views of a tree keep

The extended view of a tree lists the same nodes in the same order, with all that is
recorded about them, and the tree can be read back from it.  The simple view lists these
nodes too; it says where a node was declared if nothing is nested in it, and of the
others only that something is.
-/

namespace TestInventory

/-- The way to a node from the top: at each level a name and its place among the siblings. -/
abbrev Address := List (Nat × String)

/-- A node as it stands in a tree or in its extended view. -/
structure Row where
  address : Address
  record : Record
  /-- Whether there is a level below the node. -/
  nests : Bool
  deriving DecidableEq, Repr

/-- A node as it stands in the simple view: with a text, or with a level below it. -/
structure SimpleRow where
  address : Address
  text? : Option String
  deriving DecidableEq, Repr

/-- A node in words: its own location, if there is no level below it. -/
def Row.simple (row : Row) : SimpleRow :=
  ⟨row.address, if row.nests then none else some row.record.location.text⟩

namespace Tree

/-- The nodes of a level and of those below it, each before the ones it nests. -/
def rowsFrom (above : Address) (place : Nat) : Tree → List Row
  | .empty => []
  | .entry name record children rest =>
    let address := above ++ [(place, name)]
    ⟨address, record, !children.isEmpty⟩ ::
      (children.rowsFrom address 0 ++ rest.rowsFrom above (place + 1))

/-- All nodes of a tree. -/
def rows (tree : Tree) : List Row := tree.rowsFrom [] 0

end Tree

namespace ExtendedTree

/-- The nodes of a level and of those below it, each before the ones it nests. -/
def rowsFrom (above : Address) (place : Nat) : ExtendedTree → List Row
  | .empty => []
  | .leaf name record rest =>
    ⟨above ++ [(place, name)], record, false⟩ :: rest.rowsFrom above (place + 1)
  | .branch name record children rest =>
    let address := above ++ [(place, name)]
    ⟨address, record, true⟩ :: (children.rowsFrom address 0 ++ rest.rowsFrom above (place + 1))

/-- All nodes of an extended view. -/
def rows (view : ExtendedTree) : List Row := view.rowsFrom [] 0

/-- Whether each level below a node has entries. -/
def Tight : ExtendedTree → Prop
  | .empty => True
  | .leaf _ _ rest => rest.Tight
  | .branch _ _ children rest => children ≠ .empty ∧ children.Tight ∧ rest.Tight

/-- The tree that is read from an extended view: a leaf is a node with an empty level below it. -/
def toTree : ExtendedTree → Tree
  | .empty => .empty
  | .leaf name record rest => .entry name record .empty rest.toTree
  | .branch name record children rest => .entry name record children.toTree rest.toTree

end ExtendedTree

namespace SimpleTree

/-- The nodes of a level and of those below it, each before the ones it nests. -/
def rowsFrom (above : Address) (place : Nat) : SimpleTree → List SimpleRow
  | .empty => []
  | .leaf name text rest =>
    ⟨above ++ [(place, name)], some text⟩ :: rest.rowsFrom above (place + 1)
  | .branch name children rest =>
    let address := above ++ [(place, name)]
    ⟨address, none⟩ :: (children.rowsFrom address 0 ++ rest.rowsFrom above (place + 1))

/-- All nodes of a simple view. -/
def rows (view : SimpleTree) : List SimpleRow := view.rowsFrom [] 0

end SimpleTree

namespace Tree

theorem prune_entry {children : Tree} (nonempty : children ≠ .empty) (name : String)
    (record : Record) (rest : Tree) :
    (entry name record children rest).prune = .branch name record children.prune rest.prune := by
  cases children with
  | empty => exact absurd rfl nonempty
  | entry => rfl

/-- The extended view lists the nodes of the tree. -/
theorem rowsFrom_prune (tree : Tree) (above : Address) (place : Nat) :
    tree.prune.rowsFrom above place = tree.rowsFrom above place := by
  induction tree generalizing above place with
  | empty => rfl
  | entry name record children rest below later =>
      by_cases none : children = .empty
      · rw [none, prune, ExtendedTree.rowsFrom, rowsFrom, later]
        rfl
      · have nests : children.isEmpty = false := by
          cases children with
          | empty => exact absurd rfl none
          | entry => rfl
        rw [prune_entry none, ExtendedTree.rowsFrom, rowsFrom, below, later, nests]
        rfl

/-- A tree is read back from its extended view. -/
theorem toTree_prune (tree : Tree) : tree.prune.toTree = tree := by
  induction tree with
  | empty => rfl
  | entry name record children rest below later =>
      by_cases none : children = .empty
      · rw [none, prune, ExtendedTree.toTree, later]
      · rw [prune_entry none, ExtendedTree.toTree, below, later]

end Tree

namespace ExtendedTree

theorem toTree_eq_empty_iff (view : ExtendedTree) : view.toTree = .empty ↔ view = .empty := by
  cases view <;> simp [toTree]

/-- The extended views of trees are those without an empty level below a node. -/
theorem tight_iff (view : ExtendedTree) : view.Tight ↔ view.toTree.prune = view := by
  induction view with
  | empty => exact iff_of_true trivial rfl
  | leaf name record rest later => simp [Tight, toTree, Tree.prune, later]
  | branch name record children rest below later =>
      by_cases none : children = .empty
      -- Such a branch is read as a node with nothing below it, and so it comes back as a leaf.
      · simp [none, Tight, toTree, Tree.prune]
      · rw [Tight, toTree, Tree.prune_entry (mt children.toTree_eq_empty_iff.mp none), below, later]
        simp [none]

/-- The simple view lists the nodes of the extended view in words. -/
theorem rowsFrom_project (view : ExtendedTree) (above : Address) (place : Nat) :
    view.project.rowsFrom above place = (view.rowsFrom above place).map Row.simple := by
  induction view generalizing above place with
  | empty => rfl
  | leaf name record rest later => simp [project, SimpleTree.rowsFrom, rowsFrom, Row.simple, later]
  | branch name record children rest below later =>
      simp [project, SimpleTree.rowsFrom, rowsFrom, Row.simple, below, later]

end ExtendedTree

/--
The extended tree of an inventory lists the nodes of the collected tree, in the same order
and with all that is recorded about them; none of them has an empty level below it, and the
collected tree can be read back.  The simple tree lists the same nodes in the same order: a
node has its own location as a text exactly if there is no level below it.
-/
theorem Assembler.finish_lossless (assembler : Assembler) :
    let inventory := assembler.finish
    inventory.extendedTree.rows = assembler.tree.rows ∧
      inventory.extendedTree.Tight ∧
      inventory.extendedTree.toTree = assembler.tree ∧
      inventory.tree.rows = inventory.extendedTree.rows.map Row.simple := by
  intro inventory
  have isPruned : inventory.extendedTree = assembler.tree.prune := rfl
  have readBack : inventory.extendedTree.toTree = assembler.tree :=
    assembler.tree.toTree_prune
  refine ⟨assembler.tree.rowsFrom_prune [] 0, ?_, readBack,
    inventory.extendedTree.rowsFrom_project [] 0⟩
  rw [ExtendedTree.tight_iff, readBack, isPruned]

/-- A test keeps its children, and a suite without any is shown by its location. -/
example :
    let record : Record := ⟨.test .plain, ⟨"a.js", 1⟩⟩
    let empty : Record := ⟨.suite .plain, ⟨"a.js", 2⟩⟩
    let tree : Tree := .entry "t" record (.entry "s" empty .empty .empty) .empty
    tree.prune.project = .branch "t" (.leaf "s" "a.js:2" .empty) .empty ∧
      tree.prune.project.rows = [⟨[(0, "t")], none⟩, ⟨[(0, "t"), (0, "s")], some "a.js:2"⟩] := by
  decide +kernel

end TestInventory
