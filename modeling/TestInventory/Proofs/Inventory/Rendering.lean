import TestInventory.Proofs.Inventory.Entries
import TestInventory.Proofs.Json.Blanks
import TestInventory.Proofs.Json.Reading

/-!
# Inventories are read as they were written

An inventory whose siblings have different names is read back from what is written
for it, in both layouts: every level keeps its names and their order, a node keeps
its record and whether it has children, and no part is taken for another.
-/

namespace TestInventory

open Json (Holds)

namespace ExtendedTree

/-- The nodes of a level: their names, records and children. -/
def nodes : ExtendedTree → List (String × Record × Option ExtendedTree)
  | .empty => []
  | .leaf name record rest => (name, record, none) :: rest.nodes
  | .branch name record children rest => (name, record, some children) :: rest.nodes

/-- The records of a level and of all levels below. -/
def records : ExtendedTree → List Record
  | .empty => []
  | .leaf _ record rest => record :: rest.records
  | .branch _ record children rest => record :: (children.records ++ rest.records)

/-- Whether no level has a name twice. -/
def Distinct : ExtendedTree → Prop
  | .empty => True
  | .leaf name _ rest => name ∉ rest.nodes.map Prod.fst ∧ rest.Distinct
  | .branch name _ children rest =>
    name ∉ rest.nodes.map Prod.fst ∧ children.Distinct ∧ rest.Distinct

theorem ofNodes_nodes (tree : ExtendedTree) : ofNodes tree.nodes = tree := by
  induction tree with
  | empty => rfl
  | leaf name record rest ih => rw [nodes, ofNodes, ih]
  | branch name record children rest _ ih => rw [nodes, ofNodes, ih]

theorem Distinct.nodup {tree : ExtendedTree} (distinct : tree.Distinct) :
    (tree.nodes.map Prod.fst).Nodup := by
  induction tree with
  | empty => exact .nil
  | leaf name record rest ih => exact List.nodup_cons.mpr ⟨distinct.1, ih distinct.2⟩
  | branch name record children rest _ ih =>
      exact List.nodup_cons.mpr ⟨distinct.1, ih distinct.2.2⟩

end ExtendedTree

namespace SimpleTree

/-- The nodes of a level: their names, with a location or the level below. -/
def nodes : SimpleTree → List (String × (String ⊕ SimpleTree))
  | .empty => []
  | .leaf name text rest => (name, .inl text) :: rest.nodes
  | .branch name children rest => (name, .inr children) :: rest.nodes

/-- Whether no level has a name twice. -/
def Distinct : SimpleTree → Prop
  | .empty => True
  | .leaf name _ rest => name ∉ rest.nodes.map Prod.fst ∧ rest.Distinct
  | .branch name children rest =>
    name ∉ rest.nodes.map Prod.fst ∧ children.Distinct ∧ rest.Distinct

theorem ofNodes_nodes (tree : SimpleTree) : ofNodes tree.nodes = tree := by
  induction tree with
  | empty => rfl
  | leaf name text rest ih => rw [nodes, ofNodes, ih]
  | branch name children rest _ ih => rw [nodes, ofNodes, ih]

theorem Distinct.nodup {tree : SimpleTree} (distinct : tree.Distinct) :
    (tree.nodes.map Prod.fst).Nodup := by
  induction tree with
  | empty => exact .nil
  | leaf name text rest ih => exact List.nodup_cons.mpr ⟨distinct.1, ih distinct.2⟩
  | branch name children rest _ ih =>
      exact List.nodup_cons.mpr ⟨distinct.1, ih distinct.2.2⟩

end SimpleTree

namespace Json

/-! ## The simple view -/

/-- Read a location or the level below, within a number of levels. -/
def simpleNode? (levels : Nat) : Json → Option (String ⊕ SimpleTree)
  | .string content => content.map .inl
  | value => (simpleTree? levels value).map .inr

theorem simpleTree?_object (levels : Nat) (fields : List (Option String × Json)) :
    simpleTree? (levels + 1) (.object fields) =
      (entries? (simpleNode? levels) fields).map .ofNodes := by
  rw [simpleTree?, Option.map_eq_bind]
  rfl

theorem simpleTree?_of_holds {levels : Nat} {tree : SimpleTree}
    (holds : List.Forall₂ (Holds (simpleNode? levels)) tree.toFields tree.nodes)
    (distinct : tree.Distinct) : simpleTree? (levels + 1) (.object tree.toFields) = some tree := by
  rw [simpleTree?_object, entries?_of_holds holds distinct.nodup, Option.map_some,
    tree.ofNodes_nodes]

/-- The fields of a level are read as its nodes. -/
theorem simpleNode?_holds {tree : SimpleTree} (distinct : tree.Distinct) {levels : Nat}
    (shallow : fieldLevels tree.toFields ≤ levels) :
    List.Forall₂ (Holds (simpleNode? levels)) tree.toFields tree.nodes := by
  induction tree generalizing levels with
  | empty => exact .nil
  | leaf name text rest ih =>
      rw [SimpleTree.toFields, fieldLevels, Nat.max_le] at shallow
      exact .cons ⟨rfl, rfl⟩ (ih distinct.2 shallow.2)
  | branch name children rest childrenIh ih =>
      rw [SimpleTree.toFields, fieldLevels, Json.levels, Nat.max_le] at shallow
      refine .cons ⟨rfl, ?_⟩ (ih distinct.2.2 shallow.2)
      obtain ⟨below, rfl⟩ : ∃ below, levels = below + 1 := ⟨levels - 1, by omega⟩
      have inner : fieldLevels children.toFields ≤ below := by omega
      have read := simpleTree?_of_holds (childrenIh distinct.2.1 inner) distinct.2.1
      rw [simpleNode?, read]
      · rfl
      · intro content same
        cases same

/-! ## The extended view -/

theorem line?_ofNat {line : Nat} (short : line < 0x100000000) : line? (ofNat line) = some line := by
  rw [ofNat, line?, Token.decimal?_toString]
  exact if_pos short

theorem extendedTree?_of_holds {levels : Nat} {tree : ExtendedTree}
    (holds : List.Forall₂ (Holds (extendedNode? levels)) tree.toFields tree.nodes)
    (distinct : tree.Distinct) :
    extendedTree? (levels + 1) (.object tree.toFields) = some tree := by
  rw [extendedTree?, entries?_of_holds holds distinct.nodup]
  exact congrArg some tree.ofNodes_nodes

/-- What is written of a record is read as the record of a node without children. -/
theorem extendedNode?_leaf {record : Record} (short : record.location.line < 0x100000000)
    (levels : Nat) :
    extendedNode? (levels + 1) (.object (ExtendedTree.recordFields record)) =
      some (record, none) := by
  have line := line?_ofNat short
  simp [extendedNode?, parts?_object, single?, ExtendedTree.recordFields, kind?, text?, ofText,
    Kind.ofName?_name, line]

/-- A node keeps its children, also when there are none in the level. -/
theorem extendedNode?_branch {record : Record} (short : record.location.line < 0x100000000)
    {levels : Nat} {children : ExtendedTree}
    (read : extendedTree? levels (.object children.toFields) = some children) :
    extendedNode? (levels + 1) (.object (ExtendedTree.recordFields record ++
        [(some "children", .object children.toFields)])) =
      some (record, some children) := by
  have line := line?_ofNat short
  simp [extendedNode?, parts?_object, single?, ExtendedTree.recordFields, kind?, text?, ofText,
    Kind.ofName?_name, line, read]

/-- The fields of a level are read as its nodes. -/
theorem extendedNode?_holds {tree : ExtendedTree} (distinct : tree.Distinct)
    (short : ∀ record ∈ tree.records, record.location.line < 0x100000000) {levels : Nat}
    (shallow : fieldLevels tree.toFields ≤ levels) :
    List.Forall₂ (Holds (extendedNode? levels)) tree.toFields tree.nodes := by
  induction tree generalizing levels with
  | empty => exact .nil
  | leaf name record rest ih =>
      rw [ExtendedTree.toFields, fieldLevels, Json.levels, Nat.max_le] at shallow
      obtain ⟨own, later⟩ := List.forall_mem_cons.mp short
      obtain ⟨below, rfl⟩ : ∃ below, levels = below + 1 := ⟨levels - 1, by omega⟩
      exact .cons ⟨rfl, extendedNode?_leaf own below⟩ (ih distinct.2 later shallow.2)
  | branch name record children rest childrenIh ih =>
      rw [ExtendedTree.toFields, fieldLevels, Nat.max_le] at shallow
      simp only [Json.levels, ExtendedTree.recordFields, List.cons_append, List.nil_append,
        fieldLevels] at shallow
      obtain ⟨own, others⟩ := List.forall_mem_cons.mp short
      obtain ⟨inside, later⟩ := List.forall_mem_append.mp others
      -- Two levels are used up: the object of the node and the object of its children.
      obtain ⟨below, rfl⟩ : ∃ below, levels = below + 2 := ⟨levels - 2, by omega⟩
      have inner : fieldLevels children.toFields ≤ below := by omega
      have read := extendedTree?_of_holds (childrenIh distinct.2.1 inside inner) distinct.2.1
      exact .cons ⟨rfl, extendedNode?_branch own read⟩ (ih distinct.2.2 later shallow.2)

end Json

namespace Inventory

/-- Whether siblings have different names and every line number fits into 32 bits. -/
structure WellFormed (inventory : Inventory) : Prop where
  tree : inventory.tree.Distinct
  extendedTree : inventory.extendedTree.Distinct
  lines : ∀ record ∈ inventory.extendedTree.records, record.location.line < 0x100000000

end Inventory

namespace Json

theorem texts?_ofTexts (levels : Nat) (texts : List String) :
    texts? (levels + 1) (ofTexts texts) = some texts := by
  rw [ofTexts, texts?]
  induction texts with
  | nil => rfl
  | cons text texts ih =>
      rw [List.map_cons, List.mapM_cons, ih]
      rfl

end Json

namespace Inventory

/-- The value of an inventory is read as the inventory. -/
theorem ofJson?_toJson {inventory : Inventory} (wellFormed : inventory.WellFormed) {levels : Nat}
    (shallow : inventory.toJson.levels ≤ levels) :
    ofJson? levels inventory.toJson = some inventory := by
  simp only [toJson, Json.levels, Json.fieldLevels, Json.ofTexts] at shallow
  obtain ⟨below, rfl⟩ : ∃ below, levels = below + 2 := ⟨levels - 2, by omega⟩
  have simple : Json.fieldLevels inventory.tree.toFields ≤ below := by omega
  have extended : Json.fieldLevels inventory.extendedTree.toFields ≤ below := by omega
  have tree := Json.simpleTree?_of_holds (Json.simpleNode?_holds wellFormed.tree simple)
    wellFormed.tree
  have extendedTree := Json.extendedTree?_of_holds
    (Json.extendedNode?_holds wellFormed.extendedTree wellFormed.lines extended)
    wellFormed.extendedTree
  simp [toJson, ofJson?, Json.parts?_object, Json.single?, Json.texts?_ofTexts, tree, extendedTree]

end Inventory

/-! ## The written form -/

namespace Json

theorem itemsNumbered_ofText (texts : List String) : ItemsNumbered (texts.map ofText) := by
  induction texts with
  | nil => exact trivial
  | cons text texts ih => exact ⟨trivial, ih⟩

theorem fieldsNumbered_simple (tree : SimpleTree) : FieldsNumbered tree.toFields := by
  induction tree with
  | empty => exact trivial
  | leaf name text rest ih => exact ⟨trivial, ih⟩
  | branch name children rest childrenIh ih => exact ⟨childrenIh, ih⟩

theorem fieldsNumbered_extended (tree : ExtendedTree) : FieldsNumbered tree.toFields := by
  have line (record : Record) : Numbered (ofNat record.location.line) :=
    Token.isNumber_toString record.location.line
  induction tree with
  | empty => exact trivial
  | leaf name record rest ih => exact ⟨⟨trivial, trivial, line record, trivial⟩, ih⟩
  | branch name record children rest childrenIh ih =>
      exact ⟨⟨trivial, trivial, line record, childrenIh, trivial⟩, ih⟩

end Json

namespace Inventory

theorem numbered_toJson (inventory : Inventory) : inventory.toJson.Numbered :=
  ⟨Json.itemsNumbered_ofText _, Json.itemsNumbered_ofText _, Json.fieldsNumbered_simple _,
    Json.fieldsNumbered_extended _, trivial⟩

theorem parse?_render (inventory : Inventory) (compact : Bool) :
    Json.parse? (inventory.render compact) = some inventory.toJson := by
  cases compact with
  | false => exact Json.parse?_write Json.Layout.blank_spread inventory.numbered_toJson
  | true => exact Json.parse?_write Json.Layout.blank_compact inventory.numbered_toJson

theorem strip_render (inventory : Inventory) (compact : Bool) :
    Json.strip .outside (inventory.render compact).toList = (inventory.render true).toList := by
  cases compact with
  | false => exact Json.strip_write Json.Layout.blank_spread 0 inventory.numbered_toJson
  | true => exact Json.strip_write Json.Layout.blank_compact 0 inventory.numbered_toJson

/--
A written inventory that nests less than 128 levels is read as itself.  However deep
it nests, both forms are the same value, and the compact form is what is left of either
without the blanks outside its strings.
-/
theorem rendering_lossless (inventory : Inventory) :
    (inventory.WellFormed → inventory.toJson.levels < 128 →
        ∀ compact, parse? (inventory.render compact) = some inventory) ∧
      (∀ compact, Json.parse? (inventory.render compact) = some inventory.toJson) ∧
      ∀ compact, Json.strip .outside (inventory.render compact).toList =
        (inventory.render true).toList := by
  refine ⟨fun wellFormed shallow compact => ?_, inventory.parse?_render, inventory.strip_render⟩
  rw [parse?, parse?_render, Option.bind_some]
  exact ofJson?_toJson wellFormed (Nat.le_of_lt_succ shallow)

/-- An inventory with names that have to be escaped and a level without nodes. -/
def awkward : Inventory where
  suites := ["say \"hi\"", "say \"hi\""]
  tests := ["bell\x07\tbell", "C:\\temp\n", ""]
  tree := .branch "say \"hi\"" (.leaf "\x00" "a b.js:7" .empty) (.branch "" .empty .empty)
  extendedTree :=
    .branch "say \"hi\"" ⟨.suite .only, ⟨"a b.js", 4294967295⟩⟩
      (.branch "deeper" .marker .empty (.leaf ":before" ⟨.hook .before, ⟨"\\", 2⟩⟩ .empty))
      (.leaf "π" ⟨.test .skip, .unknown⟩ .empty)

theorem rendering_lossless_awkward :
    awkward.WellFormed ∧ awkward.toJson.levels < 128 ∧
      ∀ compact, parse? (awkward.render compact) = some awkward := by
  have wellFormed : awkward.WellFormed := by
    refine ⟨?_, ?_, by decide⟩
    · simp [awkward, SimpleTree.Distinct, SimpleTree.nodes]
    · simp [awkward, ExtendedTree.Distinct, ExtendedTree.nodes]
  have shallow : awkward.toJson.levels < 128 := by decide +kernel
  exact ⟨wellFormed, shallow, (rendering_lossless awkward).1 wellFormed shallow⟩

end Inventory

end TestInventory
