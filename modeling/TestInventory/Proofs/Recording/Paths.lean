import TestInventory.Proofs.Recording.Declarations

/-!
# The path lists of a recording

The two path lists are read off the declarations of a recording: each suite and
each test contributes its dotted path, where it was contributed first, and a hook
contributes none.  The lists and the tree are updated apart from each other, and
different nodes may have the same dotted path; still every suite and test of the
tree is listed, and every listed path belongs to a node.
-/

namespace TestInventory

/-- Whether declarations of this kind are tests. -/
def Kind.isTest : Kind → Bool
  | .test _ => true
  | _ => false

/-! ## Paths in the extended view -/

namespace ExtendedTree

/-- The record and the children under a name; a leaf has no children. -/
def find? (key : String) : ExtendedTree → Option (Record × ExtendedTree)
  | .empty => none
  | .leaf name record rest => if name = key then some (record, .empty) else rest.find? key
  | .branch name record children rest =>
    if name = key then some (record, children) else rest.find? key

/-- The record at a path. -/
def lookup? : List String → ExtendedTree → Option Record
  | [], _ => none
  | [name], tree => (tree.find? name).map Prod.fst
  | name :: path, tree => (tree.find? name).bind fun found => lookup? path found.2

end ExtendedTree

namespace Tree

theorem find?_prune (tree : Tree) (key : String) :
    tree.prune.find? key = (tree.find? key).map (Prod.map id prune) := by
  induction tree with
  | empty => rfl
  | entry name record children rest _ ih =>
      cases children with
      | empty => by_cases here : name = key <;> simp [prune, find?, ExtendedTree.find?, here, ih]
      | entry => by_cases here : name = key <;> simp [prune, find?, ExtendedTree.find?, here, ih]

/-- The extended view keeps the record at every path. -/
theorem lookup?_prune (tree : Tree) (path : List String) :
    tree.prune.lookup? path = tree.lookup? path := by
  induction path generalizing tree with
  | nil => rfl
  | cons name path ih =>
      cases path with
      | nil =>
          rw [lookup?, ExtendedTree.lookup?, find?_prune, Option.map_map]
          rfl
      | cons next path =>
          rw [lookup?_cons_cons, ExtendedTree.lookup?, find?_prune, Option.bind_map]
          · exact congrArg _ (funext fun found => ih found.2)
          · exact List.cons_ne_nil next path

end Tree

/-! ## What declarations contribute -/

namespace Declaration

/-- The dotted path of a suite: its route and its name. -/
def dottedPath (declaration : Declaration) : String := ".".intercalate declaration.path

/-- The dotted path of a test below its route. -/
def leafPath (declaration : Declaration) : String :=
  Route.leafPath ⟨declaration.route⟩ declaration.name

/-- What declarations of some kinds contribute, each where it was contributed first. -/
def contributed (which : Kind → Bool) (entry : Declaration → String)
    (made : List Declaration) : List String :=
  ((made.filter (which ·.record.kind)).map entry).eraseDups

/-- The dotted paths of the declared suites. -/
def suitePaths (made : List Declaration) : List String := contributed Kind.isSuite dottedPath made

/-- The dotted paths of the declared tests. -/
def testPaths (made : List Declaration) : List String := contributed Kind.isTest leafPath made

variable (which : Kind → Bool) (entry : Declaration → String) (made : List Declaration)

/-- A further declaration adds its path, if it is of one of the kinds. -/
theorem contributed_concat (declaration : Declaration) :
    contributed which entry (made ++ [declaration]) =
      if which declaration.record.kind then
        addPath (contributed which entry made) (entry declaration)
      else contributed which entry made := by
  by_cases counts : which declaration.record.kind
  · simp only [contributed, List.filter_append, List.map_append, counts, if_true, addPath,
      List.mem_eraseDups, List.filter_cons_of_pos, List.filter_nil, List.map_cons, List.map_nil]
    exact eraseDups_concat _ _
  · simp [contributed, List.filter_append, counts]

theorem mem_contributed {path : String} :
    path ∈ contributed which entry made ↔
      ∃ declaration ∈ made, which declaration.record.kind ∧ entry declaration = path := by
  simp [contributed, and_assoc]

theorem nodup_contributed : (contributed which entry made).Nodup := nodup_eraseDups _

end Declaration

/-- Whether the path lists of a recorder are those of the declarations made so far. -/
structure Recorder.Lists (recorder : Recorder) (made : List Declaration) : Prop where
  suites_eq : recorder.assembler.suites = Declaration.suitePaths made
  tests_eq : recorder.assembler.tests = Declaration.testPaths made

namespace Recorder.Lists

variable {recorder : Recorder} {made : List Declaration}

theorem start (resolver : Resolver) : Lists { resolver } [] := ⟨rfl, rfl⟩

/-- A declaration that adds its path to the list of its kind is among those listed. -/
theorem add (lists : recorder.Lists made) {after : Recorder} {declaration : Declaration}
    (suites : after.assembler.suites = if declaration.record.kind.isSuite then
      addPath recorder.assembler.suites declaration.dottedPath else recorder.assembler.suites)
    (tests : after.assembler.tests = if declaration.record.kind.isTest then
      addPath recorder.assembler.tests declaration.leafPath else recorder.assembler.tests) :
    after.Lists (made ++ [declaration]) where
  suites_eq := by
    rw [suites, lists.suites_eq]
    exact (Declaration.contributed_concat ..).symm
  tests_eq := by
    rw [tests, lists.tests_eq]
    exact (Declaration.contributed_concat ..).symm

/-- The lists of a recorder that hears signals are those of the declarations among them. -/
theorem replay (lists : recorder.Lists made) (signals : List Signal) :
    (recorder.replay signals).Lists
      (made ++ declarations recorder.resolver recorder.route.segments signals) :=
  Recorder.replay_induction (fun _ _ _ lists => lists.add rfl rfl)
    (fun _ _ lists => ⟨lists.suites_eq, lists.tests_eq⟩) (fun _ _ _ lists => lists.add rfl rfl)
    (fun _ _ _ lists => lists.add rfl rfl)
    (fun _ _ _ lists => ⟨lists.suites_eq, lists.tests_eq⟩) lists signals

end Recorder.Lists

/-! ## Lists and tree together -/

/-- Whether an inventory lists the suites and tests of its tree, and those of its declarations. -/
structure Inventory.Consistent (inventory : Inventory) (made : List Declaration) : Prop where
  suites_eq : inventory.suites = Declaration.suitePaths made
  tests_eq : inventory.tests = Declaration.testPaths made
  suites_nodup : inventory.suites.Nodup
  tests_nodup : inventory.tests.Nodup
  suite_listed : ∀ path record, inventory.extendedTree.lookup? path = some record →
    record.kind.isSuite = true → ".".intercalate path ∈ inventory.suites
  test_listed : ∀ route name record, inventory.extendedTree.lookup? (route ++ [name]) = some record →
    record.kind.isTest = true → Route.leafPath ⟨route⟩ name ∈ inventory.tests
  suite_found : ∀ entry ∈ inventory.suites, ∃ path record,
    inventory.extendedTree.lookup? path = some record ∧ ".".intercalate path = entry
  test_found : ∀ entry ∈ inventory.tests, ∃ route name record,
    inventory.extendedTree.lookup? (route ++ [name]) = some record ∧
      Route.leafPath ⟨route⟩ name = entry

/-- A recorder whose tree and lists are those of its declarations has a consistent inventory. -/
theorem Recorder.Agrees.consistent {recorder : Recorder} {made : List Declaration}
    (agrees : recorder.Agrees made) (lists : recorder.Lists made) :
    recorder.finish.Consistent made := by
  have suites : recorder.finish.suites = Declaration.suitePaths made := lists.suites_eq
  have tests : recorder.finish.tests = Declaration.testPaths made := lists.tests_eq
  have last : ∀ path, recorder.finish.extendedTree.lookup? path = Declaration.lastAt? made path :=
    fun path => (Tree.lookup?_prune _ path).trans (agrees.lookup_eq path)
  have found : ∀ declaration ∈ made, ∃ record,
      recorder.finish.extendedTree.lookup? declaration.path = some record := by
    intro declaration member
    rw [last]
    exact Option.isSome_iff_exists.mp
      ((Declaration.lastAt?_isSome_iff made _).mpr ⟨declaration, member, rfl⟩)
  refine ⟨suites, tests, ?_, ?_, ?_, ?_, ?_, ?_⟩
  · rw [suites]
    exact Declaration.nodup_contributed ..
  · rw [tests]
    exact Declaration.nodup_contributed ..
  · intro path record here suite
    rw [last] at here
    obtain ⟨declaration, member, rfl, rfl⟩ := Declaration.mem_of_lastAt? here
    rw [suites]
    exact (Declaration.mem_contributed ..).mpr ⟨declaration, member, suite, rfl⟩
  · intro route name record here test
    rw [last] at here
    obtain ⟨declaration, member, path, rfl⟩ := Declaration.mem_of_lastAt? here
    obtain ⟨rfl, same⟩ := List.append_inj' path rfl
    cases same
    rw [tests]
    exact (Declaration.mem_contributed ..).mpr ⟨declaration, member, test, rfl⟩
  · intro entry listed
    rw [suites] at listed
    obtain ⟨declaration, member, -, rfl⟩ := (Declaration.mem_contributed ..).mp listed
    obtain ⟨record, here⟩ := found declaration member
    exact ⟨declaration.path, record, here, rfl⟩
  · intro entry listed
    rw [tests] at listed
    obtain ⟨declaration, member, -, rfl⟩ := (Declaration.mem_contributed ..).mp listed
    obtain ⟨record, here⟩ := found declaration member
    exact ⟨declaration.route, declaration.name, record, here, rfl⟩

/--
The inventory of every recording is consistent with the declarations made: after
scripts that are played one after another, some of which may fail inside suites,
and after every sequence of signals, also one that stops while suites are open.
-/
theorem Recorder.inventory_consistent (resolver : Resolver) :
    (∀ scripts : List Script, (({ resolver } : Recorder).playAll scripts).finish.Consistent
      (declarations resolver [] (scripts.flatMap Script.signals))) ∧
    ∀ signals : List Signal, (({ resolver } : Recorder).replay signals).finish.Consistent
      (declarations resolver [] signals) := by
  have consistent : ∀ signals : List Signal,
      (({ resolver } : Recorder).replay signals).finish.Consistent
        (declarations resolver [] signals) := fun signals =>
    ((Agrees.start resolver).replay signals).consistent ((Lists.start resolver).replay signals)
  refine ⟨fun scripts => ?_, consistent⟩
  rw [Recorder.playAll_eq_replay]
  exact consistent _

/-- Suites at different places may have one dotted path, which is listed once. -/
example : (({} : Recorder).playAll [.suite { name := "a.b" } .done .done,
    .suite { name := "a" } (.suite { name := "b" } .done .done) .done]).finish.suites =
      ["a.b", "a"] := by
  decide +kernel

end TestInventory
