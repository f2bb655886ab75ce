import TestInventory.Kind

/-!
# Interfaces

An interface is a vocabulary: the names that a test file calls to declare
suites, tests and hooks.  A plain suite or test name also takes the modifiers
`skip` and `only` as a member.
-/

namespace TestInventory

inductive Entry where
  | suite (variant : Variant)
  | test (variant : Variant)
  | hook (hook : Hook)
  deriving DecidableEq, Repr, Inhabited

inductive Interface where
  | bdd
  | tdd
  deriving DecidableEq, Repr, Inhabited

namespace Interface

def all : List Interface := [.bdd, .tdd]

def name : Interface → String
  | .bdd => "bdd"
  | .tdd => "tdd"

def ofName? (name : String) : Option Interface := all.find? (·.name = name)

/-- The words of an interface and what they declare. -/
def vocabulary : Interface → List (String × Entry)
  | .bdd =>
    [("describe", .suite .plain), ("context", .suite .plain),
      ("xdescribe", .suite .skip), ("xcontext", .suite .skip),
      ("it", .test .plain), ("specify", .test .plain),
      ("xit", .test .skip), ("xspecify", .test .skip),
      ("before", .hook .before), ("after", .hook .after),
      ("beforeEach", .hook .beforeEach), ("afterEach", .hook .afterEach)]
  | .tdd =>
    [("suite", .suite .plain), ("test", .test .plain),
      ("suiteSetup", .hook .before), ("suiteTeardown", .hook .after),
      ("setup", .hook .beforeEach), ("teardown", .hook .afterEach)]

def modifier? : String → Option Variant
  | "skip" => some .skip
  | "only" => some .only
  | _ => none

/-- What a call of `callee`, or of its member `modifier`, declares. -/
def classify (interface : Interface) (callee : String) (modifier : Option String) :
    Option Entry := do
  let entry ← interface.vocabulary.lookup callee
  match entry, modifier with
  | entry, none => some entry
  | .suite .plain, some word => (modifier? word).map .suite
  | .test .plain, some word => (modifier? word).map .test
  | _, some _ => none

/-- A text with its ASCII capitals made small. -/
def lowerAscii (text : String) : String := String.ofList (text.toList.map Char.toLower)

/-- Read an interface written in capitals or small letters; the error is a message. -/
def parse (text : String) : Except String Interface :=
  let word := lowerAscii text
  match ofName? word with
  | some interface => .ok interface
  | none => .error ("unknown interface '" ++ word ++ "' (expected 'bdd' or 'tdd')")

end Interface

end TestInventory
