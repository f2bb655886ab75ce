/-!
# Kinds of declarations

A declaration is a suite, a test or a hook.  Suites and tests come in three
variants; a hook has none.  `Kind` is the tag that a recorded node carries.
-/

namespace TestInventory

/-- The plain, skipped or exclusive form of a suite or test. -/
inductive Variant where
  | plain
  | skip
  | only
  deriving DecidableEq, Repr, Inhabited

inductive Hook where
  | before
  | after
  | beforeEach
  | afterEach
  deriving DecidableEq, Repr, Inhabited

/-- What a node of the declaration tree was declared as. -/
inductive Kind where
  | suite (variant : Variant)
  | test (variant : Variant)
  | hook (hook : Hook)
  deriving DecidableEq, Repr, Inhabited

namespace Variant

def all : List Variant := [.plain, .skip, .only]

/-- What the variant adds to the name of a kind. -/
def ending : Variant → String
  | .plain => ""
  | .skip => "-skip"
  | .only => "-only"

end Variant

namespace Hook

def all : List Hook := [.before, .after, .beforeEach, .afterEach]

def name : Hook → String
  | .before => "before"
  | .after => "after"
  | .beforeEach => "beforeEach"
  | .afterEach => "afterEach"

/-- The name of the node that records the hook: its own name behind a colon. -/
def nodeName (hook : Hook) : String := ":" ++ hook.name

def ofName? (name : String) : Option Hook := all.find? (·.name = name)

end Hook

namespace Kind

def all : List Kind :=
  Variant.all.map .suite ++ Variant.all.map .test ++ Hook.all.map .hook

def name : Kind → String
  | .suite variant => "suite" ++ variant.ending
  | .test variant => "test" ++ variant.ending
  | .hook lifecycle => lifecycle.name

def ofName? (name : String) : Option Kind := all.find? (·.name = name)

/-- Whether declarations of this kind nest others. -/
def isSuite : Kind → Bool
  | .suite _ => true
  | _ => false

def isLeaf (kind : Kind) : Bool := !kind.isSuite

theorem ofName?_name (kind : Kind) : ofName? kind.name = some kind := by
  cases kind with
  | suite variant => cases variant <;> decide +kernel
  | test variant => cases variant <;> decide +kernel
  | hook lifecycle => cases lifecycle <;> decide +kernel

end Kind

theorem Hook.ofName?_name (hook : Hook) : Hook.ofName? hook.name = some hook := by
  cases hook <;> decide +kernel

end TestInventory
