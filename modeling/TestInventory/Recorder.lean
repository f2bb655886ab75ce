import TestInventory.Inventory
import TestInventory.Route
import TestInventory.Script
import TestInventory.Site.Resolver

/-!
# Recording declarations

The recorder is the listener that makes an inventory.  It enters every suite,
which is how nesting is found, and runs no test or hook.  Its journal tells in
order what was declared and what was noticed on the way.
-/

namespace TestInventory

inductive Event where
  /-- A declaration was recorded while `depth` suites were open. -/
  | declared (name : String) (record : Record) (depth : Nat)
  | noticed (notice : Notice)
  deriving DecidableEq, Repr, Inhabited

/-- Collects declarations into a tree and two lists of distinct paths. -/
structure Assembler where
  tree : Tree := .empty
  suites : List String := []
  tests : List String := []
  deriving DecidableEq, Repr, Inhabited

/-- Put a path behind the others unless it is there already. -/
def addPath (paths : List String) (path : String) : List String :=
  if path ∈ paths then paths else paths ++ [path]

namespace Assembler

def insert (assembler : Assembler) (route : List String) (name : String) (record : Record) :
    Assembler :=
  { assembler with tree := assembler.tree.insert route name record }

def addSuite (assembler : Assembler) (path : String) : Assembler :=
  { assembler with suites := addPath assembler.suites path }

def addTest (assembler : Assembler) (path : String) : Assembler :=
  { assembler with tests := addPath assembler.tests path }

def finish (assembler : Assembler) : Inventory :=
  .ofTree assembler.suites assembler.tests assembler.tree

end Assembler

structure Recorder where
  resolver : Resolver := .absolute
  route : Route := {}
  assembler : Assembler := {}
  /-- What happened so far, last first. -/
  journal : List Event := []
  deriving DecidableEq, Repr, Inhabited

namespace Recorder

def record (recorder : Recorder) (name : String) (kind : Kind) (site : CallSite) : Recorder :=
  let record : Record := ⟨kind, recorder.resolver.resolve site⟩
  { recorder with
    assembler := recorder.assembler.insert recorder.route.segments name record
    journal := .declared name record recorder.route.depth :: recorder.journal }

/-- Record a suite and open it. -/
def enter (recorder : Recorder) (call : SuiteCall) : Recorder :=
  let recorded := recorder.record call.name (.suite call.variant) call.site
  let route := recorded.route.push call.name
  -- The suite is recorded under those around it, and listed under its own path.
  { recorded with route, assembler := recorded.assembler.addSuite route.suitePath }

def leave (recorder : Recorder) : Recorder := { recorder with route := recorder.route.pop }

def addTest (recorder : Recorder) (call : TestCall) : Recorder :=
  let recorded := recorder.record call.name (.test call.variant) call.site
  { recorded with
    assembler := recorded.assembler.addTest (recorded.route.leafPath call.name) }

def addHook (recorder : Recorder) (call : HookCall) : Recorder :=
  recorder.record call.hook.nodeName (.hook call.hook) call.site

/-- The recorder as a listener: every suite is entered. -/
def listener : Listener Recorder where
  suite call recorder := (.enter, recorder.enter call)
  leave _ _ recorder := recorder.leave
  test call recorder := recorder.addTest call
  hook call recorder := recorder.addHook call
  notice note recorder := { recorder with journal := .noticed note :: recorder.journal }

def play (recorder : Recorder) (script : Script) : Outcome × Recorder :=
  script.play listener recorder

/-- The journal in the order in which things happened. -/
def events (recorder : Recorder) : List Event := recorder.journal.reverse

def finish (recorder : Recorder) : Inventory := recorder.assembler.finish

end Recorder

end TestInventory
