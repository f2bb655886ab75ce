import TestInventory.Script

/-!
# Traces of declarations

A tracer writes down everything it hears, with the number of suites open at
that moment.  It can be told to fail at a certain suite, or to enter none.
-/

namespace TestInventory

inductive TraceLog where
  | suite (call : SuiteCall) (depth : Nat)
  | test (call : TestCall) (depth : Nat)
  | hook (call : HookCall) (depth : Nat)
  | ended (name : String) (well : Bool)
  deriving DecidableEq, Repr, Inhabited

/-- How a tracer treats suites. -/
structure TracePlan where
  /-- The suite to fail at, counted from 1. -/
  failAt : Option Nat := none
  enters : Bool := true
  deriving DecidableEq, Repr, Inhabited

structure Tracer where
  depth : Nat := 0
  suitesSeen : Nat := 0
  /-- The lines, last first. -/
  log : List TraceLog := []
  deriving DecidableEq, Repr, Inhabited

namespace Tracer

def write (tracer : Tracer) (line : TraceLog) : Tracer := { tracer with log := line :: tracer.log }

/-- The error of a tracer that was told to fail at a suite. -/
def failure (name : String) : LoadError := .custom ("observer failed at " ++ name)

def listener (plan : TracePlan) : Listener Tracer where
  suite call tracer :=
    let heard := { tracer.write (.suite call tracer.depth) with suitesSeen := tracer.suitesSeen + 1 }
    if plan.failAt = some heard.suitesSeen then (.refuse (failure call.name), heard)
    else if plan.enters then (.enter, { heard with depth := heard.depth + 1 })
    else (.pass, heard)
  leave call outcome tracer :=
    { tracer with depth := tracer.depth - 1 }.write (.ended call.name outcome.isOk)
  test call tracer := tracer.write (.test call tracer.depth)
  hook call tracer := tracer.write (.hook call tracer.depth)
  notice _ tracer := tracer

def lines (tracer : Tracer) : List TraceLog := tracer.log.reverse

end Tracer

end TestInventory
