import TestInventory.Script

/-!
# What code does with a scope

A script is fixed beforehand.  Code that is given a scope may look at how the suites
ended that it opened, and go on after one that failed; it learns nothing else.
-/

namespace TestInventory

/-- What code does with the scope that it is given, after each suite by how that ended. -/
inductive Conduct where
  | ended (outcome : Outcome)
  | suite (call : SuiteCall) (inside : Conduct) (next : Outcome → Conduct)
  | test (call : TestCall) (next : Conduct)
  | hook (call : HookCall) (next : Conduct)
  | notice (note : Notice) (next : Conduct)

def Conduct.run {σ : Type} (listener : Listener σ) : Conduct → σ → Outcome × σ
  | .ended outcome, heard => (outcome, heard)
  | .test call next, heard => next.run listener (listener.test call heard)
  | .hook call next, heard => next.run listener (listener.hook call heard)
  | .notice note next, heard => next.run listener (listener.notice note heard)
  | .suite call inside next, heard =>
    match listener.suite call heard with
    | (.refuse error, heard) => (next (.error error)).run listener heard
    | (.pass, heard) => (next (.ok ())).run listener heard
    | (.enter, heard) =>
      match inside.run listener heard with
      | (outcome, heard) => (next outcome).run listener (listener.leave call outcome heard)

/-- What the code of a script does: it ends with the first suite that fails. -/
def Script.conduct : Script → Conduct
  | .done => .ended (.ok ())
  | .fail error => .ended (.error error)
  | .test call next => .test call next.conduct
  | .hook call next => .hook call next.conduct
  | .notice note next => .notice note next.conduct
  | .suite call body next => .suite call body.conduct fun
    | .ok () => next.conduct
    | .error error => .ended (.error error)

instance : Coe Script Conduct := ⟨Script.conduct⟩

end TestInventory
