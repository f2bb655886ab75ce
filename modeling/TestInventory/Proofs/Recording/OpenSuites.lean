import Mathlib.Data.List.Induction
import TestInventory.Proofs.Bracket
import TestInventory.Proofs.Recording.Declarations

/-!
# The open suites of a recording

The route of a recorder names the suites that it has heard of and not left.  Each
of them was opened while just the suites around it were open, and after a script
none is open.
-/

namespace TestInventory

namespace Signal

/-- The names of open suites, outermost first. -/
def namesOf (opened : List SuiteCall) : List String := (opened.map (·.name)).reverse

theorem routeAfter_namesOf (opened : List SuiteCall) (signal : Signal) :
    signal.routeAfter (namesOf opened) = namesOf (signal.opening opened) := by
  cases signal with
  | suite call => simp [routeAfter, opening, namesOf]
  | leave call outcome => simp [routeAfter, opening, namesOf]
  | test call => rfl
  | hook call => rfl
  | notice note => rfl

/-- The names of the open suites follow what is heard. -/
theorem foldl_routeAfter_namesOf (opened : List SuiteCall) (signals : List Signal) :
    signals.foldl routeAfter (namesOf opened) = namesOf (openAfter opened signals) := by
  induction signals generalizing opened with
  | nil => rfl
  | cons signal rest ih => rw [List.foldl_cons, routeAfter_namesOf, ih, openAfter_cons]

/-- Each suite that is open was opened inside the suites around it. -/
theorem exists_opening {signals : List Signal} (inner : List SuiteCall) {call : SuiteCall}
    {outer : List SuiteCall} (opened : openAfter [] signals = inner ++ call :: outer) :
    ∃ earlier, earlier ++ [.suite call] <+: signals ∧ openAfter [] earlier = outer := by
  induction signals using List.reverseRecOn generalizing inner with
  | nil => cases (List.append_eq_nil_iff.mp opened.symm).2
  | append_singleton signals signal ih =>
      have longer : signals <+: signals ++ [signal] := List.prefix_append ..
      have earlier : ∀ inner, openAfter [] signals = inner ++ call :: outer →
          ∃ earlier, earlier ++ [.suite call] <+: signals ++ [signal] ∧
            openAfter [] earlier = outer := by
        intro inner before
        obtain ⟨earlier, isPrefix, around⟩ := ih inner before
        exact ⟨earlier, isPrefix.trans longer, around⟩
      rw [openAfter_append] at opened
      cases signal with
      | suite last =>
          cases inner with
          | nil =>
              obtain ⟨rfl, around⟩ := List.cons.inj opened
              exact ⟨signals, List.prefix_rfl, around⟩
          | cons first inner => exact earlier inner (List.cons.inj opened).2
      | leave last outcome =>
          -- The suite that was left stood inside all that are still open.
          cases before : openAfter [] signals with
          | nil =>
              rw [before] at opened
              cases (List.append_eq_nil_iff.mp opened.symm).2
          | cons left rest =>
              rw [before] at opened
              have same : rest = inner ++ call :: outer := opened
              exact earlier (left :: inner) (by rw [before, same, List.cons_append])
      | test last => exact earlier inner opened
      | hook last => exact earlier inner opened
      | notice note => exact earlier inner opened

end Signal

open Signal

namespace Script

/-- After scripts all suites are closed. -/
theorem openAfter_flatMap (scripts : List Script) (opened : List SuiteCall) :
    openAfter opened (scripts.flatMap signals) = opened := by
  induction scripts with
  | nil => rfl
  | cons script scripts ih =>
      rw [List.flatMap_cons, openAfter_append, script.bracketed.openAfter_eq, ih]

end Script

namespace Recorder

/-- The route of a recording names the suites that are open. -/
theorem segments_eq_namesOf (resolver : Resolver) (signals : List Signal) :
    (({ resolver } : Recorder).replay signals).route.segments = namesOf (openAfter [] signals) :=
  (segments_replay _ signals).trans (foldl_routeAfter_namesOf [] signals)

end Recorder

end TestInventory
