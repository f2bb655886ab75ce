import TestInventory.Proofs.Recording.OpenSuites
import TestInventory.Proofs.Route

/-!
# Listed tests below listed suites

Inside a suite, the path that a test contributes extends the path that the suite
contributed, as long as the latter begins with a character other than a dot.  If
it does not, a dot is lost from the path of the test and not from that of the
suite, and the two lists no longer tell that the test stands in the suite.

Two tests of one suite have one path only if they have one name or their names differ
by a dot at the end.
-/

namespace TestInventory

namespace Recorder

variable (resolver : Resolver)

/-- Where a suite is open, the route is the one that it opened. -/
theorem route_of_openAfter {before earlier : List Signal} {suite : SuiteCall}
    (opened : Signal.openAfter [] before = suite :: Signal.openAfter [] earlier) :
    (({ resolver } : Recorder).replay before).route =
      (({ resolver } : Recorder).replay earlier).route.push suite.name := by
  have segments : (({ resolver } : Recorder).replay before).route.segments =
      (({ resolver } : Recorder).replay earlier).route.segments ++ [suite.name] := by
    rw [segments_eq_namesOf, segments_eq_namesOf, opened]
    simp [Signal.namesOf]
  exact congrArg Route.mk segments

/--
A test is declared while suites are open, and the innermost of them contributed its
path when it was entered.  What the test contributes extends that path exactly if the
path begins with a character other than a dot, or if path and name are dots only;
else it lacks the dot with which the path begins, or the one behind an empty path.
-/
theorem test_extends_suite_iff (before : List Signal) (suite : SuiteCall)
    (around : List SuiteCall) (inside : Signal.openAfter [] before = suite :: around)
    (call : TestCall) :
    let recorder := ({ resolver } : Recorder).replay before
    let path := recorder.route.suitePath
    let entry := recorder.route.leafPath call.name
    (∃ earlier, earlier ++ [.suite suite] <+: before ∧ Signal.openAfter [] earlier = around ∧
      let opener := ({ resolver } : Recorder).replay earlier
      (opener.enter suite).assembler.suites = addPath opener.assembler.suites path) ∧
    (recorder.addTest call).assembler.tests = addPath recorder.assembler.tests entry ∧
    (Route.Extends entry path call.name ↔
      Route.beginsPlain path = true ∨ ∀ c ∈ (path ++ "." ++ call.name).toList, c = '.') ∧
    (Route.beginsPlain path = false → "." ++ entry = path ++ "." ++ call.name) := by
  intro recorder path entry
  obtain ⟨earlier, isPrefix, rfl⟩ := Signal.exists_opening [] inside
  have route := route_of_openAfter resolver inside
  refine ⟨⟨earlier, isPrefix, rfl, ?_⟩, rfl, recorder.route.extends_leafPath_iff call.name,
    recorder.route.dot_append_leafPath call.name⟩
  show addPath _ _ = addPath _ recorder.route.suitePath
  rw [route]
  rfl

/-- In a suite of a suite, a test whose name ends in a dot. -/
theorem test_extends_suite_iff_nested :
    let before : List Signal := [.suite { name := "a" }, .suite { name := "b" }]
    Signal.openAfter [] before = [{ name := "b" }, { name := "a" }] ∧
      (({} : Recorder).replay before).route.suitePath = "a.b" ∧
      Route.Extends ((({} : Recorder).replay before).route.leafPath "t.") "a.b" "t." := by
  intro before
  have path : (({} : Recorder).replay before).route.suitePath = "a.b" := by decide +kernel
  obtain ⟨-, -, extending, -⟩ :=
    test_extends_suite_iff .absolute before { name := "b" } [{ name := "a" }] rfl { name := "t." }
  refine ⟨rfl, path, ?_⟩
  exact path ▸ extending.mpr (.inl (path ▸ by decide +kernel))

/--
A suite that is named like a method: the test in it is listed without the dot with
which the path of the suite begins.
-/
theorem method_suite_drifts :
    let recorder := ({} : Recorder).replay [.suite { name := ".method()" }]
    recorder.assembler.suites = [".method()"] ∧
      (recorder.addTest { name := "x" }).assembler.tests = ["method().x"] ∧
      ¬ Route.Extends "method().x" ".method()" "x" := by
  decide +kernel

/-! ## Tests that are listed as one -/

theorem addPath_eq_self_iff (paths : List String) (path : String) :
    addPath paths path = paths ↔ path ∈ paths := by
  unfold addPath
  split
  · next listed => exact iff_of_true rfl listed
  · next fresh => simp [fresh]

theorem mem_addPath {paths : List String} {path other : String} :
    other ∈ addPath paths path ↔ other ∈ paths ∨ path = other := by
  unfold addPath
  split
  · next listed =>
      refine ⟨.inl, fun member => member.elim id ?_⟩
      rintro rfl
      exact listed
  · rw [List.mem_append, List.mem_singleton, eq_comm]

/--
Two tests of one suite have one path exactly if they have one name, or if the path of the
suite begins with a character other than a dot and one of the names is the other, which is
not empty and has no dot at its end, with a dot behind it.  Then the second of them adds
no entry to the list; otherwise it adds one, unless its path was listed before both.
Below all other suites, and outside of suites, tests of different names have different
paths; the path is the name itself outside of suites, and in a suite without a name there.
-/
theorem tests_merge_iff (recorder : Recorder) (first second : TestCall) :
    let route := recorder.route
    let after := recorder.addTest first
    let merged := first.name = second.name ∨
      Route.beginsPlain route.suitePath = true ∧
        (Route.AddsDot first.name second.name ∨ Route.AddsDot second.name first.name)
    (route.leafPath first.name = route.leafPath second.name ↔ merged) ∧
    ((after.addTest second).assembler.tests = after.assembler.tests ↔
      route.leafPath second.name ∈ recorder.assembler.tests ∨ merged) ∧
    (Function.Injective route.leafPath ↔ Route.beginsPlain route.suitePath = false) ∧
    ((∀ name, route.leafPath name = name) ↔ route.segments = [] ∨ route.segments = [""]) := by
  intro route after merged
  have same : route.leafPath first.name = route.leafPath second.name ↔ merged :=
    route.leafPath_eq_leafPath_iff first.name second.name
  have listed : after.assembler.tests =
      addPath recorder.assembler.tests (route.leafPath first.name) := rfl
  have added : (after.addTest second).assembler.tests =
      addPath after.assembler.tests (route.leafPath second.name) := rfl
  refine ⟨same, ?_, route.injective_leafPath_iff, route.leafPath_eq_self_iff⟩
  rw [added, addPath_eq_self_iff, listed, mem_addPath, same]

/-- In a suite, a test and another one with a dot behind its name have one entry. -/
example :
    let recorder := ({} : Recorder).replay [.suite { name := "a" }]
    ((recorder.addTest { name := "x" }).addTest { name := "x." }).assembler.tests = ["a.x"] := by
  decide +kernel

end Recorder

end TestInventory
