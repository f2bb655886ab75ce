import TestInventory.Proofs.Discovery.Replay
import TestInventory.Proofs.Recording.Repetition

/-!
# Steps of a run

A run of discovery loads files, one or several at a time, and records declarations
that belong to no file.  Each step may fail at any point, also deep inside suites.
What was recorded before it failed stays, and the next step starts outside all suites.
-/

namespace TestInventory

/-- A step of a run. -/
inductive Step (L : Type) where
  | file (loader : L) (path : String)
  | files (loader : L) (paths : List String)
  | declare (conduct : Conduct)

namespace Step

open FileLoader

variable {L : Type} [FileLoader L]

/-- The files that a step tries to load. -/
def attempts : Step L → List (Attempt L)
  | .file loader path => [⟨loader, path⟩]
  | .files loader paths => tried loader paths
  | .declare _ => []

/-- What is heard in a step. -/
def signals : Step L → List Signal
  | .file loader path => FileLoader.signals loader path
  | .files loader paths => (tried loader paths).flatMap (·.signals)
  | .declare conduct => conduct.signals

/-- The declarations of a step; the outermost of them belong to no suite. -/
def declared (resolver : Resolver) (step : Step L) : List Declaration :=
  declarations resolver [] step.signals

/-- A step leaves no suite open, however it ends. -/
theorem openAfter_signals [LawfulFileLoader L] (step : Step L) (opened : List SuiteCall) :
    Signal.openAfter opened step.signals = opened := by
  have attempted : ∀ attempts : List (Attempt L),
      Signal.openAfter opened (attempts.flatMap (·.signals)) = opened := by
    intro attempts
    induction attempts with
    | nil => rfl
    | cons attempt attempts ih =>
        rw [List.flatMap_cons, Signal.openAfter_append, Attempt.signals,
          FileLoader.openAfter_signals, ih]
  cases step with
  | file loader path => exact FileLoader.openAfter_signals loader path opened
  | files loader paths => exact attempted (tried loader paths)
  | declare conduct => exact conduct.openAfter_signals opened

end Step

namespace Discovery

variable {L : Type} [FileLoader L]

/-- Take a step, and go on however it ends. -/
def take (discovery : Discovery) : Step L → Discovery
  | .file loader path => (discovery.loadFile loader path).2
  | .files loader paths => (discovery.loadFiles loader paths).2
  | .declare conduct => (discovery.declare conduct).2

/-- Take steps one after another. -/
def takeAll (discovery : Discovery) (steps : List (Step L)) : Discovery :=
  steps.foldl take discovery

variable [LawfulFileLoader L]

/-- A step records what is heard in it and counts the files that it loads. -/
theorem take_eq (discovery : Discovery) (step : Step L) :
    discovery.take step =
      { recorder := discovery.recorder.replay step.signals
        filesLoaded := discovery.filesLoaded + step.attempts.countP (·.loads) } := by
  cases step with
  | file loader path =>
      rw [take, loadFile_eq]
      rfl
  | files loader paths =>
      rw [take, loadFiles_eq]
      rfl
  | declare conduct =>
      rw [take, declare, conduct.run_eq_replay Recorder.listener_enters]
      rfl

/-- So do several steps. -/
theorem takeAll_eq (discovery : Discovery) (steps : List (Step L)) :
    discovery.takeAll steps =
      { recorder := discovery.recorder.replay (steps.flatMap (·.signals))
        filesLoaded :=
          discovery.filesLoaded + (steps.flatMap (·.attempts)).countP (·.loads) } := by
  induction steps generalizing discovery with
  | nil => rfl
  | cons step steps ih =>
      refine (ih (discovery.take step)).trans ?_
      rw [take_eq, List.flatMap_cons, List.flatMap_cons, List.countP_append, Recorder.replay,
        Recorder.replay, Recorder.replay, Listener.replay_append, Nat.add_assoc]

end Discovery

namespace Declaration

variable (made more : List Declaration)

/-- Names that are declared later stand behind those declared before. -/
theorem namesUnder_prefix (route : List String) :
    namesUnder made route <+: namesUnder (made ++ more) route := by
  rw [namesUnder, namesUnder, List.filter_append, List.map_append, List.eraseDups_append]
  exact List.prefix_append ..

/-- So do the paths that they contribute. -/
theorem contributed_prefix (which : Kind → Bool) (entry : Declaration → String) :
    contributed which entry made <+: contributed which entry (made ++ more) := by
  rw [contributed, contributed, List.filter_append, List.map_append, List.eraseDups_append]
  exact List.prefix_append ..

end Declaration

/--
What is recorded after further declarations, on top of what was recorded before them.
Nothing is taken away and no sibling moves.
-/
structure Recorder.Continues (before after : Recorder) (made : List Declaration) : Prop where
  suites : before.assembler.suites <+: after.assembler.suites
  tests : before.assembler.tests <+: after.assembler.tests
  found : ∀ path, (before.assembler.tree.lookup? path).isSome →
    (after.assembler.tree.lookup? path).isSome
  names : ∀ path,
    (before.assembler.tree.levelAt path).names <+: (after.assembler.tree.levelAt path).names
  /-- What is declared stands at its own path, and all else is as it was. -/
  lookup_eq : ∀ path, after.assembler.tree.lookup? path =
    (Declaration.lastAt? made path).or (before.assembler.tree.lookup? path)

/-- A recorder that agrees with what was declared continues with what it hears. -/
theorem Recorder.Agrees.continues {recorder : Recorder} {made : List Declaration}
    (agrees : recorder.Agrees made) (lists : recorder.Lists made) (signals : List Signal) :
    recorder.Continues (recorder.replay signals)
      (declarations recorder.resolver recorder.route.segments signals) := by
  have agrees' := agrees.replay signals
  have lists' := lists.replay signals
  have last : ∀ path, (recorder.replay signals).assembler.tree.lookup? path =
      (Declaration.lastAt? (declarations recorder.resolver recorder.route.segments signals)
        path).or (recorder.assembler.tree.lookup? path) := by
    intro path
    rw [agrees'.lookup_eq, agrees.lookup_eq, Declaration.lastAt?_append]
  refine ⟨?_, ?_, fun path here => ?_, fun path => ?_, last⟩
  · rw [lists.suites_eq, lists'.suites_eq]
    exact Declaration.contributed_prefix ..
  · rw [lists.tests_eq, lists'.tests_eq]
    exact Declaration.contributed_prefix ..
  · rw [last, Option.isSome_or, here, Bool.or_true]
  · rw [agrees.names_eq, agrees'.names_eq]
    exact Declaration.namesUnder_prefix ..

namespace Discovery

open FileLoader

variable {L : Type} [FileLoader L] [LawfulFileLoader L]

/-- After steps no suite is open. -/
theorem segments_takeAll (resolver : Resolver) (steps : List (Step L)) :
    ((start resolver).takeAll steps).recorder.route.segments = [] := by
  have closed : Signal.openAfter [] (steps.flatMap (·.signals)) = [] := by
    induction steps with
    | nil => rfl
    | cons step steps ih =>
        rw [List.flatMap_cons, Signal.openAfter_append, step.openAfter_signals, ih]
  have names := Recorder.segments_eq_namesOf resolver (steps.flatMap (·.signals))
  rw [closed] at names
  rw [takeAll_eq]
  exact names

/-- A step continues what the steps before it have recorded. -/
theorem continues_take (resolver : Resolver) (steps : List (Step L)) (step : Step L) :
    let run := (start resolver).takeAll steps
    run.recorder.Continues (run.take step).recorder (step.declared resolver) := by
  have closed := segments_takeAll resolver steps
  have agrees := (Recorder.Agrees.start resolver).replay (steps.flatMap (·.signals))
  have lists := (Recorder.Lists.start resolver).replay (steps.flatMap (·.signals))
  have continues := agrees.continues lists step.signals
  rw [takeAll_eq] at closed ⊢
  dsimp only [start] at closed ⊢
  rw [closed, Recorder.replay_resolver] at continues
  rw [take_eq]
  exact continues

/--
After any steps, some of which may have failed, no suite is open, and as many files
are counted as were loaded.  A further step adds its declarations to what is recorded,
from outside all suites, also if it fails.  A file fails with the error that it gives
when it is loaded alone, and names the file.  Of several files those up to the first
that fails are loaded, so loading two rows of files is loading the first and, if that
succeeds, the second.
-/
theorem accumulates (resolver : Resolver) (steps : List (Step L)) :
    let run := (start resolver).takeAll steps
    run.recorder.route.isEmpty = true ∧
      run.filesLoaded = (steps.flatMap (·.attempts)).countP (·.loads) ∧
      (∀ step : Step L,
        run.recorder.Continues (run.take step).recorder (step.declared resolver)) ∧
      (∀ (loader : L) (path : String),
        (run.loadFile loader path).1 = (outcome loader path).mapError (.load path)) ∧
      (∀ (loader : L) (paths : List String),
        (∃ loaded, run.loadFiles loader paths = (.ok (), loaded) ∧
          loaded.filesLoaded = run.filesLoaded + paths.length) ∨
        ∃ before path later loaded error failed, paths = before ++ path :: later ∧
          run.loadFiles loader before = (.ok (), loaded) ∧
          loaded.loadFile (afterAll loader before) path = (.error (.load path error), failed) ∧
          run.loadFiles loader paths = (.error (.load path error), failed) ∧
          failed.filesLoaded = run.filesLoaded + before.length) ∧
      ∀ (loader : L) (first second : List String),
        run.loadFiles loader (first ++ second) =
          match run.loadFiles loader first with
          | (.ok (), loaded) => loaded.loadFiles (afterAll loader first) second
          | (.error error, failed) => (.error error, failed) := by
  refine ⟨?_, ?_, continues_take resolver steps, fun loader path => ?_, ?_, ?_⟩
  · rw [Route.isEmpty, segments_takeAll]
    rfl
  · rw [takeAll_eq]
    exact Nat.zero_add _
  · rw [loadFile_eq]
  · exact loadFiles_cases _
  · exact loadFiles_append _

/-- Two files; the first fails inside two suites, behind a test. -/
def brokenInside : Loader where
  files := .folder
    [("a.js", .file
      "describe('s', () => describe('t', () => \x7b it('x'); describe(''); \x7d));".toUTF8),
      ("b.js", .file "it('y');".toUTF8)]
  directory := "/"

/-- The first file fails and the second is left alone; the test of the latter is in no suite. -/
theorem accumulates_brokenInside :
    (((start .absolute).loadFiles brokenInside ["a.js", "b.js"]).1 =
      .error (.load "a.js" (.missingCallback "" ⟨"a.js", 1⟩))) ∧
    let run := (start .absolute).takeAll
      [.files brokenInside ["a.js", "b.js"], .file brokenInside "b.js"]
    run.recorder.route.isEmpty = true ∧
      (run.filesLoaded, run.recorder.assembler.suites, run.recorder.assembler.tests) =
        (1, ["s", "s.t"], ["s.t.x", "y"]) := by
  obtain ⟨closed, -⟩ := accumulates .absolute
    [.files brokenInside ["a.js", "b.js"], .file brokenInside "b.js"]
  exact ⟨by decide +kernel, closed, by decide +kernel⟩

end Discovery

end TestInventory
