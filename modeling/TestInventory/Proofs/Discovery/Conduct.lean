import TestInventory.Discovery
import TestInventory.Proofs.Bracket

/-!
# What loaders may do

A loader never sees who listens.  It is given a scope, in which it opens suites and
declares tests and hooks, and all that it learns is how the suites that it opened
ended.  A loader is lawful if what it does with a file is of this kind.  It then
leaves no suite open, however many of them fail, and whether it goes on after a
failure or not.
-/

namespace TestInventory

namespace Conduct

/-- How code ends when all its suites are entered. -/
def outcome : Conduct → Outcome
  | .ended outcome => outcome
  | .test _ next => next.outcome
  | .hook _ next => next.outcome
  | .notice _ next => next.outcome
  | .suite _ inside next => (next inside.outcome).outcome

/-- What is heard of code when all its suites are entered. -/
def signals : Conduct → List Signal
  | .ended _ => []
  | .test call next => .test call :: next.signals
  | .hook call next => .hook call :: next.signals
  | .notice note next => .notice note :: next.signals
  | .suite call inside next =>
    .suite call :: (inside.signals ++ .leave call inside.outcome :: (next inside.outcome).signals)

/-- A listener that enters every suite has no influence on what code does. -/
theorem run_eq_replay {σ : Type} {listener : Listener σ} (enters : listener.Enters)
    (conduct : Conduct) (heard : σ) :
    conduct.run listener heard = (conduct.outcome, listener.replay conduct.signals heard) := by
  induction conduct generalizing heard with
  | ended outcome => rfl
  | test call next ih => exact ih _
  | hook call next ih => exact ih _
  | notice note next ih => exact ih _
  | suite call inside next insideIh nextIh =>
      simp only [run, enters.suite_eq, insideIh, nextIh, outcome, signals, Listener.replay,
        Listener.replay_append]
      rfl

/-- Each suite is left once its body has ended, well or not, so code leaves none open. -/
theorem openAfter_signals (conduct : Conduct) (opened : List SuiteCall) :
    Signal.openAfter opened conduct.signals = opened := by
  induction conduct generalizing opened with
  | ended outcome => rfl
  | test call next ih => exact ih opened
  | hook call next ih => exact ih opened
  | notice note next ih => exact ih opened
  | suite call inside next insideIh nextIh =>
      rw [signals, Signal.openAfter_cons, Signal.openAfter_append, insideIh]
      exact nextIh _ opened

end Conduct

/-- A script is played as its code is run. -/
theorem Script.run_conduct {σ : Type} (listener : Listener σ) (script : Script) (heard : σ) :
    script.conduct.run listener heard = script.play listener heard := by
  induction script generalizing heard with
  | done => rfl
  | fail error => rfl
  | test call next ih => exact ih _
  | hook call next ih => exact ih _
  | notice note next ih => exact ih _
  | suite call body next bodyIh nextIh =>
      simp only [conduct, Conduct.run, play, bodyIh]
      rcases listener.suite call heard with ⟨_ | _ | error, after⟩
      · dsimp only
        rcases body.play listener after with ⟨_ | _, ended⟩
        · rfl
        · exact nextIh _
      · exact nextIh after
      · rfl

/--
A loader that does with each file what code can do with a scope.  A listener that
enters every suite has no other part in it than to hear of it.
-/
class LawfulFileLoader (L : Type) [FileLoader L] : Prop where
  exists_conduct : ∀ (loader : L) (path : String), ∃ conduct : Conduct,
    ∀ {σ : Type} (listener : Listener σ), listener.Enters → ∀ heard,
      FileLoader.load loader listener path heard = conduct.run listener heard

namespace FileLoader

variable {L : Type} [FileLoader L] (loader : L)

/-- How a file ends when it is loaded alone. -/
def outcome (path : String) : Outcome := (load loader Signal.observer path []).1

/-- What the observer writes down of a file that is loaded alone. -/
def signals (path : String) : List Signal := (load loader Signal.observer path []).2

/-- Whether a file loads when it is loaded alone. -/
def Loads (path : String) : Prop := outcome loader path = .ok ()

instance (path : String) : Decidable (Loads loader path) :=
  inferInstanceAs (Decidable (outcome loader path = .ok ()))

variable [LawfulFileLoader L]

/-- What a lawful loader does with a file is heard by the observer. -/
theorem exists_conduct (path : String) : ∃ conduct : Conduct,
    outcome loader path = conduct.outcome ∧ signals loader path = conduct.signals ∧
      ∀ {σ : Type} (listener : Listener σ), listener.Enters → ∀ heard,
        load loader listener path heard = conduct.run listener heard := by
  obtain ⟨conduct, loads⟩ := LawfulFileLoader.exists_conduct loader path
  have observed := loads Signal.observer Signal.observer_enters []
  rw [conduct.run_eq_replay Signal.observer_enters, Signal.observer_replay] at observed
  exact ⟨conduct, congrArg Prod.fst observed, congrArg Prod.snd observed, loads⟩

/-- A listener that enters every suite replays what the observer writes down of a file. -/
theorem load_eq_replay {σ : Type} {listener : Listener σ} (enters : listener.Enters)
    (path : String) (heard : σ) :
    load loader listener path heard =
      (outcome loader path, listener.replay (signals loader path) heard) := by
  obtain ⟨conduct, outcome, signals, loads⟩ := exists_conduct loader path
  rw [loads listener enters, conduct.run_eq_replay enters, outcome, signals]

/-- A file leaves no suite open, whether it loads or not. -/
theorem openAfter_signals (path : String) (opened : List SuiteCall) :
    Signal.openAfter opened (signals loader path) = opened := by
  obtain ⟨conduct, -, signals, -⟩ := exists_conduct loader path
  rw [signals, conduct.openAfter_signals]

end FileLoader

end TestInventory
