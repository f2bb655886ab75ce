import Mathlib.Control.Monad.Basic
import TestInventory.Recorder

/-!
# Signals

A signal is one thing that a listener hears.  A listener that enters every suite
is driven by signals alone: playing a script to it is the same as replaying the
signals that an observer of the script writes down.
-/

namespace TestInventory

/-- One thing that a listener hears. -/
inductive Signal where
  | suite (call : SuiteCall)
  /-- The body of an entered suite has ended. -/
  | leave (call : SuiteCall) (outcome : Outcome)
  | test (call : TestCall)
  | hook (call : HookCall)
  | notice (note : Notice)
  deriving DecidableEq, Inhabited

namespace Listener

variable {σ : Type}

/-- The state of a listener after one signal. -/
def hear (listener : Listener σ) : Signal → σ → σ
  | .suite call, heard => (listener.suite call heard).2
  | .leave call outcome, heard => listener.leave call outcome heard
  | .test call, heard => listener.test call heard
  | .hook call, heard => listener.hook call heard
  | .notice note, heard => listener.notice note heard

/-- The state of a listener after a sequence of signals. -/
def replay (listener : Listener σ) : List Signal → σ → σ
  | [], heard => heard
  | signal :: rest, heard => listener.replay rest (listener.hear signal heard)

/-- Whether a listener runs the body of every suite. -/
def Enters (listener : Listener σ) : Prop :=
  ∀ call heard, (listener.suite call heard).1 = .enter

/-- Signals in two stretches are replayed one stretch after the other. -/
theorem replay_append (listener : Listener σ) (first second : List Signal) (heard : σ) :
    listener.replay (first ++ second) heard =
      listener.replay second (listener.replay first heard) := by
  induction first generalizing heard with
  | nil => rfl
  | cons signal rest ih => exact ih (listener.hear signal heard)

/-- The last signal is heard in the state that the others leave. -/
theorem replay_concat (listener : Listener σ) (signals : List Signal) (signal : Signal)
    (heard : σ) :
    listener.replay (signals ++ [signal]) heard =
      listener.hear signal (listener.replay signals heard) :=
  listener.replay_append signals [signal] heard

/-- A listener that enters every suite does so in the state in which it heard of the suite. -/
theorem Enters.suite_eq {listener : Listener σ} (enters : listener.Enters) (call : SuiteCall)
    (heard : σ) : listener.suite call heard = (.enter, listener.hear (.suite call) heard) :=
  Prod.ext (enters call heard) rfl

end Listener

namespace Signal

/-- The listener that enters every suite and writes down what it hears. -/
def observer : Listener (List Signal) where
  suite call heard := (.enter, heard ++ [.suite call])
  leave call outcome heard := heard ++ [.leave call outcome]
  test call heard := heard ++ [.test call]
  hook call heard := heard ++ [.hook call]
  notice note heard := heard ++ [.notice note]

theorem observer_enters : observer.Enters := fun _ _ => rfl

@[simp]
theorem observer_hear (signal : Signal) (heard : List Signal) :
    observer.hear signal heard = heard ++ [signal] := by
  cases signal <;> rfl

/-- Replaying signals to the observer writes them down again. -/
@[simp]
theorem observer_replay (signals heard : List Signal) :
    observer.replay signals heard = heard ++ signals := by
  induction signals generalizing heard with
  | nil => exact (List.append_nil heard).symm
  | cons signal rest ih =>
      rw [Listener.replay, ih, observer_hear, List.append_assoc, List.singleton_append]

end Signal

namespace Script

/-- What is heard of a script when all its suites are entered. -/
def signals (script : Script) : List Signal := (script.play Signal.observer []).2

/--
A listener that enters every suite ends in the state to which the observer's
notes lead, and with the observer's outcome.
-/
theorem play_replay {σ : Type} {listener : Listener σ} (enters : listener.Enters)
    (script : Script) (noted : List Signal) (heard : σ) :
    script.play listener (listener.replay noted heard) =
      ((script.play Signal.observer noted).1,
        listener.replay (script.play Signal.observer noted).2 heard) := by
  induction script generalizing noted with
  | done => rfl
  | fail error => rfl
  | test call next ih =>
      have told := ih (noted ++ [.test call])
      rw [listener.replay_concat] at told
      exact told
  | hook call next ih =>
      have told := ih (noted ++ [.hook call])
      rw [listener.replay_concat] at told
      exact told
  | notice note next ih =>
      have told := ih (noted ++ [.notice note])
      rw [listener.replay_concat] at told
      exact told
  | suite call body next bodyIh nextIh =>
      have inside := bodyIh (noted ++ [.suite call])
      rw [listener.replay_concat] at inside
      simp only [play, enters.suite_eq, inside, Signal.observer_enters.suite_eq,
        Signal.observer_hear]
      cases played : body.play Signal.observer (noted ++ [.suite call]) with
      | mk outcome after =>
          have left := fun ending => listener.replay_concat after (.leave call ending) heard
          cases outcome with
          | error error => exact congrArg (Prod.mk _) (left (.error error)).symm
          | ok =>
              have rest := nextIh (after ++ [.leave call (.ok ())])
              rw [left] at rest
              exact rest

/-- Playing a script to a listener that enters every suite replays its signals. -/
theorem play_eq_replay {σ : Type} {listener : Listener σ} (enters : listener.Enters)
    (script : Script) (heard : σ) :
    script.play listener heard =
      ((script.play Signal.observer []).1, listener.replay script.signals heard) :=
  script.play_replay enters [] heard

end Script

namespace Recorder

theorem listener_enters : listener.Enters := fun _ _ => rfl

/-- The recorder after a sequence of signals. -/
def replay (recorder : Recorder) (signals : List Signal) : Recorder :=
  listener.replay signals recorder

theorem resolver_hear (recorder : Recorder) (signal : Signal) :
    (listener.hear signal recorder).resolver = recorder.resolver := by
  cases signal <;> rfl

theorem replay_resolver (recorder : Recorder) (signals : List Signal) :
    (recorder.replay signals).resolver = recorder.resolver := by
  induction signals generalizing recorder with
  | nil => rfl
  | cons signal rest ih =>
      exact (ih (listener.hear signal recorder)).trans (recorder.resolver_hear signal)

/-- Play scripts one after another, each from the top level; failures are passed over. -/
def playAll (recorder : Recorder) : List Script → Recorder
  | [] => recorder
  | script :: scripts => (recorder.play script).2.playAll scripts

/-- Playing scripts is replaying their signals. -/
theorem playAll_eq_replay (recorder : Recorder) (scripts : List Script) :
    recorder.playAll scripts = recorder.replay (scripts.flatMap Script.signals) := by
  induction scripts generalizing recorder with
  | nil => rfl
  | cons script scripts ih =>
      rw [playAll, ih, List.flatMap_cons, replay, replay, listener.replay_append, play,
        script.play_eq_replay listener_enters]

end Recorder

end TestInventory
