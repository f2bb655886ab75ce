import TestInventory.Proofs.Evaluation.Simulation

/-!
# What listeners are told

A listener that enters every suite has no influence on what it is told.  A
program therefore has one sequence of signals, the one that the observer writes
down, and every such listener ends in the state to which that sequence leads.
-/

namespace TestInventory

variable {σ τ : Type}

namespace Listener

/-- A listener that also writes down what it hears. -/
def logged (listener : Listener σ) : Listener (σ × List Signal) where
  suite call heard :=
    ((listener.suite call heard.1).1, (listener.suite call heard.1).2, heard.2 ++ [.suite call])
  leave call outcome heard :=
    (listener.leave call outcome heard.1, heard.2 ++ [.leave call outcome])
  test call heard := (listener.test call heard.1, heard.2 ++ [.test call])
  hook call heard := (listener.hook call heard.1, heard.2 ++ [.hook call])
  notice note heard := (listener.notice note heard.1, heard.2 ++ [.notice note])

/-- Whether a listener has heard what the observer has written down, starting in a state. -/
def HasHeard (listener : Listener σ) (start heard : σ) (noted : List Signal) : Prop :=
  heard = listener.replay noted start

theorem HasHeard.hear {listener : Listener σ} {start heard : σ} {noted : List Signal}
    (has : listener.HasHeard start heard noted) (signal : Signal) :
    listener.HasHeard start (listener.hear signal heard) (Signal.observer.hear signal noted) := by
  rw [HasHeard, Signal.observer_hear, replay_concat, ← has]

/-- A listener that enters every suite hears like the observer. -/
theorem Enters.alike_observer {listener : Listener σ} (enters : listener.Enters) (start : σ) :
    listener.Alike Signal.observer (listener.HasHeard start) where
  admission call heard noted _ :=
    (enters call heard).trans (Signal.observer_enters call noted).symm
  suite call _ _ has := has.hear (.suite call)
  leave call outcome _ _ has := has.hear (.leave call outcome)
  test call _ _ has := has.hear (.test call)
  hook call _ _ has := has.hear (.hook call)
  notice note _ _ has := has.hear (.notice note)

theorem Enters.logged {listener : Listener σ} (enters : listener.Enters) :
    listener.logged.Enters :=
  fun call heard => enters call heard.1

/-- Writing down what is heard changes nothing for a listener. -/
theorem logged_alike (listener : Listener σ) :
    listener.logged.Alike listener fun first second => first.1 = second where
  admission _ _ _ same := same ▸ rfl
  suite _ _ _ same := same ▸ rfl
  leave _ _ _ _ same := same ▸ rfl
  test _ _ _ same := same ▸ rfl
  hook _ _ _ same := same ▸ rfl
  notice _ _ _ same := same ▸ rfl

/-- A listener writes down what it hears. -/
theorem logged_replay (listener : Listener σ) (signals noted : List Signal) (heard : σ) :
    (listener.logged.replay signals (heard, noted)).2 = noted ++ signals := by
  induction signals generalizing heard noted with
  | nil => exact (List.append_nil noted).symm
  | cons signal rest ih =>
      have step : listener.logged.hear signal (heard, noted) =
          (listener.hear signal heard, noted ++ [signal]) := by
        cases signal <;> rfl
      rw [replay, step, ih, List.append_assoc, List.singleton_append]

/-- Whether two logs are the same and lead to the state of the listener. -/
def SameLog (listener : Listener σ) (start : σ) (first second : σ × List Signal) : Prop :=
  first = second ∧ listener.HasHeard start first.1 first.2

/-- What a listener writes down leads to its state. -/
theorem logged_alike_logged (listener : Listener σ) (start : σ) :
    listener.logged.Alike listener.logged (listener.SameLog start) where
  admission _ _ _ same := same.1 ▸ rfl
  suite call _ _ same := ⟨same.1 ▸ rfl, same.2.hear (.suite call)⟩
  leave call outcome _ _ same := ⟨same.1 ▸ rfl, same.2.hear (.leave call outcome)⟩
  test call _ _ same := ⟨same.1 ▸ rfl, same.2.hear (.test call)⟩
  hook call _ _ same := ⟨same.1 ▸ rfl, same.2.hear (.hook call)⟩
  notice note _ _ same := ⟨same.1 ▸ rfl, same.2.hear (.notice note)⟩

end Listener

namespace Setting

variable (setting : Setting σ) (limit : Nat) (program : Program)

/-- What the observer writes down of a program. -/
def signals : List Signal :=
  ((setting.withListener Signal.observer).evaluate limit program []).2

/-- How a program ends for the observer. -/
def outcome : Outcome :=
  ((setting.withListener Signal.observer).evaluate limit program []).1

/-- A listener that enters every suite replays what the observer writes down. -/
theorem evaluate_eq_replay (enters : setting.listener.Enters) (heard : σ) :
    setting.evaluate limit program heard =
      (setting.outcome limit program,
        setting.listener.replay (setting.signals limit program) heard) := by
  have started : setting.listener.HasHeard heard heard [] := rfl
  obtain ⟨outcomes, has⟩ := evaluate_alike (enters.alike_observer heard) limit program started
  exact Prod.ext outcomes has

/-- What the listener is told in the course of an evaluation. -/
def told (heard : σ) : List Signal :=
  ((setting.withListener setting.listener.logged).evaluate limit program (heard, [])).2.2

/-- Writing down what the listener is told does not change the evaluation. -/
theorem evaluate_logged (heard : σ) :
    (setting.withListener setting.listener.logged).evaluate limit program (heard, []) =
      ((setting.evaluate limit program heard).1,
        (setting.evaluate limit program heard).2, setting.told limit program heard) := by
  have started : (heard, ([] : List Signal)).1 = heard := rfl
  have alike : (setting.withListener setting.listener.logged).listener.Alike setting.listener
    fun first second => first.1 = second := setting.listener.logged_alike
  obtain ⟨outcomes, states⟩ := evaluate_alike alike limit program started
  exact Prod.ext outcomes (Prod.ext states rfl)

/-- Every listener ends in the state to which what it is told leads. -/
theorem evaluate_eq_replay_told (heard : σ) :
    (setting.evaluate limit program heard).2 =
      setting.listener.replay (setting.told limit program heard) heard := by
  have alike : (setting.withListener setting.listener.logged).listener.Alike
      setting.listener.logged (setting.listener.SameLog heard) :=
    setting.listener.logged_alike_logged heard
  have started : setting.listener.SameLog heard (heard, []) (heard, []) := ⟨rfl, rfl⟩
  obtain ⟨-, -, has⟩ := evaluate_alike alike limit program started
  rwa [evaluate_logged] at has

/-- Every listener that enters all suites is told what the observer writes down. -/
theorem told_eq_signals (enters : setting.listener.Enters) (heard : σ) :
    setting.told limit program heard = setting.signals limit program := by
  have replayed := (setting.withListener setting.listener.logged).evaluate_eq_replay limit
    program enters.logged (heard, [])
  rw [told, replayed]
  exact (setting.listener.logged_replay _ [] heard).trans (List.nil_append _)

end Setting

end TestInventory
