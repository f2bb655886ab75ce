import TestInventory.Proofs.Signal
import TestInventory.Trace

/-!
# Brackets

What is heard of a script is well bracketed: the signal of a suite opens a bracket
and the one of its end closes it.  A script that fails ends in the ends of the
suites that are still open, all with its error.
-/

namespace TestInventory

namespace Signal

/-- The suites that are open after a signal, innermost first. -/
def opening (opened : List SuiteCall) : Signal → List SuiteCall
  | .suite call => call :: opened
  | .leave .. => opened.tail
  | _ => opened

/-- The suites that are open after signals, innermost first. -/
def openAfter (opened : List SuiteCall) (signals : List Signal) : List SuiteCall :=
  signals.foldl opening opened

/-- Whether a signal neither opens nor closes a suite. -/
def isPlain : Signal → Bool
  | .suite _ => false
  | .leave .. => false
  | _ => true

/-- How many suites are declared. -/
def suitesIn (signals : List Signal) : Nat := signals.countP fun
  | .suite _ => true
  | _ => false

/-- The ends of suites that fail with the same error. -/
def failures (error : LoadError) (opened : List SuiteCall) : List Signal :=
  opened.map (.leave · (.error error))

theorem failures_concat (error : LoadError) (opened : List SuiteCall) (call : SuiteCall) :
    failures error (opened ++ [call]) = failures error opened ++ [.leave call (.error error)] :=
  List.map_append

@[simp]
theorem openAfter_nil (opened : List SuiteCall) : openAfter opened [] = opened := rfl

@[simp]
theorem openAfter_cons (opened : List SuiteCall) (signal : Signal) (rest : List Signal) :
    openAfter opened (signal :: rest) = openAfter (signal.opening opened) rest := rfl

@[simp]
theorem openAfter_append (opened : List SuiteCall) (first second : List Signal) :
    openAfter opened (first ++ second) = openAfter (openAfter opened first) second :=
  List.foldl_append

theorem opening_of_isPlain {signal : Signal} (plain : signal.isPlain) (opened : List SuiteCall) :
    signal.opening opened = opened := by
  cases signal <;> first | rfl | cases plain

@[simp]
theorem suitesIn_nil : suitesIn [] = 0 := rfl

@[simp]
theorem suitesIn_append (first second : List Signal) :
    suitesIn (first ++ second) = suitesIn first + suitesIn second :=
  List.countP_append

@[simp]
theorem suitesIn_suite (call : SuiteCall) (rest : List Signal) :
    suitesIn (.suite call :: rest) = suitesIn rest + 1 :=
  List.countP_cons_of_pos rfl

@[simp]
theorem suitesIn_leave (call : SuiteCall) (outcome : Outcome) (rest : List Signal) :
    suitesIn (.leave call outcome :: rest) = suitesIn rest :=
  List.countP_cons_of_neg nofun

theorem suitesIn_of_isPlain {signal : Signal} (plain : signal.isPlain) (rest : List Signal) :
    suitesIn (signal :: rest) = suitesIn rest := by
  cases signal <;> first | rfl | cases plain

/-- A signal in a row that starts with a bracket opens it, stands inside, closes it, or is later. -/
theorem of_bracket_eq_append {opening closing signal : Signal}
    {inside rest before after : List Signal}
    (split : opening :: (inside ++ closing :: rest) = before ++ signal :: after) :
    (before = [] ∧ signal = opening) ∨
      (∃ first second, before = opening :: first ∧ inside = first ++ signal :: second ∧
        after = second ++ closing :: rest) ∨
      (before = opening :: inside ∧ signal = closing ∧ after = rest) ∨
      ∃ first, before = opening :: (inside ++ closing :: first) ∧
        rest = first ++ signal :: after := by
  rcases List.cons_eq_append_iff.mp split with ⟨rfl, begins⟩ | ⟨first, rfl, tails⟩
  · exact .inl ⟨rfl, (List.cons.inj begins).1⟩
  · right
    rcases List.append_eq_append_iff.mp tails with ⟨second, rfl, ends⟩ | ⟨second, rfl, ends⟩
    · rcases List.cons_eq_append_iff.mp ends with ⟨rfl, closes⟩ | ⟨third, rfl, later⟩
      · obtain ⟨rfl, rfl⟩ := List.cons.inj closes
        exact .inr (.inl ⟨by rw [List.append_nil], rfl, rfl⟩)
      · exact .inr (.inr ⟨third, rfl, later⟩)
    · rcases List.cons_eq_append_iff.mp ends with ⟨rfl, closes⟩ | ⟨third, rfl, later⟩
      · obtain ⟨rfl, rfl⟩ := List.cons.inj closes
        exact .inr (.inl ⟨by rw [List.append_nil], rfl, rfl⟩)
      · exact .inl ⟨first, third, rfl, rfl, later⟩

end Signal

open Signal

/-- Whether each end closes the suite that was opened last, and all suites are closed. -/
def WellBracketed (opened : List SuiteCall) : List Signal → Prop
  | [] => opened = []
  | .leave call _ :: rest => opened.head? = some call ∧ WellBracketed opened.tail rest
  | signal :: rest => WellBracketed (signal.opening opened) rest

/--
Signals in brackets, with how they end.  The end of a suite tells how its body
ended, and after the end of a suite that failed nothing else is heard.
-/
inductive Bracketed : Outcome → List Signal → Prop where
  | nil (outcome : Outcome) : Bracketed outcome []
  | plain {outcome : Outcome} {rest : List Signal} (signal : Signal) (isPlain : signal.isPlain)
      (later : Bracketed outcome rest) : Bracketed outcome (signal :: rest)
  | suite {outcome : Outcome} {inside rest : List Signal} (call : SuiteCall)
      (body : Bracketed (.ok ()) inside) (later : Bracketed outcome rest) :
      Bracketed outcome (.suite call :: (inside ++ .leave call (.ok ()) :: rest))
  | abort {error : LoadError} {inside : List Signal} (call : SuiteCall)
      (body : Bracketed (.error error) inside) :
      Bracketed (.error error) (.suite call :: (inside ++ [.leave call (.error error)]))

namespace Bracketed

variable {outcome : Outcome} {signals : List Signal}

/-- Signals in brackets leave the suites around them open. -/
theorem openAfter_eq (bracketed : Bracketed outcome signals) (opened : List SuiteCall) :
    openAfter opened signals = opened := by
  induction bracketed generalizing opened with
  | nil => rfl
  | plain signal isPlain _ ih =>
      rw [openAfter_cons, opening_of_isPlain isPlain]
      exact ih opened
  | suite call _ _ bodyIh laterIh =>
      rw [openAfter_cons, openAfter_append, bodyIh]
      exact laterIh opened
  | abort call _ bodyIh =>
      rw [openAfter_cons, openAfter_append, bodyIh]
      rfl

/-- What is open after the opening of a suite and signals in brackets. -/
theorem openAfter_suite (bracketed : Bracketed outcome signals) (call : SuiteCall)
    (opened : List SuiteCall) : openAfter opened (.suite call :: signals) = call :: opened :=
  bracketed.openAfter_eq (call :: opened)

/-- Signals in brackets may stand before signals that are well bracketed. -/
theorem wellBracketed_append (bracketed : Bracketed outcome signals) {opened : List SuiteCall}
    {rest : List Signal} (closes : WellBracketed opened rest) :
    WellBracketed opened (signals ++ rest) := by
  induction bracketed generalizing opened rest with
  | nil => exact closes
  | plain signal isPlain _ ih =>
      have later := ih closes
      cases signal <;> first | exact later | cases isPlain
  | suite call _ _ bodyIh laterIh =>
      rw [List.cons_append, List.append_assoc]
      exact bodyIh ⟨rfl, laterIh closes⟩
  | abort call _ bodyIh =>
      rw [List.cons_append, List.append_assoc]
      exact bodyIh ⟨rfl, closes⟩

theorem wellBracketed (bracketed : Bracketed outcome signals) : WellBracketed [] signals := by
  have closed : WellBracketed [] (signals ++ []) := bracketed.wellBracketed_append rfl
  rwa [List.append_nil] at closed

/--
After the end of a suite that failed, the suites around it end with the same error,
innermost first, and so does the whole.
-/
theorem after_failure (bracketed : Bracketed outcome signals) {before after : List Signal}
    {call : SuiteCall} {error : LoadError}
    (split : signals = before ++ .leave call (.error error) :: after) :
    outcome = .error error ∧ ∃ inner,
      (∀ opened, openAfter opened before = call :: inner ++ opened) ∧
        after = failures error inner := by
  induction bracketed generalizing before after with
  | nil => cases List.append_eq_nil_iff.mp split.symm |>.2
  | plain signal isPlain _ ih =>
      rcases List.cons_eq_append_iff.mp split with ⟨rfl, same⟩ | ⟨between, rfl, same⟩
      · cases same
        cases isPlain
      · obtain ⟨ended, inner, opens, rest⟩ := ih same
        refine ⟨ended, inner, fun opened => ?_, rest⟩
        rw [openAfter_cons, opening_of_isPlain isPlain]
        exact opens opened
  | suite around body _ bodyIh laterIh =>
      rcases of_bracket_eq_append split with
        ⟨-, same⟩ | ⟨_, _, -, same, -⟩ | ⟨-, same, -⟩ | ⟨between, rfl, same⟩
      · cases same
      · cases (bodyIh same).1
      · cases same
      · obtain ⟨ended, inner, opens, rest⟩ := laterIh same
        refine ⟨ended, inner, fun opened => ?_, rest⟩
        rw [openAfter_cons, openAfter_append, body.openAfter_eq]
        exact opens opened
  | abort around body bodyIh =>
      rcases of_bracket_eq_append split with
        ⟨-, same⟩ | ⟨first, second, rfl, same, rfl⟩ | ⟨rfl, same, rfl⟩ | ⟨_, -, same⟩
      · cases same
      · obtain ⟨ended, inner, opens, rfl⟩ := bodyIh same
        cases ended
        refine ⟨rfl, inner ++ [around], fun opened => ?_, (failures_concat ..).symm⟩
        exact (opens (around :: opened)).trans (List.append_cons ..)
      · cases same
        exact ⟨rfl, [], body.openAfter_suite call, rfl⟩
      · cases List.append_eq_nil_iff.mp same.symm |>.2

end Bracketed

/-! ## What is heard of a script -/

namespace Script

/-- How a script ends when all its suites are entered. -/
def outcome (script : Script) : Outcome := (script.play observer []).1

theorem play_observer (script : Script) (noted : List Signal) :
    script.play observer noted = (script.outcome, noted ++ script.signals) := by
  rw [script.play_eq_replay observer_enters, observer_replay]
  rfl

/-- The outcome and the signals of a script, from what is played after the first signal. -/
theorem outcome_signals_eq {script : Script} {noted : List Signal} {outcome : Outcome}
    (played : script.play observer [] = (outcome, noted)) :
    script.outcome = outcome ∧ script.signals = noted :=
  ⟨congrArg Prod.fst played, congrArg Prod.snd played⟩

/-- What is heard of a suite whose body ends well, and of what comes after it. -/
theorem suite_of_ok (call : SuiteCall) {body : Script} (ok : body.outcome = .ok ())
    (next : Script) :
    (suite call body next).outcome = next.outcome ∧
      (suite call body next).signals =
        .suite call :: (body.signals ++ .leave call (.ok ()) :: next.signals) := by
  refine outcome_signals_eq ?_
  simp only [play, observer_enters.suite_eq, observer_hear, play_observer, ok]
  exact congrArg (Prod.mk _) (by simp [observer])

/-- What is heard of a suite whose body fails. -/
theorem suite_of_error (call : SuiteCall) {body : Script} {error : LoadError}
    (failed : body.outcome = .error error) (next : Script) :
    (suite call body next).outcome = .error error ∧
      (suite call body next).signals =
        .suite call :: (body.signals ++ [.leave call (.error error)]) := by
  refine outcome_signals_eq ?_
  simp only [play, observer_enters.suite_eq, observer_hear, play_observer, failed]
  rfl

/-- What is heard of a suite begins with what is heard of its body. -/
theorem suite_signals (call : SuiteCall) (body next : Script) :
    ∃ rest, (suite call body next).signals =
      .suite call :: (body.signals ++ .leave call body.outcome :: rest) := by
  cases ended : body.outcome with
  | ok => exact ⟨next.signals, (suite_of_ok call ended next).2⟩
  | error error => exact ⟨[], (suite_of_error call ended next).2⟩

/-- What is heard of a script that begins with a signal that is no bracket. -/
theorem plain_signals {script next : Script} (signal : Signal)
    (begins : script.play observer [] = next.play observer [signal]) :
    script.outcome = next.outcome ∧ script.signals = signal :: next.signals :=
  outcome_signals_eq (begins.trans (next.play_observer _))

/-- What is heard of a script is well bracketed and ends as the script does. -/
theorem bracketed (script : Script) : Bracketed script.outcome script.signals := by
  have plain : ∀ {script next : Script} (signal : Signal), signal.isPlain →
      script.play observer [] = next.play observer [signal] →
      Bracketed next.outcome next.signals → Bracketed script.outcome script.signals := by
    intro script next signal isPlain begins later
    obtain ⟨ended, told⟩ := plain_signals signal begins
    rw [ended, told]
    exact .plain signal isPlain later
  induction script with
  | done => exact .nil _
  | fail error => exact .nil _
  | test call next ih => exact plain (.test call) rfl rfl ih
  | hook call next ih => exact plain (.hook call) rfl rfl ih
  | notice note next ih => exact plain (.notice note) rfl rfl ih
  | suite call body next bodyIh nextIh =>
      cases ended : body.outcome with
      | ok =>
          obtain ⟨ends, told⟩ := suite_of_ok call ended next
          rw [ended] at bodyIh
          rw [ends, told]
          exact .suite call bodyIh nextIh
      | error error =>
          obtain ⟨ends, told⟩ := suite_of_error call ended next
          rw [ended] at bodyIh
          rw [ends, told]
          exact .abort call bodyIh

end Script

/-! ## The lines of a trace -/

namespace Signal

/-- The lines that a signal makes in a trace while suites are open. -/
def line (opened : List SuiteCall) : Signal → List TraceLog
  | .suite call => [.suite call opened.length]
  | .leave call outcome => [.ended call.name outcome.isOk]
  | .test call => [.test call opened.length]
  | .hook call => [.hook call opened.length]
  | .notice _ => []

/-- The lines that signals make; each tells how many suites are open before it. -/
def lines (opened : List SuiteCall) : List Signal → List TraceLog
  | [] => []
  | signal :: rest => signal.line opened ++ lines (signal.opening opened) rest

theorem lines_append (opened : List SuiteCall) (first second : List Signal) :
    lines opened (first ++ second) =
      lines opened first ++ lines (openAfter opened first) second := by
  induction first generalizing opened with
  | nil => rfl
  | cons signal rest ih =>
      show signal.line opened ++ lines _ (rest ++ second) = _
      rw [ih, ← List.append_assoc]
      rfl

/-- The ends of failed suites make the same lines whatever is open. -/
theorem lines_failures (opened : List SuiteCall) (error : LoadError) (failing : List SuiteCall) :
    lines opened (failures error failing) = failing.map (.ended ·.name false) := by
  induction failing generalizing opened with
  | nil => rfl
  | cons call rest ih => exact congrArg (.ended call.name false :: ·) (ih opened.tail)

end Signal

namespace Tracer

variable {plan : TracePlan}

/-- The ends of failed suites are written down whatever is open. -/
theorem log_replay_failures (error : LoadError) (failing : List SuiteCall) (tracer : Tracer) :
    ((listener plan).replay (failures error failing) tracer).log =
      (failing.map fun call => TraceLog.ended call.name false).reverse ++ tracer.log := by
  induction failing generalizing tracer with
  | nil => rfl
  | cons call rest ih =>
      refine (ih _).trans ?_
      rw [List.map_cons, List.reverse_cons, List.append_assoc]
      rfl

variable (enters : plan.enters = true)
include enters

theorem hear_of_entered (signal : Signal) (opened : List SuiteCall) (tracer : Tracer)
    (depth : tracer.depth = opened.length)
    (entered : ∀ number, plan.failAt = some number → tracer.suitesSeen < number →
      tracer.suitesSeen + suitesIn [signal] < number) :
    (listener plan).hear signal tracer =
      { depth := (signal.opening opened).length
        suitesSeen := tracer.suitesSeen + suitesIn [signal]
        log := (signal.line opened).reverse ++ tracer.log } := by
  obtain ⟨_, seen, log⟩ := tracer
  cases depth
  cases signal with
  | suite call =>
      have goesOn : plan.failAt ≠ some (seen + 1) := fun fails =>
        Nat.lt_irrefl _ (entered (seen + 1) fails (Nat.lt_succ_self seen))
      simp only [Listener.hear, listener, write, if_neg goesOn, if_pos enters]
      rfl
  | leave call outcome =>
      simp only [Listener.hear, listener, write, opening, List.length_tail]
      rfl
  | test call => rfl
  | hook call => rfl
  | notice note => rfl

/-- A tracer that enters the suites it hears of counts those that are open. -/
theorem replay_of_entered (signals : List Signal) (opened : List SuiteCall) (tracer : Tracer)
    (depth : tracer.depth = opened.length)
    (entered : ∀ number, plan.failAt = some number → tracer.suitesSeen < number →
      tracer.suitesSeen + suitesIn signals < number) :
    (listener plan).replay signals tracer =
      { depth := (openAfter opened signals).length
        suitesSeen := tracer.suitesSeen + suitesIn signals
        log := (Signal.lines opened signals).reverse ++ tracer.log } := by
  induction signals generalizing opened tracer with
  | nil =>
      obtain ⟨_, seen, log⟩ := tracer
      cases depth
      rfl
  | cons signal rest ih =>
      have split : suitesIn (signal :: rest) = suitesIn [signal] + suitesIn rest :=
        suitesIn_append [signal] rest
      have heard := hear_of_entered enters signal opened tracer depth fun number fails early => by
        have later := entered number fails early
        omega
      rw [Listener.replay, heard, ih (signal.opening opened) _ rfl, split]
      · simp [Signal.lines, Nat.add_assoc]
      · intro number fails early
        have later := entered number fails (Nat.lt_of_le_of_lt (Nat.le_add_right ..) early)
        rw [split, ← Nat.add_assoc] at later
        exact later

theorem lines_of_entered (signals : List Signal)
    (entered : ∀ number, plan.failAt = some number → 0 < number → suitesIn signals < number) :
    ((listener plan).replay signals {}).lines = Signal.lines [] signals := by
  rw [lines, replay_of_entered enters signals [] {} rfl fun number fails early => by
    rw [Nat.zero_add]
    exact entered number fails early]
  simp

/-- A tracer that fails at a suite writes down the suite and the ends of those around it. -/
theorem lines_of_refused {before : List Signal} (call : SuiteCall) (error : LoadError)
    (failing : List SuiteCall) (fails : plan.failAt = some (suitesIn before + 1)) :
    ((listener plan).replay (before ++ .suite call :: failures error failing) {}).lines =
      Signal.lines [] (before ++ .suite call :: failures error failing) := by
  have entered := replay_of_entered enters before [] {} rfl fun number same _ => by
    cases fails.symm.trans same
    rw [Nat.zero_add]
    exact Nat.lt_succ_self _
  rw [lines, Listener.replay_append, entered, Listener.replay, log_replay_failures, lines_append,
    Signal.lines, lines_failures]
  simp only [Listener.hear, listener, write, fails]
  simp [Signal.line]

end Tracer

end TestInventory
