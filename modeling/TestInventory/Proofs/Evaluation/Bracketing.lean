import TestInventory.Proofs.Bracket
import TestInventory.Proofs.Evaluation.Scripted

/-!
# Suites are left, whatever happens

Every listener that enters all suites is told signals in brackets, and an error
closes all of them.  A listener that refuses one suite is told the same up to that
suite, and then the ends of the suites that are open around it.
-/

namespace TestInventory

open Signal

variable {σ τ : Type}

/-- Whether a listener refuses the suite of a certain number and enters the others. -/
structure Listener.FailsAt (listener : Listener τ) (seen : τ → Nat) (number : Nat)
    (failure : SuiteCall → LoadError) : Prop where
  admission : ∀ call heard, (listener.suite call heard).1 =
    if seen heard + 1 = number then .refuse (failure call) else .enter
  counts : ∀ signal heard, seen (listener.hear signal heard) = seen heard + suitesIn [signal]

namespace Listener.FailsAt

variable {listener : Listener τ} {seen : τ → Nat} {number : Nat} {failure : SuiteCall → LoadError}

theorem neverPasses (fails : listener.FailsAt seen number failure) : listener.NeverPasses := by
  intro call heard passes
  rw [fails.admission] at passes
  split at passes <;> cases passes

/-- The number of a suite that is refused is reached when it is heard of. -/
theorem suite_eq_refuse (fails : listener.FailsAt seen number failure) (call : SuiteCall)
    {heard : τ} (reached : seen heard + 1 = number) :
    listener.suite call heard = (.refuse (failure call), listener.hear (.suite call) heard) :=
  Prod.ext ((fails.admission call heard).trans (if_pos reached)) rfl

theorem suite_eq_enter (fails : listener.FailsAt seen number failure) (call : SuiteCall)
    {heard : τ} (other : seen heard + 1 ≠ number) :
    listener.suite call heard = (.enter, listener.hear (.suite call) heard) :=
  Prod.ext ((fails.admission call heard).trans (if_neg other)) rfl

theorem seen_plain (fails : listener.FailsAt seen number failure) (signal : Signal)
    (plain : signal.isPlain) (heard : τ) : seen (listener.hear signal heard) = seen heard := by
  rw [fails.counts, suitesIn_of_isPlain plain]
  rfl

theorem seen_suite (fails : listener.FailsAt seen number failure) (call : SuiteCall) (heard : τ) :
    seen (listener.hear (.suite call) heard) = seen heard + 1 :=
  fails.counts (.suite call) heard

theorem seen_leave (fails : listener.FailsAt seen number failure) (call : SuiteCall)
    (outcome : Outcome) (heard : τ) : seen (listener.leave call outcome heard) = seen heard :=
  fails.counts (.leave call outcome) heard

end Listener.FailsAt

/-- A tracer that is told to fail at a suite fails there. -/
theorem Tracer.failsAt (number : Nat) :
    (Tracer.listener { failAt := some number }).FailsAt Tracer.suitesSeen number
      fun call => Tracer.failure call.name where
  admission call tracer := by
    by_cases reached : tracer.suitesSeen + 1 = number
    · simp [Tracer.listener, Tracer.write, reached]
    · simp [Tracer.listener, Tracer.write, reached, Ne.symm reached]
  counts signal tracer := by
    cases signal with
    | suite call =>
      simp [Tracer.listener, Tracer.write, Listener.hear]
      split <;> rfl
    | _ => rfl

/--
What a listener is told, and how it ends, that refuses the suite of a certain number,
by what a listener is told that refuses none.
-/
inductive CutAt (failure : SuiteCall → LoadError) :
    Nat → Outcome × List Signal → Outcome × List Signal → Prop where
  /-- There are not that many suites. -/
  | short {number : Nat} (outcome : Outcome) {signals : List Signal}
      (few : suitesIn signals < number) :
      CutAt failure number (outcome, signals) (outcome, signals)
  | cut {number : Nat} (outcome : Outcome) {before : List Signal} (call : SuiteCall)
      (after : List Signal) {inner : List SuiteCall} (here : suitesIn before + 1 = number)
      (opens : ∀ opened, openAfter opened before = inner ++ opened) :
      CutAt failure number (outcome, before ++ .suite call :: after)
        (.error (failure call), before ++ .suite call :: failures (failure call) inner)

namespace CutAt

variable {failure : SuiteCall → LoadError} {number : Nat}

theorem dest {full told : Outcome × List Signal} (cut : CutAt failure number full told) :
    suitesIn full.2 < number ∧ told = full ∨
      ∃ before call after, full.2 = before ++ .suite call :: after ∧
        suitesIn before + 1 = number ∧
        told = (.error (failure call),
          before ++ .suite call :: failures (failure call) (openAfter [] before)) := by
  cases cut with
  | short outcome few => exact .inl ⟨few, rfl⟩
  | @cut outcome before call after inner here opens =>
      obtain rfl : openAfter [] before = inner := (opens []).trans (List.append_nil inner)
      exact .inr ⟨before, call, after, rfl, here, rfl⟩

/-- The same may come before. -/
theorem after {full told : Outcome × List Signal} (cut : CutAt failure number full told)
    {first : List Signal} (balanced : ∀ opened, openAfter opened first = opened) :
    CutAt failure (suitesIn first + number) (full.1, first ++ full.2)
      (told.1, first ++ told.2) := by
  cases cut with
  | short outcome few =>
      refine .short outcome ?_
      rw [suitesIn_append]
      exact Nat.add_lt_add_left few _
  | cut outcome call rest here opens =>
      simp only [← List.append_assoc]
      refine .cut outcome call rest (by rw [suitesIn_append]; omega) fun opened => ?_
      rw [openAfter_append, balanced]
      exact opens opened

/-- A suite that ends well may come before. -/
theorem beyond {full told : Outcome × List Signal} (cut : CutAt failure number full told)
    (call : SuiteCall) {inside : List Signal} {ended : Outcome} (body : Bracketed ended inside) :
    CutAt failure (suitesIn inside + number + 1)
      (full.1, .suite call :: (inside ++ .leave call (.ok ()) :: full.2))
      (told.1, .suite call :: (inside ++ .leave call (.ok ()) :: told.2)) := by
  have balanced : ∀ opened,
      openAfter opened (.suite call :: (inside ++ [.leave call (.ok ())])) = opened := by
    intro opened
    rw [openAfter_cons, openAfter_append, body.openAfter_eq]
    rfl
  have later := cut.after balanced
  simpa [Nat.add_right_comm] using later

/-- A suite fails if its body is cut. -/
theorem around {outcome ended : Outcome} {before after : List Signal} {call : SuiteCall}
    {inner : List SuiteCall} (here : suitesIn before + 1 = number)
    (opens : ∀ opened, openAfter opened before = inner ++ opened) (suite : SuiteCall)
    (rest : List Signal) :
    CutAt failure (number + 1)
      (outcome, .suite suite :: (before ++ .suite call :: after ++ .leave suite ended :: rest))
      (.error (failure call), .suite suite :: (before ++ .suite call ::
        failures (failure call) inner ++ [.leave suite (.error (failure call))])) := by
  have cut : CutAt failure (number + 1)
      (outcome, (.suite suite :: before) ++ .suite call :: (after ++ .leave suite ended :: rest))
      (.error (failure call), (.suite suite :: before) ++ .suite call ::
        failures (failure call) (inner ++ [suite])) := by
    refine .cut outcome call _ (by rw [suitesIn_suite]; omega) fun opened => ?_
    exact (opens (suite :: opened)).trans (List.append_cons ..)
  simpa [failures_concat] using cut

end CutAt

namespace Script

/-- What a listener that counts suites is told of a script when it fails after so many more. -/
def CutShort (listener : Listener τ) (seen : τ → Nat) (failure : SuiteCall → LoadError)
    (script : Script) (left : Nat) (heard : τ) (noted : List Signal) : Prop :=
  ∃ outcome told after,
    script.play listener.logged (heard, noted) = (outcome, (after, noted ++ told)) ∧
      seen after = seen heard + suitesIn told ∧
      CutAt failure left (script.outcome, script.signals) (outcome, told)

section

variable {listener : Listener τ} {seen : τ → Nat} {number : Nat} {failure : SuiteCall → LoadError}
  {left : Nat} {heard : τ} {noted : List Signal}

theorem CutShort.plain {script next : Script} (signal : Signal) (isPlain : signal.isPlain)
    (same : seen (listener.hear signal heard) = seen heard)
    (begins : script.play observer [] = next.play observer [signal])
    (goesOn : script.play listener.logged (heard, noted) =
      next.play listener.logged (listener.hear signal heard, noted ++ [signal]))
    (rest : next.CutShort listener seen failure left (listener.hear signal heard)
      (noted ++ [signal])) :
    script.CutShort listener seen failure left heard noted := by
  obtain ⟨outcome, told, after, played, count, cut⟩ := rest
  obtain ⟨ends, signals⟩ := plain_signals signal begins
  refine ⟨outcome, signal :: told, after, ?_, ?_, ?_⟩
  · rw [goesOn, played, List.append_assoc, List.singleton_append]
  · rw [count, same, suitesIn_of_isPlain isPlain]
  · have later : CutAt failure (suitesIn [signal] + left) _ _ :=
      cut.after (opening_of_isPlain isPlain)
    rw [suitesIn_of_isPlain isPlain, show suitesIn [] = 0 from rfl, Nat.zero_add] at later
    rw [ends, signals]
    exact later

/-- How an entered suite is written down, by how its body is. -/
theorem play_logged_suite {call : SuiteCall} {body : Script} {outcome : Outcome}
    {told : List Signal} {after : τ}
    (entered : listener.suite call heard = (.enter, listener.hear (.suite call) heard))
    (played : body.play listener.logged
        (listener.hear (.suite call) heard, noted ++ [.suite call]) =
      (outcome, (after, noted ++ [.suite call] ++ told))) (next : Script) :
    (suite call body next).play listener.logged (heard, noted) =
      let left := (listener.leave call outcome after,
        noted ++ .suite call :: (told ++ [.leave call outcome]))
      match outcome with
      | .ok () => next.play listener.logged left
      | .error error => (.error error, left) := by
  have enteredToo : listener.logged.suite call (heard, noted) =
      (.enter, (listener.hear (.suite call) heard, noted ++ [.suite call])) := by
    simp only [Listener.logged, entered]
  simp only [play, enteredToo, played]
  cases outcome <;> simp [Listener.logged]

section Suite

variable (fails : listener.FailsAt seen number failure) {call : SuiteCall} {body : Script}
  (next : Script) {after : τ}
  (entered : listener.suite call heard = (.enter, listener.hear (.suite call) heard))
include fails entered

/-- A suite whose body fails before any is refused is told as it is to who enters all. -/
theorem CutShort.of_error {error : LoadError} (ends : body.outcome = .error error)
    (played : body.play listener.logged
        (listener.hear (.suite call) heard, noted ++ [.suite call]) =
      (.error error, (after, noted ++ [.suite call] ++ body.signals)))
    (count : seen after = seen heard + 1 + suitesIn body.signals)
    (few : suitesIn body.signals < left) :
    (Script.suite call body next).CutShort listener seen failure (left + 1) heard noted := by
  obtain ⟨ends, signals⟩ := suite_of_error call ends next
  refine ⟨_, _, _, play_logged_suite entered played next, ?_, ?_⟩
  · rw [fails.seen_leave, count]
    simp only [suitesIn_suite, suitesIn_append, suitesIn_leave, suitesIn_nil]
    omega
  · rw [ends, signals]
    refine .short _ ?_
    simp only [suitesIn_suite, suitesIn_append, suitesIn_leave, suitesIn_nil]
    omega

/-- After a suite whose body ends well before any is refused, the rest may be cut short. -/
theorem CutShort.of_ok (ends : body.outcome = .ok ())
    (played : body.play listener.logged
        (listener.hear (.suite call) heard, noted ++ [.suite call]) =
      (.ok (), (after, noted ++ [.suite call] ++ body.signals)))
    (count : seen after = seen heard + 1 + suitesIn body.signals)
    (few : suitesIn body.signals < left)
    (rest : ∀ {fewer : Nat} {between : τ} (noted : List Signal), 0 < fewer →
      seen between + fewer = seen heard + (left + 1) →
      next.CutShort listener seen failure fewer between noted) :
    (Script.suite call body next).CutShort listener seen failure (left + 1) heard noted := by
  obtain ⟨ends, signals⟩ := suite_of_ok call ends next
  obtain ⟨fewer, rfl⟩ : ∃ fewer, left = suitesIn body.signals + fewer :=
    ⟨left - suitesIn body.signals, by omega⟩
  have remaining : seen (listener.leave call (.ok ()) after) + fewer =
      seen heard + (suitesIn body.signals + fewer + 1) := by
    rw [fails.seen_leave, count]
    omega
  obtain ⟨outcome, told, last, playedNext, countNext, cut⟩ :=
    rest (noted ++ .suite call :: (body.signals ++ [.leave call (.ok ())])) (by omega) remaining
  refine ⟨outcome, .suite call :: (body.signals ++ .leave call (.ok ()) :: told), last, ?_, ?_, ?_⟩
  · rw [play_logged_suite entered played next]
    simpa using playedNext
  · rw [countNext, fails.seen_leave, count]
    simp only [suitesIn_suite, suitesIn_append, suitesIn_leave]
    omega
  · rw [ends, signals]
    exact cut.beyond call body.bracketed

/-- A suite fails with the body in which one is refused. -/
theorem CutShort.of_cut {before later : List Signal} {refused : SuiteCall}
    {inner : List SuiteCall} (signals : body.signals = before ++ .suite refused :: later)
    (here : suitesIn before + 1 = left)
    (opens : ∀ opened, openAfter opened before = inner ++ opened)
    (played : body.play listener.logged
        (listener.hear (.suite call) heard, noted ++ [.suite call]) =
      (.error (failure refused), (after, noted ++ [.suite call] ++
        (before ++ .suite refused :: failures (failure refused) inner))))
    (count : seen after = seen heard + 1 +
      suitesIn (before ++ .suite refused :: failures (failure refused) inner)) :
    (Script.suite call body next).CutShort listener seen failure (left + 1) heard noted := by
  obtain ⟨rest, told⟩ := suite_signals call body next
  refine ⟨_, _, _, play_logged_suite entered played next, ?_, ?_⟩
  · rw [fails.seen_leave, count]
    simp only [suitesIn_suite, suitesIn_append, suitesIn_leave, suitesIn_nil]
    omega
  · rw [told, signals]
    exact .around here opens call rest

/-- An entered suite is cut short if its body is and, after a body that ends well, the rest is. -/
theorem CutShort.suite
    (inside : body.CutShort listener seen failure left (listener.hear (.suite call) heard)
      (noted ++ [.suite call]))
    (rest : ∀ {fewer : Nat} {between : τ} (noted : List Signal), 0 < fewer →
      seen between + fewer = seen heard + (left + 1) →
      next.CutShort listener seen failure fewer between noted) :
    (Script.suite call body next).CutShort listener seen failure (left + 1) heard noted := by
  obtain ⟨outcome, told, after, played, count, cut⟩ := inside
  rw [fails.seen_suite] at count
  generalize full : (body.outcome, body.signals) = bodyFull at cut
  generalize cutTo : (outcome, told) = bodyCut at cut
  cases cut with
  | short ended few =>
      cases cutTo
      obtain ⟨ends, rfl⟩ := Prod.mk.inj full
      cases outcome with
      | error error => exact .of_error fails next entered ends played count few
      | ok => exact .of_ok fails next entered ends played count few rest
  | cut ended refused later here opens =>
      obtain ⟨rfl, rfl⟩ := Prod.mk.inj cutTo
      exact .of_cut fails next entered (Prod.mk.inj full).2 here opens played count

end Suite

/--
A script before a listener that fails at a suite.  The number of suites that are
still to come before that one is what the induction on the script is for.
-/
theorem play_failing (fails : listener.FailsAt seen number failure) (script : Script)
    (early : seen heard + left = number) (positive : 0 < left) (noted : List Signal) :
    script.CutShort listener seen failure left heard noted := by
  induction script generalizing left heard noted with
  | done => exact ⟨.ok (), [], heard, by rw [List.append_nil]; rfl, rfl, .short _ positive⟩
  | fail error =>
      exact ⟨.error error, [], heard, by rw [List.append_nil]; rfl, rfl, .short _ positive⟩
  | test call next ih =>
      have same := fails.seen_plain (.test call) rfl heard
      exact .plain (.test call) rfl same rfl rfl (ih (by rw [same, early]) positive _)
  | hook call next ih =>
      have same := fails.seen_plain (.hook call) rfl heard
      exact .plain (.hook call) rfl same rfl rfl (ih (by rw [same, early]) positive _)
  | notice note next ih =>
      have same := fails.seen_plain (.notice note) rfl heard
      exact .plain (.notice note) rfl same rfl rfl (ih (by rw [same, early]) positive _)
  | suite call body next bodyIh nextIh =>
      by_cases reached : seen heard + 1 = number
      · have refused : listener.logged.suite call (heard, noted) =
            (.refuse (failure call),
              (listener.hear (.suite call) heard, noted ++ [.suite call])) := by
          simp only [Listener.logged, fails.suite_eq_refuse call reached]
        obtain rfl : left = 1 := by omega
        obtain ⟨rest, told⟩ := suite_signals call body next
        refine ⟨.error (failure call), [.suite call], listener.hear (.suite call) heard, ?_,
          fails.seen_suite call heard, ?_⟩
        · simp only [play, refused]
        · rw [told]
          exact (.cut _ call _ rfl fun _ => rfl : CutAt failure 1 (_, [] ++ .suite call :: _)
            (_, [] ++ .suite call :: failures (failure call) []))
      · obtain ⟨left, rfl⟩ : ∃ fewer, left = fewer + 1 := ⟨left - 1, by omega⟩
        have entered := fails.suite_eq_enter call reached
        have counted := fails.seen_suite call heard
        refine .suite fails next entered (bodyIh (by omega) (by omega) _) ?_
        exact fun noted positive same => nextIh (same.trans early) positive noted

end

end Script

namespace Setting

variable (setting : Setting σ) (limit : Nat) (program : Program)

/-- A program is one script for all who listen, and a failing listener cuts it short. -/
theorem exists_script_of_enters (enters : setting.listener.Enters) (heard : σ) :
    ∃ script : Script,
      (setting.evaluate limit program heard).1 = script.outcome ∧
      setting.told limit program heard = script.signals ∧
      ∀ {τ : Type} {failing : Listener τ} {seen : τ → Nat} {number : Nat}
        {failure : SuiteCall → LoadError}, failing.FailsAt seen number failure →
        ∀ {start : τ}, seen start = 0 → 0 < number →
          CutAt failure number (script.outcome, script.signals)
            (((setting.withListener failing).evaluate limit program start).1,
              (setting.withListener failing).told limit program start) := by
  obtain ⟨script, plays⟩ := setting.exists_script limit program
  have observed := plays _ observer observer_enters.neverPasses []
  refine ⟨script, ?_, ?_, ?_⟩
  · rw [setting.evaluate_eq_replay limit program enters]
    exact congrArg Prod.fst observed
  · rw [setting.told_eq_signals limit program enters]
    exact congrArg Prod.snd observed
  · intro τ failing seen number failure fails start fresh positive
    have early : seen start + number = number := by rw [fresh, Nat.zero_add]
    obtain ⟨outcome, told, after, played, -, cut⟩ := script.play_failing fails early positive []
    have logged : (setting.withListener failing.logged).evaluate limit program (start, []) =
        (outcome, (after, told)) :=
      (plays _ failing.logged fails.neverPasses.logged (start, [])).trans played
    have ended := (setting.withListener failing).evaluate_logged limit program start
    have same := ended.symm.trans logged
    rw [(Prod.mk.inj same).1, (Prod.mk.inj (Prod.mk.inj same).2).2]
    exact cut

/-- Every tracer that enters suites writes down the lines of what it is told. -/
theorem lines_of_tracer (plan : TracePlan) (enters : plan.enters = true) :
    let traced := setting.withListener (Tracer.listener plan)
    (traced.evaluate limit program {}).2.lines =
      Signal.lines [] (traced.told limit program {}) := by
  intro traced
  rw [traced.evaluate_eq_replay_told]
  cases fails : plan.failAt with
  | none => exact Tracer.lines_of_entered enters _ (by rw [fails]; nofun)
  | some number =>
      rcases Nat.eq_zero_or_pos number with rfl | positive
      · refine Tracer.lines_of_entered enters _ fun number same positive => ?_
        rw [fails] at same
        cases same
        cases positive
      · have failsAt : (Tracer.listener plan).FailsAt Tracer.suitesSeen number
            fun call => Tracer.failure call.name := by
          obtain ⟨_, _⟩ := plan
          cases fails
          cases enters
          exact Tracer.failsAt number
        obtain ⟨script, -, -, refuses⟩ :=
          (setting.withListener observer).exists_script_of_enters limit program observer_enters []
        have fresh : Tracer.suitesSeen {} = 0 := rfl
        rcases (refuses failsAt fresh positive).dest with
          ⟨few, same⟩ | ⟨before, call, after, -, here, same⟩
        · have told : traced.told limit program {} = script.signals := congrArg Prod.snd same
          rw [told]
          refine Tracer.lines_of_entered enters _ fun number same _ => ?_
          cases fails.symm.trans same
          exact few
        · have told := congrArg Prod.snd same
          rw [show traced.told limit program {} = _ from told]
          exact Tracer.lines_of_refused enters call _ _ (by rw [fails, here])

/--
What a listener that enters all suites is told is well bracketed.  The first suite
that fails ends the evaluation with its error, and the suites around it fail one
after the other; no suite fails in an evaluation that ends well.  The lines of a
trace tell how many suites are open.  A listener that refuses a suite instead is
told the same up to that suite and then that the suites around it fail.
-/
theorem told_brackets {setting : Setting σ} (enters : setting.listener.Enters) (limit : Nat)
    (program : Program) (heard : σ) :
    let told := setting.told limit program heard
    let outcome := (setting.evaluate limit program heard).1
    WellBracketed [] told ∧
    (∀ before call error after, told = before ++ .leave call (.error error) :: after →
      after = failures error (openAfter [] before).tail ∧ outcome = .error error) ∧
    (outcome = .ok () → ∀ call error, Signal.leave call (.error error) ∉ told) ∧
    (∀ plan : TracePlan, plan.enters = true →
      let traced := setting.withListener (Tracer.listener plan)
      (traced.evaluate limit program {}).2.lines =
        Signal.lines [] (traced.told limit program {})) ∧
    ∀ (τ : Type) (failing : Listener τ) (seen : τ → Nat) (number : Nat)
      (failure : SuiteCall → LoadError), failing.FailsAt seen number failure →
      ∀ start, seen start = 0 → 0 < number →
        let refused := setting.withListener failing
        suitesIn told < number ∧ refused.told limit program start = told ∧
            (refused.evaluate limit program start).1 = outcome ∨
          ∃ before call after, told = before ++ .suite call :: after ∧
            suitesIn before + 1 = number ∧
            refused.told limit program start =
              before ++ .suite call :: failures (failure call) (openAfter [] before) ∧
            (refused.evaluate limit program start).1 = .error (failure call) := by
  intro told outcome
  obtain ⟨script, ends, signals, refuses⟩ :=
    setting.exists_script_of_enters limit program enters heard
  have bracketed : Bracketed outcome told := by
    show Bracketed (setting.evaluate limit program heard).1 (setting.told limit program heard)
    rw [ends, signals]
    exact script.bracketed
  refine ⟨bracketed.wellBracketed, ?_, ?_, setting.lines_of_tracer limit program, ?_⟩
  · intro before call error after split
    obtain ⟨failed, inner, opens, rest⟩ := bracketed.after_failure split
    refine ⟨?_, failed⟩
    rw [opens [], List.append_nil]
    exact rest
  · intro well call error member
    obtain ⟨before, after, split⟩ := List.append_of_mem member
    cases well.symm.trans (bracketed.after_failure split).1
  · intro τ failing seen number failure fails start fresh positive refused
    have cut := refuses fails fresh positive
    rw [← ends, ← signals] at cut
    rcases cut.dest with ⟨few, same⟩ | ⟨before, call, after, split, here, same⟩
    · exact .inl ⟨few, congrArg Prod.snd same, congrArg Prod.fst same⟩
    · exact .inr ⟨before, call, after, split, here, congrArg Prod.snd same,
        congrArg Prod.fst same⟩

/-- A call that declares a suite with a body. -/
def suiteOf (name : String) (body : List Statement) : Statement :=
  .expression default (.call default (.identifier default "describe")
    [.plain (.literal default (.text name)), .plain (.function default (.block [] body))])

/-- A suite in which another one throws. -/
def throwingSuite : Program where
  statements := [suiteOf "outer"
    [suiteOf "inner" [.throw default (.literal default (.text "broken"))], suiteOf "later" []]]

/-- The error closes both suites, and so does the refusal of the inner one. -/
theorem told_brackets_throwingSuite :
    let setting := ofText ""
    let told := setting.told activationLimit throwingSuite []
    let refused := setting.withListener (Tracer.listener { failAt := some 2 })
    told.length = 4 ∧ WellBracketed [] told ∧
      (setting.evaluate activationLimit throwingSuite []).1 =
        .error (.thrown ⟨"/case.js", 1⟩ "broken") ∧
      ∃ call, (refused.evaluate activationLimit throwingSuite {}).1 =
        .error (Tracer.failure call) := by
  intro setting told refused
  have enters : setting.listener.Enters := observer_enters
  obtain ⟨brackets, -, -, -, refuses⟩ := told_brackets enters activationLimit throwingSuite []
  refine ⟨by decide +kernel, brackets, by decide +kernel, ?_⟩
  rcases refuses Tracer _ Tracer.suitesSeen 2 _ (Tracer.failsAt 2) {} rfl (by decide) with
    ⟨few, -⟩ | ⟨_, call, _, -, -, -, failed⟩
  · exact absurd few (by decide +kernel)
  · exact ⟨call.name, failed⟩

end Setting

end TestInventory
