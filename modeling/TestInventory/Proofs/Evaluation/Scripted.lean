import TestInventory.Proofs.Evaluation.JobOrder

/-!
# The script of a program

A listener may end an evaluation by refusing a suite, but it cannot steer it.
For all listeners that run the body of each suite they do not refuse, a program
is therefore one script, and evaluating the program is playing that script.
-/

namespace TestInventory

open TestInventory.Source (Span)
open Evaluating

/-- Whether a listener runs the body of every suite that it does not refuse. -/
def Listener.NeverPasses {σ : Type} (listener : Listener σ) : Prop :=
  ∀ call heard, (listener.suite call heard).1 ≠ .pass

theorem Listener.Enters.neverPasses {σ : Type} {listener : Listener σ}
    (enters : listener.Enters) : listener.NeverPasses := by
  intro call heard passes
  cases (enters call heard).symm.trans passes

theorem Listener.NeverPasses.logged {σ : Type} {listener : Listener σ}
    (decided : listener.NeverPasses) : listener.logged.NeverPasses :=
  fun call heard => decided call heard.1

namespace Script

/-- A script and, unless it fails, another one. -/
def append : Script → Script → Script
  | .done, second => second
  | .fail error, _ => .fail error
  | .suite call body next, second => .suite call body (next.append second)
  | .test call next, second => .test call (next.append second)
  | .hook call next, second => .hook call (next.append second)
  | .notice note next, second => .notice note (next.append second)

/-- A script of notices. -/
def noting (notes : List Notice) (next : Script) : Script := notes.foldr .notice next

/-- The script that ends as an outcome does. -/
def ending : Outcome → Script
  | .ok () => .done
  | .error error => .fail error

variable {τ : Type} (listener : Listener τ)

theorem play_append (first second : Script) (heard : τ) :
    (first.append second).play listener heard =
      match first.play listener heard with
      | (.ok (), heard) => second.play listener heard
      | (.error error, heard) => (.error error, heard) := by
  induction first generalizing heard with
  | done => rfl
  | fail error => rfl
  | test call next ih => exact ih _
  | hook call next ih => exact ih _
  | notice note next ih => exact ih _
  | suite call body next _ ih =>
      simp only [append, play]
      rcases listener.suite call heard with ⟨_ | _ | _, heard⟩
      · simp only [ih]
        rcases body.play listener heard with ⟨_ | _, heard⟩ <;> rfl
      · exact ih heard
      · rfl

theorem play_noting (notes : List Notice) (next : Script) (heard : τ) :
    (noting notes next).play listener heard =
      next.play listener (listener.noteAll notes heard) := by
  induction notes generalizing heard with
  | nil => rfl
  | cons note rest ih => exact ih _

theorem play_ending (outcome : Outcome) (heard : τ) :
    (ending outcome).play listener heard = (outcome, heard) := by
  cases outcome <;> rfl

end Script

/-- The same end with known scopes, which matter only if it is a good one. -/
inductive SameEnd {τ : Type} (after : Scopes) : Outcome × Progress τ → Outcome × τ → Prop where
  | well (heard : τ) : SameEnd after (.ok (), ⟨after, heard⟩) (.ok (), heard)
  | ill (error : LoadError) (scopes : Scopes) (heard : τ) :
    SameEnd after (.error error, ⟨scopes, heard⟩) (.error error, heard)

namespace SameEnd

variable {τ : Type} {after : Scopes} {ended : Outcome × Progress τ}

theorem of_outcome (outcome : Outcome) (heard : τ) :
    SameEnd after (outcome, ⟨after, heard⟩) (outcome, heard) := by
  cases outcome with
  | ok => exact .well heard
  | error error => exact .ill error after heard

theorem heard_eq {played : Outcome × τ} (same : SameEnd after ended played) :
    ended.2.heard = played.2 := by
  cases same <;> rfl

/-- The same may follow. -/
theorem append {listener : Listener τ} {first second : Script} {between : Scopes} {start : τ}
    {next : Evaluating τ Unit} (same : SameEnd between ended (first.play listener start))
    (rest : ∀ heard, SameEnd after (next ⟨between, heard⟩) (second.play listener heard)) :
    SameEnd after (goOn ended next) ((first.append second).play listener start) := by
  rw [Script.play_append]
  generalize first.play listener start = played at same
  cases same with
  | well heard => exact rest heard
  | ill error scopes heard => exact .ill error scopes heard

/-- An entered suite ends as its body does. -/
theorem suite {listener : Listener τ} {call : SuiteCall} {body : Script} {start heard : τ}
    (same : SameEnd after ended (body.play listener heard))
    (entered : listener.suite call start = (.enter, heard)) :
    SameEnd after (ended.1, { ended.2 with heard := listener.leave call ended.1 ended.2.heard })
      ((Script.suite call body .done).play listener start) := by
  simp only [Script.play, entered]
  generalize body.play listener heard = played at same
  cases same with
  | well heard => exact .well _
  | ill error scopes heard => exact .ill error scopes _

end SameEnd

namespace Setting

variable {σ : Type} (setting : Setting σ) (limit : Nat)

/-- Whether a job is a script for all listeners that run the body of each suite or refuse it. -/
def Scripted (job : Job) : Prop :=
  ∃ (script : Script) (after : Scopes), ∀ (τ : Type) (listener : Listener τ),
    listener.NeverPasses → ∀ heard,
      SameEnd after ((setting.withListener listener).ends limit job heard)
        (script.play listener heard)

variable {setting limit}

/-- What a declaring call announces is a script if the body of the suite is one. -/
theorem scripted_announcement (registers : Registers) (span : Span) (entry : Entry)
    (arguments : List Element)
    (inside : ∀ call body, setting.announcement registers span entry arguments =
      .suite call (some body) → setting.Scripted limit body) :
    ∃ (script : Script) (after : Scopes), ∀ (τ : Type) (listener : Listener τ),
      listener.NeverPasses → ∀ heard, SameEnd after
        ((setting.withListener listener).announce limit registers.scopes
          (setting.announcement registers span entry arguments) heard)
        (script.play listener heard) := by
  cases announced : setting.announcement registers span entry arguments with
  | missing error =>
      exact ⟨.fail error, registers.scopes, fun _ _ _ heard => .ill error registers.scopes heard⟩
  | leaf signal =>
      rcases setting.leaf_of_announcement announced with ⟨call, rfl⟩ | ⟨call, rfl⟩
      · exact ⟨.test call .done, registers.scopes, fun _ _ _ _ => .well _⟩
      · exact ⟨.hook call .done, registers.scopes, fun _ _ _ _ => .well _⟩
  | suite call body =>
      obtain ⟨script, after, same⟩ : ∃ (script : Script) (after : Scopes),
          ∀ (τ : Type) (listener : Listener τ), listener.NeverPasses → ∀ heard, SameEnd after
            ((setting.withListener listener).endsBody limit registers.scopes body heard)
            (script.play listener heard) := by
        cases body with
        | none => exact ⟨.done, registers.scopes, fun _ _ _ heard => .well heard⟩
        | some inner => exact inside call inner announced
      refine ⟨.suite call script .done, after, fun τ listener decided heard => ?_⟩
      have passes := decided call heard
      simp only [announce, listener_withListener]
      rcases admitted : listener.suite call heard with ⟨_ | _ | error, between⟩
      · exact (same τ listener decided between).suite admitted
      · rw [admitted] at passes
        exact absurd rfl passes
      · simp only [Script.play, admitted]
        exact .ill error registers.scopes between

/-- Every job is a script. -/
theorem scripted (setting : Setting σ) (limit : Nat) (job : Job) : setting.Scripted limit job := by
  induction job using setting.job_induction limit with
  | none registers => exact ⟨.done, registers.scopes, fun _ _ _ heard => .well heard⟩
  | row registers first rest firstScripted restScripted =>
      obtain ⟨script, between, same⟩ := firstScripted
      obtain ⟨next, after, later⟩ := restScripted between
      refine ⟨script.append next, after, fun τ listener decided heard => ?_⟩
      rw [ends_all_cons]
      exact (same τ listener decided heard).append (later τ listener decided)
  | within job inner leads innerScripted =>
      obtain ⟨script, between, same⟩ := innerScripted
      refine ⟨script.append (.noting (setting.finishNotes job.task) .done),
        between.finish job.current job.task, fun τ listener decided heard => ?_⟩
      rw [(setting.withListener listener).ends_of_inner? limit leads]
      refine (same τ listener decided heard).append fun heard => ?_
      rw [Script.play_noting, finish_apply]
      exact .well _
  | declaring registers span callee arguments entry stands bodyScripted =>
      obtain ⟨script, after, same⟩ := scripted_announcement registers span entry arguments
        bodyScripted
      refine ⟨.noting (setting.namingNotes registers entry arguments) script, after,
        fun τ listener decided heard => ?_⟩
      have declares : (setting.withListener listener).interface.entryOf? callee = some entry :=
        stands
      rw [(setting.withListener listener).ends_of_declaring limit registers span arguments declares,
        Script.play_noting]
      exact same τ listener decided _
  | alone job lone =>
      obtain ⟨notes, outcome, after, ended, -⟩ := lone.idle
      refine ⟨.noting notes (.ending outcome), after, fun τ listener _ heard => ?_⟩
      rw [ended, Script.play_noting, Script.play_ending]
      exact .of_outcome outcome _

/-- To evaluate a program is to play its script. -/
theorem exists_script (setting : Setting σ) (limit : Nat) (program : Program) :
    ∃ script : Script, ∀ (τ : Type) (listener : Listener τ), listener.NeverPasses → ∀ heard,
      (setting.withListener listener).evaluate limit program heard =
        script.play listener heard := by
  obtain ⟨script, after, same⟩ := setting.scripted limit program.job
  refine ⟨script, fun τ listener decided heard => ?_⟩
  have ended := same τ listener decided heard
  rw [evaluate_eq_ends]
  revert ended
  generalize script.play listener heard = played
  generalize (setting.withListener listener).ends limit program.job heard = ended
  rintro (_ | _) <;> rfl

end Setting

end TestInventory
