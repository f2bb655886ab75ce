import TestInventory.Proofs.Bracket
import TestInventory.Proofs.Evaluation.Limit

/-!
# What a job is surrounded by

A job is taken up in the midst of activations and inside suites.  Neither has any
influence on what the job does, as long as enough activations are left: it leads to
the same jobs, announces the same and leaves the same scopes.  The frames of the
suites around it stand behind those of the suites that it opens itself.
-/

namespace TestInventory

open TestInventory.Source (Span)
open Evaluating

/-- The activations and suites in the midst of which a job is taken up. -/
structure Surroundings where
  /-- How many activations are live. -/
  depth : Nat
  /-- The calls of the suites that are open, innermost first. -/
  suites : List Frame

/-- A call site inside further suites. -/
def CallSite.inside (outer : List Frame) : CallSite → CallSite
  | .frames stack => .frames (stack ++ outer)
  | .trace text => .trace text
  | .unknown => .unknown

/-- A suite inside further suites. -/
def SuiteCall.inside (outer : List Frame) (call : SuiteCall) : SuiteCall :=
  { call with site := call.site.inside outer }

/-- A signal inside further suites: it says the same, and its call site goes further out. -/
def Signal.inside (outer : List Frame) : Signal → Signal
  | .suite call => .suite (call.inside outer)
  | .leave call outcome => .leave (call.inside outer) outcome
  | .test call => .test { call with site := call.site.inside outer }
  | .hook call => .hook { call with site := call.site.inside outer }
  | .notice note => .notice note

/-- Inside no further suites a call site is as it was. -/
theorem CallSite.inside_nil (site : CallSite) : site.inside [] = site := by
  cases site with
  | frames stack => exact congrArg CallSite.frames (List.append_nil stack)
  | trace => rfl
  | unknown => rfl

/-- Inside no further suites a signal is as it was. -/
theorem Signal.inside_nil : Signal.inside [] = id := by
  funext signal
  cases signal <;> simp only [Signal.inside, SuiteCall.inside, CallSite.inside_nil, id]

namespace Job

/-- A job in the midst of more activations and suites. -/
def amid (job : Job) (around : Surroundings) : Job :=
  { job with depth := job.depth + around.depth, suites := job.suites ++ around.suites }

end Job

/-- What is announced inside further suites. -/
def Announcement.amid (around : Surroundings) : Announcement → Announcement
  | .leaf signal => .leaf (signal.inside around.suites)
  | .suite call body => .suite (call.inside around.suites) (body.map (·.amid around))
  | .missing error => .missing error

namespace Setting

variable {σ : Type} {setting : Setting σ} {limit : Nat}

theorem innerOfStatement?_amid {registers : Registers} {statement : Statement} {inner : Job}
    (leads : innerOfStatement? registers statement = some inner) (around : Surroundings) :
    innerOfStatement? ({ registers with task := .statement statement : Job }.amid
      around).toRegisters statement = some (inner.amid around) := by
  cases statement with
  | exported _ declaration =>
      cases declaration with
      | declaration =>
          cases leads
          rfl
      | _ => cases leads
  | forOf _ binder iterated body =>
      obtain ⟨items, known, rfl⟩ := Option.map_eq_some_iff.mp leads
      exact Option.map_eq_some_iff.mpr ⟨items, known, rfl⟩
  | _ => cases leads <;> rfl

/-- A job leads to the same inner job wherever enough activations are left for it. -/
theorem inner?_amid {job inner : Job} (leads : setting.inner? limit job = some inner)
    {around : Surroundings}
    (left : job.task.isActivation = true → (job.amid around).depth < limit) :
    setting.inner? limit (job.amid around) = some (inner.amid around) := by
  obtain ⟨registers, task⟩ := job
  cases task with
  | expression expression =>
      obtain ⟨task, found, rfl⟩ := Option.map_eq_some_iff.mp leads
      exact Option.map_eq_some_iff.mpr ⟨task, found, rfl⟩
  | declarator hoisted declarator =>
      obtain ⟨target, value⟩ := declarator
      obtain ⟨value, rfl, rfl⟩ := Option.map_eq_some_iff.mp leads
      rfl
  | statement statement => exact innerOfStatement?_amid leads around
  | body statements =>
      cases leads
      rfl
  | pass binder item body =>
      cases leads
      rfl
  | activation closure arguments span =>
      have live : registers.depth + around.depth < limit := left rfl
      have liveAlone : registers.depth < limit := Nat.lt_of_le_of_lt (Nat.le_add_right ..) live
      simp only [inner?, if_pos liveAlone, Option.some.injEq] at leads
      subst leads
      refine (if_pos live).trans ?_
      simp only [Job.amid, Nat.add_right_comm]
      rfl
  | all tasks => cases leads

/-- A declaring call announces the same inside further suites. -/
theorem announcement_amid (job : Job) (around : Surroundings) (span : Span) (entry : Entry)
    (arguments : List Element) :
    setting.announcement (job.amid around).toRegisters span entry arguments =
      (setting.announcement job.toRegisters span entry arguments).amid around := by
  cases entry with
  | suite variant =>
      simp only [announcement, Job.amid]
      cases Element.closureAt? job.scopes job.current arguments 1 with
      | some closure => rfl
      | none =>
          by_cases pending : variant = .skip
          · simp only [if_pos pending]
            rfl
          · simp only [if_neg pending]
            rfl
  | test variant => rfl
  | hook hook => rfl

/-- What leads to no other job ends in the same way anywhere, unless it is an activation. -/
theorem ends_amid_of_alone {job : Job} (lone : setting.Alone limit job)
    (calm : job.task.isActivation = false) (around : Surroundings) (heard : σ) :
    setting.ends limit (job.amid around) heard = setting.ends limit job heard := by
  obtain ⟨alone, single, silent⟩ := lone
  obtain ⟨registers, task⟩ := job
  cases task with
  | expression expression =>
      cases expression with
      | call span callee arguments =>
          have undeclared := silent span callee arguments rfl
          obtain ⟨declared, -⟩ :=
            setting.treatment_spec registers.scopes registers.current callee arguments
          have lasts : (setting.treatment registers.scopes registers.current callee
              arguments).inner? span
                (elementBindings registers.scopes registers.current arguments) = none :=
            Option.map_eq_none_iff.mp alone
          refine (setting.runExpression_call _ _ _ _ _ _).trans
            (Eq.trans ?_ (setting.runExpression_call _ _ _ _ _ _).symm)
          simp only [Job.amid, Registers.place]
          cases treated : setting.treatment registers.scopes registers.current callee arguments with
          | configured => rfl
          | skipped => rfl
          | declared entry =>
              rw [treated, undeclared] at declared
              cases declared
          | _ =>
              rw [treated] at lasts
              cases lasts
      | await => cases alone
      | parenthesized => cases alone
      | sequence => cases alone
      | assign => cases alone
      | _ => rfl
  | declarator hoisted declarator =>
      obtain ⟨target, value⟩ := declarator
      cases value with
      | some => cases alone
      | none => cases target <;> rfl
  | statement statement =>
      cases statement with
      | exported _ declaration => cases declaration <;> first | rfl | cases alone
      | forOf span binder iterated body =>
          have unknown := Option.map_eq_none_iff.mp alone
          simp only [ends, doTask, runStatement, bind_apply, scopes_apply, Registers.place,
            Job.amid, unknown]
      | _ => first | rfl | cases alone
  | body => cases alone
  | pass => cases alone
  | activation => cases calm
  | all tasks => exact absurd rfl (single tasks)

end Setting

end TestInventory
