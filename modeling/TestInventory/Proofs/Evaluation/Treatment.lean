import TestInventory.Evaluation.Run
import TestInventory.Proofs.Evaluation.Agreement

/-!
# How a call is treated

What running a call amounts to is decided by its callee, its arguments and the
names bound so far: the call declares something, runs a helper, runs a callback
for every item of a list, sets something about the open suite, continues the
call it is chained to, or is skipped.  `Setting.treatment` is that decision, and
`Setting.runExpression_call` says that a call is run by it.
-/

namespace TestInventory

open TestInventory.Source (Span)
open Evaluating

/-- What is done with a call. -/
inductive Treatment where
  /-- A setting of the open suite; nothing is done. -/
  | configured
  /-- A method of the result of another call, which is run. -/
  | chained (object : Expression)
  | iterated (items : List Binding) (closure : Closure)
  | declared (entry : Entry)
  | activated (closure : Closure)
  /-- The call is left alone; its callee is noted if it is a name or a member of one. -/
  | skipped (callee : Option String)

namespace Treatment

/-- What a call declares under its treatment. -/
def declared? : Treatment → Option Entry
  | .declared entry => some entry
  | _ => none

/-- The call that a call continues under its treatment. -/
def continued? : Treatment → Option Expression
  | .chained object => some object
  | _ => none

end Treatment

/-- The call of whose result a callee is a method. -/
def Expression.receiver? : Expression → Option Expression
  | .member _ (.call span callee arguments) _ => some (.call span callee arguments)
  | _ => none

theorem Expression.sizeOf_receiver? {callee object : Expression}
    (receiver : callee.receiver? = some object) : sizeOf object < sizeOf callee := by
  cases callee with
  | member span receiving property =>
      cases receiving with
      | call =>
          cases receiver
          simp only [Expression.member.sizeOf_spec]
          omega
      | _ => cases receiver
  | _ => cases receiver

/-- A word that is no modifier makes no declaration of a member. -/
theorem Interface.classify_member_eq_none (interface : Interface) (callee : String)
    (word : String) (other : modifier? word = none) :
    interface.classify callee (some word) = none := by
  unfold classify
  cases interface.vocabulary.lookup callee with
  | none => rfl
  | some entry =>
      cases entry with
      | suite variant => cases variant <;> simp [other]
      | test variant => cases variant <;> simp [other]
      | hook hook => rfl

/-- A call of `forEach` declares nothing itself. -/
theorem Interface.entryOf?_forEach (interface : Interface) (span : Span) (object : Expression) :
    interface.entryOf? (.member span object "forEach") = none := by
  cases object with
  | identifier _ name => exact interface.classify_member_eq_none name "forEach" rfl
  | _ => rfl

namespace Setting

variable {σ : Type} (setting : Setting σ)

/-- What is done with a call of a name, or of a member of a name. -/
def namedTreatment (scopes : Scopes) (scope : Nat) (name : String) (modifier : Option String) :
    Treatment :=
  match setting.interface.classify name modifier with
  | some entry => .declared entry
  | none =>
    match if modifier.isNone then (scopes.lookup scope name).bind Binding.closure? else none with
    | some closure => .activated closure
    | none => .skipped (some name)

/-- What is done with a call of `forEach`. -/
def iteratedTreatment (scopes : Scopes) (scope : Nat) (iterated : Expression)
    (arguments : List Element) : Treatment :=
  match (iterated.binding scopes scope).items?,
      Element.closureAt? scopes scope arguments 0 with
  | some items, some closure => .iterated items closure
  | _, _ => .skipped none

/-- What is done with a call of a member of something that is neither `this` nor a call. -/
def memberTreatment (scopes : Scopes) (scope : Nat) (object : Expression) (property : String)
    (arguments : List Element) : Treatment :=
  if property = "forEach" then iteratedTreatment scopes scope object arguments
  else match object with
    | .identifier _ name => setting.namedTreatment scopes scope name (some property)
    | _ => .skipped none

/-- What is done with a call. -/
def treatment (scopes : Scopes) (scope : Nat) (callee : Expression) (arguments : List Element) :
    Treatment :=
  match callee with
  | .identifier _ name => setting.namedTreatment scopes scope name none
  | .member _ object property =>
    match object with
    | .this _ => .configured
    | .call .. => .chained object
    | object => setting.memberTreatment scopes scope object property arguments
  | _ => .skipped none

/-- A named call declares something, runs a helper or is skipped. -/
theorem namedTreatment_cases (scopes : Scopes) (scope : Nat) (name : String)
    (modifier : Option String) :
    (∃ entry, setting.interface.classify name modifier = some entry ∧
        setting.namedTreatment scopes scope name modifier = .declared entry) ∨
      (setting.interface.classify name modifier = none ∧
        ((∃ closure, setting.namedTreatment scopes scope name modifier = .activated closure) ∨
          setting.namedTreatment scopes scope name modifier = .skipped (some name))) := by
  unfold namedTreatment
  cases setting.interface.classify name modifier with
  | some entry => exact .inl ⟨entry, rfl, rfl⟩
  | none =>
      refine .inr ⟨rfl, ?_⟩
      cases if modifier.isNone then
          (scopes.lookup scope name).bind Binding.closure? else none with
      | some closure => exact .inl ⟨closure, rfl⟩
      | none => exact .inr rfl

/-- A call of `forEach` runs its callback for items or is skipped. -/
theorem iteratedTreatment_cases (scopes : Scopes) (scope : Nat) (iterated : Expression)
    (arguments : List Element) :
    (∃ items closure, iteratedTreatment scopes scope iterated arguments =
        .iterated items closure) ∨
      iteratedTreatment scopes scope iterated arguments = .skipped none := by
  unfold iteratedTreatment
  cases (iterated.binding scopes scope).items? with
  | none => exact .inr rfl
  | some items =>
      cases Element.closureAt? scopes scope arguments 0 with
      | none => exact .inr rfl
      | some closure => exact .inl ⟨items, closure, rfl⟩

/-- A call of a member declares what its callee stands for, or is no declaration. -/
theorem memberTreatment_cases (scopes : Scopes) (scope : Nat) (span : Span) (object : Expression)
    (property : String) (arguments : List Element) :
    (∃ at_ name, object = .identifier at_ name ∧
        setting.memberTreatment scopes scope object property arguments =
          setting.namedTreatment scopes scope name (some property)) ∨
      (setting.interface.entryOf? (.member span object property) = none ∧
        ((∃ items closure, setting.memberTreatment scopes scope object property arguments =
            .iterated items closure) ∨
          setting.memberTreatment scopes scope object property arguments = .skipped none)) := by
  unfold memberTreatment
  by_cases each : property = "forEach"
  · rw [if_pos each, each]
    exact .inr ⟨setting.interface.entryOf?_forEach span object, iteratedTreatment_cases ..⟩
  · rw [if_neg each]
    cases object with
    | identifier at_ name => exact .inl ⟨at_, name, rfl, rfl⟩
    | _ => exact .inr ⟨rfl, .inr rfl⟩

/-- A named call declares what its callee stands for, and continues no other call. -/
theorem namedTreatment_spec (scopes : Scopes) (scope : Nat) (name : String)
    (modifier : Option String) :
    (setting.namedTreatment scopes scope name modifier).declared? =
        setting.interface.classify name modifier ∧
      (setting.namedTreatment scopes scope name modifier).continued? = none := by
  rcases setting.namedTreatment_cases scopes scope name modifier with
    ⟨entry, found, treated⟩ | ⟨other, ⟨closure, treated⟩ | treated⟩
  · exact treated ▸ ⟨found.symm, rfl⟩
  · exact treated ▸ ⟨other.symm, rfl⟩
  · exact treated ▸ ⟨other.symm, rfl⟩

/-- A call of a member declares what its callee stands for, and continues no other call. -/
theorem memberTreatment_spec (scopes : Scopes) (scope : Nat) (span : Span) (object : Expression)
    (property : String) (arguments : List Element) :
    (setting.memberTreatment scopes scope object property arguments).declared? =
        setting.interface.entryOf? (.member span object property) ∧
      (setting.memberTreatment scopes scope object property arguments).continued? = none := by
  rcases setting.memberTreatment_cases scopes scope span object property arguments with
    ⟨_, name, rfl, treated⟩ | ⟨other, ⟨items, closure, treated⟩ | treated⟩
  · exact treated ▸ setting.namedTreatment_spec scopes scope name (some property)
  · exact treated ▸ ⟨other.symm, rfl⟩
  · exact treated ▸ ⟨other.symm, rfl⟩

/--
A call is treated as a declaration exactly if its callee stands for one, and
continues the call whose method its callee is.
-/
theorem treatment_spec (scopes : Scopes) (scope : Nat) (callee : Expression)
    (arguments : List Element) :
    (setting.treatment scopes scope callee arguments).declared? =
        setting.interface.entryOf? callee ∧
      (setting.treatment scopes scope callee arguments).continued? = callee.receiver? := by
  cases callee with
  | identifier _ name => exact setting.namedTreatment_spec scopes scope name none
  | member span object property =>
      have member := setting.memberTreatment_spec scopes scope span object property arguments
      cases object with
      | this => exact ⟨rfl, rfl⟩
      | call => exact ⟨rfl, rfl⟩
      | _ => exact member
  | _ => exact ⟨rfl, rfl⟩

variable (activate : Activation σ)

/-- Do with a call what its treatment says. -/
def perform (place : Place) (span : Span) (arguments : List Element) :
    Treatment → Evaluating σ Unit
  | .configured => return
  | .chained object => do
    setting.runExpression activate place object
    setting.skipCall span arguments
  | .iterated items closure =>
    items.zipIdx.forM fun (item, index) =>
      activate closure [item, .value (.number (Float.ofNat index))] span place.suites
  | .declared entry => setting.declare activate place span entry arguments
  | .activated closure => do
    activate closure (elementBindings (← scopes) place.scope arguments) span place.suites
  | .skipped callee => do
    if let some name := callee then setting.notice (.skipped name)
    setting.skipCall span arguments

/-- What opening a suite leads to. -/
theorem openSuite_apply (call : SuiteCall) (body : Evaluating σ Unit) (before : Progress σ) :
    setting.openSuite call body before =
      match setting.listener.suite call before.heard with
      | (.refuse error, heard) => (.error error, { before with heard })
      | (.pass, heard) => (.ok (), { before with heard })
      | (.enter, heard) =>
        let (outcome, after) := body { before with heard }
        (outcome, { after with heard := setting.listener.leave call outcome after.heard }) := by
  have got : (get : Evaluating σ (Progress σ)) before = (.ok before, before) := rfl
  obtain ⟨file, interface, resolver, ⟨suite, leave, test, hook, notice⟩⟩ := setting
  rw [openSuite, bind_apply, got]
  dsimp only
  cases suite call before.heard with
  | mk admission heard =>
      cases admission with
      | refuse error => rfl
      | pass => rfl
      | enter =>
          show (attempt body >>= fun outcome => tell (leave call outcome) >>= fun _ =>
            openSuite.liftExcept outcome : Evaluating σ Unit) { before with heard } = _
          rw [bind_apply]
          dsimp only [attempt]
          cases body { before with heard } with
          | mk outcome after => cases outcome <;> rfl

theorem callName_apply (place : Place) (span : Span) (name : String) (modifier : Option String)
    (arguments : List Element) (before : Progress σ) :
    setting.callName activate place span name modifier arguments before =
      setting.perform activate place span arguments
        (setting.namedTreatment before.scopes place.scope name modifier) before := by
  unfold callName namedTreatment
  cases setting.interface.classify name modifier with
  | some entry => rfl
  | none =>
      dsimp only
      rw [bind_apply, scopes_apply]
      dsimp only
      cases if modifier.isNone then
          (before.scopes.lookup place.scope name).bind Binding.closure? else none <;> rfl

theorem callForEach_apply (place : Place) (span : Span) (iterated : Expression)
    (arguments : List Element) (before : Progress σ) :
    setting.callForEach activate place span iterated arguments before =
      setting.perform activate place span arguments
        (iteratedTreatment before.scopes place.scope iterated arguments) before := by
  unfold callForEach iteratedTreatment
  rw [bind_apply, scopes_apply]
  dsimp only
  cases (iterated.binding before.scopes place.scope).items? with
  | none => rfl
  | some items =>
      cases Element.closureAt? before.scopes place.scope arguments 0 <;> rfl

/-- A call is run by doing what its treatment says. -/
theorem runExpression_call (place : Place) (span : Span) (callee : Expression)
    (arguments : List Element) (before : Progress σ) :
    setting.runExpression activate place (.call span callee arguments) before =
      setting.perform activate place span arguments
        (setting.treatment before.scopes place.scope callee arguments) before := by
  cases callee with
  | identifier _ name => exact setting.callName_apply activate ..
  | member _ object property =>
      cases object with
      | this => rfl
      | call => rfl
      | identifier _ name =>
          by_cases each : property = "forEach"
          · simp only [runExpression, treatment, memberTreatment, if_pos each]
            exact setting.callForEach_apply activate ..
          · simp only [runExpression, treatment, memberTreatment, if_neg each]
            exact setting.callName_apply activate ..
      | _ =>
          by_cases each : property = "forEach"
          · simp only [runExpression, treatment, memberTreatment, if_pos each]
            exact setting.callForEach_apply activate ..
          · simp only [runExpression, treatment, memberTreatment, if_neg each]
            rfl
  | _ => rfl

end Setting

end TestInventory
