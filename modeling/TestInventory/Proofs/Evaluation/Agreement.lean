import TestInventory.Evaluation.Basic

/-!
# Steps that agree

Two evaluations, of different programs or for different listeners, are compared
step by step.  Steps agree when from related progress they reach related
progress with related results, or fail with the same error.
-/

namespace TestInventory

open TestInventory.Source (Span)

/-- The same error, or related results. -/
def ResultsAgree {α β : Type} (valued : α → β → Prop) :
    Except LoadError α → Except LoadError β → Prop
  | .ok first, .ok second => valued first second
  | .error first, .error second => first = second
  | _, _ => False

namespace ResultsAgree

variable {α : Type}

/-- Results agree up to equality exactly if they are the same. -/
theorem iff_eq {first second : Except LoadError α} :
    ResultsAgree Eq first second ↔ first = second := by
  cases first with
  | error error =>
      cases second with
      | error other => exact ⟨congrArg Except.error, Except.error.inj⟩
      | ok other => exact ⟨False.elim, fun same => nomatch same⟩
  | ok result =>
      cases second with
      | error other => exact ⟨False.elim, fun same => nomatch same⟩
      | ok other => exact ⟨congrArg Except.ok, Except.ok.inj⟩

end ResultsAgree

namespace Evaluating

variable {σ τ α β γ δ : Type}

/-- A step after another runs where the other ends, unless the other fails. -/
theorem scopes_apply (progress : Progress σ) :
    scopes progress = (.ok progress.scopes, progress) := rfl

theorem bind_apply (step : Evaluating σ α) (next : α → Evaluating σ β)
    (progress : Progress σ) :
    (step >>= next) progress =
      match step progress with
      | (.ok result, after) => next result after
      | (.error error, after) => (.error error, after) := by
  simp only [Bind.bind, ExceptT.bind, ExceptT.mk, StateT.bind]
  cases step progress with
  | mk result after => cases result <;> rfl

/-- Go on from where a step has ended, unless it has failed. -/
def goOn (ended : Outcome × Progress σ) (next : Evaluating σ β) : Except LoadError β × Progress σ :=
  match ended with
  | (.ok (), after) => next after
  | (.error error, after) => (.error error, after)

@[simp]
theorem goOn_ok (after : Progress σ) (next : Evaluating σ β) :
    goOn (.ok (), after) next = next after := rfl

@[simp]
theorem goOn_error (error : LoadError) (after : Progress σ) (next : Evaluating σ β) :
    goOn (.error error, after) next = (.error error, after) := rfl

@[simp]
theorem goOn_return (ended : Outcome × Progress σ) : goOn ended (return) = ended := by
  rcases ended with ⟨_ | _, after⟩ <;> rfl

/-- A step without a result is gone on from. -/
theorem andThen_apply (step : Evaluating σ Unit) (next : Evaluating σ β) (progress : Progress σ) :
    (step >>= fun _ => next) progress = goOn (step progress) next := by
  rw [bind_apply]
  rcases step progress with ⟨_ | _, after⟩ <;> rfl

/-- Steps in a row succeed exactly if the first does and the other does from where it ends. -/
theorem bind_eq_ok {step : Evaluating σ α} {next : α → Evaluating σ β} {before after : Progress σ}
    {value : β} :
    (step >>= next) before = (.ok value, after) ↔
      ∃ result between, step before = (.ok result, between) ∧
        next result between = (.ok value, after) := by
  rw [bind_apply]
  cases step before with
  | mk outcome between =>
      cases outcome with
      | error error =>
          refine ⟨fun failed => (nomatch failed), ?_⟩
          rintro ⟨_, _, ran, _⟩
          cases ran
      | ok result =>
          refine ⟨fun rest => ⟨result, between, rfl, rest⟩, ?_⟩
          rintro ⟨_, _, ran, rest⟩
          cases ran
          exact rest

/-- Two steps agree with respect to relations of progress and of results. -/
def Agree (related : Progress σ → Progress τ → Prop) (valued : α → β → Prop)
    (first : Evaluating σ α) (second : Evaluating τ β) : Prop :=
  ∀ before before', related before before' →
    ResultsAgree valued (first before).1 (second before').1 ∧
      related (first before).2 (second before').2

namespace Agree

variable {related : Progress σ → Progress τ → Prop} {valued : α → β → Prop}

/-- Related results agree. -/
theorem pure {first : α} {second : β} (same : valued first second) :
    Agree related valued (Pure.pure first : Evaluating σ α) (Pure.pure second : Evaluating τ β) :=
  fun _ _ relation => ⟨same, relation⟩

/-- Equal errors agree. -/
theorem throw (error : LoadError) :
    Agree related valued (MonadExcept.throw error : Evaluating σ α)
      (MonadExcept.throw error : Evaluating τ β) :=
  fun _ _ relation => ⟨rfl, relation⟩

/-- Agreement carries over to the steps that follow. -/
theorem bind {step : Evaluating σ α} {step' : Evaluating τ β} {next : α → Evaluating σ γ}
    {next' : β → Evaluating τ δ} {finished : γ → δ → Prop}
    (agree : Agree related valued step step')
    (rest : ∀ result result', valued result result' →
      Agree related finished (next result) (next' result')) :
    Agree related finished (step >>= next) (step' >>= next') := by
  intro before before' relation
  obtain ⟨results, after⟩ := agree before before' relation
  rw [bind_apply, bind_apply]
  cases ran : step before with
  | mk result progress =>
      cases ran' : step' before' with
      | mk result' progress' =>
          rw [ran, ran'] at results after
          cases result with
          | error error =>
              cases result' with
              | error error' => exact ⟨results, after⟩
              | ok value' => cases results
          | ok value =>
              cases result' with
              | error error' => cases results
              | ok value' => exact rest value value' results progress progress' after

/-- Steps without results agree one after the other. -/
theorem andThen {step : Evaluating σ Unit} {step' : Evaluating τ Unit}
    {next : Evaluating σ γ} {next' : Evaluating τ δ} {finished : γ → δ → Prop}
    (agree : Agree related Eq step step') (rest : Agree related finished next next') :
    Agree related finished (step >>= fun _ => next) (step' >>= fun _ => next') :=
  agree.bind fun _ _ _ => rest

/-- A step for every item of a list and of its image under a map. -/
theorem forM {ι κ : Type} (image : ι → κ) {step : ι → Evaluating σ Unit}
    {step' : κ → Evaluating τ Unit}
    (agree : ∀ item, Agree related Eq (step item) (step' (image item))) (items : List ι) :
    Agree related Eq (items.forM step) ((items.map image).forM step') := by
  induction items with
  | nil => exact .pure rfl
  | cons item items ih => exact (agree item).andThen ih

/-- A change of both states that keeps them related. -/
theorem modify {change : Progress σ → Progress σ} {change' : Progress τ → Progress τ}
    (keeps : ∀ before before', related before before' →
      related (change before) (change' before')) :
    Agree related Eq (modifyThe (Progress σ) change : Evaluating σ Unit)
      (modifyThe (Progress τ) change' : Evaluating τ Unit) :=
  fun before before' relation => ⟨rfl, keeps before before' relation⟩

end Agree

end Evaluating

end TestInventory
