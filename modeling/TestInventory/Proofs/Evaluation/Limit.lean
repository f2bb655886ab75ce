import TestInventory.Proofs.Evaluation.Halting

/-!
# Hitting the limit

A run hits the limit when it takes up an activation although none is left.  An error
at one visit is the error of all visits that lead there, so a run that hits the
limit fails, and with the error of the activation that was refused.
-/

namespace TestInventory

open TestInventory.Source (Span)

variable {σ : Type} {setting : Setting σ} {limit : Nat}

namespace Visit

/-- Whether an activation is taken up from a visit although none is left. -/
def HitsLimit (setting : Setting σ) (limit : Nat) (visit : Visit σ) : Prop :=
  ∃ last : Visit σ, visit.Reaches setting limit last ∧ last.task.isActivation = true ∧
    limit ≤ last.depth

/-- What stays within the limit also does so at all that it leads to. -/
theorem not_hitsLimit_of_starts {visit next : Visit σ}
    (free : ¬ visit.HitsLimit setting limit) (starts : Starts setting limit visit next) :
    ¬ next.HitsLimit setting limit := by
  rintro ⟨last, reaches, live, spent⟩
  exact free ⟨last, .head starts reaches, live, spent⟩

/-- What stays within the limit also does so at the inner job. -/
theorem not_hitsLimit_of_inner? {job inner : Job} {heard : σ}
    (free : ¬ (job.visit heard).HitsLimit setting limit)
    (leads : setting.inner? limit job = some inner) :
    ¬ (inner.visit heard).HitsLimit setting limit :=
  not_hitsLimit_of_starts free (.inner leads)

/-- An activation that stays within the limit is not refused. -/
theorem depth_lt_of_not_hitsLimit {visit : Visit σ} (free : ¬ visit.HitsLimit setting limit)
    (live : visit.task.isActivation = true) : visit.depth < limit :=
  Nat.not_le.mp fun spent => free ⟨visit, .refl, live, spent⟩

/-- An error at a visit is the error of the visit that leads to it. -/
theorem error_of_starts {visit next : Visit σ} (starts : Starts setting limit visit next)
    {error : LoadError}
    (failed : (setting.ends limit next.job next.heard).1 = .error error) :
    (setting.ends limit visit.job visit.heard).1 = .error error := by
  cases starts with
  | @inner _ inner leads =>
      have failedInner : (setting.ends limit inner visit.heard).1 = .error error := failed
      rw [setting.ends_of_inner? limit leads]
      rcases ended : setting.ends limit inner visit.heard with ⟨outcome, after⟩
      rw [ended] at failedInner
      cases failedInner
      rfl
  | first registers heard first rest =>
      have failedFirst : (setting.ends limit { registers with task := first } heard).1 =
        .error error := failed
      show (setting.ends limit { registers with task := .all (first :: rest) } heard).1 = _
      rw [setting.ends_all_cons]
      rcases ended : setting.ends limit { registers with task := first } heard with
        ⟨outcome, after⟩
      rw [ended] at failedFirst
      cases failedFirst
      rfl
  | @rest registers heard first rest after ended =>
      show (setting.ends limit { registers with task := .all (first :: rest) } heard).1 = _
      rw [setting.ends_all_cons, ended]
      exact failed
  | body registers heard stands announced entered =>
      show (setting.ends limit { registers with task := .expression _ } heard).1 = _
      rw [setting.ends_of_entered limit stands announced entered]
      exact failed

/-- A run that hits the limit fails with the error of the activation that was refused. -/
theorem HitsLimit.fails {visit : Visit σ} (hits : visit.HitsLimit setting limit) :
    ∃ span : Span, (setting.ends limit visit.job visit.heard).1 =
      .error (.thrown (setting.location span) "Maximum call stack size exceeded") := by
  obtain ⟨last, reaches, live, spent⟩ := hits
  induction reaches using Relation.ReflTransGen.head_induction_on with
  | refl =>
      obtain ⟨⟨registers, heard⟩, task⟩ := last
      cases task with
      | activation closure arguments span =>
          exact ⟨span, congrArg Prod.fst (setting.ends_of_spent limit spent)⟩
      | _ => cases live
  | head starts _ ih =>
      obtain ⟨span, failed⟩ := ih
      exact ⟨span, error_of_starts starts failed⟩

end Visit

end TestInventory
