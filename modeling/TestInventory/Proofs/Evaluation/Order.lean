import TestInventory.Proofs.Evaluation.Limit
import TestInventory.Proofs.Evaluation.Restoration

/-!
# The order of visits

Of two visits of one run, one comes first: it leads to the other, or it belongs to the
first of a row and the other to the rest of the row.  What is bound at a visit stays
bound at all that come later.
-/

namespace TestInventory

open TestInventory.Source (Span)

/-- Whether a name is bound in a scope. -/
def Scopes.Binds (scopes : Scopes) (index : Nat) (name : String) : Prop :=
  ∃ scope, scopes.arena[index]? = some scope ∧ scope.bindings.binds name

theorem Scopes.Keeps.binds {before after : Scopes} (keeps : before.Keeps after) {index : Nat}
    {name : String} (bound : before.Binds index name) : after.Binds index name := by
  obtain ⟨old, found, binds⟩ := bound
  obtain ⟨new, present, -, -, all⟩ := keeps.kept index old found
  exact ⟨new, present, all name binds⟩

namespace Visit

variable {σ : Type} {setting : Setting σ} {limit : Nat}

/-! ## What a visit keeps -/

/-- A visit keeps what is bound at the visit that leads to it. -/
theorem keeps_of_starts {visit next : Visit σ} (sound : visit.job.Sound false)
    (starts : Starts setting limit visit next) : visit.scopes.Keeps next.scopes := by
  cases starts with
  | inner leads => exact (Setting.grows_of_inner? sound leads).grown.toKeeps
  | first => exact .refl _
  | @rest registers heard first rest after ended =>
      obtain ⟨arena, made, free⟩ := sound
      cases free with
      | all each =>
        have soundFirst : Job.Sound false { registers with task := first } :=
          ⟨arena, made, each first List.mem_cons_self⟩
        have grown := setting.grown_ends limit soundFirst heard
        rw [ended] at grown
        exact grown.toKeeps
  | body registers heard stands announced =>
      exact (Setting.grows_of_announcement sound announced).grown.toKeeps

theorem keeps_of_reaches {visit later : Visit σ} (sound : visit.job.Sound false)
    (reaches : visit.Reaches setting limit later) : visit.scopes.Keeps later.scopes := by
  induction reaches with
  | refl => exact .refl _
  | tail reaches starts ih =>
      exact ih.trans (keeps_of_starts (sound_of_reaches sound reaches) starts)

/-- The arena that a visit leaves. -/
def left (setting : Setting σ) (limit : Nat) (visit : Visit σ) : Scopes :=
  (setting.ends limit visit.job visit.heard).2.scopes

/-- What a visit leaves is kept by the visit that leads to it. -/
theorem keeps_left_of_starts {visit next : Visit σ} (sound : visit.job.Sound false)
    (starts : Starts setting limit visit next) :
    (next.left setting limit).Keeps (visit.left setting limit) := by
  have soundNext := sound_of_starts sound starts
  cases starts with
  | @inner _ inner leads =>
      have soundInner : inner.Sound false := soundNext
      have grownInner := (Setting.grows_of_inner? sound leads).grown.toKeeps.trans
        (setting.grown_ends limit soundInner visit.heard).toKeeps
      have soundLeft := (setting.grown_ends limit soundInner visit.heard).sound
      show Scopes.Keeps (setting.ends limit inner visit.heard).2.scopes _
      rw [left, setting.ends_of_inner? limit leads]
      rcases ended : setting.ends limit inner visit.heard with ⟨_ | _, after⟩
      · exact .refl _
      · rw [ended] at grownInner soundLeft
        rw [Evaluating.goOn_ok, setting.finish_apply]
        exact (Setting.grows_finish soundLeft (Nat.lt_of_lt_of_le sound.current grownInner.size)
          (sound.task.mono grownInner.size)).toKeeps
  | first registers heard first rest =>
      show Scopes.Keeps (setting.ends limit { registers with task := first } heard).2.scopes
        (setting.ends limit { registers with task := .all (first :: rest) } heard).2.scopes
      rw [setting.ends_all_cons]
      rcases ended : setting.ends limit { registers with task := first } heard with ⟨_ | _, after⟩
      · exact .refl _
      · have soundRest := sound_of_starts sound (.rest registers heard rest ended)
        exact (setting.grown_ends limit soundRest after.heard).toKeeps
  | @rest registers heard first rest after ended =>
      show Scopes.Keeps _
        (setting.ends limit { registers with task := .all (first :: rest) } heard).2.scopes
      rw [setting.ends_all_cons, ended]
      exact .refl _
  | body registers heard stands announced entered =>
      show Scopes.Keeps _
        (setting.ends limit { registers with task := .expression _ } heard).2.scopes
      rw [setting.ends_of_entered limit stands announced entered]
      exact .refl _

/-- What is bound at a visit is bound in what all visits leave that lead to it. -/
theorem keeps_left_of_reaches {visit later : Visit σ} (sound : visit.job.Sound false)
    (reaches : visit.Reaches setting limit later) :
    later.scopes.Keeps (visit.left setting limit) := by
  induction reaches using Relation.ReflTransGen.head_induction_on with
  | refl => exact (setting.grown_ends limit sound _).toKeeps
  | head starts _ ih =>
      exact (ih (sound_of_starts sound starts)).trans (keeps_left_of_starts sound starts)

/-! ## Which visit comes first -/

/-- Whether one visit is another or comes before it, in a run that begins with a visit. -/
inductive Precedes (setting : Setting σ) (limit : Nat) (start : Visit σ) :
    Visit σ → Visit σ → Prop where
  /-- The first leads to the second. -/
  | leads {first second : Visit σ} (reaches : start.Reaches setting limit first)
      (onwards : first.Reaches setting limit second) : Precedes setting limit start first second
  /-- The first belongs to the beginning of a row, and the second to the rest. -/
  | row {first second : Visit σ} (registers : Registers) (heard : σ) {task : Task}
      (rest : List Task) {after : Progress σ}
      (reaches : start.Reaches setting limit ⟨⟨registers, heard⟩, .all (task :: rest)⟩)
      (ended : setting.ends limit { registers with task } heard = (.ok (), after))
      (here : Reaches setting limit ⟨⟨registers, heard⟩, task⟩ first)
      (later : Reaches setting limit
        ⟨⟨{ registers with scopes := after.scopes }, after.heard⟩, .all rest⟩ second) :
      Precedes setting limit start first second

/-- What comes later is part of the run. -/
theorem Precedes.reaches {start first second : Visit σ}
    (precedes : Precedes setting limit start first second) :
    start.Reaches setting limit second := by
  cases precedes with
  | leads reaches onwards => exact reaches.trans onwards
  | row registers heard rest reaches ended here later =>
      exact (reaches.tail (.rest registers heard rest ended)).trans later

/-- What is bound at a visit is bound at all that come later. -/
theorem Precedes.keeps {start first second : Visit σ} (sound : start.job.Sound false)
    (precedes : Precedes setting limit start first second) :
    first.scopes.Keeps second.scopes := by
  cases precedes with
  | leads reaches onwards => exact keeps_of_reaches (sound_of_reaches sound reaches) onwards
  | @row registers heard task rest after reaches ended here later =>
      have soundRow := sound_of_reaches sound reaches
      have begins : Starts setting limit ⟨⟨registers, heard⟩, .all (task :: rest)⟩
          ⟨⟨registers, heard⟩, task⟩ := .first registers heard task rest
      have soundHere := sound_of_starts soundRow begins
      have soundRest := sound_of_starts soundRow (.rest registers heard rest ended)
      have left : Visit.left setting limit ⟨⟨registers, heard⟩, task⟩ = after.scopes :=
        congrArg (·.2.scopes) ended
      have between := keeps_left_of_reaches soundHere here
      rw [left] at between
      exact between.trans (keeps_of_reaches soundRest later)

/-- A visit leads to one other, unless it begins a row and goes on with the rest of it. -/
theorem starts_or {visit first second : Visit σ} (one : Starts setting limit visit first)
    (other : Starts setting limit visit second) :
    first = second ∨
      ∃ (registers : Registers) (heard : σ) (task : Task) (rest : List Task) (after : Progress σ),
        visit = ⟨⟨registers, heard⟩, .all (task :: rest)⟩ ∧
        setting.ends limit { registers with task } heard = (.ok (), after) ∧
        (first = ⟨⟨registers, heard⟩, task⟩ ∧
            second = ⟨⟨{ registers with scopes := after.scopes }, after.heard⟩, .all rest⟩ ∨
          second = ⟨⟨registers, heard⟩, task⟩ ∧
            first = ⟨⟨{ registers with scopes := after.scopes }, after.heard⟩, .all rest⟩) := by
  cases one with
  | inner leads => exact .inl ((starts_iff_of_inner? leads).mp other).symm
  | first registers heard task rest =>
      rcases starts_row_iff.mp other with rfl | ⟨after, ended, rfl⟩
      · exact .inl rfl
      · exact .inr ⟨registers, heard, task, rest, after, rfl, ended, .inl ⟨rfl, rfl⟩⟩
  | @rest registers heard task rest after ended =>
      rcases starts_row_iff.mp other with rfl | ⟨after', ended', rfl⟩
      · exact .inr ⟨registers, heard, task, rest, after, rfl, ended, .inr ⟨rfl, rfl⟩⟩
      · cases ended.symm.trans ended'
        exact .inl rfl
  | body registers heard stands announced entered =>
      obtain ⟨_, _, _, announced', entered', rfl⟩ := (starts_declaring_iff stands).mp other
      cases announced.symm.trans announced'
      cases entered.symm.trans entered'
      exact .inl rfl

/-- Of two visits of a run, one comes first. -/
theorem precedes_total {start between first second : Visit σ}
    (reaches : start.Reaches setting limit between)
    (toFirst : between.Reaches setting limit first)
    (toSecond : between.Reaches setting limit second) :
    Precedes setting limit start first second ∨ Precedes setting limit start second first := by
  induction toFirst using Relation.ReflTransGen.head_induction_on with
  | refl => exact .inl (.leads reaches toSecond)
  | head one toFirst ih =>
      rcases toSecond.cases_head with rfl | ⟨next, other, toSecond⟩
      · exact .inr (.leads reaches (.head one toFirst))
      · rcases starts_or one other with rfl | ⟨registers, heard, task, rest, after, rfl, ended, sides⟩
        · exact ih (reaches.tail one) toSecond
        · rcases sides with ⟨rfl, rfl⟩ | ⟨rfl, rfl⟩
          · exact .inl (.row registers heard rest reaches ended toFirst toSecond)
          · exact .inr (.row registers heard rest reaches ended toSecond toFirst)

end Visit

end TestInventory
