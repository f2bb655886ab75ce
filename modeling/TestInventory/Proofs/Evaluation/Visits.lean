import Mathlib.Logic.Relation
import TestInventory.Proofs.Evaluation.Machine

/-!
# What the machine takes up

One thing that the machine takes up leads to others: to an inner job, to the first
of a row, to the rest of it, or to the body of a suite.  The machine always halts,
ends as the evaluation does, leaves its registers as they were, and takes up just
what is reached in this way.
-/

namespace TestInventory

open TestInventory.Source (Span)
open Relation

variable {σ : Type}

/-- What is to be done at a visit. -/
def Visit.job (visit : Visit σ) : Job := { visit.toRegisters with task := visit.task }

/-- Taking up a job. -/
def Job.visit (job : Job) (heard : σ) : Visit σ := ⟨⟨job.toRegisters, heard⟩, job.task⟩

/-- Taking up a program. -/
def Program.visit (program : Program) (heard : σ) : Visit σ := program.job.visit heard

/-- What one visit leads to next. -/
inductive Visit.Starts (setting : Setting σ) (limit : Nat) : Visit σ → Visit σ → Prop where
  | inner {visit : Visit σ} {inner : Job} (leads : setting.inner? limit visit.job = some inner) :
    Starts setting limit visit (inner.visit visit.heard)
  | first (registers : Registers) (heard : σ) (first : Task) (rest : List Task) :
    Starts setting limit ⟨⟨registers, heard⟩, .all (first :: rest)⟩ ⟨⟨registers, heard⟩, first⟩
  | rest (registers : Registers) (heard : σ) {first : Task} (rest : List Task)
      {after : Progress σ}
      (ended : setting.ends limit { registers with task := first } heard = (.ok (), after)) :
    Starts setting limit ⟨⟨registers, heard⟩, .all (first :: rest)⟩
      ⟨⟨{ registers with scopes := after.scopes }, after.heard⟩, .all rest⟩
  | body (registers : Registers) (heard : σ) {span : Span} {callee : Expression}
      {arguments : List Element} {entry : Entry} {call : SuiteCall} {body : Job} {heard' : σ}
      (stands : setting.interface.entryOf? callee = some entry)
      (announced : setting.announcement registers span entry arguments = .suite call (some body))
      (entered : setting.listener.suite call
        (setting.listener.noteAll (setting.namingNotes registers entry arguments) heard) =
          (.enter, heard')) :
    Starts setting limit ⟨⟨registers, heard⟩, .expression (.call span callee arguments)⟩
      (body.visit heard')

namespace Visit

variable (setting : Setting σ) (limit : Nat)

/-- What one visit leads to after any number of steps. -/
abbrev Reaches : Visit σ → Visit σ → Prop := ReflTransGen (Starts setting limit)

/-- Whether the machine does at a visit what the evaluation does, and takes up certain visits. -/
structure Runs (visit : Visit σ) (visits : List (Visit σ)) : Prop where
  finishes : ∃ steps, ∀ more, steps ≤ more → ∀ trail,
    Machine.Finishes setting limit more visit.toRegisters visit.task visit.heard trail
      (visits ++ trail) (setting.ends limit visit.job visit.heard)
  mem_iff : ∀ other, other ∈ visits ↔ visit.Reaches setting limit other

variable {setting limit}

theorem Runs.haltsWith {visit : Visit σ} {visits : List (Visit σ)}
    (runs : visit.Runs setting limit visits) (trail : List (Visit σ)) :
    let ended := setting.ends limit visit.job visit.heard
    Machine.HaltsWith setting limit visit.task ⟨visit.toStation, trail⟩
      (ended.1, ⟨⟨{ visit.toRegisters with scopes := ended.2.scopes }, ended.2.heard⟩,
        visits ++ trail⟩) := by
  obtain ⟨steps, enough⟩ := runs.finishes
  exact ⟨steps, fun more bound => enough more bound trail⟩

theorem reaches_iff {visit other : Visit σ} :
    visit.Reaches setting limit other ↔
      (∃ next, Starts setting limit visit next ∧ next.Reaches setting limit other) ∨
        other = visit := by
  rw [Reaches, ReflTransGen.cases_head_iff, or_comm, eq_comm]

/-- A declaring call has no inner job. -/
theorem inner?_eq_none_of_declaring {registers : Registers} {span : Span} {callee : Expression}
    {arguments : List Element} {entry : Entry}
    (stands : setting.interface.entryOf? callee = some entry) :
    setting.inner? limit { registers with task := .expression (.call span callee arguments) } =
      none := by
  simp only [Setting.inner?, Setting.innerOfExpression?, Option.map_eq_none_iff,
    setting.treatment_of_declaring _ _ _ stands]
  rfl

theorem starts_iff_of_inner? {visit next : Visit σ} {inner : Job}
    (leads : setting.inner? limit visit.job = some inner) :
    Starts setting limit visit next ↔ next = inner.visit visit.heard := by
  constructor
  · intro starts
    cases starts with
    | inner found =>
        cases leads.symm.trans found
        rfl
    | first => cases leads
    | rest => cases leads
    | body registers heard stands =>
        cases (inner?_eq_none_of_declaring stands).symm.trans leads
  · rintro rfl
    exact .inner leads

theorem not_starts_of_alone {visit next : Visit σ} (lone : setting.Alone limit visit.job) :
    ¬ Starts setting limit visit next := by
  intro starts
  cases starts with
  | inner leads => cases lone.inner.symm.trans leads
  | first => exact lone.single _ rfl
  | rest => exact lone.single _ rfl
  | body registers heard stands => cases (lone.silent _ _ _ rfl).symm.trans stands

/-- What is taken up is the visit itself and all that its steps lead to. -/
theorem Runs.of_steps {visit : Visit σ} (visits : List (Visit σ))
    (finishes : ∃ steps, ∀ more, steps ≤ more → ∀ trail,
      Machine.Finishes setting limit (more + 1) visit.toRegisters visit.task visit.heard trail
        (visits ++ visit :: trail) (setting.ends limit visit.job visit.heard))
    (leads : ∀ other, other ∈ visits ↔
      ∃ next, Starts setting limit visit next ∧ next.Reaches setting limit other) :
    visit.Runs setting limit (visits ++ [visit]) where
  finishes := by
    obtain ⟨steps, enough⟩ := finishes
    refine ⟨steps + 1, fun more bound trail => ?_⟩
    obtain ⟨less, rfl⟩ := Nat.exists_eq_succ_of_ne_zero (Nat.ne_of_gt (Nat.lt_of_lt_of_le
      (Nat.succ_pos steps) bound))
    rw [List.append_assoc]
    exact enough less (Nat.le_of_succ_le_succ bound) trail
  mem_iff other := by
    rw [reaches_iff, List.mem_append, List.mem_singleton, leads]

/-- A visit that leads to no other is done in one step. -/
theorem Runs.of_single {visit : Visit σ}
    (finishes : ∀ steps trail, Machine.Finishes setting limit (steps + 1) visit.toRegisters
      visit.task visit.heard trail (visit :: trail) (setting.ends limit visit.job visit.heard))
    (last : ∀ next, ¬ Starts setting limit visit next) : visit.Runs setting limit [visit] := by
  refine of_steps [] ⟨0, fun more _ trail => finishes more trail⟩ fun other => ?_
  simp only [List.not_mem_nil, false_iff]
  rintro ⟨next, starts, -⟩
  exact last next starts

/-- A visit that leads to one other is done by doing that. -/
theorem Runs.of_next {visit next : Visit σ} {visits : List (Visit σ)}
    (nextRuns : next.Runs setting limit visits)
    (goesOn : ∀ steps trail,
      Machine.Finishes setting limit steps next.toRegisters next.task next.heard (visit :: trail)
          (visits ++ visit :: trail) (setting.ends limit next.job next.heard) →
        Machine.Finishes setting limit (steps + 1) visit.toRegisters visit.task visit.heard trail
          (visits ++ visit :: trail) (setting.ends limit visit.job visit.heard))
    (only : ∀ other, Starts setting limit visit other ↔ other = next) :
    visit.Runs setting limit (visits ++ [visit]) := by
  obtain ⟨steps, enough⟩ := nextRuns.finishes
  refine of_steps visits ⟨steps, fun more bound trail => ?_⟩ fun other => ?_
  · exact goesOn more trail (enough more bound (visit :: trail))
  · simp only [only, exists_eq_left]
    exact nextRuns.mem_iff other

theorem starts_row_iff {registers : Registers} {heard : σ} {first : Task} {rest : List Task}
    {next : Visit σ} :
    Starts setting limit ⟨⟨registers, heard⟩, .all (first :: rest)⟩ next ↔
      next = ⟨⟨registers, heard⟩, first⟩ ∨
        ∃ after, setting.ends limit { registers with task := first } heard = (.ok (), after) ∧
          next = ⟨⟨{ registers with scopes := after.scopes }, after.heard⟩, .all rest⟩ := by
  constructor
  · intro starts
    cases starts with
    | inner leads => cases leads
    | first => exact .inl rfl
    | rest _ _ _ ended => exact .inr ⟨_, ended, rfl⟩
  · rintro (rfl | ⟨after, ended, rfl⟩)
    · exact .first registers heard first rest
    · exact .rest registers heard rest ended

theorem not_starts_nil {registers : Registers} {heard : σ} {next : Visit σ} :
    ¬ Starts setting limit ⟨⟨registers, heard⟩, .all []⟩ next := by
  intro starts
  cases starts with
  | inner leads => cases leads

/-- The rest of a row is taken up if the first has ended well. -/
theorem runs_row {registers : Registers} {heard : σ} {first : Task} {rest : List Task}
    {firstVisits : List (Visit σ)}
    (firstRuns : Runs setting limit ⟨⟨registers, heard⟩, first⟩ firstVisits)
    (restRuns : ∀ scopes heard, ∃ visits,
      Runs setting limit ⟨⟨{ registers with scopes }, heard⟩, .all rest⟩ visits) :
    ∃ visits, Runs setting limit ⟨⟨registers, heard⟩, .all (first :: rest)⟩ visits := by
  let row : Visit σ := ⟨⟨registers, heard⟩, .all (first :: rest)⟩
  obtain ⟨steps, enough⟩ := firstRuns.finishes
  have ends : (⟨⟨registers, heard⟩, first⟩ : Visit σ).job = { registers with task := first } := rfl
  rw [ends] at enough
  cases ended : setting.ends limit { registers with task := first } heard with
  | mk outcome after =>
    rw [ended] at enough
    cases outcome with
    | error error =>
        refine ⟨_, .of_steps firstVisits ⟨steps, fun more bound trail => ?_⟩ fun other => ?_⟩
        · show Machine.Finishes setting limit (more + 1) registers (.all (first :: rest)) heard
            trail (firstVisits ++ row :: trail)
            (setting.ends limit { registers with task := .all (first :: rest) } heard)
          rw [Machine.Finishes, Machine.run, setting.ends_all_cons, ended]
          exact (congrArg (Option.bind · _) (enough more bound (row :: trail))).trans rfl
        · simp [starts_row_iff, ended, firstRuns.mem_iff]
    | ok =>
        obtain ⟨restVisits, restRuns⟩ := restRuns after.scopes after.heard
        obtain ⟨steps', enough'⟩ := restRuns.finishes
        refine ⟨_, .of_steps (restVisits ++ firstVisits)
          ⟨max steps steps', fun more bound trail => ?_⟩ fun other => ?_⟩
        · have ran := enough more (Nat.le_trans (Nat.le_max_left ..) bound) (row :: trail)
          show Machine.Finishes setting limit (more + 1) registers (.all (first :: rest)) heard
            trail (restVisits ++ firstVisits ++ row :: trail)
            (setting.ends limit { registers with task := .all (first :: rest) } heard)
          rw [Machine.Finishes, Machine.run, setting.ends_all_cons, ended, List.append_assoc]
          refine (congrArg (Option.bind · _) ran).trans ?_
          exact enough' more (Nat.le_trans (Nat.le_max_right ..) bound)
            (firstVisits ++ row :: trail)
        · simp [starts_row_iff, ended, firstRuns.mem_iff, restRuns.mem_iff, or_and_right,
            exists_or, or_comm]

theorem starts_declaring_iff {registers : Registers} {heard : σ} {span : Span}
    {callee : Expression} {arguments : List Element} {entry : Entry}
    (stands : setting.interface.entryOf? callee = some entry) {next : Visit σ} :
    Starts setting limit ⟨⟨registers, heard⟩, .expression (.call span callee arguments)⟩ next ↔
      ∃ call body heard', setting.announcement registers span entry arguments =
          .suite call (some body) ∧
        setting.listener.suite call
          (setting.listener.noteAll (setting.namingNotes registers entry arguments) heard) =
            (.enter, heard') ∧
        next = body.visit heard' := by
  constructor
  · intro starts
    cases starts with
    | inner leads => cases (inner?_eq_none_of_declaring stands).symm.trans leads
    | body _ _ stands' announced entered =>
        cases stands.symm.trans stands'
        exact ⟨_, _, _, announced, entered, rfl⟩
  · rintro ⟨call, body, heard', announced, entered, rfl⟩
    exact .body registers heard stands announced entered

theorem runs_declaring {registers : Registers} {heard : σ} {span : Span}
    {callee : Expression} {arguments : List Element} {entry : Entry}
    (stands : setting.interface.entryOf? callee = some entry)
    (bodyRuns : ∀ call body, setting.announcement registers span entry arguments =
      .suite call (some body) → ∀ heard, ∃ visits, (body.visit heard).Runs setting limit visits) :
    ∃ visits, Runs setting limit
      ⟨⟨registers, heard⟩, .expression (.call span callee arguments)⟩ visits := by
  let noted := setting.listener.noteAll (setting.namingNotes registers entry arguments) heard
  by_cases enters : ∃ call body heard', setting.announcement registers span entry arguments =
    .suite call (some body) ∧ setting.listener.suite call noted = (.enter, heard')
  · obtain ⟨call, body, heard', announced, entered⟩ := enters
    obtain ⟨visits, runs⟩ := bodyRuns call body announced heard'
    refine ⟨_, .of_next runs (fun steps trail ran => ?_) fun other => ?_⟩
    · show Machine.Finishes setting limit (steps + 1) registers _ heard trail _
        (setting.ends limit { registers with task := .expression (.call span callee arguments) }
          heard)
      rw [setting.ends_of_entered limit stands announced entered]
      exact Machine.run_of_entered stands announced entered ran
    · rw [starts_declaring_iff stands]
      constructor
      · rintro ⟨_, _, _, announced', entered', rfl⟩
        cases announced.symm.trans announced'
        cases entered.symm.trans entered'
        rfl
      · rintro rfl
        exact ⟨call, body, heard', announced, entered, rfl⟩
  · refine ⟨_, .of_single (fun steps trail => ?_) fun next starts => ?_⟩
    · refine Machine.run_of_declaring stands fun call body heard' announced entered => ?_
      exact enters ⟨call, body, heard', announced, entered⟩
    · obtain ⟨call, body, heard', announced, entered, -⟩ := (starts_declaring_iff stands).mp starts
      exact enters ⟨call, body, heard', announced, entered⟩

/-- The machine halts at every visit. -/
theorem exists_runs (setting : Setting σ) (limit : Nat) (visit : Visit σ) :
    ∃ visits, visit.Runs setting limit visits := by
  obtain ⟨⟨registers, heard⟩, task⟩ := visit
  suffices runs : ∀ (job : Job) (heard : σ), ∃ visits,
      (job.visit heard).Runs setting limit visits from
    runs { registers with task } heard
  intro job
  induction job using setting.job_induction limit with
  | none registers =>
      intro heard
      refine ⟨_, .of_single (fun steps trail => ?_) fun next => not_starts_nil⟩
      show Machine.run setting limit (steps + 1) (.all []) ⟨⟨registers, heard⟩, trail⟩ = _
      rw [Machine.run]
      rfl
  | row registers first rest firstRuns restRuns =>
      intro heard
      obtain ⟨firstVisits, firstRuns⟩ := firstRuns heard
      exact runs_row firstRuns restRuns
  | within job inner leads innerRuns =>
      intro heard
      obtain ⟨visits, runs⟩ := innerRuns heard
      have leadsHere : setting.inner? limit (job.visit heard).job = some inner := leads
      refine ⟨_, .of_next runs (fun steps trail ran => ?_) fun other =>
        starts_iff_of_inner? leadsHere⟩
      show Machine.Finishes setting limit (steps + 1) job.toRegisters job.task heard trail _
        (setting.ends limit job heard)
      rw [setting.ends_of_inner? limit leads]
      exact Machine.run_of_inner? leads ran
  | declaring registers span callee arguments entry stands bodyRuns =>
      intro heard
      exact runs_declaring stands bodyRuns
  | alone job lone =>
      intro heard
      exact ⟨_, .of_single (fun steps trail => Machine.run_of_alone lone) fun next =>
        not_starts_of_alone lone⟩

end Visit

end TestInventory
