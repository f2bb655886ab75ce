import TestInventory.Proofs.Evaluation.Lexical

/-!
# Raising the limit

A higher limit changes nothing for a program that stays within the lower one.  A
program that hits the lower limit is cut there: up to the activation that is refused
its listener is told the same under both limits, and then only that the suites around
the refused activation fail.
-/

namespace TestInventory

open TestInventory.Source (Span)
open Signal

namespace Listener

variable {σ : Type} (listener : Listener σ)

/-- Signals are written down as they are replayed. -/
theorem replay_logged (signals noted : List Signal) (heard : σ) :
    listener.logged.replay signals (heard, noted) =
      (listener.replay signals heard, noted ++ signals) := by
  refine Prod.ext ?_ (listener.logged_replay signals noted heard)
  induction signals generalizing heard noted with
  | nil => rfl
  | cons signal rest ih => cases signal <;> exact ih _ _

/-- A listener that writes down what it hears treats suites as before. -/
theorem suite_logged {signals : List Signal} {call : SuiteCall} {admission : Admission}
    {heard heard' : σ}
    (treats : listener.suite call (listener.replay signals heard) = (admission, heard'))
    (noted : List Signal) :
    listener.logged.suite call (listener.logged.replay signals (heard, noted)) =
      (admission, heard', noted ++ signals ++ [.suite call]) := by
  rw [replay_logged]
  simp only [logged, treats]

end Listener

/-- How a suite ends that is not entered. -/
def Admission.outcome? : Admission → Option Outcome
  | .enter => none
  | .pass => some (.ok ())
  | .refuse error => some (.error error)

namespace Visit

variable {σ : Type} {setting : Setting σ} {limit bound : Nat}

/-- Whether more activations than a bound are live at some visit to which a visit leads. -/
def Exceeds (setting : Setting σ) (limit bound : Nat) (visit : Visit σ) : Prop :=
  ∃ last : Visit σ, visit.Reaches setting limit last ∧ bound < last.depth

theorem Exceeds.of_starts {visit next : Visit σ} (exceeds : next.Exceeds setting limit bound)
    (starts : Starts setting limit visit next) : visit.Exceeds setting limit bound := by
  obtain ⟨last, reaches, deep⟩ := exceeds
  exact ⟨last, .head starts reaches, deep⟩

end Visit

namespace Setting

variable {σ : Type} {setting : Setting σ} {limit limit' : Nat}

/-- The error of an activation that is refused. -/
def refusal (setting : Setting σ) (span : Span) : LoadError :=
  .thrown (setting.location span) "Maximum call stack size exceeded"

/-! ## Suites before any listener -/

namespace Yields

variable {registers : Registers} {span : Span} {callee : Expression} {arguments : List Element}
  {entry : Entry} {call : SuiteCall} {body : Option Job} {heard : σ} {outcome : Outcome}
  (stands : setting.interface.entryOf? callee = some entry)
  (announced : setting.announcement registers span entry arguments = .suite call body)
include stands announced

/-- A suite that is not entered is told of, and its body is not run. -/
theorem unentered {admission : Admission} {heard' : σ}
    (treats : setting.listener.suite call (setting.listener.replay
      ((setting.namingNotes registers entry arguments).map .notice) heard) = (admission, heard'))
    (ending : admission.outcome? = some outcome) :
    setting.Yields limit { registers with task := .expression (.call span callee arguments) } heard
      ((setting.namingNotes registers entry arguments).map .notice ++ [.suite call])
      outcome registers.scopes := by
  rw [Yields, setting.ends_of_declaring limit registers span arguments stands, announced,
    setting.listener.replay_concat, setting.listener.noteAll_eq_replay, announce, Listener.hear,
    treats]
  cases admission <;> cases ending <;> rfl

/-- A suite that is entered is told of, and so are its body and how it ends. -/
theorem entered {told : List Signal} {after : Scopes} {heard' : σ}
    (enters : setting.listener.suite call (setting.listener.replay
      ((setting.namingNotes registers entry arguments).map .notice) heard) = (.enter, heard'))
    (inside : setting.endsBody limit registers.scopes body heard' =
      (outcome, ⟨after, setting.listener.replay told heard'⟩)) :
    setting.Yields limit { registers with task := .expression (.call span callee arguments) } heard
      ((setting.namingNotes registers entry arguments).map .notice ++
        .suite call :: (told ++ [.leave call outcome])) outcome after := by
  have begins : ∀ rest, setting.listener.replay
      ((setting.namingNotes registers entry arguments).map .notice ++ .suite call :: rest) heard =
        setting.listener.replay rest heard' := by
    intro rest
    rw [setting.listener.replay_append, Listener.replay, Listener.hear, enters]
  rw [Yields, setting.ends_of_declaring limit registers span arguments stands, announced,
    setting.listener.noteAll_eq_replay, announce, enters, begins, setting.listener.replay_concat]
  simp only [inside]
  rfl

end Yields

/-! ## What a job reports -/

/--
Whether a job tells its listener certain signals and no others: what the listener
writes down when it is made to write down what it hears are these signals.
-/
structure Reports (setting : Setting σ) (limit : Nat) (job : Job) (heard : σ)
    (told : List Signal) (outcome : Outcome) (after : Scopes) : Prop where
  yields : setting.Yields limit job heard told outcome after
  logged : ∀ noted, (setting.withListener setting.listener.logged).Yields limit job
    (heard, noted) told outcome after

namespace Reports

variable {heard : σ} {told later : List Signal} {outcome : Outcome} {between after : Scopes}

theorem row {registers : Registers} {first : Task} {rest : List Task}
    (here : setting.Reports limit { registers with task := first } heard told (.ok ()) between)
    (next : setting.Reports limit { registers with scopes := between, task := .all rest }
      (setting.listener.replay told heard) later outcome after) :
    setting.Reports limit { registers with task := .all (first :: rest) } heard (told ++ later)
      outcome after where
  yields := here.yields.row next.yields
  logged noted := (here.logged noted).row
    (setting.listener.replay_logged told noted heard ▸ next.logged (noted ++ told))

theorem row_error {registers : Registers} {first : Task} {rest : List Task} {error : LoadError}
    (here : setting.Reports limit { registers with task := first } heard told (.error error)
      after) :
    setting.Reports limit { registers with task := .all (first :: rest) } heard told
      (.error error) after where
  yields := here.yields.row_error
  logged noted := (here.logged noted).row_error

theorem within {job inner : Job} (leads : setting.inner? limit job = some inner)
    (here : setting.Reports limit inner heard told (.ok ()) between) :
    setting.Reports limit job heard (told ++ (setting.finishNotes job.task).map .notice) (.ok ())
      (between.finish job.current job.task) where
  yields := here.yields.within leads
  logged noted := (here.logged noted).within leads

theorem within_error {job inner : Job} {error : LoadError}
    (leads : setting.inner? limit job = some inner)
    (here : setting.Reports limit inner heard told (.error error) after) :
    setting.Reports limit job heard told (.error error) after where
  yields := here.yields.within_error leads
  logged noted := (here.logged noted).within_error leads

/-- A job that leads to no other reports just notices. -/
theorem of_alone {job : Job} (lone : setting.Alone limit job) (heard : σ) :
    ∃ notes outcome after,
      setting.Reports limit job heard (List.map Signal.notice notes) outcome after := by
  obtain ⟨notes, outcome, after, ended, -⟩ := lone.idle
  refine ⟨notes, outcome, after, ?_, fun noted => ?_⟩
  · rw [Yields, ← setting.listener.noteAll_eq_replay]
    exact ended σ setting.listener heard
  · rw [Yields, ← Listener.noteAll_eq_replay]
    exact ended _ setting.listener.logged (heard, noted)

/-- An activation that is refused reports nothing and fails. -/
theorem of_spent {registers : Registers} {closure : Closure} {arguments : List Binding}
    {span : Span} (spent : limit ≤ registers.depth) :
    setting.Reports limit { registers with task := .activation closure arguments span } heard []
      (.error (setting.refusal span)) registers.scopes where
  yields := setting.ends_of_spent limit spent
  logged _ := (setting.withListener setting.listener.logged).ends_of_spent limit spent

section Declaring

variable {registers : Registers} {span : Span} {callee : Expression} {arguments : List Element}
  {entry : Entry} (stands : setting.interface.entryOf? callee = some entry)
include stands

/-- A call declares the same whoever listens. -/
theorem stands_logged :
    (setting.withListener setting.listener.logged).interface.entryOf? callee = some entry :=
  stands

theorem leaf {signal : Signal}
    (announced : setting.announcement registers span entry arguments = .leaf signal) :
    setting.Reports limit { registers with task := .expression (.call span callee arguments) }
      heard ((setting.namingNotes registers entry arguments).map .notice ++ [signal]) (.ok ())
      registers.scopes where
  yields := .leaf stands announced
  logged _ := .leaf (stands_logged stands) announced

theorem missing {error : LoadError}
    (announced : setting.announcement registers span entry arguments = .missing error) :
    setting.Reports limit { registers with task := .expression (.call span callee arguments) }
      heard ((setting.namingNotes registers entry arguments).map .notice) (.error error)
      registers.scopes where
  yields := .missing stands announced
  logged _ := .missing (stands_logged stands) announced

variable {call : SuiteCall} {body : Option Job}
  (announced : setting.announcement registers span entry arguments = .suite call body)
include announced

theorem unentered {admission : Admission} {heard' : σ}
    (treats : setting.listener.suite call (setting.listener.replay
      ((setting.namingNotes registers entry arguments).map .notice) heard) = (admission, heard'))
    (ending : admission.outcome? = some outcome) :
    setting.Reports limit { registers with task := .expression (.call span callee arguments) }
      heard ((setting.namingNotes registers entry arguments).map .notice ++ [.suite call])
      outcome registers.scopes where
  yields := .unentered stands announced treats ending
  logged noted := .unentered (stands_logged stands) announced
    (setting.listener.suite_logged treats noted) ending

theorem entered {heard' : σ}
    (enters : setting.listener.suite call (setting.listener.replay
      ((setting.namingNotes registers entry arguments).map .notice) heard) = (.enter, heard'))
    (inside : setting.endsBody limit registers.scopes body heard' =
      (outcome, ⟨after, setting.listener.replay told heard'⟩))
    (insideLogged : ∀ noted, (setting.withListener setting.listener.logged).endsBody limit
      registers.scopes body (heard', noted) =
        (outcome, ⟨after, setting.listener.logged.replay told (heard', noted)⟩)) :
    setting.Reports limit { registers with task := .expression (.call span callee arguments) }
      heard ((setting.namingNotes registers entry arguments).map .notice ++
        .suite call :: (told ++ [.leave call outcome])) outcome after where
  yields := .entered stands announced enters inside
  logged noted := .entered (stands_logged stands) announced
    (setting.listener.suite_logged enters noted) (insideLogged _)

end Declaring

/-- A row reports what its first job reports, and perhaps more. -/
theorem exists_row {registers : Registers} {first : Task} {rest : List Task}
    (here : setting.Reports limit { registers with task := first } heard told outcome between)
    (next : ∀ scopes heard, ∃ told outcome after, setting.Reports limit
      { registers with scopes, task := .all rest } heard told outcome after) :
    ∃ later outcome after, setting.Reports limit { registers with task := .all (first :: rest) }
      heard (told ++ later) outcome after := by
  cases outcome with
  | error error => exact ⟨[], .error error, between, (List.append_nil told).symm ▸ here.row_error⟩
  | ok =>
      obtain ⟨later, outcome, after, follows⟩ := next between (setting.listener.replay told heard)
      exact ⟨later, outcome, after, here.row follows⟩

/-- A job reports what its inner job reports, and perhaps more. -/
theorem exists_within {job inner : Job} (leads : setting.inner? limit job = some inner)
    (here : setting.Reports limit inner heard told outcome between) :
    ∃ later outcome after, setting.Reports limit job heard (told ++ later) outcome after := by
  cases outcome with
  | error error =>
      exact ⟨[], .error error, between, (List.append_nil told).symm ▸ here.within_error leads⟩
  | ok => exact ⟨_, _, _, here.within leads⟩

end Reports

/-! ## Under two limits -/

/--
How a job goes under a limit and under a higher one: alike, or it hits the lower limit.
Then it fails there, reports the same under both limits before it fails, and behind that
only that suites fail.
-/
inductive Raised (setting : Setting σ) (limit limit' : Nat) (job : Job) (heard : σ) : Prop where
  | alike {told : List Signal} {outcome : Outcome} {after : Scopes}
      (lower : setting.Reports limit job heard told outcome after)
      (higher : setting.Reports limit' job heard told outcome after)
  | cut {before later : List Signal} {opened : List SuiteCall} {span : Span} {outcome : Outcome}
      {after after' : Scopes}
      (lower : setting.Reports limit job heard (before ++ failures (setting.refusal span) opened)
        (.error (setting.refusal span)) after)
      (higher : setting.Reports limit' job heard (before ++ later) outcome after')
      (exceeds : (job.visit heard).Exceeds setting limit' limit)

namespace Raised

variable {heard : σ}

theorem exists_reports {job : Job} (raised : setting.Raised limit limit' job heard) :
    ∃ told outcome after, setting.Reports limit' job heard told outcome after := by
  cases raised with
  | alike _ higher => exact ⟨_, _, _, higher⟩
  | cut _ higher => exact ⟨_, _, _, higher⟩

theorem row {registers : Registers} {first : Task} {rest : List Task}
    (here : setting.Raised limit limit' { registers with task := first } heard)
    (next : ∀ scopes heard,
      setting.Raised limit limit' { registers with scopes, task := .all rest } heard) :
    setting.Raised limit limit' { registers with task := .all (first :: rest) } heard := by
  cases here with
  | @alike told outcome between lower higher =>
      cases outcome with
      | error error => exact .alike lower.row_error higher.row_error
      | ok =>
          cases next between (setting.listener.replay told heard) with
          | alike lowerNext higherNext => exact .alike (lower.row lowerNext) (higher.row higherNext)
          | cut lowerNext higherNext exceeds =>
              have wholeLower := lower.row lowerNext
              have wholeHigher := higher.row higherNext
              rw [← List.append_assoc] at wholeLower wholeHigher
              exact .cut wholeLower wholeHigher
                (exceeds.of_starts (.rest registers heard rest higher.yields))
  | cut lower higher exceeds =>
      obtain ⟨_, _, _, whole⟩ := higher.exists_row fun scopes heard =>
        (next scopes heard).exists_reports
      rw [List.append_assoc] at whole
      exact .cut lower.row_error whole (exceeds.of_starts (.first registers heard first rest))

theorem within {job inner : Job} (leads : setting.inner? limit job = some inner)
    (leads' : setting.inner? limit' job = some inner)
    (here : setting.Raised limit limit' inner heard) :
    setting.Raised limit limit' job heard := by
  cases here with
  | @alike told outcome between lower higher =>
      cases outcome with
      | error error => exact .alike (lower.within_error leads) (higher.within_error leads')
      | ok => exact .alike (lower.within leads) (higher.within leads')
  | cut lower higher exceeds =>
      have begins : Visit.Starts setting limit' (job.visit heard) (inner.visit heard) :=
        .inner leads'
      obtain ⟨_, _, _, whole⟩ := higher.exists_within leads'
      rw [List.append_assoc] at whole
      exact .cut (lower.within_error leads) whole (exceeds.of_starts begins)

/-- An activation that only the higher limit allows is cut before anything is reported. -/
theorem of_spent {registers : Registers} {closure : Closure} {arguments : List Binding}
    {span : Span} {inner : Job} (spent : limit ≤ registers.depth)
    (leads' : setting.inner? limit' { registers with task := .activation closure arguments span } =
      some inner)
    (here : setting.Raised limit limit' inner heard) :
    setting.Raised limit limit' { registers with task := .activation closure arguments span }
      heard := by
  let job : Job := { registers with task := .activation closure arguments span }
  have lower : setting.Reports limit job heard ([] ++ failures (setting.refusal span) [])
      (.error (setting.refusal span)) registers.scopes := .of_spent spent
  have begins : Visit.Starts setting limit' (job.visit heard) (inner.visit heard) := .inner leads'
  obtain ⟨told, outcome, between, inside⟩ := here.exists_reports
  obtain ⟨later, outcome, after, whole⟩ := inside.exists_within leads'
  refine .cut lower whole ⟨inner.visit heard, .single begins, ?_⟩
  rcases depth_of_inner? leads' with ⟨-, calm⟩ | ⟨deeper, -, -⟩
  · cases calm
  · exact Nat.lt_of_le_of_lt spent (deeper ▸ Nat.lt_succ_self _)

theorem declaring {registers : Registers} {span : Span} {callee : Expression}
    {arguments : List Element} {entry : Entry}
    (stands : setting.interface.entryOf? callee = some entry)
    (inside : ∀ call body,
      setting.announcement registers span entry arguments = .suite call (some body) →
        ∀ heard, setting.Raised limit limit' body heard) :
    setting.Raised limit limit' { registers with task := .expression (.call span callee arguments) }
      heard := by
  cases announced : setting.announcement registers span entry arguments with
  | missing error => exact .alike (.missing stands announced) (.missing stands announced)
  | leaf signal => exact .alike (.leaf stands announced) (.leaf stands announced)
  | suite call body =>
      rcases treated : setting.listener.suite call (setting.listener.replay
        ((setting.namingNotes registers entry arguments).map .notice) heard) with
        ⟨admission, heard'⟩
      cases ending : admission.outcome? with
      | some outcome =>
          exact .alike (.unentered stands announced treated ending)
            (.unentered stands announced treated ending)
      | none =>
          obtain rfl : admission = .enter := by cases admission <;> first | rfl | cases ending
          cases body with
          | none =>
              have reports (bound : Nat) : setting.Reports bound
                  { registers with task := .expression (.call span callee arguments) } heard
                  ((setting.namingNotes registers entry arguments).map .notice ++
                    .suite call :: ([] ++ [.leave call (.ok ())])) (.ok ()) registers.scopes :=
                .entered stands announced treated rfl fun _ => rfl
              exact .alike (reports limit) (reports limit')
          | some body =>
              cases inside call body announced heard' with
              | alike lower higher =>
                  exact .alike (.entered stands announced treated lower.yields lower.logged)
                    (.entered stands announced treated higher.yields higher.logged)
              | cut lower higher exceeds =>
                  have wholeLower :=
                    Reports.entered stands announced treated lower.yields lower.logged
                  have wholeHigher :=
                    Reports.entered stands announced treated higher.yields higher.logged
                  rw [List.append_assoc, ← failures_concat, ← List.cons_append,
                    ← List.append_assoc] at wholeLower
                  rw [List.append_assoc, ← List.cons_append, ← List.append_assoc] at wholeHigher
                  refine .cut wholeLower wholeHigher
                    (exceeds.of_starts (.body registers heard stands announced ?_))
                  rwa [setting.listener.noteAll_eq_replay]

end Raised

/-- A job within a higher limit is one within the lower limit too, unless that is hit. -/
theorem inner?_of_raised {job inner : Job} (leads' : setting.inner? limit' job = some inner)
    (live : job.task.isActivation = true → job.depth < limit) :
    setting.inner? limit job = some inner := by
  obtain ⟨registers, task⟩ := job
  cases task with
  | activation closure arguments span =>
      have allowed : registers.depth < limit := live rfl
      simp only [inner?] at leads' ⊢
      split at leads'
      case isTrue => rwa [if_pos allowed]
      case isFalse => cases leads'
  | declarator hoisted declarator =>
      cases declarator
      exact leads'
  | _ => exact leads'

/-- What leads to no other job ends in the same way under any limit, unless it is an activation. -/
theorem ends_of_alone_raised (higher : limit ≤ limit') {job : Job}
    (lone : setting.Alone limit' job) (calm : job.task.isActivation = false) (heard : σ) :
    setting.ends limit job heard = setting.ends limit' job heard := by
  -- To raise the limit is to take up the job amid fewer activations.
  have moved := ends_amid_of_alone lone calm { depth := limit' - limit, suites := [] } heard
  have same : limit' - (job.depth + (limit' - limit)) = limit - job.depth := by omega
  rw [← moved]
  simp only [ends, Job.amid, Registers.place, List.append_nil, same]

theorem raised_alone (higher : limit ≤ limit') {job : Job} (lone : setting.Alone limit' job)
    (heard : σ) : setting.Raised limit limit' job heard := by
  by_cases live : job.task.isActivation = true
  · obtain ⟨registers, task⟩ := job
    cases task with
    | activation closure arguments span =>
        have spent := setting.spent_of_inner?_eq_none limit' lone.inner
        exact .alike (.of_spent (Nat.le_trans higher spent)) (.of_spent spent)
    | _ => cases live
  · have calm := Bool.eq_false_iff.mpr live
    have loneLogged : (setting.withListener setting.listener.logged).Alone limit' job :=
      ⟨lone.inner, lone.single, lone.silent⟩
    obtain ⟨notes, outcome, after, reports⟩ := Reports.of_alone lone heard
    refine .alike ⟨?_, fun noted => ?_⟩ reports
    · exact (ends_of_alone_raised higher lone calm heard).trans reports.yields
    · exact (ends_of_alone_raised higher loneLogged calm _).trans (reports.logged noted)

/-- Under a higher limit a job goes as it does under a lower one that it does not hit. -/
theorem raised (higher : limit ≤ limit') (job : Job) (heard : σ) :
    setting.Raised limit limit' job heard := by
  induction job using setting.job_induction limit' generalizing heard with
  | none registers =>
      have reports (bound : Nat) : setting.Reports bound { registers with task := .all [] } heard
          [] (.ok ()) registers.scopes := ⟨rfl, fun _ => rfl⟩
      exact .alike (reports limit) (reports limit')
  | row registers first rest firstIh restIh => exact .row (firstIh heard) restIh
  | within job inner leads' innerIh =>
      by_cases refused : job.task.isActivation = true ∧ limit ≤ job.depth
      · obtain ⟨registers, task⟩ := job
        cases task with
        | activation closure arguments span => exact .of_spent refused.2 leads' (innerIh heard)
        | _ => cases refused.1
      · have leads := inner?_of_raised leads' fun live =>
          Nat.not_le.mp fun spent => refused ⟨live, spent⟩
        exact .within leads leads' (innerIh heard)
  | declaring registers span callee arguments entry stands bodyIh =>
      exact .declaring stands bodyIh
  | alone job lone => exact raised_alone higher lone heard

/-- What the job of a program reports is what its evaluation comes to and what is told of it. -/
theorem Reports.evaluate {program : Program} {heard : σ} {told : List Signal} {outcome : Outcome}
    {after : Scopes} (reports : setting.Reports limit program.job heard told outcome after) :
    setting.evaluate limit program heard = (outcome, setting.listener.replay told heard) ∧
      setting.told limit program heard = told := by
  constructor
  · rw [evaluate_eq_ends, reports.yields]
  · rw [Setting.told, evaluate_eq_ends, reports.logged []]
    exact setting.listener.logged_replay told [] heard

/--
A higher limit on the activations changes nothing, or the run under the lower limit ends
with the error of a refused activation.  What that run tells is then told under the higher
limit too, but for the ends of the suites in which the activation is refused.  A run in
which no more activations are live at one time than a limit allows is the same under that limit.
-/
theorem limit_only_cuts (setting : Setting σ) {limit limit' : Nat} (higher : limit ≤ limit')
    (program : Program) (heard : σ) :
    let told := setting.told limit program heard
    let ended := setting.evaluate limit program heard
    let told' := setting.told limit' program heard
    let ended' := setting.evaluate limit' program heard
    ((∃ span before opened, ended.1 = .error (setting.refusal span) ∧
          told = before ++ failures (setting.refusal span) opened ∧ before <+: told') ∨
        ended = ended' ∧ told = told') ∧
      ((∀ visit : Visit σ, (program.visit heard).Reaches setting limit' visit →
          visit.depth ≤ limit) →
        ended = ended' ∧ told = told') := by
  intro told ended told' ended'
  cases setting.raised higher program.job heard with
  | alike lower higher =>
      obtain ⟨endedEq, toldEq⟩ := lower.evaluate
      obtain ⟨endedEq', toldEq'⟩ := higher.evaluate
      have same : ended = ended' ∧ told = told' :=
        ⟨endedEq.trans endedEq'.symm, toldEq.trans toldEq'.symm⟩
      exact ⟨.inr same, fun _ => same⟩
  | @cut before later opened span _ _ _ lower higher exceeds =>
      obtain ⟨endedEq, toldEq⟩ := lower.evaluate
      obtain ⟨-, toldEq'⟩ := higher.evaluate
      refine ⟨.inl ⟨span, before, opened, congrArg Prod.fst endedEq, toldEq, ?_⟩, ?_⟩
      · exact ⟨later, toldEq'.symm⟩
      · intro shallow
        obtain ⟨last, reaches, deep⟩ := exceeds
        exact absurd (shallow last reaches) (Nat.not_le.mpr deep)

/-- A suite whose body declares the suite again. -/
def selfDeclaring : Program where
  statements :=
    let declaration : Statement := .expression default
      (.call default (.identifier default "describe")
        [.plain (.literal default (.text "again")), .plain (.identifier default "body")])
    [.function default (some "body") (.block [] [declaration]), declaration]

/-- With three activations instead of two, the suite is declared once more. -/
theorem limit_only_cuts_selfDeclaring :
    let setting := ofText ""
    let told := setting.told 2 selfDeclaring []
    let told' := setting.told 3 selfDeclaring []
    2 ≤ 3 ∧ suitesIn told = 3 ∧ suitesIn told' = 4 ∧
      ∃ span before opened,
        (setting.evaluate 2 selfDeclaring []).1 = .error (setting.refusal span) ∧
          told = before ++ failures (setting.refusal span) opened ∧ before <+: told' := by
  intro setting told told'
  have three : suitesIn told = 3 := by decide +kernel
  have four : suitesIn told' = 4 := by decide +kernel
  refine ⟨by decide, three, four, ?_⟩
  rcases (setting.limit_only_cuts (by decide : 2 ≤ 3) selfDeclaring []).1 with cut | ⟨-, same⟩
  · exact cut
  · exact absurd (three.symm.trans ((congrArg suitesIn same).trans four)) (by decide)

end Setting

end TestInventory
