import TestInventory.Proofs.Evaluation.Provenance
import TestInventory.Proofs.Evaluation.Surroundings

/-!
# Lexical scoping

What a closure declares depends on the closure, its arguments and the scopes, and on
nothing else.  From wherever it is called, it makes the same declarations with the
same notices, ends in the same way and leaves the same scopes; only the frames of the
suites around the call stand behind those of its own suites.
-/

namespace TestInventory

open TestInventory.Source (Span)
open Signal

/-! ## Declarations in place -/

/--
Whether signals stand inside suites: the call site of a declaration is a frame of the
file before the frames of those suites, and the frame of a suite stands before them
for all that is heard inside it.
-/
inductive Placed (file : SourceFile) : List Frame → List Signal → Prop where
  | nil (around : List Frame) : Placed file around []
  | plain {around : List Frame} {rest : List Signal} (signal : Signal) (isPlain : signal.isPlain)
      (site : ∀ entry site, signal.declaration? = some (entry, site) →
        ∃ span : Span, site = .frames (file.frame span :: around))
      (later : Placed file around rest) : Placed file around (signal :: rest)
  | suite {around : List Frame} {inside rest : List Signal} (call : SuiteCall) (outcome : Outcome)
      (span : Span) (site : call.site = .frames (file.frame span :: around))
      (body : Placed file (file.frame span :: around) inside) (later : Placed file around rest) :
      Placed file around (.suite call :: (inside ++ .leave call outcome :: rest))

namespace Placed

variable {file : SourceFile} {around : List Frame} {first second told : List Signal}

theorem append (here : Placed file around first) (later : Placed file around second) :
    Placed file around (first ++ second) := by
  induction here with
  | nil => exact later
  | plain signal isPlain site _ ih => exact .plain signal isPlain site (ih later)
  | suite call outcome span site body _ _ ih =>
      rw [List.cons_append, List.append_assoc, List.cons_append]
      exact .suite call outcome span site body (ih later)

theorem notices (around : List Frame) (notes : List Notice) :
    Placed file around (notes.map .notice) := by
  induction notes with
  | nil => exact .nil around
  | cons note rest ih => exact .plain (.notice note) rfl nofun ih

/-- Signals in place leave those suites open that were open before. -/
theorem openAfter_eq (placed : Placed file around told) (opened : List SuiteCall) :
    openAfter opened told = opened := by
  induction placed generalizing opened with
  | nil => rfl
  | plain signal isPlain _ _ ih =>
      rw [openAfter_cons, opening_of_isPlain isPlain]
      exact ih opened
  | suite call outcome _ _ _ _ bodyIh laterIh =>
      rw [openAfter_cons, openAfter_append, bodyIh]
      exact laterIh opened

/-- The frames of a declaration in place are its own and those of the suites that are open. -/
theorem site_eq (placed : Placed file around told) {before after : List Signal} {signal : Signal}
    {entry : Entry} {site : CallSite} (split : told = before ++ signal :: after)
    (declares : signal.declaration? = some (entry, site)) :
    ∃ (span : Span) (within : List Frame),
      site = .frames (file.frame span :: (within ++ around)) ∧
        ∀ opened, (openAfter opened before).length = within.length + opened.length := by
  induction placed generalizing before after with
  | nil => cases List.append_eq_nil_iff.mp split.symm |>.2
  | plain head isPlain headSite _ ih =>
      rcases List.cons_eq_append_iff.mp split with ⟨rfl, here⟩ | ⟨first, rfl, later⟩
      · cases here
        obtain ⟨span, rfl⟩ := headSite entry site declares
        exact ⟨span, [], rfl, fun opened => (Nat.zero_add _).symm⟩
      · obtain ⟨span, within, same, depth⟩ := ih later
        refine ⟨span, within, same, fun opened => ?_⟩
        rw [openAfter_cons, opening_of_isPlain isPlain, depth]
  | @suite around inside rest call outcome span callSite body later bodyIh laterIh =>
      rcases of_bracket_eq_append split with
        ⟨rfl, rfl⟩ | ⟨first, second, rfl, here, -⟩ | ⟨-, rfl, -⟩ | ⟨first, rfl, here⟩
      · cases declares
        exact ⟨span, [], callSite, fun opened => (Nat.zero_add _).symm⟩
      · obtain ⟨own, within, rfl, depth⟩ := bodyIh here
        refine ⟨own, within ++ [file.frame span], by simp, fun opened => ?_⟩
        rw [openAfter_cons, depth, List.length_append, Nat.add_assoc, Nat.add_comm [_].length]
        rfl
      · cases declares
      · obtain ⟨own, within, rfl, depth⟩ := laterIh here
        refine ⟨own, within, rfl, fun opened => ?_⟩
        rw [openAfter_cons, openAfter_append, body.openAfter_eq, openAfter_cons, depth]
        rfl

end Placed

/-- Signals that are put further inside are declared at as many open suites. -/
theorem Signal.length_openAfter_inside (outer : List Frame) (signals : List Signal)
    {first second : List SuiteCall} (same : first.length = second.length) :
    (openAfter first (signals.map (Signal.inside outer))).length =
      (openAfter second signals).length := by
  induction signals generalizing first second with
  | nil => exact same
  | cons signal rest ih =>
      refine ih ?_
      cases signal <;> simp [Signal.inside, opening, same]

/-! ## What jobs tell -/

namespace Listener

variable {σ : Type}

/-- To note several things is to hear several notices. -/
theorem noteAll_eq_replay (listener : Listener σ) (notes : List Notice) (heard : σ) :
    listener.noteAll notes heard = listener.replay (notes.map .notice) heard := by
  induction notes generalizing heard with
  | nil => rfl
  | cons note rest ih => exact ih _

end Listener

theorem Signal.map_inside_notices (outer : List Frame) (notes : List Notice) :
    (notes.map Signal.notice).map (Signal.inside outer) = notes.map Signal.notice :=
  List.map_map

namespace Setting

variable {σ : Type} {setting : Setting σ} {limit : Nat}

/-- Whether a job tells its listener certain signals, ends in some way and leaves certain scopes. -/
def Yields (setting : Setting σ) (limit : Nat) (job : Job) (heard : σ) (told : List Signal)
    (outcome : Outcome) (after : Scopes) : Prop :=
  setting.ends limit job heard = (outcome, ⟨after, setting.listener.replay told heard⟩)

namespace Yields

variable {heard : σ} {told later : List Signal} {outcome : Outcome} {between after : Scopes}

/-- A row whose first job ends well tells what the rest tells after it. -/
theorem row {registers : Registers} {first : Task} {rest : List Task}
    (here : setting.Yields limit { registers with task := first } heard told (.ok ()) between)
    (next : setting.Yields limit { registers with scopes := between, task := .all rest }
      (setting.listener.replay told heard) later outcome after) :
    setting.Yields limit { registers with task := .all (first :: rest) } heard (told ++ later)
      outcome after := by
  rw [Yields, ends_all_cons, here, setting.listener.replay_append]
  exact next

/-- A row whose first job fails tells no more. -/
theorem row_error {registers : Registers} {first : Task} {rest : List Task} {error : LoadError}
    (here : setting.Yields limit { registers with task := first } heard told (.error error) after) :
    setting.Yields limit { registers with task := .all (first :: rest) } heard told
      (.error error) after := by
  rw [Yields, ends_all_cons, here]
  rfl

/-- A job tells what its inner job tells, and what is noted when it is finished. -/
theorem within {job inner : Job} (leads : setting.inner? limit job = some inner)
    (here : setting.Yields limit inner heard told (.ok ()) between) :
    setting.Yields limit job heard (told ++ (setting.finishNotes job.task).map .notice) (.ok ())
      (between.finish job.current job.task) := by
  rw [Yields, setting.ends_of_inner? limit leads, here, setting.listener.replay_append,
    ← setting.listener.noteAll_eq_replay]
  exact setting.finish_apply job.place job.task _

/-- A job whose inner job fails tells no more. -/
theorem within_error {job inner : Job} {error : LoadError}
    (leads : setting.inner? limit job = some inner)
    (here : setting.Yields limit inner heard told (.error error) after) :
    setting.Yields limit job heard told (.error error) after := by
  rw [Yields, setting.ends_of_inner? limit leads, here]
  rfl

/-- A job that leads to no other tells just notices. -/
theorem of_alone {job : Job} (lone : setting.Alone limit job) : ∃ notes outcome after,
    ∀ heard, setting.Yields limit job heard (List.map Signal.notice notes) outcome after := by
  obtain ⟨notes, outcome, after, ended, -⟩ := lone.idle
  refine ⟨notes, outcome, after, fun heard => ?_⟩
  rw [Yields, ← setting.listener.noteAll_eq_replay]
  exact ended σ setting.listener heard

section Declaring

variable {registers : Registers} {span : Span} {callee : Expression} {arguments : List Element}
  {entry : Entry} (stands : setting.interface.entryOf? callee = some entry)
include stands

/-- What a call of a test or hook tells. -/
theorem leaf {signal : Signal}
    (announced : setting.announcement registers span entry arguments = .leaf signal) :
    setting.Yields limit { registers with task := .expression (.call span callee arguments) } heard
      ((setting.namingNotes registers entry arguments).map .notice ++ [signal]) (.ok ())
      registers.scopes := by
  rw [Yields, setting.ends_of_declaring limit registers span arguments stands, announced,
    setting.listener.replay_concat, ← setting.listener.noteAll_eq_replay]
  rfl

/-- What a call of a suite without the body that it needs tells. -/
theorem missing {error : LoadError}
    (announced : setting.announcement registers span entry arguments = .missing error) :
    setting.Yields limit { registers with task := .expression (.call span callee arguments) } heard
      ((setting.namingNotes registers entry arguments).map .notice) (.error error)
      registers.scopes := by
  rw [Yields, setting.ends_of_declaring limit registers span arguments stands, announced,
    ← setting.listener.noteAll_eq_replay]
  rfl

variable (enters : setting.listener.Enters)
include enters

/-- What a call of a pending suite without a body tells. -/
theorem pending {call : SuiteCall}
    (announced : setting.announcement registers span entry arguments = .suite call none) :
    setting.Yields limit { registers with task := .expression (.call span callee arguments) } heard
      ((setting.namingNotes registers entry arguments).map .notice ++
        [.suite call, .leave call (.ok ())]) (.ok ()) registers.scopes := by
  rw [Yields, setting.ends_of_declaring limit registers span arguments stands, announced,
    setting.listener.replay_append, ← setting.listener.noteAll_eq_replay, announce,
    enters.suite_eq]
  rfl

/-- What a call of a suite with a body tells. -/
theorem suite {call : SuiteCall} {body : Job}
    (announced : setting.announcement registers span entry arguments = .suite call (some body))
    (inside : setting.Yields limit body
      (setting.listener.replay ((setting.namingNotes registers entry arguments).map .notice ++
        [.suite call]) heard) told outcome after) :
    setting.Yields limit { registers with task := .expression (.call span callee arguments) } heard
      ((setting.namingNotes registers entry arguments).map .notice ++
        .suite call :: (told ++ [.leave call outcome])) outcome after := by
  have entered := enters.suite_eq call
    (setting.listener.noteAll (setting.namingNotes registers entry arguments) heard)
  rw [setting.listener.replay_concat, ← setting.listener.noteAll_eq_replay] at inside
  rw [Yields, setting.ends_of_entered limit stands announced entered, inside,
    setting.listener.replay_append, ← setting.listener.noteAll_eq_replay, Listener.replay,
    setting.listener.replay_concat]
  rfl

end Declaring

end Yields

/-! ## Callers -/

/-- What is announced stands inside the suites around the call. -/
theorem site_of_announcement {registers : Registers} {span : Span} {entry : Entry}
    {arguments : List Element} {signal : Signal}
    (announced : (setting.announcement registers span entry arguments).signal? = some signal)
    {entry' : Entry} {site : CallSite} (declares : signal.declaration? = some (entry', site)) :
    site = .frames (setting.file.frame span :: registers.suites) := by
  have same := setting.declaration?_of_announcement registers span entry arguments announced
  exact (Prod.mk.inj (Option.some.inj (declares.symm.trans same))).2

/-- A job that leads to no other tells the same in all surroundings within the limit. -/
theorem yields_amid_of_alone {job : Job} (lone : setting.Alone limit job)
    (callers : Set (Surroundings × σ))
    (free : ∀ caller ∈ callers,
      ¬ ((job.amid caller.1).visit caller.2).HitsLimit setting limit) :
    ∃ told outcome after, Placed setting.file job.suites told ∧
      ∀ caller ∈ callers, setting.Yields limit (job.amid caller.1) caller.2
        (told.map (Signal.inside caller.1.suites)) outcome after := by
  by_cases live : job.task.isActivation = true
  · -- The activation was refused, and would have been in any surroundings.
    refine ⟨[], .ok (), job.scopes, .nil _, fun caller called => ?_⟩
    obtain ⟨registers, task⟩ := job
    cases task with
    | activation closure arguments span =>
        have spent := setting.spent_of_inner?_eq_none limit lone.inner
        have within : registers.depth + caller.1.depth < limit :=
          Visit.depth_lt_of_not_hitsLimit (free caller called) rfl
        exact absurd within (Nat.not_lt.mpr (Nat.le_trans spent (Nat.le_add_right ..)))
    | _ => cases live
  · obtain ⟨notes, outcome, after, yields⟩ := Yields.of_alone lone
    refine ⟨notes.map .notice, outcome, after, .notices _ _, fun caller called => ?_⟩
    rw [Signal.map_inside_notices, Yields,
      ends_amid_of_alone lone (Bool.eq_false_iff.mpr live)]
    exact yields caller.2

/--
A declaring call tells the same in all surroundings if the body of the suite does, for
listeners that have heard of the suite.
-/
theorem yields_amid_of_declaring (enters : setting.listener.Enters) {registers : Registers}
    {span : Span} {callee : Expression} {arguments : List Element} {entry : Entry}
    (stands : setting.interface.entryOf? callee = some entry) (callers : Set (Surroundings × σ))
    (inside : ∀ suite body,
      setting.announcement registers span entry arguments = .suite suite (some body) →
        ∃ told outcome after, Placed setting.file body.suites told ∧
          ∀ caller ∈ callers, setting.Yields limit (body.amid caller.1)
            (setting.listener.replay ((setting.namingNotes registers entry arguments).map .notice ++
              [.suite (suite.inside caller.1.suites)]) caller.2)
            (told.map (Signal.inside caller.1.suites)) outcome after) :
    let call : Job := { registers with task := .expression (.call span callee arguments) }
    ∃ told outcome after, Placed setting.file registers.suites told ∧
      ∀ caller ∈ callers, setting.Yields limit (call.amid caller.1) caller.2
        (told.map (Signal.inside caller.1.suites)) outcome after := by
  intro call
  let notes := (setting.namingNotes registers entry arguments).map Signal.notice
  have announcedAmid := fun around : Surroundings =>
    setting.announcement_amid call around span entry arguments
  cases announced : setting.announcement registers span entry arguments with
  | missing error =>
      refine ⟨notes, .error error, registers.scopes, .notices _ _, fun caller called => ?_⟩
      rw [Signal.map_inside_notices]
      exact .missing stands ((announcedAmid caller.1).trans (congrArg _ announced))
  | leaf signal =>
      have plain : signal.isPlain := by
        rcases setting.leaf_of_announcement announced with ⟨call, rfl⟩ | ⟨call, rfl⟩ <;> rfl
      refine ⟨notes ++ [signal], .ok (), registers.scopes,
        .append (.notices _ _) (.plain signal plain (fun entry' site declares => ?_) (.nil _)),
        fun caller called => ?_⟩
      · exact ⟨span, site_of_announcement (congrArg Announcement.signal? announced) declares⟩
      · rw [List.map_append, Signal.map_inside_notices]
        exact .leaf stands ((announcedAmid caller.1).trans (congrArg _ announced))
  | suite suite body =>
      have site := site_of_announcement (congrArg Announcement.signal? announced) rfl
      cases body with
      | none =>
          refine ⟨notes ++ [.suite suite, .leave suite (.ok ())], .ok (), registers.scopes,
            .append (.notices _ _) (.suite suite (.ok ()) span site (.nil _) (.nil _)),
            fun caller called => ?_⟩
          rw [List.map_append, Signal.map_inside_notices]
          exact .pending stands enters ((announcedAmid caller.1).trans (congrArg _ announced))
      | some body =>
          obtain ⟨told, outcome, after, placed, yields⟩ := inside suite body announced
          obtain ⟨closure, -, rfl⟩ := setting.body_of_announcement announced
          refine ⟨notes ++ .suite suite :: (told ++ [.leave suite outcome]), outcome, after,
            .append (.notices _ _) (.suite suite outcome span site placed (.nil _)),
            fun caller called => ?_⟩
          simp only [List.map_append, List.map_cons, List.map_nil]
          rw [Signal.map_inside_notices]
          exact .suite stands enters ((announcedAmid caller.1).trans (congrArg _ announced))
            (yields caller called)

/--
What a job tells, how it ends and what scopes it leaves is the same in all
surroundings in which it stays within the limit.
-/
theorem yields_amid (enters : setting.listener.Enters) (job : Job)
    (callers : Set (Surroundings × σ))
    (free : ∀ caller ∈ callers,
      ¬ ((job.amid caller.1).visit caller.2).HitsLimit setting limit) :
    ∃ told outcome after, Placed setting.file job.suites told ∧
      ∀ caller ∈ callers, setting.Yields limit (job.amid caller.1) caller.2
        (told.map (Signal.inside caller.1.suites)) outcome after := by
  induction job using setting.job_induction limit generalizing callers with
  | none registers => exact ⟨[], .ok (), registers.scopes, .nil _, fun _ _ => rfl⟩
  | row registers first rest firstIh restIh =>
      obtain ⟨told, outcome, between, placed, yields⟩ := firstIh callers fun caller called =>
        Visit.not_hitsLimit_of_starts (free caller called) (.first _ _ first rest)
      cases outcome with
      | error error =>
          exact ⟨told, .error error, between, placed, fun caller called =>
            (yields caller called).row_error⟩
      | ok =>
          -- The rest is called in the same surroundings, by callers that have heard the first.
          let hear (caller : Surroundings × σ) : Surroundings × σ :=
            (caller.1, setting.listener.replay (told.map (Signal.inside caller.1.suites)) caller.2)
          obtain ⟨later, outcome, after, placedLater, yieldsLater⟩ :=
            restIh between (Set.image hear callers) (by
              rintro _ ⟨caller, called, rfl⟩
              exact Visit.not_hitsLimit_of_starts (free caller called)
                (.rest _ _ rest (yields caller called)))
          refine ⟨told ++ later, outcome, after, placed.append placedLater, fun caller called => ?_⟩
          rw [List.map_append]
          exact (yields caller called).row (yieldsLater (hear caller) ⟨caller, called, rfl⟩)
  | within job inner leads innerIh =>
      have leadsAmid : ∀ caller ∈ callers,
          setting.inner? limit (job.amid caller.1) = some (inner.amid caller.1) :=
        fun caller called => inner?_amid leads fun live =>
          Visit.depth_lt_of_not_hitsLimit (free caller called) live
      obtain ⟨told, outcome, after, placed, yields⟩ := innerIh callers fun caller called =>
        Visit.not_hitsLimit_of_inner? (free caller called) (leadsAmid caller called)
      rw [suites_of_inner? leads] at placed
      cases outcome with
      | error error =>
          exact ⟨told, .error error, after, placed, fun caller called =>
            (yields caller called).within_error (leadsAmid caller called)⟩
      | ok =>
          refine ⟨told ++ (setting.finishNotes job.task).map .notice, .ok (),
            after.finish job.current job.task, placed.append (.notices _ _),
            fun caller called => ?_⟩
          rw [List.map_append, Signal.map_inside_notices]
          exact (yields caller called).within (leadsAmid caller called)
  | declaring registers span callee arguments entry stands bodyIh =>
      refine yields_amid_of_declaring enters stands callers fun suite body announced => ?_
      -- The body is run for callers that have heard of the suite.
      let hear (caller : Surroundings × σ) : Surroundings × σ :=
        (caller.1, setting.listener.replay
          ((setting.namingNotes registers entry arguments).map .notice ++
            [.suite (suite.inside caller.1.suites)]) caller.2)
      obtain ⟨told, outcome, after, placed, yields⟩ :=
        bodyIh suite body announced (Set.image hear callers) (by
          rintro _ ⟨caller, called, rfl⟩
          refine Visit.not_hitsLimit_of_starts (free caller called)
            (.body _ _ stands ((announcement_amid _ _ _ _ _).trans (congrArg _ announced)) ?_)
          rw [enters.suite_eq, setting.listener.noteAll_eq_replay, ← setting.listener.replay_concat]
          rfl)
      exact ⟨told, outcome, after, placed, fun caller called =>
        yields (hear caller) ⟨caller, called, rfl⟩⟩
  | alone job lone => exact yields_amid_of_alone lone callers free

end Setting

/-- A place from which a closure is called. -/
structure Caller extends Surroundings where
  /-- The scope that is current at the call. -/
  current : Nat
  /-- The call itself. -/
  span : Span

/-- To call a closure. -/
def Caller.job (caller : Caller) (scopes : Scopes) (closure : Closure) (arguments : List Binding) :
    Job where
  scopes := scopes
  current := caller.current
  depth := caller.depth
  suites := caller.suites
  task := .activation closure arguments caller.span

/-- The body of a closure that is called from the top level. -/
def Closure.job (closure : Closure) (scopes : Scopes) (arguments : List Binding) : Job where
  scopes := (scopes.add closure.scope true).bindParameters scopes.size closure.callback.parameters
    arguments
  current := scopes.size
  depth := 1
  suites := []
  task := closure.callback.task

namespace Setting

variable {σ : Type}

/-- A call that is not refused leads to the same body whoever makes it. -/
theorem inner?_caller {setting : Setting σ} {limit : Nat} (caller : Caller) (scopes : Scopes)
    (closure : Closure) (arguments : List Binding) (live : caller.depth < limit) :
    setting.inner? limit (caller.job scopes closure arguments) =
      some ((closure.job scopes arguments).amid caller.toSurroundings) := by
  refine (if_pos live).trans ?_
  simp only [Job.amid, Closure.job, Caller.job, Nat.add_comm 1, List.nil_append]
  rfl

/--
Scoping is lexical.  For given scopes, a closure and its arguments there are signals, an
outcome and scopes such that every call within the limit tells those signals, with the
frames of the suites around the call behind their call sites, and ends and leaves the
scopes like that.  It does not matter which scope is current at the call, how many
activations are live and which suites are open.  A declaration has its own frame and one
for each suite that the closure has opened around it, which are open on top of the others.
-/
theorem lexically_scoped (setting : Setting σ) (enters : setting.listener.Enters) (limit : Nat)
    (scopes : Scopes) (closure : Closure) (arguments : List Binding) :
    ∃ told outcome after,
      (∀ (caller : Caller) (heard : σ),
        ¬ ((caller.job scopes closure arguments).visit heard).HitsLimit setting limit →
          setting.ends limit (caller.job scopes closure arguments) heard =
            (outcome, ⟨after,
              setting.listener.replay (told.map (Signal.inside caller.suites)) heard⟩)) ∧
      ∀ before signal rest entry site, told = before ++ signal :: rest →
        signal.declaration? = some (entry, site) →
          ∃ (span : Span) (within : List Frame),
            site = .frames (setting.file.frame span :: within) ∧
              ∀ outer opened, (openAfter opened (before.map (Signal.inside outer))).length =
                within.length + opened.length := by
  let body := closure.job scopes arguments
  obtain ⟨told, outcome, after, placed, yields⟩ := setting.yields_amid enters body
    {caller | ¬ ((body.amid caller.1).visit caller.2).HitsLimit setting limit} fun _ free => free
  refine ⟨told, outcome, after, fun caller heard free => ?_, ?_⟩
  · have leads := setting.inner?_caller caller scopes closure arguments
      (Visit.depth_lt_of_not_hitsLimit free rfl)
    have inside := yields (caller.toSurroundings, heard)
      (Visit.not_hitsLimit_of_inner? free leads)
    cases outcome with
    | error error => exact inside.within_error leads
    | ok =>
        have ran := inside.within leads
        rwa [show setting.finishNotes (caller.job scopes closure arguments).task = [] from rfl,
          List.map_nil, List.append_nil] at ran
  · intro before signal rest entry site split declares
    obtain ⟨span, within, same, depth⟩ := placed.site_eq split declares
    have frames : within ++ body.suites = within := List.append_nil within
    refine ⟨span, within, frames ▸ same, fun outer opened => ?_⟩
    rw [Signal.length_openAfter_inside outer before rfl, depth]

/-- A file with a helper that declares a test with the name of a variable. -/
def namedHelperFile : Setting (List Signal) where
  file := Loader.sourceFile { files := .empty, directory := "/" } "case.js"
    "let t = 'a';\nconst check = () => it(t);\ndescribe('s', () => \x7b let t = 'b'; check(); \x7d);"
  interface := .bdd
  resolver := .absolute
  listener := observer

/-- The helper in that file. -/
def namedHelper : Closure where
  callback := .arrow [] (.call ⟨33, 38⟩ (.identifier ⟨33, 35⟩ "it")
    [.plain (.identifier ⟨36, 37⟩ "t")])
  scope := Scopes.file

/-- The scopes of that file inside the suite. -/
def namedHelperScopes : Scopes :=
  (Scopes.initial.bindIn Scopes.file "t" (.value (.text "a"))).add Scopes.file true
    |>.bindIn 1 "t" (.value (.text "b"))

/-- Inside the suite the helper declares what it does at the top level, with one frame more. -/
theorem lexically_scoped_namedHelper :
    let inner : Frame := { file := "/case.js", line := 2, column := 21 }
    let outer : Frame := { file := "/case.js", line := 3, column := 1 }
    let atTop : Caller := ⟨⟨0, []⟩, Scopes.file, ⟨84, 91⟩⟩
    let inSuite : Caller := ⟨⟨1, [outer]⟩, 1, ⟨63, 70⟩⟩
    let call (caller : Caller) : Job := caller.job namedHelperScopes namedHelper []
    namedHelperFile.listener.Enters ∧
      (∀ caller ∈ [atTop, inSuite],
        ¬ ((call caller).visit []).HitsLimit namedHelperFile activationLimit) ∧
      (namedHelperFile.ends activationLimit (call atTop) []).2.heard =
        [.test { name := "a", site := .frames [inner], hasBody := false }] ∧
      (namedHelperFile.ends activationLimit (call inSuite) []).2.heard =
        [.test { name := "a", site := .frames [inner, outer], hasBody := false }] := by
  intro inner outer atTop inSuite call
  have runs : ∀ caller ∈ [atTop, inSuite],
      (namedHelperFile.ends activationLimit (call caller) []).1.isOk = true := by decide +kernel
  have free : ∀ caller ∈ [atTop, inSuite],
      ¬ ((call caller).visit []).HitsLimit namedHelperFile activationLimit := by
    intro caller called hits
    obtain ⟨span, failed⟩ := hits.fails
    have well := runs caller called
    rw [show (namedHelperFile.ends activationLimit (call caller) []).1 = _ from failed] at well
    cases well
  have declared : (namedHelperFile.ends activationLimit (call atTop) []).2.heard =
      [.test { name := "a", site := .frames [inner], hasBody := false }] := by
    decide +kernel
  obtain ⟨told, outcome, after, same, -⟩ := lexically_scoped namedHelperFile observer_enters
    activationLimit namedHelperScopes namedHelper []
  have first := same atTop [] (free atTop (by simp))
  have second := same inSuite [] (free inSuite (by simp))
  refine ⟨observer_enters, free, declared, ?_⟩
  have heard : told.map (Signal.inside []) =
      [.test { name := "a", site := .frames [inner], hasBody := false }] := by
    rw [first] at declared
    exact (observer_replay _ []).symm.trans declared
  rw [Signal.inside_nil, List.map_id] at heard
  rw [second, heard]
  rfl

end Setting

end TestInventory
