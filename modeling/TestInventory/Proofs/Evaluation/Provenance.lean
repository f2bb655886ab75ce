import TestInventory.Proofs.Evaluation.Bracketing
import TestInventory.Proofs.Evaluation.Visits
import TestInventory.Proofs.Location

/-!
# Where declarations come from

Every declaration that is heard was made by a call that the machine took up, with
just those suites open around it that have been heard of and not left.  Its call
site is that call before the call site of the innermost of these suites, whatever
helpers and loops the machine was in the midst of.
-/

namespace TestInventory

open TestInventory.Source (Span)
open Relation Signal

/-! ## Declarations with an origin -/

/-- Whether all declarations among signals, heard behind others, have an origin. -/
def Traced (origin : List Signal → Signal → Prop) (heard told : List Signal) : Prop :=
  ∀ before signal after, told = before ++ signal :: after → signal.declaration?.isSome →
    origin (heard ++ before) signal

namespace Traced

variable {origin : List Signal → Signal → Prop} {heard first second : List Signal}

theorem of_silent (silent : ∀ signal ∈ first, signal.declaration? = none) :
    Traced origin heard first := by
  intro before signal after split declares
  have none := silent signal (split ▸ List.mem_append_right before List.mem_cons_self)
  rw [none] at declares
  cases declares

theorem notices (notes : List Notice) : Traced origin heard (notes.map .notice) := by
  refine of_silent fun signal member => ?_
  obtain ⟨note, -, rfl⟩ := List.mem_map.mp member
  rfl

theorem singleton {signal : Signal} (has : origin heard signal) :
    Traced origin heard [signal] := by
  intro before other after split _
  rcases List.singleton_eq_append_iff.mp split with ⟨rfl, same⟩ | ⟨-, same⟩
  · cases same
    rw [List.append_nil]
    exact has
  · cases same

theorem append (firstTraced : Traced origin heard first)
    (secondTraced : Traced origin (heard ++ first) second) :
    Traced origin heard (first ++ second) := by
  intro before signal after split declares
  rcases List.append_eq_append_iff.mp split with ⟨between, rfl, later⟩ | ⟨between, rfl, begins⟩
  · rw [← List.append_assoc]
    exact secondTraced between signal after later declares
  · cases between with
    | nil =>
        have here := secondTraced [] signal after begins.symm declares
        rwa [List.append_nil, List.append_nil] at here
    | cons other between =>
        cases begins
        exact firstTraced before signal between rfl declares

theorem mono {other : List Signal → Signal → Prop} (traced : Traced origin heard first)
    (weaker : ∀ before signal, origin before signal → other before signal) :
    Traced other heard first := by
  intro before signal after split declares
  exact weaker _ signal (traced before signal after split declares)

end Traced

namespace Signal

theorem observer_noteAll (notes : List Notice) (heard : List Signal) :
    observer.noteAll notes heard = heard ++ notes.map .notice := by
  induction notes generalizing heard with
  | nil => exact (List.append_nil heard).symm
  | cons note rest ih =>
      refine (ih (heard ++ [.notice note])).trans ?_
      rw [List.append_assoc, List.singleton_append]
      rfl

theorem openAfter_notices (opened : List SuiteCall) (notes : List Notice) :
    openAfter opened (notes.map .notice) = opened := by
  induction notes generalizing opened with
  | nil => rfl
  | cons note rest ih => exact ih opened

end Signal

namespace Recorder

/-- Whether a recorder stores a declaration with a location while so many suites are open. -/
structure Stores (recorder : Recorder) (signal : Signal) (location : Location) (depth : Nat) :
    Prop where
  opened : recorder.route.depth = depth
  stores : ∃ name kind,
    (listener.hear signal recorder).assembler.tree =
        recorder.assembler.tree.insert recorder.route.segments name ⟨kind, location⟩ ∧
      (listener.hear signal recorder).journal =
        .declared name ⟨kind, location⟩ depth :: recorder.journal

/-- Every declaration is stored with the location of its call site. -/
theorem Stores.of_declaration (recorder : Recorder) {signal : Signal} {entry : Entry}
    {site : CallSite} (declares : signal.declaration? = some (entry, site)) :
    recorder.Stores signal (recorder.resolver.resolve site) recorder.route.depth := by
  refine ⟨rfl, ?_⟩
  cases signal with
  | leave => cases declares
  | notice => cases declares
  | _ =>
      cases declares
      exact ⟨_, _, rfl, rfl⟩

end Recorder

/-! ## The call that declares something -/

namespace Visit

/-- Whether the call that is taken up at a visit makes a declaration, behind what was heard. -/
def Announces (setting : Setting (List Signal)) (visit : Visit (List Signal)) (span : Span)
    (entry : Entry) (before : List Signal) (signal : Signal) : Prop :=
  ∃ callee arguments, visit.task = .expression (.call span callee arguments) ∧
    setting.interface.entryOf? callee = some entry ∧
    (setting.announcement visit.toRegisters span entry arguments).signal? = some signal ∧
    before = visit.heard ++ (setting.namingNotes visit.toRegisters entry arguments).map .notice

/-- Whether a declaration comes from a call that is reached from a visit. -/
def Origin (setting : Setting (List Signal)) (limit : Nat) (start : Visit (List Signal))
    (before : List Signal) (signal : Signal) : Prop :=
  ∃ visit span entry, start.Reaches setting limit visit ∧
    visit.Announces setting span entry before signal

theorem Origin.of_starts {setting : Setting (List Signal)} {limit : Nat}
    {start next : Visit (List Signal)} (starts : Starts setting limit start next)
    (before : List Signal) (signal : Signal) (has : Origin setting limit next before signal) :
    Origin setting limit start before signal := by
  obtain ⟨visit, span, entry, reaches, announces⟩ := has
  exact ⟨visit, span, entry, .head starts reaches, announces⟩

end Visit

namespace Setting

variable (setting : Setting (List Signal)) (limit : Nat)

/-- Whether the observer hears only of declarations with an origin while a job is done. -/
def Tells (job : Job) (heard : List Signal) : Prop :=
  ∃ told, (setting.ends limit job heard).2.heard = heard ++ told ∧
    Traced (Visit.Origin setting limit (job.visit heard)) heard told

variable {setting limit}

theorem tells_row {registers : Registers} {first : Task} {rest : List Task} {heard : List Signal}
    (firstTells : setting.Tells limit { registers with task := first } heard)
    (restTells : ∀ scopes heard,
      setting.Tells limit { registers with scopes, task := .all rest } heard) :
    setting.Tells limit { registers with task := .all (first :: rest) } heard := by
  obtain ⟨told, hears, traced⟩ := firstTells
  have traced := traced.mono (Visit.Origin.of_starts (.first registers heard first rest))
  rw [Tells, ends_all_cons]
  rcases ended : setting.ends limit { registers with task := first } heard with ⟨_ | _, after⟩
  · rw [ended] at hears
    exact ⟨told, hears, traced⟩
  · rw [ended] at hears
    obtain ⟨later, hearsLater, tracedLater⟩ := restTells after.scopes after.heard
    have tracedLater := tracedLater.mono (Visit.Origin.of_starts (.rest registers heard rest ended))
    have between : after.heard = heard ++ told := hears
    refine ⟨told ++ later, ?_, traced.append (between ▸ tracedLater)⟩
    rw [← List.append_assoc, ← between]
    exact hearsLater

theorem withListener_observer (observes : setting.listener = observer) :
    setting.withListener observer = setting := by
  rw [← observes]
  rfl

variable (observes : setting.listener = observer)
include observes

theorem noteAll_eq_append (notes : List Notice) (heard : List Signal) :
    setting.listener.noteAll notes heard = heard ++ notes.map .notice := by
  rw [observes]
  exact observer_noteAll notes heard

theorem tells_within {job inner : Job} (leads : setting.inner? limit job = some inner)
    {heard : List Signal} (innerTells : setting.Tells limit inner heard) :
    setting.Tells limit job heard := by
  obtain ⟨told, hears, traced⟩ := innerTells
  have begins : Visit.Starts setting limit (job.visit heard) (inner.visit heard) := .inner leads
  have traced := traced.mono (Visit.Origin.of_starts begins)
  rw [Tells, setting.ends_of_inner? limit leads]
  rcases ended : setting.ends limit inner heard with ⟨_ | _, after⟩
  · rw [ended] at hears
    exact ⟨told, hears, traced⟩
  · rw [ended] at hears
    have between : after.heard = heard ++ told := hears
    refine ⟨told ++ (setting.finishNotes job.task).map .notice, ?_, traced.append (.notices _)⟩
    rw [Evaluating.goOn_ok, setting.finish_apply, ← List.append_assoc, ← between]
    exact noteAll_eq_append observes ..

theorem tells_alone {job : Job} (lone : setting.Alone limit job) (heard : List Signal) :
    setting.Tells limit job heard := by
  obtain ⟨notes, outcome, after, idles, -⟩ := lone.idle
  have ended : setting.ends limit job heard = _ := idles _ setting.listener heard
  rw [Tells, ended]
  exact ⟨notes.map .notice, noteAll_eq_append observes notes heard, .notices notes⟩

/-- What is announced is heard, and behind a suite what is heard of its body. -/
theorem hears_announcement {origin : List Signal → Signal → Prop} (scopes : Scopes)
    (announcement : Announcement) (behind : List Signal)
    (has : ∀ signal, announcement.signal? = some signal → origin behind signal)
    (inside : ∀ call body, announcement = .suite call (some body) →
      ∃ told, (setting.ends limit body (behind ++ [.suite call])).2.heard =
          behind ++ [.suite call] ++ told ∧
        Traced origin (behind ++ [.suite call]) told) :
    ∃ told, (setting.announce limit scopes announcement behind).2.heard = behind ++ told ∧
      Traced origin behind told := by
  cases announcement with
  | missing error => exact ⟨[], (List.append_nil behind).symm, .of_silent nofun⟩
  | leaf signal =>
      refine ⟨[signal], ?_, .singleton (has signal rfl)⟩
      rw [announce, observes]
      exact observer_hear signal behind
  | suite call body =>
      have opens : Traced origin behind [.suite call] := .singleton (has _ rfl)
      have closes : ∀ heard outcome, Traced origin heard [.leave call outcome] :=
        fun heard outcome => .of_silent (List.forall_mem_singleton.mpr rfl)
      have entered : setting.listener.suite call behind = (.enter, behind ++ [.suite call]) := by
        rw [observes]
        rfl
      have leaves : ∀ outcome heard,
          setting.listener.leave call outcome heard = heard ++ [.leave call outcome] := by
        rw [observes]
        exact fun _ _ => rfl
      simp only [announce, entered, leaves]
      cases body with
      | none =>
          refine ⟨[.suite call] ++ [.leave call (.ok ())], ?_, opens.append (closes _ _)⟩
          exact List.append_assoc ..
      | some body =>
          obtain ⟨told, hears, traced⟩ := inside call body rfl
          let outcome := (setting.ends limit body (behind ++ [.suite call])).1
          refine ⟨[.suite call] ++ (told ++ [.leave call outcome]), ?_,
            opens.append (traced.append (closes _ outcome))⟩
          rw [← List.append_assoc, ← List.append_assoc, ← hears]
          rfl

theorem tells_declaring {registers : Registers} {span : Span} {callee : Expression}
    {arguments : List Element} {entry : Entry}
    (stands : setting.interface.entryOf? callee = some entry)
    (bodyTells : ∀ call body, setting.announcement registers span entry arguments =
      .suite call (some body) → ∀ heard, setting.Tells limit body heard) (heard : List Signal) :
    setting.Tells limit { registers with task := .expression (.call span callee arguments) }
      heard := by
  let notes := setting.namingNotes registers entry arguments
  let visit : Visit (List Signal) := ⟨⟨registers, heard⟩, .expression (.call span callee arguments)⟩
  have noted : setting.listener.noteAll notes heard = heard ++ notes.map .notice :=
    noteAll_eq_append observes notes heard
  obtain ⟨told, hears, traced⟩ : ∃ told, (setting.announce limit registers.scopes
      (setting.announcement registers span entry arguments)
      (heard ++ notes.map .notice)).2.heard = heard ++ notes.map .notice ++ told ∧
      Traced (Visit.Origin setting limit visit) (heard ++ notes.map .notice) told := by
    refine hears_announcement observes _ _ _ (fun signal announced => ?_)
      fun call body announced => ?_
    · exact ⟨visit, span, entry, .refl, callee, arguments, rfl, stands, announced, rfl⟩
    · obtain ⟨told, hears, traced⟩ := bodyTells call body announced _
      refine ⟨told, hears, traced.mono (Visit.Origin.of_starts ?_)⟩
      refine .body registers heard stands announced ?_
      rw [show setting.listener.noteAll _ heard = _ from noted, observes]
      rfl
  rw [Tells, setting.ends_of_declaring limit registers span arguments stands, noted]
  refine ⟨notes.map Signal.notice ++ told, ?_, .append (.notices notes) traced⟩
  rw [← List.append_assoc]
  exact hears

/-- Every declaration that the observer hears of comes from a call that is taken up. -/
theorem tells (limit : Nat) (job : Job) (heard : List Signal) : setting.Tells limit job heard := by
  induction job using setting.job_induction limit generalizing heard with
  | none registers => exact ⟨[], (List.append_nil heard).symm, .of_silent nofun⟩
  | row registers first rest firstTells restTells => exact tells_row (firstTells heard) restTells
  | within job inner leads innerTells => exact tells_within observes leads (innerTells heard)
  | declaring registers span callee arguments entry stands bodyTells =>
      exact tells_declaring observes stands bodyTells heard
  | alone job lone => exact tells_alone observes lone heard

/-- A job leaves those suites open that it found open. -/
theorem openAfter_ends (limit : Nat) (job : Job) (heard : List Signal) :
    openAfter [] (setting.ends limit job heard).2.heard = openAfter [] heard := by
  obtain ⟨script, after, same⟩ := setting.scripted limit job
  have ended := same _ observer observer_enters.neverPasses heard
  rw [withListener_observer observes, script.play_observer] at ended
  rw [ended.heard_eq, openAfter_append, script.bracketed.openAfter_eq]

end Setting

/-! ## The suites around a declaration -/

/-- Whether frames are the call site of the innermost of several suites, with one for each. -/
structure Linked (frames : List Frame) (opened : List SuiteCall) : Prop where
  length : frames.length = opened.length
  site : ∀ call ∈ opened.head?, call.site = .frames frames

/-- Inside a suite its call site is that of the innermost suite. -/
theorem Linked.cons {frames : List Frame} {opened : List SuiteCall}
    (linked : Linked frames opened) {frame : Frame} {call : SuiteCall}
    (site : call.site = .frames (frame :: frames)) : Linked (frame :: frames) (call :: opened) where
  length := congrArg (· + 1) linked.length
  site := by
    rintro _ ⟨⟩
    exact site

/-- A declaration with a frame per open suite is stored at the line of its own frame. -/
theorem Recorder.Stores.of_linked {file : SourceFile} (known : file.AtAbsolute)
    {suites : List Frame} {before : List Signal} (linked : Linked suites (openAfter [] before))
    {signal : Signal} {entry : Entry} {span : Span}
    (declares : signal.declaration? = some (entry, .frames (file.frame span :: suites)))
    {recorder : Recorder} (outermost : recorder.route.depth = 0) :
    (recorder.replay before).Stores signal
      ⟨recorder.resolver.relativize file.path, 1 + Source.feedsBefore file.text span.start⟩
      suites.length := by
  have stored := of_declaration (recorder.replay before) declares
  have depth : (recorder.replay before).route.depth = suites.length :=
    (Recorder.depth_replay [] outermost before).trans linked.length.symm
  rwa [recorder.replay_resolver, depth, Resolver.resolve_frames known] at stored

namespace Setting

variable {σ : Type} {setting : Setting σ} {limit : Nat}

theorem suites_of_innerOfStatement? {registers : Registers} {statement : Statement} {inner : Job}
    (leads : innerOfStatement? registers statement = some inner) :
    inner.suites = registers.suites := by
  cases statement with
  | exported _ declaration => cases declaration <;> cases leads; rfl
  | forOf =>
      obtain ⟨_, -, rfl⟩ := Option.map_eq_some_iff.mp leads
      rfl
  | _ => cases leads <;> rfl

/-- Only the body of a suite has more suites around it. -/
theorem suites_of_inner? {job inner : Job} (leads : setting.inner? limit job = some inner) :
    inner.suites = job.suites := by
  obtain ⟨registers, task⟩ := job
  cases task with
  | expression =>
      obtain ⟨_, -, rfl⟩ := Option.map_eq_some_iff.mp leads
      rfl
  | declarator hoisted declarator =>
      obtain ⟨target, value⟩ := declarator
      obtain ⟨_, -, rfl⟩ := Option.map_eq_some_iff.mp leads
      rfl
  | statement => exact suites_of_innerOfStatement? leads
  | activation =>
      simp only [inner?] at leads
      split at leads <;> cases leads
      rfl
  | all => cases leads
  | _ =>
      cases leads
      rfl

end Setting

namespace Visit

/-- Whether the calls of the open suites at a visit belong to those heard of. -/
def IsLinked (visit : Visit (List Signal)) : Prop := Linked visit.suites (openAfter [] visit.heard)

variable {setting : Setting (List Signal)} {limit : Nat} (observes : setting.listener = observer)
include observes

theorem isLinked_of_starts {visit next : Visit (List Signal)} (linked : visit.IsLinked)
    (starts : Starts setting limit visit next) : next.IsLinked := by
  cases starts with
  | @inner _ inner leads =>
      have same : inner.suites = visit.suites := Setting.suites_of_inner? leads
      show Linked inner.suites _
      rw [same]
      exact linked
  | first => exact linked
  | @rest registers heard first rest after ended =>
      have same := Setting.openAfter_ends observes limit { registers with task := first } heard
      rw [ended] at same
      show Linked registers.suites (openAfter [] after.heard)
      rw [same]
      exact linked
  | @body registers heard span callee arguments entry call body heard' stands announced entered =>
      have declares := setting.declaration?_of_announcement registers span entry arguments
        (congrArg Announcement.signal? announced)
      obtain ⟨-, site⟩ := Prod.mk.inj (Option.some.inj declares)
      obtain ⟨closure, -, rfl⟩ := setting.body_of_announcement announced
      have hears : heard' = heard ++ (setting.namingNotes registers entry arguments).map .notice ++
          [.suite call] := by
        rw [Setting.noteAll_eq_append observes, observes] at entered
        exact (Prod.mk.inj entered).2.symm
      show Linked (setting.file.frame span :: registers.suites) (openAfter [] heard')
      rw [hears, openAfter_append, openAfter_append, openAfter_notices]
      exact linked.cons site

theorem isLinked_of_reaches {start visit : Visit (List Signal)} (linked : start.IsLinked)
    (reaches : start.Reaches setting limit visit) : visit.IsLinked := by
  induction reaches with
  | refl => exact linked
  | tail _ starts ih => exact isLinked_of_starts observes ih starts

omit observes in
/-- What is announced at a linked visit has the call site of the innermost suite around it. -/
theorem Announces.site {visit : Visit (List Signal)} (linked : visit.IsLinked) {span : Span}
    {entry : Entry} {before : List Signal} {signal : Signal}
    (announces : visit.Announces setting span entry before signal) :
    signal.declaration? =
        some (entry, .frames (setting.file.frame span :: visit.suites)) ∧
      Linked visit.suites (openAfter [] before) := by
  obtain ⟨callee, arguments, -, -, announced, rfl⟩ := announces
  refine ⟨setting.declaration?_of_announcement _ span entry arguments announced, ?_⟩
  rw [openAfter_append, openAfter_notices]
  exact linked

end Visit

namespace Setting

variable {σ : Type}

/--
Every declaration is made by a call that is taken up while just that is heard which
comes before the declaration.  The first frame of its call site is the start of the
call, and the others are the call site of the innermost suite that is open.  A
recorder stores it with the reported name of the file and the line of the call, at
the depth of the open suites.
-/
theorem provenance (setting : Setting σ) (enters : setting.listener.Enters) (loader : Loader)
    {path text : String} (loaded : setting.file = loader.sourceFile path text)
    (absolute : Path.isAbsolute (loader.wholePath path) = true) (limit : Nat) (program : Program)
    (heard : σ) :
    let told := setting.told limit program heard
    let observed := setting.withListener observer
    (∀ recorder : Recorder, recorder.route.depth = 0 →
      ((setting.withListener Recorder.listener).evaluate limit program recorder).2 =
          recorder.replay told ∧
        (recorder.replay told).route.depth = 0) ∧
    ∃ outcome final,
      Machine.HaltsWith observed limit (.body program.statements) ⟨⟨.initial, []⟩, []⟩
          (outcome, final) ∧
        final.heard = told ∧
        ∀ before signal after entry site, told = before ++ signal :: after →
          signal.declaration? = some (entry, site) →
          ∃ visit ∈ final.trail, ∃ span frame rest,
            visit.Announces observed span entry before signal ∧
            site = .frames (frame :: rest) ∧
            setting.file.Marks frame span.start ∧
            Linked rest (openAfter [] before) ∧
            ∀ recorder : Recorder, recorder.route.depth = 0 →
              let location : Location := ⟨recorder.resolver.relativize (loader.wholePath path),
                1 + Source.feedsBefore text.toList span.start⟩
              (recorder.replay before).Stores signal location rest.length ∧
                location ≠ .unknown := by
  intro told observed
  have observes : observed.listener = observer := rfl
  have known : setting.file.AtAbsolute := loaded ▸ loader.sourceFile_atAbsolute absolute text
  have same : told = setting.signals limit program :=
    setting.told_eq_signals limit program enters heard
  obtain ⟨visits, runs⟩ := Visit.exists_runs observed limit (program.visit [])
  have hears : (observed.ends limit program.job []).2.heard = told := same.symm
  have closed : openAfter [] told = [] := hears ▸ openAfter_ends observes limit program.job []
  refine ⟨fun recorder outermost => ⟨?_, ?_⟩, _, _, runs.haltsWith [], hears, ?_⟩
  · rw [(setting.withListener Recorder.listener).evaluate_eq_replay limit program
      Recorder.listener_enters, same]
    rfl
  · rw [Recorder.depth_replay [] outermost told, closed]
    rfl
  · intro before signal after entry site split declares
    obtain ⟨all, whole, traced⟩ := tells observes limit program.job []
    obtain rfl : told = all := hears.symm.trans whole
    obtain ⟨visit, span, entry', reaches, announces⟩ :=
      traced before signal after split (by rw [declares]; rfl)
    have start : (program.visit ([] : List Signal)).IsLinked := ⟨rfl, nofun⟩
    have linked := Visit.isLinked_of_reaches observes start reaches
    obtain ⟨announced, around⟩ := announces.site linked
    obtain ⟨rfl, rfl⟩ := Prod.mk.inj (Option.some.inj (declares.symm.trans announced))
    refine ⟨visit, by simpa using (runs.mem_iff visit).mpr reaches, span, _, _, announces, rfl,
      setting.file.marks_frame span, around, fun recorder outermost => ⟨?_, ?_⟩⟩
    · have stored := Recorder.Stores.of_linked known around announced outermost
      rw [loaded] at stored
      exact stored
    · intro lost
      have line := congrArg Location.line lost
      have positive : 0 < 1 + Source.feedsBefore text.toList span.start :=
        Nat.lt_of_lt_of_le Nat.one_pos (Nat.le_add_right ..)
      exact Nat.ne_of_gt positive line

/-- A file that declares its test in a helper, which is called inside a suite further down. -/
def helperFile : Setting (List Signal) where
  file := Loader.sourceFile { files := .empty, directory := "/" } "case.js"
    "const check = () =>\n  it('t');\ndescribe('s', () => check());"
  interface := .bdd
  resolver := .absolute
  listener := observer

/-- The program in that file. -/
def helperProgram : Program where
  statements :=
    [.declaration default false [.mk (.name "check") (some (.function default (.arrow []
        (.call ⟨22, 29⟩ (.identifier default "it") [.plain (.literal default (.text "t"))]))))],
      .expression default (.call ⟨31, 59⟩ (.identifier default "describe")
        [.plain (.literal default (.text "s")), .plain (.function default (.arrow []
          (.call ⟨51, 58⟩ (.identifier default "check") [])))])]

/-- The test is stored with the line of its own call, and the suite is the frame around it. -/
theorem provenance_helperFile :
    let inner : Frame := { file := "/case.js", line := 2, column := 3 }
    let outer : Frame := { file := "/case.js", line := 3, column := 1 }
    let suite : SuiteCall := { name := "s", site := .frames [outer] }
    let test : TestCall := { name := "t", site := .frames [inner, outer], hasBody := false }
    helperFile.listener.Enters ∧ Path.isAbsolute helperFile.file.path = true ∧
      helperFile.told activationLimit helperProgram [] =
        [.suite suite] ++ .test test :: [.leave suite (.ok ())] ∧
      (({} : Recorder).replay [.suite suite]).Stores (.test test) ⟨"/case.js", 2⟩ 1 := by
  intro inner outer suite test
  have absolute : Path.isAbsolute helperFile.file.path = true := by decide +kernel
  have told : helperFile.told activationLimit helperProgram [] =
      [.suite suite] ++ .test test :: [.leave suite (.ok ())] := by decide +kernel
  obtain ⟨-, _, _, -, -, declared⟩ := provenance helperFile observer_enters
    { files := .empty, directory := "/" } rfl absolute activationLimit helperProgram []
  obtain ⟨visit, -, span, frame, rest, -, site, marks, around, stored⟩ :=
    declared _ _ _ _ _ told rfl
  refine ⟨observer_enters, absolute, told, ?_⟩
  cases site
  obtain ⟨stores, -⟩ := stored {} rfl
  have line : 1 + Source.feedsBefore helperFile.file.text span.start = 2 := marks.line.symm
  have file : ({} : Recorder).resolver.relativize helperFile.file.path = "/case.js" := by
    decide +kernel
  exact line ▸ file ▸ stores

end Setting

end TestInventory
