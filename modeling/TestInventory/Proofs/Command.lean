import TestInventory.Command
import TestInventory.Proofs.Discovery.Replay

/-!
# All or nothing

A run of the command that is to list declarations can fail in its working directory,
its configuration, its search and each of its files.  It writes the inventory of all
files if nothing fails, and else a report and nothing of what it has found.
-/

namespace TestInventory

/-- A report begins with the banner, in bold red if it has colors. -/
theorem Report.exists_text_eq (error : CommandError) (color : Bool) :
    ∃ rest, Report.text error color =
      (if color then inBoldRed banner else banner) ++ "\n" ++ rest := by
  have heading : (Style.ofColor color).heading = if color then inBoldRed banner else banner := by
    cases color <;> rfl
  refine ⟨markedText (.ofColor color) error.message ++ "\n" ++
    (error.help?.map fun help => (Style.ofColor color).help ++ help ++ "\n").getD "" ++ "\n", ?_⟩
  rw [← heading, Report.text]
  simp only [String.append_assoc]

namespace Command

/--
Whether a run works in a directory: in the one in which it is run, or in the one that
its arguments name from there, with all steps up taken and nothing idle in the path.
-/
inductive WorksIn (invocation : Invocation) (arguments : Arguments) : (directory : String) → Prop
  | here (unnamed : arguments.directory = none) : WorksIn invocation arguments invocation.directory
  | named {path : String} (named : arguments.directory = some path) :
      WorksIn invocation arguments (Path.clean (Path.join invocation.directory path))

/-- Whether a run reports a failure in colors. -/
structure Colors (invocation : Invocation) (arguments : Arguments) : Prop where
  allowed : Switch.noColor ∉ arguments.switches
  notOff : ∀ text, ("NO_COLOR", text) ∉ invocation.environment
  wanted : (∃ text, ("FORCE_COLOR", text) ∈ invocation.environment) ∨ invocation.attended = true

variable (invocation : Invocation) (directory : String) (configuration : Configuration)

/-- What loads the files of a run with a configuration. -/
def loaderFor : Loader where
  files := invocation.files
  interface := configuration.interface
  directory

/-- A run with a configuration as far as it loads files, and how that ends. -/
def discovered : Except DiscoveryError Unit × Discovery :=
  discover invocation.files directory configuration.root configuration.searchOptions

/-- The files that are searched for with a configuration, if there is something at the root. -/
def searched? : Option (List String) :=
  invocation.files.lookup (Path.join directory configuration.root)
    configuration.searchOptions.extensions configuration.searchOptions.recursive

/-- Whether nothing fails in a run, which then has a configuration and finds files. -/
structure Succeeds (arguments : Arguments) (paths : List String) : Prop where
  isKnown : invocation.lost = none
  configured :
    Configuration.load invocation.files directory invocation.environment arguments =
      .ok configuration
  found : searched? invocation directory configuration = some paths
  loads : ∀ path ∈ paths, (loaderFor invocation directory configuration).Loads path

variable {invocation directory configuration} {arguments : Arguments}

theorem worksIn_iff : WorksIn invocation arguments directory ↔
    directory = directoryFor invocation.directory arguments := by
  unfold directoryFor
  constructor
  · rintro (unnamed | named)
    · rw [unnamed]
    · rw [named]
  · rintro rfl
    cases named : arguments.directory with
    | none => exact .here named
    | some path => exact .named named

theorem isSome_lookup_iff (pairs : List (String × String)) (name : String) :
    (pairs.lookup name).isSome = true ↔ ∃ text, (name, text) ∈ pairs := by
  induction pairs with
  | nil => simp
  | cons entry rest ih =>
      rw [List.lookup_cons]
      by_cases same : name = entry.1
      · subst same
        exact iff_of_true (by simp) ⟨entry.2, List.mem_cons_self⟩
      · rw [beq_false_of_ne same, ih]
        simp [Prod.ext_iff, same]

theorem usesColor_iff : usesColor invocation arguments = true ↔ Colors invocation arguments := by
  have off := isSome_lookup_iff invocation.environment noColorVariable
  have on := isSome_lookup_iff invocation.environment forceColorVariable
  have forbids : arguments.has .noColor = true ↔ Switch.noColor ∈ arguments.switches :=
    List.contains_iff_mem
  unfold usesColor
  constructor
  · intro colors
    split at colors
    · cases colors
    · next allowed =>
        split at colors
        · cases colors
        · next notOff =>
            refine ⟨mt forbids.mpr allowed, not_exists.mp (mt off.mpr notOff), ?_⟩
            split at colors
            · next isOn => exact .inl (on.mp isOn)
            · exact .inr colors
  · rintro ⟨allowed, notOff, wanted⟩
    rw [if_neg (mt forbids.mp allowed), if_neg (mt off.mp (not_exists.mpr notOff))]
    split
    · rfl
    · next isOff => exact wanted.resolve_left (mt on.mpr isOff)

/-- A search that finds files is followed by loading them. -/
theorem discovered_of_found {paths : List String}
    (found : searched? invocation directory configuration = some paths) :
    discovered invocation directory configuration =
      (Discovery.start (loaderFor invocation directory configuration).resolver).loadFiles
        (loaderFor invocation directory configuration) paths := by
  unfold searched? at found
  unfold discovered discover
  simp only [found]
  rfl

/-- When nothing fails, the inventory is that of all files that were found. -/
theorem discovered_of_succeeds {paths : List String}
    (succeeds : Succeeds invocation directory configuration arguments paths) :
    discovered invocation directory configuration =
      (.ok (),
        { recorder := ({ resolver := .ofDirectory directory } : Recorder).replay
            (paths.flatMap (loaderFor invocation directory configuration).signals)
          filesLoaded := paths.length }) := by
  rw [discovered_of_found succeeds.found]
  refine Prod.ext ((Discovery.loadFiles_ok_iff ..).mpr succeeds.loads) ?_
  rw [Discovery.loadFiles_eq_replay _ _ paths succeeds.loads]
  exact congrArg (Discovery.mk _) (Nat.zero_add _)

/-- With a configuration, a run ends as its discovery does. -/
theorem ending_of_configured (works : WorksIn invocation arguments directory)
    (isKnown : invocation.lost = none)
    (configured : Configuration.load invocation.files directory invocation.environment arguments =
      .ok configuration) :
    (list invocation arguments).ending =
      match (discovered invocation directory configuration).1 with
      | .error error => .failed (.discovery error)
      | .ok () => .done ((discovered invocation directory configuration).2.finish.render
          configuration.compact ++ "\n") := by
  rw [worksIn_iff] at works
  subst works
  unfold list discovered
  simp only [isKnown, configured]
  rcases discover invocation.files (directoryFor invocation.directory arguments)
    configuration.root configuration.searchOptions with ⟨_ | _, discovery⟩
  · rfl
  · rfl

/-- A run in which something fails ends with an error. -/
theorem exists_failed_of_not_succeeds (works : WorksIn invocation arguments directory)
    (fails : ¬ ∃ configuration paths,
      Succeeds invocation directory configuration arguments paths) :
    ∃ error, (list invocation arguments).ending = .failed error := by
  cases isKnown : invocation.lost with
  | some reason =>
      unfold list
      rw [isKnown]
      exact ⟨_, rfl⟩
  | none =>
      cases configured : Configuration.load invocation.files directory invocation.environment
          arguments with
      | error error =>
          rw [worksIn_iff.mp works] at configured
          unfold list
          simp only [isKnown, configured]
          exact ⟨_, rfl⟩
      | ok configuration =>
          rw [ending_of_configured works isKnown configured]
          cases ended : (discovered invocation directory configuration).1 with
          | error error => exact ⟨_, rfl⟩
          | ok done =>
              cases found : searched? invocation directory configuration with
              | none =>
                  unfold searched? at found
                  unfold discovered discover at ended
                  simp only [found] at ended
                  cases ended
              | some paths =>
                  rw [discovered_of_found found, Discovery.loadFiles_ok_iff] at ended
                  exact absurd ⟨configuration, paths, isKnown, configured, found, ended⟩ fails

/--
A run of the command that is to list declarations works in one directory.  If nothing
fails it exits with status 0 and writes the inventory of all files that its search finds,
and a line break.  If anything fails (the working directory, the configuration, the
search, one of the files), whatever was recorded before, it exits with status 1 and
writes a report under the banner, in colors or not, and nothing to the standard output.
-/
theorem all_or_nothing (invocation : Invocation) (arguments : Arguments)
    (parsed : Arguments.parse invocation.arguments = .ok arguments) :
    let result := run invocation
    ∃ directory, WorksIn invocation arguments directory ∧
      (∀ configuration paths, Succeeds invocation directory configuration arguments paths →
        ∃ discovery, discovered invocation directory configuration = (.ok (), discovery) ∧
          discovery.filesLoaded = paths.length ∧
          discovery.finish = (({ resolver := .ofDirectory directory } : Recorder).replay
            (paths.flatMap (loaderFor invocation directory configuration).signals)).finish ∧
          result.ending.status = 0 ∧ result.complaint = "" ∧
          result.ending.output = discovery.finish.render configuration.compact ++ "\n") ∧
      ((¬ ∃ configuration paths, Succeeds invocation directory configuration arguments paths) →
        result.ending.status = 1 ∧ result.ending.output = "" ∧
          ∃ color rest, (color = true ↔ Colors invocation arguments) ∧
            result.complaint =
              (if color then Report.inBoldRed Report.banner else Report.banner) ++ "\n" ++ rest) := by
  have ending : (run invocation).ending = (list invocation arguments).ending := by
    rw [run, parsed]
  have color : (run invocation).color = usesColor invocation arguments := by
    rw [run, parsed]
  have works := worksIn_iff.mpr (Eq.refl (directoryFor invocation.directory arguments))
  refine ⟨_, works, fun configuration paths succeeds => ?_, fun fails => ?_⟩
  · have told := discovered_of_succeeds succeeds
    have ends := ending_of_configured works succeeds.isKnown succeeds.configured
    rw [told, ← ending] at ends
    refine ⟨_, told, rfl, rfl, ?_⟩
    rw [CommandResult.complaint, ends]
    exact ⟨rfl, rfl, rfl⟩
  · obtain ⟨error, ends⟩ := exists_failed_of_not_succeeds works fails
    rw [← ending] at ends
    rw [CommandResult.complaint, ends, color]
    obtain ⟨rest, shown⟩ := Report.exists_text_eq error (usesColor invocation arguments)
    exact ⟨rfl, rfl, _, rest, usesColor_iff, shown⟩

/-- A run beside a folder of two files, of which the second one is to be filled. -/
def twoFiles (content : String) : Invocation where
  files := .folder [("work", .folder [("test", .folder
    [("a.js", .file "it('x');".toUTF8), ("b.js", .file content.toUTF8)])])]
  directory := "/home"
  arguments := ["--compact", "--cwd", "../work/test/.."]
  environment := [("FORCE_COLOR", "1")]

/--
Two tests are written with a line break behind them.  A suite without a body is a
failure, and the test of the first file is then recorded, but not written.
-/
theorem all_or_nothing_twoFiles :
    let arguments : Arguments := { directory := some "../work/test/..", switches := [.compact] }
    let whole := twoFiles "it('y');"
    let broken := twoFiles "describe('s');"
    Arguments.parse whole.arguments = .ok arguments ∧
      WorksIn whole arguments "/work" ∧ Colors whole arguments ∧
      (run whole).ending.status = 0 ∧
      (run whole).ending.output = "\x7b\"suites\":[],\"tests\":[\"x\",\"y\"]," ++
        "\"tree\":\x7b\"x\":\"test/a.js:1\",\"y\":\"test/b.js:1\"\x7d," ++
        "\"extendedTree\":\x7b" ++
        "\"x\":\x7b\"kind\":\"test\",\"sourceFile\":\"test/a.js\",\"sourceLine\":1\x7d," ++
        "\"y\":\x7b\"kind\":\"test\",\"sourceFile\":\"test/b.js\",\"sourceLine\":1\x7d\x7d\x7d\n" ∧
      (discovered broken "/work" { compact := true }).2.finish.tests = ["x"] ∧
      (run broken).ending.status = 1 ∧ (run broken).ending.output = "" ∧
      ∃ rest, (run broken).complaint = Report.inBoldRed Report.banner ++ "\n" ++ rest := by
  intro arguments whole broken
  let compact : Configuration := { compact := true }
  have parsed : Arguments.parse whole.arguments = .ok arguments := by
    decide +kernel
  have works (content : String) : WorksIn (twoFiles content) arguments "/work" :=
    worksIn_iff.mpr (show "/work" = directoryFor "/home" arguments by decide +kernel)
  have colors (content : String) : Colors (twoFiles content) arguments :=
    usesColor_iff.mp rfl
  have succeeds : Succeeds whole "/work" compact arguments
      ["/work/test/a.js", "/work/test/b.js"] := by
    refine ⟨rfl, by decide +kernel, by decide +kernel, ?_⟩
    unfold Loader.Loads
    decide +kernel
  have fails : ¬ ∃ configuration paths,
      Succeeds broken "/work" configuration arguments paths := by
    rintro ⟨configuration, paths, -, configured, isFound, loads⟩
    have isCompact : Configuration.load broken.files "/work" broken.environment arguments =
        .ok compact := by
      decide +kernel
    cases isCompact.symm.trans configured
    have both : searched? broken "/work" compact =
        some ["/work/test/a.js", "/work/test/b.js"] := by
      decide +kernel
    cases both.symm.trans isFound
    have second : ¬ (loaderFor broken "/work" compact).Loads "/work/test/b.js" := by
      unfold Loader.Loads
      decide +kernel
    exact second (loads _ (.tail _ (.head _)))
  obtain ⟨directory, inside, isWhole, -⟩ := all_or_nothing whole arguments parsed
  obtain ⟨directory', inside', -, isBroken⟩ := all_or_nothing broken arguments parsed
  obtain rfl : directory = "/work" :=
    (worksIn_iff.mp inside).trans (worksIn_iff.mp (works _)).symm
  obtain rfl : directory' = "/work" :=
    (worksIn_iff.mp inside').trans (worksIn_iff.mp (works _)).symm
  obtain ⟨discovery, ends, -, -, status, -, written⟩ := isWhole compact _ succeeds
  obtain ⟨failed, nothing, color, rest, colored, shown⟩ := isBroken fails
  rw [if_pos (colored.mpr (colors _))] at shown
  refine ⟨parsed, works _, colors _, status, ?_, by decide +kernel, failed, nothing, rest, shown⟩
  obtain rfl : (discovered whole "/work" compact).2 = discovery := congrArg Prod.snd ends
  rw [written]
  decide +kernel

end Command

end TestInventory
