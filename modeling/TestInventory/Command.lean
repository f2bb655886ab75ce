import TestInventory.Inventory.Json
import TestInventory.LogFilter
import TestInventory.Report

/-!
# The command

A run of the command lists what the test files below a directory declare.  Its
result is text for the standard output, or a failure, and warnings on the way.
-/

namespace TestInventory

/-- What a run of the command is given. -/
structure Invocation where
  files : FileTree
  directory : String
  /-- Why that directory cannot be told, in the host's words, if it cannot. -/
  lost : Option String := none
  arguments : List String
  environment : List (String × String) := []
  /-- Whether the standard error is a terminal. -/
  attended : Bool := false
  deriving Inhabited

inductive Ending where
  | done (output : String)
  | failed (error : CommandError)
  | misused (error : ArgumentError)
  | helped
  deriving DecidableEq, Repr, Inhabited

structure CommandResult where
  ending : Ending
  warnings : List Notice := []
  color : Bool := false
  deriving DecidableEq, Repr, Inhabited

namespace Ending

def status : Ending → Nat
  | .done _ => 0
  | .helped => 0
  | .failed _ => 1
  | .misused _ => 2

def helpText : String :=
  "\n".intercalate
    ["testmap loads every test file under ROOT, records each describe/it/hook",
      "declaration with the file and line it came from, and prints the suites,",
      "the tests and the declaration tree as JSON. Test and hook bodies never run.",
      "",
      "Usage: testmap [OPTIONS] [ROOT]",
      "",
      "  -e, --extension <EXT>  File extension to include (repeatable, or comma separated)",
      "      --no-recursive     Only scan the top level of ROOT",
      "      --ui <UI>          Mocha interface the files are written against: bdd, tdd",
      "      --compact          Print JSON on a single line",
      "  -c, --config <FILE>    Path to a config file (defaults to ./testmap.toml when present)",
      "      --cwd <DIR>        Working directory for relative paths and reported files",
      "  -v, --verbose          Show warnings whatever the environment says",
      "  -q, --quiet            Suppress all log output except errors",
      "      --no-color         Disable colored output",
      "  -h, --help             Print help",
      "  -V, --version          Print version",
      ""]

def misuseText : String := "error: these arguments are not understood (try --help for help)\n"

def output : Ending → String
  | .done output => output
  | .helped => helpText
  | .failed _ => ""
  | .misused _ => ""

/-- What is written to the standard error, besides warnings. -/
def complaint (color : Bool) : Ending → String
  | .done _ => ""
  | .helped => ""
  | .failed error => Report.text error color
  | .misused _ => misuseText

end Ending

def CommandResult.complaint (result : CommandResult) : String :=
  result.ending.complaint result.color

/-- What is written to the standard error on the way. -/
def CommandResult.log (result : CommandResult) : String :=
  String.join (result.warnings.map fun warning => " WARN " ++ warning.message ++ "\n")

namespace Command

def versionLine : String := "testmap 0.4.1\n"

/-- The name under which warnings are logged. -/
def logSource : String := "testmap_js::evaluator"

def filterVariable : String := "RUST_LOG"

/-- Whether warnings are shown: as the arguments say, or else as the filter does. -/
def showsWarnings (arguments : Arguments) (environment : List (String × String)) : Bool :=
  if arguments.has .verbose then true
  else if arguments.has .quiet then false
  else match (environment.lookup filterVariable).bind LogFilter.parse? with
    | some filter => filter.showsWarnings logSource
    | none => true

/-- The variable that turns colors off, whatever its text. -/
def noColorVariable : String := "NO_COLOR"

/-- The variable that turns colors on, whatever its text. -/
def forceColorVariable : String := "FORCE_COLOR"

def usesColor (invocation : Invocation) (arguments : Arguments) : Bool :=
  if arguments.has .noColor then false
  else if (invocation.environment.lookup noColorVariable).isSome then false
  else if (invocation.environment.lookup forceColorVariable).isSome then true
  else invocation.attended

def warningsOf (events : List Event) : List Notice :=
  events.filterMap fun
    | .noticed notice => if notice.isWarning then some notice else none
    | .declared .. => none

/-- The working directory: the one in which the command is run, unless arguments name one. -/
def directoryFor (directory : String) (arguments : Arguments) : String :=
  match arguments.directory with
  | none => directory
  | some named => Path.clean (Path.join directory named)

/-- Run the command with arguments that are understood. -/
def list (invocation : Invocation) (arguments : Arguments) : CommandResult :=
  if let some reason := invocation.lost then { ending := .failed (.directoryLost reason) }
  else
  let directory := directoryFor invocation.directory arguments
  match Configuration.load invocation.files directory invocation.environment arguments with
  | .error error => { ending := .failed (.configuration error) }
  | .ok configuration =>
    let (outcome, discovery) :=
      discover invocation.files directory configuration.root configuration.searchOptions
    -- Files before one that fails have given their warnings by then.
    let shown := showsWarnings arguments invocation.environment
    let warnings := if shown then warningsOf discovery.recorder.events else []
    match outcome with
    | .error error => { ending := .failed (.discovery error), warnings }
    | .ok () =>
      { ending := .done (discovery.finish.render configuration.compact ++ "\n"), warnings }

def run (invocation : Invocation) : CommandResult :=
  match Arguments.parse invocation.arguments with
  | .error .versionWanted => { ending := .done versionLine }
  | .error .helpWanted => { ending := .helped }
  | .error error => { ending := .misused error }
  | .ok arguments =>
    { list invocation arguments with color := usesColor invocation arguments }

end Command

end TestInventory
