import TestInventory.Configuration.Arguments
import TestInventory.Configuration.Environment
import TestInventory.Discovery
import TestInventory.Toml

/-!
# Configuration

What the command is to do is gathered from four sources.  Each one overrides
those before it: what is standard, a file, the environment, the arguments.  Only
the value that remains for a setting must be of the right form.
-/

namespace TestInventory

structure Configuration where
  root : String := "test"
  extensions : List String := Extensions.standard.words
  recursive : Bool := true
  interface : Interface := .bdd
  /-- Whether the inventory is written on one line. -/
  compact : Bool := false
  deriving DecidableEq, Repr, Inhabited

inductive ConfigurationError where
  | fileNotFound (path : String)
  /-- The file cannot be read, or a setting has a value of the wrong form. -/
  | invalid
  | noExtensions
  deriving DecidableEq, Repr, Inhabited

namespace ConfigurationError

/-- The wording of an error, without what it concerns. -/
def detail : ConfigurationError → String
  | .fileNotFound path =>
    "Config file not found: " ++ path ++ "\n\nHint: Create a testmap.toml file or drop --config"
  | .invalid =>
    "Invalid configuration: a value has the wrong form\n\n" ++
      "Hint: Check testmap.toml syntax and TESTMAP_* variables"
  | .noExtensions =>
    "No file extensions configured\n\n" ++
      "Hint: Pass --extension js or set `extensions` in testmap.toml"

def message (error : ConfigurationError) : String := "Configuration error: " ++ error.detail

end ConfigurationError

namespace Configuration

/-- The file that is read when the arguments name none. -/
def fileName : String := "testmap.toml"

def standardLayer : ConfigLayer :=
  let standard : Configuration := {}
  [("root", .text standard.root), ("extensions", .list (standard.extensions.map .text)),
    ("recursive", .boolean standard.recursive), ("ui", .text standard.interface.name),
    ("compact", .boolean standard.compact)]

def argumentLayer (arguments : Arguments) : ConfigLayer :=
  let named := arguments.namedExtensions
  (arguments.root.map fun root => ("root", .text root)).toList ++
    (if arguments.extensions.isEmpty then [] else [("extensions", .list (named.map .text))]) ++
    (if arguments.has .noRecursive then [("recursive", .boolean false)] else []) ++
    (arguments.interface.map fun interface => ("ui", .text interface.name)).toList ++
    (if arguments.has .compact then [("compact", .boolean true)] else [])

def filePath (directory : String) (named : Option String) : String :=
  Path.join directory (named.getD fileName)

/-- The values of a file; none when there is no file to read. -/
def fileLayer (files : FileTree) (directory : String) (named : Option String) :
    Except ConfigurationError ConfigLayer :=
  let path := filePath directory named
  if files.holdsFile path then
    match (files.read path).toOption.bind Toml.parse? with
    | some layer => .ok layer
    | none => .error .invalid
  else if named.isSome then .error (.fileNotFound path)
  else .ok []

/-- The value that layers leave for a setting; the last one counts. -/
def lastValue? (layers : List ConfigLayer) (name : String) : Option ConfigValue :=
  layers.flatten.reverse.lookup name

def ofLayers? (layers : List ConfigLayer) : Option Configuration := do
  return { root := ← (← lastValue? layers "root").text?
           extensions := ← (← lastValue? layers "extensions").texts?
           recursive := ← (← lastValue? layers "recursive").boolean?
           interface := ← (← (← lastValue? layers "ui").text?) |> Interface.ofName?
           compact := ← (← lastValue? layers "compact").boolean? }

def load (files : FileTree) (directory : String) (environment : List (String × String))
    (arguments : Arguments) : Except ConfigurationError Configuration := do
  let fromFile ← fileLayer files directory arguments.config
  let layers := [standardLayer, fromFile, Environment.layer environment, argumentLayer arguments]
  match ofLayers? layers with
  | none => throw .invalid
  | some configuration =>
    if configuration.extensions.isEmpty then throw .noExtensions
    return configuration

def searchOptions (configuration : Configuration) : SearchOptions where
  extensions := .ofWords configuration.extensions
  recursive := configuration.recursive
  interface := configuration.interface

end Configuration

end TestInventory
