import TestInventory.Conduct
import TestInventory.Evaluation.Run
import TestInventory.Lookup
import TestInventory.Recorder

/-!
# Discovery

Discovery loads test files one after another into one recorder.  The first file
that fails ends a run, and the error names that file as it was given.
-/

namespace TestInventory

/-- How the code of a file is brought in. -/
inductive LoadForm where
  | immediate
  /-- As a module, named by a URL in call sites. -/
  | deferred
  deriving DecidableEq, Repr, Inhabited

inductive DiscoveryError where
  | unresolvedRoot (root : String)
  | load (path : String) (error : LoadError)
  deriving DecidableEq, Repr, Inhabited

namespace DiscoveryError

def message : DiscoveryError → String
  | .unresolvedRoot root => "cannot resolve path (or pattern) '" ++ root ++ "'"
  | .load path error => "failed to load " ++ path ++ ": " ++ error.message

end DiscoveryError

/--
What loads test files: it tells in which form a file is brought in, and it tells
a listener what a file declares that is brought in so.  It may keep account of the
files that it has brought in.
-/
class FileLoader (L : Type) where
  form : L → String → LoadForm
  loadAs {σ : Type} : L → LoadForm → Listener σ → String → σ → Outcome × σ
  after : L → String → L := fun loader _ => loader

/-- Tell a listener what a file declares, brought in as the loader sees fit. -/
def FileLoader.load {L σ : Type} [FileLoader L] (loader : L) (listener : Listener σ)
    (path : String) (heard : σ) : Outcome × σ :=
  loadAs loader (form loader path) listener path heard

/-- Loads test files under an interface, relative to a working directory. -/
structure Loader where
  files : FileTree
  interface : Interface := .bdd
  directory : String
  deriving Inhabited

namespace Loader

def form (path : String) : LoadForm :=
  if Path.extension? path = some "mjs" then .deferred else .immediate

def wholePath (loader : Loader) (path : String) : String :=
  Path.clean (Path.join loader.directory path)

/-- The file at a path with a given text, brought in in some form. -/
def sourceFileAs (loader : Loader) (form : LoadForm) (path : String) (text : String) :
    SourceFile :=
  let whole := loader.wholePath path
  { path := whole
    frameFile := match form with
      | .immediate => whole
      | .deferred => "file://" ++ whole
    text := text.toList
    -- Every other file is read as a module, however it is brought in.
    isScript := Path.extension? whole = some "cjs" }

def sourceFile (loader : Loader) (path : String) (text : String) : SourceFile :=
  loader.sourceFileAs (form path) path text

def resolver (loader : Loader) : Resolver := .ofDirectory loader.directory

def loadAs {σ : Type} (loader : Loader) (form : LoadForm) (listener : Listener σ)
    (path : String) (heard : σ) : Outcome × σ :=
  match loader.files.read (loader.wholePath path) with
  | .error failure => (.error (.read (loader.wholePath path) failure), heard)
  | .ok text =>
    let setting : Setting σ :=
      { file := loader.sourceFileAs form path text
        interface := loader.interface
        resolver := loader.resolver
        listener }
    setting.load heard

instance : FileLoader Loader where
  form _ := form
  loadAs := loadAs

def load {σ : Type} (loader : Loader) (listener : Listener σ) (path : String) (heard : σ) :
    Outcome × σ :=
  loader.loadAs (form path) listener path heard

end Loader

structure Discovery where
  recorder : Recorder := {}
  filesLoaded : Nat := 0
  deriving DecidableEq, Repr, Inhabited

namespace Discovery

/-- A run that has loaded nothing and reports files with a resolver. -/
def start (resolver : Resolver) : Discovery := { recorder := { resolver } }

/-- Record what code declares that belongs to no file. -/
def declare (discovery : Discovery) (conduct : Conduct) : Outcome × Discovery :=
  let (outcome, recorder) := conduct.run Recorder.listener discovery.recorder
  (outcome, { discovery with recorder })

section

variable {L : Type} [FileLoader L]

def loadFile (discovery : Discovery) (loader : L) (path : String) :
    Except DiscoveryError Unit × Discovery :=
  match FileLoader.load loader Recorder.listener path discovery.recorder with
  | (.ok (), recorder) => (.ok (), { recorder, filesLoaded := discovery.filesLoaded + 1 })
  | (.error error, recorder) => (.error (.load path error), { discovery with recorder })

/-- Load files in order up to the first that fails. -/
def loadFiles (discovery : Discovery) (loader : L) :
    List String → Except DiscoveryError Unit × Discovery
  | [] => (.ok (), discovery)
  | path :: paths =>
    match discovery.loadFile loader path with
    | (.ok (), discovery) => discovery.loadFiles (FileLoader.after loader path) paths
    | (.error error, discovery) => (.error error, discovery)

end

def finish (discovery : Discovery) : Inventory := discovery.recorder.finish

end Discovery

structure SearchOptions where
  extensions : Extensions := .standard
  recursive : Bool := true
  interface : Interface := .bdd
  deriving DecidableEq, Repr, Inhabited

/-- Load every test file below a root, as seen from a working directory. -/
def discover (files : FileTree) (directory root : String) (options : SearchOptions) :
    Except DiscoveryError Unit × Discovery :=
  let loader : Loader := { files, interface := options.interface, directory }
  let discovery := Discovery.start loader.resolver
  let root := Path.join directory root
  match files.lookup root options.extensions options.recursive with
  | none => (.error (.unresolvedRoot root), discovery)
  | some paths => discovery.loadFiles loader paths

end TestInventory
