import TestInventory.Command

/-!
# The command line

The program copies what a run can see of the file system into a file tree, runs
the command on it, and writes what it gives.
-/

namespace TestInventory

namespace CommandLine

structure Copied where
  tree : FileTree := .empty
  /-- The places of the folders of which all is copied. -/
  whole : List String := []

/-- The copying of what a path leads to, as far as there is something. -/
abbrev Copying := StateT Copied IO

def keep (place : String) (node : FileTree) : Copying Unit :=
  modify fun copied => { copied with tree := copied.tree.put node (Path.components place) }

/-- Where a path leads to without links, if there is something. -/
def realPlace? (path : String) : IO (Option String) :=
  try
    let place ← IO.FS.realPath path
    return some place.toString
  catch _ => return none

/-- Go along the pieces of a path, and keep the links and folders on the way. -/
def walk (here : String) : List String → Copying (Option String)
  | [] => return some here
  | piece :: rest => do
    let path := Path.clean (Path.join here piece)
    match ← realPlace? path with
    | none => return none
    | some place =>
      -- Links are kept with their ends, so that no link leads to another.
      if place != path then keep path (.link place)
      else if (← (← IO.FS.realPath place).isDir) && !(← get).tree.holds place then
        keep place .empty
      walk place rest

def entryAt? (place : String) (read : StateT (List String) IO FileTree) :
    StateT (List String) IO (Option FileTree) :=
  try
    return some (← read)
  catch error =>
    IO.eprintln (" WARN cannot read " ++ place ++ ": " ++ toString error)
    return none

/-- What stands at a place, and to what paths the links below it lead. -/
partial def nodeAt (place : String) : StateT (List String) IO FileTree := do
  let here ← IO.FS.realPath place
  match (← here.symlinkMetadata).type with
  | .dir =>
    let mut entries : List (String × FileTree) := []
    for entry in (← here.readDir) do
      let name := entry.fileName
      let path := Path.join place name
      match (← entry.path.symlinkMetadata).type with
      | .symlink =>
        if let some target ← realPlace? path then
          modify (target :: ·)
          entries := FileTree.insertEntry name (.link target) entries
      | .other => entries := FileTree.insertEntry name .special entries
      | _ =>
        if let some node ← entryAt? path (nodeAt path) then
          entries := FileTree.insertEntry name node entries
    return .folder entries
  | .other => return .special
  | _ => return .file (← IO.FS.readBinFile place)

partial def copyAll : List String → Copying Unit
  | [] => return
  | place :: places => do
    let names := Path.components place
    if (← get).whole.any fun folder => (Path.components folder).isPrefixOf names then
      copyAll places
    else
      let (node?, targets) ← (entryAt? place (nodeAt place)).run []
      if let some node := node? then keep place node
      modify fun copied => { copied with whole := place :: copied.whole }
      copyAll (targets ++ places)

def copyPath (path : String) : Copying Unit := do
  if let some place ← walk "/" (Path.pieces path) then copyAll [place]

/-- Copy what a run with these arguments looks at. -/
def copyFor (invocation : Invocation) (arguments : Arguments) : Copying Unit := do
  let directory := Command.directoryFor invocation.directory arguments
  copyPath (Configuration.filePath directory arguments.config)
  let files := (← get).tree
  if let .ok found := Configuration.load files directory invocation.environment arguments then
    let root := Path.join directory found.root
    for path in FileTree.candidates root found.searchOptions.extensions do copyPath path

def variableNames : List String :=
  let settings := Configuration.standardLayer.map fun (name, _) => Environment.mark ++ name
  Command.filterVariable :: Command.noColorVariable :: Command.forceColorVariable ::
    settings ++ settings.map String.toUpper

def environment : IO (List (String × String)) :=
  variableNames.filterMapM fun name => do return (← IO.getEnv name).map (name, ·)

/-- The directory in which the command is run, or why it cannot be told. -/
def currentDirectory : IO (String × Option String) :=
  try
    return ((← IO.currentDir).toString, none)
  catch
    -- The directory has been removed, and the host tells so in words of its own.
    | .noFileOrDirectory .. => return ("/", some ReadFailure.notFound.message)
    | error => return ("/", some (toString error))

def run (texts : List String) : IO UInt32 := do
  let (directory, lost) ← currentDirectory
  let invocation : Invocation :=
    { files := .empty, directory, lost, arguments := texts, environment := ← environment
      attended := ← (← IO.getStderr).isTty }
  let files ← match Arguments.parse texts with
    | .error _ => pure .empty
    | .ok arguments => do
      let (_, copied) ← (copyFor invocation arguments).run {}
      pure copied.tree
  let result := Command.run { invocation with files }
  IO.eprint result.log
  IO.eprint result.complaint
  IO.print result.ending.output
  return result.ending.status.toUInt32

end CommandLine

end TestInventory

def main (texts : List String) : IO UInt32 := TestInventory.CommandLine.run texts
