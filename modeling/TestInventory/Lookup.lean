import TestInventory.FileTree

/-!
# Looking up test files

`lookup` finds the files below a root whose names end in one of the wanted
extensions.  The entries of a folder are walked in the order of their names, and
folders are descended where they stand among their siblings.  A link is followed
unless it is broken or leads back to a folder that is open.
-/

namespace TestInventory

/-- The extensions that are searched for, written without the dot before them. -/
structure Extensions where
  words : List String
  deriving DecidableEq, Repr, Inhabited

namespace Extensions

def trimDots (word : String) : String := String.ofList (word.toList.dropWhile (· = '.'))

def ofWords (words : List String) : Extensions := ⟨words.map trimDots⟩

def standard : Extensions := ofWords ["js", "cjs", "mjs"]

/-- Whether a file name ends in a dot and one of the extensions. -/
def matchName (extensions : Extensions) (name : String) : Bool :=
  extensions.words.any fun word => ("." ++ word).toList.isSuffixOf name.toList

/-- Whether a file of this name is wanted; hidden files are not. -/
def wants (extensions : Extensions) (name : String) : Bool :=
  name.toList.head? != some '.' && extensions.matchName name

end Extensions

namespace FileTree

variable {ν : Type} [DecidableEq ν]

section Order

variable [LT ν] [DecidableLT ν] {α : Type}

def inOrder (entries : List (ν × α)) : List (ν × α) :=
  entries.foldr (fun entry => insertEntry entry.1 entry.2) []

/-- The ways through a folder: its entries one after another, each with the ways behind it. -/
def gather (entries : List (ν × List (List ν))) : List (List ν) :=
  (inOrder entries).flatMap fun (name, ways) => ways.map (name :: ·)

end Order

mutual

/-- The places of the folders in a tree that stands at a place. -/
def foldersFrom (here : List ν) : FileTree ν → List (List ν)
  | .folder entries => here :: foldersAmong here entries
  | _ => []

def foldersAmong (here : List ν) : List (ν × FileTree ν) → List (List ν)
  | [] => []
  | (name, node) :: rest => node.foldersFrom (here ++ [name]) ++ foldersAmong here rest

end

def folders (top : FileTree ν) : List (List ν) := top.foldersFrom []

variable [LT ν] [DecidableLT ν] [PathText ν]

/-- How a folder is walked to which a link leads: its path, the open folders, its place. -/
abbrev Jump (ν : Type) := ν → List (List ν) → List ν → List (ν × FileTree ν) → List (List ν)

section Walk

variable (top : FileTree ν) (recursive : Bool) (jump : Jump ν)

mutual

def walkEntries (path : ν) (opened : List (List ν)) (here : List ν) :
    List (ν × FileTree ν) → List (ν × List (List ν))
  | [] => []
  | (name, node) :: rest =>
    (name, node.walkNode (PathText.join path name) opened (here ++ [name])) ::
      walkEntries path opened here rest

/-- The ways to the files in a node; a file has the empty way. -/
def walkNode (path : ν) (opened : List (List ν)) (here : List ν) : FileTree ν → List (List ν)
  | .file _ => [[]]
  | .special => []
  | .folder entries =>
    if recursive then gather (walkEntries path (here :: opened) here entries) else []
  | .link _ =>
    match top.resolve path with
    | .error _ => []
    | .ok place =>
      match top.at? place with
      | some (.file _) => [[]]
      | some (.folder entries) =>
        -- A folder that is open would be walked without end.
        if !recursive || opened.contains place then []
        else jump path (place :: opened) place entries
      | _ => []

end

end Walk

/--
The ways to the files below a folder, given by the names of the entries gone through.
Every link to a folder on a way uses up one of a limited number.
-/
def walk (top : FileTree ν) (recursive : Bool) : (links : Nat) → Jump ν
  | 0, path, opened, here, entries =>
    gather (walkEntries top recursive (fun _ _ _ _ => []) path opened here entries)
  | links + 1, path, opened, here, entries =>
    gather (walkEntries top recursive (walk top recursive links) path opened here entries)

def along (root : ν) (way : List ν) : ν := way.foldl PathText.join root

/-- Whether a way ends at the name of a wanted file; a name that cannot be read is not wanted. -/
def wantsEnd (extensions : Extensions) (way : List ν) : Bool :=
  (way.getLast?.bind PathText.text?).any extensions.wants

def extended (root : ν) (word : String) : ν := root ++ PathText.ofText "." ++ PathText.ofText word

/-- What a root may mean: itself, or itself with one of the extensions behind it. -/
def candidates (root : ν) (extensions : Extensions) : List ν :=
  root :: extensions.words.map (extended root)

/--
The files below a root.  A root that is a file stands for itself, and a special one
for nothing.  A root that does not exist is tried with each extension behind it;
`none` when nothing of that kind exists either.
-/
def lookup (top : FileTree ν) (root : ν) (extensions : Extensions) (recursive : Bool) :
    Option (List ν) := do
  let root ← (candidates root extensions).find? top.holds
  let place ← (top.resolve root).toOption
  match top.at? place with
  | some (.folder entries) =>
    -- As many links as there are folders: none is opened twice over a link.
    let ways := top.walk recursive top.folders.length root [place] place entries
    some ((ways.filter (wantsEnd extensions)).map (along root))
  | some (.file _) => some [root]
  | _ => some []

end FileTree

end TestInventory
