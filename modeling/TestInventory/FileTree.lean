import TestInventory.Path
import TestInventory.Script

/-!
# File trees

A tree of folders, files, links and the few things that are none of these.  A
folder lists its entries by name.  A path is resolved component by component from
the top folder; links on the way are followed, a limited number of them.  A folder
is identified by the names that lead to it without links.

Names and the paths in links are strings, unless another kind of path texts is named.
-/

namespace TestInventory

inductive FileTree (ν : Type := String) where
  | file (content : ByteArray)
  /-- Something that is there but cannot be opened, such as a socket. -/
  | special
  | link (target : ν)
  /-- The entries of a folder; of two with one name the first counts. -/
  | folder (entries : List (ν × FileTree ν))

namespace FileTree

variable {ν : Type}

def empty : FileTree ν := .folder []

instance : Inhabited (FileTree ν) := ⟨empty⟩

def entries? : FileTree ν → Option (List (ν × FileTree ν))
  | .folder entries => some entries
  | _ => none

variable [DecidableEq ν]

/-- Put an entry at its place among others, instead of one of the same name. -/
def insertEntry {α : Type} [LT ν] [DecidableLT ν] (name : ν) (value : α) :
    List (ν × α) → List (ν × α)
  | [] => [(name, value)]
  | entry :: rest =>
    if name = entry.1 then (name, value) :: rest
    else if name < entry.1 then (name, value) :: entry :: rest
    else entry :: insertEntry name value rest

/-- Put a node where names lead, making folders on the way. -/
def put [LT ν] [DecidableLT ν] (tree : FileTree ν) (node : FileTree ν) : List ν → FileTree ν
  | [] => node
  | name :: names =>
    let entries := tree.entries?.getD []
    .folder (insertEntry name (((entries.lookup name).getD empty).put node names) entries)

/-- The node to which names lead, links not followed. -/
def at? (tree : FileTree ν) : List ν → Option (FileTree ν)
  | [] => some tree
  | name :: names => do
    let entries ← tree.entries?
    let node ← entries.lookup name
    node.at? names

variable [PathText ν]

/--
Go from a folder along pieces of a path.  `jump` takes over at a link, with the
place and the pieces that are then to be gone along.
-/
def descend (top : FileTree ν) (jump : List ν → List ν → Except ReadFailure (List ν))
    (here : List ν) : List ν → Except ReadFailure (List ν)
  | [] => .ok here
  | piece :: rest =>
    -- Even a piece that leads nowhere else has to stand behind a folder.
    match (top.at? here).bind entries? with
    | none => .error .notADirectory
    | some entries =>
      if piece = PathText.ofText "" ∨ piece = PathText.ofText "." then descend top jump here rest
      else if piece = PathText.ofText ".." then descend top jump here.dropLast rest
      else
        match entries.lookup piece with
        | none => .error .notFound
        | some (.link target) =>
          jump (if PathText.isAbsolute target then [] else here) (PathText.pieces target ++ rest)
        | some _ => descend top jump (here ++ [piece]) rest

/-- Go along pieces of a path and follow at most so many links. -/
def follow (top : FileTree ν) : (links : Nat) → List ν → List ν → Except ReadFailure (List ν)
  | 0 => top.descend fun _ _ => .error .tooManyLinks
  | links + 1 => top.descend (top.follow links)

def linkLimit : Nat := 40

/-- The names that lead to what a path means, without links. -/
def resolve (top : FileTree ν) (path : ν) : Except ReadFailure (List ν) :=
  if path = PathText.ofText "" then .error .notFound
  else top.follow linkLimit [] (PathText.pieces path)

def find? (top : FileTree ν) (path : ν) : Option (FileTree ν) :=
  (top.resolve path).toOption.bind top.at?

def holds (top : FileTree ν) (path : ν) : Bool := (top.find? path).isSome

def holdsFile (top : FileTree ν) (path : ν) : Bool :=
  match top.find? path with
  | some (.file _) => true
  | _ => false

def read (top : FileTree ν) (path : ν) : Except ReadFailure String := do
  let place ← top.resolve path
  match top.at? place with
  | some (.file content) =>
    match String.fromUTF8? content with
    | some text => .ok text
    | none => .error .notText
  | some .special => .error .noDevice
  | some _ => .error .isDirectory
  | none => .error .notFound

end FileTree

end TestInventory
