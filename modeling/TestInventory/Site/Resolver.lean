import TestInventory.Site
import TestInventory.Site.TraceLine
import TestInventory.Text.Lines

/-!
# From call sites to locations

The location of a declaration is the first frame of its call site that is not
internal to the host, with the file made relative to the working directory.
Resolution never fails: what cannot be read becomes the unknown location.
-/

namespace TestInventory

open TestInventory.Text

/-- Whether a frame of this file belongs to the host and not to a test file. -/
def isInternalFile (file : String) : Bool :=
  let name := file.toList
  "node:".toList.isPrefixOf name || "internal/".toList.isPrefixOf name || file == "native"

/-- Reports files relative to a working directory, if there is one. -/
structure Resolver where
  /-- The working directory with one slash behind it. -/
  base : Option String := none
  deriving DecidableEq, Repr, Inhabited

namespace Resolver

def absolute : Resolver := {}

/-- The resolver for a working directory; the empty one stands for none. -/
def ofDirectory (directory : String) : Resolver :=
  if directory.isEmpty then absolute
  else
    -- The top itself has nothing before its slash.
    let trimmed := (directory.toList.reverse.dropWhile (· = '/')).reverse
    { base := some (String.ofList (trimmed ++ ['/'])) }

/-- A file name without the mark of a file URL and without the working directory. -/
def relativize (resolver : Resolver) (file : String) : String :=
  let path := ("file://".toList.isPrefixOf? file.toList).getD file.toList
  match resolver.base with
  | none => String.ofList path
  | some base => String.ofList ((base.toList.isPrefixOf? path).getD path)

/-- The first frame of a printed stack that lies in a test file. -/
def traced? (text : String) : Option (String × Nat) :=
  let marked := (lines text.toList).filter fun line =>
    "at ".toList.isPrefixOf (line.dropWhile isWhite)
  (marked.filterMap TraceLine.parse?).find? fun (file, _) => !isInternalFile file

/-- The file and line that a call site gives, as the host named them. -/
def caller? : CallSite → Option (String × Nat)
  | .frames stack =>
    (stack.find? fun frame => !isInternalFile frame.file).map fun frame =>
      (frame.file, frame.line)
  | .trace text => traced? text
  | .unknown => none

def resolve (resolver : Resolver) (site : CallSite) : Location :=
  match caller? site with
  | some (file, line) =>
    if 0 < line ∧ file ≠ "" then ⟨resolver.relativize file, line⟩ else .unknown
  | none => .unknown

end Resolver

end TestInventory
