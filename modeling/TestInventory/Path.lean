import TestInventory.Text.Lines

/-!
# Paths

A path is text whose components are divided by slashes.  `join` puts a path
behind a base, `clean` removes what can be removed without looking at files.

A file system does not ask that its names can be read.  What it does with paths is
therefore said of any texts that can be put together and taken apart in this way
(`PathText`): of strings, and of rows of bytes.
-/

namespace TestInventory

namespace Path

def isAbsolute (path : String) : Bool := path.toList.head? = some '/'

/-- A path seen from a base; an absolute path stands for itself. -/
def join (base path : String) : String :=
  if isAbsolute path then path
  else if base.isEmpty || base.toList.getLast? = some '/' then base ++ path
  else base ++ "/" ++ path

/-- Everything between slashes, empty pieces included. -/
def pieces (path : String) : List String :=
  (Text.splitAt '/' path.toList).map String.ofList

def components (path : String) : List String :=
  (pieces path).filter fun piece => piece != "" && piece != "."

/-- Go to a component from a place, given innermost first. -/
def step (absolute : Bool) (place : List String) (component : String) : List String :=
  if component = ".." then
    match place with
    | [] => if absolute then [] else [component]
    | inner :: outer => if inner = ".." then component :: place else outer
  else component :: place

/-- A path without empty pieces, and with every step up taken where that is possible. -/
def clean (path : String) : String :=
  let absolute := isAbsolute path
  let place := (components path).foldl (step absolute) []
  let body := "/".intercalate place.reverse
  if absolute then "/" ++ body else if place.isEmpty then "." else body

def fileName? (path : String) : Option String :=
  (components path).getLast?.filter (· != "..")

/-- What stands behind the last dot of a file name, unless the name only starts with that dot. -/
def extension? (path : String) : Option String := do
  let name ← fileName? path
  let reversed := name.toList.reverse
  match reversed.dropWhile (· != '.') with
  | _ :: _ :: _ => some (String.ofList (reversed.takeWhile (· != '.')).reverse)
  | _ => none

end Path

/-- Texts that paths are written in, and the names in them. -/
class PathText (ν : Type) extends Append ν where
  ofText : String → ν
  /-- What can be read of a path: all of it, or nothing. -/
  text? : ν → Option String
  pieces : ν → List ν
  isAbsolute : ν → Bool
  join : ν → ν → ν

def PathText.components {ν : Type} [DecidableEq ν] [PathText ν] (path : ν) : List ν :=
  (pieces path).filter fun piece => piece != ofText "" && piece != ofText "."

instance : PathText String where
  ofText text := text
  text? := some
  pieces := Path.pieces
  isAbsolute := Path.isAbsolute
  join := Path.join

structure BytePath where
  bytes : List UInt8
  deriving DecidableEq, Repr, Inhabited

namespace BytePath

def slash : UInt8 := '/'.toUInt8

def ofText (text : String) : BytePath := ⟨text.toUTF8.data.toList⟩

/-- Paths are in the order of their bytes. -/
instance : LT BytePath where
  lt path other := path.bytes < other.bytes

instance (path other : BytePath) : Decidable (path < other) :=
  inferInstanceAs (Decidable (path.bytes < other.bytes))

def isAbsolute (path : BytePath) : Bool := path.bytes.head? = some slash

instance : PathText BytePath where
  append path other := ⟨path.bytes ++ other.bytes⟩
  ofText := ofText
  text? path := String.fromUTF8? ⟨path.bytes.toArray⟩
  pieces path := (Text.splitAt slash path.bytes).map BytePath.mk
  isAbsolute := isAbsolute
  join base path :=
    if isAbsolute path then path
    else if base.bytes.isEmpty || base.bytes.getLast? = some slash then ⟨base.bytes ++ path.bytes⟩
    else ⟨base.bytes ++ slash :: path.bytes⟩

end BytePath

end TestInventory
