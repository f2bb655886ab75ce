/-!
# Declaration sites

A declaration carries the file and line of the code that made it.  The caller
hands over a call site: a stack of frames, a stack printed as text, or nothing.
-/

namespace TestInventory

structure Location where
  file : String
  /-- The line, counted from 1, or 0 when it is not known. -/
  line : Nat
  deriving DecidableEq, Repr, Inhabited

namespace Location

/-- The location that stands for lost provenance. -/
def unknown : Location := ⟨"unknown", 0⟩

def isUnknown (location : Location) : Bool :=
  location.line == 0 && location.file == "unknown"

def text (location : Location) : String := location.file ++ ":" ++ toString location.line

end Location

structure Frame where
  file : String
  line : Nat
  column : Nat
  function : Option String := none
  deriving DecidableEq, Repr, Inhabited

/-- What is known about the caller of a declaration. -/
inductive CallSite where
  | frames (stack : List Frame)
  /-- A printed stack, header lines included. -/
  | trace (text : String)
  | unknown
  deriving DecidableEq, Repr, Inhabited

end TestInventory
