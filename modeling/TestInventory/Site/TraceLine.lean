import TestInventory.Text.Character

/-!
# Lines of a printed stack

A frame is printed as `at name (file:line:column)` or as `at file:line:column`,
after any white space and perhaps with `async ` behind `at `.  The name may hold
anything but a line feed, so the first ` (` that leaves a readable position
ends it; line and column are the last two groups of digits.
-/

namespace TestInventory.TraceLine

open TestInventory.Text

def splitLastColon? (text : List Char) : Option (List Char × List Char) :=
  match text.reverse.span (· ≠ ':') with
  | (after, ':' :: before) => some (before.reverse, after.reverse)
  | _ => none

/-- Whether a text is a non-empty run of digits of any script. -/
def isDigits (text : List Char) : Bool := !text.isEmpty && text.all isDigit

/--
Read `file:line:column` up to the end of the text.  The file is not empty and
holds no line feed; the line is returned as written.
-/
def position? (text : List Char) : Option (List Char × List Char) := do
  let (before, column) ← splitLastColon? text
  let (file, line) ← splitLastColon? before
  if isDigits column && isDigits line && !file.isEmpty && !file.contains '\n' then
    some (file, line)
  else none

/-- The positions read behind each ` (` that has a name before it, first one first. -/
def named? : List Char → Option (List Char × List Char)
  | [] => none
  | '\n' :: _ => none
  | _ :: rest =>
    -- The name has one character at least, so it is behind this one that it may end.
    match (match rest with
      | ' ' :: '(' :: inner =>
        if inner.getLast? = some ')' then position? inner.dropLast else none
      | _ => none) with
    | some found => some found
    | none => named? rest

/-- The readings of what follows `at `: past `async ` first, then as it stands. -/
def readings (text : List Char) : List (List Char) :=
  match "async ".toList.isPrefixOf? text with
  | some rest => [rest, text]
  | none => [text]

def lineNumber? (digits : List Char) : Option Nat :=
  (decimal? digits).filter (· < 0x100000000)

def parse? (line : List Char) : Option (String × Nat) := do
  let text ← "at ".toList.isPrefixOf? (line.dropWhile isWhite)
  let candidates := readings text
  let (file, digits) ← (candidates.findSome? named?).or (candidates.findSome? position?)
  -- A number that does not fit is not read in another way.
  let number ← lineNumber? digits
  some (String.ofList file, number)

end TestInventory.TraceLine
