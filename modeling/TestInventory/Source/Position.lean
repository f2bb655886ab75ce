import TestInventory.Text.Lines

/-!
# Positions in a text

Offsets count UTF-8 bytes.  Lines are counted from 1 and end at a line feed;
columns count characters from 1.  An offset inside a character or beyond the
end of the text has no column of its own and is given column 1.

Here a text is gone over from its beginning for every position.  The table in
`TestInventory.Source.LineIndex` gives the same positions faster.
-/

namespace TestInventory.Source

structure Position where
  line : Nat := 1
  column : Nat := 1
  deriving DecidableEq, Repr, Inhabited

namespace Position

def after (position : Position) (c : Char) : Position :=
  if c = '\n' then ⟨position.line + 1, 1⟩ else ⟨position.line, position.column + 1⟩

/-- The position `distance` bytes behind `here`, which stands before `text`. -/
def advance (here : Position) : List Char → (distance : Nat) → Position
  | _, 0 => here
  | [], _ + 1 => ⟨here.line, 1⟩
  | c :: text, distance =>
    if c.utf8Size ≤ distance then (here.after c).advance text (distance - c.utf8Size)
    else ⟨here.line, 1⟩

def ofOffset (text : List Char) (offset : Nat) : Position := advance {} text offset

end Position

/-- The characters behind the first `distance` bytes, when these end with a character. -/
def dropBytes? : List Char → (distance : Nat) → Option (List Char)
  | text, 0 => some text
  | [], _ + 1 => none
  | c :: text, distance =>
    if c.utf8Size ≤ distance then dropBytes? text (distance - c.utf8Size) else none

def takeBytes? : List Char → (distance : Nat) → Option (List Char)
  | _, 0 => some []
  | [], _ + 1 => none
  | c :: text, distance =>
    if c.utf8Size ≤ distance then (takeBytes? text (distance - c.utf8Size)).map (c :: ·)
    else none

/-- A stretch of a text, from a byte offset up to another. -/
structure Span where
  start : Nat
  stop : Nat
  deriving DecidableEq, Repr, Inhabited

namespace Span

/-- The characters of a stretch; none when an end is not between characters. -/
def slice? (span : Span) (text : List Char) : Option (List Char) :=
  if span.start ≤ span.stop then
    (dropBytes? text span.start).bind (takeBytes? · (span.stop - span.start))
  else none

end Span

end TestInventory.Source
