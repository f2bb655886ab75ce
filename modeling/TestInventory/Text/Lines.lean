/-!
# Lines of a text

A line ends at a line feed; a carriage return just before the feed belongs to
the ending.  A text that ends in a line feed has no further, empty line.
-/

namespace TestInventory.Text

/-- A finished line without the carriage return of its ending. -/
def chopReturn (line : List Char) : List Char :=
  if line.getLast? = some '\r' then line.dropLast else line

/-- The lines of a text; `current` holds the characters of the open line, last first. -/
def linesFrom (current : List Char) : List Char → List (List Char)
  | [] => if current.isEmpty then [] else [current.reverse]
  | '\n' :: rest => chopReturn current.reverse :: linesFrom [] rest
  | c :: rest => linesFrom (c :: current) rest

def lines (text : List Char) : List (List Char) := linesFrom [] text

/-- Split at every separator; the parts between, before and after are all kept. -/
def splitAt {α : Type} [DecidableEq α] (separator : α) : List α → List (List α)
  | [] => [[]]
  | c :: rest =>
    if c = separator then [] :: splitAt separator rest
    else match splitAt separator rest with
      | [] => [[c]]
      | part :: parts => (c :: part) :: parts

def byteLength : List Char → Nat
  | [] => 0
  | c :: rest => c.utf8Size + byteLength rest

end TestInventory.Text
