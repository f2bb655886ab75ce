import TestInventory.Source.Position

/-!
# The table of lines

A text that is asked for many positions is read once, and the offsets at which its
lines start are kept.  The line of an offset is then found by halving the table, and
only the characters of that line are counted.  All numbers have 32 bits.
-/

namespace TestInventory.Source

/-- Where a key stands in a sorted table, or where it would have to be put. -/
inductive Search where
  | found (index : Nat)
  | missing (index : Nat)
  deriving DecidableEq, Repr, Inhabited

namespace Search

/-- Halve the `size` items from `base` on until one is left, the last that can be up to the key. -/
def narrow (items : Array UInt32) (key : UInt32) (base size : Nat)
    (inside : base + size ≤ items.size) : Nat :=
  if large : 1 < size then
    let half := size / 2
    if key < items[base + half] then narrow items key base (size - half) (by omega)
    else narrow items key (base + half) (size - half) (by omega)
  else base
termination_by size

theorem narrow_lt {items : Array UInt32} {key : UInt32} {base size : Nat}
    {inside : base + size ≤ items.size} (nonempty : 0 < size) :
    narrow items key base size inside < items.size := by
  fun_induction narrow items key base size inside with
  | case1 base size inside large half below ih => exact ih (by omega)
  | case2 base size inside large half below ih => exact ih (by omega)
  | case3 base size inside small => omega

def inTable (items : Array UInt32) (key : UInt32) : Search :=
  if nonempty : 0 < items.size then
    let last := narrow items key 0 items.size (Nat.le_of_eq (Nat.zero_add _))
    have inside : last < items.size := narrow_lt nonempty
    if items[last] = key then .found last
    else if items[last] < key then .missing (last + 1)
    else .missing last
  else .missing 0

/-- The item that a key belongs to: its own, or the one before its place. -/
def upTo : Search → Nat
  | .found index => index
  | .missing 0 => 0
  | .missing (index + 1) => index

theorem upTo_missing_le (index : Nat) : (missing index).upTo ≤ index := by
  cases index with
  | zero => exact Nat.le_refl 0
  | succ index => exact Nat.le_succ index

theorem upTo_inTable_lt {items : Array UInt32} {key : UInt32} (nonempty : 0 < items.size) :
    (inTable items key).upTo < items.size := by
  have inside : narrow items key 0 items.size (Nat.le_of_eq (Nat.zero_add _)) < items.size :=
    narrow_lt nonempty
  rw [inTable, dif_pos nonempty]
  dsimp only
  split
  · exact inside
  · split
    · exact inside
    · exact Nat.lt_of_le_of_lt (upTo_missing_le _) inside

end Search

/-- The offsets at which the lines of a text start. -/
structure LineIndex where
  lineStarts : Array UInt32
  nonempty : 0 < lineStarts.size

namespace LineIndex

/-- The offsets just behind the line feeds of a text, which itself stands at an offset. -/
def behindFeeds (offset : Nat) : List Char → List Nat
  | [] => []
  | c :: text =>
    let later := behindFeeds (offset + c.utf8Size) text
    if c = '\n' then (offset + 1) :: later else later

def startsOf (text : List Char) : List Nat := 0 :: behindFeeds 0 text

def ofText (text : List Char) : LineIndex where
  lineStarts := ((startsOf text).map UInt32.ofNat).toArray
  nonempty := Nat.succ_pos _

/-- The number of the line of an offset, counted from 0. -/
def lineAt (index : LineIndex) (offset : UInt32) : Nat :=
  (Search.inTable index.lineStarts offset).upTo

theorem lineAt_lt (index : LineIndex) (offset : UInt32) :
    index.lineAt offset < index.lineStarts.size :=
  Search.upTo_inTable_lt index.nonempty

/-- The line and the column of an offset, both counted from 1. -/
def lineColumn (index : LineIndex) (offset : UInt32) (text : List Char) : UInt32 × UInt32 :=
  let line := index.lineAt offset
  have inside : line < index.lineStarts.size := index.lineAt_lt offset
  let start := index.lineStarts[line]
  -- There is no such stretch if the offset is inside a character or beyond the end.
  let stretch := (Span.mk start.toNat offset.toNat).slice? text
  let characters := stretch.map fun taken => UInt32.ofNat taken.length
  (UInt32.ofNat (line + 1), characters.getD 0 + 1)

def line (index : LineIndex) (offset : UInt32) (text : List Char) : UInt32 :=
  (index.lineColumn offset text).1

end LineIndex

end TestInventory.Source
