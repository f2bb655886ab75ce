import TestInventory.Source.IdentifierTable

/-!
# Characters of a program

The classes that divide a program into tokens: line terminators, blanks, and
the characters of identifiers.
-/

namespace TestInventory.Source

def isLineTerminator (c : Char) : Bool :=
  c == '\n' || c == '\r' || c == '\u2028' || c == '\u2029'

/-- The blanks between tokens that do not end a line. -/
def isBlank (c : Char) : Bool :=
  let n := c.toNat
  n == 0x20 || n == 0x09 || n == 0x0B || n == 0x0C || n == 0x85 || n == 0xA0 ||
    n == 0x1680 || (0x2000 ≤ n && n ≤ 0x200B) || n == 0x202F || n == 0x205F ||
    n == 0x3000 || n == 0xFEFF

def isIdentifierStart (c : Char) : Bool :=
  let n := c.toNat
  if n < 0x80 then c.isAlpha || c == '_' || c == '$' else inRanges n letterRanges

def isIdentifierPart (c : Char) : Bool :=
  let n := c.toNat
  if n < 0x80 then c.isAlphanum || c == '_' || c == '$'
  else inRanges n letterRanges || inRanges n markRanges || n == 0x200C || n == 0x200D

end TestInventory.Source
