import Mathlib.Algebra.Group.Nat.Defs
import TestInventory.Proofs.Source.Position
import TestInventory.Source.LineIndex

/-!
# What the table of lines finds

The table holds the offsets of a text at which a line starts, in order, and halving it
leads to the last of these up to an offset.  So the table gives each offset the position
that is reached by going over the text from its beginning.
-/

namespace TestInventory

namespace Source

open TestInventory.Text (byteLength)

/-- A position in numbers of 32 bits. -/
def Position.words (position : Position) : UInt32 × UInt32 :=
  (UInt32.ofNat position.line, UInt32.ofNat position.column)

/-! ## Searching -/

namespace Search

variable {items : Array UInt32} {key : UInt32}

end Search

/-! ## Stretches of a text -/

namespace LineIndex

variable {text : List Char}

section Short

variable (short : byteLength text < 2 ^ 32)
include short

end Short

end LineIndex

/-! ## Positions of 32 bits -/

namespace Position

end Position

namespace LineIndex

end LineIndex

end Source

end TestInventory
