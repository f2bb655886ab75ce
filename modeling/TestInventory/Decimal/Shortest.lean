/-!
# Shortest decimals

A binary floating-point number stands for every real that rounds to it.  Its
shortest decimal is the one with the fewest digits among those reals, and the
nearest of these to the number.  Everything is computed exactly on naturals.
-/

namespace TestInventory

/-- The decimal `digits * 10 ^ exponent`. -/
structure Decimal where
  digits : Nat
  exponent : Int
  deriving DecidableEq, Repr, Inhabited

namespace Decimal

/-- A positive binary number `mantissa * 2 ^ exponent`. -/
structure Binary where
  mantissa : Nat
  exponent : Int
  /-- Whether the next smaller number is only half as far away as the next larger one. -/
  narrow : Bool
  deriving DecidableEq, Repr, Inhabited

namespace Binary

/-- The numerator and the denominator of a quarter of the last place. -/
def quarter (x : Binary) : Nat × Nat :=
  if 2 ≤ x.exponent then (Nat.pow 2 (x.exponent - 2).toNat, 1)
  else (1, Nat.pow 2 (2 - x.exponent).toNat)

/-- The least number of quarters that still rounds to the number. -/
def low (x : Binary) : Nat := 4 * x.mantissa - if x.narrow then 1 else 2

def high (x : Binary) : Nat := 4 * x.mantissa + 2

def wholeDigits (numerator denominator : Nat) : Nat :=
  (Nat.toDigits 10 (numerator / denominator)).length

/-- How many places the point must move right before the quotient reaches 1; at most `bound`. -/
def leadingPlaces (numerator denominator : Nat) : (bound : Nat) → Nat
  | 0 => 0
  | bound + 1 =>
    if denominator ≤ numerator then 0
    else leadingPlaces (10 * numerator) denominator bound + 1

/-- The power of ten just above the number: it lies in `[10 ^ (e - 1), 10 ^ e)`. -/
def magnitude (x : Binary) : Int :=
  let (top, bottom) := x.quarter
  let numerator := 4 * x.mantissa * top
  if bottom ≤ numerator then wholeDigits numerator bottom
  else 1 - (leadingPlaces numerator bottom 400 : Int)

/--
The decimal with `count` digits that rounds to the number, if there is one: of
the two neighbours of the number on the grid the nearer, of equally near ones
the even one.
-/
def onGrid? (x : Binary) (magnitude : Int) (count : Nat) : Option Decimal :=
  let (top, bottom) := x.quarter
  let exponent := magnitude - count
  let scaleTop := if exponent < 0 then top * Nat.pow 10 (-exponent).toNat else top
  let scaleBottom := if exponent < 0 then bottom else bottom * Nat.pow 10 exponent.toNat
  let value := 4 * x.mantissa * scaleTop
  let below := value / scaleBottom
  let above := below + 1
  let closed := x.mantissa % 2 == 0
  let lowFits := if closed then x.low * scaleTop ≤ below * scaleBottom
    else x.low * scaleTop < below * scaleBottom
  let highFits := if closed then above * scaleBottom ≤ x.high * scaleTop
    else above * scaleBottom < x.high * scaleTop
  let down := value - below * scaleBottom
  let up := above * scaleBottom - value
  if lowFits ∧ highFits then
    some ⟨if down < up ∨ (down = up ∧ below % 2 = 0) then below else above, exponent⟩
  else if lowFits then some ⟨below, exponent⟩
  else if highFits then some ⟨above, exponent⟩
  else none

def shortest (x : Binary) : Decimal :=
  let magnitude := x.magnitude
  ((List.range 17).findSome? fun n => x.onGrid? magnitude (n + 1)).getD
    ⟨x.mantissa, x.exponent⟩

/-- The binary number with the given bits, for a finite number other than zero. -/
def ofBits (bits : Nat) : Binary :=
  let fraction : Nat := bits % 0x10000000000000
  let biased : Nat := bits / 0x10000000000000 % 0x800
  if biased = 0 then ⟨fraction, -1074, false⟩
  else ⟨0x10000000000000 + fraction, (biased : Int) - 1075, decide (fraction = 0 ∧ 1 < biased)⟩

end Binary

/-- The same decimal without zeros at the end of its digits; looks at most `bound` places. -/
def trim (x : Decimal) : (bound : Nat) → Decimal
  | 0 => x
  | bound + 1 =>
    if x.digits % 10 = 0 ∧ x.digits ≠ 0 then
      trim ⟨x.digits / 10, x.exponent + 1⟩ bound
    else x

end Decimal

end TestInventory
