import TestInventory.Text.Character

/-!
# Numerals

The number that a numeric literal of a program stands for.  A whole number with
more digits than fit a 64-bit word is summed up digit by digit, each sum being
rounded to a floating-point number; all others are rounded once.
-/

namespace TestInventory.Source.Numeral

open TestInventory.Text

/-- Round to 53 significant bits, a tie to the even neighbour. -/
def round53 (n : Nat) : Nat :=
  let shift := Nat.log2 n - 52
  let unit := Nat.pow 2 shift
  let low := n / unit
  let rest := n % unit
  if 2 * rest < unit ∨ (2 * rest = unit ∧ low % 2 = 0) then low * unit
  else (low + 1) * unit

def digitValues (digits : List Char) : List Nat := digits.filterMap hexValue?

/-- A whole number in a base; `longest` digits at most are rounded together. -/
def whole (base longest : Nat) (digits : List Char) : Float :=
  let values := digitValues digits
  if values.length ≤ longest then
    Float.ofNat (values.foldl (fun n d => base * n + d) 0)
  else Float.ofNat (values.foldl (fun n d => round53 (base * n + d)) 0)

/--
The number written by the digits of a whole part and of a fraction and by a
power of ten.  Powers beyond the range of floating-point numbers are not raised.
-/
def scientific (wholePart fraction : List Char) (power : Int) : Float :=
  let digits := digitValues (wholePart ++ fraction)
  let mantissa := digits.foldl (fun n d => 10 * n + d) 0
  let exponent := power - fraction.length
  let reach := exponent + digits.length
  if mantissa = 0 then 0
  else if reach < -400 then 0
  else if 0 < exponent then
    if 400 < exponent then Float.ofBits 0x7FF0000000000000
    else Float.ofScientific (mantissa * Nat.pow 10 exponent.toNat) false 0
  else Float.ofScientific mantissa true exponent.natAbs

end TestInventory.Source.Numeral
