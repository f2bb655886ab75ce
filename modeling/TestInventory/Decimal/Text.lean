import TestInventory.Decimal.Shortest

/-!
# Numbers as text

A number is written with the digits of its shortest decimal.  Numbers from
`1e-6` up to, and without, `1e21` are written without an exponent.  Both zeros
are written `0`.
-/

namespace TestInventory

namespace Decimal

/-- The text of the decimal digits `digits` with the point `point` places behind their start. -/
def place (digits : List Char) (point : Int) : List Char :=
  let count : Int := digits.length
  if count ≤ point ∧ point ≤ 21 then digits ++ List.replicate (point - count).toNat '0'
  else if 0 < point ∧ point ≤ 21 then
    digits.take point.toNat ++ '.' :: digits.drop point.toNat
  else if -6 < point ∧ point ≤ 0 then
    '0' :: '.' :: (List.replicate (-point).toNat '0' ++ digits)
  else
    let power := point - 1
    let exponent := (if power < 0 then '-' else '+') :: Nat.toDigits 10 power.natAbs
    match digits with
    | [digit] => digit :: 'e' :: exponent
    | first :: rest => first :: '.' :: (rest ++ 'e' :: exponent)
    | [] => []

def textOfBits (bits : Nat) : String :=
  let magnitude := bits % 0x8000000000000000
  let sign := if 0x8000000000000000 ≤ bits then "-" else ""
  if magnitude = 0 then "0"
  else if magnitude = 0x7FF0000000000000 then sign ++ "Infinity"
  else if 0x7FF0000000000000 < magnitude then "NaN"
  else
    let decimal := (Binary.ofBits magnitude).shortest.trim 400
    let digits := Nat.toDigits 10 decimal.digits
    sign ++ String.ofList (place digits (decimal.exponent + digits.length))

def text (x : Float) : String := textOfBits x.toBits.toNat

end Decimal

end TestInventory
