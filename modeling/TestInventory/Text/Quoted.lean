import TestInventory.Text.Character
import TestInventory.Text.Scan

/-!
# Quoted text

Text between double quotes stands for itself but for escapes: a backslash and a
letter, or `u` or `U` and the number of a character in four or eight hexadecimal
digits.  Control characters have to be escaped, except for tabulators.
-/

namespace TestInventory

namespace Text

def isPlain (c : Char) : Bool := c = '\t' || (0x20 ≤ c.toNat && c.toNat != 0x7F)

/-- The character that a run of hexadecimal digits names. -/
def scalar? (digits : List Char) : Option Char := do
  let n ← digits.foldlM (fun n c => (hexValue? c).map (16 * n + ·)) 0
  if n < 0xD800 ∨ (0xDFFF < n ∧ n < 0x110000) then some (Char.ofNat n) else none

def escaped? : Char → Option Char
  | 'b' => some '\x08'
  | 't' => some '\t'
  | 'n' => some '\n'
  | 'f' => some '\x0c'
  | 'r' => some '\r'
  | '"' => some '"'
  | '\\' => some '\\'
  | _ => none

end Text

namespace Scan

def escape : Scan Char := do
  let letter ← next
  let length := if letter = 'u' then 4 else if letter = 'U' then 8 else 0
  if length = 0 then (Text.escaped? letter).getM
  else
    let text ← get
    set (text.drop length)
    guard (length ≤ text.length)
    (Text.scalar? (text.take length)).getM

def nextOfQuoted (taken : List Char) : Scan (List Char ⊕ String) := do
  let c ← next
  if c = '"' then return .inr (String.ofList taken.reverse)
  if c = '\\' then return .inl ((← escape) :: taken)
  guard (Text.isPlain c)
  return .inl (c :: taken)

/-- Read text behind its double quote, up to the closing one. -/
def quoted : Scan String := iterate nextOfQuoted []

end Scan

end TestInventory
