import TestInventory.Text.Character
import TestInventory.Text.Scan

/-!
# Numbers and dates in TOML files

No setting is a number or a date, so these are recognised and not kept.  Whole
numbers have 64 bits and a sign; other numbers must not be too large for a
double; dates must exist.
-/

namespace TestInventory

namespace Toml

/-- Digits that may have single underscores between them, without the underscores. -/
def grouped? (isDigit : Char → Bool) : List Char → Option (List Char)
  | [] => none
  | [c] => if isDigit c then some [c] else none
  | c :: '_' :: rest => if isDigit c then (grouped? isDigit rest).map (c :: ·) else none
  | c :: rest => if isDigit c then (grouped? isDigit rest).map (c :: ·) else none

def valueOf (base : Nat) (digits : List Char) : Nat :=
  digits.foldl (fun n c => base * n + (Text.hexValue? c).getD 0) 0

/-- A text without a sign before it, and whether the sign was a minus. -/
def unsigned : List Char → Bool × List Char
  | '-' :: rest => (true, rest)
  | '+' :: rest => (false, rest)
  | text => (false, text)

/-- The digits of a decimal number that has no idle zeros before it. -/
def decimal? (text : List Char) : Option (List Char) := do
  let digits ← grouped? Char.isDigit text
  guard (digits.length ≤ 1 || digits.head? != some '0')
  return digits

def isBased (base : Nat) (text : List Char) : Bool :=
  let accepts (c : Char) := ((Text.hexValue? c).map (decide <| · < base)).getD false
  match grouped? accepts text with
  | some digits => valueOf base digits < 0x8000000000000000
  | none => false

def isInteger (text : List Char) : Bool :=
  match text with
  | '0' :: 'x' :: digits => isBased 16 digits
  | '0' :: 'o' :: digits => isBased 8 digits
  | '0' :: 'b' :: digits => isBased 2 digits
  | text =>
    let (negative, digits) := unsigned text
    match decimal? digits with
    | some digits => valueOf 10 digits < 0x8000000000000000 + (if negative then 1 else 0)
    | none => false

/-- The power of ten that an exponent writes, if the text has one. -/
def exponent? : List Char → Option Int
  | [] => some 0
  | mark :: rest => do
    guard (mark = 'e' || mark = 'E')
    let (negative, digits) := unsigned rest
    let digits ← grouped? Char.isDigit digits
    let n : Int := valueOf 10 digits
    return if negative then -n else n

/-- Whether a decimal number is too large for a double; such numbers have 309 places or more. -/
def isTooLarge (digits : Nat) (power : Int) : Bool :=
  let places := power + (Nat.toDigits 10 digits).length
  digits != 0 && (309 < places ||
    (places = 309 && (Float.ofScientific digits (power < 0) power.natAbs).isInf))

/-- The digits behind a point, if the text has one, and the rest of the text. -/
def fraction? : List Char → Option (List Char × List Char)
  | '.' :: rest =>
    let inFraction (c : Char) := c.isDigit || c = '_'
    (grouped? Char.isDigit (rest.takeWhile inFraction)).map (·, rest.dropWhile inFraction)
  | rest => some ([], rest)

/-- Whether a text is a number with a point or an exponent, or one of the named ones. -/
def isFloat (text : List Char) : Bool :=
  let (negative, text) := unsigned text
  if text = "inf".toList || text = "nan".toList then true
  else
    let inWhole (c : Char) := c.isDigit || c = '_'
    let rest := text.dropWhile inWhole
    let valid := do
      let whole ← decimal? (text.takeWhile inWhole)
      guard (!rest.isEmpty)
      let (fraction, rest) ← fraction? rest
      let power ← exponent? rest
      guard (negative || !isTooLarge (valueOf 10 (whole ++ fraction)) (power - fraction.length))
    valid.isSome

/-- Read a number of so many digits within bounds. -/
def bounded (length low high : Nat) : Scan Nat := do
  let text ← get
  let digits := text.take length
  guard (digits.length = length && digits.all Char.isDigit)
  set (text.drop length)
  let n := valueOf 10 digits
  guard (low ≤ n && n ≤ high)
  return n

def daysOf (year month : Nat) : Nat :=
  if month = 2 then
    if (year % 4 = 0 ∧ year % 100 ≠ 0) ∨ year % 400 = 0 then 29 else 28
  else if month = 4 ∨ month = 6 ∨ month = 9 ∨ month = 11 then 30
  else 31

def date : Scan Unit := do
  let year ← bounded 4 0 9999
  Scan.word "-"
  let month ← bounded 2 1 12
  Scan.word "-"
  let _ ← bounded 2 1 (daysOf year month)

def time : Scan Unit := do
  let _ ← bounded 2 0 23
  Scan.word ":"
  let _ ← bounded 2 0 59
  Scan.word ":"
  let _ ← bounded 2 0 60
  if (← Scan.eat ".") then
    let _ ← Scan.someOf Char.isDigit

/-- Read the distance of a time from the standard one. -/
def offset : Scan Unit := do
  if (← Scan.eat "Z") || (← Scan.eat "z") then return
  let _ ← Scan.one fun c => c = '+' || c = '-'
  let _ ← bounded 2 0 23
  Scan.word ":"
  let _ ← bounded 2 0 59

def moment : Scan Unit :=
  (do
    date
    let _ ← optional do
      let _ ← Scan.one fun c => c = 'T' || c = 't' || c = ' '
      time
      let _ ← optional offset) <|>
  time

def inNumber (c : Char) : Bool := c.isAlphanum || c = '+' || c = '-' || c = '.' || c = '_'

def number : Scan Unit :=
  moment <|> do
    let text ← Scan.someOf inNumber
    guard (isInteger text || isFloat text)

end Toml

end TestInventory
