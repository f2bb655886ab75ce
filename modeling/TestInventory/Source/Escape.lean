import TestInventory.Source.Character
import TestInventory.Text.Character

/-!
# Escapes in literals

The body of a string literal or of a piece of a template is decoded into code
points.  An escape may name half of a surrogate pair; two halves written side
by side with four digits each make one character.  A half that stays alone is
written as U+FFFD and its four hexadecimal digits, and then a genuine U+FFFD of
the same literal is written as U+FFFD and `fffd`.
-/

namespace TestInventory.Source.Escape

open TestInventory.Text

def hex4? (a b c d : Char) : Option Nat := do
  let a ← hexValue? a
  let b ← hexValue? b
  let c ← hexValue? c
  let d ← hexValue? d
  some (((a * 16 + b) * 16 + c) * 16 + d)

def isHex (c : Char) : Bool := (hexValue? c).isSome

/-- The code point that a run of hexadecimal digits writes, up to the last one there is. -/
def codePoint? (digits : List Char) : Option Nat :=
  if digits.isEmpty then none
  else (digits.foldlM (fun n c => do
    let v ← hexValue? c
    let m := 16 * n + v
    if m ≤ 0x10FFFF then some m else none) 0)

def isHighHalf (n : Nat) : Bool := 0xD800 ≤ n && n ≤ 0xDBFF

def isLowHalf (n : Nat) : Bool := 0xDC00 ≤ n && n ≤ 0xDFFF

def joinHalves (high low : Nat) : Nat := 0x10000 + (high - 0xD800) * 0x400 + (low - 0xDC00)

/-- The second half of a pair, when it is written right here, and what follows it. -/
def lowHalf? : List Char → Option (Nat × List Char)
  | '\\' :: 'u' :: a :: b :: c :: d :: rest =>
    ((hex4? a b c d).filter isLowHalf).map (·, rest)
  | _ => none

def single? : Char → Option Nat
  | 'b' => some 0x08
  | 'f' => some 0x0C
  | 'n' => some 0x0A
  | 'r' => some 0x0D
  | 't' => some 0x09
  | 'v' => some 0x0B
  | _ => none

def isOctal (c : Char) : Bool := '0' ≤ c && c ≤ '7'

/-- How many digits an octal escape may have that begins with this one. -/
def octalLength (first : Char) : Nat := if first ≤ '3' then 3 else 2

def octal (digits : List Char) : Nat := digits.foldl (fun n c => 8 * n + (c.toNat - 0x30)) 0

/-- What an escape stands for behind its backslash, and what follows it. -/
def escape? (inTemplate : Bool) : List Char → Option (List Nat × List Char)
  | [] => none
  | '\r' :: '\n' :: rest => some ([], rest)
  | 'x' :: rest =>
    match rest with
    | a :: b :: rest => (hex4? '0' '0' a b).map fun n => ([n], rest)
    | _ => none
  | 'u' :: '{' :: rest =>
    match rest.dropWhile isHex with
    | '}' :: after => (codePoint? (rest.takeWhile isHex)).map fun n => ([n], after)
    | _ => none
  | 'u' :: rest =>
    match rest with
    | a :: b :: c :: d :: rest =>
      (hex4? a b c d).map fun n =>
        match (if isHighHalf n then lowHalf? rest else none) with
        | some (low, after) => ([joinHalves n low], after)
        | none => ([n], rest)
    | _ => none
  | c :: rest =>
    if isLineTerminator c then some ([], rest)
    else match single? c with
      | some n => some ([n], rest)
      | none =>
        if c = '0' ∧ ¬ (rest.head?.any Char.isDigit) then some ([0], rest)
        else if inTemplate then
          if c.isDigit then none else some ([c.toNat], rest)
        else if isOctal c then
          let digits := (c :: rest).takeWhile isOctal |>.take (octalLength c)
          some ([octal digits], (c :: rest).drop digits.length)
        else some ([c.toNat], rest)

/--
The code points of the body of a literal; `bound` limits the number of steps and
is never reached when it is the length of the body.
-/
def decode? (inTemplate : Bool) (points : List Nat) : (bound : Nat) → List Char →
    Option (List Nat)
  | _, [] => some points.reverse
  | 0, _ => none
  | bound + 1, '\\' :: rest =>
    match escape? inTemplate rest with
    | some (found, after) => decode? inTemplate (found.reverse ++ points) bound after
    | none => none
  | bound + 1, '\r' :: '\n' :: rest => decode? inTemplate (0x0A :: points) bound rest
  | bound + 1, '\r' :: rest => decode? inTemplate (0x0A :: points) bound rest
  | bound + 1, c :: rest => decode? inTemplate (c.toNat :: points) bound rest

def isHalf (n : Nat) : Bool := isHighHalf n || isLowHalf n

def hexDigits (n : Nat) : List Char :=
  let digits := Nat.toDigits 16 n
  List.replicate (4 - digits.length) '0' ++ digits

def textOf (points : List Nat) : String :=
  if points.any isHalf then
    String.ofList (points.flatMap fun n =>
      if isHalf n || n == 0xFFFD then '\uFFFD' :: hexDigits n else [Char.ofNat n])
  else String.ofList (points.map Char.ofNat)

/-- The value of the body of a literal. -/
def value? (inTemplate : Bool) (body : List Char) : Option String :=
  (decode? inTemplate [] body.length body).map textOf

end TestInventory.Source.Escape
