import TestInventory.Json
import TestInventory.Text.Character

/-!
# Tokens of JSON text

Text is cut into marks, words, numbers and strings; blanks between them are
dropped.  A string may hold escapes for halves of character pairs: two halves
that fit make a character, and a string with a half on its own is no text.
-/

namespace TestInventory

namespace Json

inductive Token where
  | mark (mark : Char)
  | null
  | boolean (content : Bool)
  | number (text : String)
  | string (content : Option String)
  deriving DecidableEq, Repr, Inhabited

namespace Token

def isBlank (c : Char) : Bool := c = ' ' || c = '\t' || c = '\n' || c = '\r'

/-- Whether a character is a token of its own. -/
def isMark (c : Char) : Bool :=
  c = '[' || c = ']' || c = '\x7b' || c = '\x7d' || c = ',' || c = ':'

def inNumber (c : Char) : Bool := c.isDigit || c = '-' || c = '+' || c = '.' || c = 'e' || c = 'E'

/-- The rest of a text behind one digit or more. -/
def digits? (text : List Char) : Option (List Char) :=
  match text with
  | c :: rest => if c.isDigit then some (rest.dropWhile Char.isDigit) else none
  | [] => none

/-- The rest behind the whole part of a number, which has no idle zeros before it. -/
def whole? (text : List Char) : Option (List Char) :=
  match text with
  | '0' :: rest => some rest
  | text => digits? text

def isNumber (text : List Char) : Bool :=
  let unsigned := match text with
    | '-' :: rest => rest
    | text => text
  let behind := do
    let rest ← whole? unsigned
    let rest ← match rest with
      | '.' :: rest => digits? rest
      | rest => some rest
    match rest with
    | 'e' :: '+' :: rest => digits? rest
    | 'e' :: '-' :: rest => digits? rest
    | 'E' :: '+' :: rest => digits? rest
    | 'E' :: '-' :: rest => digits? rest
    | 'e' :: rest => digits? rest
    | 'E' :: rest => digits? rest
    | rest => some rest
  behind == some []

def hex? (a b c d : Char) : Option Nat := do
  let a ← Text.hexValue? a
  let b ← Text.hexValue? b
  let c ← Text.hexValue? c
  let d ← Text.hexValue? d
  return ((a * 16 + b) * 16 + c) * 16 + d

def escaped? : Char → Option Char
  | '"' => some '"'
  | '\\' => some '\\'
  | '/' => some '/'
  | 'b' => some '\x08'
  | 'f' => some '\x0c'
  | 'n' => some '\n'
  | 'r' => some '\r'
  | 't' => some '\t'
  | _ => none

/-- The code units and characters of a string between its quotes, or `none` for a bad escape. -/
def units? : List Char → Option (List Nat)
  | [] => some []
  | '\\' :: 'u' :: a :: b :: c :: d :: rest => do
    let unit ← hex? a b c d
    return unit :: (← units? rest)
  | '\\' :: c :: rest => do
    let c ← escaped? c
    return c.toNat :: (← units? rest)
  | c :: rest =>
    if c = '\\' ∨ c.toNat < 0x20 then none else (units? rest).map (c.toNat :: ·)

/-- Whether a number is the first half of a pair. -/
def isHigh (n : Nat) : Bool := 0xD800 ≤ n && n < 0xDC00

def isLow (n : Nat) : Bool := 0xDC00 ≤ n && n < 0xE000

/-- The characters of numbers, pairs put together; none when a half stands on its own. -/
def join? : List Nat → Option (List Char)
  | [] => some []
  | [unit] => if isHigh unit || isLow unit then none else some [Char.ofNat unit]
  | unit :: next :: rest =>
    if isHigh unit then
      if isLow next then
        let c := Char.ofNat (0x10000 + (unit - 0xD800) * 0x400 + (next - 0xDC00))
        (join? rest).map (c :: ·)
      else none
    else if isLow unit then none
    else (join? (next :: rest)).map (Char.ofNat unit :: ·)

def ofQuoted? (raw : List Char) : Option Token :=
  (units? raw).map fun units => .string ((join? units).map String.ofList)

def ofWord? (word : List Char) : Option Token :=
  if word = ['n', 'u', 'l', 'l'] then some .null
  else if word = ['t', 'r', 'u', 'e'] then some (.boolean true)
  else if word = ['f', 'a', 'l', 's', 'e'] then some (.boolean false)
  else none

def ofNumber? (text : List Char) : Option Token :=
  if isNumber text then some (.number (String.ofList text)) else none

/-- What has been begun; characters are held last first. -/
inductive Begun where
  | nothing
  | word (letters : List Char)
  | number (characters : List Char)
  /-- Between quotes, perhaps just behind a backslash. -/
  | string (raw : List Char) (afterBackslash : Bool)
  deriving DecidableEq, Repr, Inhabited

/-- The token that ends before a character that cannot be part of it, if one was begun. -/
def finish? : Begun → Option (List Token)
  | .nothing => some []
  | .word letters => (ofWord? letters.reverse).map ([·])
  | .number characters => (ofNumber? characters.reverse).map ([·])
  | .string .. => none

def begin? (c : Char) : Option (List Token × Begun) :=
  if isBlank c then some ([], .nothing)
  else if isMark c then some ([.mark c], .nothing)
  else if c = '"' then some ([], .string [] false)
  else if c.isDigit || c = '-' then some ([], .number [c])
  else if c.isAlpha then some ([], .word [c])
  else none

def take? (begun : Begun) (c : Char) : Option (List Token × Begun) :=
  match begun with
  | .string raw true => some ([], .string (c :: raw) false)
  | .string raw false =>
    if c = '"' then (ofQuoted? raw.reverse).map fun token => ([token], .nothing)
    else some ([], .string (c :: raw) (c = '\\'))
  | .word letters =>
    if c.isAlpha then some ([], .word (c :: letters)) else close?
  | .number characters =>
    if inNumber c then some ([], .number (c :: characters)) else close?
  | .nothing => begin? c
where
  /-- End what was begun and begin anew. -/
  close? : Option (List Token × Begun) := do
    let finished ← finish? begun
    let (tokens, begun) ← begin? c
    return (finished ++ tokens, begun)

/-- The tokens of a text behind what has been begun. -/
def scan? (begun : Begun) : List Char → Option (List Token)
  | [] => finish? begun
  | c :: rest => do
    let (tokens, begun) ← take? begun c
    return tokens ++ (← scan? begun rest)

def ofText? (text : List Char) : Option (List Token) := scan? .nothing text

end Token

end Json

end TestInventory
