import TestInventory.Source.Character
import TestInventory.Source.Escape
import TestInventory.Source.Numeral
import TestInventory.Source.Token

/-!
# Reading tokens

`Cursor.next` skips blanks and comments and reads one token.  Three tokens
depend on what the grammar expects: behind an operand a slash divides, elsewhere
it opens a pattern (`Cursor.pattern`), and the brace that closes a substitution
continues its template (`Cursor.template`).
-/

namespace TestInventory.Source

namespace Cursor

def step (offset : Nat) (c : Char) : Nat := offset + c.utf8Size

end Cursor

namespace Trivia

inductive Mode where
  | blanks
  | line
  | block
  deriving DecidableEq, Repr

/--
Skip blanks and comments.  Says whether a line ended and where the next token
starts; a block comment that is not closed has no end.  In a script `<!--`, and
`-->` at the start of a line, open a comment to the end of the line.
-/
def skip (script : Bool) : Mode → (newLine : Bool) → (offset : Nat) → List Char →
    Option (Bool × Cursor)
  | .block, _, _, [] => none
  | _, newLine, offset, [] => some (newLine, ⟨[], offset⟩)
  | .line, newLine, offset, c :: rest =>
    if isLineTerminator c then skip script .blanks true (Cursor.step offset c) rest
    else skip script .line newLine (Cursor.step offset c) rest
  | .block, newLine, offset, '*' :: '/' :: rest => skip script .blanks newLine (offset + 2) rest
  | .block, newLine, offset, c :: rest =>
    skip script .block (newLine || isLineTerminator c) (Cursor.step offset c) rest
  | .blanks, newLine, offset, '/' :: '/' :: rest => skip script .line newLine (offset + 2) rest
  | .blanks, newLine, offset, '/' :: '*' :: rest => skip script .block newLine (offset + 2) rest
  | .blanks, newLine, offset, '<' :: '!' :: '-' :: '-' :: rest =>
    if script then skip script .line newLine (offset + 4) rest
    else some (newLine, ⟨'<' :: '!' :: '-' :: '-' :: rest, offset⟩)
  | .blanks, newLine, offset, '-' :: '-' :: '>' :: rest =>
    if script && newLine then skip script .line newLine (offset + 3) rest
    else some (newLine, ⟨'-' :: '-' :: '>' :: rest, offset⟩)
  | .blanks, newLine, offset, c :: rest =>
    if isLineTerminator c then skip script .blanks true (Cursor.step offset c) rest
    else if isBlank c then skip script .blanks newLine (Cursor.step offset c) rest
    else some (newLine, ⟨c :: rest, offset⟩)

end Trivia

namespace Word

inductive Mode where
  | plain
  | backslash
  /-- Behind a backslash and `u`. -/
  | opened
  /-- Inside an escape of four digits. -/
  | digits (left value : Nat)
  /-- Inside an escape in braces. -/
  | braces (value : Nat) (some : Bool)

def accepts (first : Bool) (n : Nat) : Bool :=
  n.isValidChar && (if first then isIdentifierStart (Char.ofNat n) else isIdentifierPart (Char.ofNat n))

/--
Read an identifier.  `read` holds its characters so far, last first.  The result
is its text, whether it was written with escapes, and what follows.
-/
def scan (read : List Char) (escaped : Bool) : Mode → (offset : Nat) → List Char →
    Option (String × Bool × Cursor)
  | .plain, offset, [] =>
    if read.isEmpty then none else some (String.ofList read.reverse, escaped, ⟨[], offset⟩)
  | _, _, [] => none
  | .plain, offset, c :: rest =>
    if c = '\\' then scan read true .backslash (offset + 1) rest
    else if accepts read.isEmpty c.toNat then
      scan (c :: read) escaped .plain (Cursor.step offset c) rest
    else if read.isEmpty then none
    else some (String.ofList read.reverse, escaped, ⟨c :: rest, offset⟩)
  | .backslash, offset, c :: rest =>
    if c = 'u' then scan read escaped .opened (offset + 1) rest else none
  | .opened, offset, c :: rest =>
    if c = '\x7b' then scan read escaped (.braces 0 false) (offset + 1) rest
    else match Text.hexValue? c with
      | some v => scan read escaped (.digits 3 v) (offset + 1) rest
      | none => none
  | .digits left value, offset, c :: rest =>
    match Text.hexValue? c with
    | none => none
    | some v =>
      let n := 16 * value + v
      if 1 < left then scan read escaped (.digits (left - 1) n) (offset + 1) rest
      else if accepts read.isEmpty n then
        scan (Char.ofNat n :: read) escaped .plain (offset + 1) rest
      else none
  | .braces value any, offset, c :: rest =>
    if c = '\x7d' then
      if any && accepts read.isEmpty value then
        scan (Char.ofNat value :: read) escaped .plain (offset + 1) rest
      else none
    else match Text.hexValue? c with
      | none => none
      | some v =>
        if 16 * value + v ≤ 0x10FFFF then
          scan read escaped (.braces (16 * value + v) true) (offset + 1) rest
        else none

end Word

namespace Quoted

/-- Read the body of a string literal up to its quote; `body` is what was read, last first. -/
def scan (quote : Char) (body : List Char) : (offset : Nat) → List Char →
    Option (List Char × Cursor)
  | _, [] => none
  | offset, '\\' :: '\r' :: '\n' :: rest =>
    scan quote ('\n' :: '\r' :: '\\' :: body) (offset + 3) rest
  | offset, '\\' :: c :: rest => scan quote (c :: '\\' :: body) (Cursor.step (offset + 1) c) rest
  | offset, c :: rest =>
    if c = quote then some (body.reverse, ⟨rest, offset + 1⟩)
    else if c = '\n' ∨ c = '\r' then none
    else scan quote (c :: body) (Cursor.step offset c) rest

/-- Read a piece of a template up to its end or to a substitution. -/
def scanTemplate (body : List Char) : (offset : Nat) → List Char →
    Option (List Char × Bool × Cursor)
  | _, [] => none
  | offset, '\\' :: c :: rest => scanTemplate (c :: '\\' :: body) (Cursor.step (offset + 1) c) rest
  | offset, '$' :: '{' :: rest => some (body.reverse, false, ⟨rest, offset + 2⟩)
  | offset, c :: rest =>
    if c = '\x60' then some (body.reverse, true, ⟨rest, offset + 1⟩)
    else scanTemplate (c :: body) (Cursor.step offset c) rest

end Quoted

namespace Numeral

/-- Read further digits, which single underscores may separate; `read` is last first. -/
def scanDigits (accepts : Char → Bool) (read : List Char) : (offset : Nat) → List Char →
    Option (List Char × Cursor)
  | offset, [] => some (read.reverse, ⟨[], offset⟩)
  | offset, c :: rest =>
    if accepts c then scanDigits accepts (c :: read) (offset + 1) rest
    else if c = '_' then
      match rest with
      | [] => none
      | d :: rest =>
        if accepts d then scanDigits accepts (d :: read) (offset + 2) rest else none
    else some (read.reverse, ⟨c :: rest, offset⟩)

def scanDigits1 (accepts : Char → Bool) (cursor : Cursor) : Option (List Char × Cursor) :=
  match cursor.rest with
  | c :: rest =>
    if accepts c then scanDigits accepts [c] (cursor.offset + 1) rest else none
  | [] => none

/-- Nothing that could belong to a numeral may stand directly behind it. -/
def bounded (lexeme : Lexeme) (cursor : Cursor) : Option (Lexeme × Cursor) :=
  match cursor.rest with
  | c :: _ => if c.isDigit || isIdentifierStart c then none else some (lexeme, cursor)
  | [] => some (lexeme, cursor)

def scanPower (cursor : Cursor) : Option (Int × Cursor) := do
  let (sign, start) := match cursor.rest with
    | '-' :: rest => ((-1 : Int), (⟨rest, cursor.offset + 1⟩ : Cursor))
    | '+' :: rest => (1, ⟨rest, cursor.offset + 1⟩)
    | _ => (1, cursor)
  let (digits, cursor) ← scanDigits1 Char.isDigit start
  let power ← Text.decimal? digits
  some (sign * power, cursor)

def scanOptionalPower (cursor : Cursor) : Option (Int × Cursor) :=
  match cursor.rest with
  | c :: rest => if c = 'e' ∨ c = 'E' then scanPower ⟨rest, cursor.offset + 1⟩ else some (0, cursor)
  | [] => some (0, cursor)

/-- Read what follows the decimal point; the point itself has been read. -/
def scanFraction (digits : List Char) (cursor : Cursor) : Option (Lexeme × Cursor) := do
  let (fraction, cursor) ← match cursor.rest with
    | c :: _ => if c.isDigit then scanDigits1 Char.isDigit cursor else some ([], cursor)
    | [] => some ([], cursor)
  let (power, cursor) ← scanOptionalPower cursor
  bounded (.number (scientific digits fraction power)) cursor

/-- Read a numeral in base 2, 8 or 16 behind its mark. -/
def scanBase (base longest : Nat) (accepts : Char → Bool) (cursor : Cursor) :
    Option (Lexeme × Cursor) := do
  let (digits, cursor) ← scanDigits1 accepts cursor
  match cursor.rest with
  | 'n' :: rest => bounded .bigInteger ⟨rest, cursor.offset + 1⟩
  | _ => bounded (.number (whole base longest digits)) cursor

def scanDecimal (first : Char) (offset : Nat) (rest : List Char) : Option (Lexeme × Cursor) := do
  let (digits, cursor) ← scanDigits Char.isDigit [first] offset rest
  match cursor.rest with
  | '.' :: rest => scanFraction digits ⟨rest, cursor.offset + 1⟩
  | 'n' :: rest => bounded .bigInteger ⟨rest, cursor.offset + 1⟩
  | c :: rest =>
    if c = 'e' ∨ c = 'E' then
      let (power, cursor) ← scanPower ⟨rest, cursor.offset + 1⟩
      bounded (.number (scientific digits [] power)) cursor
    else bounded (.number (whole 10 19 digits)) cursor
  | [] => some (.number (whole 10 19 digits), cursor)

/-- Read digits behind a leading zero: an octal numeral, unless an 8 or 9 is among them. -/
def scanLeadingZero (offset : Nat) (rest : List Char) : Option (Lexeme × Cursor) :=
  let digits := rest.takeWhile Char.isDigit
  let cursor : Cursor := ⟨rest.dropWhile Char.isDigit, offset + digits.length⟩
  if digits.all Escape.isOctal then bounded (.number (whole 8 21 digits)) cursor
  else match cursor.rest with
    | '.' :: rest => scanFraction ('0' :: digits) ⟨rest, cursor.offset + 1⟩
    | 'e' :: rest => do
      let (power, cursor) ← scanPower ⟨rest, cursor.offset + 1⟩
      some (.number (scientific ('0' :: digits) [] power), cursor)
    | _ => bounded (.number (whole 10 19 ('0' :: digits))) cursor

def isBinary (c : Char) : Bool := c == '0' || c == '1'

def scanZero (offset : Nat) (rest : List Char) : Option (Lexeme × Cursor) :=
  match rest with
  | [] => some (.number 0, ⟨[], offset⟩)
  | c :: after =>
    let behind : Cursor := ⟨after, offset + 1⟩
    if c = 'b' ∨ c = 'B' then scanBase 2 64 isBinary behind
    else if c = 'o' ∨ c = 'O' then scanBase 8 21 Escape.isOctal behind
    else if c = 'x' ∨ c = 'X' then scanBase 16 16 Escape.isHex behind
    else if c = 'e' ∨ c = 'E' then do
      let (power, cursor) ← scanPower behind
      some (.number (scientific ['0'] [] power), cursor)
    else if c = '.' then scanFraction ['0'] behind
    else if c = 'n' then bounded .bigInteger behind
    else if c.isDigit then scanLeadingZero offset rest
    else bounded (.number 0) ⟨rest, offset⟩

end Numeral

/-- The punctuators, longer ones before their beginnings. -/
def signs : List (String × List Char) :=
  [">>>=", "...", "===", "!==", "**=", "<<=", ">>=", ">>>", "&&=", "||=", "??=",
    "=>", "==", "!=", "<=", ">=", "&&", "||", "??", "?.", "++", "--", "+=", "-=", "*=", "/=",
    "%=", "&=", "|=", "^=", "<<", ">>", "**",
    "\x7b", "\x7d", "(", ")", "[", "]", ";", ",", "<", ">", "+", "-", "*", "/", "%", "&", "|",
    "^", "!", "~", "?", ":", "=", ".", "@"].map fun text => (text, text.toList)

/-- The longest punctuator here.  Before a digit `?.` is a question mark and a point. -/
def sign? (text : List Char) : Option (String × List Char) :=
  match text with
  | '?' :: '.' :: rest =>
    if rest.head?.any Char.isDigit then some ("?", '.' :: rest) else some ("?.", rest)
  | _ => signs.findSome? fun (sign, chars) => (chars.isPrefixOf? text).map (sign, ·)

namespace Cursor

/-- The token that starts here, without anything skipped. -/
def lexeme? (cursor : Cursor) : Option (Lexeme × Cursor) :=
  match cursor.rest with
  | [] => some (.finish, cursor)
  | c :: rest =>
    if c = '"' ∨ c = '\'' then do
      let (body, after) ← Quoted.scan c [] (cursor.offset + 1) rest
      let value ← Escape.value? false body
      some (.string value, after)
    else if c = '\x60' then
      (Quoted.scanTemplate [] (cursor.offset + 1) rest).map fun (body, closed, after) =>
        (.template (Escape.value? true body) closed, after)
    else if c = '0' then Numeral.scanZero (cursor.offset + 1) rest
    else if c.isDigit then Numeral.scanDecimal c (cursor.offset + 1) rest
    else if c = '.' ∧ rest.head?.any Char.isDigit then
      Numeral.scanFraction [] ⟨rest, cursor.offset + 1⟩
    else if c = '#' then
      (Word.scan [] false .plain (cursor.offset + 1) rest).map fun (text, _, after) =>
        (.privateName text, after)
    else match sign? cursor.rest with
      | some (text, after) => some (.sign text, ⟨after, cursor.offset + text.length⟩)
      | none =>
        (Word.scan [] false .plain cursor.offset cursor.rest).map fun (text, escaped, after) =>
          (.word text escaped, after)

def next (script : Bool) (newLine : Bool) (cursor : Cursor) : Token × Cursor × Cursor :=
  match Trivia.skip script .blanks newLine cursor.offset cursor.rest with
  | none => (⟨.invalid, ⟨cursor.offset, cursor.offset⟩, false⟩, cursor, ⟨[], cursor.offset⟩)
  | some (newLine, start) =>
    match start.lexeme? with
    | some (lexeme, after) => (⟨lexeme, ⟨start.offset, after.offset⟩, newLine⟩, start, after)
    | none => (⟨.invalid, ⟨start.offset, start.offset⟩, newLine⟩, start, ⟨[], start.offset⟩)

/-- Continue a template behind the brace that closes a substitution. -/
def template (cursor : Cursor) : Option (Lexeme × Cursor) :=
  (Quoted.scanTemplate [] cursor.offset cursor.rest).map fun (body, closed, after) =>
    (.template (Escape.value? true body) closed, after)

end Cursor

namespace Pattern

def skipBody (escaped inClass : Bool) : (offset : Nat) → List Char → Option Cursor
  | _, [] => none
  | offset, c :: rest =>
    if isLineTerminator c then none
    else if escaped then skipBody false inClass (Cursor.step offset c) rest
    else if c = '/' ∧ ¬ inClass then some ⟨rest, offset + 1⟩
    else skipBody (c == '\\') (if c = '[' then true else if c = ']' then false else inClass)
      (Cursor.step offset c) rest

/-- Whether the flags are known, distinct, and not both `u` and `v`. -/
def validFlags (flags : List Char) : Bool :=
  flags.all (fun c => "dgimsuvy".toList.contains c) && decide flags.Nodup &&
    !(flags.contains 'u' && flags.contains 'v')

def isFlag (c : Char) : Bool := c.isAlphanum || c == '$' || c == '_'

end Pattern

namespace Cursor

def pattern (cursor : Cursor) : Option Cursor := do
  let body ← Pattern.skipBody false false cursor.offset cursor.rest
  let flags := body.rest.takeWhile Pattern.isFlag
  if Pattern.validFlags flags then
    some ⟨body.rest.dropWhile Pattern.isFlag, body.offset + flags.length⟩
  else none

end Cursor

end TestInventory.Source
