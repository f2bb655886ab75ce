import TestInventory.Configuration.Value
import TestInventory.Interface
import TestInventory.Text.Lines
import TestInventory.Text.Quoted

/-!
# Settings in the environment

A variable whose name begins with `TESTMAP_`, in capitals or small letters,
gives the value of the setting named behind that.  Its text is read as a truth
value, a number, quoted text or a list of such; any other text stands for
itself.
-/

namespace TestInventory

namespace Environment

def isBlank (c : Char) : Bool := c = ' ' || c = '\t' || c = '\n' || c = '\r' || c = '\x0c'

def inBareText (c : Char) : Bool :=
  !(c = ',' || c = '\x7b' || c = '\x7d' || c = '[' || c = ']')

/-- Whether a text is a whole number of 64 bits, with or without a sign. -/
def isInteger (text : List Char) : Bool :=
  match text with
  | '-' :: digits => ((Text.decimal? digits).map (decide <| · ≤ 0x8000000000000000)).getD false
  | '+' :: digits => ((Text.decimal? digits).map (decide <| · < 0x10000000000000000)).getD false
  | digits => ((Text.decimal? digits).map (decide <| · < 0x10000000000000000)).getD false

/-- Whether a text is empty or an exponent: a mark, perhaps a sign, and digits. -/
def isExponent (text : List Char) : Bool :=
  match text with
  | [] => true
  | mark :: rest =>
    let digits := match rest with
      | '+' :: digits => digits
      | '-' :: digits => digits
      | digits => digits
    (mark = 'e' || mark = 'E') && !digits.isEmpty && digits.all Char.isDigit

def isFloat (text : List Char) : Bool :=
  let unsigned := match text with
    | '+' :: rest => rest
    | '-' :: rest => rest
    | rest => rest
  let whole := unsigned.takeWhile Char.isDigit
  match unsigned.dropWhile Char.isDigit with
  | '.' :: rest =>
    (!whole.isEmpty || !(rest.takeWhile Char.isDigit).isEmpty) &&
      isExponent (rest.dropWhile Char.isDigit)
  | _ => false

def bareValue (text : List Char) : ConfigValue :=
  if isFloat text || isInteger text then .other else .text (String.ofList text)

def pair (value : Scan ConfigValue) : Scan Unit := do
  let _ ← Scan.run isBlank
  if (← Scan.eat "\"") then
    let _ ← Scan.quoted
  else
    let _ ← Scan.someOf fun c => c.isAlphanum || c = '_' || c = '-'
  let _ ← Scan.run isBlank
  Scan.word "="
  let _ ← value

def valueHere (inner : Scan ConfigValue) : Scan ConfigValue := do
  if (← Scan.eat "true") then return .boolean true
  if (← Scan.eat "false") then return .boolean false
  if (← Scan.eat "[") then return .list (← Scan.items (pure ()) inner "]")
  if (← Scan.eat "\x7b") then
    let _ ← Scan.items (pure ()) (pair inner) "\x7d"
    return .other
  if (← Scan.eat "\"") then return .text (← Scan.quoted)
  return bareValue (Text.trimWhite (← Scan.run inBareText))

/-- Read a value that nests up to a depth, and the blanks around it. -/
def value : (depth : Nat) → Scan ConfigValue
  | 0 => failure
  | depth + 1 => do
    let _ ← Scan.run isBlank
    let found ← valueHere (value depth)
    let _ ← Scan.run isBlank
    return found

/-- What the text of a variable stands for. -/
def parse (text : String) : ConfigValue :=
  -- Every value inside another is shorter by its bracket.
  ((value (text.length + 1)).complete? text).getD (.text text)

def mark : String := "testmap_"

/-- The setting that a variable names, and what stands behind its first dot. -/
def setting? (name : String) : Option (String × List String) := do
  let rest ← mark.toList.isPrefixOf? (Interface.lowerAscii name).toList
  match (Text.splitAt '.' (Text.trimWhite rest)).map String.ofList with
  | [] => none
  | first :: inner => if "" ∈ first :: inner then none else some (first, inner)

/-- What a variable gives, and the setting that it gives it for. -/
def given? (name text : String) : Option (String × ConfigValue) :=
  (setting? name).map fun (first, inner) =>
    -- Names behind a dot make a table of the setting, whatever the text is.
    (first, if inner.isEmpty then parse text else .other)

def layer (environment : List (String × String)) : ConfigLayer :=
  environment.filterMap fun (name, text) => given? name text

end Environment

end TestInventory
