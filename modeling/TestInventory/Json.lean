/-!
# JSON values and their written forms

A value is written in one of two layouts.  The layouts differ in the blanks
between tokens only.
-/

namespace TestInventory

/-- A value.  Fields keep their order; numbers are kept as they are written. -/
inductive Json where
  | null
  | boolean (content : Bool)
  | number (text : String)
  /-- A string; `none` when its escapes name no character. -/
  | string (content : Option String)
  | array (items : List Json)
  | object (fields : List (Option String × Json))
  deriving Inhabited

namespace Json

def ofText (text : String) : Json := .string (some text)

def ofNat (n : Nat) : Json := .number (toString n)

def ofTexts (texts : List String) : Json := .array (texts.map ofText)

def hexDigit (n : Nat) : Char := if n < 10 then Char.ofNat (0x30 + n) else Char.ofNat (0x57 + n)

def escape (c : Char) : List Char :=
  if c = '"' then ['\\', '"']
  else if c = '\\' then ['\\', '\\']
  else if c = '\x08' then ['\\', 'b']
  else if c = '\t' then ['\\', 't']
  else if c = '\n' then ['\\', 'n']
  else if c = '\x0c' then ['\\', 'f']
  else if c = '\r' then ['\\', 'r']
  else if c.toNat < 0x20 then
    ['\\', 'u', '0', '0', hexDigit (c.toNat / 16), hexDigit (c.toNat % 16)]
  else [c]

/-- A string as it is written; half a pair of escapes stands for text that is none. -/
def quote : Option String → String
  | some text => "\"" ++ String.ofList (text.toList.flatMap escape) ++ "\""
  | none => "\"\\ud800\""

structure Layout where
  /-- What stands before an item at a depth, and before the end of its container. -/
  line : Nat → String
  /-- What stands between a colon and a value. -/
  gap : String

namespace Layout

def compact : Layout := ⟨fun _ => "", ""⟩

def spread : Layout := ⟨fun depth => "\n" ++ "".pushn ' ' (2 * depth), " "⟩

end Layout

mutual

def write (layout : Layout) (depth : Nat) : Json → String
  | .null => "null"
  | .boolean true => "true"
  | .boolean false => "false"
  | .number text => text
  | .string content => quote content
  | .array [] => "[]"
  | .array (first :: rest) =>
    "[" ++ layout.line (depth + 1) ++ write layout (depth + 1) first ++
      writeItems layout (depth + 1) rest ++ layout.line depth ++ "]"
  | .object [] => "\x7b\x7d"
  | .object ((key, value) :: rest) =>
    "\x7b" ++ layout.line (depth + 1) ++ quote key ++ ":" ++ layout.gap ++
      write layout (depth + 1) value ++ writeFields layout (depth + 1) rest ++
      layout.line depth ++ "\x7d"

/-- Write the items behind the first. -/
def writeItems (layout : Layout) (depth : Nat) : List Json → String
  | [] => ""
  | item :: rest =>
    "," ++ layout.line depth ++ write layout depth item ++ writeItems layout depth rest

def writeFields (layout : Layout) (depth : Nat) : List (Option String × Json) → String
  | [] => ""
  | (key, value) :: rest =>
    "," ++ layout.line depth ++ quote key ++ ":" ++ layout.gap ++ write layout depth value ++
      writeFields layout depth rest

end

def compact (value : Json) : String := value.write .compact 0

def pretty (value : Json) : String := value.write .spread 0

end Json

end TestInventory
