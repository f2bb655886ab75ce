import TestInventory.Text.Quoted

/-!
# Text in TOML files

Text stands between quotes, on one line or on several.  Between double quotes
escapes are read, between single quotes everything stands for itself.
-/

namespace TestInventory

namespace Toml

def isBlank (c : Char) : Bool := c = ' ' || c = '\t'

/-- Read text behind its single quote, up to the closing one. -/
def literalText : Scan String := do
  let taken ← Scan.run fun c => Text.isPlain c && c != '\''
  Scan.word "'"
  return String.ofList taken

def lineEnd : Scan Unit := Scan.word "\n" <|> Scan.word "\x0d\n"

/-- Take the line end and all blanks and line ends behind a backslash that ends its line. -/
def joinedLines : Scan Unit := do
  let _ ← Scan.run isBlank
  lineEnd
  Scan.iterate (fun _ => do
    if (← Scan.someOf isBlank |> optional).isSome then return .inl ()
    if (← optional lineEnd).isSome then return .inl ()
    return .inr ()) ()

/--
Take three closing quotes and give the quotes before them that still belong to
the text; there may be two of those.
-/
def closing? (quote : Char) : Scan (Option (List Char)) := do
  let mark := String.ofList (List.replicate 3 quote)
  if !mark.toList.isPrefixOf (← get) then return none
  let quotes := ((← get).takeWhile (· = quote)).length
  let kept := min (quotes - 3) 2
  set ((← get).drop (kept + 3))
  return some (List.replicate kept quote)

def linesOfText (quote : Char) (escapes : Bool) : Scan String := do
  let _ ← optional lineEnd
  Scan.iterate (fun taken => do
    if let some kept ← closing? quote then
      return .inr (String.ofList (taken.reverse ++ kept))
    if (← optional lineEnd).isSome then return .inl ('\n' :: taken)
    let c ← Scan.next
    if escapes && c = '\\' then
      if (← optional joinedLines).isSome then return .inl taken
      return .inl ((← Scan.escape) :: taken)
    guard (Text.isPlain c)
    return .inl (c :: taken)) []

def lineOfText : Scan String := do
  if (← Scan.eat "\"") then Scan.quoted
  else
    Scan.word "'"
    literalText

def anyText : Scan String := do
  if (← Scan.eat "\"\"\"") then linesOfText '"' true
  else if (← Scan.eat "'''") then linesOfText '\'' false
  else lineOfText

def inName (c : Char) : Bool := c.isAlphanum || c = '-' || c = '_'

def simpleKey : Scan String := lineOfText <|> (do return String.ofList (← Scan.someOf inName))

def nextPart (parts : List String) : Scan (List String ⊕ List String) := do
  let _ ← Scan.run isBlank
  let parts := (← simpleKey) :: parts
  let _ ← Scan.run isBlank
  if (← Scan.eat ".") then return .inl parts
  return .inr parts.reverse

/-- Read a key: parts with dots between them. -/
def key : Scan (List String) := Scan.iterate nextPart []

def comment : Scan Unit := do
  if (← Scan.eat "#") then
    let _ ← Scan.run Text.isPlain

def blankLine (_ : Unit) : Scan (Unit ⊕ Unit) := do
  let _ ← Scan.run isBlank
  comment
  if (← optional lineEnd).isSome then return .inl ()
  return .inr ()

/-- Take blanks, comments and line ends. -/
def blankLines : Scan Unit := Scan.iterate blankLine ()

end Toml

end TestInventory
