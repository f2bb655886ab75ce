/-!
# Scanning text

A scan takes characters from the front of a text or fails.  A failed scan takes
nothing, so another can be tried in its place.
-/

namespace TestInventory

abbrev Scan (α : Type) := StateT (List Char) Option α

namespace Scan

def peek? : Scan (Option Char) := do return (← get).head?

def next : Scan Char := do
  match ← get with
  | [] => failure
  | c :: rest =>
    set rest
    return c

def one (accepts : Char → Bool) : Scan Char := do
  let c ← next
  guard (accepts c)
  return c

/-- Take all characters of a class, as far as they stand together. -/
def run (accepts : Char → Bool) : Scan (List Char) := do
  let text ← get
  set (text.dropWhile accepts)
  return text.takeWhile accepts

def someOf (accepts : Char → Bool) : Scan (List Char) := do
  let taken ← run accepts
  guard (!taken.isEmpty)
  return taken

def word (text : String) : Scan Unit := do
  match text.toList.isPrefixOf? (← get) with
  | none => failure
  | some rest => set rest

/-- Take a text if it stands here, and tell whether it did. -/
def eat (text : String) : Scan Bool := (do word text; return true) <|> return false

def finish : Scan Unit := do guard (← get).isEmpty

def repeatUpTo {α β : Type} (step : β → Scan (β ⊕ α)) : (times : Nat) → β → Scan α
  | 0, _ => failure
  | times + 1, state => do
    match ← step state with
    | .inl state => repeatUpTo step times state
    | .inr result => return result

/-- Repeat a step until it gives a result; every step but the last takes a character. -/
def iterate {α β : Type} (step : β → Scan (β ⊕ α)) (state : β) : Scan α := do
  -- So there are no more steps than characters, and one for the result.
  repeatUpTo step ((← get).length + 1) state

section Lists

variable {α : Type} (blanks : Scan Unit) (item : Scan α) (last : String)

def nextItem (taken : List α) : Scan (List α ⊕ List α) := do
  blanks
  if (← eat last) then return .inr taken.reverse
  let taken := (← item) :: taken
  blanks
  if (← eat ",") then return .inl taken
  word last
  return .inr taken.reverse

/-- Read items with commas between them, and perhaps one behind them, up to a closing mark. -/
def items : Scan (List α) := iterate (nextItem blanks item last) []

end Lists

def complete? {α : Type} (scan : Scan α) (text : String) : Option α :=
  let whole : Scan α := do
    let result ← scan
    finish
    return result
  (StateT.run whole text.toList).map (·.1)

end Scan

end TestInventory
