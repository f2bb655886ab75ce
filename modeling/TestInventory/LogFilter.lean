import TestInventory.Interface
import TestInventory.Text.Character
import TestInventory.Text.Lines

/-!
# Which warnings are shown

A filter is a list of directives, each of which sets a level for everything or
for the sources whose names begin with a word.  The directive with the longest
word decides.  Directives for spans never apply, since there are none.
-/

namespace TestInventory

inductive LogLevel where
  | off
  | error
  | warn
  | info
  | debug
  | trace
  deriving DecidableEq, Repr, Inhabited

namespace LogLevel

def names : List (String × LogLevel) :=
  [("off", .off), ("error", .error), ("warn", .warn), ("info", .info), ("debug", .debug),
    ("trace", .trace)]

def ofNat? (n : Nat) : Option LogLevel := (names[n]?).map (·.2)

/-- Read a level: its number, or its name in capitals or small letters. -/
def parse? (text : List Char) : Option LogLevel :=
  let digits := match text with
    | '+' :: digits => digits
    | digits => digits
  match (Text.decimal? digits).bind ofNat? with
  | some level => some level
  | none =>
    if text.isEmpty then some .error
    else names.lookup (Interface.lowerAscii (String.ofList text))

def showsWarnings : LogLevel → Bool
  | .off => false
  | .error => false
  | _ => true

end LogLevel

/-- Sets a level for the sources whose names begin with a word. -/
structure LogDirective where
  /-- The word; none stands for every source. -/
  target : Option (List Char) := none
  level : LogLevel := .trace
  spansOnly : Bool := false
  deriving DecidableEq, Repr, Inhabited

namespace LogDirective

/-- The level behind a sign; nothing there means the most detailed one. -/
def levelBehind? (text : List Char) : Option LogLevel :=
  if text.isEmpty then some .trace else LogLevel.parse? text

/-- Read a word that is a level or else a target. -/
def ofWord (text : List Char) : LogDirective :=
  match LogLevel.parse? text with
  | some level => { level }
  | none => { target := some text }

def mayBegin (c : Char) : Bool :=
  c.isAlphanum || 0x80 ≤ c.toNat || c = '-' || c = ':' || c = '_'

/-- Read what stands behind the bracket that closes a span. -/
def behindSpan? (target : Option (List Char)) (text : List Char) : Option LogDirective :=
  match text with
  | [] => some { target, spansOnly := true }
  | '=' :: level => (levelBehind? level).map fun level => { target, level, spansOnly := true }
  | _ => none

def parse? (text : List Char) : Option LogDirective :=
  match text with
  | [] => none
  | '[' :: rest => behindSpan? none ((rest.dropWhile (· != ']')).drop 1)
  | c :: _ =>
    if !mayBegin c then none
    else
      let isWord (c : Char) := c != '=' && c != '['
      let word := text.takeWhile isWord
      match text.dropWhile isWord with
      | '=' :: level => (levelBehind? level).map fun level => { target := some word, level }
      | '[' :: rest => behindSpan? (some word) ((rest.dropWhile (· != ']')).drop 1)
      | _ => some (ofWord word)

def concerns (directive : LogDirective) (source : List Char) : Bool :=
  !directive.spansOnly &&
    match directive.target with
    | none => true
    | some word => word.isPrefixOf source

/-- How exact a directive is: the length of its word. -/
def exactness (directive : LogDirective) : Nat :=
  match directive.target with
  | none => 0
  | some word => word.length + 1

/-- The more exact of two directives; of equally exact ones the later. -/
def choose (chosen : Option LogDirective) (directive : LogDirective) : Option LogDirective :=
  match chosen with
  | none => some directive
  | some other => if other.exactness ≤ directive.exactness then some directive else some other

end LogDirective

abbrev LogFilter := List LogDirective

namespace LogFilter

/-- Read a filter; an empty one lets errors pass only. -/
def parse? (text : String) : Option LogFilter :=
  let parts := (Text.splitAt ',' text.toList).filter (!·.isEmpty)
  if parts.isEmpty then some [{ level := .error }] else parts.mapM LogDirective.parse?

def showsWarnings (filter : LogFilter) (source : String) : Bool :=
  let concerned := filter.filter (·.concerns source.toList)
  match concerned.foldl LogDirective.choose none with
  | some directive => directive.level.showsWarnings
  | none => false

end LogFilter

end TestInventory
