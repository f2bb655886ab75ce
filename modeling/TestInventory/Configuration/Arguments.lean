import TestInventory.Configuration.Value
import TestInventory.Interface
import TestInventory.Lookup
import TestInventory.Text.Character
import TestInventory.Text.Lines

/-!
# Arguments of the command

Arguments are read one after another.  A flag without a value takes the next
argument; its value is examined once the next flag or operand is reached.  The
first fault decides how a list of arguments fails.
-/

namespace TestInventory

inductive ArgumentError where
  | helpWanted
  | versionWanted
  /-- There is no such flag, or one operand too many. -/
  | unknown
  | invalidValue
  /-- A flag without a value was given one. -/
  | needlessValue
  /-- A flag was given twice, or together with its opposite. -/
  | conflict
  deriving DecidableEq, Repr, Inhabited

/-- The flags without a value. -/
inductive Switch where
  | noRecursive
  | compact
  | verbose
  | quiet
  | noColor
  | help
  | version
  deriving DecidableEq, Repr, Inhabited

/-- What takes a value: the operand and the flags with one. -/
inductive Slot where
  | root
  | extension
  | interface
  | config
  | directory
  deriving DecidableEq, Repr, Inhabited

inductive Flag where
  | switch (switch : Switch)
  | slot (slot : Slot)
  deriving DecidableEq, Repr, Inhabited

namespace Flag

def longNames : List (String × Flag) :=
  [("extension", .slot .extension), ("no-recursive", .switch .noRecursive),
    ("ui", .slot .interface), ("compact", .switch .compact), ("config", .slot .config),
    ("cwd", .slot .directory), ("verbose", .switch .verbose), ("quiet", .switch .quiet),
    ("no-color", .switch .noColor), ("help", .switch .help), ("version", .switch .version)]

def letters : List (Char × Flag) :=
  [('e', .slot .extension), ('c', .slot .config), ('v', .switch .verbose),
    ('q', .switch .quiet), ('h', .switch .help), ('V', .switch .version)]

end Flag

structure Arguments where
  root : Option String := none
  /-- The extensions as they are written; none when the flag is not given. -/
  extensions : List String := []
  interface : Option Interface := none
  config : Option String := none
  directory : Option String := none
  switches : List Switch := []
  deriving DecidableEq, Repr, Inhabited

namespace Arguments

def has (arguments : Arguments) (switch : Switch) : Bool := arguments.switches.contains switch

def turnOn (arguments : Arguments) : Switch → Except ArgumentError Arguments
  | .help => .error .helpWanted
  | .version => .error .versionWanted
  | switch =>
    if arguments.has switch then .error .conflict
    else .ok { arguments with switches := switch :: arguments.switches }

def path (text : String) : Except ArgumentError String :=
  if text.isEmpty then .error .invalidValue else .ok text

def give (arguments : Arguments) (slot : Slot) (text : String) : Except ArgumentError Arguments :=
  match slot with
  | .root => do return { arguments with root := some (← path text) }
  | .extension =>
    let words := (Text.splitAt ',' text.toList).map String.ofList
    .ok { arguments with extensions := arguments.extensions ++ words }
  | .interface =>
    if arguments.interface.isSome then .error .conflict
    else match Interface.ofName? text with
      | some interface => .ok { arguments with interface := some interface }
      | none => .error .invalidValue
  | .config =>
    if arguments.config.isSome then .error .conflict
    else do return { arguments with config := some (← path text) }
  | .directory =>
    if arguments.directory.isSome then .error .conflict
    else do return { arguments with directory := some (← path text) }

structure Reading where
  found : Arguments := {}
  /-- What takes a value that has not been examined, and the value if it is there. -/
  pending : Option (Slot × Option String) := none
  rootSeen : Bool := false
  operandsOnly : Bool := false
  deriving DecidableEq, Repr, Inhabited

namespace Reading

/-- Examine the pending value. -/
def settle (reading : Reading) : Except ArgumentError Reading :=
  match reading.pending with
  | none => .ok reading
  | some (_, none) => .error .invalidValue
  | some (slot, some text) => do
    return { reading with found := ← reading.found.give slot text, pending := none }

def switch (reading : Reading) (switch : Switch) : Except ArgumentError Reading := do
  let reading ← reading.settle
  return { reading with found := ← reading.found.turnOn switch }

/-- Take a flag with the value that is attached to it. -/
def attach (reading : Reading) (slot : Slot) (text : String) : Except ArgumentError Reading := do
  let reading ← reading.settle
  return { reading with found := ← reading.found.give slot text }

def await (reading : Reading) (slot : Slot) : Except ArgumentError Reading := do
  return { ← reading.settle with pending := some (slot, none) }

def operand (reading : Reading) (text : String) : Except ArgumentError Reading := do
  if reading.rootSeen then throw .unknown
  return { ← reading.settle with pending := some (.root, some text), rootSeen := true }

/-- Take letters behind one dash. -/
def letters (reading : Reading) : List Char → Except ArgumentError Reading
  | [] => .ok reading
  | letter :: rest =>
    match Flag.letters.lookup letter with
    | none => .error .unknown
    | some (.switch switch) => do (← reading.switch switch).letters rest
    | some (.slot slot) =>
      match rest with
      | [] => reading.await slot
      | '=' :: text => reading.attach slot (String.ofList text)
      | text => reading.attach slot (String.ofList text)

def long (reading : Reading) (text : List Char) : Except ArgumentError Reading :=
  let name := String.ofList (text.takeWhile (· != '='))
  match Flag.longNames.lookup name, text.dropWhile (· != '=') with
  | none, _ => .error .unknown
  | some (.switch switch), [] => reading.switch switch
  | some (.switch _), _ :: _ => .error .needlessValue
  | some (.slot slot), [] => reading.await slot
  | some (.slot slot), _ :: value => reading.attach slot (String.ofList value)

/-- Take an argument that is neither a flag nor the mark before operands. -/
def plain (reading : Reading) (text : String) : Except ArgumentError Reading :=
  match reading.pending with
  -- The value of the flag before it, which is examined when something else follows.
  | some (slot, none) => .ok { reading with pending := some (slot, some text) }
  | _ => reading.operand text

def step (reading : Reading) (text : String) : Except ArgumentError Reading :=
  if reading.operandsOnly then reading.operand text
  else match text.toList with
    | ['-', '-'] => .ok { reading with operandsOnly := true }
    | '-' :: '-' :: name => reading.long name
    | '-' :: letter :: rest => reading.letters (letter :: rest)
    | _ => reading.plain text

end Reading

def parse (texts : List String) : Except ArgumentError Arguments := do
  let reading ← (← texts.foldlM Reading.step {}).settle
  let found := reading.found
  if found.has .quiet && found.has .verbose then throw .conflict
  return found

/-- The extensions that the arguments name, cleared of blanks, dots and empty ones. -/
def namedExtensions (arguments : Arguments) : List String :=
  let words := arguments.extensions.map fun word =>
    Extensions.trimDots (String.ofList (Text.trimWhite word.toList))
  words.filter (· != "")

end Arguments

end TestInventory
