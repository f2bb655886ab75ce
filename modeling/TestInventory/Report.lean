import TestInventory.Configuration

/-!
# Reports of failure

A report has a banner, the message behind a cross, and perhaps some help.  A
message may have several lines; blank lines get no blanks at their end.  With colors
the banner and the marks are drawn in them, and the marks in other characters.
-/

namespace TestInventory

inductive CommandError where
  /-- The directory in which the command is run cannot be told. -/
  | directoryLost (reason : String)
  | discovery (error : DiscoveryError)
  | configuration (error : ConfigurationError)
  deriving DecidableEq, Repr, Inhabited

namespace CommandError

def message : CommandError → String
  | .directoryLost reason => "Failed to read the working directory: I/O error: " ++ reason
  | .discovery error => error.message
  | .configuration error => error.message

/-- What may be done about an error in a file. -/
def loadHelp : LoadError → String
  | .unreadable _ => "the file must parse as JavaScript"
  | .missingCallback .. => "give the suite a callback, or mark it pending with describe.skip"
  | .thrown .. => "suite callbacks run during discovery; move setup into before() hooks"
  | .read .. => "check that the file is readable"
  | .custom _ => "check that the file is readable"

def help? : CommandError → Option String
  | .discovery (.unresolvedRoot _) =>
    some "pass the test directory as the first argument or set `root` in testmap.toml"
  | .discovery (.load _ error) => some (loadHelp error)
  | .configuration _ => none
  | .directoryLost _ => none

end CommandError

namespace Report

def banner : String := "Fatal Error (try --help for help):"

/-- A text that a terminal shows in bold red. -/
def inBoldRed (text : String) : String := "\x1b[1m\x1b[31m" ++ text ++ "\x1b[39m\x1b[0m"

/-- What stands before the parts of a report. -/
structure Style where
  heading : String
  cross : String
  bar : String
  help : String
  deriving DecidableEq, Repr, Inhabited

def Style.plain : Style where
  heading := banner
  cross := "  x"
  bar := "  |"
  help := "  help: "

def Style.colored : Style where
  heading := inBoldRed banner
  cross := "  \x1b[31m×\x1b[0m"
  bar := "  \x1b[31m│\x1b[0m"
  help := "\x1b[36m  help: \x1b[0m"

def Style.ofColor (color : Bool) : Style := if color then .colored else .plain

/-- One line behind its mark; a blank line has no blank between. -/
def markedLine (mark : String) (line : List Char) : String :=
  let gap := if line.all Text.isWhite then "" else " "
  mark ++ gap ++ String.ofList line

def linesOf (text : List Char) : List (List Char) :=
  let parts := Text.splitAt '\n' text
  if parts.getLast? = some [] then parts.dropLast else parts

def markedText (style : Style) (message : String) : String :=
  let marked := match linesOf message.toList with
    | [] => []
    | first :: rest => markedLine style.cross first :: rest.map (markedLine style.bar)
  "\n".intercalate marked ++ if message.toList.getLast? = some '\n' then "\n" else ""

def text (error : CommandError) (color : Bool := false) : String :=
  let style := Style.ofColor color
  let help := (error.help?.map fun help => style.help ++ help ++ "\n").getD ""
  style.heading ++ "\n" ++ markedText style error.message ++ "\n" ++ help ++ "\n"

end Report

end TestInventory
