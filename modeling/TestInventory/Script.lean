import TestInventory.Kind
import TestInventory.Site

/-!
# Declarations as data, and who listens to them

A test file makes declarations: it opens suites, which nest further
declarations, and names tests and hooks.  A `Listener` hears them one at a time
and decides for each suite whether its body is run.  A `Script` is a finished
sequence of declarations that can be played to any listener.
-/

namespace TestInventory

inductive ReadFailure where
  | notFound
  | isDirectory
  | notADirectory
  | tooManyLinks
  | noDevice
  | notText
  deriving DecidableEq, Repr, Inhabited

namespace ReadFailure

/-- The host's words for the failure. -/
def message : ReadFailure → String
  | .notFound => "No such file or directory (os error 2)"
  | .notADirectory => "Not a directory (os error 20)"
  | .isDirectory => "Is a directory (os error 21)"
  | .tooManyLinks => "Too many levels of symbolic links (os error 40)"
  | .noDevice => "No such device or address (os error 6)"
  | .notText => "stream did not contain valid UTF-8"

end ReadFailure

/-- Why the declarations of one file could not all be made. -/
inductive LoadError where
  | unreadable (path : String)
  /-- The code of the file, or of a suite body, threw. -/
  | thrown (location : Location) (message : String)
  | missingCallback (name : String) (location : Location)
  | read (path : String) (failure : ReadFailure)
  /-- A listener or a scripted body gave up. -/
  | custom (message : String)
  deriving DecidableEq, Repr, Inhabited

namespace LoadError

def message : LoadError → String
  | .unreadable path => "syntax error in " ++ path ++ ": the text is not a program"
  | .thrown location message => "uncaught exception at " ++ location.text ++ ": " ++ message
  | .missingCallback name location =>
    "suite \"" ++ name ++ "\" was defined but no callback was supplied (" ++ location.text ++ ")"
  | .read path failure => "failed to read " ++ path ++ ": " ++ failure.message
  | .custom message => message

end LoadError

/-- How a sequence of declarations ends. -/
abbrev Outcome := Except LoadError Unit

structure SuiteCall where
  name : String
  variant : Variant := .plain
  site : CallSite := .unknown
  deriving DecidableEq, Repr, Inhabited

/-- A test as it is declared; a pending test has no body. -/
structure TestCall where
  name : String
  variant : Variant := .plain
  site : CallSite := .unknown
  hasBody : Bool := true
  deriving DecidableEq, Repr, Inhabited

structure HookCall where
  hook : Hook
  site : CallSite := .unknown
  hasBody : Bool := true
  deriving DecidableEq, Repr, Inhabited

/-- The forms of code that is not followed although it holds declarations. -/
inductive Construct where
  | exported
  | statement
  | expression
  | call
  | loop
  deriving DecidableEq, Repr, Inhabited

namespace Construct

def name : Construct → String
  | .exported => "export"
  | .statement => "statement"
  | .expression => "expression"
  | .call => "call"
  | .loop => "for...of loop"

end Construct

/-- What is worth noting about a file besides its declarations. -/
inductive Notice where
  /-- A call of something that declares nothing. -/
  | skipped (callee : String)
  /-- A name that is not known before the code runs; its source text stands in. -/
  | unknownName (file : String) (line : Nat) (text : String)
  | missing (file : String) (line : Nat) (construct : Construct)
  deriving DecidableEq, Repr, Inhabited

namespace Notice

/-- Whether the user is warned, and not only the trace. -/
def isWarning : Notice → Bool
  | .skipped _ => false
  | _ => true

def message : Notice → String
  | .skipped callee => "skipping non-declaration call callee=" ++ callee
  | .unknownName file line text =>
    "declaration name is not statically known, using its source text file=" ++ file ++
      " line=" ++ toString line ++ " expression=" ++ text
  | .missing file line construct =>
    "declarations inside this " ++ construct.name ++
      " are not evaluated and are missing from the inventory file=" ++ file ++
      " line=" ++ toString line

end Notice

/-- What a listener does with the body of a suite it was told of. -/
inductive Admission where
  | enter
  /-- The body is not run; the declaration succeeds. -/
  | pass
  | refuse (error : LoadError)
  deriving DecidableEq, Repr, Inhabited

/-- Hears declarations in the order in which they are made. -/
structure Listener (σ : Type) where
  suite : SuiteCall → σ → Admission × σ
  /-- Told when the body of an entered suite has ended. -/
  leave : SuiteCall → Outcome → σ → σ
  test : TestCall → σ → σ
  hook : HookCall → σ → σ
  notice : Notice → σ → σ

inductive Script where
  | done
  | fail (error : LoadError)
  | suite (call : SuiteCall) (body next : Script)
  | test (call : TestCall) (next : Script)
  | hook (call : HookCall) (next : Script)
  | notice (notice : Notice) (next : Script)
  deriving DecidableEq, Repr, Inhabited

namespace Script

/-- Play a script to a listener; the first error ends it. -/
def play {σ : Type} (listener : Listener σ) : Script → σ → Outcome × σ
  | .done, s => (.ok (), s)
  | .fail error, s => (.error error, s)
  | .test call next, s => next.play listener (listener.test call s)
  | .hook call next, s => next.play listener (listener.hook call s)
  | .notice note next, s => next.play listener (listener.notice note s)
  | .suite call body next, s =>
    match listener.suite call s with
    | (.refuse error, s) => (.error error, s)
    | (.pass, s) => next.play listener s
    | (.enter, s) =>
      match body.play listener s with
      | (.ok (), s) => next.play listener (listener.leave call (.ok ()) s)
      | (.error error, s) => (.error error, listener.leave call (.error error) s)

end Script

end TestInventory
