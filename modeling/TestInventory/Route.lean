/-!
# Routes

The route is the stack of suites whose bodies are open, outermost first.  It
gives every declaration its dotted path.
-/

namespace TestInventory

/-- The names of the open suites, outermost first. -/
structure Route where
  segments : List String := []
  deriving DecidableEq, Repr, Inhabited

namespace Route

def push (route : Route) (name : String) : Route := ⟨route.segments ++ [name]⟩

def pop (route : Route) : Route := ⟨route.segments.dropLast⟩

def innermost? (route : Route) : Option String := route.segments.getLast?

def depth (route : Route) : Nat := route.segments.length

def isEmpty (route : Route) : Bool := route.segments.isEmpty

/-- The dotted path of the innermost open suite. -/
def suitePath (route : Route) : String := ".".intercalate route.segments

/--
The dotted path of a test declared at this point.  One leading dot is dropped,
or else one trailing dot, so that a test outside all suites is named by itself.
-/
def leafPath (route : Route) (name : String) : String :=
  let joined := (route.suitePath ++ "." ++ name).toList
  match joined with
  | '.' :: rest => String.ofList rest
  | _ => if joined.getLast? = some '.' then String.ofList joined.dropLast
         else String.ofList joined

@[simp]
theorem pop_push (route : Route) (name : String) : (route.push name).pop = route := by
  cases route
  simp [push, pop]

end Route

end TestInventory
