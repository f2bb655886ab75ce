import TestInventory.Program.Basic

/-!
# Scopes

Names are bound in scopes.  Each block and each activation of a function has a
scope of its own, whose parent is the scope around it in the text.  All scopes
of a file stay in one arena, since a callback may still refer to the scope in
which it was created.  A parent always has a smaller index than its child, so
every chain of scopes ends; the scope of the file has index 0.
-/

namespace TestInventory

/-- A callback and the scope in which it was created. -/
structure Closure where
  callback : Callback
  scope : Nat

inductive Binding where
  | value (value : Value)
  | list (items : List Binding)
  | callback (closure : Closure)
  /-- The name is declared, but declarations cannot make use of what it holds. -/
  | unknown
  deriving Inhabited

abbrev Bindings := List (String × Binding)

namespace Bindings

/-- Bind a name; an earlier binding of the name is replaced. -/
def bind (name : String) (binding : Binding) : Bindings → Bindings
  | [] => [(name, binding)]
  | entry :: rest =>
    if entry.1 = name then (name, binding) :: rest else entry :: bind name binding rest

def find? (bindings : Bindings) (name : String) : Option Binding :=
  (List.find? (·.1 = name) bindings).map (·.2)

def binds (bindings : Bindings) (name : String) : Bool := (bindings.find? name).isSome

end Bindings

structure Scope where
  /-- The scope around this one, if it is not that of the file. -/
  parent : Option Nat := none
  /-- Whether variables of the function, and not only of the block, belong here. -/
  ofFunction : Bool := false
  bindings : Bindings := []
  deriving Inhabited

/-- All scopes made so far; an index stands for a scope. -/
structure Scopes where
  arena : Array Scope
  deriving Inhabited

namespace Scopes

def file : Nat := 0

def initial : Scopes := ⟨#[{ ofFunction := true }]⟩

def size (scopes : Scopes) : Nat := scopes.arena.size

/-- Make a scope inside another; the new scope has the old size as its index. -/
def add (scopes : Scopes) (parent : Nat) (ofFunction : Bool) : Scopes :=
  ⟨scopes.arena.push { parent := some parent, ofFunction }⟩

/-- The scopes from an index outwards, with their indices. -/
def chain (scopes : Scopes) (start : Nat) : List (Nat × Scope) :=
  match scopes.arena[start]? with
  | none => []
  | some scope =>
    (start, scope) ::
      match scope.parent with
      | none => []
      -- A scope is made inside one that is there, so the comparison never fails.
      | some parent => if parent < start then scopes.chain parent else []
termination_by start

def bindIn (scopes : Scopes) (index : Nat) (name : String) (binding : Binding) : Scopes :=
  ⟨scopes.arena.modify index fun scope =>
    { scope with bindings := scope.bindings.bind name binding }⟩

/-- The scope that receives variables of the function around a scope. -/
def functionScope (scopes : Scopes) (start : Nat) : Nat :=
  (((scopes.chain start).find? (·.2.ofFunction)).map (·.1)).getD file

/-- The scope in which a name is found, or that of the file. -/
def owner (scopes : Scopes) (start : Nat) (name : String) : Nat :=
  (((scopes.chain start).find? (·.2.bindings.binds name)).map (·.1)).getD file

/-- Declare a name here or, if it is hoisted, in the function around. -/
def declare (scopes : Scopes) (start : Nat) (hoisted : Bool) (name : String) (binding : Binding) :
    Scopes :=
  scopes.bindIn (if hoisted then scopes.functionScope start else start) name binding

/-- Assign to the nearest name, or to a new name of the file. -/
def assign (scopes : Scopes) (start : Nat) (name : String) (binding : Binding) : Scopes :=
  scopes.bindIn (scopes.owner start name) name binding

def lookup (scopes : Scopes) (start : Nat) (name : String) : Option Binding :=
  (scopes.chain start).findSome? (·.2.bindings.find? name)

end Scopes

end TestInventory
