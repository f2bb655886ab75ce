import TestInventory.Source.Position

/-!
# Programs

The syntax tree of a test file, as far as declarations can depend on it.  Forms
that the evaluation follows have constructors of their own; every other
expression or statement is `other` and keeps the parts that stand inside it, so
that no call is lost.
-/

namespace TestInventory

open TestInventory.Source (Span)

/-- A value as far as names are concerned. -/
inductive Value where
  | text (content : String)
  | number (content : Float)
  | boolean (content : Bool)
  deriving Repr, Inhabited

mutual

inductive Expression where
  | identifier (span : Span) (name : String)
  | this (span : Span)
  | literal (span : Span) (value : Value)
  /-- A template: its pieces and the expressions between them. -/
  | template (span : Span) (pieces : List String) (holes : List Expression)
  | array (span : Span) (elements : List Element)
  | function (span : Span) (callback : Callback)
  | call (span : Span) (callee : Expression) (arguments : List Element)
  | construct (span : Span) (callee : Expression) (arguments : List Element)
  /-- A member named by a word, outside optional chains or inside. -/
  | member (span : Span) (object : Expression) (property : String)
  | await (span : Span) (operand : Expression)
  | parenthesized (span : Span) (inner : Expression)
  | sequence (span : Span) (items : List Expression)
  | assign (span : Span) (target : Target) (value : Expression)
  | sum (span : Span) (left right : Expression)
  | negative (span : Span) (operand : Expression)
  | other (span : Span) (parts : List Part)

inductive Element where
  | plain (expression : Expression)
  | spread (expression : Expression)
  /-- A place that is left out. -/
  | hole

/-- What is bound or assigned: a name, or a pattern or member with the parts inside it. -/
inductive Target where
  | name (name : String)
  | other (parts : List Part)

/-- Something inside a form that is not followed. -/
inductive Part where
  | expression (expression : Expression)
  | statement (statement : Statement)

inductive Callback where
  | block (parameters : List Target) (body : List Statement)
  /-- An arrow function whose body is an expression. -/
  | arrow (parameters : List Target) (body : Expression)

inductive Declarator where
  | mk (target : Target) (value : Option Expression)

inductive Statement where
  | expression (span : Span) (expression : Expression)
  | block (span : Span) (body : List Statement)
  /-- Variables; `hoisted` ones belong to the function and not to the block. -/
  | declaration (span : Span) (hoisted : Bool) (declarators : List Declarator)
  | function (span : Span) (name : Option String) (callback : Callback)
  | exported (span : Span) (declaration : Statement)
  | empty (span : Span)
  | forOf (span : Span) (binder : Binder) (iterated : Expression) (body : Statement)
  | throw (span : Span) (argument : Expression)
  | other (span : Span) (parts : List Part)

inductive Binder where
  | declaration (hoisted : Bool) (declarators : List Declarator)
  | target (target : Target)

end

instance : Inhabited Expression := ⟨.this default⟩
instance : Inhabited Statement := ⟨.empty default⟩
instance : Inhabited Target := ⟨.other []⟩

namespace Expression

def span : Expression → Span
  | .identifier span _ => span
  | .this span => span
  | .literal span _ => span
  | .template span _ _ => span
  | .array span _ => span
  | .function span _ => span
  | .call span _ _ => span
  | .construct span _ _ => span
  | .member span _ _ => span
  | .await span _ => span
  | .parenthesized span _ => span
  | .sequence span _ => span
  | .assign span _ _ => span
  | .sum span _ _ => span
  | .negative span _ => span
  | .other span _ => span

end Expression

namespace Element

def plain? : Element → Option Expression
  | .plain expression => some expression
  | _ => none

end Element

/-- A test file: its statements, without the directives before them. -/
structure Program where
  statements : List Statement
  deriving Inhabited

end TestInventory
