import TestInventory.Source.Position

/-!
# Tokens

A program is read as a sequence of tokens.  A token knows the bytes that it
covers and whether a line ended between it and the token before.
-/

namespace TestInventory.Source

inductive Lexeme where
  /-- An identifier or keyword, with its escapes replaced. -/
  | word (text : String) (escaped : Bool)
  | privateName (text : String)
  | sign (text : String)
  | number (value : Float)
  | bigInteger
  | string (value : String)
  /--
  A piece of a template up to its end or up to the next `$` with a brace.  It has
  no value when it holds an escape that templates do not know.
  -/
  | template (value : Option String) (closed : Bool)
  | pattern
  | finish
  | invalid
  deriving Repr, Inhabited

structure Token where
  lexeme : Lexeme
  span : Span
  onNewLine : Bool
  deriving Repr, Inhabited

/-- A place between two characters: what follows, and how many bytes come before. -/
structure Cursor where
  rest : List Char
  offset : Nat := 0
  deriving DecidableEq, Repr, Inhabited

namespace Token

def isSign (token : Token) (text : String) : Bool :=
  match token.lexeme with
  | .sign s => s == text
  | _ => false

/-- Whether the token is this word, written without escapes. -/
def isWord (token : Token) (text : String) : Bool :=
  match token.lexeme with
  | .word w false => w == text
  | _ => false

def isFinish (token : Token) : Bool :=
  match token.lexeme with
  | .finish => true
  | _ => false

end Token

def reservedWords : List String :=
  ["break", "case", "catch", "class", "const", "continue", "debugger", "default", "delete",
    "do", "else", "enum", "export", "extends", "false", "finally", "for", "function", "if",
    "import", "in", "instanceof", "new", "null", "return", "super", "switch", "this", "throw",
    "true", "try", "typeof", "var", "void", "while", "with"]

/-- The words that are reserved in the code of modules only. -/
def strictWords : List String :=
  ["implements", "interface", "let", "package", "private", "protected", "public", "static"]

def isReserved (word : String) : Bool := reservedWords.contains word

end TestInventory.Source
