import TestInventory.Json.Token

/-!
# Reading JSON text

A text is a value when its tokens are those of one value and no more.  There is
no limit on nesting here; who makes use of a value may set one.
-/

namespace TestInventory

namespace Json

mutual

/-- Read a value; `fuel` bounds the number of steps. -/
def value? : (fuel : Nat) → List Token → Option (Json × List Token)
  | 0, _ => none
  | fuel + 1, tokens =>
    match tokens with
    | .null :: rest => some (.null, rest)
    | .boolean content :: rest => some (.boolean content, rest)
    | .number text :: rest => some (.number text, rest)
    | .string content :: rest => some (.string content, rest)
    | .mark '[' :: .mark ']' :: rest => some (.array [], rest)
    | .mark '[' :: rest => do
      let (items, rest) ← items? fuel rest
      return (.array items, rest)
    | .mark '\x7b' :: .mark '\x7d' :: rest => some (.object [], rest)
    | .mark '\x7b' :: rest => do
      let (fields, rest) ← fields? fuel rest
      return (.object fields, rest)
    | _ => none

def items? : (fuel : Nat) → List Token → Option (List Json × List Token)
  | 0, _ => none
  | fuel + 1, tokens => do
    let (item, rest) ← value? fuel tokens
    match rest with
    | .mark ',' :: rest =>
      let (items, rest) ← items? fuel rest
      return (item :: items, rest)
    | .mark ']' :: rest => return ([item], rest)
    | _ => none

def fields? : (fuel : Nat) → List Token → Option (List (Option String × Json) × List Token)
  | 0, _ => none
  | fuel + 1, tokens => do
    match tokens with
    | .string key :: .mark ':' :: rest =>
      let (value, rest) ← value? fuel rest
      match rest with
      | .mark ',' :: rest =>
        let (fields, rest) ← fields? fuel rest
        return ((key, value) :: fields, rest)
      | .mark '\x7d' :: rest => return ([(key, value)], rest)
      | _ => none
    | _ => none

end

def parse? (text : String) : Option Json := do
  let tokens ← Token.ofText? text.toList
  match value? (2 * tokens.length + 1) tokens with
  | some (value, []) => some value
  | _ => none

end Json

end TestInventory
