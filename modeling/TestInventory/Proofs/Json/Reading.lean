import TestInventory.Json.Reader
import TestInventory.Proofs.Json.Spelling

/-!
# Reading a written value

The tokens of a value are read as the value, with two steps for every token at most.
So a value written in any layout is read as itself.
-/

namespace TestInventory

namespace Json

/-- No value begins with the end of an array. -/
theorem tokens_ne_close (value : Json) (rest others : List Token) :
    tokens value ++ rest ≠ .mark ']' :: others := by
  cases value with
  | null => simp [tokens]
  | boolean content => simp [tokens]
  | number text => simp [tokens]
  | string content => simp [tokens]
  | array items => cases items <;> simp [tokens]
  | object fields => cases fields <;> simp [tokens]

theorem length_tokens_pos (value : Json) : 0 < (tokens value).length := by
  cases value with
  | null => simp [tokens]
  | boolean content => simp [tokens]
  | number text => simp [tokens]
  | string content => simp [tokens]
  | array items => cases items <;> simp [tokens]
  | object fields => cases fields <;> simp [tokens]

/-- The brackets of an array are taken off when it has items. -/
theorem value?_bracket {fuel : Nat} {inner rest : List Token} {items : List Json}
    (full : ∀ others, inner ≠ .mark ']' :: others) (read : items? fuel inner = some (items, rest)) :
    value? (fuel + 1) (.mark '[' :: inner) = some (.array items, rest) := by
  rw [value?]
  · rw [read]
    rfl
  · exact full

/-- The braces of an object are taken off when it has fields. -/
theorem value?_brace {fuel : Nat} {key : Option String} {inner rest : List Token}
    {fields : List (Option String × Json)}
    (read : fields? fuel (.string key :: inner) = some (fields, rest)) :
    value? (fuel + 1) (.mark '\x7b' :: .string key :: inner) = some (.object fields, rest) := by
  rw [value?]
  · rw [read]
    rfl
  · intro others same
    cases same

mutual

/-- The tokens of a value are read as the value, whatever follows. -/
theorem value?_tokens (fuel : Nat) (value : Json) (enough : 2 * (tokens value).length ≤ fuel)
    (rest : List Token) : value? fuel (tokens value ++ rest) = some (value, rest) := by
  match fuel, value with
  | 0, value =>
      have positive := length_tokens_pos value
      omega
  | fuel + 1, .null => simp [tokens, value?]
  | fuel + 1, .boolean content => simp [tokens, value?]
  | fuel + 1, .number text => simp [tokens, value?]
  | fuel + 1, .string content => simp [tokens, value?]
  | fuel + 1, .array [] => simp [tokens, value?]
  | fuel + 1, .object [] => simp [tokens, value?]
  | fuel + 1, .array (item :: items) =>
      simp only [tokens, List.length_cons, List.length_append, List.length_nil] at enough
      simp only [tokens, List.cons_append, List.append_assoc, List.nil_append]
      exact value?_bracket (tokens_ne_close item _) (items?_tokens fuel item items (by omega) rest)
  | fuel + 1, .object ((key, value) :: fields) =>
      simp only [tokens, List.length_cons, List.length_append, List.length_nil] at enough
      simp only [tokens, List.cons_append, List.append_assoc, List.nil_append]
      exact value?_brace (fields?_tokens fuel key value fields (by omega) rest)

theorem items?_tokens (fuel : Nat) (item : Json) (items : List Json)
    (enough : 2 * ((tokens item).length + (itemTokens items).length) < fuel) (rest : List Token) :
    items? fuel (tokens item ++ (itemTokens items ++ .mark ']' :: rest)) =
      some (item :: items, rest) := by
  match fuel, items with
  | 0, items => omega
  | fuel + 1, [] =>
      have first := value?_tokens fuel item (by omega) (.mark ']' :: rest)
      simp [items?, itemTokens, first]
  | fuel + 1, next :: items =>
      simp only [itemTokens, List.length_cons, List.length_append] at enough
      have first := value?_tokens fuel item (by omega)
        (.mark ',' :: (tokens next ++ (itemTokens items ++ .mark ']' :: rest)))
      have others := items?_tokens fuel next items (by omega) rest
      simp [items?, itemTokens, first, others]

theorem fields?_tokens (fuel : Nat) (key : Option String) (value : Json)
    (fields : List (Option String × Json))
    (enough : 2 * ((tokens value).length + (fieldTokens fields).length) < fuel)
    (rest : List Token) :
    fields? fuel (.string key :: .mark ':' ::
        (tokens value ++ (fieldTokens fields ++ .mark '\x7d' :: rest))) =
      some ((key, value) :: fields, rest) := by
  match fuel, fields with
  | 0, fields => omega
  | fuel + 1, [] =>
      have first := value?_tokens fuel value (by omega) (.mark '\x7d' :: rest)
      simp [fields?, fieldTokens, first]
  | fuel + 1, (name, next) :: fields =>
      simp only [fieldTokens, List.length_cons, List.length_append] at enough
      have first := value?_tokens fuel value (by omega)
        (.mark ',' :: .string name :: .mark ':' ::
          (tokens next ++ (fieldTokens fields ++ .mark '\x7d' :: rest)))
      have others := fields?_tokens fuel name next fields (by omega) rest
      simp [fields?, fieldTokens, first, others]

end

/-- A value written in any layout is read as itself. -/
theorem parse?_write {layout : Layout} (blank : layout.Blank) {value : Json}
    (numbered : Numbered value) : parse? (write layout 0 value) = some value := by
  have read := value?_tokens (2 * (tokens value).length + 1) value (by omega) []
  rw [List.append_nil] at read
  simp [parse?, Token.ofText?_of_spelled (spelled_whole blank 0 numbered), read]

end Json

end TestInventory
