import TestInventory.Proofs.Json.Spelling

/-!
# Blanks outside strings

Taking the blanks outside its strings out of a text that spells tokens leaves the
tokens as they are written.  The layouts of a value are therefore the same text but
for such blanks.
-/

namespace TestInventory

namespace Json

/-- Where a character stands. -/
inductive Place where
  | outside
  | inside
  /-- In a string, just behind a backslash. -/
  | escaped
  deriving DecidableEq, Repr, Inhabited

/-- Where the next character stands. -/
def Place.after : Place → Char → Place
  | .outside, c => if c = '"' then .inside else .outside
  | .inside, c => if c = '"' then .outside else if c = '\\' then .escaped else .inside
  | .escaped, _ => .inside

/-- A text without the blanks outside its strings. -/
def strip (place : Place) : List Char → List Char
  | [] => []
  | c :: rest =>
    if place = .outside ∧ Token.isBlank c = true then strip place rest
    else c :: strip (place.after c) rest

theorem strip_cons_of_ne {place : Place} {c : Char}
    (kept : place ≠ .outside ∨ Token.isBlank c = false) (rest : List Char) :
    strip place (c :: rest) = c :: strip (place.after c) rest := by
  refine if_neg fun ⟨outside, blank⟩ => ?_
  obtain inside | visible := kept
  · exact inside outside
  · rw [visible] at blank
    cases blank

theorem strip_plain {text : List Char}
    (plain : ∀ c ∈ text, Token.isBlank c = false ∧ c ≠ '"') (rest : List Char) :
    strip .outside (text ++ rest) = text ++ strip .outside rest := by
  induction text with
  | nil => rfl
  | cons c text ih =>
      obtain ⟨⟨visible, notQuote⟩, others⟩ := List.forall_mem_cons.mp plain
      rw [List.cons_append, strip_cons_of_ne (.inr visible), Place.after, if_neg notQuote,
        ih others, List.cons_append]

theorem strip_enclosed {inner : List Char} (enclosed : Enclosed inner) (rest : List Char) :
    strip .inside (inner ++ rest) = inner ++ strip .inside rest := by
  have inside : Place.inside ≠ .outside := by decide
  induction enclosed with
  | nil => rfl
  | plain c notQuote notBackslash _ ih =>
      rw [List.cons_append, strip_cons_of_ne (.inl inside), Place.after, if_neg notQuote,
        if_neg notBackslash, ih, List.cons_append]
  | escaped c _ ih =>
      rw [List.cons_append, List.cons_append, strip_cons_of_ne (.inl inside),
        strip_cons_of_ne (.inl (by decide))]
      exact congrArg ('\\' :: c :: ·) ih

theorem strip_quote (content : Option String) (rest : List Char) :
    strip .outside ((quote content).toList ++ rest) =
      (quote content).toList ++ strip .outside rest := by
  rw [toList_quote, List.cons_append, List.append_assoc, strip_cons_of_ne (.inr rfl)]
  show '"' :: strip .inside _ = _
  rw [strip_enclosed (enclosed_body content), List.singleton_append,
    strip_cons_of_ne (.inl (by decide))]
  simp [Place.after]

theorem plain_of_open {token : Token} (ends : token.Open) :
    ∀ c ∈ token.text, Token.isBlank c = false ∧ c ≠ '"' := by
  have plain {c : Char} (inside : c.isAlpha = true ∨ Token.inNumber c = true) :
      Token.isBlank c = false ∧ c ≠ '"' :=
    ⟨(Token.plain_of_inside inside).1, (Token.plain_of_inside inside).2.2⟩
  have word {letters : List Char} (alpha : letters.all Char.isAlpha = true) :
      ∀ c ∈ letters, Token.isBlank c = false ∧ c ≠ '"' :=
    fun c member => plain (.inl (List.all_eq_true.mp alpha c member))
  cases token with
  | mark c => cases ends
  | null => exact word rfl
  | boolean content => cases content <;> exact word rfl
  | number digits => exact fun c member => plain (.inr ((Token.begins_of_isNumber ends).2 c member))
  | string content => cases ends

/-- What is left of a text are its tokens. -/
theorem strip_of_spelled {text : List Char} {tokens : List Token}
    (spelled : Token.Spelled text tokens) : strip .outside text = tokens.flatMap Token.text := by
  induction spelled with
  | nil => rfl
  | blank blank _ ih => rw [strip, if_pos ⟨rfl, blank⟩, ih]
  | @mark c rest _ mark _ ih =>
      have plain : ∀ d ∈ [c], Token.isBlank d = false ∧ d ≠ '"' := by
        intro d member
        cases List.mem_singleton.mp member
        refine ⟨Token.not_blank_of_isMark mark, ?_⟩
        rintro rfl
        cases mark
      rw [← List.singleton_append, strip_plain plain, ih]
      rfl
  | string content _ ih =>
      rw [strip_quote, ih]
      rfl
  | before ends _ _ ih =>
      rw [strip_plain (plain_of_open ends), ih]
      rfl

@[simp] theorem Layout.compact_line (depth : Nat) : Layout.compact.line depth = "" := rfl

@[simp] theorem Layout.compact_gap : Layout.compact.gap = "" := rfl

mutual

/-- A value on one line is its tokens with nothing between them. -/
theorem flatMap_text_tokens (depth : Nat) (value : Json) :
    (tokens value).flatMap Token.text = (write .compact depth value).toList := by
  match value with
  | .null => rw [tokens, write]; rfl
  | .boolean true => rw [tokens, write]; rfl
  | .boolean false => rw [tokens, write]; rfl
  | .number text => simp [tokens, write, Token.text]
  | .string content => simp [tokens, write, Token.text]
  | .array [] => rw [tokens, write]; rfl
  | .object [] => rw [tokens, write]; rfl
  | .array (item :: items) =>
      have first := flatMap_text_tokens (depth + 1) item
      have others := flatMap_text_itemTokens (depth + 1) items
      simp [tokens, write, Token.text, first, others]
  | .object ((key, value) :: fields) =>
      have first := flatMap_text_tokens (depth + 1) value
      have others := flatMap_text_fieldTokens (depth + 1) fields
      simp [tokens, write, Token.text, first, others]

theorem flatMap_text_itemTokens (depth : Nat) (items : List Json) :
    (itemTokens items).flatMap Token.text = (writeItems .compact depth items).toList := by
  match items with
  | [] => rw [itemTokens, writeItems]; rfl
  | item :: items =>
      have first := flatMap_text_tokens depth item
      have others := flatMap_text_itemTokens depth items
      simp [itemTokens, writeItems, Token.text, first, others]

theorem flatMap_text_fieldTokens (depth : Nat) (fields : List (Option String × Json)) :
    (fieldTokens fields).flatMap Token.text = (writeFields .compact depth fields).toList := by
  match fields with
  | [] => rw [fieldTokens, writeFields]; rfl
  | (key, value) :: fields =>
      have first := flatMap_text_tokens depth value
      have others := flatMap_text_fieldTokens depth fields
      simp [fieldTokens, writeFields, Token.text, first, others]

end

/-- Without the blanks outside its strings, every layout of a value is the one on a line. -/
theorem strip_write {layout : Layout} (blank : layout.Blank) (depth : Nat) {value : Json}
    (numbered : Numbered value) :
    strip .outside (write layout depth value).toList = (write .compact depth value).toList := by
  rw [strip_of_spelled (spelled_whole blank depth numbered), flatMap_text_tokens depth]

end Json

end TestInventory
