import TestInventory.Proofs.Json.Scanning

/-!
# Texts that spell tokens

A text spells tokens when it holds them one after another with blanks between them
only.  A written value spells its tokens in every layout, so it is cut into them, and
without the blanks outside its strings it is the same text in every layout.
-/

namespace TestInventory

namespace Json

mutual

/-- The tokens of a value. -/
def tokens : Json → List Token
  | .null => [.null]
  | .boolean content => [.boolean content]
  | .number text => [.number text]
  | .string content => [.string content]
  | .array [] => [.mark '[', .mark ']']
  | .array (first :: rest) =>
    .mark '[' :: (tokens first ++ (itemTokens rest ++ [.mark ']']))
  | .object [] => [.mark '\x7b', .mark '\x7d']
  | .object ((key, value) :: rest) =>
    .mark '\x7b' :: .string key :: .mark ':' ::
      (tokens value ++ (fieldTokens rest ++ [.mark '\x7d']))

/-- The tokens of the items behind the first. -/
def itemTokens : List Json → List Token
  | [] => []
  | item :: rest => .mark ',' :: (tokens item ++ itemTokens rest)

/-- The tokens of the fields behind the first. -/
def fieldTokens : List (Option String × Json) → List Token
  | [] => []
  | (key, value) :: rest =>
    .mark ',' :: .string key :: .mark ':' :: (tokens value ++ fieldTokens rest)

end

mutual

/-- Whether every number in a value is written as a number. -/
def Numbered : Json → Prop
  | .number text => Token.isNumber text.toList = true
  | .array items => ItemsNumbered items
  | .object fields => FieldsNumbered fields
  | _ => True

/-- Whether every number in some items is written as a number. -/
def ItemsNumbered : List Json → Prop
  | [] => True
  | item :: rest => Numbered item ∧ ItemsNumbered rest

/-- Whether every number in some fields is written as a number. -/
def FieldsNumbered : List (Option String × Json) → Prop
  | [] => True
  | (_, value) :: rest => Numbered value ∧ FieldsNumbered rest

end

namespace Token

/-- How a token is written. -/
def text : Token → List Char
  | .mark c => [c]
  | .null => ['n', 'u', 'l', 'l']
  | .boolean true => ['t', 'r', 'u', 'e']
  | .boolean false => ['f', 'a', 'l', 's', 'e']
  | .number digits => digits.toList
  | .string content => (quote content).toList

/-- Whether a token is a word or a number, which ends before a blank or a mark. -/
def Open : Token → Prop
  | .null => True
  | .boolean _ => True
  | .number digits => isNumber digits.toList = true
  | _ => False

/-- Whether a text holds tokens with nothing but blanks between them. -/
inductive Spelled : List Char → List Token → Prop where
  | nil : Spelled [] []
  | blank {c : Char} {rest : List Char} {tokens : List Token} (blank : isBlank c = true)
      (spelled : Spelled rest tokens) : Spelled (c :: rest) tokens
  | mark {c : Char} {rest : List Char} {tokens : List Token} (mark : isMark c = true)
      (spelled : Spelled rest tokens) : Spelled (c :: rest) (.mark c :: tokens)
  | string (content : Option String) {rest : List Char} {tokens : List Token}
      (spelled : Spelled rest tokens) :
      Spelled ((quote content).toList ++ rest) (.string content :: tokens)
  | before {token : Token} {rest : List Char} {tokens : List Token} (ends : token.Open)
      (separate : Separate rest) (spelled : Spelled rest tokens) :
      Spelled (token.text ++ rest) (token :: tokens)

theorem Spelled.blanks {blanks rest : List Char} {tokens : List Token}
    (blank : ∀ c ∈ blanks, isBlank c = true) (spelled : Spelled rest tokens) :
    Spelled (blanks ++ rest) tokens := by
  induction blanks with
  | nil => exact spelled
  | cons c blanks ih =>
      obtain ⟨first, others⟩ := List.forall_mem_cons.mp blank
      exact .blank first (ih others)

theorem scan?_open {token : Token} (ends : token.Open) {rest : List Char}
    (separate : Separate rest) :
    scan? .nothing (token.text ++ rest) = (scan? .nothing rest).map (token :: ·) := by
  cases token with
  | mark c => cases ends
  | null => exact scan?_word rfl rfl rfl separate
  | boolean content =>
      cases content with
      | true => exact scan?_word rfl rfl rfl separate
      | false => exact scan?_word rfl rfl rfl separate
  | number digits => exact scan?_number ends separate
  | string content => cases ends

/-- A text that spells tokens is cut into them. -/
theorem ofText?_of_spelled {text : List Char} {tokens : List Token}
    (spelled : Spelled text tokens) : ofText? text = some tokens := by
  unfold ofText?
  induction spelled with
  | nil => rfl
  | blank blank _ ih =>
      rw [← ih]
      exact scan?_blanks (List.forall_mem_cons.mpr ⟨blank, List.forall_mem_nil _⟩) _
  | mark mark _ ih => rw [scan?_mark mark, ih, Option.map_some]
  | string content _ ih => rw [scan?_quote, ih, Option.map_some]
  | before ends separate _ ih => rw [scan?_open ends separate, ih, Option.map_some]

theorem Spelled.punctuation {word : String} {c : Char} (single : word.toList = [c])
    (mark : isMark c = true) {rest : List Char} {tokens : List Token}
    (spelled : Spelled rest tokens) : Spelled (word.toList ++ rest) (.mark c :: tokens) := by
  rw [single]
  exact .mark mark spelled

theorem separate_of_mark {c : Char} (mark : isMark c = true) (rest : List Char) :
    Separate (c :: rest) := by
  intro first member
  cases member
  exact .inr mark

theorem Separate.blanks {blanks rest : List Char} (blank : ∀ c ∈ blanks, isBlank c = true)
    (separate : Separate rest) : Separate (blanks ++ rest) := by
  cases blanks with
  | nil => exact separate
  | cons c blanks =>
      intro first member
      cases member
      exact .inl (blank c List.mem_cons_self)

end Token

/-- Whether a layout puts blanks between tokens and nothing else. -/
structure Layout.Blank (layout : Layout) : Prop where
  line : ∀ depth, ∀ c ∈ (layout.line depth).toList, Token.isBlank c = true
  gap : ∀ c ∈ layout.gap.toList, Token.isBlank c = true

theorem Layout.blank_compact : Layout.compact.Blank where
  line _ _ member := by cases member
  gap _ member := by cases member

theorem toList_pushn (text : String) (c : Char) (times : Nat) :
    (text.pushn c times).toList = text.toList ++ List.replicate times c := by
  rw [String.pushn_eq_repeat_push]
  induction times with
  | zero => simp [Nat.repeat]
  | succ times ih =>
      rw [Nat.repeat, String.toList_push, ih, List.append_assoc, List.replicate_succ']

theorem Layout.blank_spread : Layout.spread.Blank where
  line depth c member := by
    simp only [spread, String.toList_append, toList_pushn, List.mem_append] at member
    obtain feed | empty | space := member
    · cases List.mem_singleton.mp feed
      decide
    · cases empty
    · cases List.eq_of_mem_replicate space
      decide
  gap c member := by
    cases List.mem_singleton.mp member
    decide

section

variable {layout : Layout}

theorem separate_writeItems (depth : Nat) (items : List Json) {rest : List Char}
    (separate : Token.Separate rest) :
    Token.Separate ((writeItems layout depth items).toList ++ rest) := by
  cases items with
  | nil => exact separate
  | cons item items =>
      simp only [writeItems, String.toList_append, List.append_assoc]
      exact Token.separate_of_mark rfl _

theorem separate_writeFields (depth : Nat) (fields : List (Option String × Json))
    {rest : List Char} (separate : Token.Separate rest) :
    Token.Separate ((writeFields layout depth fields).toList ++ rest) := by
  cases fields with
  | nil => exact separate
  | cons field fields =>
      simp only [writeFields, String.toList_append, List.append_assoc]
      exact Token.separate_of_mark rfl _

mutual

/-- A written value spells its tokens before whatever ends it. -/
theorem spelled_write (blank : layout.Blank) (depth : Nat) (value : Json)
    (numbered : Numbered value) {rest : List Char} {others : List Token}
    (separate : Token.Separate rest) (spelled : Token.Spelled rest others) :
    Token.Spelled ((write layout depth value).toList ++ rest) (tokens value ++ others) := by
  have ends (token : Token) (ends : token.Open) :
      Token.Spelled (token.text ++ rest) (token :: others) := .before ends separate spelled
  match value with
  | .null =>
      rw [write, tokens]
      exact ends .null trivial
  | .boolean true =>
      rw [write, tokens]
      exact ends (.boolean true) trivial
  | .boolean false =>
      rw [write, tokens]
      exact ends (.boolean false) trivial
  | .number text => exact ends (.number text) numbered
  | .string content => exact .string content spelled
  | .array [] =>
      rw [write, tokens]
      show Token.Spelled ('[' :: ']' :: rest) (.mark '[' :: .mark ']' :: others)
      exact .mark rfl (.mark rfl spelled)
  | .object [] =>
      rw [write, tokens]
      show Token.Spelled ('\x7b' :: '\x7d' :: rest) (.mark '\x7b' :: .mark '\x7d' :: others)
      exact .mark rfl (.mark rfl spelled)
  | .array (item :: items) =>
      obtain ⟨itemNumbered, itemsNumbered⟩ := numbered
      have lineEnds := (Token.separate_of_mark (c := ']') rfl rest).blanks (blank.line depth)
      simp only [write, tokens, String.toList_append, List.append_assoc, List.cons_append,
        List.nil_append]
      refine .punctuation rfl rfl (.blanks (blank.line _) ?_)
      refine spelled_write blank _ item itemNumbered (separate_writeItems _ _ lineEnds) ?_
      refine spelled_writeItems blank _ items itemsNumbered lineEnds ?_
      exact .blanks (blank.line _) (.mark rfl spelled)
  | .object ((key, value) :: fields) =>
      obtain ⟨valueNumbered, fieldsNumbered⟩ := numbered
      have lineEnds := (Token.separate_of_mark (c := '\x7d') rfl rest).blanks (blank.line depth)
      simp only [write, tokens, String.toList_append, List.append_assoc, List.cons_append,
        List.nil_append]
      refine .punctuation rfl rfl (.blanks (blank.line _) (.string key ?_))
      refine .punctuation rfl rfl (.blanks blank.gap ?_)
      refine spelled_write blank _ value valueNumbered (separate_writeFields _ _ lineEnds) ?_
      refine spelled_writeFields blank _ fields fieldsNumbered lineEnds ?_
      exact .blanks (blank.line _) (.mark rfl spelled)

theorem spelled_writeItems (blank : layout.Blank) (depth : Nat) (items : List Json)
    (numbered : ItemsNumbered items) {rest : List Char} {others : List Token}
    (separate : Token.Separate rest) (spelled : Token.Spelled rest others) :
    Token.Spelled ((writeItems layout depth items).toList ++ rest)
      (itemTokens items ++ others) := by
  match items with
  | [] => exact spelled
  | item :: items =>
      obtain ⟨itemNumbered, itemsNumbered⟩ := numbered
      simp only [writeItems, itemTokens, String.toList_append, List.append_assoc,
        List.cons_append]
      refine .punctuation rfl rfl (.blanks (blank.line _) ?_)
      refine spelled_write blank _ item itemNumbered (separate_writeItems _ _ separate) ?_
      exact spelled_writeItems blank _ items itemsNumbered separate spelled

theorem spelled_writeFields (blank : layout.Blank) (depth : Nat)
    (fields : List (Option String × Json)) (numbered : FieldsNumbered fields)
    {rest : List Char} {others : List Token} (separate : Token.Separate rest)
    (spelled : Token.Spelled rest others) :
    Token.Spelled ((writeFields layout depth fields).toList ++ rest)
      (fieldTokens fields ++ others) := by
  match fields with
  | [] => exact spelled
  | (key, value) :: fields =>
      obtain ⟨valueNumbered, fieldsNumbered⟩ := numbered
      simp only [writeFields, fieldTokens, String.toList_append, List.append_assoc,
        List.cons_append]
      refine .punctuation rfl rfl (.blanks (blank.line _) (.string key ?_))
      refine .punctuation rfl rfl (.blanks blank.gap ?_)
      refine spelled_write blank _ value valueNumbered (separate_writeFields _ _ separate) ?_
      exact spelled_writeFields blank _ fields fieldsNumbered separate spelled

end

/-- A written value spells its tokens. -/
theorem spelled_whole (blank : layout.Blank) (depth : Nat) {value : Json}
    (numbered : Numbered value) :
    Token.Spelled (write layout depth value).toList (tokens value) := by
  have nothing : Token.Separate [] := by
    intro c member
    cases member
  have spelled := spelled_write blank depth value numbered nothing .nil
  rwa [List.append_nil, List.append_nil] at spelled

end

end Json

end TestInventory
