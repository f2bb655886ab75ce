import TestInventory.Proofs.Json.Number
import TestInventory.Proofs.Json.Quoted

/-!
# The tokens of a written value

Whatever blanks a layout puts between the tokens of a value, the text is cut into
these tokens again.  Each lemma speaks of a piece of text before any other: a string
ends at its quote, a number or a word before the blank or mark that follows.
-/

namespace TestInventory

namespace Json

namespace Token

/-- Whether a text ends what is before it: it is empty or begins with a blank or a mark. -/
def Separate (rest : List Char) : Prop := ∀ c ∈ rest.head?, isBlank c = true ∨ isMark c = true

theorem scan?_of_take? {begun next : Begun} {c : Char} {tokens : List Token}
    (taken : take? begun c = some (tokens, next)) (rest : List Char) :
    scan? begun (c :: rest) = (scan? next rest).map (tokens ++ ·) := by
  rw [scan?, taken]
  exact Option.map_eq_bind.symm

theorem scan?_of_silent {begun next : Begun} {c : Char}
    (silent : take? begun c = some ([], next)) (rest : List Char) :
    scan? begun (c :: rest) = scan? next rest := by
  rw [scan?_of_take? silent]
  exact Option.map_id_apply

theorem scan?_blanks {blanks : List Char} (blank : ∀ c ∈ blanks, isBlank c = true)
    (rest : List Char) : scan? .nothing (blanks ++ rest) = scan? .nothing rest := by
  induction blanks with
  | nil => rfl
  | cons c blanks ih =>
      obtain ⟨first, others⟩ := List.forall_mem_cons.mp blank
      have silent : take? .nothing c = some ([], .nothing) := by
        rw [take?, begin?, if_pos first]
      rw [List.cons_append, scan?_of_silent silent, ih others]

theorem not_blank_of_isMark {c : Char} (mark : isMark c = true) : isBlank c = false := by
  simp only [isMark, Bool.or_eq_true, decide_eq_true_eq] at mark
  rcases mark with ((((rfl | rfl) | rfl) | rfl) | rfl) | rfl <;> decide

theorem scan?_mark {c : Char} (mark : isMark c = true) (rest : List Char) :
    scan? .nothing (c :: rest) = (scan? .nothing rest).map (.mark c :: ·) := by
  have taken : take? .nothing c = some ([.mark c], .nothing) := by
    simp [take?, begin?, not_blank_of_isMark mark, mark]
  exact scan?_of_take? taken rest

/-- What follows a word or a number is in none. -/
theorem ends_of_separate {c : Char} (separate : isBlank c = true ∨ isMark c = true) :
    c.isAlpha = false ∧ inNumber c = false := by
  simp only [isBlank, isMark, Bool.or_eq_true, decide_eq_true_eq] at separate
  rcases separate with (((rfl | rfl) | rfl) | rfl) | (((((rfl | rfl) | rfl) | rfl) | rfl) | rfl) <;>
    decide

/-- No word and no number holds a blank, a mark or a quote. -/
theorem plain_of_inside {c : Char} (inside : c.isAlpha = true ∨ inNumber c = true) :
    isBlank c = false ∧ isMark c = false ∧ c ≠ '"' := by
  have apart : ¬(isBlank c = true ∨ isMark c = true) := by
    intro separate
    obtain ⟨notLetter, notNumeric⟩ := ends_of_separate separate
    simp [notLetter, notNumeric] at inside
  rw [not_or, Bool.not_eq_true, Bool.not_eq_true] at apart
  refine ⟨apart.1, apart.2, ?_⟩
  rintro rfl
  cases inside <;> contradiction

/-- What was begun ends where the next character is not taken into it. -/
theorem scan?_of_separate {begun : Begun} {rest : List Char}
    (closes : ∀ c ∈ rest.head?, take? begun c = take?.close? begun c) :
    scan? begun rest =
      (finish? begun).bind fun finished => (scan? .nothing rest).map (finished ++ ·) := by
  cases rest with
  | nil =>
      rw [scan?, scan?]
      cases finish? begun <;> simp [finish?]
  | cons c rest =>
      have closed : take? begun c = (finish? begun).bind fun finished =>
          (take? .nothing c).map fun step => (finished ++ step.1, step.2) := by
        simp only [closes c rfl, Option.map_eq_bind]
        rfl
      cases ended : finish? begun with
      | none => simp [scan?, closed, ended]
      | some finished =>
          rw [ended, Option.bind_some] at closed
          cases begins : take? .nothing c with
          | none => simp [scan?, closed, begins]
          | some step =>
              obtain ⟨tokens, next⟩ := step
              rw [begins] at closed
              rw [scan?_of_take? closed, Option.bind_some, scan?_of_take? begins, Option.map_map]
              simp [Function.comp_def]

/-- How a word or a number is held: it takes what it accepts and ends before the rest. -/
structure Holding (hold : List Char → Begun) (accepts : Char → Bool) : Prop where
  takes : ∀ held c, accepts c = true → take? (hold held) c = some ([], hold (c :: held))
  closes : ∀ held c, accepts c = false → take? (hold held) c = take?.close? (hold held) c
  ends : ∀ c, isBlank c = true ∨ isMark c = true → accepts c = false

theorem holding_word : Holding .word Char.isAlpha where
  takes held c accepted := by simp [take?, accepted]
  closes held c refused := by simp [take?, refused]
  ends c separate := (ends_of_separate separate).1

theorem holding_number : Holding .number inNumber where
  takes held c accepted := by simp [take?, accepted]
  closes held c refused := by simp [take?, refused]
  ends c separate := (ends_of_separate separate).2

namespace Holding

variable {hold : List Char → Begun} {accepts : Char → Bool}

theorem scan?_append (holding : Holding hold accepts) {text : List Char}
    (accepted : ∀ c ∈ text, accepts c = true) (held rest : List Char) :
    scan? (hold held) (text ++ rest) = scan? (hold (text.reverse ++ held)) rest := by
  induction text generalizing held with
  | nil => rfl
  | cons c text ih =>
      obtain ⟨first, others⟩ := List.forall_mem_cons.mp accepted
      rw [List.cons_append, scan?_of_silent (holding.takes held c first), ih others,
        List.reverse_cons, List.append_assoc, List.singleton_append]

/-- What is held up to a blank or a mark is one token. -/
theorem scan?_token (holding : Holding hold accepts) {first : Char} {text : List Char}
    {token : Token} (begins : take? .nothing first = some ([], hold [first]))
    (accepted : ∀ c ∈ text, accepts c = true)
    (finished : finish? (hold (first :: text).reverse) = some [token]) {rest : List Char}
    (separate : Separate rest) :
    scan? .nothing (first :: text ++ rest) = (scan? .nothing rest).map (token :: ·) := by
  rw [List.reverse_cons] at finished
  have closes : ∀ c ∈ rest.head?, take? (hold (text.reverse ++ [first])) c =
      take?.close? (hold (text.reverse ++ [first])) c :=
    fun c member => holding.closes _ c (holding.ends c (separate c member))
  rw [List.cons_append, scan?_of_silent begins, holding.scan?_append accepted,
    scan?_of_separate closes, finished]
  rfl

end Holding

theorem scan?_word {first : Char} {letters : List Char} {token : Token}
    (begins : take? .nothing first = some ([], .word [first]))
    (alpha : letters.all Char.isAlpha = true) (word : ofWord? (first :: letters) = some token)
    {rest : List Char} (separate : Separate rest) :
    scan? .nothing (first :: letters ++ rest) = (scan? .nothing rest).map (token :: ·) := by
  have finished : finish? (.word (first :: letters).reverse) = some [token] := by
    rw [finish?, List.reverse_reverse, word, Option.map_some]
  exact holding_word.scan?_token begins (List.all_eq_true.mp alpha) finished separate

theorem take?_number {c : Char} (begins : (c.isDigit || c = '-') = true) :
    take? .nothing c = some ([], .number [c]) := by
  have inside : inNumber c = true := by
    simp only [inNumber, begins, Bool.true_or]
  obtain ⟨notBlank, notMark, notQuote⟩ := plain_of_inside (.inr inside)
  simp [take?, begin?, notBlank, notMark, notQuote, begins]

theorem scan?_number {text : String} (number : isNumber text.toList = true) {rest : List Char}
    (separate : Separate rest) :
    scan? .nothing (text.toList ++ rest) = (scan? .nothing rest).map (.number text :: ·) := by
  obtain ⟨⟨first, others, written, begins⟩, numeric⟩ := begins_of_isNumber number
  have finished : finish? (.number (first :: others).reverse) = some [.number text] := by
    rw [finish?, List.reverse_reverse, ← written, ofNumber?, if_pos number, String.ofList_toList,
      Option.map_some]
  rw [written] at numeric
  rw [written]
  exact holding_number.scan?_token (take?_number begins) (List.forall_mem_cons.mp numeric).2
    finished separate

/-- Characters that may stand between quotes are held. -/
theorem scan?_enclosed {inner : List Char} (enclosed : Enclosed inner) (held rest : List Char) :
    scan? (.string held false) (inner ++ rest) =
      scan? (.string (inner.reverse ++ held) false) rest := by
  induction enclosed generalizing held with
  | nil => rfl
  | plain c notQuote notBackslash _ ih =>
      rw [List.cons_append, scan?_of_silent (by rw [take?, if_neg notQuote]),
        decide_eq_false notBackslash, ih]
      simp
  | escaped c _ ih =>
      rw [List.cons_append, List.cons_append, scan?_of_silent (by rw [take?, if_neg (by decide)]),
        decide_eq_true rfl, scan?_of_silent rfl, ih]
      simp

theorem scan?_quote (content : Option String) (rest : List Char) :
    scan? .nothing ((quote content).toList ++ rest) =
      (scan? .nothing rest).map (.string content :: ·) := by
  have begins : take? .nothing '"' = some ([], .string [] false) := rfl
  have ends : take? (.string (body content).reverse false) '"' =
      some ([.string content], .nothing) := by
    simp [take?, ofQuoted?_body]
  rw [toList_quote, List.cons_append, List.append_assoc, scan?_of_silent begins,
    scan?_enclosed (enclosed_body content), List.append_nil, List.singleton_append,
    scan?_of_take? ends]
  rfl

end Token

end Json

end TestInventory
