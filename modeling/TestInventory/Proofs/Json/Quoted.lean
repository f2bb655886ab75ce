import TestInventory.Json.Token

/-!
# Strings between their quotes

What is written for a string has a quote or a backslash between its quotes as part
of an escape only, so the string ends at its own quote.  Taking the escapes back
gives every text again: a text has no halves of character pairs that could be joined
with anything.
-/

namespace TestInventory

namespace Json

/-- What is written for a string between its quotes. -/
def body : Option String → List Char
  | some text => text.toList.flatMap escape
  | none => ['\\', 'u', 'd', '8', '0', '0']

theorem toList_quote (content : Option String) :
    (quote content).toList = '"' :: (body content ++ ['"']) := by
  cases content with
  | none => rfl
  | some text => simp [quote, body]

/-- Characters that may stand between quotes: what ends a string is always escaped. -/
inductive Enclosed : List Char → Prop where
  | nil : Enclosed []
  | plain (c : Char) {others : List Char} (notQuote : c ≠ '"') (notBackslash : c ≠ '\\')
      (enclosed : Enclosed others) : Enclosed (c :: others)
  | escaped (c : Char) {others : List Char} (enclosed : Enclosed others) :
      Enclosed ('\\' :: c :: others)

namespace Enclosed

theorem append {first second : List Char} (left : Enclosed first) (right : Enclosed second) :
    Enclosed (first ++ second) := by
  induction left with
  | nil => exact right
  | plain c notQuote notBackslash _ ih => exact .plain c notQuote notBackslash ih
  | escaped c _ ih => exact .escaped c ih

end Enclosed

theorem hexDigit_plain : ∀ n, n < 16 → hexDigit n ≠ '"' ∧ hexDigit n ≠ '\\' := by
  decide

/-- A character is written by a letter, by its number or as it is. -/
theorem escape_cases (c : Char) :
    (∃ letter, escape c = ['\\', letter] ∧ letter ≠ 'u' ∧ Token.escaped? letter = some c) ∨
      (escape c = ['\\', 'u', '0', '0', hexDigit (c.toNat / 16), hexDigit (c.toNat % 16)] ∧
        c.toNat < 0x20) ∨
      escape c = [c] ∧ c ≠ '"' ∧ c ≠ '\\' ∧ 0x20 ≤ c.toNat := by
  unfold escape
  split
  case isTrue quoted => exact .inl ⟨'"', rfl, by decide, by rw [quoted]; rfl⟩
  split
  case isTrue backslash => exact .inl ⟨'\\', rfl, by decide, by rw [backslash]; rfl⟩
  split
  case isTrue backspace => exact .inl ⟨'b', rfl, by decide, by rw [backspace]; rfl⟩
  split
  case isTrue tab => exact .inl ⟨'t', rfl, by decide, by rw [tab]; rfl⟩
  split
  case isTrue feed => exact .inl ⟨'n', rfl, by decide, by rw [feed]; rfl⟩
  split
  case isTrue page => exact .inl ⟨'f', rfl, by decide, by rw [page]; rfl⟩
  split
  case isTrue back => exact .inl ⟨'r', rfl, by decide, by rw [back]; rfl⟩
  split
  case isTrue control => exact .inr (.inl ⟨rfl, control⟩)
  case isFalse notQuote notBackslash _ _ _ _ _ visible =>
    exact .inr (.inr ⟨rfl, notQuote, notBackslash, Nat.le_of_not_lt visible⟩)

theorem enclosed_escape (c : Char) : Enclosed (escape c) := by
  obtain ⟨letter, written, _⟩ | ⟨written, control⟩ | ⟨written, notQuote, notBackslash, _⟩ :=
    escape_cases c
  · rw [written]
    exact .escaped letter .nil
  · obtain ⟨highQuote, highBackslash⟩ := hexDigit_plain (c.toNat / 16) (by omega)
    obtain ⟨lowQuote, lowBackslash⟩ := hexDigit_plain (c.toNat % 16) (by omega)
    rw [written]
    exact .escaped _ (.plain _ (by decide) (by decide) (.plain _ (by decide) (by decide)
      (.plain _ highQuote highBackslash (.plain _ lowQuote lowBackslash .nil))))
  · rw [written]
    exact .plain c notQuote notBackslash .nil

/-- Nothing between its quotes ends a string. -/
theorem enclosed_body (content : Option String) : Enclosed (body content) := by
  cases content with
  | none =>
      exact .escaped _ (.plain _ (by decide) (by decide) (.plain _ (by decide) (by decide)
        (.plain _ (by decide) (by decide) (.plain _ (by decide) (by decide) .nil))))
  | some text =>
      show Enclosed (text.toList.flatMap escape)
      induction text.toList with
      | nil => exact .nil
      | cons c others ih => exact (enclosed_escape c).append ih

namespace Token

theorem hex?_hexDigit : ∀ n, n < 0x20 →
    hex? '0' '0' (hexDigit (n / 16)) (hexDigit (n % 16)) = some n := by
  decide

/-- Escapes give the code of the character they stand for. -/
theorem units?_escape (c : Char) (rest : List Char) :
    units? (escape c ++ rest) = (units? rest).map (c.toNat :: ·) := by
  obtain ⟨letter, written, notUnit, stands⟩ | ⟨written, control⟩ |
    ⟨written, _, notBackslash, visible⟩ := escape_cases c
  · rw [written, List.cons_append, List.cons_append, List.nil_append, units?.eq_3, stands]
    · cases units? rest <;> rfl
    · rintro _ _ _ _ _ rfl
      exact absurd rfl notUnit
  · rw [written]
    simp only [List.cons_append, List.nil_append, units?, hex?_hexDigit c.toNat control]
    cases units? rest <;> rfl
  · rw [written, List.cons_append, List.nil_append, units?.eq_4]
    · simp [notBackslash, Nat.not_lt.mpr visible]
    all_goals simp [notBackslash]

theorem units?_escapes (text : List Char) :
    units? (text.flatMap escape) = some (text.map Char.toNat) := by
  induction text with
  | nil => rfl
  | cons c text ih => rw [List.flatMap_cons, units?_escape, ih, Option.map_some, List.map_cons]

theorem not_half (c : Char) : isHigh c.toNat = false ∧ isLow c.toNat = false := by
  have whole : c.toNat < 0xD800 ∨ 0xDFFF < c.toNat ∧ c.toNat < 0x110000 := c.valid
  simp only [isHigh, isLow, Bool.and_eq_false_iff, decide_eq_false_iff_not]
  omega

theorem join?_toNat (text : List Char) : join? (text.map Char.toNat) = some text := by
  induction text with
  | nil => rfl
  | cons c text ih =>
      obtain ⟨notHigh, notLow⟩ := not_half c
      cases text with
      | nil => simp [join?, notHigh, notLow]
      | cons next text =>
          rw [List.map_cons] at ih
          rw [List.map_cons, List.map_cons, join?, notHigh, notLow, ih]
          simp

/-- A written string is read as what was written. -/
theorem ofQuoted?_body (content : Option String) :
    ofQuoted? (body content) = some (.string content) := by
  cases content with
  | none => decide
  | some text => simp [ofQuoted?, body, units?_escapes, join?_toNat]

end Token

end Json

end TestInventory
