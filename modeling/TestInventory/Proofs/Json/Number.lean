import Mathlib.Data.List.TakeWhile
import TestInventory.Json.Token

/-!
# Numbers as they are written

A number begins with a digit or a minus sign and holds only characters that may
stand in a number.  A natural number is written as digits without idle zeros, which
are a number and are read as what was written.
-/

namespace TestInventory

namespace Json.Token

/-- Whether all characters may stand in a number. -/
def Numeric (text : List Char) : Prop := ∀ c ∈ text, inNumber c = true

/-- How a text begins with digits before the rest of a number. -/
structure Opens (text rest : List Char) : Prop where
  digit : ∃ first others, text = first :: others ∧ first.isDigit = true
  numeric : Numeric rest → Numeric text

theorem inNumber_of_isDigit {c : Char} (digit : c.isDigit = true) : inNumber c = true := by
  simp [inNumber, digit]

theorem opens_of_digits? {text rest : List Char} (taken : digits? text = some rest) :
    Opens text rest := by
  cases text with
  | nil => cases taken
  | cons first others =>
      simp only [digits?] at taken
      split at taken
      case isFalse => cases taken
      case isTrue digit =>
        refine ⟨⟨first, others, rfl, digit⟩, fun numeric c member => ?_⟩
        rw [← List.takeWhile_append_dropWhile (p := Char.isDigit) (l := others),
          Option.some.inj taken, List.mem_cons, List.mem_append] at member
        obtain rfl | taken | left := member
        · exact inNumber_of_isDigit digit
        · exact inNumber_of_isDigit (List.all_eq_true.mp List.all_takeWhile c taken)
        · exact numeric c left

theorem opens_of_whole? {text rest : List Char} (taken : whole? text = some rest) :
    Opens text rest := by
  unfold whole? at taken
  split at taken
  case h_1 others =>
    refine ⟨⟨'0', others, rfl, by decide⟩, fun numeric => ?_⟩
    rw [← Option.some.inj taken] at numeric
    exact List.forall_mem_cons.mpr ⟨by decide, numeric⟩
  case h_2 => exact opens_of_digits? taken

/-- The rest behind a fraction, which may be absent. -/
def fraction? : List Char → Option (List Char)
  | '.' :: rest => digits? rest
  | rest => some rest

/-- The rest behind an exponent, which may be absent. -/
def exponent? : List Char → Option (List Char)
  | 'e' :: '+' :: rest => digits? rest
  | 'e' :: '-' :: rest => digits? rest
  | 'E' :: '+' :: rest => digits? rest
  | 'E' :: '-' :: rest => digits? rest
  | 'e' :: rest => digits? rest
  | 'E' :: rest => digits? rest
  | rest => some rest

/-- A number is a sign that may be absent, a whole part, a fraction and an exponent. -/
theorem isNumber_eq (text : List Char) :
    isNumber text =
      ((whole? (match text with
        | '-' :: rest => rest
        | text => text)).bind (fun rest => (fraction? rest).bind exponent?) == some []) := by
  have behind : ∀ rest, (fraction? rest).bind exponent? =
      match rest with
      | '.' :: rest => (digits? rest).bind exponent?
      | rest => (some rest).bind exponent? := by
    intro rest
    unfold fraction?
    split <;> rfl
  simp only [behind]
  rfl

theorem numeric_of_fraction? {text rest : List Char} (taken : fraction? text = some rest)
    (numeric : Numeric rest) : Numeric text := by
  unfold fraction? at taken
  split at taken
  case h_1 others =>
    exact List.forall_mem_cons.mpr ⟨by decide, (opens_of_digits? taken).numeric numeric⟩
  case h_2 => exact Option.some.inj taken ▸ numeric

theorem numeric_of_exponent? {text rest : List Char} (taken : exponent? text = some rest)
    (numeric : Numeric rest) : Numeric text := by
  have signed : ∀ {letter sign : Char} {digits : List Char}, inNumber letter = true →
      inNumber sign = true → digits? digits = some rest → Numeric (letter :: sign :: digits) :=
    fun letter sign taken => List.forall_mem_cons.mpr ⟨letter, List.forall_mem_cons.mpr
      ⟨sign, (opens_of_digits? taken).numeric numeric⟩⟩
  have plain : ∀ {letter : Char} {digits : List Char}, inNumber letter = true →
      digits? digits = some rest → Numeric (letter :: digits) :=
    fun letter taken =>
      List.forall_mem_cons.mpr ⟨letter, (opens_of_digits? taken).numeric numeric⟩
  unfold exponent? at taken
  split at taken
  case h_1 => exact signed (by decide) (by decide) taken
  case h_2 => exact signed (by decide) (by decide) taken
  case h_3 => exact signed (by decide) (by decide) taken
  case h_4 => exact signed (by decide) (by decide) taken
  case h_5 => exact plain (by decide) taken
  case h_6 => exact plain (by decide) taken
  case h_7 => exact Option.some.inj taken ▸ numeric

/-- A number begins as numbers do, and nothing in it ends a number. -/
theorem begins_of_isNumber {text : List Char} (number : isNumber text = true) :
    (∃ first others, text = first :: others ∧ (first.isDigit || first = '-') = true) ∧
      Numeric text := by
  rw [isNumber_eq, beq_iff_eq, Option.bind_eq_some_iff] at number
  obtain ⟨afterWhole, whole, behind⟩ := number
  obtain ⟨afterFraction, fraction, exponent⟩ := Option.bind_eq_some_iff.mp behind
  have numeric : Numeric afterWhole :=
    numeric_of_fraction? fraction (numeric_of_exponent? exponent (List.forall_mem_nil _))
  split at whole
  case h_1 rest =>
    exact ⟨⟨'-', rest, rfl, by decide⟩,
      List.forall_mem_cons.mpr ⟨by decide, (opens_of_whole? whole).numeric numeric⟩⟩
  case h_2 =>
    obtain ⟨⟨first, others, rfl, digit⟩, carried⟩ := opens_of_whole? whole
    exact ⟨⟨first, others, rfl, by simp [digit]⟩, carried numeric⟩

/-- Digits are a number unless they begin with an idle zero. -/
theorem isNumber_of_digits {first : Char} {others : List Char}
    (digits : ∀ c ∈ first :: others, c.isDigit = true) (notZero : first ≠ '0') :
    isNumber (first :: others) = true := by
  obtain ⟨digit, left⟩ := List.forall_mem_cons.mp digits
  have notMinus : first ≠ '-' := by
    rintro rfl
    cases digit
  have rest : others.dropWhile Char.isDigit = [] := List.dropWhile_eq_nil_iff.mpr left
  have taken : whole? (first :: others) = some [] := by
    rw [whole?.eq_2]
    · simp [digits?, digit, rest]
    · rintro _ same
      exact notZero (List.cons.inj same).1
  rw [isNumber_eq]
  split
  case h_1 same => exact absurd (List.cons.inj same).1 notMinus
  case h_2 => rw [taken]; rfl

/-- The digits of a number above zero begin with no zero. -/
theorem head_toDigits {n : Nat} (positive : n ≠ 0) :
    (Nat.toDigits 10 n).head? ≠ some '0' := by
  induction n using Nat.strongRecOn with
  | ind n ih =>
      rw [Nat.toDigits_eq_if (by decide)]
      split
      case isTrue small => simpa using positive
      case isFalse large =>
        have shorter := ih (n / 10) (by omega) (by omega)
        cases digits : Nat.toDigits 10 (n / 10) with
        | nil => exact absurd digits Nat.toDigits_ne_nil
        | cons first others =>
            rw [digits] at shorter
            exact shorter

/-- A natural number is written as a number. -/
theorem isNumber_toString (n : Nat) : isNumber (toString n).toList = true := by
  rw [Nat.toString_eq_repr, Nat.toList_repr]
  by_cases zero : n = 0
  · subst zero
    decide
  · have notZero := head_toDigits zero
    cases written : Nat.toDigits 10 n with
    | nil => exact absurd written Nat.toDigits_ne_nil
    | cons first others =>
        rw [written] at notZero
        refine isNumber_of_digits (fun c member => ?_) (fun same => notZero (congrArg some same))
        exact Nat.isDigit_of_mem_toDigits (by decide) (by decide) (written ▸ member)

theorem foldlM_digitValue? {digits : List Char} (plain : ∀ c ∈ digits, c.isDigit = true)
    (n : Nat) :
    digits.foldlM (fun n c => (Text.digitValue? c).map (10 * n + ·)) n =
      some (Nat.ofDigitChars 10 digits n) := by
  induction digits generalizing n with
  | nil => rfl
  | cons c digits ih =>
      obtain ⟨digit, others⟩ := List.forall_mem_cons.mp plain
      rw [List.foldlM_cons, Nat.ofDigitChars_cons, Text.digitValue?, if_pos digit]
      exact ih others _

/-- A written natural number is read as what was written. -/
theorem decimal?_toString (n : Nat) : Text.decimal? (toString n).toList = some n := by
  have digits : ∀ c ∈ Nat.toDigits 10 n, c.isDigit = true :=
    fun c => Nat.isDigit_of_mem_toDigits (by decide) (by decide)
  rw [Nat.toString_eq_repr, Nat.toList_repr, Text.decimal?, foldlM_digitValue? digits,
    Nat.ofDigitChars_ten_toDigits]
  simp

end Json.Token

end TestInventory
