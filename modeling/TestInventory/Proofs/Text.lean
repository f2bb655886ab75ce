import Mathlib.Data.List.DropRight
import TestInventory.Text.Character
import TestInventory.Text.Lines

/-!
# Dividing and trimming texts

A text is divided at separators into parts without any, and it is the parts with
separators between them.  It is trimmed to what stands between white space.
-/

namespace TestInventory

namespace Text

section Division

variable {α : Type} [DecidableEq α]

theorem splitAt_ne_nil (separator : α) (text : List α) : splitAt separator text ≠ [] := by
  cases text with
  | nil => exact nofun
  | cons c rest =>
      rw [splitAt]
      split
      · exact nofun
      · split <;> exact nofun

/-- What stands before a separator and what stands behind it are split apart from each other. -/
theorem splitAt_append (separator : α) (first second : List α) :
    splitAt separator (first ++ separator :: second) =
      splitAt separator first ++ splitAt separator second := by
  induction first with
  | nil => simp [splitAt]
  | cons c first ih =>
      rw [List.cons_append, splitAt, splitAt, ih]
      by_cases divides : c = separator
      · simp [divides]
      · cases parts : splitAt separator first with
        | nil => exact absurd parts (splitAt_ne_nil separator first)
        | cons part parts => simp [divides]

/-- A part without a separator is not split. -/
theorem splitAt_of_notMem {separator : α} {part : List α} (absent : separator ∉ part) :
    splitAt separator part = [part] := by
  induction part with
  | nil => rfl
  | cons c part ih =>
      obtain ⟨other, later⟩ := not_or.mp (mt List.mem_cons.mpr absent)
      rw [splitAt, if_neg (Ne.symm other), ih later]

theorem notMem_of_mem_splitAt {separator : α} {text part : List α}
    (member : part ∈ splitAt separator text) : separator ∉ part := by
  induction text generalizing part with
  | nil =>
      cases List.mem_singleton.mp member
      exact List.not_mem_nil
  | cons c text ih =>
      rw [splitAt] at member
      by_cases divides : c = separator
      · rw [if_pos divides] at member
        rcases List.mem_cons.mp member with rfl | later
        · exact List.not_mem_nil
        · exact ih later
      · rw [if_neg divides] at member
        cases parts : splitAt separator text with
        | nil => exact absurd parts (splitAt_ne_nil separator text)
        | cons first rest =>
            rw [parts] at member ih
            rcases List.mem_cons.mp member with rfl | later
            · refine mt List.mem_cons.mp (not_or.mpr ⟨Ne.symm divides, ?_⟩)
              exact ih List.mem_cons_self
            · exact ih (List.mem_cons_of_mem first later)

theorem intercalate_splitAt (separator : α) (text : List α) :
    [separator].intercalate (splitAt separator text) = text := by
  induction text with
  | nil => rfl
  | cons c text ih =>
      rw [splitAt]
      cases parts : splitAt separator text with
      | nil => exact absurd parts (splitAt_ne_nil separator text)
      | cons first rest =>
          rw [parts] at ih
          by_cases divides : c = separator
          · simp [divides, List.intercalate_cons_cons, ih]
          · simp only [if_neg divides]
            cases rest <;> simpa [List.intercalate_cons_cons] using ih

/-- Parts are what a text divides into if it is made of them and separators between them. -/
theorem splitAt_eq_iff (separator : α) (text : List α) (parts : List (List α)) :
    splitAt separator text = parts ↔
      parts ≠ [] ∧ (∀ part ∈ parts, separator ∉ part) ∧ [separator].intercalate parts = text := by
  constructor
  · rintro rfl
    exact ⟨splitAt_ne_nil separator text, fun part => notMem_of_mem_splitAt,
      intercalate_splitAt separator text⟩
  · rintro ⟨nonempty, absent, rfl⟩
    induction parts with
    | nil => exact absurd rfl nonempty
    | cons part parts ih =>
        have alone := splitAt_of_notMem (absent part List.mem_cons_self)
        cases parts with
        | nil => simpa using alone
        | cons next rest =>
            have later := ih (List.cons_ne_nil next rest) fun inner member =>
              absent inner (List.mem_cons_of_mem part member)
            rw [List.intercalate_cons_cons, List.append_assoc, List.singleton_append,
              splitAt_append, alone, later]
            rfl

end Division

section Trimming

/-- Whether a text is another one less all the white space around it. -/
structure IsTrimmed (core text : List Char) : Prop where
  around : ∃ before after, text = before ++ core ++ after ∧
    (∀ c ∈ before, isWhite c) ∧ ∀ c ∈ after, isWhite c
  first : ∀ c ∈ core.head?, ¬ isWhite c
  last : ∀ c ∈ core.getLast?, ¬ isWhite c

variable {core text : List Char}

theorem not_of_mem_head?_dropWhile {accepts : Char → Bool} (text : List Char) {c : Char}
    (first : c ∈ (text.dropWhile accepts).head?) : ¬ accepts c := by
  have stop := List.head?_dropWhile_not accepts text
  rw [Option.mem_def.mp first] at stop
  simp [stop]

theorem dropWhile_append_of_head? {accepts : Char → Bool} {before rest : List Char}
    (taken : ∀ c ∈ before, accepts c) (stop : ∀ c ∈ rest.head?, ¬ accepts c) :
    (before ++ rest).dropWhile accepts = rest := by
  rw [List.dropWhile_append_of_pos taken]
  cases rest with
  | nil => rfl
  | cons c rest => exact List.dropWhile_cons_of_neg (stop c rfl)

theorem isTrimmed_trimWhite (text : List Char) : IsTrimmed (trimWhite text) text where
  around := by
    refine ⟨text.takeWhile isWhite, ((text.dropWhile isWhite).reverse.takeWhile isWhite).reverse,
      ?_, fun c member => List.mem_takeWhile_imp member, fun c member => ?_⟩
    · rw [trimWhite, List.append_assoc, ← List.reverse_append, List.takeWhile_append_dropWhile,
        List.reverse_reverse, List.takeWhile_append_dropWhile]
    · exact List.mem_takeWhile_imp (List.mem_reverse.mp member)
  first := by
    intro c first
    -- What is left of a text is a beginning of what is left before its end is trimmed.
    obtain ⟨after, whole⟩ := List.rdropWhile_prefix isWhite (l := text.dropWhile isWhite)
    refine not_of_mem_head?_dropWhile text ?_
    have begins : (List.rdropWhile isWhite (text.dropWhile isWhite)).head? = some c := first
    rw [← whole, List.head?_append, begins]
    rfl
  last := by
    intro c last
    rw [trimWhite, List.getLast?_reverse] at last
    exact not_of_mem_head?_dropWhile _ last

theorem IsTrimmed.eq_trimWhite (trimmed : IsTrimmed core text) : core = trimWhite text := by
  obtain ⟨⟨before, after, rfl, white, white'⟩, first, last⟩ := trimmed
  rw [trimWhite, List.append_assoc]
  cases core with
  | nil =>
      have all : ∀ c ∈ before ++ after, isWhite c := by
        simpa [or_imp, forall_and] using ⟨white, white'⟩
      rw [List.nil_append, List.dropWhile_eq_nil_iff.mpr all]
      rfl
  | cons c core =>
      rw [dropWhile_append_of_head? white (by simpa using first), List.reverse_append,
        dropWhile_append_of_head? (by simpa using white') ?_, List.reverse_reverse]
      rwa [List.head?_reverse]

theorem isTrimmed_iff : IsTrimmed core text ↔ core = trimWhite text :=
  ⟨IsTrimmed.eq_trimWhite, fun same => same ▸ isTrimmed_trimWhite text⟩

/-- A text without white space is trimmed as it is. -/
theorem trimWhite_of_not_isWhite (free : ∀ c ∈ text, ¬ isWhite c) : trimWhite text = text :=
  (isTrimmed_iff.mp ⟨⟨[], [], by simp, by simp, by simp⟩,
    fun c first => free c (List.mem_of_mem_head? first),
    fun c last => free c (List.mem_of_mem_getLast? last)⟩).symm

end Trimming

end Text

end TestInventory
