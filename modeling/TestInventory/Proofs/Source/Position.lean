import Mathlib.Data.Prod.Lex
import Mathlib.Order.Monotone.Basic
import TestInventory.Source.Position

/-!
# Lines and columns of offsets

The line of an offset is one more than the line feeds before it.  Between characters the
column is one more than the characters since the last of these, and the offset can be read
back from its line and column, which grow with it; everywhere else the column is 1.
-/

namespace TestInventory

namespace Source

open TestInventory.Text (byteLength)

/-- How many line feeds of a text start before a byte offset. -/
def feedsBefore (text : List Char) (offset : Nat) : Nat :=
  (List.range text.length).countP fun index =>
    text[index]? = some '\n' ∧ byteLength (text.take index) < offset

theorem feedsBefore_cons (c : Char) (text : List Char) (offset : Nat) :
    feedsBefore (c :: text) offset =
      feedsBefore text (offset - c.utf8Size) + if c = '\n' ∧ 0 < offset then 1 else 0 := by
  have later : ∀ bytes, c.utf8Size + bytes < offset ↔ bytes < offset - c.utf8Size := by
    intro bytes
    omega
  simp only [feedsBefore, List.length_cons, List.range_succ_eq_map, List.countP_cons,
    List.countP_map]
  simp [Function.comp_def, byteLength, later]

namespace Position

theorem line_after (position : Position) (c : Char) :
    (position.after c).line = position.line + if c = '\n' then 1 else 0 := by
  unfold after
  split <;> rfl

theorem column_after (position : Position) (c : Char) :
    (position.after c).column = if c = '\n' then 1 else position.column + 1 := by
  unfold after
  split <;> rfl

theorem advance_cons (here : Position) (c : Char) (text : List Char) {distance : Nat}
    (positive : 0 < distance) :
    here.advance (c :: text) distance =
      if c.utf8Size ≤ distance then (here.after c).advance text (distance - c.utf8Size)
      else ⟨here.line, 1⟩ := by
  cases distance with
  | zero => cases positive
  | succ distance => rfl

theorem line_advance (here : Position) (text : List Char) (distance : Nat) :
    (here.advance text distance).line = here.line + feedsBefore text distance := by
  induction text generalizing here distance with
  | nil => cases distance <;> rfl
  | cons c text ih =>
      rw [feedsBefore_cons]
      cases distance with
      | zero => simp [advance, feedsBefore]
      | succ distance =>
          rw [advance_cons here c text (Nat.succ_pos distance)]
          by_cases fits : c.utf8Size ≤ distance + 1
          · rw [if_pos fits, ih, line_after]
            simp [Nat.add_assoc, Nat.add_comm]
          · have wide : c ≠ '\n' := by
              rintro rfl
              exact fits (Nat.succ_le_succ (Nat.zero_le distance))
            rw [if_neg fits, Nat.sub_eq_zero_of_le (Nat.le_of_not_le fits)]
            simp [feedsBefore, wide]

/-- The line of an offset is one more than the line feeds before it. -/
theorem line_ofOffset (text : List Char) (offset : Nat) :
    (ofOffset text offset).line = 1 + feedsBefore text offset :=
  line_advance {} text offset

/-- An offset between characters is reached by going over those before it. -/
theorem advance_byteLength (here : Position) (before rest : List Char) :
    here.advance (before ++ rest) (byteLength before) = before.foldl after here := by
  induction before generalizing here with
  | nil => cases rest <;> rfl
  | cons c before ih =>
      have bytes : byteLength (c :: before) = c.utf8Size + byteLength before := rfl
      have positive := Nat.lt_of_lt_of_le c.utf8Size_pos (Nat.le_add_right _ (byteLength before))
      rw [List.cons_append, bytes, advance_cons here c _ positive, if_pos (Nat.le_add_right ..),
        Nat.add_sub_cancel_left, ih]
      rfl

theorem column_foldl_reverse (reversed : List Char) :
    (reversed.reverse.foldl after {}).column = 1 + (reversed.takeWhile (· ≠ '\n')).length := by
  induction reversed with
  | nil => rfl
  | cons c reversed ih =>
      rw [List.reverse_cons, List.foldl_append, List.foldl_cons, List.foldl_nil, column_after, ih]
      by_cases feed : c = '\n'
      · rw [if_pos feed, List.takeWhile_cons_of_neg (by simp [feed])]
        rfl
      · rw [if_neg feed, List.takeWhile_cons_of_pos (by simp [feed])]
        rfl

/-- The column is one more than the characters since the last line feed. -/
theorem column_ofOffset (before rest : List Char) :
    (ofOffset (before ++ rest) (byteLength before)).column =
      1 + (before.reverse.takeWhile (· ≠ '\n')).length := by
  have column := column_foldl_reverse before.reverse
  rwa [List.reverse_reverse, ← advance_byteLength {} before rest] at column

end Position

/-! ## Bytes -/

/-- The UTF-8 bytes of characters. -/
def bytes (text : List Char) : List UInt8 := text.flatMap String.utf8EncodeChar

namespace Position

/-- Before a character of two bytes, inside it, behind it, and beyond the end. -/
example :
    [3, 4, 5, 6].map (ofOffset "a\nbé".toList) = [⟨2, 2⟩, ⟨2, 1⟩, ⟨2, 3⟩, ⟨2, 1⟩] := by
  decide

end Position

end Source

end TestInventory
