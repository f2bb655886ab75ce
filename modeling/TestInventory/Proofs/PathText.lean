import Mathlib.Order.RelClasses
import TestInventory.Proofs.Path

/-!
# Names in paths

A name that is put behind a path becomes its last component, and the last piece of
it, behind the slash that is written or that stands there already.  Strings and
rows of bytes are alike in this.
-/

namespace TestInventory

namespace PathText

section Names

variable {ν : Type} [PathText ν]

/-- Whether a text is the name of something in a folder. -/
structure IsName (name : ν) : Prop where
  alone : pieces name = [name]
  nonempty : name ≠ ofText ""
  notHere : name ≠ ofText "."
  notUp : name ≠ ofText ".."

instance [DecidableEq ν] (name : ν) : Decidable (IsName name) :=
  decidable_of_iff
    (pieces name = [name] ∧ name ≠ ofText "" ∧ name ≠ ofText "." ∧ name ≠ ofText "..")
    ⟨fun ⟨alone, nonempty, notHere, notUp⟩ => ⟨alone, nonempty, notHere, notUp⟩,
      fun isName => ⟨isName.alone, isName.nonempty, isName.notHere, isName.notUp⟩⟩

end Names

end PathText

open PathText

/-- Path texts that are divided at slashes. -/
class LawfulPathText (ν : Type) [PathText ν] : Prop where
  pieces_empty : pieces (ofText "" : ν) = [ofText ""]
  /-- A name is put behind the last piece of a path, or in its place if that is empty. -/
  pieces_join (path : ν) {name : ν} (isName : IsName name) :
    pieces (join path name) = pieces path ++ [name] ∨
      ∃ before, pieces path = before ++ [ofText ""] ∧ pieces (join path name) = before ++ [name]

namespace Text

variable {α : Type} [DecidableEq α]

/-- A text and a part behind it, with a separator between them unless there is one. -/
def joined (separator : α) (text part : List α) : List α :=
  if text.isEmpty || text.getLast? = some separator then text ++ part else text ++ separator :: part

/-- A part is split off behind the separator that is written before it, or that stands there. -/
theorem splitAt_joined {separator : α} (text : List α) {part : List α} (absent : separator ∉ part) :
    splitAt separator (joined separator text part) = splitAt separator text ++ [part] ∨
      ∃ before, splitAt separator text = before ++ [[]] ∧
        splitAt separator (joined separator text part) = before ++ [part] := by
  have alone := splitAt_of_notMem absent
  rcases List.eq_nil_or_concat text with rfl | ⟨init, last, rfl⟩
  · exact .inr ⟨[], rfl, alone⟩
  · rw [List.concat_eq_append]
    by_cases divides : last = separator
    · have split : splitAt separator (init ++ [last]) = splitAt separator init ++ [[]] := by
        rw [divides, splitAt_append]
        rfl
      refine .inr ⟨splitAt separator init, split, ?_⟩
      simp [joined, divides, splitAt_append, alone]
    · refine .inl ?_
      rw [joined, if_neg (by simpa using divides), splitAt_append, alone]

end Text

namespace PathText

section Units

variable {α ν : Type} [DecidableEq α] {separator : α} {units : ν → List α} {ofUnits : List α → ν}

/-- A name that is one piece has no separator in it. -/
theorem notMem_units (units_ofUnits : ∀ part, units (ofUnits part) = part) {name : ν}
    (alone : (Text.splitAt separator (units name)).map ofUnits = [name]) :
    separator ∉ units name := by
  obtain ⟨part, only, rfl⟩ := List.map_eq_singleton_iff.mp alone
  rw [units_ofUnits] at only ⊢
  exact Text.notMem_of_mem_splitAt (only ▸ List.mem_singleton_self part)

/-- What splits as the units of a path do has the pieces that `LawfulPathText` asks for. -/
theorem map_splitAt_joined (ofUnits_units : ∀ path, ofUnits (units path) = path) (path : ν)
    {name : ν} (absent : separator ∉ units name) :
    let pieces (text : List α) := (Text.splitAt separator text).map ofUnits
    pieces (Text.joined separator (units path) (units name)) = pieces (units path) ++ [name] ∨
      ∃ before, pieces (units path) = before ++ [ofUnits []] ∧
        pieces (Text.joined separator (units path) (units name)) = before ++ [name] := by
  intro pieces
  rcases Text.splitAt_joined (units path) absent with split | ⟨before, own, split⟩
  · refine .inl ?_
    simp [pieces, split, ofUnits_units]
  · refine .inr ⟨before.map ofUnits, ?_, ?_⟩
    · simp [pieces, own]
    · simp [pieces, split, ofUnits_units]

end Units

instance : LawfulPathText String where
  pieces_empty := rfl
  pieces_join path name isName := by
    have noSlash : '/' ∉ name.toList := notMem_units (fun _ => String.toList_ofList) isName.alone
    have relative : Path.isAbsolute name = false := by
      simpa [Path.isAbsolute] using fun first => noSlash (List.mem_of_mem_head? first)
    have units : (Path.join path name).toList = Text.joined '/' path.toList name.toList := by
      have start : path.isEmpty = path.toList.isEmpty := by
        rw [Bool.eq_iff_iff]
        simp
      rw [Path.join, relative, if_neg Bool.false_ne_true, Text.joined, start]
      split <;> simp
    have split := map_splitAt_joined (fun _ => String.ofList_toList) path noSlash
    rwa [← units] at split

instance : LawfulPathText BytePath where
  pieces_empty := rfl
  pieces_join path name isName := by
    have noSlash : BytePath.slash ∉ name.bytes := notMem_units (fun _ => rfl) isName.alone
    have relative : BytePath.isAbsolute name = false := by
      simpa [BytePath.isAbsolute] using fun first => noSlash (List.mem_of_mem_head? first)
    have units : (join path name).bytes = Text.joined BytePath.slash path.bytes name.bytes := by
      change (if BytePath.isAbsolute name then name else _).bytes = _
      rw [relative, if_neg Bool.false_ne_true, Text.joined]
      split <;> rfl
    have whole : ∀ path : BytePath, BytePath.mk path.bytes = path := fun _ => rfl
    have split := map_splitAt_joined whole path noSlash
    rwa [← units] at split

instance : IsStrictTotalOrder BytePath (· < ·) where
  trichotomous path other notBefore notBehind := by
    have same : path.bytes = other.bytes := List.le_antisymm notBehind notBefore
    exact congrArg BytePath.mk same
  irrefl path := List.lt_irrefl path.bytes
  trans _ _ _ := List.lt_trans

/-! ## Components of a path below another -/

variable {ν : Type} [PathText ν] [LawfulPathText ν]

theorem join_ne_empty (path : ν) {name : ν} (isName : IsName name) :
    join path name ≠ ofText "" := by
  intro empty
  have ends : (pieces (join path name)).getLast? = some name := by
    rcases LawfulPathText.pieces_join path isName with split | ⟨before, -, split⟩ <;> simp [split]
  rw [empty, LawfulPathText.pieces_empty] at ends
  exact isName.nonempty (Option.some.inj ends).symm

variable [DecidableEq ν]

theorem components_join (path : ν) {name : ν} (isName : IsName name) :
    components (join path name) = components path ++ [name] := by
  have kept : (name != ofText "" && name != ofText ".") = true := by
    simpa using ⟨isName.nonempty, isName.notHere⟩
  rcases LawfulPathText.pieces_join path isName with split | ⟨before, own, split⟩
  · rw [components, split, List.filter_append, List.filter_singleton, kept]
    rfl
  · rw [components, components, own, split]
    simp [kept]

/-- The names along a way are the last components of the path to its end. -/
theorem components_foldl_join (path : ν) {way : List ν} (all : ∀ name ∈ way, IsName name) :
    components (way.foldl join path) = components path ++ way := by
  induction way generalizing path with
  | nil => exact (List.append_nil _).symm
  | cons name way ih =>
      obtain ⟨isName, later⟩ := List.forall_mem_cons.mp all
      rw [List.foldl_cons, ih (join path name) later, components_join path isName,
        List.append_assoc, List.singleton_append]

end PathText

end TestInventory
