import Mathlib.Data.List.Forall2
import Mathlib.Data.List.Nodup
import TestInventory.Inventory.Json

/-!
# Fields read one after another

Fields with different names that are read one by one give their entries in the same
order.  How deep a value nests says how many levels a reader has to be given.
-/

namespace TestInventory

namespace Json

mutual

/-- How many levels of brackets and braces a value nests. -/
def levels : Json → Nat
  | .array items => itemLevels items + 1
  | .object fields => fieldLevels fields + 1
  | _ => 0

/-- The most levels that one of some items nests. -/
def itemLevels : List Json → Nat
  | [] => 0
  | item :: rest => max (levels item) (itemLevels rest)

/-- The most levels that the value of one of some fields nests. -/
def fieldLevels : List (Option String × Json) → Nat
  | [] => 0
  | (_, value) :: rest => max (levels value) (fieldLevels rest)

end

section

variable {α : Type}

/-- A new key is put behind the others. -/
theorem setKey_of_not_mem {entries : List (String × α)} {key : String}
    (absent : key ∉ entries.map Prod.fst) (value : α) :
    setKey entries key value = entries ++ [(key, value)] := by
  induction entries with
  | nil => rfl
  | cons entry entries ih =>
      rw [List.map_cons, List.mem_cons, not_or] at absent
      rw [setKey, if_neg (Ne.symm absent.1), ih absent.2, List.cons_append]

/-- Whether a field is read as an entry. -/
structure Holds (read? : Json → Option α) (field : Option String × Json) (entry : String × α) :
    Prop where
  key : field.1 = some entry.1
  value : read? field.2 = some entry.2

/-- What was read before stands in front of what is still to be read. -/
theorem foldlM_of_holds {read? : Json → Option α} {fields : List (Option String × Json)}
    {entries : List (String × α)} (holds : List.Forall₂ (Holds read?) fields entries)
    (before : List (String × α)) (distinct : ((before ++ entries).map Prod.fst).Nodup) :
    fields.foldlM
        (fun entries field => do return setKey entries (← field.1) (← read? field.2)) before =
      some (before ++ entries) := by
  induction holds generalizing before with
  | nil => simp
  | @cons field entry fields entries first _ ih =>
      have absent : entry.1 ∉ before.map Prod.fst := by
        rw [List.map_append, List.map_cons, List.nodup_append] at distinct
        intro member
        exact distinct.2.2 entry.1 member entry.1 List.mem_cons_self rfl
      have others := ih (before ++ [entry]) (by simpa using distinct)
      rw [List.foldlM_cons, first.key, first.value]
      simpa [setKey_of_not_mem absent] using others

/-- Fields with different names are read as their entries, in their order. -/
theorem entries?_of_holds {read? : Json → Option α} {fields : List (Option String × Json)}
    {entries : List (String × α)} (holds : List.Forall₂ (Holds read?) fields entries)
    (distinct : (entries.map Prod.fst).Nodup) : entries? read? fields = some entries :=
  foldlM_of_holds holds [] distinct

end

/-- The parts of an object are the values of its keys, each given once at most. -/
theorem parts?_object {keys : List String} {fields : List (Option String × Json)}
    (named : fields.all (·.1.isSome) = true) :
    parts? keys (.object fields) = keys.mapM (single? fields) := by
  rw [parts?, guard, if_pos named]
  rfl

end Json

end TestInventory
