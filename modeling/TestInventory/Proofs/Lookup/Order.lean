import Mathlib.Data.List.Sort
import TestInventory.Proofs.Lookup.Resolution

/-!
# The order of a walk

The entries of a folder are walked in the order of their names, whatever the order in
which the folder holds them.  Hence the ways through a folder are in the order of their
names from the first on.
-/

namespace TestInventory

namespace FileTree

variable {ν : Type} [DecidableEq ν] [LT ν] [DecidableLT ν]

section Entries

variable {α : Type} {name : ν} {value : α} {entries : List (ν × α)}

omit [LT ν] [DecidableLT ν] in
theorem lookup_cons_eq_ite (entry : ν × α) (rest : List (ν × α)) (name : ν) :
    (entry :: rest).lookup name = if name = entry.1 then some entry.2 else rest.lookup name := by
  rw [List.lookup_cons]
  by_cases same : name = entry.1
  · rw [if_pos same, beq_iff_eq.mpr same]
  · rw [if_neg same, beq_eq_false_iff_ne.mpr same]

theorem lookup_insertEntry (other : ν) :
    (insertEntry name value entries).lookup other =
      if other = name then some value else entries.lookup other := by
  induction entries with
  | nil => exact lookup_cons_eq_ite (name, value) [] other
  | cons entry rest ih =>
      rw [insertEntry]
      split
      · next same =>
          rw [lookup_cons_eq_ite, lookup_cons_eq_ite, ← same]
          split <;> rfl
      · next apart =>
          split
          · exact lookup_cons_eq_ite (name, value) (entry :: rest) other
          · rw [lookup_cons_eq_ite, ih, lookup_cons_eq_ite]
            by_cases asked : other = entry.1
            · rw [if_pos asked, if_pos asked, if_neg (asked ▸ Ne.symm apart)]
            · rw [if_neg asked, if_neg asked]

/-- In the order of their names, the same entries are found. -/
theorem lookup_inOrder (entries : List (ν × α)) (other : ν) :
    (inOrder entries).lookup other = entries.lookup other := by
  induction entries with
  | nil => rfl
  | cons entry rest ih =>
      rw [inOrder, List.foldr_cons, lookup_insertEntry, ← inOrder, ih, lookup_cons_eq_ite]

theorem eq_or_mem_of_mem_insertEntry {entry : ν × α}
    (member : entry ∈ insertEntry name value entries) :
    entry = (name, value) ∨ entry ∈ entries := by
  induction entries with
  | nil => exact .inl (List.mem_singleton.mp member)
  | cons own rest ih =>
      rw [insertEntry] at member
      split at member
      · exact (List.mem_cons.mp member).imp_right (List.mem_cons_of_mem own)
      · split at member
        · exact List.mem_cons.mp member
        · rcases List.mem_cons.mp member with rfl | later
          · exact .inr List.mem_cons_self
          · exact (ih later).imp_right (List.mem_cons_of_mem own)

variable [IsStrictTotalOrder ν (· < ·)]

/-- What is put at its place among entries in order leaves them in order. -/
theorem pairwise_insertEntry (sorted : entries.Pairwise fun entry later => entry.1 < later.1) :
    (insertEntry name value entries).Pairwise fun entry later => entry.1 < later.1 := by
  induction entries with
  | nil => exact List.pairwise_singleton ..
  | cons own rest ih =>
      obtain ⟨below, later⟩ := List.pairwise_cons.mp sorted
      rw [insertEntry]
      split
      · next same =>
          exact List.pairwise_cons.mpr ⟨fun entry member => same ▸ below entry member, later⟩
      · next other =>
          split
          · next before =>
              refine List.pairwise_cons.mpr ⟨?_, sorted⟩
              refine List.forall_mem_cons.mpr ⟨before, fun entry member => ?_⟩
              exact trans_of (· < ·) before (below entry member)
          · next notBefore =>
              have behind : own.1 < name := by
                by_contra notBehind
                exact other (Std.Trichotomous.trichotomous _ _ notBefore notBehind)
              refine List.pairwise_cons.mpr ⟨fun entry member => ?_, ih later⟩
              rcases eq_or_mem_of_mem_insertEntry member with rfl | member
              · exact behind
              · exact below entry member

theorem pairwise_inOrder (entries : List (ν × α)) :
    (inOrder entries).Pairwise fun entry later => entry.1 < later.1 := by
  induction entries with
  | nil => exact .nil
  | cons entry rest ih => exact pairwise_insertEntry ih

omit [DecidableLT ν] in
/-- Among entries in order, each is the one that is found by its name. -/
theorem lookup_of_mem (sorted : entries.Pairwise fun entry later => entry.1 < later.1)
    (member : (name, value) ∈ entries) : entries.lookup name = some value := by
  induction entries with
  | nil => cases member
  | cons entry rest ih =>
      obtain ⟨below, later⟩ := List.pairwise_cons.mp sorted
      rcases List.mem_cons.mp member with rfl | behind
      · exact List.lookup_cons_self
      · have other : name ≠ entry.1 := (ne_of_irrefl (below _ behind)).symm
        rw [lookup_cons_eq_ite, if_neg other, ih later behind]

theorem mem_inOrder :
    (name, value) ∈ inOrder entries ↔ entries.lookup name = some value := by
  rw [← lookup_inOrder]
  exact ⟨lookup_of_mem (pairwise_inOrder entries), mem_of_lookup⟩

end Entries

variable [IsStrictTotalOrder ν (· < ·)] {entries : List (ν × List (List ν))} {way : List ν}

/-! ## The ways through a folder -/

theorem mem_gather :
    way ∈ gather entries ↔
      ∃ name ways rest, way = name :: rest ∧ entries.lookup name = some ways ∧ rest ∈ ways := by
  simp only [gather, List.mem_flatMap, List.mem_map, Prod.exists, mem_inOrder]
  constructor
  · rintro ⟨name, ways, found, rest, member, rfl⟩
    exact ⟨name, ways, rest, rfl, found, member⟩
  · rintro ⟨name, ways, rest, rfl, found, member⟩
    exact ⟨name, ways, found, rest, member, rfl⟩

theorem nil_notMem_gather (entries : List (ν × List (List ν))) : [] ∉ gather entries := by
  rw [mem_gather]
  rintro ⟨name, ways, rest, empty, -⟩
  cases empty

/-- The ways through a folder are in order if those through each of its entries are. -/
theorem pairwise_gather (each : ∀ entry ∈ entries, entry.2.Pairwise (· < ·)) :
    (gather entries).Pairwise (· < ·) := by
  refine List.pairwise_flatMap.mpr ⟨fun entry member => ?_, ?_⟩
  · have found := mem_of_lookup (mem_inOrder.mp member)
    refine List.pairwise_map.mpr ((each entry found).imp fun before => ?_)
    exact List.cons_lt_cons_iff.mpr (.inr ⟨rfl, before⟩)
  · refine (pairwise_inOrder entries).imp fun before way member other among => ?_
    obtain ⟨rest, -, rfl⟩ := List.mem_map.mp member
    obtain ⟨later, -, rfl⟩ := List.mem_map.mp among
    exact List.cons_lt_cons_iff.mpr (.inl before)

end FileTree

end TestInventory
