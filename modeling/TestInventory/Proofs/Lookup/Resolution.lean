import TestInventory.Lookup
import TestInventory.Proofs.PathText

/-!
# Resolved paths

Resolving a path with a name behind it is resolving the path, and then one step to an
entry of the folder it leads to.  A link is the only kind of entry that may take the
step elsewhere.
-/

namespace TestInventory

open PathText

namespace FileTree

variable {ν : Type}

/-- What is true of all but folders, and of a folder if of all its entries, is true of a tree. -/
@[elab_as_elim]
theorem induction_entries {motive : FileTree ν → Prop} (file : ∀ content, motive (.file content))
    (special : motive .special) (link : ∀ target, motive (.link target))
    (folder : ∀ entries, (∀ entry ∈ entries, motive entry.2) → motive (.folder entries)) :
    ∀ tree, motive tree
  | .file content => file content
  | .special => special
  | .link target => link target
  | .folder entries => folder entries fun entry member => by
      have smaller : sizeOf entry.2 < 1 + sizeOf entries := by
        have := List.sizeOf_lt_of_mem member
        have : sizeOf entry = 1 + sizeOf entry.1 + sizeOf entry.2 := by cases entry; rfl
        omega
      exact induction_entries file special link folder entry.2

theorem entries?_eq_some {tree : FileTree ν} {entries : List (ν × FileTree ν)}
    (folder : tree.entries? = some entries) : tree = .folder entries := by
  cases tree with
  | folder own => exact congrArg FileTree.folder (Option.some.inj folder)
  | file content => cases folder
  | special => cases folder
  | link target => cases folder

variable [DecidableEq ν]

theorem mem_of_lookup {α : Type} {name : ν} {value : α} {entries : List (ν × α)}
    (found : entries.lookup name = some value) : (name, value) ∈ entries := by
  obtain ⟨before, after, rfl, -⟩ := List.lookup_eq_some_iff.mp found
  exact List.mem_append_right before List.mem_cons_self

theorem at?_append (tree : FileTree ν) (first second : List ν) :
    tree.at? (first ++ second) = (tree.at? first).bind (·.at? second) := by
  induction first generalizing tree with
  | nil => rfl
  | cons name first ih =>
      rw [List.cons_append, at?, at?]
      simp only [Option.bind_eq_bind, Option.bind_assoc, ih]

theorem at?_cons_eq_some {tree node : FileTree ν} {name : ν} {place : List ν} :
    tree.at? (name :: place) = some node ↔
      ∃ entries next, tree = .folder entries ∧ entries.lookup name = some next ∧
        next.at? place = some node := by
  simp only [at?, Option.bind_eq_bind, Option.bind_eq_some_iff]
  constructor
  · rintro ⟨entries, folder, next, found, stands⟩
    exact ⟨entries, next, entries?_eq_some folder, found, stands⟩
  · rintro ⟨entries, next, rfl, found, stands⟩
    exact ⟨entries, rfl, next, found, stands⟩

/-- An entry of a folder stands behind the place of the folder. -/
theorem at?_entry {top : FileTree ν} {here : List ν} {entries : List (ν × FileTree ν)}
    (folder : top.at? here = some (.folder entries)) (name : ν) :
    top.at? (here ++ [name]) = entries.lookup name := by
  rw [at?_append, folder, Option.bind_some]
  cases found : entries.lookup name <;> simp [at?, entries?, found]

variable [PathText ν] {top : FileTree ν}

/-! ## Pieces after pieces -/

/--
Going along pieces ends at a place, fails, or is taken over at a link.  What is
written behind the pieces waits until then.
-/
theorem descend_append (jump : List ν → List ν → Except ReadFailure (List ν))
    (here first : List ν) :
    (∃ place, ∀ second, top.descend jump here (first ++ second) = top.descend jump place second) ∨
    (∃ failure, ∀ second, top.descend jump here (first ++ second) = .error failure) ∨
    ∃ outer pieces, ∀ second,
      top.descend jump here (first ++ second) = jump outer (pieces ++ second) := by
  induction first generalizing here with
  | nil => exact .inl ⟨here, fun _ => rfl⟩
  | cons piece first ih =>
      simp only [List.cons_append, descend]
      cases (top.at? here).bind entries? with
      | none => exact .inr (.inl ⟨.notADirectory, fun _ => rfl⟩)
      | some entries =>
          dsimp only
          split
          · exact ih here
          · split
            · exact ih here.dropLast
            · cases entries.lookup piece with
              | none => exact .inr (.inl ⟨.notFound, fun _ => rfl⟩)
              | some node =>
                  cases node with
                  | link target =>
                      exact .inr (.inr ⟨_, pieces target ++ first, fun second =>
                        congrArg (jump _) (List.append_assoc ..).symm⟩)
                  | file content => exact ih (here ++ [piece])
                  | special => exact ih (here ++ [piece])
                  | folder entries => exact ih (here ++ [piece])

/-- Going along pieces and following links ends at a place, with links left, or fails. -/
theorem follow_append (links : Nat) (here first : List ν) :
    (∃ place left, ∀ second,
      top.follow links here (first ++ second) = top.follow left place second) ∨
    ∃ failure, ∀ second, top.follow links here (first ++ second) = .error failure := by
  induction links generalizing here first with
  | zero =>
      rcases descend_append _ here first with ⟨place, goes⟩ | failed | ⟨_, _, goes⟩
      · exact .inl ⟨place, 0, goes⟩
      · exact .inr failed
      · exact .inr ⟨.tooManyLinks, goes⟩
  | succ links ih =>
      rcases descend_append (top.follow links) here first with
        ⟨place, goes⟩ | failed | ⟨outer, pieces, goes⟩
      · exact .inl ⟨place, links + 1, goes⟩
      · exact .inr failed
      · rcases ih outer pieces with ⟨place, left, later⟩ | ⟨failure, later⟩
        · exact .inl ⟨place, left, fun second => (goes second).trans (later second)⟩
        · exact .inr ⟨failure, fun second => (goes second).trans (later second)⟩

theorem follow_nil (links : Nat) (here : List ν) : top.follow links here [] = .ok here := by
  cases links <;> rfl

/-! ## One step from a folder -/

section Step

variable {links : Nat} {here inner : List ν} {name : ν}

/-- Only from a folder does a step lead anywhere. -/
theorem exists_folder_of_follow (goes : top.follow links here [name] = .ok inner) :
    ∃ entries, top.at? here = some (.folder entries) := by
  cases below : (top.at? here).bind entries? with
  | none => cases links <;> simp [follow, descend, below] at goes
  | some entries =>
      obtain ⟨tree, stands, folder⟩ := Option.bind_eq_some_iff.mp below
      exact ⟨entries, entries?_eq_some folder ▸ stands⟩

/-- A step that stays where it is asks for no more than a folder. -/
theorem follow_empty (links : Nat) (here : List ν) :
    top.follow links here [ofText ""] = .ok here ∨
      ∃ failure, ∀ piece, top.follow links here [piece] = .error failure := by
  cases below : (top.at? here).bind entries? with
  | none =>
      refine .inr ⟨.notADirectory, fun piece => ?_⟩
      cases links <;> simp [follow, descend, below]
  | some entries =>
      refine .inl ?_
      cases links <;> simp [follow, descend, below]

variable (isName : IsName name) {entries : List (ν × FileTree ν)}
  (folder : top.at? here = some (.folder entries))
include isName folder

/-- A step by a name leads to an entry of that name. -/
theorem exists_entry_of_follow (goes : top.follow links here [name] = .ok inner) :
    ∃ node, entries.lookup name = some node := by
  cases found : entries.lookup name with
  | some node => exact ⟨node, rfl⟩
  | none =>
      cases links <;>
        simp [follow, descend, folder, entries?, isName.nonempty, isName.notHere, isName.notUp,
          found] at goes

/-- A step to an entry that is no link leads just there. -/
theorem follow_entry {node : FileTree ν} (found : entries.lookup name = some node)
    (notLink : ∀ target, node ≠ .link target) :
    top.follow links here [name] = .ok (here ++ [name]) := by
  cases node with
  | link target => exact absurd rfl (notLink target)
  | _ =>
      cases links <;>
        simp [follow, descend, folder, entries?, isName.nonempty, isName.notHere, isName.notUp,
          found]

end Step

/-! ## A name behind a path -/

theorem resolve_of_ne_empty {path : ν} (nonempty : path ≠ ofText "") :
    top.resolve path = top.follow linkLimit [] (pieces path) := if_neg nonempty

theorem ne_empty_of_resolve {path : ν} {here : List ν} (own : top.resolve path = .ok here) :
    path ≠ ofText "" := by
  rintro rfl
  rw [resolve, if_pos rfl] at own
  cases own

variable [LawfulPathText ν]

/-- With a name behind it, a path is resolved by one step more, or fails as it failed before. -/
theorem resolve_join {path name : ν} (nonempty : path ≠ ofText "") (isName : IsName name) :
    (∃ here left, top.resolve path = .ok here ∧
      top.resolve (join path name) = top.follow left here [name]) ∨
    ∃ failure, top.resolve path = .error failure ∧
      top.resolve (join path name) = .error failure := by
  rw [resolve_of_ne_empty nonempty, resolve_of_ne_empty (join_ne_empty path isName)]
  rcases LawfulPathText.pieces_join path isName with split | ⟨before, own, split⟩
  · rw [split]
    rcases follow_append linkLimit [] (pieces path) with ⟨here, left, goes⟩ | ⟨failure, goes⟩
    · refine .inl ⟨here, left, ?_, goes [name]⟩
      rw [← List.append_nil (pieces path), goes, follow_nil]
    · refine .inr ⟨failure, ?_, goes [name]⟩
      rw [← List.append_nil (pieces path), goes]
  · rw [own, split]
    rcases follow_append linkLimit [] before with ⟨here, left, goes⟩ | ⟨failure, goes⟩
    · rw [goes, goes]
      rcases follow_empty left here with stays | ⟨failure, fails⟩
      · exact .inl ⟨here, left, stays, rfl⟩
      · exact .inr ⟨failure, fails _, fails name⟩
    · exact .inr ⟨failure, goes _, goes _⟩

/-- What is reached below a path is reached through an entry of the folder it leads to. -/
theorem exists_entry_of_resolve {path name : ν} (nonempty : path ≠ ofText "")
    (isName : IsName name) {inner : List ν} (goes : top.resolve (join path name) = .ok inner) :
    ∃ here entries node, top.resolve path = .ok here ∧
      top.at? here = some (.folder entries) ∧ entries.lookup name = some node := by
  rcases resolve_join nonempty isName with ⟨here, left, own, step⟩ | ⟨failure, -, fails⟩
  · rw [step] at goes
    obtain ⟨entries, folder⟩ := exists_folder_of_follow goes
    obtain ⟨node, found⟩ := exists_entry_of_follow isName folder goes
    exact ⟨here, entries, node, own, folder, found⟩
  · rw [fails] at goes
    cases goes

/-- An entry that is no link is reached at its own place. -/
theorem resolve_join_entry {path name : ν} (isName : IsName name) {here : List ν}
    (own : top.resolve path = .ok here) {entries : List (ν × FileTree ν)}
    (folder : top.at? here = some (.folder entries)) {node : FileTree ν}
    (found : entries.lookup name = some node) (notLink : ∀ target, node ≠ .link target) :
    top.resolve (join path name) = .ok (here ++ [name]) := by
  rcases resolve_join (ne_empty_of_resolve own) isName with
    ⟨here', left, own', step⟩ | ⟨failure, fails, -⟩
  · cases own.symm.trans own'
    rw [step]
    exact follow_entry isName folder found notLink
  · rw [fails] at own
    cases own

end FileTree

end TestInventory
