import Mathlib.Data.Finset.Card
import TestInventory.Proofs.Listwise
import TestInventory.Proofs.Lookup.Order

/-!
# What a walk reaches

A walk takes just those ways to files on which no link leads back to a folder that is
open.  Links never run out: the folders that are not open become fewer with each link to
a folder, and there were no more of them than links at the start.
-/

namespace TestInventory

open PathText

namespace FileTree

variable {ν : Type} [DecidableEq ν]

/-! ## The ways that are walked -/

section Ways

variable [PathText ν] (top : FileTree ν)

/-- Whether a folder stands at a place. -/
def FolderAt (place : List ν) : Prop := ∃ entries, top.at? place = some (.folder entries)

/-- Whether the entry of a name in the folder that a path leads to is a link. -/
def LinkAt (path name : ν) : Prop :=
  ∃ here target, top.resolve path = .ok here ∧ top.at? (here ++ [name]) = some (.link target)

/-- Whether a walk goes on from a path by a name to a place; no link back to an open folder does. -/
structure Enters (opened : List (List ν)) (path name : ν) (inner : List ν) : Prop where
  isName : IsName name
  resolves : top.resolve (join path name) = .ok inner
  fresh : top.LinkAt path name → inner ∉ opened

/-- Whether a walk goes on from a path along a way to a file. -/
def Walks : (opened : List (List ν)) → (path : ν) → (way : List ν) → Prop
  | _, path, [] => top.holdsFile path = true
  | opened, path, name :: way =>
    ∃ inner, top.Enters opened path name inner ∧ Walks (inner :: opened) (join path name) way

mutual

/-- Whether every entry in a tree has a proper name. -/
def isNamed : FileTree ν → Bool
  | .folder entries => areNamed entries
  | _ => true

/-- Whether entries, and all below them, have proper names. -/
def areNamed : List (ν × FileTree ν) → Bool
  | [] => true
  | (name, node) :: rest => decide (IsName name) && node.isNamed && areNamed rest

end

end Ways

section Names

variable [PathText ν] {top : FileTree ν}

theorem areNamed_iff {entries : List (ν × FileTree ν)} :
    areNamed entries = true ↔ ∀ entry ∈ entries, IsName entry.1 ∧ entry.2.isNamed = true := by
  induction entries with
  | nil => exact iff_of_true rfl (List.forall_mem_nil _)
  | cons entry rest ih =>
      rw [List.forall_mem_cons, ← ih, areNamed]
      simp

theorem isNamed_of_at? {place : List ν} {node : FileTree ν} (named : top.isNamed = true)
    (stands : top.at? place = some node) : node.isNamed = true := by
  induction place generalizing top with
  | nil => exact Option.some.inj stands ▸ named
  | cons name place ih =>
      obtain ⟨entries, next, rfl, found, stands⟩ := at?_cons_eq_some.mp stands
      exact ih (areNamed_iff.mp named _ (mem_of_lookup found)).2 stands

theorem isName_of_lookup (named : top.isNamed = true) {here : List ν}
    {entries : List (ν × FileTree ν)} (folder : top.at? here = some (.folder entries)) {name : ν}
    {node : FileTree ν} (found : entries.lookup name = some node) : IsName name :=
  (areNamed_iff.mp (isNamed_of_at? named folder) _ (mem_of_lookup found)).1

end Names

/-! ## Folders that are not open -/

section Folders

omit [DecidableEq ν] in
theorem foldersAmong_eq_flatMap (here : List ν) (entries : List (ν × FileTree ν)) :
    foldersAmong here entries =
      entries.flatMap fun entry => entry.2.foldersFrom (here ++ [entry.1]) := by
  induction entries with
  | nil => rfl
  | cons entry rest ih => rw [foldersAmong, ih, List.flatMap_cons]

theorem mem_foldersFrom {tree : FileTree ν} {place : List ν} {entries : List (ν × FileTree ν)}
    (folder : tree.at? place = some (.folder entries)) (here : List ν) :
    here ++ place ∈ tree.foldersFrom here := by
  induction place generalizing tree here with
  | nil =>
      cases Option.some.inj folder
      rw [List.append_nil]
      exact List.mem_cons_self
  | cons name place ih =>
      obtain ⟨own, node, rfl, found, below⟩ := at?_cons_eq_some.mp folder
      refine List.mem_cons_of_mem here ?_
      rw [foldersAmong_eq_flatMap, List.append_cons]
      exact List.mem_flatMap.mpr ⟨_, mem_of_lookup found, ih below (here ++ [name])⟩

/-- The number of folders in a tree that are not open. -/
def unopened (top : FileTree ν) (opened : List (List ν)) : Nat :=
  (top.folders.toFinset \ opened.toFinset).card

variable {top : FileTree ν}

theorem unopened_le_length (opened : List (List ν)) : top.unopened opened ≤ top.folders.length :=
  (Finset.card_le_card Finset.sdiff_subset).trans (List.toFinset_card_le _)

theorem unopened_cons_le (place : List ν) (opened : List (List ν)) :
    top.unopened (place :: opened) ≤ top.unopened opened := by
  rw [unopened, List.toFinset_cons, Finset.sdiff_insert]
  exact Finset.card_erase_le

theorem unopened_cons_lt {place : List ν} {opened : List (List ν)} (fresh : place ∉ opened)
    (folder : top.FolderAt place) : top.unopened (place :: opened) < top.unopened opened := by
  obtain ⟨entries, stands⟩ := folder
  rw [unopened, List.toFinset_cons, Finset.sdiff_insert]
  refine Finset.card_erase_lt_of_mem (Finset.mem_sdiff.mpr ⟨?_, ?_⟩)
  · exact List.mem_toFinset.mpr (mem_foldersFrom stands [])
  · exact mt List.mem_toFinset.mp fresh

end Folders

/-! ## Ends of a walk -/

section Steps

variable [PathText ν] {top : FileTree ν} {opened : List (List ν)} {path name : ν} {way : List ν}
  {here : List ν}

theorem holdsFile_iff :
    top.holdsFile path = true ↔
      ∃ here content, top.resolve path = .ok here ∧ top.at? here = some (.file content) := by
  unfold holdsFile find?
  cases top.resolve path with
  | error failure => simp [Except.toOption]
  | ok here =>
      cases stands : top.at? here with
      | none => simp [Except.toOption, stands]
      | some node => cases node <;> simp [Except.toOption, stands]

/-- A step to a link is taken unless the link leads back to an open folder. -/
theorem exists_enters_iff_of_link (isName : IsName name) (linked : top.LinkAt path name)
    {place : List ν} (leads : top.resolve (join path name) = .ok place) :
    (∃ inner, top.Enters opened path name inner ∧
        top.Walks (inner :: opened) (join path name) way) ↔
      place ∉ opened ∧ top.Walks (place :: opened) (join path name) way := by
  constructor
  · rintro ⟨inner, enters, later⟩
    cases leads.symm.trans enters.resolves
    exact ⟨enters.fresh linked, later⟩
  · rintro ⟨fresh, later⟩
    exact ⟨place, ⟨isName, leads, fun _ => fresh⟩, later⟩

variable [LawfulPathText ν]

/-- A way to a file is either none at all, or goes through a folder. -/
theorem Walks.cases (walks : top.Walks opened path way) (own : top.resolve path = .ok here) :
    (way = [] ∧ ∃ content, top.at? here = some (.file content)) ∨
      (way ≠ [] ∧ top.FolderAt here) := by
  cases way with
  | nil =>
      obtain ⟨place, content, same, stands⟩ := holdsFile_iff.mp walks
      cases own.symm.trans same
      exact .inl ⟨rfl, content, stands⟩
  | cons name way =>
      obtain ⟨inner, enters, -⟩ := walks
      obtain ⟨place, entries, node, same, folder, -⟩ :=
        exists_entry_of_resolve (ne_empty_of_resolve own) enters.isName enters.resolves
      cases own.symm.trans same
      exact .inr ⟨List.cons_ne_nil name way, entries, folder⟩

/-- Where there is neither a file nor a folder, no way begins. -/
theorem not_walks (own : top.resolve path = .ok here)
    (noFile : ∀ content, top.at? here ≠ some (.file content)) (noFolder : ¬ top.FolderAt here) :
    ¬ top.Walks opened path way := by
  intro walks
  rcases walks.cases own with ⟨-, content, stands⟩ | ⟨-, folder⟩
  · exact noFile content stands
  · exact noFolder folder

/-- From a file there is no way but the empty one. -/
theorem walks_file {content : ByteArray} (own : top.resolve path = .ok here)
    (stands : top.at? here = some (.file content)) :
    top.Walks opened path way ↔ way ∈ [[]] := by
  rw [List.mem_singleton]
  constructor
  · intro walks
    rcases walks.cases own with ⟨none, -⟩ | ⟨-, entries, folder⟩
    · exact none
    · cases stands.symm.trans folder
  · rintro rfl
    exact holdsFile_iff.mpr ⟨here, content, own, stands⟩

/-- A step to an entry that is no link is always taken, and leads just there. -/
theorem exists_enters_iff {entries : List (ν × FileTree ν)} (isName : IsName name)
    (own : top.resolve path = .ok here) (folder : top.at? here = some (.folder entries))
    {node : FileTree ν} (found : entries.lookup name = some node) (notLink : ∀ target, node ≠ .link target) :
    (∃ inner, top.Enters opened path name inner ∧
        top.Walks (inner :: opened) (join path name) way) ↔
      top.Walks ((here ++ [name]) :: opened) (join path name) way := by
  have leads := resolve_join_entry isName own folder found notLink
  constructor
  · rintro ⟨inner, enters, later⟩
    cases leads.symm.trans enters.resolves
    exact later
  · intro later
    refine ⟨here ++ [name], ⟨isName, leads, ?_⟩, later⟩
    rintro ⟨place, target, same, stands⟩
    cases own.symm.trans same
    rw [at?_entry folder, found] at stands
    exact absurd (Option.some.inj stands) (notLink target)

end Steps

/-! ## The ways of a walk -/

section Walk

variable [PathText ν] [LT ν] [DecidableLT ν]

theorem walkEntries_eq_map (top : FileTree ν) (recursive : Bool) (jump : Jump ν) (path : ν)
    (opened : List (List ν)) (here : List ν) (entries : List (ν × FileTree ν)) :
    top.walkEntries recursive jump path opened here entries = entries.map fun entry =>
      (entry.1,
        top.walkNode recursive jump (join path entry.1) opened (here ++ [entry.1]) entry.2) :=
  eq_map_of_cons rfl (fun _ _ => rfl) entries

theorem lookup_walkEntries (top : FileTree ν) (recursive : Bool) (jump : Jump ν) (path : ν)
    (opened : List (List ν)) (here : List ν) (entries : List (ν × FileTree ν)) (name : ν) :
    (top.walkEntries recursive jump path opened here entries).lookup name =
      (entries.lookup name).map fun node =>
        top.walkNode recursive jump (join path name) opened (here ++ [name]) node := by
  induction entries with
  | nil => rfl
  | cons entry rest ih =>
      rw [walkEntries, lookup_cons_eq_ite, lookup_cons_eq_ite, ih]
      by_cases same : name = entry.1
      · rw [if_pos same, if_pos same, same]
        rfl
      · rw [if_neg same, if_neg same]

variable [LawfulPathText ν] [IsStrictTotalOrder ν (· < ·)] {top : FileTree ν} {jump : Jump ν}
  {bound : Nat} {path name : ν} {opened : List (List ν)} {here way : List ν}
  {entries : List (ν × FileTree ν)}

/-- Whether a jump walks just the ways there are, as long as few enough folders are not open. -/
def Faithful (top : FileTree ν) (jump : Jump ν) (bound : Nat) : Prop :=
  ∀ path opened here entries way, top.resolve path = .ok here →
    top.at? here = some (.folder entries) → (∀ outer ∈ opened, top.FolderAt outer) →
    top.unopened opened < bound → (way ∈ jump path opened here entries ↔ top.Walks opened path way)

/-- The ways through a folder are those that are walked if this is so of each of its entries. -/
theorem mem_gather_walkEntries (own : top.resolve path = .ok here)
    (folder : top.at? here = some (.folder entries))
    (each : ∀ name node, entries.lookup name = some node → ∀ way,
      way ∈ top.walkNode true jump (join path name) opened (here ++ [name]) node ↔
        ∃ inner, top.Enters opened path name inner ∧
          top.Walks (inner :: opened) (join path name) way) :
    way ∈ gather (top.walkEntries true jump path opened here entries) ↔
      top.Walks opened path way := by
  rw [mem_gather]
  constructor
  · rintro ⟨name, ways, rest, rfl, found, member⟩
    rw [lookup_walkEntries, Option.map_eq_some_iff] at found
    obtain ⟨node, stands, rfl⟩ := found
    exact (each name node stands rest).mp member
  · intro walks
    cases way with
    | nil =>
        rcases walks.cases own with ⟨-, content, stands⟩ | ⟨absurd', -⟩
        · cases folder.symm.trans stands
        · exact absurd rfl absurd'
    | cons name rest =>
        obtain ⟨inner, enters, later⟩ := walks
        obtain ⟨place, own', node, same, folder', found⟩ :=
          exists_entry_of_resolve (ne_empty_of_resolve own) enters.isName enters.resolves
        cases own.symm.trans same
        cases folder.symm.trans folder'
        refine ⟨name, _, rest, rfl, ?_, (each name node found rest).mpr ⟨inner, enters, later⟩⟩
        rw [lookup_walkEntries, found, Option.map_some]

omit [IsStrictTotalOrder ν (· < ·)] in
/-- The ways through a link are those through what it leads to, unless that is an open folder. -/
theorem mem_walkNode_link (faithful : Faithful top jump bound) (isName : IsName name)
    (own : top.resolve path = .ok here) {target : ν}
    (stands : top.at? (here ++ [name]) = some (.link target))
    (folders : ∀ outer ∈ opened, top.FolderAt outer) (few : top.unopened opened ≤ bound) :
    way ∈ top.walkNode true jump (join path name) opened (here ++ [name]) (.link target) ↔
      ∃ inner, top.Enters opened path name inner ∧
        top.Walks (inner :: opened) (join path name) way := by
  rw [walkNode]
  cases leads : top.resolve (join path name) with
  | error failure =>
      refine iff_of_false List.not_mem_nil ?_
      rintro ⟨inner, enters, -⟩
      cases leads.symm.trans enters.resolves
  | ok place =>
      rw [exists_enters_iff_of_link isName ⟨here, target, own, stands⟩ leads]
      have astray (noFile : ∀ content, top.at? place ≠ some (.file content))
          (noFolder : ¬ top.FolderAt place) : way ∈ ([] : List (List ν)) ↔
            place ∉ opened ∧ top.Walks (place :: opened) (join path name) way :=
        iff_of_false List.not_mem_nil (not_and_of_not_right _ (not_walks leads noFile noFolder))
      dsimp only
      cases reached : top.at? place with
      | none => exact astray (by simp [reached]) (by simp [FolderAt, reached])
      | some node =>
          cases node with
          | special => exact astray (by simp [reached]) (by simp [FolderAt, reached])
          | link next => exact astray (by simp [reached]) (by simp [FolderAt, reached])
          | file content =>
              have fresh : place ∉ opened := fun member => by
                obtain ⟨inside, other⟩ := folders place member
                cases reached.symm.trans other
              rw [walks_file leads reached, and_iff_right fresh]
          | folder inside =>
              by_cases isOpen : place ∈ opened
              · simp [isOpen]
              · have fewer := unopened_cons_lt isOpen ⟨inside, reached⟩
                have walks := faithful _ (place :: opened) _ _ way leads reached
                  (List.forall_mem_cons.mpr ⟨⟨inside, reached⟩, folders⟩) (fewer.trans_le few)
                simp [isOpen, walks]

/-- The ways through a node are those that are walked from the folder in which it stands. -/
theorem mem_walkNode (named : top.isNamed = true) (faithful : Faithful top jump bound)
    {node : FileTree ν} (own : top.resolve path = .ok here)
    (folder : top.at? here = some (.folder entries)) (found : entries.lookup name = some node)
    (folders : ∀ outer ∈ opened, top.FolderAt outer) (few : top.unopened opened ≤ bound) :
    way ∈ top.walkNode true jump (join path name) opened (here ++ [name]) node ↔
      ∃ inner, top.Enters opened path name inner ∧
        top.Walks (inner :: opened) (join path name) way := by
  have isName := isName_of_lookup named folder found
  have stands := (at?_entry folder name).trans found
  induction node using induction_entries generalizing path name opened here entries way with
  | file content =>
      have leads := resolve_join_entry isName own folder found nofun
      rw [exists_enters_iff isName own folder found nofun, walkNode, walks_file leads stands]
  | special =>
      have leads := resolve_join_entry isName own folder found nofun
      rw [exists_enters_iff isName own folder found nofun, walkNode]
      refine iff_of_false List.not_mem_nil (not_walks leads ?_ ?_)
      · simp [stands]
      · simp [FolderAt, stands]
  | folder inside ih =>
      have leads := resolve_join_entry isName own folder found nofun
      rw [exists_enters_iff isName own folder found nofun, walkNode, if_pos rfl]
      refine mem_gather_walkEntries leads stands fun next below found' way => ?_
      refine ih (next, below) (mem_of_lookup found') leads stands found' ?_ ?_
        (isName_of_lookup named stands found') ((at?_entry stands next).trans found')
      · exact List.forall_mem_cons.mpr ⟨⟨inside, stands⟩, folders⟩
      · exact (unopened_cons_le _ _).trans few
  | link target => exact mem_walkNode_link faithful isName own stands folders few

/-- With as many links as folders that are not open, a walk takes just the ways there are. -/
theorem mem_walk (named : top.isNamed = true) {links : Nat} (own : top.resolve path = .ok here)
    (folder : top.at? here = some (.folder entries))
    (folders : ∀ outer ∈ opened, top.FolderAt outer) (few : top.unopened opened ≤ links) :
    way ∈ top.walk true links path opened here entries ↔ top.Walks opened path way := by
  induction links generalizing path opened here entries way with
  | zero =>
      have idle : Faithful top (fun _ _ _ _ => []) 0 := fun _ _ _ _ _ _ _ _ fewer =>
        absurd fewer (Nat.not_lt_zero _)
      exact mem_gather_walkEntries own folder fun name node found way =>
        mem_walkNode named idle own folder found folders few
  | succ links ih =>
      have faithful : Faithful top (top.walk true links) (links + 1) :=
        fun path opened here entries way own folder folders fewer =>
          ih own folder folders (Nat.le_of_lt_succ fewer)
      exact mem_gather_walkEntries own folder fun name node found way =>
        mem_walkNode named faithful own folder found folders few

end Walk

/-! ## Order and depth -/

section Depth

variable [PathText ν] [LT ν] [DecidableLT ν] [IsStrictTotalOrder ν (· < ·)] {top : FileTree ν}
  {recursive : Bool} {jump : Jump ν}

/-- The ways through a folder are in order if those through the nodes in it are. -/
theorem pairwise_gather_walkEntries {path : ν} {opened : List (List ν)} {here : List ν}
    {entries : List (ν × FileTree ν)}
    (each : ∀ entry ∈ entries, ∀ path opened here,
      (top.walkNode recursive jump path opened here entry.2).Pairwise (· < ·)) :
    (gather (top.walkEntries recursive jump path opened here entries)).Pairwise (· < ·) := by
  refine pairwise_gather ?_
  rw [walkEntries_eq_map, List.forall_mem_map]
  exact fun entry member => each entry member ..

/-- The ways through a node are in order if those of every jump are. -/
theorem pairwise_walkNode
    (sorted : ∀ path opened here entries, (jump path opened here entries).Pairwise (· < ·))
    (node : FileTree ν) (path : ν) (opened : List (List ν)) (here : List ν) :
    (top.walkNode recursive jump path opened here node).Pairwise (· < ·) := by
  induction node using induction_entries generalizing path opened here with
  | file content => exact List.pairwise_singleton ..
  | special => exact .nil
  | folder entries ih =>
      rw [walkNode]
      split
      · exact pairwise_gather_walkEntries ih
      · exact .nil
  | link target =>
      rw [walkNode]
      split
      · exact .nil
      · split
        · exact List.pairwise_singleton ..
        · split
          · exact .nil
          · exact sorted ..
        · exact .nil

theorem pairwise_walk (links : Nat) (path : ν) (opened : List (List ν)) (here : List ν)
    (entries : List (ν × FileTree ν)) :
    (top.walk recursive links path opened here entries).Pairwise (· < ·) := by
  induction links generalizing path opened here entries with
  | zero =>
      exact pairwise_gather_walkEntries fun entry _ => pairwise_walkNode (fun _ _ _ _ => .nil) _
  | succ links ih => exact pairwise_gather_walkEntries fun entry _ => pairwise_walkNode ih _

theorem nil_notMem_walk (links : Nat) (path : ν) (opened : List (List ν)) (here : List ν)
    (entries : List (ν × FileTree ν)) : [] ∉ top.walk recursive links path opened here entries := by
  cases links <;> exact nil_notMem_gather _

/-- Where folders are not descended, a node is a file or has no ways. -/
theorem mem_walkNode_false {flat deep : Jump ν}
    (further : ∀ path opened here entries, [] ∉ deep path opened here entries) (node : FileTree ν)
    (path : ν) (opened : List (List ν)) (here way : List ν) :
    way ∈ top.walkNode false flat path opened here node ↔
      way = [] ∧ way ∈ top.walkNode true deep path opened here node := by
  cases node with
  | file content => simp [walkNode]
  | special => simp [walkNode]
  | folder entries =>
      refine iff_of_false List.not_mem_nil ?_
      rintro ⟨rfl, member⟩
      exact nil_notMem_gather _ member
  | link target =>
      rw [walkNode, walkNode]
      split
      · simp
      · split
        · simp
        · refine iff_of_false List.not_mem_nil ?_
          rintro ⟨rfl, member⟩
          split at member
          · cases member
          · exact further _ _ _ _ member
        · simp

theorem mem_gather_false {flat deep : Jump ν}
    (further : ∀ path opened here entries, [] ∉ deep path opened here entries) (path : ν)
    (opened : List (List ν)) (here : List ν) (entries : List (ν × FileTree ν)) (way : List ν) :
    way ∈ gather (top.walkEntries false flat path opened here entries) ↔
      way ∈ gather (top.walkEntries true deep path opened here entries) ∧ way.length = 1 := by
  simp only [mem_gather, lookup_walkEntries, Option.map_eq_some_iff]
  constructor
  · rintro ⟨name, -, rest, rfl, ⟨node, found, rfl⟩, member⟩
    obtain ⟨rfl, deeper⟩ := (mem_walkNode_false further ..).mp member
    exact ⟨⟨name, _, [], rfl, ⟨node, found, rfl⟩, deeper⟩, rfl⟩
  · rintro ⟨⟨name, -, rest, rfl, ⟨node, found, rfl⟩, member⟩, single⟩
    have none : rest = [] := List.length_eq_zero_iff.mp (Nat.succ.inj single)
    exact ⟨name, _, rest, rfl, ⟨node, found, rfl⟩,
      (mem_walkNode_false further ..).mpr ⟨none, member⟩⟩

/-- Where folders are not descended, the ways are those of one name. -/
theorem walk_false_eq_filter (links : Nat) (path : ν) (opened : List (List ν)) (here : List ν)
    (entries : List (ν × FileTree ν)) :
    top.walk false links path opened here entries =
      (top.walk true links path opened here entries).filter (·.length = 1) := by
  refine (pairwise_walk ..).eq_of_mem_iff ((pairwise_walk ..).filter _) fun way => ?_
  rw [List.mem_filter, decide_eq_true_iff]
  cases links with
  | zero => exact mem_gather_false (fun _ _ _ _ => List.not_mem_nil) ..
  | succ links => exact mem_gather_false (nil_notMem_walk links) ..

end Depth

end FileTree

end TestInventory
