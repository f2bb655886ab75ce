import Mathlib.Data.List.Lex
import TestInventory.Proofs.Lookup.Walk

/-!
# The files that are found

Below a folder just those files are found to which a way leads that comes back to no
folder over a link, and whose names fit an extension.  They come in the order of the
components of their paths.  Which extension is named first matters for a root only that
does not exist.
-/

namespace TestInventory

open PathText

/-- Whether a name can be read, is not hidden, and ends in a dot and one of the extensions. -/
def Extensions.Fits {ν : Type} [PathText ν] (extensions : Extensions) (name : ν) : Prop :=
  ∃ text : String, text? name = some text ∧ text.toList.head? ≠ some '.' ∧
    ∃ word ∈ extensions.words, ∃ stem : String, text = stem ++ "." ++ word

/-- That a name is wanted does not depend on how often, or in what order, extensions are named. -/
theorem Extensions.wants_iff {extensions : Extensions} {text : String} :
    extensions.wants text = true ↔ text.toList.head? ≠ some '.' ∧
      ∃ word ∈ extensions.words, ∃ stem : String, text = stem ++ "." ++ word := by
  have ends : ∀ word : String, ("." ++ word).toList.isSuffixOf text.toList = true ↔
      ∃ stem : String, text = stem ++ "." ++ word := by
    intro word
    rw [List.isSuffixOf_iff_suffix]
    constructor
    · rintro ⟨stem, split⟩
      refine ⟨String.ofList stem, String.toList_inj.mp ?_⟩
      simp [← split]
    · rintro ⟨stem, rfl⟩
      exact ⟨stem.toList, by simp⟩
  simp only [wants, matchName, Bool.and_eq_true, bne_iff_ne, List.any_eq_true, ends]

namespace FileTree

variable {ν : Type} [PathText ν]

theorem wantsEnd_iff {extensions : Extensions} {way : List ν} :
    wantsEnd extensions way = true ↔
      ∃ before name, way = before ++ [name] ∧ extensions.Fits name := by
  simp only [wantsEnd, Option.any_eq_true, Option.bind_eq_some_iff, List.getLast?_eq_some_iff,
    Extensions.wants_iff, Extensions.Fits]
  constructor
  · rintro ⟨text, ⟨name, ⟨before, split⟩, readable⟩, fits⟩
    exact ⟨before, name, split, text, readable, fits⟩
  · rintro ⟨before, name, split, text, readable, fits⟩
    exact ⟨text, ⟨name, ⟨before, split⟩, readable⟩, fits⟩

/-! ## What a root means -/

section Roots

variable [DecidableEq ν] {top : FileTree ν} {root path : ν} {extensions : Extensions}
  {recursive : Bool}

theorem exists_resolve_of_holds (there : top.holds path = true) :
    ∃ place, top.resolve path = .ok place := by
  unfold holds find? at there
  cases goes : top.resolve path with
  | error failure => simp [goes, Except.toOption] at there
  | ok place => exact ⟨place, rfl⟩

theorem holds_of_folderAt {place : List ν} (own : top.resolve path = .ok place)
    (folder : top.FolderAt place) : top.holds path = true := by
  obtain ⟨entries, stands⟩ := folder
  simp [holds, find?, own, Except.toOption, stands]

variable [LT ν] [DecidableLT ν]

theorem lookup_of_folder {place : List ν} {entries : List (ν × FileTree ν)}
    (own : top.resolve root = .ok place) (folder : top.at? place = some (.folder entries)) :
    top.lookup root extensions recursive =
      some (((top.walk recursive top.folders.length root [place] place entries).filter
        (wantsEnd extensions)).map (along root)) := by
  have there := holds_of_folderAt own ⟨entries, folder⟩
  simp [lookup, candidates, there, own, Except.toOption, folder]

/-- Nothing is found just if neither the root nor the root with an extension is there. -/
theorem lookup_eq_none_iff :
    top.lookup root extensions recursive = none ↔
      top.holds root = false ∧
        ∀ word ∈ extensions.words, top.holds (extended root word) = false := by
  have absent : (candidates root extensions).find? top.holds = none ↔
      top.holds root = false ∧
        ∀ word ∈ extensions.words, top.holds (extended root word) = false := by
    simp [candidates]
  rw [← absent, lookup]
  cases found : (candidates root extensions).find? top.holds with
  | none => simp
  | some path =>
      obtain ⟨place, goes⟩ := exists_resolve_of_holds (List.find?_some found)
      simp only [Option.bind_eq_bind, Option.bind_some, goes, Except.toOption]
      split <;> simp

/-- Extensions in another order, or named again, give the same for a root that is there. -/
theorem lookup_congr {others : Extensions} (there : top.holds root = true)
    (same : ∀ word, word ∈ others.words ↔ word ∈ extensions.words) :
    top.lookup root others recursive = top.lookup root extensions recursive := by
  have wanted : wantsEnd others = (wantsEnd extensions : List ν → Bool) := by
    funext way
    rw [Bool.eq_iff_iff, wantsEnd_iff, wantsEnd_iff]
    simp only [Extensions.Fits, same]
  simp only [lookup, candidates, List.find?_cons_of_pos there, wanted]

/-- A root that is not there stands for itself with the first extension that makes it something. -/
theorem lookup_of_absent {before after : List String} {word : String}
    (absent : top.holds root = false) (split : extensions.words = before ++ word :: after)
    (earlier : ∀ other ∈ before, top.holds (extended root other) = false)
    (there : top.holds (extended root word) = true) :
    top.lookup root extensions recursive =
      top.lookup (extended root word) extensions recursive := by
  have first : (candidates root extensions).find? top.holds = some (extended root word) := by
    have none : (before.map (extended root)).find? top.holds = none := by simpa using earlier
    have missing : ¬ top.holds root = true := by simp [absent]
    rw [candidates, split, List.map_append, List.map_cons, List.find?_cons_of_neg missing,
      List.find?_append, none, Option.none_or, List.find?_cons_of_pos there]
  have own : (candidates (extended root word) extensions).find? top.holds =
      some (extended root word) := List.find?_cons_of_pos there
  rw [lookup, lookup, first, own]

end Roots

/-! ## Ways that lead to files -/

variable [DecidableEq ν] {top : FileTree ν} {root : ν} {way : List ν}

/--
Whether a way leads from a root to a file, and no link on it leads back: neither to a
folder that is open already, nor to one to which the way has come before.
-/
structure Leads (top : FileTree ν) (opened : List (List ν)) (root : ν) (way : List ν) : Prop where
  isName : ∀ name ∈ way, IsName name
  toFile : top.holdsFile (along root way) = true
  fresh : ∀ before name after inner, way = before ++ name :: after →
    top.LinkAt (along root before) name →
    top.resolve (along root (before ++ [name])) = .ok inner →
    inner ∉ opened ∧ ∀ outer, outer <+: before → top.resolve (along root outer) ≠ .ok inner

variable [LawfulPathText ν]

/-- A path leads somewhere if a way goes on from it. -/
theorem exists_resolve_of_along {path : ν} (nonempty : path ≠ ofText "")
    (all : ∀ name ∈ way, IsName name) {inner : List ν}
    (goes : top.resolve (along path way) = .ok inner) : ∃ here, top.resolve path = .ok here := by
  induction way generalizing path with
  | nil => exact ⟨inner, goes⟩
  | cons name way ih =>
      obtain ⟨isName, later⟩ := List.forall_mem_cons.mp all
      obtain ⟨place, step⟩ := ih (join_ne_empty path isName) later goes
      obtain ⟨here, entries, node, own, -⟩ := exists_entry_of_resolve nonempty isName step
      exact ⟨here, own⟩

/-- What is walked step by step is what leads to a file as a whole. -/
theorem walks_iff_leads {opened : List (List ν)} {place : List ν}
    (own : top.resolve root = .ok place) :
    top.Walks (place :: opened) root way ↔ top.Leads opened root way := by
  induction way generalizing root place opened with
  | nil =>
      constructor
      · exact fun isFile => ⟨List.forall_mem_nil _, isFile, by simp⟩
      · exact Leads.toFile
  | cons name way ih =>
      constructor
      · rintro ⟨inner, enters, walks⟩
        have leads := (ih enters.resolves).mp walks
        refine ⟨List.forall_mem_cons.mpr ⟨enters.isName, leads.isName⟩, leads.toFile, ?_⟩
        intro before last after final split linked goes
        cases before with
        | nil =>
            obtain ⟨rfl, rfl⟩ := List.cons.inj split
            cases enters.resolves.symm.trans goes
            obtain ⟨other, apart⟩ := not_or.mp (mt List.mem_cons.mpr (enters.fresh linked))
            refine ⟨apart, fun outer begins same => ?_⟩
            cases List.prefix_nil.mp begins
            cases own.symm.trans same
            exact other rfl
        | cons first before =>
            obtain ⟨rfl, rfl⟩ := List.cons.inj split
            obtain ⟨notOpen, others⟩ := leads.fresh before last after final rfl linked goes
            obtain ⟨other, apart⟩ := not_or.mp (mt List.mem_cons.mpr notOpen)
            refine ⟨apart, fun outer begins same => ?_⟩
            cases outer with
            | nil =>
                cases own.symm.trans same
                exact other rfl
            | cons head outer =>
                obtain ⟨rfl, within⟩ := List.cons_prefix_cons.mp begins
                exact others outer within same
      · intro leads
        obtain ⟨isName, later⟩ := List.forall_mem_cons.mp leads.isName
        obtain ⟨final, content, goes, -⟩ := holdsFile_iff.mp leads.toFile
        obtain ⟨inner, step⟩ :=
          exists_resolve_of_along (join_ne_empty root isName) later goes
        refine ⟨inner, ⟨isName, step, fun linked => ?_⟩, (ih step).mpr ⟨later, leads.toFile, ?_⟩⟩
        · obtain ⟨apart, others⟩ := leads.fresh [] name way inner rfl linked step
          refine mt List.mem_cons.mp (not_or.mpr ⟨?_, apart⟩)
          rintro rfl
          exact others [] List.nil_prefix own
        · intro before last after final split linked goes
          obtain ⟨apart, others⟩ :=
            leads.fresh (name :: before) last after final (split ▸ rfl) linked goes
          refine ⟨mt List.mem_cons.mp (not_or.mpr ⟨?_, apart⟩), fun outer begins => ?_⟩
          · rintro rfl
            exact others [] List.nil_prefix own
          · exact others (name :: outer) (List.cons_prefix_cons.mpr ⟨rfl, begins⟩)

/-! ## The files below a folder -/

section Found

variable [LT ν] [DecidableLT ν] [IsStrictTotalOrder ν (· < ·)] (named : top.isNamed = true)
  {place : List ν} {entries : List (ν × FileTree ν)} (own : top.resolve root = .ok place)
  (folder : top.at? place = some (.folder entries))
include named own folder

/-- A walk from a root takes just the ways that lead to files. -/
theorem mem_walk_iff_leads :
    way ∈ top.walk true top.folders.length root [place] place entries ↔ top.Leads [] root way := by
  rw [mem_walk named own folder (List.forall_mem_singleton.mpr ⟨entries, folder⟩)
    (unopened_le_length [place])]
  exact walks_iff_leads own

/-- The components of a path that is found are those of the root and the names of its way. -/
theorem components_along
    (walked : way ∈ top.walk true top.folders.length root [place] place entries) :
    components (along root way) = components root ++ way :=
  components_foldl_join root ((mem_walk_iff_leads named own folder).mp walked).isName

/-- Paths that are found come in the order of their components. -/
theorem pairwise_map_along (wanted : List ν → Bool) :
    (((top.walk true top.folders.length root [place] place entries).filter wanted).map
      (along root)).Pairwise fun path later => components path < components later := by
  refine List.pairwise_map.mpr (List.Pairwise.imp_of_mem ?_ ((pairwise_walk ..).filter wanted))
  intro way later member among before
  rw [components_along named own folder (List.mem_of_mem_filter member),
    components_along named own folder (List.mem_of_mem_filter among)]
  exact List.Lex.append_left (· < ·) before (components root)

/-- Where folders are not descended, the paths are those of one component more than the root. -/
theorem lookup_false_eq_filter (extensions : Extensions) {files : List ν}
    (found : top.lookup root extensions true = some files) :
    top.lookup root extensions false =
      some (files.filter fun path => (components path).length = (components root).length + 1) := by
  rw [lookup_of_folder own folder] at found ⊢
  cases found
  rw [walk_false_eq_filter, List.filter_map, List.filter_filter, List.filter_filter]
  congr 2
  refine List.filter_congr fun way member => ?_
  rw [Function.comp_apply, components_along named own folder member, List.length_append]
  simp [Bool.and_comm]

end Found

/--
Whether files are what is to be found below a root: just those to which a way leads and
whose names fit, each once and in the order of the components of their paths.  Without
descending, those among them are found that are directly in the root.
-/
structure Lists (top : FileTree ν) [LT ν] [DecidableLT ν] (root : ν) (extensions : Extensions)
    (files : List ν) : Prop where
  mem_iff : ∀ path, path ∈ files ↔ ∃ before name, path = along root (before ++ [name]) ∧
    top.Leads [] root (before ++ [name]) ∧ extensions.Fits name
  ordered : files.Pairwise fun path later => components path < components later
  once : files.Nodup
  direct : top.lookup root extensions false =
    some (files.filter fun path => (components path).length = (components root).length + 1)

/--
Below a folder, what is there to be found is found.  It hangs only on what extensions
are named, as long as the root is there.  A root that is not there stands for itself
with the first extension that makes it something, and nothing is found just if there is
no such extension.
-/
theorem lookup_exact [LT ν] [DecidableLT ν] [IsStrictTotalOrder ν (· < ·)]
    (named : top.isNamed = true) (root : ν) (extensions : Extensions) :
    (∀ place, top.resolve root = .ok place → top.FolderAt place →
      ∃ files, top.lookup root extensions true = some files ∧ top.Lists root extensions files) ∧
    (∀ (others : Extensions) recursive, top.holds root = true →
      (∀ word, word ∈ others.words ↔ word ∈ extensions.words) →
      top.lookup root others recursive = top.lookup root extensions recursive) ∧
    (∀ recursive before word after, top.holds root = false →
      extensions.words = before ++ word :: after →
      (∀ earlier ∈ before, top.holds (extended root earlier) = false) →
      top.holds (extended root word) = true →
      top.lookup root extensions recursive = top.lookup (extended root word) extensions recursive) ∧
    ∀ recursive, top.lookup root extensions recursive = none ↔
      top.holds root = false ∧
        ∀ word ∈ extensions.words, top.holds (extended root word) = false := by
  refine ⟨?_, fun others recursive => lookup_congr,
    fun recursive before word after absent split earlier there =>
      lookup_of_absent absent split earlier there, fun recursive => lookup_eq_none_iff⟩
  rintro place own ⟨entries, folder⟩
  have ordered := pairwise_map_along named own folder (wantsEnd extensions)
  refine ⟨_, lookup_of_folder own folder, fun path => ?_, ordered, ?_,
    lookup_false_eq_filter named own folder extensions (lookup_of_folder own folder)⟩
  · simp only [List.mem_map, List.mem_filter, mem_walk_iff_leads named own folder, wantsEnd_iff]
    constructor
    · rintro ⟨way, ⟨leads, before, name, rfl, fits⟩, rfl⟩
      exact ⟨before, name, rfl, leads, fits⟩
    · rintro ⟨before, name, rfl, leads, fits⟩
      exact ⟨before ++ [name], ⟨leads, before, name, rfl, fits⟩, rfl⟩
  · refine ordered.imp fun before => ?_
    rintro rfl
    exact List.lt_irrefl _ before

/-- A folder with a hidden one in it, a name that cannot be read, and links back and astray. -/
def sample : FileTree BytePath :=
  .folder [(ofText "test", .folder [
    (ofText "a.js", .file .empty),
    (ofText ".b.js", .file .empty),
    (⟨[255, 46, 106, 115]⟩, .file .empty),
    (ofText ".git", .folder [(ofText "c.js", .file .empty)]),
    (ofText "a", .folder [
      (ofText "x.js", .link (ofText "../a.js")),
      (ofText "up", .link (ofText ".."))]),
    (ofText "gone.js", .link (ofText "nowhere"))])]

theorem lookup_exact_sample :
    sample.isNamed = true ∧
    sample.Lists (ofText "/test") .standard
      [ofText "/test/.git/c.js", ofText "/test/a/x.js", ofText "/test/a.js"] ∧
    sample.lookup (ofText "/test") ⟨["mjs", "js", "cjs", "js"]⟩ false =
      sample.lookup (ofText "/test") .standard false ∧
    sample.lookup (ofText "/test/a/x") .standard true =
      sample.lookup (ofText "/test/a/x.js") .standard true ∧
    sample.lookup (ofText "/test/b") .standard true = none := by
  have named : sample.isNamed = true := by decide +kernel
  refine ⟨named, ?_, ?_, ?_, ?_⟩
  · obtain ⟨files, found, lists⟩ := (lookup_exact named (ofText "/test") .standard).1
      [ofText "test"] (by decide +kernel) ⟨_, rfl⟩
    have paths : sample.lookup (ofText "/test") .standard true =
        some [ofText "/test/.git/c.js", ofText "/test/a/x.js", ofText "/test/a.js"] := by
      decide +kernel
    exact Option.some.inj (paths.symm.trans found) ▸ lists
  · have same : ∀ word, word ∈ ["mjs", "js", "cjs", "js"] ↔ word ∈ Extensions.standard.words := by
      have words : Extensions.standard.words = ["js", "cjs", "mjs"] := by decide +kernel
      intro word
      simp only [words, List.mem_cons, List.not_mem_nil, or_false]
      tauto
    exact (lookup_exact named (ofText "/test") .standard).2.1 ⟨_⟩ false (by decide +kernel) same
  · have absent : sample.holds (ofText "/test/a/x") = false := by decide +kernel
    have there : sample.holds (ofText "/test/a/x.js") = true := by decide +kernel
    exact (lookup_exact named (ofText "/test/a/x") .standard).2.2.1 true [] "js" ["cjs", "mjs"]
      absent (by decide +kernel) nofun there
  · exact ((lookup_exact named (ofText "/test/b") .standard).2.2.2 true).mpr (by decide +kernel)

end FileTree

end TestInventory
