import TestInventory.Proofs.Discovery.Replay
import TestInventory.Proofs.Evaluation.Provenance
import TestInventory.Proofs.Path
import TestInventory.Proofs.Recording.Declarations

/-!
# The reported names of files

All declarations of a file are reported under one name.  It is made from the whole
path of the file, which is clean, by taking away the text of the working directory
and a slash.  The text of a directory that is not clean begins no clean path, so a
file below such a directory is reported by its whole path.
-/

namespace TestInventory

open TestInventory.Path

/-- The path of the top alone is not that of a text. -/
theorem FileTree.exists_read_top (top : FileTree) : ∃ failure, top.read "/" = .error failure := by
  cases top with
  | file content => exact ⟨.notADirectory, rfl⟩
  | special => exact ⟨.notADirectory, rfl⟩
  | link target => exact ⟨.notADirectory, rfl⟩
  | folder entries => exact ⟨.isDirectory, rfl⟩

/-! ## Declarations and their call sites -/

/-- What a signal declares has the location of its call site. -/
theorem Signal.location_of_declared? {resolver : Resolver} {signal : Signal} {name : String}
    {record : Record} (declared : signal.declared? resolver = some (name, record)) :
    ∃ entry site, signal.declaration? = some (entry, site) ∧
      record.location = resolver.resolve site := by
  cases signal with
  | leave => cases declared
  | notice => cases declared
  | _ =>
      cases declared
      exact ⟨_, _, rfl, rfl⟩

/-- Each declaration among signals is that of one of them. -/
theorem declared?_of_mem_declarations {resolver : Resolver} {route : List String}
    {signals : List Signal} {declaration : Declaration}
    (member : declaration ∈ declarations resolver route signals) :
    ∃ signal ∈ signals,
      signal.declared? resolver = some (declaration.name, declaration.record) := by
  induction signals generalizing route with
  | nil => cases member
  | cons signal rest ih =>
      have later : ∀ route, declaration ∈ declarations resolver route rest →
          ∃ signal' ∈ signal :: rest,
            signal'.declared? resolver = some (declaration.name, declaration.record) := by
        intro route member
        obtain ⟨signal', among, declared⟩ := ih member
        exact ⟨signal', List.mem_cons_of_mem signal among, declared⟩
      unfold declarations at member
      cases declared : signal.declared? resolver with
      | none =>
          rw [declared] at member
          exact later _ member
      | some entry =>
          rw [declared] at member
          rcases List.mem_cons.mp member with rfl | member
          · exact ⟨signal, List.mem_cons_self, declared⟩
          · exact later _ member

namespace Loader

variable (loader : Loader)

section Files

-- Otherwise a check of equality may follow the links of a path.
attribute [local irreducible] FileTree.read

/-- A declaration of a file is made in the text that is read. -/
theorem exists_frame {path : String} {signal : Signal} (member : signal ∈ loader.signals path)
    {entry : Entry} {site : CallSite} (declares : signal.declaration? = some (entry, site)) :
    ∃ text span rest, loader.files.read (loader.wholePath path) = .ok text ∧
      site = .frames ((loader.sourceFile path text).frame span :: rest) := by
  unfold signals load loadAs at member
  cases read : loader.files.read (loader.wholePath path) with
  | error failure =>
      rw [read] at member
      cases member
  | ok text =>
      let setting : Setting (List Signal) :=
        { file := loader.sourceFile path text, interface := loader.interface,
          resolver := loader.resolver, listener := Signal.observer }
      rw [read] at member
      have member : signal ∈ (setting.load []).2 := member
      unfold Setting.load at member
      cases parsed : Program.parse? setting.file.isScript setting.file.text with
      | none =>
          rw [parsed] at member
          cases member
      | some program =>
          rw [parsed] at member
          have tells : setting.Tells Setting.activationLimit program.job [] := Setting.tells rfl ..
          obtain ⟨told, hears, traced⟩ := tells
          have member : signal ∈ [] ++ told := hears ▸ member
          obtain ⟨before, after, split⟩ := List.append_of_mem member
          obtain ⟨visit, span, entry', -, callee, arguments, -, -, announced, -⟩ :=
            traced before signal after split (by rw [declares]; rfl)
          have same := setting.declaration?_of_announcement _ span entry' arguments announced
          obtain ⟨-, rfl⟩ := Prod.mk.inj (Option.some.inj (declares.symm.trans same))
          exact ⟨text, span, _, rfl, rfl⟩

end Files

/-- Every declaration of a file is reported under the name that is made of its whole path. -/
theorem file_of_mem_declarations (absolute : isAbsolute loader.directory = true) {path : String}
    {declaration : Declaration}
    (member : declaration ∈ declarations loader.resolver [] (loader.signals path)) :
    (∃ text, loader.files.read (loader.wholePath path) = .ok text) ∧
      declaration.record.location.file = loader.resolver.relativize (loader.wholePath path) := by
  obtain ⟨signal, among, declared⟩ := declared?_of_mem_declarations member
  obtain ⟨entry, site, declares, located⟩ := Signal.location_of_declared? declared
  obtain ⟨text, span, rest, read, rfl⟩ := loader.exists_frame among declares
  have whole : isAbsolute (loader.wholePath path) = true :=
    isAbsolute_clean (isAbsolute_join absolute path)
  have known := loader.sourceFile_atAbsolute whole text
  refine ⟨⟨text, read⟩, ?_⟩
  rw [located, Resolver.resolve_frames known]
  rfl

/-- The name is the whole path without the text of the directory, if it begins with that. -/
theorem relativize_wholePath (absolute : isAbsolute loader.directory = true) {path : String}
    (below : names (join loader.directory path) ≠ []) :
    loader.resolver.relativize (loader.wholePath path) =
      if IsTidy loader.directory then
        (beneath? loader.directory (loader.wholePath path)).getD (loader.wholePath path)
      else loader.wholePath path :=
  Resolver.relativize_clean absolute (isAbsolute_join absolute path) below

/-- A file that is read does not lie at the top. -/
theorem names_ne_nil_of_read (absolute : isAbsolute loader.directory = true) {path text : String}
    (read : loader.files.read (loader.wholePath path) = .ok text) :
    names (join loader.directory path) ≠ [] := by
  intro none
  have top : loader.wholePath path = "/" := by
    rw [← String.toList_inj, wholePath, toList_clean (isAbsolute_join absolute path), if_pos none]
    rfl
  obtain ⟨failure, fails⟩ := loader.files.exists_read_top
  rw [top, fails] at read
  cases read

/--
All declarations of a file are reported under one name, in whatever form the file is
brought in.  It is the whole path of the file, which is clean, or in a directory that is
tidy the path as it is seen from there, if the file lies below the directory.  So it is
the latter for every file below exactly if the directory is tidy.
-/
theorem reported_file (absolute : isAbsolute loader.directory = true) (path : String) :
    let whole := loader.wholePath path
    ∀ declaration ∈ declarations loader.resolver [] (loader.signals path),
      declaration.record.location.file =
        (if IsTidy loader.directory then (beneath? loader.directory whole).getD whole else whole) ∧
      (declaration.record.location.file = (beneath? loader.directory whole).getD whole ↔
        IsTidy loader.directory ∨ beneath? loader.directory whole = none) := by
  intro whole declaration member
  have isWhole : whole = clean (join loader.directory path) := rfl
  obtain ⟨⟨text, read⟩, named⟩ := loader.file_of_mem_declarations absolute member
  have below := loader.names_ne_nil_of_read absolute read
  rw [loader.relativize_wholePath absolute below] at named
  refine ⟨named, ?_⟩
  rw [named]
  by_cases tidy : IsTidy loader.directory
  · rw [if_pos tidy]
    exact iff_of_true rfl (.inl tidy)
  · rw [if_neg tidy, or_iff_right tidy]
    cases seen : beneath? loader.directory whole with
    | none => exact iff_of_true rfl rfl
    | some name =>
        refine iff_of_false (fun same => ?_) nofun
        have longer := congrArg List.length
          (toList_of_beneath? (isAbsolute_join absolute path) (isWhole ▸ seen))
        rw [← isWhole, show whole = name from same, List.length_append, List.length_cons] at longer
        omega

/-- A file in a folder, which is the working directory and may be written in several ways. -/
def oneModule (directory : String) : Loader where
  files := .folder [("p", .folder [("a.mjs", .file "it('x');".toUTF8)])]
  directory

/-- Seen from a tidy directory, a file that is named by a URL is reported by its name. -/
theorem reported_file_oneModule :
    isAbsolute (oneModule "/p/").directory = true ∧
      ∃ declaration ∈ declarations (oneModule "/p/").resolver []
          ((oneModule "/p/").signals "a.mjs"),
        declaration.record.location.file = "a.mjs" := by
  have member : (⟨[], "x", ⟨.test .plain, ⟨"a.mjs", 1⟩⟩⟩ : Declaration) ∈
      declarations (oneModule "/p/").resolver [] ((oneModule "/p/").signals "a.mjs") := by
    decide +kernel
  have named := (reported_file (oneModule "/p/") rfl "a.mjs" _ member).1
  refine ⟨rfl, _, member, ?_⟩
  rw [named]
  decide +kernel

/-- With a dot behind the directory, the same file is reported by its whole path. -/
theorem dotted_directory_drifts :
    ¬ ∀ (loader : Loader) (path : String), isAbsolute loader.directory = true →
      ∀ declaration ∈ declarations loader.resolver [] (loader.signals path),
        declaration.record.location.file =
          (beneath? loader.directory (loader.wholePath path)).getD (loader.wholePath path) := by
  intro relative
  have member : (⟨[], "x", ⟨.test .plain, ⟨"/p/a.mjs", 1⟩⟩⟩ : Declaration) ∈
      declarations (oneModule "/p/.").resolver [] ((oneModule "/p/.").signals "a.mjs") := by
    decide +kernel
  have seen : beneath? (oneModule "/p/.").directory ((oneModule "/p/.").wholePath "a.mjs") =
      some "a.mjs" := by
    decide +kernel
  have named := relative (oneModule "/p/.") "a.mjs" rfl _ member
  rw [seen, Option.getD_some] at named
  exact absurd named (by decide)

end Loader

end TestInventory
