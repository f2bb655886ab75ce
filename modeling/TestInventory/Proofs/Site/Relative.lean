import TestInventory.Proofs.Path
import TestInventory.Site.Resolver

/-!
# Files seen from a directory

A resolver for a directory takes the text of the directory and one slash from the names
of files.  It does so between two names of a path and nowhere else, and what is left
begins with no slash.  So the reported name tells whether a file lies below the directory,
and different files have different reported names.
-/

namespace TestInventory

open TestInventory.Path

/-! ## Files outside the host -/

theorem isInternalFile_of_head {file : String} {first : Char} {rest : List Char}
    (begins : file.toList = first :: rest) (notN : first ≠ 'n') (notI : first ≠ 'i') :
    isInternalFile file = false := by
  have native : file ≠ "native" := by
    rintro rfl
    cases begins
    exact notN rfl
  simp [isInternalFile, begins, native, List.isPrefixOf, Ne.symm notN, Ne.symm notI]

/-- An absolute path is not that of a file of the host. -/
theorem isInternalFile_of_absolute {path : String} (absolute : isAbsolute path = true) :
    isInternalFile path = false := by
  obtain ⟨rest, text⟩ := exists_rest absolute
  exact isInternalFile_of_head text (by decide) (by decide)

/-- The URL of a file is not that of a file of the host. -/
theorem isInternalFile_url (path : String) : isInternalFile ("file://" ++ path) = false :=
  isInternalFile_of_head String.toList_append (by decide) (by decide)

namespace Resolver

/-- A file at an absolute path is reported alike by its path and by its URL. -/
theorem relativize_url (resolver : Resolver) {path : String} (absolute : isAbsolute path = true) :
    resolver.relativize ("file://" ++ path) = resolver.relativize path := by
  obtain ⟨rest, text⟩ := exists_rest absolute
  rw [relativize, relativize, String.toList_append, text]
  rfl

/-- Whether a call site is a line of a file, which is named by its path or by its URL. -/
def Points (site : CallSite) (path : String) (line : Nat) : Prop :=
  caller? site = some (path, line) ∨ caller? site = some ("file://" ++ path, line)

/-- A stack points where its first frame does, if that frame is one of a file. -/
theorem points_of_frame {path : String} (absolute : isAbsolute path = true) {frame : Frame}
    (named : frame.file = path ∨ frame.file = "file://" ++ path) (rest : List Frame) :
    Points (.frames (frame :: rest)) path frame.line := by
  have outside : isInternalFile frame.file = false := by
    rcases named with named | named
    · rw [named]
      exact isInternalFile_of_absolute absolute
    · rw [named]
      exact isInternalFile_url path
  have found : caller? (.frames (frame :: rest)) = some (frame.file, frame.line) := by
    simp [caller?, outside]
  rw [Points, found]
  exact named.imp (congrArg fun file => some (file, frame.line))
    (congrArg fun file => some (file, frame.line))

/-- A call site in a file is resolved to its line and the reported name of the file. -/
theorem resolve_of_points {path : String} (absolute : isAbsolute path = true) (resolver : Resolver)
    {site : CallSite} {line : Nat} (points : Points site path line) (positive : 0 < line) :
    resolver.resolve site = ⟨resolver.relativize path, line⟩ := by
  obtain ⟨rest, text⟩ := exists_rest absolute
  rcases points with found | found
  · have nonempty : path ≠ "" := by
      rintro rfl
      cases text
    simp only [resolve, found]
    exact if_pos ⟨positive, nonempty⟩
  · have nonempty : "file://" ++ path ≠ "" := by
      intro empty
      have begins := (congrArg String.toList empty).symm.trans String.toList_append
      cases begins
    simp only [resolve, found]
    rw [if_pos ⟨positive, nonempty⟩, relativize_url resolver absolute]

/-! ## Names below a directory -/

section Directory

variable {directory : String} (absolute : isAbsolute directory = true)
include absolute

theorem ofDirectory_of_absolute :
    ofDirectory directory = { base := some (String.ofList (trimmed directory ++ ['/'])) } := by
  obtain ⟨rest, text⟩ := exists_rest absolute
  have nonempty : directory.isEmpty = false := by
    rw [← Bool.not_eq_true, String.isEmpty_iff]
    rintro rfl
    cases text
  rw [ofDirectory, nonempty]
  rfl

/-- A clean path is reported without the text of the directory, if it begins with that. -/
theorem relativize_clean {path : String} (absolute' : isAbsolute path = true)
    (notTop : names path ≠ []) :
    (ofDirectory directory).relativize (clean path) =
      if IsTidy directory then (beneath? directory (clean path)).getD (clean path)
      else clean path := by
  obtain ⟨rest, text⟩ := exists_rest (isAbsolute_clean absolute')
  have unmarked : "file://".toList.isPrefixOf? (clean path).toList = none := by
    rw [text]
    rfl
  rw [ofDirectory_of_absolute absolute, relativize, unmarked]
  simp only [Option.getD_none, String.toList_ofList, isPrefixOf?_clean absolute absolute' notTop]
  split
  · cases beneath? directory (clean path) with
    | none => exact String.ofList_toList
    | some name => exact String.ofList_toList
  · exact String.ofList_toList

variable (tidy : IsTidy directory)
include tidy

/-- A file is reported as it is seen from a tidy directory, or else by its whole path. -/
theorem relativize_whole {path : String} (whole : IsWhole path) :
    (ofDirectory directory).relativize path = (beneath? directory path).getD path := by
  have reported := relativize_clean absolute whole.absolute whole.names_ne_nil
  rwa [whole.clean_eq, if_pos tidy] at reported

/-- Different files have different reported names. -/
theorem relativize_inj {first second : String} (whole : IsWhole first) (whole' : IsWhole second)
    (same : (ofDirectory directory).relativize first = (ofDirectory directory).relativize second) :
    first = second := by
  rw [relativize_whole absolute tidy whole, relativize_whole absolute tidy whole'] at same
  cases seen : beneath? directory first with
  | none =>
      cases seen' : beneath? directory second with
      | none =>
          rw [seen, seen'] at same
          exact same
      | some name =>
          rw [seen, seen'] at same
          have relative := isAbsolute_of_beneath? seen'
          rw [← show first = name from same, whole.absolute] at relative
          cases relative
  | some name =>
      cases seen' : beneath? directory second with
      | none =>
          rw [seen, seen'] at same
          have relative := isAbsolute_of_beneath? seen
          rw [show name = second from same, whole'.absolute] at relative
          cases relative
      | some name' =>
          rw [seen, seen'] at same
          have name_eq : name = name' := same
          rw [← String.toList_inj, whole.toList_of_beneath? seen, whole'.toList_of_beneath? seen',
            name_eq]

end Directory

/--
A call site in a file is reported under the path of the file as it is seen from the
directory, if the file lies below that, and otherwise under its whole path, whether the
host names the file by its path or by its URL.  So the reported name begins with a slash
exactly if the file does not lie below the directory, and two call sites are reported in
one file exactly if they lie in one.
-/
theorem reported_apart {directory : String} (absolute : isAbsolute directory = true)
    (tidy : IsTidy directory) {first second : String} (whole : IsWhole first)
    (whole' : IsWhole second) {site site' : CallSite} {line line' : Nat}
    (points : Points site first line) (points' : Points site' second line')
    (positive : 0 < line) (positive' : 0 < line') :
    let report := (ofDirectory directory).resolve
    (report site).line = line ∧
      (report site).file = (beneath? directory first).getD first ∧
      (isAbsolute (report site).file = true ↔ ¬ Below directory first) ∧
      ((report site).file = (report site').file ↔ first = second) := by
  intro report
  have reported : report site = ⟨(ofDirectory directory).relativize first, line⟩ :=
    resolve_of_points whole.absolute _ points positive
  have reported' : report site' = ⟨(ofDirectory directory).relativize second, line'⟩ :=
    resolve_of_points whole'.absolute _ points' positive'
  have seen := relativize_whole absolute tidy whole
  refine ⟨by rw [reported], by rw [reported, seen], ?_, ?_⟩
  · rw [reported, seen, ← isSome_beneath?_iff]
    cases below : beneath? directory first with
    | none => exact iff_of_true whole.absolute nofun
    | some name =>
        have relative : isAbsolute name = false := isAbsolute_of_beneath? below
        exact iff_of_false (fun starts => Bool.noConfusion (relative.symm.trans starts))
          fun outside => outside rfl
  · rw [reported, reported']
    constructor
    · exact relativize_inj absolute tidy whole whole'
    · rintro rfl
      rfl

/-- A file in a directory, and one that a URL names in another whose name begins alike. -/
theorem reported_apart_namesake :
    let report := (ofDirectory "/work/").resolve
    let inside : CallSite := .frames [⟨"node:vm", 1, 1, none⟩, ⟨"/work/a.js", 3, 1, none⟩]
    let outside : CallSite := .frames [⟨"file:///workshop/a.js", 3, 1, some "f"⟩]
    IsTidy "/work/" ∧ IsWhole "/work/a.js" ∧ IsWhole "/workshop/a.js" ∧
      Points inside "/work/a.js" 3 ∧ Points outside "/workshop/a.js" 3 ∧
      ((report inside).file = (report outside).file ↔ "/work/a.js" = "/workshop/a.js") ∧
      (isAbsolute (report outside).file = true ↔ ¬ Below "/work/" "/workshop/a.js") := by
  intro report inside outside
  have tidy : IsTidy "/work/" := by decide +kernel
  have whole : IsWhole "/work/a.js" := ⟨rfl, by decide +kernel, by decide⟩
  have whole' : IsWhole "/workshop/a.js" := ⟨rfl, by decide +kernel, by decide⟩
  have points : Points inside "/work/a.js" 3 := .inl (by decide +kernel)
  have points' : Points outside "/workshop/a.js" 3 := points_of_frame rfl (.inr rfl) []
  obtain ⟨-, -, -, apart⟩ := reported_apart rfl tidy whole whole' points points'
    (by decide) (by decide)
  obtain ⟨-, -, slash, -⟩ := reported_apart rfl tidy whole' whole points' points
    (by decide) (by decide)
  exact ⟨tidy, whole, whole', points, points', apart, slash⟩

/-- A directory is taken from a path only with the slash behind it; the top is one. -/
example :
    (ofDirectory "/work").relativize "/workshop/a.js" = "/workshop/a.js" ∧
      (ofDirectory "/").relativize "/work/a.js" = "work/a.js" := by
  decide +kernel

end Resolver

end TestInventory
