import Mathlib.Data.List.Basic
import TestInventory.Path
import TestInventory.Proofs.Text

/-!
# Clean paths

A clean path from the top is a row of names, each behind a slash, or a slash alone.
What stands before a slash in it is a row of its first names, so one clean path is
seen from another by leaving out the names that they have in common.
-/

namespace TestInventory

namespace Path

/-- Whether a piece of a path is the name of something in a folder. -/
structure IsName (piece : String) : Prop where
  nonempty : piece ≠ ""
  notHere : piece ≠ "."
  notUp : piece ≠ ".."
  noSlash : '/' ∉ piece.toList

/-- Names as they are written in a path, each behind a slash. -/
def written (names : List String) : List Char := names.flatMap fun name => '/' :: name.toList

/-- The names to which a path leads from the top, if no link is on the way. -/
def names (path : String) : List String := ((components path).foldl (step true) []).reverse

/-- A path without the slashes at its end. -/
def trimmed (path : String) : List Char := (path.toList.reverse.dropWhile (· = '/')).reverse

/-- Whether a path is clean up to slashes at its end. -/
def IsTidy (path : String) : Prop := trimmed path = trimmed (clean path)

instance (path : String) : Decidable (IsTidy path) :=
  inferInstanceAs (Decidable (trimmed path = trimmed (clean path)))

/-- The path of something below a folder, as it is seen from the folder. -/
def beneath? (folder path : String) : Option String :=
  match (names folder).isPrefixOf? (names path) with
  | some (name :: rest) => some ("/".intercalate (name :: rest))
  | _ => none

/-- Whether a folder is on the way from the top to a path, which leads further. -/
def Below (folder path : String) : Prop :=
  ∃ name later, names path = names folder ++ name :: later

/-- Whether a path is absolute and clean, and not that of the top. -/
structure IsWhole (path : String) : Prop where
  absolute : isAbsolute path = true
  clean_eq : clean path = path
  notTop : path ≠ "/"

/-! ## Absolute paths -/

/-- An absolute path begins with a slash. -/
theorem exists_rest {path : String} (absolute : isAbsolute path = true) :
    ∃ rest, path.toList = '/' :: rest := by
  unfold isAbsolute at absolute
  cases text : path.toList with
  | nil => simp [text] at absolute
  | cons first rest =>
      simp only [text, List.head?_cons, Option.some.injEq, decide_eq_true_eq] at absolute
      exact ⟨rest, by rw [absolute]⟩

theorem isAbsolute_join {directory : String} (absolute : isAbsolute directory = true)
    (path : String) : isAbsolute (join directory path) = true := by
  obtain ⟨others, text⟩ := exists_rest absolute
  have begins : ∀ rest : String, isAbsolute (directory ++ rest) = true := by
    intro rest
    rw [isAbsolute, String.toList_append, text]
    rfl
  unfold join
  split
  · assumption
  · split
    · exact begins path
    · rw [String.append_assoc]
      exact begins ("/" ++ path)

theorem isAbsolute_clean {path : String} (absolute : isAbsolute path = true) :
    isAbsolute (clean path) = true := by
  unfold isAbsolute clean
  rw [if_pos absolute, String.toList_append]
  rfl

/-! ## Components -/

/-- The components of a path with a text. -/
def componentsOf (text : List Char) : List String := components (String.ofList text)

theorem componentsOf_toList (path : String) : componentsOf path.toList = components path := by
  rw [componentsOf, String.ofList_toList]

/-- Parts that are divided by a slash have their components apart from each other. -/
theorem componentsOf_append (first second : List Char) :
    componentsOf (first ++ '/' :: second) = componentsOf first ++ componentsOf second := by
  simp only [componentsOf, components, pieces, String.toList_ofList, Text.splitAt_append,
    List.map_append, List.filter_append]

theorem componentsOf_nil : componentsOf [] = [] := rfl

theorem componentsOf_of_isName {name : String} (isName : IsName name) :
    componentsOf name.toList = [name] := by
  rw [componentsOf_toList]
  simp [components, pieces, Text.splitAt_of_notMem isName.noSlash, isName.nonempty, isName.notHere]

/-- Slashes at the end of a path name nothing. -/
theorem componentsOf_trimmed (path : String) : componentsOf (trimmed path) = components path := by
  have slashes : ∀ count (text : List Char),
      componentsOf (text ++ List.replicate count '/') = componentsOf text := by
    intro count
    induction count with
    | zero => exact fun text => congrArg componentsOf (List.append_nil text)
    | succ count ih =>
        intro text
        rw [List.replicate_succ', ← List.append_assoc, componentsOf_append, ih,
          componentsOf_nil, List.append_nil]
  have split : path.toList = trimmed path ++
      List.replicate (path.toList.reverse.takeWhile (· = '/')).length '/' := by
    have all : ∀ c ∈ path.toList.reverse.takeWhile (· = '/'), c = '/' := fun c member =>
      of_decide_eq_true (List.all_eq_true.mp List.all_takeWhile c member)
    rw [trimmed, ← List.reverse_replicate, ← List.eq_replicate_of_mem all, ← List.reverse_append,
      List.takeWhile_append_dropWhile, List.reverse_reverse]
  rw [← slashes, ← split, componentsOf_toList]

/-- Written names are the components of what they are written behind. -/
theorem componentsOf_append_written (first : List Char) {names : List String}
    (all : ∀ name ∈ names, IsName name) :
    componentsOf (first ++ written names) = componentsOf first ++ names := by
  induction names generalizing first with
  | nil => rw [written, List.flatMap_nil, List.append_nil, List.append_nil]
  | cons name names ih =>
      obtain ⟨isName, later⟩ := List.forall_mem_cons.mp all
      have begins : written (name :: names) = '/' :: (name.toList ++ written names) := rfl
      rw [begins, componentsOf_append, ih name.toList later, componentsOf_of_isName isName,
        List.singleton_append]

theorem componentsOf_written {names : List String} (all : ∀ name ∈ names, IsName name) :
    componentsOf (written names) = names :=
  componentsOf_append_written [] all

/-! ## Names -/

/-- Names alone lead nowhere up. -/
theorem foldl_step_of_isName {names : List String} (all : ∀ name ∈ names, IsName name)
    (place : List String) : names.foldl (step true) place = names.reverse ++ place := by
  induction names generalizing place with
  | nil => rfl
  | cons name names ih =>
      obtain ⟨isName, later⟩ := List.forall_mem_cons.mp all
      have inside : step true place name = name :: place := if_neg isName.notUp
      rw [List.foldl_cons, inside, ih later, List.reverse_cons, List.append_assoc,
        List.singleton_append]

/-- A path whose components are names has these names. -/
theorem names_of_components {path : String} {names : List String}
    (same : components path = names) (all : ∀ name ∈ names, IsName name) :
    Path.names path = names := by
  rw [Path.names, same, foldl_step_of_isName all, List.append_nil, List.reverse_reverse]

theorem isName_of_mem_components {path component : String}
    (member : component ∈ components path) (notUp : component ≠ "..") : IsName component := by
  obtain ⟨isPiece, kept⟩ := List.mem_filter.mp member
  obtain ⟨part, isPart, rfl⟩ := List.mem_map.mp isPiece
  simp only [Bool.and_eq_true, bne_iff_ne] at kept
  refine ⟨kept.1, kept.2, notUp, ?_⟩
  rw [String.toList_ofList]
  exact Text.notMem_of_mem_splitAt isPart

/-- Below the top every step of a path leads to a place that names lead to. -/
theorem isName_of_mem_foldl_step {path : String} {place : List String}
    (all : ∀ name ∈ place, IsName name) {later : List String}
    (among : ∀ component ∈ later, component ∈ components path) :
    ∀ name ∈ later.foldl (step true) place, IsName name := by
  induction later generalizing place with
  | nil => exact all
  | cons component later ih =>
      obtain ⟨here, among⟩ := List.forall_mem_cons.mp among
      refine ih ?_ among
      unfold step
      split
      · cases place with
        | nil => exact nofun
        | cons inner outer =>
            obtain ⟨isName, above⟩ := List.forall_mem_cons.mp all
            dsimp only
            rw [if_neg isName.notUp]
            exact above
      · next notUp => exact List.forall_mem_cons.mpr ⟨isName_of_mem_components here notUp, all⟩

theorem isName_of_mem_names {path name : String} (member : name ∈ names path) : IsName name :=
  isName_of_mem_foldl_step (List.forall_mem_nil _) (fun _ => id) name (List.mem_reverse.mp member)

/-! ## Clean paths -/

/-- Written names begin with a slash, and there is one between any two of them. -/
theorem written_eq_cons {names : List String} (nonempty : names ≠ []) :
    written names = '/' :: ("/".intercalate names).toList := by
  rw [String.toList_intercalate]
  induction names with
  | nil => exact absurd rfl nonempty
  | cons name names ih =>
      cases names with
      | nil => simp [written]
      | cons next names =>
          have later := ih (List.cons_ne_nil next names)
          rw [written, List.flatMap_cons, ← written, later]
          simp only [List.map_cons, List.intercalate_cons_cons, List.cons_append, List.append_assoc]
          rfl

/-- A clean path from the top is written with its names, or is a slash alone. -/
theorem toList_clean {path : String} (absolute : isAbsolute path = true) :
    (clean path).toList = if names path = [] then ['/'] else written (names path) := by
  have whole : (clean path).toList = '/' :: ("/".intercalate (names path)).toList := by
    simp only [clean, absolute, if_true, names, String.toList_append]
    rfl
  rw [whole]
  split
  · next none => rw [none]; rfl
  · next nonempty => exact (written_eq_cons nonempty).symm

theorem names_clean {path : String} (absolute : isAbsolute path = true) :
    names (clean path) = names path := by
  refine names_of_components ?_ fun name => isName_of_mem_names
  rw [← componentsOf_toList, toList_clean absolute]
  split
  · next none => rw [none]; rfl
  · exact componentsOf_written fun name => isName_of_mem_names

/-- Without slashes at its end, a clean path is written with its names. -/
theorem trimmed_clean {path : String} (absolute : isAbsolute path = true) :
    trimmed (clean path) = written (names path) := by
  rw [trimmed, toList_clean absolute]
  rcases List.eq_nil_or_concat (names path) with none | ⟨before, last, split⟩
  · rw [if_pos none, none]
    rfl
  · rw [List.concat_eq_append] at split
    have isName : IsName last :=
      isName_of_mem_names (split ▸ List.mem_append_right before List.mem_cons_self)
    rw [if_neg (by simp [split]), split]
    have reversed : (written (before ++ [last])).reverse =
        last.toList.reverse ++ '/' :: (written before).reverse := by
      simp [written]
    rw [reversed]
    cases ending : last.toList.reverse with
    | nil =>
        have empty := String.toList_eq_nil_iff.mp (List.reverse_eq_nil_iff.mp ending)
        exact absurd empty isName.nonempty
    | cons c rest =>
        have other : c ≠ '/' := by
          rintro rfl
          refine isName.noSlash (List.mem_reverse.mp ?_)
          rw [ending]
          exact List.mem_cons_self
        rw [List.cons_append, List.dropWhile_cons_of_neg (by simpa using other), ← List.cons_append,
          ← ending, ← reversed, List.reverse_reverse]

/-- What stands before a slash in written names is written with the first of them. -/
theorem written_eq_append {names : List String} (all : ∀ name ∈ names, IsName name)
    {first rest : List Char} (split : written names = first ++ '/' :: rest) :
    ∃ before after, names = before ++ after ∧ first = written before ∧
      written after = '/' :: rest := by
  induction names generalizing first with
  | nil => exact absurd split.symm (by simp [written])
  | cons name names ih =>
      obtain ⟨isName, later⟩ := List.forall_mem_cons.mp all
      cases first with
      | nil => exact ⟨[], name :: names, rfl, rfl, split⟩
      | cons c first =>
          obtain ⟨rfl, inside⟩ := List.cons.inj split
          -- The slash stands behind the name, since there is none in it.
          rcases List.append_eq_append_iff.mp inside with
            ⟨between, rfl, follows⟩ | ⟨between, ends, follows⟩
          · obtain ⟨before, after, rfl, rfl, same⟩ := ih later follows
            exact ⟨name :: before, after, rfl, rfl, same⟩
          · cases between with
            | nil =>
                rw [List.append_nil] at ends
                refine ⟨[name], names, rfl, ?_, follows.symm⟩
                rw [← ends]
                exact (List.append_nil _).symm
            | cons d between =>
                obtain ⟨rfl, -⟩ := List.cons.inj follows
                refine absurd ?_ isName.noSlash
                rw [ends]
                simp

/-! ## One path seen from another -/

/-- What is seen from a folder is what lies below it. -/
theorem isSome_beneath?_iff {folder path : String} :
    (beneath? folder path).isSome = true ↔ Below folder path := by
  unfold beneath? Below
  constructor
  · intro seen
    split at seen
    · next name later split =>
        exact ⟨name, later, (List.isPrefixOf?_eq_some_iff_append_eq.mp split).symm⟩
    · cases seen
  · rintro ⟨name, later, whole⟩
    rw [List.isPrefixOf?_eq_some_iff_append_eq.mpr whole.symm]
    rfl

/-- What is seen from a folder begins with no slash. -/
theorem isAbsolute_of_beneath? {folder path name : String}
    (seen : beneath? folder path = some name) : isAbsolute name = false := by
  unfold beneath? at seen
  split at seen
  · next first later split =>
      cases seen
      have member : first ∈ names path := by
        rw [← List.isPrefixOf?_eq_some_iff_append_eq.mp split]
        exact List.mem_append_right _ List.mem_cons_self
      have isName := isName_of_mem_names member
      have text : ("/".intercalate (first :: later)).toList = first.toList ++ written later :=
        (List.cons.inj (written_eq_cons (List.cons_ne_nil first later))).2.symm
      rw [isAbsolute, text]
      cases begins : first.toList with
      | nil => exact absurd (String.toList_eq_nil_iff.mp begins) isName.nonempty
      | cons c rest =>
          have other : c ≠ '/' := by
            rintro rfl
            exact isName.noSlash (begins ▸ List.mem_cons_self)
          simpa using other
  · cases seen

/-- A path that is trimmed to written names has these names. -/
theorem names_of_trimmed {path : String} {names : List String}
    (same : trimmed path = written names) (all : ∀ name ∈ names, IsName name) :
    Path.names path = names := by
  refine names_of_components ?_ all
  rw [← componentsOf_trimmed, same, componentsOf_written all]

/-- A clean path below a folder has the names of the folder before the path as seen from there. -/
theorem toList_of_beneath? {folder path name : String} (absolute : isAbsolute path = true)
    (seen : beneath? folder (clean path) = some name) :
    (clean path).toList = written (names folder) ++ '/' :: name.toList := by
  rw [beneath?, names_clean absolute] at seen
  split at seen
  · next first rest split =>
      cases seen
      have whole := List.isPrefixOf?_eq_some_iff_append_eq.mp split
      have nonempty : names path ≠ [] := by
        rw [← whole]
        simp
      rw [toList_clean absolute, if_neg nonempty, ← whole,
        ← written_eq_cons (List.cons_ne_nil first rest)]
      exact List.flatMap_append
  · cases seen

namespace IsWhole

variable {path : String} (whole : IsWhole path)
include whole

theorem names_ne_nil : names path ≠ [] := by
  intro none
  have text := toList_clean whole.absolute
  rw [whole.clean_eq, if_pos none] at text
  exact whole.notTop (String.toList_inj.mp text)

theorem toList_of_beneath? {folder name : String} (seen : beneath? folder path = some name) :
    path.toList = written (names folder) ++ '/' :: name.toList := by
  have text := Path.toList_of_beneath? whole.absolute (whole.clean_eq.symm ▸ seen)
  rwa [whole.clean_eq] at text

end IsWhole

theorem isTidy_iff {path : String} (absolute : isAbsolute path = true) :
    IsTidy path ↔ trimmed path = written (names path) := by
  rw [IsTidy, trimmed_clean absolute]

/--
The text of a folder, less slashes at its end, and one slash begin a clean path just
if the folder is tidy and the path leads to something below it.  What stands behind
them is then the path as it is seen from the folder.
-/
theorem isPrefixOf?_clean {folder path : String} (absolute : isAbsolute folder = true)
    (absolute' : isAbsolute path = true) (notTop : names path ≠ []) :
    (trimmed folder ++ ['/']).isPrefixOf? (clean path).toList =
      if IsTidy folder then (beneath? folder (clean path)).map String.toList else none := by
  simp only [toList_clean absolute', if_neg notTop, isTidy_iff absolute, beneath?,
    names_clean absolute']
  have all : ∀ name ∈ names path, IsName name := fun name => isName_of_mem_names
  cases found : (trimmed folder ++ ['/']).isPrefixOf? (written (names path)) with
  | some rest =>
      have split := (List.isPrefixOf?_eq_some_iff_append_eq.mp found).symm
      rw [List.append_assoc] at split
      obtain ⟨before, after, whole, first, last⟩ := written_eq_append all split
      have own : names folder = before := names_of_trimmed first fun name member =>
        all name (whole ▸ List.mem_append_left after member)
      rw [own, if_pos first, List.isPrefixOf?_eq_some_iff_append_eq.mpr whole.symm]
      cases after with
      | nil => cases last
      | cons name later =>
          rw [written_eq_cons (List.cons_ne_nil name later)] at last
          exact congrArg some (List.cons.inj last).2.symm
  | none =>
      split
      · next tidy =>
          cases seen : (names folder).isPrefixOf? (names path) with
          | none => rfl
          | some after =>
              cases after with
              | nil => rfl
              | cons name later =>
                  have whole := List.isPrefixOf?_eq_some_iff_append_eq.mp seen
                  have begins : trimmed folder ++ ['/'] ++ (name.toList ++ written later) =
                      written (names path) := by
                    rw [tidy, ← whole]
                    simp [written]
                  rw [List.isPrefixOf?_eq_some_iff_append_eq.mpr begins] at found
                  cases found
      · rfl

end Path

end TestInventory
