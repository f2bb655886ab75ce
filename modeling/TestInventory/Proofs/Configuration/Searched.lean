import Mathlib.Data.List.DropRight
import TestInventory.Proofs.Configuration

/-!
# Extensions to search for

The extensions that a configuration searches for are those that its sources leave, less
the dots before them.  Words from the arguments have lost these dots before it is seen
whether any are left.  Words from elsewhere have not, so of dots alone an extension
remains that is empty.
-/

namespace TestInventory

namespace Extensions

/-- Whether a word has nothing but dots, so that nothing is left without the dots before it. -/
def IsDots (word : String) : Prop := ∀ letter ∈ word.toList, letter = '.'

theorem trimDots_eq_empty_iff (word : String) : trimDots word = "" ↔ IsDots word := by
  rw [trimDots, String.ofList_eq_empty_iff, List.dropWhile_eq_nil_iff]
  simp [IsDots]

theorem trimDots_trimDots (word : String) : trimDots (trimDots word) = trimDots word := by
  rw [trimDots, trimDots, String.toList_ofList, List.dropWhile_idempotent]

/-- Words have an empty one among them, less the dots, if one of them is of dots only. -/
theorem empty_mem_ofWords_iff (words : List String) :
    "" ∈ (ofWords words).words ↔ ∃ word ∈ words, IsDots word := by
  simp [ofWords, trimDots_eq_empty_iff]

end Extensions

open Extensions (IsDots)

/-- No extension that the arguments name is of dots only. -/
theorem Arguments.not_isDots_of_mem {arguments : Arguments} {word : String}
    (member : word ∈ arguments.namedExtensions) : ¬ IsDots word := by
  obtain ⟨member, nonempty⟩ := List.mem_filter.mp member
  obtain ⟨written, -, rfl⟩ := List.mem_map.mp member
  rw [← Extensions.trimDots_eq_empty_iff, Extensions.trimDots_trimDots]
  simpa using nonempty

namespace Configuration

/-- Whether the sources can all be read, fit, and leave certain words as extensions. -/
structure Leaves (files : FileTree) (directory : String) (environment : List (String × String))
    (arguments : Arguments) (words : List String) : Prop where
  present : ¬ FileMissing files directory arguments
  extensions : ∃ file, fileValues? files directory arguments = some file ∧
    (∀ key, (ConfigKey.winner arguments environment file key).Fits key) ∧
    ConfigKey.winner arguments environment file .extensions = .list (words.map .text)

variable {files : FileTree} {directory : String} {environment : List (String × String)}
  {arguments : Arguments} {words : List String}

theorem eq_of_map_text_eq {words words' : List String}
    (same : ConfigValue.list (words.map .text) = .list (words'.map .text)) : words = words' :=
  List.map_injective_iff.mpr (fun _ _ => ConfigValue.text.inj) (ConfigValue.list.inj same)

/-- What the sources leave is the configuration, unless no extension is left. -/
theorem Leaves.exists_load (leaves : Leaves files directory environment arguments words) :
    ∃ configuration : Configuration, configuration.extensions = words ∧
      load files directory environment arguments =
        if words.isEmpty then .error .noExtensions else .ok configuration := by
  obtain ⟨present, file, read, fits, given⟩ := leaves
  obtain ⟨configuration, same⟩ :=
    (exists_value_eq_iff (ConfigKey.winner arguments environment file)).mpr fits
  have extensions : configuration.extensions = words :=
    eq_of_map_text_eq ((same .extensions).symm.trans given)
  exact ⟨configuration, extensions, extensions ▸ load_of_winner environment present read same⟩

/-- The extensions of a configuration are those that its sources leave. -/
theorem leaves_of_load {configuration : Configuration}
    (loaded : load files directory environment arguments = .ok configuration) :
    Leaves files directory environment arguments configuration.extensions := by
  by_cases missing : FileMissing files directory arguments
  · rw [load_of_missing environment missing] at loaded
    cases loaded
  · cases read : fileValues? files directory arguments with
    | none =>
        rw [load_of_unreadable environment missing read] at loaded
        cases loaded
    | some file =>
        rw [load_of_read environment missing read] at loaded
        cases made : ofLayers? [standardLayer, file, Environment.layer environment,
            argumentLayer arguments] with
        | none =>
            rw [made] at loaded
            cases loaded
        | some found =>
            have same := (ofLayers?_eq_some_iff
              (lastValue?_eq_winner environment arguments file) found).mp made
            have fits := (exists_value_eq_iff _).mp ⟨found, same⟩
            rw [made] at loaded
            dsimp only at loaded
            split at loaded
            · cases loaded
            · cases loaded
              exact ⟨missing, file, read, fits, same .extensions⟩

/-- Words that the arguments leave are those that they name. -/
theorem Leaves.eq_named (leaves : Leaves files directory environment arguments words)
    (given : arguments.extensions ≠ []) : words = arguments.namedExtensions := by
  obtain ⟨-, file, -, -, decided⟩ := leaves
  refine eq_of_map_text_eq (decided.symm.trans ?_)
  rw [ConfigKey.winner, ConfigKey.fromArguments?, if_neg given]

theorem searched_ne_nil_of_load {configuration : Configuration}
    (loaded : load files directory environment arguments = .ok configuration) :
    configuration.searchOptions.extensions.words ≠ [] := by
  obtain ⟨made, extensions, same⟩ := (leaves_of_load loaded).exists_load
  intro none
  have empty : configuration.extensions = [] := List.map_eq_nil_iff.mp none
  rw [same, empty] at loaded
  cases loaded

/--
A configuration searches for some extension, and for no empty one, and lists of which
nothing is left without the dots are rejected, exactly if no word of the list that the
sources leave is of dots only.  A list from the arguments never has such a word, and
every configuration comes from a list that its sources leave.
-/
theorem searches_iff (leaves : Leaves files directory environment arguments words) :
    let loaded := load files directory environment arguments
    (((∀ configuration, loaded = .ok configuration →
          configuration.searchOptions.extensions.words ≠ [] ∧
            "" ∉ configuration.searchOptions.extensions.words) ∧
        ((∀ word ∈ words, IsDots word) → loaded = .error .noExtensions)) ↔
      ∀ word ∈ words, ¬ IsDots word) ∧
    (arguments.extensions ≠ [] → ∀ word ∈ words, ¬ IsDots word) ∧
    ∀ configuration, loaded = .ok configuration →
      configuration.searchOptions.extensions.words ≠ [] ∧
        Leaves files directory environment arguments configuration.extensions := by
  intro loaded
  obtain ⟨made, extensions, ends⟩ := leaves.exists_load
  have loadedMade (some : words ≠ []) : loaded = .ok made := by
    rw [show loaded = _ from ends, if_neg (by simpa using some)]
  have emptyIff : "" ∈ made.searchOptions.extensions.words ↔ ∃ word ∈ words, IsDots word :=
    extensions ▸ Extensions.empty_mem_ofWords_iff made.extensions
  refine ⟨⟨?_, ?_⟩, fun given word member => ?_, fun configuration isLoaded => ?_⟩
  · rintro ⟨sound, -⟩ word member dots
    have nonempty := (sound made (loadedMade (List.ne_nil_of_mem member))).2
    exact nonempty (emptyIff.mpr ⟨word, member, dots⟩)
  · intro free
    refine ⟨fun configuration isLoaded => ⟨searched_ne_nil_of_load isLoaded, ?_⟩, fun dots => ?_⟩
    · intro empty
      cases words with
      | nil => cases isLoaded.symm.trans ends
      | cons word rest =>
          cases isLoaded.symm.trans (loadedMade (List.cons_ne_nil word rest))
          obtain ⟨word, member, dots⟩ := emptyIff.mp empty
          exact free word member dots
    · have none : words = [] :=
        List.eq_nil_iff_forall_not_mem.mpr fun word member => free word member (dots word member)
      rw [show loaded = _ from ends, none]
      rfl
  · rw [leaves.eq_named given] at member
    exact Arguments.not_isDots_of_mem member
  · exact ⟨searched_ne_nil_of_load isLoaded, leaves_of_load isLoaded⟩

/-- Words with dots before them are searched for without the dots. -/
theorem searches_iff_dotted :
    let files := withSettings "extensions = ['.js', '..mjs']"
    let configuration : Configuration := { extensions := [".js", "..mjs"] }
    load files "/" [] {} = .ok configuration ∧
      configuration.searchOptions.extensions.words = ["js", "mjs"] ∧
      Leaves files "/" [] {} configuration.extensions ∧
      (∀ word ∈ configuration.extensions, ¬ IsDots word) ∧
      "" ∉ configuration.searchOptions.extensions.words := by
  intro files configuration
  have loaded : load files "/" [] {} = .ok configuration := by decide +kernel
  have leaves := leaves_of_load loaded
  have free : ∀ word ∈ configuration.extensions, ¬ IsDots word := by
    simp [configuration, IsDots]
  obtain ⟨sound, -⟩ := (searches_iff leaves).1.mpr free
  exact ⟨loaded, by decide +kernel, leaves, free, (sound configuration loaded).2⟩

/--
A dot alone is an extension that is left in a file of settings, and what is searched for
is then the empty extension; as an argument it is rejected.
-/
theorem dots_stay :
    let configuration : Configuration := { extensions := ["."] }
    load (withSettings "extensions = ['.']") "/" [] {} = .ok configuration ∧
      configuration.searchOptions.extensions.words = [""] ∧
      load .empty "/" [] { extensions := ["."] } = .error .noExtensions := by
  decide +kernel

end Configuration

end TestInventory
