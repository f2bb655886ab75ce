import TestInventory.Proofs.Configuration
import TestInventory.Proofs.Text

/-!
# What each source says

What a source says about a setting is a relation here, apart from how the source is
read: words of the arguments less blanks and dots, the last variable whose name leads to
the setting, the last entry of a file under its name, and a value that is standard.  The
value of the first source that says anything wins, whatever they say about the others.
-/

namespace TestInventory

/-- Whether a member of a list is the last one of a kind. -/
def LastWith {α : Type} (kind : α → Prop) (list : List α) (item : α) : Prop :=
  kind item ∧ ∃ before after, list = before ++ item :: after ∧ ∀ later ∈ after, ¬ kind later

theorem lastWith_concat {α : Type} (kind : α → Prop) (list : List α) (other item : α) :
    LastWith kind (list ++ [other]) item ↔
      kind other ∧ item = other ∨ ¬ kind other ∧ LastWith kind list item := by
  constructor
  · rintro ⟨own, before, after, split, none⟩
    rcases List.eq_nil_or_concat after with rfl | ⟨after, last, rfl⟩
    · obtain ⟨-, same⟩ := List.append_inj' split rfl
      cases same
      exact .inl ⟨own, rfl⟩
    · rw [List.concat_eq_append, ← List.cons_append, ← List.append_assoc] at split
      obtain ⟨rfl, same⟩ := List.append_inj' split rfl
      cases same
      refine .inr ⟨none other (by simp), own, before, after, rfl, fun later member => ?_⟩
      exact none later (by simp [member])
  · rintro (⟨own, rfl⟩ | ⟨unlike, own, before, after, rfl, none⟩)
    · exact ⟨own, list, [], rfl, nofun⟩
    · refine ⟨own, before, after ++ [other], by simp, fun later member => ?_⟩
      rcases List.mem_append.mp member with inside | last
      · exact none later inside
      · cases List.mem_singleton.mp last
        exact unlike

/-- Of what is made of a list, the last value under a name comes from the last item with one. -/
theorem ConfigLayer.value?_filterMap {α : Type} (made? : α → Option (String × ConfigValue))
    (list : List α) (name : String) (value : ConfigValue) :
    ConfigLayer.value? (list.filterMap made?) name = some value ↔
      ∃ item, LastWith (fun other => ∃ given, made? other = some (name, given)) list item ∧
        made? item = some (name, value) := by
  induction list using List.reverseRecOn with
  | nil => simp [ConfigLayer.value?, LastWith]
  | append_singleton list other ih =>
      have single : [other].filterMap made? = (made? other).toList := by
        cases made : made? other <;> simp [made]
      simp only [List.filterMap_append, ConfigLayer.value?_append, lastWith_concat, single]
      cases made : made? other with
      | none => simpa [ConfigLayer.value?, made] using ih
      | some entry =>
          obtain ⟨own, given⟩ := entry
          have alone := ConfigLayer.value?_toList (some given) own name
          rw [Option.map_some] at alone
          rw [alone]
          by_cases same : name = own
          · subst same
            simp [made]
          · simp [Ne.symm same, if_neg same, ih]

/-! ## Arguments -/

namespace Extensions

/--
Whether an extension is what is left of a word as it is written, less the white space
around it and then the dots before it.
-/
def Cleared (written word : String) : Prop :=
  ∃ dots : List Char, (∀ c ∈ dots, c = '.') ∧ word.toList.head? ≠ some '.' ∧
    Text.IsTrimmed (dots ++ word.toList) written.toList

theorem cleared_iff (written word : String) :
    Cleared written word ↔
      word = trimDots (String.ofList (Text.trimWhite written.toList)) := by
  rw [trimDots, String.toList_ofList]
  constructor
  · rintro ⟨dots, isDots, stop, trimmed⟩
    rw [← trimmed.eq_trimWhite, Text.dropWhile_append_of_head?, String.ofList_toList]
    · simpa using isDots
    · intro c first
      simpa using fun isDot : c = '.' => stop (isDot ▸ first)
  · rintro rfl
    refine ⟨(Text.trimWhite written.toList).takeWhile (· = '.'), fun c member => ?_, ?_, ?_⟩
    · simpa using List.mem_takeWhile_imp member
    · intro first
      rw [String.toList_ofList] at first
      exact Text.not_of_mem_head?_dropWhile _ first (by simp)
    · rw [String.toList_ofList, List.takeWhile_append_dropWhile]
      exact Text.isTrimmed_trimWhite _

/-- Whether extensions are what is left of words as they are written, but for empty ones. -/
inductive Named : List String → List String → Prop
  | nil : Named [] []
  | kept {written word : String} {rest words : List String} (cleared : Cleared written word)
      (nonempty : word ≠ "") (later : Named rest words) : Named (written :: rest) (word :: words)
  | dropped {written : String} {rest words : List String} (cleared : Cleared written "")
      (later : Named rest words) : Named (written :: rest) words

end Extensions

theorem Arguments.named_iff (arguments : Arguments) (words : List String) :
    Extensions.Named arguments.extensions words ↔ words = arguments.namedExtensions := by
  rw [namedExtensions]
  generalize arguments.extensions = written
  induction written generalizing words with
  | nil =>
      constructor
      · rintro ⟨⟩
        rfl
      · rintro rfl
        exact .nil
  | cons written rest ih =>
      rw [List.map_cons, List.filter_cons]
      constructor
      · intro named
        cases named with
        | @kept _ word _ _ cleared nonempty later =>
            rw [← (Extensions.cleared_iff written word).mp cleared, ← (ih _).mp later,
              if_pos (by simpa using nonempty)]
        | dropped cleared later =>
            rw [← (Extensions.cleared_iff written "").mp cleared, ← (ih _).mp later]
            rfl
      · intro same
        have cleared := (Extensions.cleared_iff written _).mpr rfl
        have later := (ih _).mpr rfl
        rw [same]
        split
        · next nonempty => exact .kept cleared (by simpa using nonempty) later
        · next empty =>
            rw [show Extensions.trimDots _ = "" by simpa using empty] at cleared
            exact .dropped cleared later

/-! ## Environment -/

namespace Environment

/--
Whether the name of a variable leads to a place among the settings: behind `testmap_`, in
capitals or small letters, stand the names on the way there with dots between them, and
perhaps white space around them.
-/
def Addresses (name : String) (place : List String) : Prop :=
  place ≠ [] ∧ (∀ part ∈ place, part ≠ "" ∧ '.' ∉ part.toList) ∧
    ∃ rest : List Char, name.toList.map Char.toLower = "testmap_".toList ++ rest ∧
      Text.IsTrimmed (".".intercalate place).toList rest

/-- Whether a variable is about a setting, or about something inside it. -/
def Concerns (setting : String) (pair : String × String) : Prop :=
  ∃ inner, Addresses pair.1 (setting :: inner)

/--
Whether variables give a setting a value: the last one that is about it counts.  If it is
about something inside the setting, the value is a table.
-/
inductive Sets (environment : List (String × String)) (setting : String) : ConfigValue → Prop
  | whole {name text : String} (last : LastWith (Concerns setting) environment (name, text))
      (own : Addresses name [setting]) : Sets environment setting (parse text)
  | inside {name text : String} {inner : List String}
      (last : LastWith (Concerns setting) environment (name, text))
      (own : Addresses name (setting :: inner)) (nonempty : inner ≠ []) :
      Sets environment setting .other

/-- The parts between dots are a place if they are written so, with white space around them. -/
theorem parts_eq_iff (rest : List Char) {place : List String} (nonempty : place ≠ []) :
    (Text.splitAt '.' (Text.trimWhite rest)).map String.ofList = place ↔
      (∀ part ∈ place, '.' ∉ part.toList) ∧
        Text.IsTrimmed (".".intercalate place).toList rest := by
  rw [Text.isTrimmed_iff, String.toList_intercalate, show ".".toList = ['.'] from rfl]
  constructor
  · rintro rfl
    simp only [List.map_map, Function.comp_def, String.toList_ofList, List.map_id',
      Text.intercalate_splitAt, and_true]
    rintro _ member
    obtain ⟨part, isPart, rfl⟩ := List.mem_map.mp member
    rw [String.toList_ofList]
    exact Text.notMem_of_mem_splitAt isPart
  · rintro ⟨absent, whole⟩
    have split := (Text.splitAt_eq_iff '.' (Text.trimWhite rest) (place.map String.toList)).mpr
      ⟨by simpa using nonempty, by simpa using absent, whole⟩
    simp [split]

theorem setting?_eq_some_iff (name first : String) (inner : List String) :
    setting? name = some (first, inner) ↔ Addresses name (first :: inner) := by
  have begins (rest : List Char) :
      mark.toList.isPrefixOf? (Interface.lowerAscii name).toList = some rest ↔
        name.toList.map Char.toLower = "testmap_".toList ++ rest := by
    rw [List.isPrefixOf?_eq_some_iff_append_eq, Interface.lowerAscii, String.toList_ofList,
      mark, eq_comm]
  simp only [setting?, Option.bind_eq_bind, Option.bind_eq_some_iff, begins]
  constructor
  · rintro ⟨rest, whole, found⟩
    split at found
    · cases found
    · next divided =>
        split at found
        · cases found
        · next full =>
            cases found
            obtain ⟨absent, trimmed⟩ := (parts_eq_iff rest (List.cons_ne_nil _ _)).mp divided
            exact ⟨List.cons_ne_nil _ _, fun part member =>
              ⟨ne_of_mem_of_not_mem member full, absent part member⟩, rest, whole, trimmed⟩
  · rintro ⟨nonempty, parts, rest, whole, trimmed⟩
    have divided := (parts_eq_iff rest nonempty).mpr
      ⟨fun part member => (parts part member).2, trimmed⟩
    refine ⟨rest, whole, ?_⟩
    rw [divided]
    exact if_neg fun empty => (parts "" empty).1 rfl

theorem given?_eq_some_iff (name text setting : String) (value : ConfigValue) :
    given? name text = some (setting, value) ↔
      ∃ inner, Addresses name (setting :: inner) ∧
        (if inner.isEmpty then parse text else .other) = value := by
  simp only [given?, Option.map_eq_some_iff, Prod.exists, Prod.mk.injEq, ← setting?_eq_some_iff]
  constructor
  · rintro ⟨first, inner, found, rfl, same⟩
    exact ⟨inner, found, same⟩
  · rintro ⟨inner, found, same⟩
    exact ⟨setting, inner, found, rfl, same⟩

theorem value?_layer_iff (environment : List (String × String)) (setting : String)
    (value : ConfigValue) :
    (layer environment).value? setting = some value ↔ Sets environment setting value := by
  have concerns (pair : String × String) :
      (∃ value, given? pair.1 pair.2 = some (setting, value)) ↔ Concerns setting pair := by
    simp only [given?_eq_some_iff]
    constructor
    · rintro ⟨_, inner, own, -⟩
      exact ⟨inner, own⟩
    · rintro ⟨inner, own⟩
      exact ⟨_, inner, own, rfl⟩
  simp only [layer, ConfigLayer.value?_filterMap, concerns]
  constructor
  · rintro ⟨⟨name, text⟩, last, given⟩
    obtain ⟨inner, own, rfl⟩ := (given?_eq_some_iff ..).mp given
    cases inner with
    | nil => exact .whole last own
    | cons part inner => exact .inside last own (List.cons_ne_nil part inner)
  · rintro (⟨last, own⟩ | ⟨last, own, nonempty⟩)
    · exact ⟨_, last, (given?_eq_some_iff ..).mpr ⟨[], own, rfl⟩⟩
    · exact ⟨_, last, (given?_eq_some_iff ..).mpr ⟨_, own, if_neg (by simpa using nonempty)⟩⟩

end Environment

/-! ## The value that wins -/

namespace ConfigKey

/-- Whether arguments give a setting a value. -/
inductive Asked (arguments : Arguments) : ConfigKey → ConfigValue → Prop
  | root {path : String} (given : arguments.root = some path) : Asked arguments .root (.text path)
  | extensions {words : List String} (given : arguments.extensions ≠ [])
      (named : Extensions.Named arguments.extensions words) :
      Asked arguments .extensions (.list (words.map .text))
  | recursive (given : .noRecursive ∈ arguments.switches) :
      Asked arguments .recursive (.boolean false)
  | interface {interface : Interface} (given : arguments.interface = some interface) :
      Asked arguments .interface (.text interface.name)
  | compact (given : .compact ∈ arguments.switches) : Asked arguments .compact (.boolean true)

/-- Whether a file gives a setting a value; of two under one name the later one counts. -/
def Holds (file : ConfigLayer) (key : ConfigKey) (value : ConfigValue) : Prop :=
  LastWith (·.1 = key.name) file (key.name, value)

/-- The value of a setting that no source gives. -/
def standardValue : ConfigKey → ConfigValue
  | .root => .text "test"
  | .extensions => .list [.text "js", .text "cjs", .text "mjs"]
  | .recursive => .boolean true
  | .interface => .text "bdd"
  | .compact => .boolean false

/-- Whether a value is that of the first source that gives one. -/
inductive Wins (arguments : Arguments) (environment : List (String × String))
    (file : ConfigLayer) (key : ConfigKey) : ConfigValue → Prop
  | arguments {value : ConfigValue} (asked : key.Asked arguments value) :
      Wins arguments environment file key value
  | environment {value : ConfigValue} (unasked : ∀ rival, ¬ key.Asked arguments rival)
      (set : Environment.Sets environment key.name value) :
      Wins arguments environment file key value
  | file {value : ConfigValue} (unasked : ∀ rival, ¬ key.Asked arguments rival)
      (unset : ∀ rival, ¬ Environment.Sets environment key.name rival)
      (held : key.Holds file value) : Wins arguments environment file key value
  | standard (unasked : ∀ rival, ¬ key.Asked arguments rival)
      (unset : ∀ rival, ¬ Environment.Sets environment key.name rival)
      (unheld : ∀ rival, ¬ key.Holds file rival) :
      Wins arguments environment file key key.standardValue

variable (arguments : Arguments) (environment : List (String × String)) (file : ConfigLayer)
  (key : ConfigKey) (value : ConfigValue)

theorem fromArguments?_eq_some_iff :
    key.fromArguments? arguments = some value ↔ key.Asked arguments value := by
  constructor
  · intro told
    cases key with
    | root =>
        obtain ⟨path, given, rfl⟩ := Option.map_eq_some_iff.mp told
        exact .root given
    | extensions =>
        obtain ⟨some, same⟩ := Option.ite_none_left_eq_some.mp told
        cases same
        exact .extensions some ((arguments.named_iff _).mpr rfl)
    | recursive =>
        obtain ⟨given, same⟩ := Option.ite_none_right_eq_some.mp told
        cases same
        exact .recursive (List.contains_iff_mem.mp given)
    | interface =>
        obtain ⟨interface, given, rfl⟩ := Option.map_eq_some_iff.mp told
        exact .interface given
    | compact =>
        obtain ⟨given, same⟩ := Option.ite_none_right_eq_some.mp told
        cases same
        exact .compact (List.contains_iff_mem.mp given)
  · rintro (given | ⟨given, named⟩ | given | given | given)
    · simp [fromArguments?, given]
    · rw [(arguments.named_iff _).mp named]
      exact if_neg given
    · exact if_pos (List.contains_iff_mem.mpr given)
    · simp [fromArguments?, given]
    · exact if_pos (List.contains_iff_mem.mpr given)

theorem value?_eq_some_iff : file.value? key.name = some value ↔ key.Holds file value := by
  have named (entry : String × ConfigValue) :
      (∃ given, entry = (key.name, given)) ↔ entry.1 = key.name := by
    simp only [Prod.ext_iff, exists_and_left, exists_eq', and_true]
  have whole := ConfigLayer.value?_filterMap some file key.name value
  simp only [List.filterMap_some, Option.some.injEq, exists_eq_right, named] at whole
  exact whole

theorem value_standard : ({} : Configuration).value key = key.standardValue := by
  cases key <;> rfl

theorem wins_iff :
    key.Wins arguments environment file value ↔ value = key.winner arguments environment file := by
  have first : key.Wins arguments environment file value ↔
      key.Asked arguments value ∨ (∀ rival, ¬ key.Asked arguments rival) ∧
        (Environment.Sets environment key.name value ∨
          (∀ rival, ¬ Environment.Sets environment key.name rival) ∧
            (key.Holds file value ∨
              (∀ rival, ¬ key.Holds file rival) ∧ value = key.standardValue)) := by
    constructor
    · rintro (asked | ⟨unasked, set⟩ | ⟨unasked, unset, held⟩ | ⟨unasked, unset, unheld⟩)
      · exact .inl asked
      · exact .inr ⟨unasked, .inl set⟩
      · exact .inr ⟨unasked, .inr ⟨unset, .inl held⟩⟩
      · exact .inr ⟨unasked, .inr ⟨unset, .inr ⟨unheld, rfl⟩⟩⟩
    · rintro (asked | ⟨unasked, set | ⟨unset, held | ⟨unheld, rfl⟩⟩⟩)
      · exact .arguments asked
      · exact .environment unasked set
      · exact .file unasked unset held
      · exact .standard unasked unset unheld
  simp only [first, ← fromArguments?_eq_some_iff, ← Environment.value?_layer_iff,
    ← value?_eq_some_iff, winner, value_standard]
  cases key.fromArguments? arguments with
  | some asked => simp [eq_comm]
  | none =>
      cases (Environment.layer environment).value? key.name with
      | some set => simp [eq_comm]
      | none => cases file.value? key.name <;> simp [eq_comm]

end ConfigKey

namespace Configuration

/-! ## The file -/

/-- Whether settings are looked for at a path: where the arguments tell, or in `testmap.toml`. -/
inductive Consults (directory : String) (arguments : Arguments) : String → Prop
  | named {path : String} (given : arguments.config = some path) :
      Consults directory arguments (Path.join directory path)
  | unnamed (given : arguments.config = none) :
      Consults directory arguments (Path.join directory "testmap.toml")

/-- Whether the arguments name a path at which there is no file. -/
def Misses (files : FileTree) (directory : String) (arguments : Arguments) (path : String) :
    Prop :=
  arguments.config ≠ none ∧ Consults directory arguments path ∧ files.holdsFile path = false

/-- Whether there is a file with settings that is no text, or no TOML. -/
def Garbled (files : FileTree) (directory : String) (arguments : Arguments) : Prop :=
  ∃ path, Consults directory arguments path ∧ files.holdsFile path = true ∧
    ∀ content, files.read path = .ok content → Toml.parse? content = none

/-- Whether certain values are those of the file; there are none if it is not there unnamed. -/
inductive Reads (files : FileTree) (directory : String) (arguments : Arguments) :
    ConfigLayer → Prop
  | absent {path : String} (unnamed : arguments.config = none)
      (consulted : Consults directory arguments path) (none : files.holdsFile path = false) :
      Reads files directory arguments []
  | present {path content : String} {layer : ConfigLayer}
      (consulted : Consults directory arguments path) (read : files.read path = .ok content)
      (parsed : Toml.parse? content = some layer) : Reads files directory arguments layer

variable {files : FileTree} {directory : String} {arguments : Arguments}

theorem consults_iff {path : String} :
    Consults directory arguments path ↔ path = filePath directory arguments.config := by
  constructor
  · rintro (given | given)
    · rw [filePath, given, Option.getD_some]
    · rw [filePath, given, Option.getD_none, fileName]
  · rintro rfl
    cases given : arguments.config with
    | none => exact .unnamed given
    | some path => exact .named given

theorem misses_iff {path : String} :
    Misses files directory arguments path ↔
      FileMissing files directory arguments ∧ path = filePath directory arguments.config := by
  rw [Misses, consults_iff, FileMissing, Option.isSome_iff_ne_none]
  constructor
  · rintro ⟨named, rfl, absent⟩
    exact ⟨⟨named, absent⟩, rfl⟩
  · rintro ⟨⟨named, absent⟩, rfl⟩
    exact ⟨named, rfl, absent⟩

theorem holdsFile_of_read {path content : String} (read : files.read path = .ok content) :
    files.holdsFile path = true := by
  simp only [FileTree.read, bind, Except.bind] at read
  split at read
  · cases read
  · next place resolved =>
      simp only [FileTree.holdsFile, FileTree.find?, resolved]
      split at read
      · next content found =>
          rw [show (Except.ok place : Except ReadFailure _).toOption.bind files.at? = _ from found]
      all_goals cases read

theorem not_fileMissing_of_holdsFile
    (holds : files.holdsFile (filePath directory arguments.config) = true) :
    ¬ FileMissing files directory arguments := by
  rintro ⟨-, absent⟩
  rw [holds] at absent
  cases absent

theorem reads_iff {layer : ConfigLayer} :
    Reads files directory arguments layer ↔
      ¬ FileMissing files directory arguments ∧
        fileValues? files directory arguments = some layer := by
  constructor
  · rintro (⟨unnamed, consulted, none⟩ | ⟨consulted, read, parsed⟩)
    · cases consults_iff.mp consulted
      refine ⟨fun missing => ?_, if_neg (by simpa using none)⟩
      rw [FileMissing, unnamed] at missing
      cases missing.1
    · cases consults_iff.mp consulted
      have holds := holdsFile_of_read read
      refine ⟨not_fileMissing_of_holdsFile holds, ?_⟩
      rw [fileValues?, if_pos holds, read]
      exact parsed
  · rintro ⟨present, given⟩
    unfold fileValues? at given
    split at given
    · cases read : files.read (filePath directory arguments.config) with
      | error failure =>
          rw [read] at given
          cases given
      | ok content =>
          rw [read] at given
          exact .present (consults_iff.mpr rfl) read given
    · next holds =>
        have absent := Bool.eq_false_iff.mpr holds
        cases given
        refine .absent ?_ (consults_iff.mpr rfl) absent
        exact Option.not_isSome_iff_eq_none.mp fun named => present ⟨named, absent⟩

theorem garbled_iff :
    Garbled files directory arguments ↔
      ¬ FileMissing files directory arguments ∧ fileValues? files directory arguments = none := by
  constructor
  · rintro ⟨path, consulted, holds, unread⟩
    cases consults_iff.mp consulted
    refine ⟨not_fileMissing_of_holdsFile holds, ?_⟩
    rw [fileValues?, if_pos holds]
    cases read : files.read (filePath directory arguments.config) with
    | error failure => rfl
    | ok content => exact unread content read
  · rintro ⟨-, none⟩
    unfold fileValues? at none
    split at none
    · next holds =>
        refine ⟨_, consults_iff.mpr rfl, holds, fun content read => ?_⟩
        rwa [read] at none
    · cases none

/--
Each setting of a configuration has the value of the first source that gives one,
whatever the sources give for the others, and that value must fit.  It is looked first
whether a file is missing that the arguments name; a file that cannot be read and a
value that does not fit make a configuration invalid; and if all of that is well, there
must be some extension.
-/
theorem load_layered (files : FileTree) (directory : String)
    (environment : List (String × String)) (arguments : Arguments) :
    let loaded := load files directory environment arguments
    let reads := Reads files directory arguments
    let wins (file : ConfigLayer) (key : ConfigKey) := key.Wins arguments environment file
    (∀ path, loaded = .error (.fileNotFound path) ↔ Misses files directory arguments path) ∧
    (loaded = .error .invalid ↔
      Garbled files directory arguments ∨
        ∃ file, reads file ∧ ∃ key value, wins file key value ∧ ¬ value.Fits key) ∧
    (loaded = .error .noExtensions ↔
      ∃ file, reads file ∧ (∀ key value, wins file key value → value.Fits key) ∧
        wins file .extensions (.list [])) ∧
    ∀ configuration, loaded = .ok configuration ↔
      ∃ file, reads file ∧ (∀ key, wins file key (configuration.value key)) ∧
        configuration.extensions ≠ [] := by
  simp only [misses_iff, garbled_iff, reads_iff, ConfigKey.wins_iff, forall_eq, exists_eq_left]
  by_cases missing : FileMissing files directory arguments
  · rw [load_of_missing environment missing]
    simp [missing, eq_comm]
  · cases read : fileValues? files directory arguments with
    | none =>
        rw [load_of_unreadable environment missing read]
        simp [missing]
    | some file =>
        have made := ofLayers?_eq_some_iff (lastValue?_eq_winner environment arguments file)
        have fits := exists_value_eq_iff (ConfigKey.winner arguments environment file)
        rw [load_of_read environment missing read]
        cases left : ofLayers? [standardLayer, file, Environment.layer environment,
            argumentLayer arguments] with
        | none =>
            simp only [left, reduceCtorEq, false_iff] at made
            have wrong : ¬ ∀ key, (ConfigKey.winner arguments environment file key).Fits key := by
              rw [← fits]
              exact fun ⟨configuration, same⟩ => made configuration same
            simp [missing, wrong, made, eq_comm, Classical.not_forall.mp wrong]
        | some configuration =>
            have same := (made configuration).mp left
            have all := fits.mp ⟨configuration, same⟩
            have extensions : ConfigKey.winner arguments environment file .extensions = .list [] ↔
                configuration.extensions = [] := by
              rw [same, value]
              simp
            simp only [left, Option.some.injEq] at made
            cases empty : configuration.extensions with
            | nil => simp [missing, all, extensions, empty, eq_comm, ← made]
            | cons word words => simp [missing, all, extensions, empty, eq_comm, ← made]

/--
Each of the four sources decides on some setting.  The file has a number as interface,
which matters only as long as no variable has one.
-/
theorem load_layered_fourSources :
    let files := withSettings
      "root = 'spec'\nextensions = ['cjs']\nrecursive = false # all here\nui = 7\n"
    let environment :=
      [("TESTMAP_UI", "bdd"), ("TESTMAP_ROOT", "checks"), ("TestMap_UI", "tdd"), ("UI", "bdd")]
    let arguments : Arguments := { root := some "lib", extensions := [" .mjs ", ".", "..js"] }
    let configuration : Configuration :=
      { root := "lib", extensions := ["mjs", "js"], recursive := false, interface := .tdd }
    Arguments.parse ["-e", " .mjs ,.", "lib", "--extension=..js"] = .ok arguments ∧
      load files "/" environment arguments = .ok configuration ∧
      (∃ file, Reads files "/" arguments file ∧
        ∀ key : ConfigKey, key.Wins arguments environment file (configuration.value key)) ∧
      load files "/" [] arguments = .error .invalid ∧
      ∃ file, Reads files "/" arguments file ∧
        ∃ (key : ConfigKey) (value : ConfigValue),
          key.Wins arguments [] file value ∧ ¬ value.Fits key := by
  intro files environment arguments configuration
  have loaded : load files "/" environment arguments = .ok configuration := by decide +kernel
  have wrong : load files "/" [] arguments = .error .invalid := by decide +kernel
  obtain ⟨-, invalid, -, made⟩ := load_layered files "/" environment arguments
  obtain ⟨file, read, wins, -⟩ := (made configuration).mp loaded
  have clear : ¬ Garbled files "/" arguments := fun garbled => by
    cases (invalid.mpr (.inl garbled)).symm.trans loaded
  have unfit := ((load_layered files "/" [] arguments).2.1.mp wrong).resolve_left clear
  exact ⟨by decide +kernel, loaded, ⟨file, read, wins⟩, wrong, unfit⟩

end Configuration

end TestInventory
