import TestInventory.Configuration

/-!
# Where a configuration comes from

Four sources may give a value for each of five settings: the arguments, the
environment, a file, and what is standard.  The first of them that gives one decides,
whatever they give for the other settings, and only that value has to fit.
-/

namespace TestInventory

/-- The settings of a configuration. -/
inductive ConfigKey where
  | root
  | extensions
  | recursive
  | interface
  | compact
  deriving DecidableEq, Repr

/-- The value that one source has for a name; a later value replaces those before it. -/
def ConfigLayer.value? (layer : ConfigLayer) (name : String) : Option ConfigValue :=
  layer.reverse.lookup name

/-- What a configuration has for a setting. -/
def Configuration.value (configuration : Configuration) : ConfigKey → ConfigValue
  | .root => .text configuration.root
  | .extensions => .list (configuration.extensions.map .text)
  | .recursive => .boolean configuration.recursive
  | .interface => .text configuration.interface.name
  | .compact => .boolean configuration.compact

/-- Whether a value is of the form that a setting needs. -/
def ConfigValue.Fits (value : ConfigValue) : ConfigKey → Prop
  | .root => ∃ path, value = .text path
  | .extensions => ∃ words : List String, value = .list (words.map .text)
  | .recursive => ∃ flag, value = .boolean flag
  | .interface => ∃ interface : Interface, value = .text interface.name
  | .compact => ∃ flag, value = .boolean flag

namespace ConfigKey

/-- All settings. -/
def all : List ConfigKey := [.root, .extensions, .recursive, .interface, .compact]

/-- The name of a setting. -/
def name : ConfigKey → String
  | .root => "root"
  | .extensions => "extensions"
  | .recursive => "recursive"
  | .interface => "ui"
  | .compact => "compact"

/-- What the arguments say about a setting, if they say anything. -/
def fromArguments? (arguments : Arguments) : ConfigKey → Option ConfigValue
  | .root => arguments.root.map .text
  | .extensions =>
    if arguments.extensions = [] then none
    else some (.list (arguments.namedExtensions.map .text))
  | .recursive => if arguments.has .noRecursive then some (.boolean false) else none
  | .interface => arguments.interface.map fun interface => .text interface.name
  | .compact => if arguments.has .compact then some (.boolean true) else none

/-- The value of the first source that has one: arguments, environment, file, standard. -/
def winner (arguments : Arguments) (environment : List (String × String)) (file : ConfigLayer)
    (key : ConfigKey) : ConfigValue :=
  match key.fromArguments? arguments, (Environment.layer environment).value? key.name,
    file.value? key.name with
  | some value, _, _ => value
  | none, some value, _ => value
  | none, none, some value => value
  | none, none, none => ({} : Configuration).value key

end ConfigKey

/-! ## What layers give -/

namespace ConfigLayer

/-- Values behind others count first. -/
theorem value?_append (first second : ConfigLayer) (name : String) :
    value? (first ++ second) name = (value? second name).or (value? first name) := by
  rw [value?, List.reverse_append, List.lookup_append]
  rfl

/-- A source that gives at most one value gives it for its own name. -/
theorem value?_toList (given : Option ConfigValue) (own name : String) :
    value? (given.map fun value => (own, value)).toList name =
      if name = own then given else none := by
  cases given with
  | none => split <;> rfl
  | some value =>
      by_cases same : name = own
      · simp [value?, same]
      · simp [value?, same]

end ConfigLayer

namespace Configuration

variable (files : FileTree) (directory : String) (environment : List (String × String))
  (arguments : Arguments) (file : ConfigLayer)

theorem value?_standardLayer (key : ConfigKey) :
    ConfigLayer.value? standardLayer key.name = some (({} : Configuration).value key) := by
  cases key <;> rfl

/-- The arguments say at most one thing about each setting. -/
theorem argumentLayer_eq :
    argumentLayer arguments = ConfigKey.all.flatMap fun key =>
      ((key.fromArguments? arguments).map fun value => (key.name, value)).toList := by
  simp only [argumentLayer, ConfigKey.all, List.flatMap_cons, List.flatMap_nil,
    ConfigKey.fromArguments?, ConfigKey.name, Option.map_map, List.append_assoc, List.append_nil]
  cases arguments.extensions <;> cases arguments.has .noRecursive <;>
    cases arguments.has .compact <;> rfl

theorem value?_argumentLayer (key : ConfigKey) :
    ConfigLayer.value? (argumentLayer arguments) key.name = key.fromArguments? arguments := by
  rw [argumentLayer_eq]
  simp only [ConfigKey.all, List.flatMap_cons, List.flatMap_nil, ConfigLayer.value?_append,
    ConfigLayer.value?_toList]
  cases key <;> simp [ConfigKey.name, ConfigLayer.value?]

/-- What the layers leave for a setting is the value of the first source that has one. -/
theorem lastValue?_eq_winner (key : ConfigKey) :
    lastValue? [standardLayer, file, Environment.layer environment, argumentLayer arguments]
      key.name = some (key.winner arguments environment file) := by
  show ConfigLayer.value? (List.flatten _) key.name = _
  simp only [List.flatten_cons, List.flatten_nil, List.append_nil, ConfigLayer.value?_append,
    value?_standardLayer, value?_argumentLayer, ConfigKey.winner]
  cases key.fromArguments? arguments with
  | some value => simp
  | none =>
      cases (Environment.layer environment).value? key.name with
      | some value => simp
      | none => cases file.value? key.name <;> simp

end Configuration

/-! ## What values are read as -/

namespace ConfigValue

theorem text?_eq_some_iff (value : ConfigValue) (content : String) :
    value.text? = some content ↔ value = .text content := by
  cases value <;> simp [text?]

theorem boolean?_eq_some_iff (value : ConfigValue) (content : Bool) :
    value.boolean? = some content ↔ value = .boolean content := by
  cases value <;> simp [boolean?]

theorem mapM_text?_eq_some_iff (items : List ConfigValue) (words : List String) :
    items.mapM text? = some words ↔ items = words.map .text := by
  induction items generalizing words with
  | nil => cases words <;> simp
  | cons item items ih =>
      cases words with
      | nil => simp [Option.bind_eq_some_iff]
      | cons word words => simp [Option.bind_eq_some_iff, text?_eq_some_iff, ih]

theorem texts?_eq_some_iff (value : ConfigValue) (words : List String) :
    value.texts? = some words ↔ value = .list (words.map .text) := by
  cases value <;> simp [texts?, mapM_text?_eq_some_iff]

end ConfigValue

/-- An interface is read from its own name only. -/
theorem Interface.ofName?_eq_some_iff (name : String) (interface : Interface) :
    Interface.ofName? name = some interface ↔ name = interface.name := by
  unfold ofName? all
  by_cases bdd : name = "bdd"
  · cases interface <;> simp [bdd, Interface.name]
  · by_cases tdd : name = "tdd"
    · cases interface <;> simp [tdd, Interface.name]
    · cases interface <;> simp [bdd, tdd, Interface.name, Ne.symm bdd, Ne.symm tdd]

namespace Configuration

/-- The values that are left for the settings make a configuration if it has just these. -/
theorem ofLayers?_eq_some_iff {layers : List ConfigLayer} {value : ConfigKey → ConfigValue}
    (left : ∀ key : ConfigKey, lastValue? layers key.name = some (value key))
    (configuration : Configuration) :
    ofLayers? layers = some configuration ↔ ∀ key, value key = configuration.value key := by
  have root : lastValue? layers "root" = _ := left .root
  have extensions : lastValue? layers "extensions" = _ := left .extensions
  have recursive : lastValue? layers "recursive" = _ := left .recursive
  have interface : lastValue? layers "ui" = _ := left .interface
  have compact : lastValue? layers "compact" = _ := left .compact
  unfold ofLayers?
  simp only [root, extensions, recursive, interface, compact, Option.bind_eq_bind,
    Option.bind_some, Option.bind_eq_some_iff, ConfigValue.text?_eq_some_iff,
    ConfigValue.texts?_eq_some_iff, ConfigValue.boolean?_eq_some_iff,
    Interface.ofName?_eq_some_iff]
  constructor
  · rintro ⟨path, isPath, words, isList, flag, isFlag, word, isText, interface, rfl, line, isLine,
      made⟩
    cases made
    intro key
    cases key with
    | root => exact isPath
    | extensions => exact isList
    | recursive => exact isFlag
    | interface => exact isText
    | compact => exact isLine
  · intro same
    exact ⟨_, same .root, _, same .extensions, _, same .recursive, _, same .interface, _, rfl, _,
      same .compact, rfl⟩

/-- They make one if each of them is of the form that is needed. -/
theorem exists_value_eq_iff (value : ConfigKey → ConfigValue) :
    (∃ configuration : Configuration, ∀ key, value key = configuration.value key) ↔
      ∀ key, (value key).Fits key := by
  constructor
  · rintro ⟨configuration, same⟩ key
    rw [same]
    cases key <;> exact ⟨_, rfl⟩
  · intro fits
    obtain ⟨root, isPath⟩ := fits .root
    obtain ⟨extensions, isList⟩ := fits .extensions
    obtain ⟨recursive, isFlag⟩ := fits .recursive
    obtain ⟨interface, isName⟩ := fits .interface
    obtain ⟨compact, isLine⟩ := fits .compact
    refine ⟨{ root, extensions, recursive, interface, compact }, fun key => ?_⟩
    cases key with
    | root => exact isPath
    | extensions => exact isList
    | recursive => exact isFlag
    | interface => exact isName
    | compact => exact isLine

/-! ## Gathering a configuration -/

/-- A folder with a file of settings. -/
def withSettings (text : String) : FileTree := .folder [(fileName, .file text.toUTF8)]

variable (files : FileTree) (directory : String) (environment : List (String × String))
  (arguments : Arguments)

/-- Whether the arguments name a file that does not exist. -/
def FileMissing : Prop :=
  arguments.config.isSome = true ∧ files.holdsFile (filePath directory arguments.config) = false

/-- The values of the file; none if there is no file, and nothing if it cannot be read. -/
def fileValues? : Option ConfigLayer :=
  if files.holdsFile (filePath directory arguments.config) then
    (files.read (filePath directory arguments.config)).toOption.bind Toml.parse?
  else some []

variable {files directory arguments}

theorem load_of_missing (missing : FileMissing files directory arguments) :
    load files directory environment arguments =
      .error (.fileNotFound (filePath directory arguments.config)) := by
  obtain ⟨named, absent⟩ := missing
  simp only [load, fileLayer, named, absent]
  rfl

/-- Unless a file is missing that is named, its values are what the file layer has. -/
theorem fileLayer_eq (present : ¬ FileMissing files directory arguments) :
    fileLayer files directory arguments.config =
      (fileValues? files directory arguments).elim (.error .invalid) .ok := by
  unfold fileLayer fileValues?
  by_cases holds : files.holdsFile (filePath directory arguments.config) = true
  · rw [if_pos holds, if_pos holds]
    cases (files.read (filePath directory arguments.config)).toOption.bind Toml.parse? <;> rfl
  · have unnamed : ¬ arguments.config.isSome = true := fun named =>
      present ⟨named, Bool.eq_false_iff.mpr holds⟩
    rw [if_neg holds, if_neg holds, if_neg unnamed]
    rfl

theorem load_of_unreadable (present : ¬ FileMissing files directory arguments)
    (unread : fileValues? files directory arguments = none) :
    load files directory environment arguments = .error .invalid := by
  rw [load, fileLayer_eq present, unread]
  rfl

theorem load_of_read (present : ¬ FileMissing files directory arguments) {file : ConfigLayer}
    (read : fileValues? files directory arguments = some file) :
    load files directory environment arguments =
      match ofLayers? [standardLayer, file, Environment.layer environment,
        argumentLayer arguments] with
      | none => .error .invalid
      | some configuration =>
        if configuration.extensions.isEmpty then .error .noExtensions else .ok configuration := by
  rw [load, fileLayer_eq present, read, Option.elim_some]
  simp only [bind, Except.bind]
  cases ofLayers? _ with
  | none => rfl
  | some configuration =>
      dsimp only
      cases configuration.extensions.isEmpty with
      | true => rfl
      | false => rfl

/-- What wins for every setting is the configuration, unless no extension is left. -/
theorem load_of_winner (present : ¬ FileMissing files directory arguments) {file : ConfigLayer}
    (read : fileValues? files directory arguments = some file) {configuration : Configuration}
    (same : ∀ key : ConfigKey,
      key.winner arguments environment file = configuration.value key) :
    load files directory environment arguments =
      if configuration.extensions.isEmpty then .error .noExtensions else .ok configuration := by
  have made := (ofLayers?_eq_some_iff (lastValue?_eq_winner environment arguments file)
    configuration).mpr same
  rw [load_of_read environment present read, made]

end Configuration

end TestInventory
