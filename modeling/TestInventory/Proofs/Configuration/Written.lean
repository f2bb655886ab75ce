import Mathlib.Data.Option.Basic
import TestInventory.Proofs.Configuration.Sources
import TestInventory.Proofs.Text.Scan

/-!
# Written values

Text in quotes, truth values and lists of texts in quotes are written alike in files and
in variables, and are read back from both.  A file is made of lines with a key, a value
and an equals sign between them.
-/

namespace TestInventory

open Text (InQuotes)

namespace ConfigValue

/-- Whether what is written behind an opening bracket lists texts. -/
inductive Lists : List Char → List String → Prop
  | close : Lists [']'] []
  | last {written content : List Char} (inside : InQuotes written content) :
      Lists ('"' :: (written ++ ['"']) ++ [']']) [String.ofList content]
  | more {written content later : List Char} {words : List String}
      (inside : InQuotes written content) (lists : Lists later words) :
      Lists ('"' :: (written ++ ['"']) ++ ',' :: later) (String.ofList content :: words)

/-- Whether a text writes a value down: as text in quotes, a truth value or a list of texts. -/
inductive Spells : List Char → ConfigValue → Prop
  | text {written content : List Char} (inside : InQuotes written content) :
      Spells ('"' :: (written ++ ['"'])) (.text (String.ofList content))
  | yes : Spells "true".toList (.boolean true)
  | no : Spells "false".toList (.boolean false)
  | list {written : List Char} {words : List String} (lists : Lists written words) :
      Spells ('[' :: written) (.list (words.map .text))

theorem Spells.exists_first {written : List Char} {given : ConfigValue}
    (spells : Spells written given) :
    ∃ first ∈ ['"', 't', 'f', '['], ∃ others, written = first :: others := by
  cases spells with
  | text => exact ⟨'"', by simp, _, rfl⟩
  | yes => exact ⟨'t', by simp, _, rfl⟩
  | no => exact ⟨'f', by simp, _, rfl⟩
  | list => exact ⟨'[', by simp, _, rfl⟩

theorem exists_lists (words : List String) : ∃ written, Lists written words := by
  induction words with
  | nil => exact ⟨_, .close⟩
  | cons word words ih =>
      obtain ⟨inside, written⟩ := Text.exists_inQuotes word.toList
      obtain ⟨later, lists⟩ := ih
      have both := Lists.more written lists
      rw [String.ofList_toList] at both
      exact ⟨_, both⟩

theorem exists_spells_text (content : String) : ∃ written, Spells written (.text content) := by
  obtain ⟨inside, written⟩ := Text.exists_inQuotes content.toList
  have spells := Spells.text written
  rw [String.ofList_toList] at spells
  exact ⟨_, spells⟩

theorem exists_spells_boolean (content : Bool) : ∃ written, Spells written (.boolean content) := by
  cases content with
  | true => exact ⟨_, .yes⟩
  | false => exact ⟨_, .no⟩

/-- Every value that a configuration can have is written down by some text. -/
theorem exists_spells (configuration : Configuration) (key : ConfigKey) :
    ∃ written, Spells written (configuration.value key) := by
  cases key with
  | root => exact exists_spells_text configuration.root
  | extensions =>
      obtain ⟨written, lists⟩ := exists_lists configuration.extensions
      exact ⟨_, .list lists⟩
  | recursive => exact exists_spells_boolean configuration.recursive
  | interface => exact exists_spells_text configuration.interface.name
  | compact => exact exists_spells_boolean configuration.compact

end ConfigValue

open ConfigValue (Lists Spells)

namespace Scan

/-- A list is read if its items are, and if no blanks are taken beside quotes, commas and ends. -/
theorem takes_items {blanks : Scan Unit} {item : Scan ConfigValue}
    (noBlanks : ∀ rest : List Char, (∀ c ∈ rest.head?, c ∈ ['"', ',', ']']) →
      Takes blanks [] () rest)
    (takesItem : ∀ {written content rest : List Char}, InQuotes written content →
      (∀ c ∈ rest.head?, c ∈ [',', ']']) →
        Takes item ('"' :: (written ++ ['"'])) (.text (String.ofList content)) rest)
    {text : List Char} {words : List String} (lists : Lists text words) (rest : List Char) :
    Takes (items blanks item "]") text (words.map .text) rest := by
  have loops (taken : List ConfigValue) :
      Loops (nextItem blanks item "]") taken text (taken.reverse ++ words.map .text) rest := by
    induction lists generalizing taken with
    | close =>
        refine .last ((noBlanks _ (by simp)).skip ?_)
        refine (takes_eat "]" rest).close ?_
        simpa using takes_pure _ rest
    | @last written content inside =>
        refine .last ((noBlanks _ (by simp)).skip ?_)
        refine (takes_eat_of_ne ']' rfl (by simp)).skip ?_
        refine (takesItem inside (by simp)).bind ?_
        refine (noBlanks _ (by simp)).skip ?_
        refine (takes_eat_of_ne ',' rfl (by simp)).skip ?_
        refine (takes_word "]" rest).close ?_
        simpa using takes_pure _ rest
    | @more written content later words inside lists ih =>
        have round : Takes (nextItem blanks item "]" taken) ('"' :: (written ++ ['"']) ++ [','])
            (.inl (.text (String.ofList content) :: taken)) (later ++ rest) := by
          refine (noBlanks _ (by simp)).skip ?_
          refine (takes_eat_of_ne ']' rfl (by simp)).skip ?_
          refine (takesItem inside (by simp)).bind ?_
          refine (noBlanks _ (by simp)).skip ?_
          exact (takes_eat "," _).close (takes_pure _ _)
        simpa using Loops.again round (by simp) (ih _)
  exact (loops []).takes

end Scan

/-! ## Variables -/

namespace Environment

open Scan

/-- No blanks are taken around a value that stands without any. -/
theorem takes_value {depth : Nat} {written rest : List Char} {given : ConfigValue}
    (here : Takes (valueHere (value depth)) written given rest)
    (front : ∀ c ∈ (written ++ rest).head?, ¬ isBlank c) (stop : ∀ c ∈ rest.head?, ¬ isBlank c) :
    Takes (value (depth + 1)) written given rest :=
  (takes_run_nil front).skip (here.close ((takes_run_nil stop).skip (takes_pure _ _)))

theorem takes_valueHere_text (inner : Scan ConfigValue) {written content : List Char}
    (inside : InQuotes written content) (rest : List Char) :
    Takes (valueHere inner) ('"' :: (written ++ ['"'])) (.text (String.ofList content)) rest := by
  refine (takes_eat_of_ne 't' rfl (by simp)).skip ?_
  refine (takes_eat_of_ne 'f' rfl (by simp)).skip ?_
  refine (takes_eat_of_ne '[' rfl (by simp)).skip ?_
  refine (takes_eat_of_ne '\x7b' rfl (by simp)).skip ?_
  exact (takes_eat "\"" _).bind ((takes_quoted inside rest).close (takes_pure _ _))

theorem takes_valueHere (depth : Nat) {written : List Char} {given : ConfigValue}
    (spells : Spells written given) (rest : List Char) :
    Takes (valueHere (value (depth + 1))) written given rest := by
  cases spells with
  | text inside => exact takes_valueHere_text _ inside rest
  | yes => exact (takes_eat "true" rest).close (takes_pure _ _)
  | no =>
      refine (takes_eat_of_ne 't' rfl (by simp)).skip ?_
      exact (takes_eat "false" rest).close (takes_pure _ _)
  | @list written words lists =>
      refine (takes_eat_of_ne 't' rfl (by simp)).skip ?_
      refine (takes_eat_of_ne 'f' rfl (by simp)).skip ?_
      have items : Takes (Scan.items (pure ()) (value (depth + 1)) "]") written (words.map .text)
          rest := by
        refine takes_items (fun rest _ => takes_pure () rest) (fun inside stop => ?_) lists rest
        refine takes_value (takes_valueHere_text _ inside _) (by simp [isBlank]) fun c first => ?_
        have ends := stop c first
        simp only [List.mem_cons, List.not_mem_nil, or_false] at ends
        rcases ends with rfl | rfl <;> decide
      exact (takes_eat "[" _).bind (items.close (takes_pure _ _))

/-- A text whose front is read as a value stands for it, or for itself if more follows. -/
theorem parse_of_takes {text : String} {taken rest : List Char} {given : ConfigValue}
    (split : text.toList = taken ++ rest)
    (takes : Takes (value (text.length + 1)) taken given rest) :
    parse text = if rest = [] then given else .text text := by
  rw [parse, complete?_of_takes split takes]
  split <;> rfl

/-- What is written down in a variable is what its text stands for. -/
theorem parse_of_spells {text : String} {given : ConfigValue} (spells : Spells text.toList given) :
    parse text = given := by
  obtain ⟨first, among, others, split⟩ := spells.exists_first
  have front : ∀ first ∈ ['"', 't', 'f', '['], ¬ isBlank first := by simp [isBlank]
  refine parse_of_takes (List.append_nil _).symm ?_
  rw [← String.length_toList, split, List.length_cons, ← split]
  exact takes_value (takes_valueHere _ spells []) (by simpa [split] using front first among)
    (by simp)

/-- A text that goes on behind a value without a blank stands for itself. -/
theorem parse_of_longer {text : String} {written rest : List Char} {given : ConfigValue}
    (spells : Spells written given) (free : ∀ c ∈ text.toList, ¬ isBlank c)
    (split : text.toList = written ++ rest) (more : rest ≠ []) : parse text = .text text := by
  obtain ⟨first, -, others, same⟩ := spells.exists_first
  have takes : Takes (value (text.length + 1)) written given rest := by
    rw [← String.length_toList, split, same, List.cons_append, List.length_cons, ← same]
    refine takes_value (takes_valueHere _ spells rest) (fun c head => free c ?_)
      fun c head => free c ?_
    · rw [split]
      exact List.mem_of_mem_head? head
    · rw [split]
      exact List.mem_append_right _ (List.mem_of_mem_head? head)
  rw [parse_of_takes split takes, if_neg more]

theorem not_isBlank_of_not_isWhite {c : Char} (free : ¬ Text.isWhite c) : ¬ isBlank c := by
  intro blank
  simp only [isBlank, Bool.or_eq_true, decide_eq_true_eq] at blank
  rcases blank with (((rfl | rfl) | rfl) | rfl) | rfl <;> exact free rfl

theorem bareValue_of_first {text : List Char}
    (first : ∀ c ∈ text.head?, c ∉ ['+', '-', '.'] ∧ ¬ c.isDigit) :
    bareValue text = .text (String.ofList text) := by
  refine if_neg ?_
  cases text with
  | nil => decide
  | cons c rest =>
      obtain ⟨sign, digit⟩ := first c rfl
      simp only [List.mem_cons, List.not_mem_nil, or_false, not_or] at sign
      obtain ⟨plus, minus, point⟩ := sign
      simp [isFloat, isInteger, Text.decimal?, Text.digitValue?, plus, minus, point, digit]

/-- A word without quotes stands for itself, unless it is a truth value or might be a number. -/
theorem parse_word {text : String} (bare : ∀ c ∈ text.toList, inBareText c ∧ ¬ Text.isWhite c)
    (first : ∀ c ∈ text.toList.head?, c ∉ ['"', '+', '-', '.'] ∧ ¬ c.isDigit)
    (notTrue : text ≠ "true") (notFalse : text ≠ "false") : parse text = .text text := by
  have free (c : Char) (member : c ∈ text.toList) : ¬ isBlank c :=
    not_isBlank_of_not_isWhite (bare c member).2
  have longer {flag : String} {given : ConfigValue} (spells : Spells flag.toList given)
      (differs : text ≠ flag) (begins : flag.toList <+: text.toList) : parse text = .text text := by
    obtain ⟨rest, whole⟩ := begins
    refine parse_of_longer spells free whole.symm fun none => differs ?_
    rw [none, List.append_nil] at whole
    exact (String.toList_inj.mp whole).symm
  by_cases isTrue : "true".toList <+: text.toList
  · exact longer .yes notTrue isTrue
  by_cases isFalse : "false".toList <+: text.toList
  · exact longer .no notFalse isFalse
  have starts (c : Char) (head : c ∈ text.toList.head?) :
      c ≠ '[' ∧ c ≠ '\x7b' ∧ c ≠ '"' := by
    have inBare := (bare c (List.mem_of_mem_head? head)).1
    simp only [inBareText, Bool.not_eq_true', Bool.or_eq_false_iff, decide_eq_false_iff_not]
      at inBare
    have quote : c ≠ '"' := fun same => (first c head).1 (by simp [same])
    exact ⟨inBare.1.2, inBare.1.1.1.2, quote⟩
  have here : Takes (valueHere (value text.length)) text.toList (.text text) [] := by
    refine (takes_eat_of_mismatch (by simpa using isTrue)).skip ?_
    refine (takes_eat_of_mismatch (by simpa using isFalse)).skip ?_
    refine (takes_eat_of_ne '[' rfl fun c head => (starts c (by simpa using head)).1).skip ?_
    refine (takes_eat_of_ne '\x7b' rfl fun c head => (starts c (by simpa using head)).2.1).skip ?_
    refine (takes_eat_of_ne '"' rfl fun c head => (starts c (by simpa using head)).2.2).skip ?_
    refine (takes_run (fun c member => (bare c member).1) (by simp)).close ?_
    rw [Text.trimWhite_of_not_isWhite fun c member => (bare c member).2,
      bareValue_of_first fun c head => ?_, String.ofList_toList]
    · exact takes_pure _ _
    · obtain ⟨sign, digit⟩ := first c head
      exact ⟨fun member => sign (List.mem_cons_of_mem _ member), digit⟩
  refine parse_of_takes (List.append_nil _).symm (takes_value here (fun c head => ?_) (by simp))
  exact free c (List.mem_of_mem_head? (by simpa using head))

end Environment

/-! ## Files -/

namespace Toml

open Scan

theorem takes_anyText {written content rest : List Char} (inside : InQuotes written content)
    (stop : ∀ c ∈ rest.head?, c ≠ '"') :
    Takes anyText ('"' :: (written ++ ['"'])) (String.ofList content) rest := by
  have single : ¬ "\"\"\"".toList <+: '"' :: (written ++ ['"']) ++ rest := by
    rintro ⟨later, begins⟩
    have split : '"' :: '"' :: later = written ++ '"' :: rest := by
      simpa using begins
    cases inside with
    | nil =>
        have first := (List.cons.inj split).2
        exact stop '"' (by simp [← first]) rfl
    | plain _ quote => exact quote (List.cons.inj split).1.symm
    | escape => exact absurd (List.cons.inj split).1 (by decide)
  refine (takes_eat_of_mismatch single).skip ?_
  refine (takes_eat_of_ne '\'' rfl (by simp)).skip ?_
  exact (takes_eat "\"" _).bind (takes_quoted inside rest)

theorem takes_lineEnd (rest : List Char) : Takes (optional lineEnd) ['\n'] (some ()) rest := rfl

theorem takes_noLineEnd {rest : List Char} (stop : ∀ c ∈ rest.head?, c ∉ ['\n', '\x0d']) :
    Takes (optional lineEnd) [] none rest := by
  have feed : StateT.run (word "\n") rest = none := run_word_of_not_prefix <|
    not_prefix_of_ne '\n' rfl fun c head same => stop c head (by simp [same])
  have back : StateT.run (word "\x0d\n") rest = none := run_word_of_not_prefix <|
    not_prefix_of_ne '\x0d' rfl fun c head same => stop c head (by simp [same])
  rw [Takes, run_optional, lineEnd, run_orElse, List.nil_append, feed, back]
  rfl

theorem takes_noComment {rest : List Char} (stop : ∀ c ∈ rest.head?, c ≠ '#') :
    Takes comment [] () rest :=
  (takes_eat_of_ne '#' rfl stop).skip (takes_pure _ _)

theorem takes_noBlanks {rest : List Char}
    (stop : ∀ c ∈ rest.head?, ¬ isBlank c ∧ c ∉ ['#', '\n', '\x0d']) :
    Takes blankLines [] () rest := by
  refine (Loops.last ?_).takes
  refine (takes_run_nil fun c head => (stop c head).1).skip ?_
  refine (takes_noComment fun c head same => (stop c head).2 (by simp [same])).skip ?_
  refine (takes_noLineEnd fun c head member => ?_).skip (takes_pure _ _)
  exact (stop c head).2 (List.mem_cons_of_mem _ member)

theorem takes_text (depth : Nat) {written content rest : List Char}
    (inside : InQuotes written content) (stop : ∀ c ∈ rest.head?, c ≠ '"') :
    Takes (value (depth + 1)) ('"' :: (written ++ ['"'])) (.text (String.ofList content)) rest :=
  (takes_peek? _).skip ((takes_anyText inside stop).close (takes_pure _ _))

/-- What is written down is read wherever no quote follows. -/
theorem takes_value (depth : Nat) {written rest : List Char} {given : ConfigValue}
    (spells : Spells written given) (stop : ∀ c ∈ rest.head?, c ≠ '"') :
    Takes (value (depth + 2)) written given rest := by
  cases spells with
  | text inside => exact takes_text _ inside stop
  | yes =>
      refine (takes_peek? _).skip ?_
      refine (takes_eat_of_ne '[' rfl (by simp)).skip ?_
      refine (takes_eat_of_ne '\x7b' rfl (by simp)).skip ?_
      exact (takes_eat "true" rest).close (takes_pure _ _)
  | no =>
      refine (takes_peek? _).skip ?_
      refine (takes_eat_of_ne '[' rfl (by simp)).skip ?_
      refine (takes_eat_of_ne '\x7b' rfl (by simp)).skip ?_
      refine (takes_eat_of_ne 't' rfl (by simp)).skip ?_
      exact (takes_eat "false" rest).close (takes_pure _ _)
  | @list written words lists =>
      have items : Takes (Scan.items blankLines (value (depth + 1)) "]") written
          (words.map .text) rest := by
        refine takes_items (fun rest stop => takes_noBlanks fun c head => ?_)
          (fun inside stop => takes_text depth inside fun c head => ?_) lists rest
        · have all : ∀ c ∈ ['"', ',', ']'], ¬ isBlank c ∧ c ∉ ['#', '\n', '\x0d'] := by
            simp [isBlank]
          exact all c (stop c head)
        · have all : ∀ c ∈ [',', ']'], c ≠ '"' := by simp
          exact all c (stop c head)
      exact (takes_peek? _).skip ((takes_eat "[" _).bind (items.close (takes_pure _ _)))

/-- Whether a text is a key without quotes. -/
def IsBare (name : List Char) : Prop := name ≠ [] ∧ ∀ c ∈ name, inName c

namespace IsBare

variable {name rest : List Char}

theorem inName_of_mem_head? (bare : IsBare name) : ∀ c ∈ (name ++ rest).head?, inName c := by
  obtain ⟨nonempty, names⟩ := bare
  cases name with
  | nil => exact absurd rfl nonempty
  | cons first name =>
      rintro c ⟨⟩
      exact names first List.mem_cons_self

/-- What begins with a key begins with none of the marks that have a meaning in a line. -/
theorem not_mem_head? (bare : IsBare name) :
    ∀ c ∈ (name ++ rest).head?, c ∉ ['"', '\'', '[', '#', '\n', '\x0d', '\ufeff'] := by
  have none : ∀ c ∈ ['"', '\'', '[', '#', '\n', '\x0d', '\ufeff'], ¬ inName c := by simp [inName]
  exact fun c head member => none c member (bare.inName_of_mem_head? c head)

theorem not_isBlank_head? (bare : IsBare name) : ∀ c ∈ (name ++ rest).head?, ¬ isBlank c := by
  have none : ∀ c ∈ [' ', '\t'], ¬ inName c := by simp [inName]
  exact fun c head blank =>
    none c (by simpa [isBlank] using blank) (bare.inName_of_mem_head? c head)

end IsBare

theorem takes_simpleKey {name rest : List Char} (bare : IsBare name)
    (stop : ∀ c ∈ rest.head?, ¬ inName c) :
    Takes simpleKey name (String.ofList name) rest := by
  have unquoted : StateT.run lineOfText (name ++ rest) = none := by
    have double : Takes (eat "\"") [] false (name ++ rest) := takes_eat_of_ne '"' rfl
      fun c head same => bare.not_mem_head? c head (by simp [same])
    have single : StateT.run (word "'") (name ++ rest) = none := run_word_of_not_prefix <|
      not_prefix_of_ne '\'' rfl fun c head same => bare.not_mem_head? c head (by simp [same])
    rw [lineOfText, StateT.run_bind, show StateT.run (eat _) (name ++ rest) = _ from double]
    show StateT.run (word "'" >>= fun _ => literalText) (name ++ rest) = none
    rw [StateT.run_bind, single]
    rfl
  rw [Takes, simpleKey, run_orElse, unquoted, Option.none_or]
  exact (takes_someOf bare.1 bare.2 stop).close (takes_pure _ _)

/-- A key is read up to its equals sign. -/
theorem takes_key {name rest : List Char} (bare : IsBare name) (sign : rest.head? = some '=') :
    Takes key (name ++ [' ']) [String.ofList name] rest := by
  refine (Loops.last ?_).takes
  refine (takes_run_nil ?_).skip ?_
  · rw [List.append_assoc]
    exact bare.not_isBlank_head?
  refine (takes_simpleKey bare (by simp [inName])).bind ?_
  refine (takes_run (by simp [isBlank]) (by simp [sign, isBlank])).close ?_
  exact (takes_eat_of_ne '.' rfl (by simp [sign])).skip (takes_pure _ _)

theorem takes_keyValue (depth : Nat) {name written rest : List Char} {given : ConfigValue}
    (bare : IsBare name) (spells : Spells written given) (stop : ∀ c ∈ rest.head?, c ≠ '"') :
    Takes (keyValue (value (depth + 2))) (name ++ [' ', '=', ' '] ++ written)
      ([String.ofList name], given) rest := by
  obtain ⟨first, among, others, split⟩ := spells.exists_first
  have front : ∀ first ∈ ['"', 't', 'f', '['], ¬ isBlank first := by simp [isBlank]
  rw [show name ++ [' ', '=', ' '] ++ written =
    (name ++ [' ']) ++ ("=".toList ++ ([' '] ++ written)) by simp]
  refine (takes_key bare rfl).bind ((takes_word "=" _).bind ?_)
  refine (takes_run (by simp [isBlank]) ?_).bind ?_
  · simpa [split] using front first among
  · exact (takes_value depth spells stop).close (takes_pure _ _)

/-- A line puts its value behind those of the lines before it. -/
theorem takes_line {entries : Entries} {name written : List Char} {given : ConfigValue}
    (bare : IsBare name) (fresh : entries.lookup (String.ofList name) = none)
    (spells : Spells written given) (rest : List Char) :
    Takes (line { entries }) (name ++ [' ', '=', ' '] ++ written ++ ['\n'])
      (.inl { entries := entries ++ [(String.ofList name, .value given)] }) rest := by
  have made : Takes (field { entries }) (name ++ [' ', '=', ' '] ++ written)
      { entries := entries ++ [(String.ofList name, .value given)] } (['\n'] ++ rest) := by
    refine (takes_keyValue 78 bare spells (by simp)).close ?_
    simp [within, assignKey, assign, fresh, takes_pure, Option.getM]
  obtain ⟨first, others, split⟩ := List.exists_cons_of_ne_nil bare.1
  have marks := @IsBare.not_mem_head? name [] bare first (by simp [split])
  simp only [List.mem_cons, List.not_mem_nil, or_false, not_or] at marks
  refine (takes_run_nil ?_).skip ?_
  · simpa only [List.append_assoc] using bare.not_isBlank_head?
  refine (takes_peek? _).skip ?_
  rw [show (name ++ [' ', '=', ' '] ++ written ++ ['\n'] ++ rest).head? = some first by simp [split]]
  simp only [marks]
  refine Takes.bind made ?_
  refine (takes_run_nil (by simp [isBlank])).skip ?_
  refine (takes_noComment (by simp)).skip ?_
  exact (takes_lineEnd rest).close (takes_pure _ _)

/-- Whether what is written is a row of lines with keys and values, no key twice. -/
inductive Fields : ConfigLayer → List Char → Prop
  | nil : Fields [] []
  | cons {name written later : List Char} {given : ConfigValue} {layer : ConfigLayer}
      (bare : IsBare name) (fresh : String.ofList name ∉ layer.map (·.1))
      (spells : Spells written given) (fields : Fields layer later) :
      Fields ((String.ofList name, given) :: layer)
        (name ++ [' ', '=', ' '] ++ written ++ '\n' :: later)

/-- Values that can be written down can be written in a file, if their keys need no quotes. -/
theorem exists_fields {layer : ConfigLayer} (bare : ∀ name ∈ layer.map (·.1), IsBare name.toList)
    (distinct : (layer.map (·.1)).Nodup)
    (spelled : ∀ given ∈ layer.map (·.2), ∃ written, Spells written given) :
    ∃ text, Fields layer text := by
  induction layer with
  | nil => exact ⟨[], .nil⟩
  | cons entry layer ih =>
      obtain ⟨fresh, distinct⟩ := List.nodup_cons.mp distinct
      obtain ⟨later, fields⟩ := ih (fun name member => bare name (List.mem_cons_of_mem _ member))
        distinct fun given member => spelled given (List.mem_cons_of_mem _ member)
      obtain ⟨written, spells⟩ := spelled entry.2 List.mem_cons_self
      have all := Fields.cons (bare entry.1 List.mem_cons_self)
        (String.ofList_toList.symm ▸ fresh) spells fields
      rw [String.ofList_toList] at all
      exact ⟨_, all⟩

theorem Fields.loops {layer : ConfigLayer} {text : List Char} (fields : Fields layer text)
    (entries : Entries) (fresh : ∀ name ∈ layer.map (·.1), entries.lookup name = none) :
    Loops line { entries } text
      { entries := entries ++ layer.map fun (name, given) => (name, .value given) } [] := by
  induction fields generalizing entries with
  | nil =>
      have own : Takes (line { entries }) [] (.inr { entries }) [] := rfl
      simpa using Loops.last own
  | @cons name written later given layer bare alone spells _ ih =>
      have others := ih (entries ++ [(String.ofList name, .value given)]) fun other member => by
        have differs : other ≠ String.ofList name := ne_of_mem_of_not_mem member alone
        simp [List.lookup_append, fresh other (List.mem_cons_of_mem _ member),
          List.lookup_cons, beq_false_of_ne differs]
      have own := takes_line bare (fresh _ List.mem_cons_self) spells (later ++ [])
      simpa using Loops.again own (by simp) others

theorem Fields.not_marked {layer : ConfigLayer} {text : List Char} (fields : Fields layer text) :
    ∀ c ∈ text.head?, c ≠ '\ufeff' := by
  intro c head same
  cases fields with
  | nil => cases head
  | cons bare =>
      simp only [List.append_assoc] at head
      exact bare.not_mem_head? c head (by simp [same])

/-- The values of a file are those that its lines write down. -/
theorem parse?_of_fields {text : String} {layer : ConfigLayer} (fields : Fields layer text.toList) :
    parse? text = some layer := by
  have takes : Takes (do let _ ← eat "\ufeff"; iterate line {}) text.toList
      { entries := layer.map fun (name, given) => (name, .value given) } [] := by
    refine (takes_eat_of_ne '\ufeff' rfl ?_).skip (fields.loops [] fun _ _ => rfl).takes
    rw [List.append_nil]
    exact fields.not_marked
  rw [parse?]
  simp only [complete?_of_takes (List.append_nil _).symm takes]
  simp [Node.content, Function.comp_def]

end Toml

/-! ## Configurations from one source -/

namespace Configuration

/-- The values of a configuration, as one source would give them. -/
def values (configuration : Configuration) : ConfigLayer :=
  ConfigKey.all.map fun key => (key.name, configuration.value key)

variable {configuration : Configuration}

theorem exists_fields_values (configuration : Configuration) :
    ∃ text, Toml.Fields configuration.values text := by
  refine Toml.exists_fields (fun name member => ?_) ?_ fun given member => ?_
  · obtain ⟨key, -, rfl⟩ : ∃ key ∈ ConfigKey.all, key.name = name := by
      simpa [values] using member
    cases key <;> exact ⟨by decide, List.all_eq_true.mp (by decide)⟩
  · show (ConfigKey.all.map ConfigKey.name).Nodup
    decide
  · obtain ⟨key, -, rfl⟩ : ∃ key ∈ ConfigKey.all, configuration.value key = given := by
      simpa [values] using member
    exact ConfigValue.exists_spells configuration key

theorem fileValues?_withSettings (text : String) :
    fileValues? (withSettings text) "/" {} = Toml.parse? text := by
  have place : (withSettings text).resolve (filePath "/" none) = .ok ["testmap.toml"] := rfl
  have file : (withSettings text).at? ["testmap.toml"] = some (.file text.toUTF8) := rfl
  have decoded : String.fromUTF8? text.toUTF8 = some text := dif_pos text.isValidUTF8
  have read : (withSettings text).read (filePath "/" none) = .ok text := by
    simp only [FileTree.read, place, bind, Except.bind, file, decoded]
  rw [fileValues?, if_pos (holdsFile_of_read read), read]
  rfl

/-- What the lines of a file write down is done. -/
theorem load_of_fields {text : String} (fields : Toml.Fields configuration.values text.toList)
    (some : configuration.extensions ≠ []) :
    load (withSettings text) "/" [] {} = .ok configuration := by
  have read := (fileValues?_withSettings text).trans (Toml.parse?_of_fields fields)
  have same (key : ConfigKey) : key.winner {} [] configuration.values = configuration.value key := by
    cases key <;> rfl
  rw [load_of_winner _ (by simp [FileMissing]) read same]
  exact if_neg (by simpa using some)

/-- What variables write down is done. -/
theorem load_of_spells {text : ConfigKey → String}
    (spells : ∀ key, Spells (text key).toList (configuration.value key))
    (some : configuration.extensions ≠ []) :
    load .empty "/" (ConfigKey.all.map fun key => ("TESTMAP_" ++ key.name, text key)) {} =
      .ok configuration := by
  have noFile : fileValues? .empty "/" {} = Option.some [] := rfl
  have given (key : ConfigKey) : Environment.given? ("TESTMAP_" ++ key.name) (text key) =
      Option.some (key.name, configuration.value key) := by
    have named : Environment.setting? ("TESTMAP_" ++ key.name) = Option.some (key.name, []) := by
      cases key <;> decide
    rw [Environment.given?, named, ← Environment.parse_of_spells (spells key)]
    rfl
  have layer : Environment.layer (ConfigKey.all.map fun key => ("TESTMAP_" ++ key.name, text key)) =
      configuration.values := by
    simp [Environment.layer, values, ConfigKey.all, given]
  have same (key : ConfigKey) : key.winner {} (ConfigKey.all.map fun key =>
      ("TESTMAP_" ++ key.name, text key)) [] = configuration.value key := by
    rw [ConfigKey.winner, layer]
    cases key <;> rfl
  rw [load_of_winner _ (by simp [FileMissing]) noFile same]
  exact if_neg (by simpa using some)

/-- Whatever is to be done can be written in a file, and in variables just as well. -/
theorem exists_load (some : configuration.extensions ≠ []) :
    (∃ text, load (withSettings text) "/" [] {} = .ok configuration) ∧
      ∃ environment, load .empty "/" environment {} = .ok configuration := by
  constructor
  · obtain ⟨text, fields⟩ := exists_fields_values configuration
    exact ⟨String.ofList text, load_of_fields (by rwa [String.toList_ofList]) some⟩
  · choose written spells using ConfigValue.exists_spells configuration
    refine ⟨_, @load_of_spells _ (String.ofList ∘ written) (fun key => ?_) some⟩
    rw [Function.comp_apply, String.toList_ofList]
    exact spells key

end Configuration

end TestInventory
