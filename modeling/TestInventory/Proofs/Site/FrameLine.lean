import Mathlib.Data.List.Lemmas
import Mathlib.Data.List.TakeDrop
import TestInventory.Proofs.Json.Number
import TestInventory.Site.TraceLine

/-!
# How a line of a printed stack is read

A frame is printed behind white space and `at `, perhaps with `async ` and with a name,
and ends in a position: a file, a line and a column.  A line may hold these marks more
than once, so there can be several ways to read it.  Preferred is a way that finds a
name, among these one that goes past `async `, and among these the one with the shortest
name; what is preferred decides, even when its line is not a number that fits.
-/

namespace TestInventory

namespace TraceLine

open TestInventory.Text

/-- Text that is not empty and holds no line feed. -/
structure OneLine (text : List Char) : Prop where
  notEmpty : text ≠ []
  noFeed : '\n' ∉ text

/-- One digit of any script or more. -/
structure DigitGroup (text : List Char) : Prop where
  notEmpty : text ≠ []
  digits : ∀ c ∈ text, isDigit c = true

theorem DigitGroup.noColon {text : List Char} (group : DigitGroup text) : ':' ∉ text :=
  fun member => absurd (group.digits ':' member) (by decide)

theorem isDigits_iff {text : List Char} : isDigits text = true ↔ DigitGroup text := by
  simp only [isDigits, Bool.and_eq_true, Bool.not_eq_true', List.isEmpty_eq_false_iff,
    List.all_eq_true]
  exact ⟨fun both => ⟨both.1, both.2⟩, fun group => ⟨group.notEmpty, group.digits⟩⟩

/-! ## Positions -/

/-- The place that a frame ends with: a file, a line and a column as they are written. -/
@[ext]
structure Position where
  file : List Char
  line : List Char
  column : List Char
  oneLine : OneLine file
  lineDigits : DigitGroup line
  columnDigits : DigitGroup column

namespace Position

/-- The position as it is written. -/
def text (position : Position) : List Char :=
  (position.file ++ ':' :: position.line) ++ ':' :: position.column

/-- The position in parentheses, as it is written behind a name. -/
def called (position : Position) : List Char := ' ' :: '(' :: (position.text ++ [')'])

/-- What is told of a position. -/
def place (position : Position) : List Char × List Char := (position.file, position.line)

end Position

/-- Characters of which none is a colon, seen from behind. -/
theorem all_reverse_of_noColon {text : List Char} (absent : ':' ∉ text) :
    ∀ c ∈ text.reverse, decide (c ≠ ':') = true := by
  intro c member
  exact decide_eq_true fun colon => absent (colon ▸ List.mem_reverse.mp member)

theorem splitLastColon?_append (before : List Char) {after : List Char} (absent : ':' ∉ after) :
    splitLastColon? (before ++ ':' :: after) = some (before, after) := by
  have reversed : (before ++ ':' :: after).reverse = after.reverse ++ ':' :: before.reverse := by
    simp
  have others := all_reverse_of_noColon absent
  unfold splitLastColon?
  rw [List.span_eq_takeWhile_dropWhile, reversed, List.takeWhile_append_of_pos others,
    List.dropWhile_append_of_pos others]
  simp

theorem splitLastColon?_eq_some {text before after : List Char}
    (found : splitLastColon? text = some (before, after)) : text = before ++ ':' :: after := by
  unfold splitLastColon? at found
  rw [List.span_eq_takeWhile_dropWhile] at found
  split at found
  case h_2 => cases found
  case h_1 taken left same =>
    obtain ⟨rfl, rfl⟩ := Prod.mk.inj (Option.some.inj found)
    obtain ⟨rfl, behind⟩ := Prod.mk.inj same
    have whole := List.takeWhile_append_dropWhile (p := fun c => decide (c ≠ ':'))
      (l := text.reverse)
    rw [behind] at whole
    have turned := congrArg List.reverse whole
    rwa [List.reverse_reverse, List.reverse_append, List.reverse_cons, List.append_assoc,
      List.singleton_append, eq_comm] at turned

namespace Position

theorem splitLastColon?_text (position : Position) : splitLastColon? position.text =
    some (position.file ++ ':' :: position.line, position.column) :=
  splitLastColon?_append _ position.columnDigits.noColon

/-- No text is two positions. -/
theorem text_injective : Function.Injective text := by
  intro position other same
  have outer := congrArg splitLastColon? same
  rw [splitLastColon?_text, splitLastColon?_text] at outer
  obtain ⟨before, column⟩ := Prod.mk.inj (Option.some.inj outer)
  have inner := congrArg splitLastColon? before
  rw [splitLastColon?_append _ position.lineDigits.noColon,
    splitLastColon?_append _ other.lineDigits.noColon] at inner
  obtain ⟨file, line⟩ := Prod.mk.inj (Option.some.inj inner)
  exact Position.ext file line column

theorem called_injective : Function.Injective called := by
  intro position other same
  exact text_injective (List.append_cancel_right (List.cons.inj (List.cons.inj same).2).2)

end Position

/-- A position is read exactly where one is written. -/
theorem position?_eq_some_iff {text : List Char} {place : List Char × List Char} :
    position? text = some place ↔ ∃ position : Position, position.text = text ∧
      position.place = place := by
  constructor
  · intro found
    obtain ⟨⟨before, column⟩, outer, found⟩ := Option.bind_eq_some_iff.mp found
    obtain ⟨⟨file, line⟩, inner, found⟩ := Option.bind_eq_some_iff.mp found
    obtain ⟨sound, place⟩ := Option.ite_none_right_eq_some.mp found
    simp only [Bool.and_eq_true, Bool.not_eq_true', List.isEmpty_eq_false_iff,
      List.contains_eq_mem, decide_eq_false_iff_not, isDigits_iff] at sound
    obtain ⟨⟨⟨columnDigits, lineDigits⟩, notEmpty⟩, noFeed⟩ := sound
    refine ⟨⟨file, line, column, ⟨notEmpty, noFeed⟩, lineDigits, columnDigits⟩, ?_,
      Option.some.inj place⟩
    rw [splitLastColon?_eq_some outer, splitLastColon?_eq_some inner, Position.text]
  · rintro ⟨position, rfl, rfl⟩
    unfold position?
    simp only [Position.splitLastColon?_text, Option.bind_eq_bind, Option.bind_some,
      splitLastColon?_append _ position.lineDigits.noColon]
    simp [isDigits_iff.mpr position.columnDigits, isDigits_iff.mpr position.lineDigits,
      position.oneLine.notEmpty, position.oneLine.noFeed, Position.place]

/-! ## Names -/

/-- The position in parentheses that a text is, with the blank before them. -/
def called? : List Char → Option (List Char × List Char)
  | ' ' :: '(' :: inner =>
    if inner.getLast? = some ')' then position? inner.dropLast else none
  | _ => none

theorem called?_eq_some_iff {text : List Char} {place : List Char × List Char} :
    called? text = some place ↔ ∃ position : Position, position.called = text ∧
      position.place = place := by
  constructor
  · intro found
    unfold called? at found
    split at found
    case h_2 => cases found
    case h_1 inner =>
      obtain ⟨closed, read⟩ := Option.ite_none_right_eq_some.mp found
      obtain ⟨position, text, place⟩ := position?_eq_some_iff.mp read
      refine ⟨position, ?_, place⟩
      rw [Position.called, text, List.dropLast_append_getLast? ')' closed]
  · rintro ⟨position, rfl, rfl⟩
    have found := position?_eq_some_iff.mpr ⟨position, rfl, rfl⟩
    simpa [called?, Position.called] using found

theorem named?_cons (c : Char) (rest : List Char) :
    named? (c :: rest) = if c = '\n' then none else (called? rest).or (named? rest) := by
  split
  case isTrue feed =>
    subst feed
    rfl
  case isFalse other =>
    unfold called?
    split
    case h_1 inner =>
      rw [named?.eq_3 c inner other]
      split
      case h_1 place found => rw [found, Option.some_or]
      case h_2 missing => rw [missing, Option.none_or]
    case h_2 unmarked => rw [named?.eq_4 c rest other unmarked, Option.none_or]

/-- A name is one character or a character before a name. -/
theorem OneLine.cons_iff {c : Char} {rest : List Char} :
    OneLine (c :: rest) ↔ c ≠ '\n' ∧ (rest = [] ∨ OneLine rest) := by
  constructor
  · rintro ⟨-, noFeed⟩
    obtain ⟨other, others⟩ := List.ne_and_not_mem_of_not_mem_cons noFeed
    exact ⟨Ne.symm other, (Classical.em (rest = [])).imp_right fun more => ⟨more, others⟩⟩
  · rintro ⟨other, rfl | ⟨-, others⟩⟩
    · exact ⟨List.cons_ne_nil _ _, by simpa using Ne.symm other⟩
    · exact ⟨List.cons_ne_nil _ _, List.not_mem_cons_of_ne_of_not_mem (Ne.symm other) others⟩

/-- What is read behind a name stands behind the shortest one. -/
theorem exists_shortest_of_named? {text : List Char} {place : List Char × List Char}
    (found : named? text = some place) :
    ∃ (name : List Char) (position : Position), OneLine name ∧
      name ++ position.called = text ∧ position.place = place ∧
      ∀ (longer : List Char) (other : Position), OneLine longer → longer ++ other.called = text →
        name.length ≤ longer.length := by
  induction text with
  | nil => cases found
  | cons c rest ih =>
      rw [named?_cons] at found
      obtain ⟨other, found⟩ := Option.ite_none_left_eq_some.mp found
      -- The names in this text are its first character and, behind it, the names in the rest.
      cases here : called? rest with
      | some first =>
          rw [here, Option.some_or] at found
          obtain ⟨position, rfl, place⟩ := called?_eq_some_iff.mp (here.trans found)
          refine ⟨[c], position, OneLine.cons_iff.mpr ⟨other, .inl rfl⟩, rfl, place, ?_⟩
          intro longer _ oneLine _
          exact List.length_pos_iff.mpr oneLine.notEmpty
      | none =>
          rw [here, Option.none_or] at found
          obtain ⟨name, position, oneLine, rfl, place, shortest⟩ := ih found
          refine ⟨c :: name, position, OneLine.cons_iff.mpr ⟨other, .inr oneLine⟩, rfl, place, ?_⟩
          intro longer another oneLine whole
          obtain ⟨rfl, -⟩ | ⟨others, rfl, behind⟩ := List.append_eq_cons_iff.mp whole
          · exact absurd rfl oneLine.notEmpty
          · obtain ⟨-, rfl | oneLine⟩ := OneLine.cons_iff.mp oneLine
            · rw [called?_eq_some_iff.mpr ⟨another, behind.symm, rfl⟩] at here
              cases here
            · exact Nat.succ_le_succ (shortest others another oneLine behind.symm)

/-- Where nothing is read behind a name, no name is followed by a position in parentheses. -/
theorem append_called_ne {text : List Char} (missing : named? text = none) {name : List Char}
    (oneLine : OneLine name) (position : Position) : name ++ position.called ≠ text := by
  induction text generalizing name with
  | nil => exact List.append_ne_nil_of_left_ne_nil oneLine.notEmpty _
  | cons c rest ih =>
      intro whole
      obtain ⟨rfl, -⟩ | ⟨others, rfl, behind⟩ := List.append_eq_cons_iff.mp whole
      · exact oneLine.notEmpty rfl
      · obtain ⟨other, left⟩ := OneLine.cons_iff.mp oneLine
        rw [named?_cons, if_neg other, Option.or_eq_none_iff] at missing
        obtain rfl | oneLine := left
        · rw [called?_eq_some_iff.mpr ⟨position, behind.symm, rfl⟩] at missing
          cases missing.1
        · exact ih missing.2 oneLine behind.symm

/-! ## Ways to read a line -/

/-- A way to read a line as a printed frame. -/
@[ext]
structure Reading where
  /-- The white space before `at `. -/
  blank : List Char
  /-- Whether `async ` is read as a mark and not as a part of what follows. -/
  async : Bool
  name : Option (List Char)
  position : Position
  white : ∀ c ∈ blank, isWhite c = true
  named : ∀ own ∈ name, OneLine own

namespace Reading

/-- A position alone or in parentheses behind a name. -/
def frame : Option (List Char) → Position → List Char
  | none, position => position.text
  | some name, position => name ++ position.called

/-- The line that is read. -/
def text (reading : Reading) : List Char :=
  reading.blank ++ ("at ".toList ++ ((if reading.async then "async ".toList else []) ++
    frame reading.name reading.position))

/-- The way to read a line that counts. -/
structure Preferred (reading : Reading) (line : List Char) : Prop where
  reads : reading.text = line
  named : reading.name = none → ∀ other : Reading, other.text = line → other.name = none
  async : ∀ other : Reading, other.text = line → other.name.isSome = reading.name.isSome →
    other.async = true → reading.async = true
  shortest : ∀ other : Reading, other.text = line → other.async = reading.async →
    ∀ name ∈ reading.name, ∀ longer ∈ other.name, name.length ≤ longer.length

end Reading

/-- The text behind the marks of a line, with `async ` among the marks or not. -/
def remainder? (line : List Char) (async : Bool) : Option (List Char) :=
  ("at ".toList.isPrefixOf? (line.dropWhile isWhite)).bind fun text =>
    if async then "async ".toList.isPrefixOf? text else some text

/-- What a line is read as before its number is looked at. -/
def place? (line : List Char) : Option (List Char × List Char) :=
  (((remainder? line true).bind named?).or ((remainder? line false).bind named?)).or
    (((remainder? line true).bind position?).or ((remainder? line false).bind position?))

theorem findSome?_readings {α : Type} (text : List Char) (read : List Char → Option α) :
    (readings text).findSome? read =
      (("async ".toList.isPrefixOf? text).bind read).or (read text) := by
  unfold readings
  cases "async ".toList.isPrefixOf? text with
  | none => exact List.findSome?_singleton
  | some rest =>
      change [rest, text].findSome? read = (read rest).or (read text)
      rw [List.findSome?_cons, List.findSome?_singleton]
      cases read rest <;> rfl

theorem parse?_eq (line : List Char) :
    parse? line = (place? line).bind fun (file, digits) =>
      (lineNumber? digits).map (String.ofList file, ·) := by
  unfold parse? place? remainder?
  cases "at ".toList.isPrefixOf? (line.dropWhile isWhite) with
  | none => rfl
  | some text =>
      change (((readings text).findSome? named?).or ((readings text).findSome? position?)).bind
        _ = _
      rw [findSome?_readings, findSome?_readings]
      refine congrArg (Option.bind _) (funext fun found => ?_)
      exact Option.map_eq_bind.symm

theorem remainder?_eq_some_iff {line rest : List Char} {async : Bool} :
    remainder? line async = some rest ↔ line.dropWhile isWhite =
      "at ".toList ++ ((if async then "async ".toList else []) ++ rest) := by
  unfold remainder?
  rw [Option.bind_eq_some_iff]
  constructor
  · rintro ⟨text, marked, left⟩
    rw [← List.isPrefixOf?_eq_some_iff_append_eq.mp marked]
    cases async with
    | false => rw [← Option.some.inj left]; rfl
    | true => rw [← List.isPrefixOf?_eq_some_iff_append_eq.mp left]; rfl
  · intro written
    refine ⟨_, List.isPrefixOf?_eq_some_iff_append_eq.mpr written.symm, ?_⟩
    cases async with
    | false => rfl
    | true => exact List.isPrefixOf?_eq_some_iff_append_eq.mpr rfl

namespace Reading

variable {line : List Char} {reading other : Reading}

/-- A line is read from its white space and from what stands behind its marks. -/
theorem text_eq_iff : reading.text = line ↔ reading.blank = line.takeWhile isWhite ∧
    remainder? line reading.async = some (frame reading.name reading.position) := by
  rw [remainder?_eq_some_iff]
  constructor
  · rintro rfl
    unfold text
    rw [List.takeWhile_append_of_pos reading.white, List.dropWhile_append_of_pos reading.white]
    refine ⟨(List.append_nil _).symm, ?_⟩
    exact List.dropWhile_cons_of_neg (a := 'a') (by decide)
  · rintro ⟨blank, behind⟩
    rw [text, blank, ← behind, List.takeWhile_append_dropWhile]

theorem frame_injective {name : Option (List Char)} : Function.Injective (frame name) := by
  cases name with
  | none => exact Position.text_injective
  | some name => exact fun _ _ same => Position.called_injective (List.append_cancel_left same)

/-- The marks and the name leave only one way to read a line. -/
theorem eq_of_text_eq (reads : reading.text = line) (others : other.text = line)
    (async : reading.async = other.async) (name : reading.name = other.name) :
    reading = other := by
  obtain ⟨blank, behind⟩ := text_eq_iff.mp reads
  obtain ⟨blank_other, behind_other⟩ := text_eq_iff.mp others
  rw [async, name, behind_other] at behind
  exact Reading.ext (blank.trans blank_other.symm) async name
    (frame_injective (Option.some.inj behind.symm))

theorem name_eq_none (reads : reading.text = line)
    (missing : (remainder? line reading.async).bind named? = none) : reading.name = none := by
  rw [(text_eq_iff.mp reads).2, Option.bind_some] at missing
  cases name : reading.name with
  | none => rfl
  | some own =>
      rw [name] at missing
      exact absurd rfl (append_called_ne missing (reading.named own name) reading.position)

theorem name_ne_none (reads : reading.text = line)
    (missing : (remainder? line reading.async).bind position? = none) : reading.name ≠ none := by
  intro name
  rw [(text_eq_iff.mp reads).2, Option.bind_some, name, frame,
    position?_eq_some_iff.mpr ⟨reading.position, rfl, rfl⟩] at missing
  cases missing

end Reading

open Reading

variable {line : List Char} {place : List Char × List Char} {async : Bool}

/-- A reading with a name goes past `async ` if one with a name does, and has the shortest. -/
theorem exists_preferred_named (found : (remainder? line async).bind named? = some place)
    (first : async = false → (remainder? line true).bind named? = none) :
    ∃ reading : Reading, reading.Preferred line ∧ reading.position.place = place := by
  obtain ⟨rest, left, found⟩ := Option.bind_eq_some_iff.mp found
  obtain ⟨name, position, oneLine, rfl, place, shortest⟩ := exists_shortest_of_named? found
  refine ⟨⟨line.takeWhile isWhite, async, some name, position, ?_, ?_⟩, ⟨?_, ?_, ?_, ?_⟩, place⟩
  · exact fun c member => List.mem_takeWhile_imp member
  · rintro _ ⟨⟩
    exact oneLine
  · exact text_eq_iff.mpr ⟨rfl, left⟩
  · intro unnamed
    cases unnamed
  · intro other reads kind past
    by_contra notPast
    have missing := first (Bool.eq_false_of_not_eq_true notPast)
    rw [← past] at missing
    rw [name_eq_none reads missing] at kind
    cases kind
  · rintro other reads same _ ⟨⟩ longer named
    have behind := (text_eq_iff.mp reads).2
    rw [same, left, named] at behind
    exact shortest longer other.position (other.named longer named) (Option.some.inj behind).symm

/-- A reading without a name counts if none has one. -/
theorem exists_preferred_bare (found : (remainder? line async).bind position? = some place)
    (unnamed : ∀ async, (remainder? line async).bind named? = none)
    (first : async = false → (remainder? line true).bind position? = none) :
    ∃ reading : Reading, reading.Preferred line ∧ reading.position.place = place := by
  obtain ⟨rest, left, found⟩ := Option.bind_eq_some_iff.mp found
  obtain ⟨position, rfl, place⟩ := position?_eq_some_iff.mp found
  refine ⟨⟨line.takeWhile isWhite, async, none, position, ?_, ?_⟩, ⟨?_, ?_, ?_, ?_⟩, place⟩
  · exact fun c member => List.mem_takeWhile_imp member
  · intro own named
    cases named
  · exact text_eq_iff.mpr ⟨rfl, left⟩
  · exact fun _ other reads => name_eq_none reads (unnamed other.async)
  · intro other reads _ past
    by_contra notPast
    have missing := first (Bool.eq_false_of_not_eq_true notPast)
    rw [← past] at missing
    exact name_ne_none reads missing (name_eq_none reads (unnamed other.async))
  · intro other _ _ own named
    cases named

/-- What a line is read as is told of its preferred reading. -/
theorem exists_preferred_of_place? (found : place? line = some place) :
    ∃ reading : Reading, reading.Preferred line ∧ reading.position.place = place := by
  unfold place? at found
  obtain named | ⟨unnamed, bare⟩ := Option.or_eq_some_iff.mp found
  · obtain past | ⟨missing, here⟩ := Option.or_eq_some_iff.mp named
    · exact exists_preferred_named past fun marked => absurd marked.symm Bool.false_ne_true
    · exact exists_preferred_named here fun _ => missing
  · obtain ⟨past, here⟩ := Option.or_eq_none_iff.mp unnamed
    have unnamed : ∀ async, (remainder? line async).bind named? = none :=
      Bool.forall_bool.mpr ⟨here, past⟩
    obtain past | ⟨missing, here⟩ := Option.or_eq_some_iff.mp bare
    · exact exists_preferred_bare past unnamed fun marked =>
        absurd marked.symm Bool.false_ne_true
    · exact exists_preferred_bare here unnamed fun _ => missing

theorem text_ne_of_place? (missing : place? line = none) (reading : Reading) :
    reading.text ≠ line := by
  intro reads
  simp only [place?, Option.or_eq_none_iff] at missing
  obtain ⟨⟨past, here⟩, ⟨pastBare, hereBare⟩⟩ := missing
  have unnamed : ∀ async, (remainder? line async).bind named? = none :=
    Bool.forall_bool.mpr ⟨here, past⟩
  have missing : ∀ async, (remainder? line async).bind position? = none :=
    Bool.forall_bool.mpr ⟨hereBare, pastBare⟩
  exact name_ne_none reads (missing reading.async) (name_eq_none reads (unnamed reading.async))

namespace Reading.Preferred

variable {reading other : Reading} (preferred : reading.Preferred line)
include preferred

theorem isSome_imp (another : other.Preferred line) (named : other.name.isSome = true) :
    reading.name.isSome = true := by
  rw [Option.isSome_iff_ne_none] at named ⊢
  exact fun unnamed => named (preferred.named unnamed other another.reads)

theorem length_le (another : other.Preferred line) (same : other.async = reading.async)
    {name longer : List Char} (named : reading.name = some name)
    (others : other.name = some longer) : name.length ≤ longer.length :=
  preferred.shortest other another.reads same name named longer others

/-- A line has one preferred reading at most. -/
theorem unique (another : other.Preferred line) : reading = other := by
  have kind : reading.name.isSome = other.name.isSome :=
    Bool.eq_iff_iff.mpr ⟨another.isSome_imp preferred, preferred.isSome_imp another⟩
  have async : reading.async = other.async := Bool.eq_iff_iff.mpr
    ⟨another.async reading preferred.reads kind, preferred.async other another.reads kind.symm⟩
  refine eq_of_text_eq preferred.reads another.reads async ?_
  cases name : reading.name with
  | none => exact (preferred.named name other another.reads).symm
  | some own =>
      obtain ⟨others, named⟩ := Option.isSome_iff_exists.mp
        (another.isSome_imp preferred (name ▸ rfl))
      have lengths := Nat.le_antisymm (preferred.length_le another async.symm name named)
        (another.length_le preferred async named name)
      have behind := (text_eq_iff.mp preferred.reads).2
      rw [async, (text_eq_iff.mp another.reads).2, name, named, Option.some.injEq] at behind
      rw [named, (List.append_inj behind.symm lengths).1]

/-- A line is read as its preferred reading. -/
theorem place?_eq : place? line = some reading.position.place := by
  cases found : place? line with
  | none => exact absurd preferred.reads (text_ne_of_place? found reading)
  | some place =>
      obtain ⟨other, another, place⟩ := exists_preferred_of_place? found
      rw [preferred.unique another, place]

end Reading.Preferred

/-! ## Line numbers -/

/-- The ASCII digits of a number. -/
structure Numeral (digits : List Char) (number : Nat) : Prop where
  notEmpty : digits ≠ []
  ascii : ∀ c ∈ digits, c.isDigit = true
  value : Nat.ofDigitChars 10 digits 0 = number

theorem ascii_of_foldlM {digits : List Char} {start number : Nat}
    (read : digits.foldlM (fun n c => (digitValue? c).map (10 * n + ·)) start = some number) :
    ∀ c ∈ digits, c.isDigit = true := by
  induction digits generalizing start with
  | nil => exact List.forall_mem_nil _
  | cons c digits ih =>
      rw [List.foldlM_cons] at read
      obtain ⟨next, value, read⟩ := Option.bind_eq_some_iff.mp read
      obtain ⟨digit, known, -⟩ := Option.map_eq_some_iff.mp value
      exact List.forall_mem_cons.mpr ⟨(Option.ite_none_right_eq_some.mp known).1, ih read⟩

theorem decimal?_eq_some_iff {digits : List Char} {number : Nat} :
    decimal? digits = some number ↔ Numeral digits number := by
  unfold decimal?
  constructor
  · intro read
    obtain ⟨notEmpty, read⟩ := Option.ite_none_left_eq_some.mp read
    have ascii := ascii_of_foldlM read
    rw [Json.Token.foldlM_digitValue? ascii] at read
    exact ⟨by simpa using notEmpty, ascii, Option.some.inj read⟩
  · rintro ⟨notEmpty, ascii, rfl⟩
    rw [if_neg (by simpa using notEmpty), Json.Token.foldlM_digitValue? ascii]

theorem lineNumber?_eq_some_iff {digits : List Char} {number : Nat} :
    lineNumber? digits = some number ↔ Numeral digits number ∧ number < 0x100000000 := by
  unfold lineNumber?
  rw [Option.filter_eq_some_iff, decimal?_eq_some_iff, decide_eq_true_iff]

theorem Reading.Preferred.parse?_eq {reading : Reading} (preferred : reading.Preferred line) :
    parse? line = (lineNumber? reading.position.line).map
      (String.ofList reading.position.file, ·) := by
  rw [TraceLine.parse?_eq, preferred.place?_eq]
  rfl

/--
A line is read exactly as its grammar has it.  What is read is the preferred reading,
of which there is one if there is any, provided its line is an ASCII number of 32 bits;
if it is not, no other reading takes its place.  Once the marks and the name are known
there is no choice left: line and column are the last two groups of digits.
-/
theorem read_as_preferred (line : List Char) :
    (∀ file number, parse? line = some (file, number) ↔
      ∃ reading : Reading, reading.Preferred line ∧ reading.position.file = file.toList ∧
        Numeral reading.position.line number ∧ number < 0x100000000) ∧
    ((∃ reading : Reading, reading.text = line) → ∃! reading : Reading, reading.Preferred line) ∧
    (∀ reading : Reading, reading.Preferred line →
      (∀ number < 0x100000000, ¬Numeral reading.position.line number) → parse? line = none) ∧
    ∀ reading other : Reading, reading.text = line → other.text = line →
      reading.async = other.async → reading.name = other.name → reading = other := by
  refine ⟨fun file number => ⟨fun read => ?_, ?_⟩, ?_, ?_, ?_⟩
  · rw [parse?_eq] at read
    obtain ⟨place, found, read⟩ := Option.bind_eq_some_iff.mp read
    obtain ⟨reading, preferred, rfl⟩ := exists_preferred_of_place? found
    obtain ⟨value, fits, told⟩ := Option.map_eq_some_iff.mp read
    obtain ⟨rfl, rfl⟩ := Prod.mk.inj told
    exact ⟨reading, preferred, String.toList_ofList.symm, lineNumber?_eq_some_iff.mp fits⟩
  · rintro ⟨reading, preferred, file, fits⟩
    rw [preferred.parse?_eq, lineNumber?_eq_some_iff.mpr fits, file, String.ofList_toList,
      Option.map_some]
  · rintro ⟨reading, reads⟩
    cases found : place? line with
    | none => exact absurd reads (text_ne_of_place? found reading)
    | some place =>
        obtain ⟨best, preferred, -⟩ := exists_preferred_of_place? found
        exact ⟨best, preferred, fun _ another => another.unique preferred⟩
  · intro reading preferred misfit
    rw [preferred.parse?_eq, Option.map_eq_none_iff, Option.eq_none_iff_forall_ne_some]
    intro number fits
    obtain ⟨numeral, bound⟩ := lineNumber?_eq_some_iff.mp fits
    exact misfit number bound numeral
  · exact fun _ _ => eq_of_text_eq

example : parse? "at async a (b):3:4 (c:5:6)".toList = some ("b):3:4 (c", 5) := by decide +kernel

/- Groups of other digits are digits, but no number. -/
example : parse? "at a (b:1:2:٣:4)".toList = none := by decide +kernel

end TraceLine

end TestInventory
