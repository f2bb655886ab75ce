import Mathlib.Data.List.Infix
import TestInventory.Proofs.Site.FrameLine
import TestInventory.Site.Resolver

/-!
# Stacks that are printed

A host prints a stack under a message, with the frames one below the other and perhaps
other lines between them.  A frame comes back from its line whatever its file is called:
the line of a frame with a name ends in a parenthesis, that of one without a name in a
digit, and no shorter name and no mark fits a plain frame.  So the printed stack is
resolved to the same location as its frames are.
-/

namespace TestInventory

open TestInventory.Text TestInventory.TraceLine

/-! ## Printing -/

/-- Where a frame is, as hosts write it. -/
def Frame.place (frame : Frame) : String :=
  frame.file ++ ":" ++ toString frame.line ++ ":" ++ toString frame.column

/-- The line of a frame in a printed stack. -/
def Frame.text (frame : Frame) : String :=
  match frame.function with
  | none => "    at " ++ frame.place
  | some name => "    at " ++ name ++ " (" ++ frame.place ++ ")"

instance (text : List Char) : Decidable (OneLine text) :=
  decidable_of_iff (text ≠ [] ∧ '\n' ∉ text)
    ⟨fun both => ⟨both.1, both.2⟩, fun oneLine => ⟨oneLine.notEmpty, oneLine.noFeed⟩⟩

/-- Whether nothing in the name of a function is mistaken for a part of its line. -/
structure PlainName (name : String) : Prop where
  oneLine : OneLine name.toList
  closed : ¬" (".toList <:+: name.toList
  unmarked : ¬"async".toList <+: name.toList

instance (name : String) : Decidable (PlainName name) :=
  decidable_of_iff (OneLine name.toList ∧ ¬" (".toList <:+: name.toList ∧
      ¬"async".toList <+: name.toList)
    ⟨fun all => ⟨all.1, all.2.1, all.2.2⟩,
      fun plain => ⟨plain.oneLine, plain.closed, plain.unmarked⟩⟩

/-- Whether a frame is printed so that it can be read again. -/
structure Frame.Plain (frame : Frame) : Prop where
  file : OneLine frame.file.toList
  line : frame.line < 0x100000000
  named : ∀ name ∈ frame.function, PlainName name
  bare : frame.function = none → ¬"async ".toList <+: frame.file.toList

instance (frame : Frame) : Decidable frame.Plain :=
  decidable_of_iff (OneLine frame.file.toList ∧ frame.line < 0x100000000 ∧
      (∀ name ∈ frame.function, PlainName name) ∧
      (frame.function = none → ¬"async ".toList <+: frame.file.toList))
    ⟨fun all => ⟨all.1, all.2.1, all.2.2.1, all.2.2.2⟩,
      fun plain => ⟨plain.file, plain.line, plain.named, plain.bare⟩⟩

/-- A line of a printed stack: the line of a frame, or a header or remark. -/
inductive StackLine where
  | ofFrame (frame : Frame)
  | remark (words : String)

namespace StackLine

def text : StackLine → String
  | .ofFrame frame => frame.text
  | .remark words => words

/-- The frame on a line. -/
def frame? : StackLine → Option Frame
  | .ofFrame frame => some frame
  | .remark _ => none

/-- Whether a line is that of a plain frame, or a single line that does not begin like one. -/
def Clear : StackLine → Prop
  | .ofFrame frame => frame.Plain
  | .remark words => '\n' ∉ words.toList ∧ ¬"at ".toList <+: words.toList.dropWhile isWhite

instance : DecidablePred Clear
  | .ofFrame frame => inferInstanceAs (Decidable frame.Plain)
  | .remark _ => inferInstanceAs (Decidable (_ ∧ _))

end StackLine

/-- The lines of a stack, one below the other. -/
def printed (stack : List StackLine) : String := "\n".intercalate (stack.map StackLine.text)

/-! ## The line of a frame -/

theorem isDigit_of_ascii {c : Char} (ascii : c.isDigit = true) : isDigit c = true := by
  obtain ⟨low, high⟩ : 48 ≤ c.toNat ∧ c.toNat ≤ 57 := by
    simpa [Char.isDigit, Char.le_def, UInt32.le_iff_toNat_le] using ascii
  unfold isDigit
  rw [if_pos (by omega)]
  simp [low, high]

theorem digitGroup_toString (n : Nat) : DigitGroup (toString n).toList where
  notEmpty := by
    rw [Nat.toString_eq_repr, Nat.toList_repr]
    exact Nat.toDigits_ne_nil
  digits := by
    rw [Nat.toString_eq_repr, Nat.toList_repr]
    exact fun c member =>
      isDigit_of_ascii (Nat.isDigit_of_mem_toDigits (by decide) (by decide) member)

namespace TraceLine

/-- A text that begins another ends before a character it does not hold. -/
theorem prefix_of_prefix_append_cons {text before rest : List Char} {c : Char}
    (begins : text <+: before ++ c :: rest) (absent : c ∉ text) : text <+: before := by
  obtain shorter | ⟨more, rfl⟩ :=
    List.prefix_or_prefix_of_prefix begins (List.prefix_append before (c :: rest))
  · exact shorter
  · rw [List.prefix_append_right_inj] at begins
    cases more with
    | nil => exact (List.append_nil before).symm ▸ List.prefix_rfl
    | cons first others =>
        obtain ⟨rfl, -⟩ := List.cons_prefix_cons.mp begins
        exact absurd (List.mem_append_right before List.mem_cons_self) absent

namespace Reading

theorem frame_ne_nil (name : Option (List Char)) (position : Position) :
    frame name position ≠ [] := by
  cases name with
  | none => exact List.append_ne_nil_of_right_ne_nil _ (List.cons_ne_nil _ _)
  | some name => exact List.append_ne_nil_of_right_ne_nil _ (List.cons_ne_nil _ _)

theorem getLast?_text (reading : Reading) :
    reading.text.getLast? = (frame reading.name reading.position).getLast? := by
  have notEmpty := frame_ne_nil reading.name reading.position
  rw [text, ← List.append_assoc, ← List.append_assoc, List.getLast?_append_of_ne_nil _ notEmpty]

/-- A line with a name ends in a parenthesis. -/
theorem getLast?_of_some {reading : Reading} {name : List Char} (named : reading.name = some name) :
    reading.text.getLast? = some ')' := by
  have written : frame (some name) reading.position =
      (name ++ ' ' :: '(' :: reading.position.text) ++ [')'] := by
    simp [frame, Position.called]
  rw [getLast?_text, named, written, List.getLast?_concat]

/-- A line without a name ends in a digit. -/
theorem exists_getLast?_of_none {reading : Reading} (unnamed : reading.name = none) :
    ∃ last, reading.text.getLast? = some last ∧ isDigit last = true := by
  have group := reading.position.columnDigits
  have ends := List.getLast?_eq_some_getLast group.notEmpty
  refine ⟨_, ?_, group.digits _ (List.mem_of_getLast? ends)⟩
  have written : frame none reading.position =
      (reading.position.file ++ ':' :: reading.position.line ++ [':']) ++
        reading.position.column := by
    simp [frame, Position.text]
  rw [getLast?_text, unnamed, written, List.getLast?_append_of_ne_nil _ group.notEmpty, ends]

theorem chopReturn_text (reading : Reading) : chopReturn reading.text = reading.text := by
  refine if_neg fun ends => ?_
  cases name : reading.name with
  | none =>
      obtain ⟨last, digit_ends, digit⟩ := exists_getLast?_of_none name
      rw [Option.some.inj (digit_ends.symm.trans ends)] at digit
      exact absurd digit (by decide)
  | some own =>
      rw [getLast?_of_some name] at ends
      exact absurd ends (by decide)

/-- The feeds of a line are among its white space. -/
theorem noFeed_text {reading : Reading} (blank : '\n' ∉ reading.blank) : '\n' ∉ reading.text := by
  have digits : ∀ {group : List Char}, DigitGroup group → '\n' ∉ group :=
    fun group member => absurd (group.digits '\n' member) (by decide)
  have position : '\n' ∉ reading.position.text := by
    simp [Position.text, reading.position.oneLine.noFeed, digits reading.position.lineDigits,
      digits reading.position.columnDigits]
  have framed : '\n' ∉ frame reading.name reading.position := by
    cases name : reading.name with
    | none => exact position
    | some own => simp [frame, Position.called, (reading.named own name).noFeed, position]
  have mark : '\n' ∉ if reading.async then "async ".toList else [] := by
    cases reading.async <;> decide
  simp only [text, List.mem_append, not_or]
  exact ⟨blank, by decide, mark, framed⟩

end Reading

end TraceLine

/-- A name of a plain frame is at most as long as whatever stands before a parenthesis. -/
theorem PlainName.length_le {name : String} (plain : PlainName name)
    {before inner rest : List Char}
    (same : before ++ ' ' :: '(' :: inner = name.toList ++ ' ' :: '(' :: rest) :
    name.toList.length ≤ before.length := by
  -- Were the name longer, it would hold the ` (` in front of which the other text ends.
  obtain ⟨more, whole, behind⟩ | ⟨more, whole, -⟩ := List.append_eq_append_iff.mp same
  · rcases more with _ | ⟨first, more⟩
    · rw [whole, List.append_nil]
    · obtain ⟨rfl, opened⟩ := List.cons.inj behind
      rcases more with _ | ⟨second, left⟩
      · exact absurd (List.cons.inj opened).1 (by decide)
      · obtain ⟨rfl, -⟩ := List.cons.inj opened
        exact absurd ⟨before, left, by simp [whole]⟩ plain.closed
  · rw [whole, List.length_append]
    exact Nat.le_add_right ..

namespace Frame

variable {frame : Frame} (plain : frame.Plain)

/-- Where a plain frame is. -/
def position : Position where
  file := frame.file.toList
  line := (toString frame.line).toList
  column := (toString frame.column).toList
  oneLine := plain.file
  lineDigits := digitGroup_toString frame.line
  columnDigits := digitGroup_toString frame.column

/-- How the line of a plain frame is read. -/
def reading : Reading where
  blank := "    ".toList
  async := false
  name := frame.function.map String.toList
  position := position plain
  white c member := by
    have blank : c = ' ' := List.eq_of_mem_replicate (n := 4) member
    subst blank
    decide
  named := by
    rintro _ named
    obtain ⟨name, known, rfl⟩ := Option.map_eq_some_iff.mp named
    exact (plain.named name known).oneLine

theorem text_reading : (reading plain).text = frame.text.toList := by
  unfold Reading.text text
  have place : frame.place.toList = (position plain).text := by
    simp [place, position, Position.text]
  cases named : frame.function with
  | none => simp [reading, named, Reading.frame, place]
  | some name => simp [reading, named, Reading.frame, place, Position.called]

/-- Nothing in a plain frame is taken for the mark. -/
theorem not_marked :
    ¬"async ".toList <+: Reading.frame (frame.function.map String.toList) (position plain) := by
  intro begins
  cases named : frame.function with
  | none =>
      rw [named] at begins
      exact plain.bare named (prefix_of_prefix_append_cons
        (prefix_of_prefix_append_cons begins (by decide)) (by decide))
  | some name =>
      rw [named] at begins
      have shorter : "async".toList <+: "async ".toList := by decide
      exact (plain.named name named).unmarked
        (prefix_of_prefix_append_cons (shorter.trans begins) (by decide))

/-- The line of a plain frame is read as it was printed. -/
theorem preferred_reading : (reading plain).Preferred frame.text.toList where
  reads := text_reading plain
  named := by
    intro unnamed other reads
    obtain ⟨last, ends, digit⟩ := Reading.exists_getLast?_of_none unnamed
    cases name : other.name with
    | none => rfl
    | some own =>
        rw [text_reading, ← reads, Reading.getLast?_of_some name] at ends
        rw [← Option.some.inj ends] at digit
        exact absurd digit (by decide)
  async := by
    intro other reads _ past
    have behind := remainder?_eq_some_iff.mp (Reading.text_eq_iff.mp reads).2
    rw [remainder?_eq_some_iff.mp (Reading.text_eq_iff.mp (text_reading plain)).2, past] at behind
    exact absurd ⟨_, (List.append_cancel_left behind).symm⟩ (not_marked plain)
  shortest := by
    intro other reads same _ named longer others
    obtain ⟨name, known, rfl⟩ := Option.map_eq_some_iff.mp named
    have behind := (Reading.text_eq_iff.mp reads).2
    rw [same, (Reading.text_eq_iff.mp (text_reading plain)).2, others, named] at behind
    exact (plain.named name known).length_le (Option.some.inj behind).symm

include plain in
/-- The line of a plain frame gives its file and its line. -/
theorem parse?_text : parse? frame.text.toList = some (frame.file, frame.line) := by
  have number : lineNumber? (toString frame.line).toList = some frame.line := by
    rw [lineNumber?, Json.Token.decimal?_toString]
    exact Option.filter_eq_some_iff.mpr ⟨rfl, decide_eq_true plain.line⟩
  rw [(preferred_reading plain).parse?_eq]
  change (lineNumber? (toString frame.line).toList).map
    (String.ofList frame.file.toList, ·) = _
  rw [number, String.ofList_toList, Option.map_some]

end Frame

/-! ## The lines of a stack -/

theorem TraceLine.parse?_of_unmarked {line : List Char}
    (unmarked : ¬"at ".toList <+: line.dropWhile isWhite) : parse? line = none := by
  unfold parse?
  cases marked : "at ".toList.isPrefixOf? (line.dropWhile isWhite) with
  | none => rfl
  | some rest =>
      exact absurd ⟨rest, List.isPrefixOf?_eq_some_iff_append_eq.mp marked⟩ unmarked

/-- What does not begin like a frame does not without its carriage return either. -/
theorem unmarked_chopReturn {line : List Char}
    (unmarked : ¬"at ".toList <+: line.dropWhile isWhite) :
    ¬"at ".toList <+: (chopReturn line).dropWhile isWhite := by
  unfold chopReturn
  split
  case isFalse => exact unmarked
  case isTrue returns =>
    intro marked
    have whole := List.dropLast_append_getLast? '\r' returns
    have notEmpty : (line.dropLast.dropWhile isWhite).isEmpty ≠ true := by
      intro empty
      rw [List.isEmpty_iff.mp empty] at marked
      exact absurd marked (by decide)
    have behind : (line.dropLast ++ ['\r']).dropWhile isWhite = _ := List.dropWhile_append
    rw [List.dropLast_append_getLast? '\r' returns, if_neg notEmpty] at behind
    exact unmarked (behind ▸ marked.trans (List.prefix_append ..))

namespace StackLine

variable {line : StackLine}

theorem noFeed (clear : line.Clear) : '\n' ∉ line.text.toList := by
  cases line with
  | ofFrame frame =>
      exact Frame.text_reading clear ▸ Reading.noFeed_text (by decide : '\n' ∉ "    ".toList)
  | remark words => exact clear.1

/-- What is read on a line is where its frame is. -/
theorem parse?_text (clear : line.Clear) : parse? line.text.toList =
    line.frame?.map fun frame => (frame.file, frame.line) := by
  cases line with
  | ofFrame frame => exact Frame.parse?_text clear
  | remark words => exact parse?_of_unmarked clear.2

theorem parse?_chopReturn (clear : line.Clear) :
    parse? (chopReturn line.text.toList) = parse? line.text.toList := by
  cases line with
  | ofFrame frame =>
      change parse? (chopReturn frame.text.toList) = parse? frame.text.toList
      rw [← Frame.text_reading clear, Reading.chopReturn_text]
  | remark words =>
      exact (parse?_of_unmarked (unmarked_chopReturn clear.2)).trans
        (parse?_of_unmarked clear.2).symm

end StackLine

/-- Characters without a feed all go to the open line. -/
theorem linesFrom_append {line : List Char} (noFeed : '\n' ∉ line) (current rest : List Char) :
    linesFrom current (line ++ rest) = linesFrom (line.reverse ++ current) rest := by
  induction line generalizing current with
  | nil => rfl
  | cons c line ih =>
      obtain ⟨other, others⟩ := List.ne_and_not_mem_of_not_mem_cons noFeed
      rw [List.cons_append, linesFrom.eq_3 current c _ (Ne.symm other), ih others,
        List.reverse_cons, List.append_assoc, List.singleton_append]

/-- Reading the lines of a text is reading the parts that it was put together from. -/
theorem filterMap_lines {α : Type} {read : List Char → Option α} (blank : read [] = none)
    {parts : List (List Char)} (noFeed : ∀ part ∈ parts, '\n' ∉ part)
    (chopped : ∀ part ∈ parts, read (chopReturn part) = read part) :
    (lines (['\n'].intercalate parts)).filterMap read = parts.filterMap read := by
  induction parts with
  | nil => rfl
  | cons part parts ih =>
      obtain ⟨own, others⟩ := List.forall_mem_cons.mp noFeed
      obtain ⟨here, below⟩ := List.forall_mem_cons.mp chopped
      cases parts with
      | nil =>
          -- The open line at the end is no line if it is empty.
          have last := linesFrom_append own [] []
          rw [List.append_nil, List.append_nil] at last
          rw [List.intercalate_singleton, lines, last, linesFrom]
          cases part with
          | nil => exact (List.filterMap_cons_none blank).symm
          | cons c part => simp
      | cons next parts =>
          have first : lines (['\n'].intercalate (part :: next :: parts)) =
              chopReturn part :: lines (['\n'].intercalate (next :: parts)) := by
            rw [List.intercalate_cons_cons, List.append_assoc, lines, linesFrom_append own,
              List.append_nil, List.singleton_append, linesFrom, List.reverse_reverse, lines]
          rw [first, List.filterMap_cons, List.filterMap_cons, here, ih others below]

/-- The frames that are read from a printed stack are those that were printed. -/
theorem filterMap_lines_printed {stack : List StackLine} (clear : ∀ line ∈ stack, line.Clear) :
    (lines (printed stack).toList).filterMap parse? =
      (stack.filterMap StackLine.frame?).map fun frame => (frame.file, frame.line) := by
  rw [printed, String.toList_intercalate, List.map_map]
  change (lines (['\n'].intercalate _)).filterMap parse? = _
  rw [filterMap_lines (by decide), List.filterMap_map, List.map_filterMap]
  · exact List.filterMap_congr fun line member => StackLine.parse?_text (clear line member)
  · rintro _ member
    obtain ⟨line, known, rfl⟩ := List.mem_map.mp member
    exact StackLine.noFeed (clear line known)
  · rintro _ member
    obtain ⟨line, known, rfl⟩ := List.mem_map.mp member
    exact StackLine.parse?_chopReturn (clear line known)

namespace Resolver

/-- The lines that are read as frames all begin like frames. -/
theorem traced?_eq (text : String) : traced? text =
    ((lines text.toList).filterMap parse?).find? fun (file, _) => !isInternalFile file := by
  change ((List.filter _ (lines text.toList)).filterMap parse?).find? _ = _
  rw [List.filterMap_filter]
  congr 1
  refine List.filterMap_congr fun line _ => ite_eq_left_iff.mpr fun unmarked => ?_
  exact (parse?_of_unmarked fun marked => unmarked (List.isPrefixOf_iff_prefix.mpr marked)).symm

/--
A printed stack is resolved like the frames in it.  The frames are plain; headers and
remarks stand anywhere and do not begin like frames.
-/
theorem resolve_printed (resolver : Resolver) (stack : List StackLine)
    (clear : ∀ line ∈ stack, line.Clear) :
    resolver.resolve (.trace (printed stack)) =
      resolver.resolve (.frames (stack.filterMap StackLine.frame?)) := by
  have same : caller? (.trace (printed stack)) =
      caller? (.frames (stack.filterMap StackLine.frame?)) := by
    change traced? (printed stack) = _
    rw [traced?_eq, filterMap_lines_printed clear, List.find?_map]
    rfl
  rw [resolve, resolve, same]

/-- A frame of the host and one whose file holds a position of its own, under a message. -/
def misleadingStack : List StackLine :=
  [.remark "Error: boom",
    .ofFrame ⟨"node:internal/loader", 10, 1, some "load"⟩,
    .remark "    --- at load ---\x0d",
    .ofFrame ⟨"/work/a (copy):3:4/x.js", 7, 1, some "Object.<anonymous> "⟩,
    .ofFrame ⟨"/work/b.js", 2, 1, none⟩]

theorem resolve_printed_misleading : (∀ line ∈ misleadingStack, line.Clear) ∧
    (ofDirectory "/work").resolve (.trace (printed misleadingStack)) =
      ⟨"a (copy):3:4/x.js", 7⟩ := by
  have clear : ∀ line ∈ misleadingStack, line.Clear := by decide +kernel
  refine ⟨clear, ?_⟩
  rw [resolve_printed (ofDirectory "/work") misleadingStack clear]
  decide +kernel

end Resolver

end TestInventory
