import TestInventory.Json
import TestInventory.Proofs.Text
import TestInventory.Text.Quoted

/-!
# Scans of written text

A scan takes a text and leaves what follows it.  What scans take one after another is
taken by the whole of them, and a repeated step takes what its rounds take.
-/

namespace TestInventory

namespace Scan

variable {α β : Type}

/-- Whether a scan takes a text, makes a value of it, and leaves what follows. -/
def Takes (scan : Scan α) (text : List Char) (value : α) (rest : List Char) : Prop :=
  StateT.run scan (text ++ rest) = some (value, rest)

theorem Takes.bind {scan : Scan α} {next : α → Scan β} {first second rest : List Char} {value : α}
    {result : β} (taken : Takes scan first value (second ++ rest))
    (later : Takes (next value) second result rest) :
    Takes (scan >>= next) (first ++ second) result rest := by
  rw [Takes, List.append_assoc, StateT.run_bind, taken]
  exact later

/-- A scan that takes nothing may stand before any other. -/
theorem Takes.skip {scan : Scan α} {next : α → Scan β} {text rest : List Char} {value : α}
    {result : β} (taken : Takes scan [] value (text ++ rest))
    (later : Takes (next value) text result rest) : Takes (scan >>= next) text result rest :=
  taken.bind later

/-- A scan that takes nothing may stand behind any other. -/
theorem Takes.close {scan : Scan α} {next : α → Scan β} {text rest : List Char} {value : α}
    {result : β} (taken : Takes scan text value rest) (later : Takes (next value) [] result rest) :
    Takes (scan >>= next) text result rest := by
  rw [Takes, StateT.run_bind, taken]
  exact later

theorem takes_pure (value : α) (rest : List Char) : Takes (pure value) [] value rest := rfl

theorem takes_next (c : Char) (rest : List Char) : Takes next [c] c rest := rfl

theorem run_word (text : String) (input : List Char) :
    StateT.run (word text) input = (text.toList.isPrefixOf? input).map fun rest => ((), rest) := by
  simp only [word, StateT.run_bind, StateT.run_get, Option.pure_def, Option.bind_eq_bind,
    Option.bind_some]
  cases text.toList.isPrefixOf? input <;> rfl

theorem run_orElse (first second : Scan α) (input : List Char) :
    StateT.run (first <|> second) input =
      (StateT.run first input).or (StateT.run second input) := by
  cases taken : StateT.run first input with
  | none => 
      show Option.orElse (StateT.run first input) _ = _
      rw [taken]
      rfl
  | some value => 
      show Option.orElse (StateT.run first input) _ = _
      rw [taken]
      rfl

theorem takes_word (text : String) (rest : List Char) : Takes (word text) text.toList () rest := by
  have begins : text.toList.isPrefixOf? (text.toList ++ rest) = some rest :=
    List.isPrefixOf?_eq_some_iff_append_eq.mpr rfl
  rw [Takes, run_word, begins]
  rfl

theorem takes_eat (text : String) (rest : List Char) : Takes (eat text) text.toList true rest := by
  rw [Takes, eat, run_orElse, StateT.run_bind, takes_word]
  rfl

theorem run_word_of_not_prefix {text : String} {input : List Char}
    (differs : ¬ text.toList <+: input) : StateT.run (word text) input = none := by
  have absent : text.toList.isPrefixOf? input = none := by
    rw [Option.eq_none_iff_forall_ne_some]
    intro later begins
    exact differs ⟨later, List.isPrefixOf?_eq_some_iff_append_eq.mp begins⟩
  rw [run_word, absent]
  rfl

theorem takes_eat_of_mismatch {text : String} {rest : List Char}
    (differs : ¬ text.toList <+: rest) : Takes (eat text) [] false rest := by
  rw [Takes, eat, run_orElse, StateT.run_bind, List.nil_append, run_word_of_not_prefix differs]
  rfl

/-- A text does not stand where another character begins. -/
theorem not_prefix_of_ne {text rest : List Char} (first : Char) {others : List Char}
    (written : text = first :: others) (differs : ∀ c ∈ rest.head?, c ≠ first) :
    ¬ text <+: rest := by
  rintro ⟨later, begins⟩
  rw [written, List.cons_append] at begins
  exact differs first (by simp [← begins]) rfl

theorem takes_eat_of_ne {text : String} (first : Char) {others rest : List Char}
    (written : text.toList = first :: others) (differs : ∀ c ∈ rest.head?, c ≠ first) :
    Takes (eat text) [] false rest :=
  takes_eat_of_mismatch (not_prefix_of_ne first written differs)

theorem takes_run {accepts : Char → Bool} {taken rest : List Char} (all : ∀ c ∈ taken, accepts c)
    (stop : ∀ c ∈ rest.head?, ¬ accepts c) : Takes (run accepts) taken taken rest := by
  have front : (taken ++ rest).takeWhile accepts = taken := by
    have whole := List.takeWhile_append_dropWhile (p := accepts) (l := taken ++ rest)
    rw [Text.dropWhile_append_of_head? all stop] at whole
    exact List.append_cancel_right whole
  simp [Takes, run, front, Text.dropWhile_append_of_head? all stop]

theorem takes_run_nil {accepts : Char → Bool} {rest : List Char}
    (stop : ∀ c ∈ rest.head?, ¬ accepts c) : Takes (run accepts) [] [] rest :=
  takes_run (by simp) stop

theorem takes_guard {condition : Prop} [Decidable condition] (holds : condition)
    (rest : List Char) : Takes (guard condition) [] () rest := by
  rw [guard, if_pos holds]
  exact takes_pure () rest

theorem takes_someOf {accepts : Char → Bool} {taken rest : List Char} (nonempty : taken ≠ [])
    (all : ∀ c ∈ taken, accepts c) (stop : ∀ c ∈ rest.head?, ¬ accepts c) :
    Takes (someOf accepts) taken taken rest :=
  (takes_run all stop).close ((takes_guard (by simpa using nonempty) _).skip (takes_pure _ _))

/-- The rounds of a repeated step, which take a text from a state to a result. -/
inductive Loops (step : β → Scan (β ⊕ α)) : β → List Char → α → List Char → Prop
  | last {state : β} {text rest : List Char} {result : α}
      (taken : Takes (step state) text (.inr result) rest) : Loops step state text result rest
  | again {state next : β} {text later rest : List Char} {result : α}
      (taken : Takes (step state) text (.inl next) (later ++ rest)) (nonempty : text ≠ [])
      (loops : Loops step next later result rest) : Loops step state (text ++ later) result rest

theorem Loops.takes {step : β → Scan (β ⊕ α)} {state : β} {text rest : List Char} {result : α}
    (loops : Loops step state text result rest) : Takes (iterate step state) text result rest := by
  have enough (times : Nat) (fuel : (text ++ rest).length < times) :
      Takes (repeatUpTo step times state) text result rest := by
    induction loops generalizing times with
    | last taken =>
        obtain ⟨times, rfl⟩ := Nat.exists_eq_add_of_lt fuel
        exact taken.close (takes_pure _ _)
    | again taken nonempty _ ih =>
        obtain ⟨times, rfl⟩ := Nat.exists_eq_add_of_lt fuel
        have some := List.length_pos_iff.mpr nonempty
        refine taken.bind (ih _ ?_)
        simp only [List.length_append] at fuel ⊢
        omega
  rw [Takes, iterate, StateT.run_bind]
  exact enough _ (Nat.lt_succ_self _)

theorem takes_peek? (rest : List Char) : Takes peek? [] rest.head? rest := rfl

theorem run_optional (scan : Scan α) (input : List Char) :
    StateT.run (optional scan) input =
      ((StateT.run scan input).map fun (value, rest) => (some value, rest)).or
        (some (none, input)) := by
  rw [optional, run_orElse, StateT.run_map]
  cases StateT.run scan input <;> rfl

/-- A scan makes a value of a whole text if nothing follows what it takes. -/
theorem complete?_of_takes {scan : Scan α} {text : String} {taken rest : List Char} {value : α}
    (split : text.toList = taken ++ rest) (takes : Takes scan taken value rest) :
    scan.complete? text = if rest = [] then some value else none := by
  simp only [complete?, split, StateT.run_bind, show StateT.run scan _ = _ from takes]
  cases rest <;> rfl

end Scan

/-! ## Quoted text -/

namespace Text

/-- Whether what is written behind a backslash stands for a character. -/
inductive Escapes : List Char → Char → Prop
  | letter {letter c : Char} (named : (letter, c) ∈ [('b', '\x08'), ('t', '\t'), ('n', '\n'),
      ('f', '\x0c'), ('r', '\r'), ('"', '"'), ('\\', '\\')]) : Escapes [letter] c
  | short {digits : List Char} {c : Char} (four : digits.length = 4)
      (number : scalar? digits = some c) : Escapes ('u' :: digits) c
  | long {digits : List Char} {c : Char} (eight : digits.length = 8)
      (number : scalar? digits = some c) : Escapes ('U' :: digits) c

/-- Whether what is written between double quotes stands for a text. -/
inductive InQuotes : List Char → List Char → Prop
  | nil : InQuotes [] []
  | plain {c : Char} {written content : List Char} (isPlain : isPlain c) (quote : c ≠ '"')
      (slash : c ≠ '\\') (later : InQuotes written content) :
      InQuotes (c :: written) (c :: content)
  | escape {code written content : List Char} {c : Char} (escapes : Escapes code c)
      (later : InQuotes written content) : InQuotes ('\\' :: code ++ written) (c :: content)

/-- Every text can be written between double quotes. -/
theorem exists_inQuotes (content : List Char) : ∃ written, InQuotes written content := by
  induction content with
  | nil => exact ⟨[], .nil⟩
  | cons c content ih =>
      obtain ⟨written, later⟩ := ih
      by_cases quote : c = '"'
      · have named : Escapes ['"'] c := .letter (by simp [quote])
        exact ⟨_, .escape named later⟩
      by_cases slash : c = '\\'
      · have named : Escapes ['\\'] c := .letter (by simp [slash])
        exact ⟨_, .escape named later⟩
      by_cases plain : isPlain c
      · exact ⟨_, .plain plain quote slash later⟩
      · have number : ∀ n < 128, scalar? ['0', '0', Json.hexDigit (n / 16), Json.hexDigit (n % 16)] =
            some (Char.ofNat n) := by decide
        have small : c.toNat < 128 := by
          simp [isPlain] at plain
          omega
        have named := number c.toNat small
        rw [Char.ofNat_toNat] at named
        exact ⟨_, .escape (.short rfl named) later⟩

end Text

namespace Scan

theorem takes_digits {digits : List Char} {c : Char} {length : Nat}
    (whole : digits.length = length) (number : Text.scalar? digits = some c) (rest : List Char) :
    Takes (do
      let text ← get
      set (text.drop length)
      guard (length ≤ text.length)
      (Text.scalar? (text.take length)).getM) digits c rest := by
  subst whole
  simp [Takes, StateT.run_bind, guard, number, Option.getM]

theorem takes_escape {code : List Char} {c : Char} (escapes : Text.Escapes code c)
    (rest : List Char) : Takes escape code c rest := by
  cases escapes with
  | @letter letter _ named =>
      refine (takes_next letter rest).close ?_
      simp only [List.mem_cons, Prod.mk.injEq, List.not_mem_nil, or_false] at named
      rcases named with ⟨rfl, rfl⟩ | ⟨rfl, rfl⟩ | ⟨rfl, rfl⟩ | ⟨rfl, rfl⟩ | ⟨rfl, rfl⟩ | ⟨rfl, rfl⟩ |
        ⟨rfl, rfl⟩ <;> rfl
  | @short digits _ four number =>
      exact (takes_next 'u' (digits ++ rest)).bind (takes_digits four number rest)
  | @long digits _ eight number =>
      exact (takes_next 'U' (digits ++ rest)).bind (takes_digits eight number rest)

theorem loops_nextOfQuoted {written content : List Char} (inside : Text.InQuotes written content)
    (taken rest : List Char) :
    Loops nextOfQuoted taken (written ++ ['"']) (String.ofList (taken.reverse ++ content)) rest := by
  induction inside generalizing taken with
  | nil =>
      refine .last ((takes_next '"' rest).close ?_)
      simpa using takes_pure _ rest
  | @plain c written content isPlain quote slash _ ih =>
      have round : Takes (nextOfQuoted taken) [c] (.inl (c :: taken)) (written ++ ['"'] ++ rest) := by
        refine (takes_next c _).close ?_
        rw [if_neg quote, if_neg slash]
        exact (takes_guard isPlain _).close (takes_pure _ _)
      simpa using Loops.again round (List.cons_ne_nil _ _) (ih (c :: taken))
  | @escape code written content c escapes _ ih =>
      have round : Takes (nextOfQuoted taken) ('\\' :: code) (.inl (c :: taken))
          (written ++ ['"'] ++ rest) :=
        (takes_next '\\' _).bind ((takes_escape escapes _).close (takes_pure _ _))
      simpa using Loops.again round (List.cons_ne_nil _ _) (ih (c :: taken))

/-- Quoted text stands for what is written between its quotes. -/
theorem takes_quoted {written content : List Char} (inside : Text.InQuotes written content)
    (rest : List Char) : Takes quoted (written ++ ['"']) (String.ofList content) rest :=
  (loops_nextOfQuoted inside [] rest).takes

end Scan

end TestInventory
