import TestInventory.Evaluation.Known

/-!
# What expressions denote

The value of an expression under the rules of the language: a template is its pieces
with the texts of the holes between them, a sum of which one side is a text joins
texts, any other sum adds numbers, for which truth values count 0 or 1, and a minus
negates a number.  How numbers are added and written is taken as given.

Where the value of an expression is known, it is the value that the expression
denotes, unless a truth value is added to something that is no text.
-/

namespace TestInventory

open TestInventory.Source (Span)

namespace Value

/-- Whether a value is a text. -/
def isText : Value → Bool
  | .text _ => true
  | _ => false

/-- Whether a value is a truth value. -/
def isTruth : Value → Bool
  | .boolean _ => true
  | _ => false

/-- A number or truth value as a number. -/
def number? : Value → Option Float
  | .number content => some content
  | .boolean true => some 1
  | .boolean false => some 0
  | .text _ => none

/-- The sum of two values: a number, or a text if one of them is a text. -/
def plus (first second : Value) : Value :=
  match first.number?, second.number? with
  | some left, some right => .number (left + right)
  | _, _ => .text (first.toText ++ second.toText)

/-- Whether a truth value is added to something that is no text. -/
def truthAdded (first second : Value) : Bool :=
  (first.isTruth || second.isTruth) && !(first.isText || second.isText)

@[simp]
theorem number?_text (content : String) : (Value.text content).number? = none := rfl

@[simp]
theorem number?_number (content : Float) : (Value.number content).number? = some content := rfl

@[simp]
theorem number?_boolean (content : Bool) :
    (Value.boolean content).number? = some (if content then 1 else 0) := by
  cases content <;> rfl

/-- The sums of texts and numbers are right, and those of truth values are not. -/
theorem add_eq_plus_iff (first second : Value) :
    first.add second = first.plus second ↔ first.truthAdded second = false := by
  cases first with
  | text => simp [add, plus, truthAdded, isText]
  | number =>
      cases second with
      | text => simp [add, plus, truthAdded, isText]
      | number => simp [add, plus, truthAdded, isTruth]
      | boolean => simp [add, plus, truthAdded, isTruth, isText]
  | boolean =>
      cases second with
      | text => simp [add, plus, truthAdded, isText]
      | _ => simp [add, plus, truthAdded, isTruth, isText]

end Value

/-- The first piece of a template and, behind the text of each hole, the piece that follows. -/
def templateText : List String → List String → String
  | [], _ => ""
  | first :: rest, texts =>
    first ++ String.join (rest.zipIdx.map fun (piece, index) => texts[index]?.getD "" ++ piece)

theorem templateText_cons (piece next : String) (rest texts : List String) :
    templateText (piece :: next :: rest) texts =
      piece ++ texts.head?.getD "" ++ templateText (next :: rest) texts.tail := by
  have shifted : ∀ index : Nat, texts[index + 1]? = texts.tail[index]? := fun index =>
    List.getElem?_tail.symm
  simp only [templateText, List.zipIdx_cons, List.zipIdx_succ, List.map_cons, List.map_map,
    Function.comp_def, String.join_cons, shifted, List.head?_eq_getElem?]
  simp [String.append_assoc]

/-- Interleaving pieces and values makes the text of a template. -/
theorem interleave_eq_templateText (pieces texts : List String) :
    interleave pieces texts = templateText pieces texts := by
  induction pieces generalizing texts with
  | nil => rfl
  | cons piece rest ih =>
      cases rest with
      | nil => simp [interleave, templateText]
      | cons next rest =>
          rw [templateText_cons]
          cases texts with
          | nil => simp [interleave, ih]
          | cons text texts => simp [interleave, ih]

/-! ## The rules -/

mutual

/-- Whether an expression has a value, given the values of names. -/
inductive Expression.Denotes (known : String → Option Value) : Expression → Value → Prop where
  | literal (span : Span) (value : Value) :
    Expression.Denotes known (.literal span value) value
  | template (span : Span) (pieces : List String) {holes : List Expression} {texts : List String}
      (each : DenoteTexts known holes texts) :
    Expression.Denotes known (.template span pieces holes) (.text (templateText pieces texts))
  | sum (span : Span) {left right : Expression} {first second : Value}
      (leftDenotes : Expression.Denotes known left first)
      (rightDenotes : Expression.Denotes known right second) :
    Expression.Denotes known (.sum span left right) (first.plus second)
  | negative (span : Span) {operand : Expression} {value : Value} {number : Float}
      (denotes : Expression.Denotes known operand value) (counts : value.number? = some number) :
    Expression.Denotes known (.negative span operand) (.number (-number))
  | parenthesized (span : Span) {inner : Expression} {value : Value}
      (denotes : Expression.Denotes known inner value) :
    Expression.Denotes known (.parenthesized span inner) value
  | identifier (span : Span) {name : String} {value : Value} (found : known name = some value) :
    Expression.Denotes known (.identifier span name) value

/-- Whether expressions have values, and what these are as texts. -/
inductive DenoteTexts (known : String → Option Value) : List Expression → List String → Prop where
  | nil : DenoteTexts known [] []
  | cons {first : Expression} {rest : List Expression} {value : Value} {texts : List String}
      (denotes : Expression.Denotes known first value) (later : DenoteTexts known rest texts) :
    DenoteTexts known (first :: rest) (value.toText :: texts)

end

section Unique

variable {known : String → Option Value}

mutual

/-- An expression has at most one value. -/
theorem Expression.Denotes.unique {expression : Expression} {first second : Value}
    (one : expression.Denotes known first) (other : expression.Denotes known second) :
    first = second := by
  cases one with
  | literal =>
      cases other
      rfl
  | template _ _ each =>
      cases other with
      | template _ _ each' => rw [each.unique each']
  | sum _ left right =>
      cases other with
      | sum _ left' right' => rw [left.unique left', right.unique right']
  | negative _ denotes counts =>
      cases other with
      | negative _ denotes' counts' =>
          cases denotes.unique denotes'
          cases counts.symm.trans counts'
          rfl
  | parenthesized _ denotes =>
      cases other with
      | parenthesized _ denotes' => exact denotes.unique denotes'
  | identifier _ found =>
      cases other with
      | identifier _ found' => exact Option.some.inj (found.symm.trans found')

theorem DenoteTexts.unique {expressions : List Expression} {first second : List String}
    (one : DenoteTexts known expressions first) (other : DenoteTexts known expressions second) :
    first = second := by
  cases one with
  | nil =>
      cases other
      rfl
  | cons denotes later =>
      cases other with
      | cons denotes' later' => rw [denotes.unique denotes', later.unique later']

end

end Unique

/-! ## Known values -/

/-- The values of names as they are seen from a scope. -/
def Scopes.values (scopes : Scopes) (scope : Nat) (name : String) : Option Value :=
  (scopes.lookup scope name).bind Binding.value?

mutual

/-- Whether an expression, or a part of which its value is made, passes a test. -/
def Expression.hasPart (test : Expression → Bool) : Expression → Bool
  | .template span pieces holes => test (.template span pieces holes) || anyHasPart test holes
  | .sum span left right =>
    test (.sum span left right) || (left.hasPart test || right.hasPart test)
  | .negative span operand => test (.negative span operand) || operand.hasPart test
  | .parenthesized span inner => test (.parenthesized span inner) || inner.hasPart test
  | expression => test expression

/-- Whether one of several expressions has a part that passes a test. -/
def anyHasPart (test : Expression → Bool) : List Expression → Bool
  | [] => false
  | first :: rest => first.hasPart test || anyHasPart test rest

end

namespace Expression

variable (scopes : Scopes) (scope : Nat)

/-- Whether an expression is a sum of a known truth value and something known that is no text. -/
def isTruthSum : Expression → Bool
  | .sum _ left right =>
    match left.value? scopes scope, right.value? scopes scope with
    | some first, some second => first.truthAdded second
    | _, _ => false
  | _ => false

/-- Whether an expression negates a known truth value. -/
def isTruthNegation : Expression → Bool
  | .negative _ operand => (operand.value? scopes scope).any Value.isTruth
  | _ => false

/-- Whether a truth value is added to something that is no text. -/
def addsTruth (expression : Expression) : Bool := expression.hasPart (isTruthSum scopes scope)

/-- Whether a truth value is negated. -/
def negatesTruth (expression : Expression) : Bool :=
  expression.hasPart (isTruthNegation scopes scope)

end Expression

section Known

variable {scopes : Scopes} {scope : Nat}

mutual

/-- A known value is denoted, unless a truth value is added to something that is no text. -/
theorem Expression.denotes_of_value? {expression : Expression} {value : Value}
    (free : expression.hasPart (Expression.isTruthSum scopes scope) = false)
    (known : expression.value? scopes scope = some value) :
    expression.Denotes (scopes.values scope) value := by
  cases expression with
  | literal span content =>
      cases known
      exact .literal span value
  | identifier span name => exact .identifier span known
  | parenthesized span inner =>
      rw [Expression.hasPart, Bool.or_eq_false_iff] at free
      obtain ⟨-, free⟩ := free
      exact .parenthesized span (Expression.denotes_of_value? free known)
  | template span pieces holes =>
      rw [Expression.hasPart, Bool.or_eq_false_iff] at free
      obtain ⟨-, free⟩ := free
      obtain ⟨texts, each, rfl⟩ := Option.map_eq_some_iff.mp known
      rw [interleave_eq_templateText]
      exact .template span pieces (denoteTexts_of_valueTexts? free each)
  | sum span left right =>
      obtain ⟨here, free⟩ := Bool.or_eq_false_iff.mp free
      obtain ⟨freeLeft, freeRight⟩ := Bool.or_eq_false_iff.mp free
      obtain ⟨first, knownLeft, known⟩ := Option.bind_eq_some_iff.mp known
      obtain ⟨second, knownRight, known⟩ := Option.bind_eq_some_iff.mp known
      cases known
      have apart : first.truthAdded second = false := by
        rwa [Expression.isTruthSum, knownLeft, knownRight] at here
      rw [(first.add_eq_plus_iff second).mpr apart]
      exact .sum span (Expression.denotes_of_value? freeLeft knownLeft)
        (Expression.denotes_of_value? freeRight knownRight)
  | negative span operand =>
      rw [Expression.hasPart, Bool.or_eq_false_iff] at free
      obtain ⟨-, free⟩ := free
      obtain ⟨content, knownOperand, negated⟩ := Option.bind_eq_some_iff.mp known
      cases content with
      | number content =>
          cases negated
          exact .negative span (Expression.denotes_of_value? free knownOperand) rfl
      | _ => cases negated
  | _ => cases known

theorem denoteTexts_of_valueTexts? {expressions : List Expression} {texts : List String}
    (free : anyHasPart (Expression.isTruthSum scopes scope) expressions = false)
    (known : valueTexts? scopes scope expressions = some texts) :
    DenoteTexts (scopes.values scope) expressions texts := by
  cases expressions with
  | nil =>
      cases known
      exact .nil
  | cons first rest =>
      obtain ⟨freeFirst, freeRest⟩ := Bool.or_eq_false_iff.mp free
      obtain ⟨value, knownFirst, known⟩ := Option.bind_eq_some_iff.mp known
      obtain ⟨texts, knownRest, known⟩ := Option.bind_eq_some_iff.mp known
      cases known
      exact .cons (Expression.denotes_of_value? freeFirst knownFirst)
        (denoteTexts_of_valueTexts? freeRest knownRest)

end

mutual

/-- What is denoted is known, unless truth values are added or negated as numbers. -/
theorem Expression.value?_of_denotes {expression : Expression} {value : Value}
    (free : expression.hasPart (Expression.isTruthSum scopes scope) = false)
    (calm : expression.hasPart (Expression.isTruthNegation scopes scope) = false)
    (denotes : expression.Denotes (scopes.values scope) value) :
    expression.value? scopes scope = some value := by
  cases denotes with
  | literal => rfl
  | identifier span found => exact found
  | @parenthesized span inner content denotes =>
      rw [Expression.hasPart, Bool.or_eq_false_iff] at free
      obtain ⟨-, free⟩ := free
      obtain ⟨-, calm⟩ := Bool.or_eq_false_iff.mp calm
      show inner.value? scopes scope = some value
      exact Expression.value?_of_denotes free calm denotes
  | template span pieces each =>
      rw [Expression.hasPart, Bool.or_eq_false_iff] at free
      obtain ⟨-, free⟩ := free
      obtain ⟨-, calm⟩ := Bool.or_eq_false_iff.mp calm
      rw [Expression.value?, valueTexts?_of_denoteTexts free calm each, Option.map_some,
        interleave_eq_templateText]
  | @sum span left right first second leftDenotes rightDenotes =>
      obtain ⟨here, free⟩ := Bool.or_eq_false_iff.mp free
      obtain ⟨-, calm⟩ := Bool.or_eq_false_iff.mp calm
      obtain ⟨freeLeft, freeRight⟩ := Bool.or_eq_false_iff.mp free
      obtain ⟨calmLeft, calmRight⟩ := Bool.or_eq_false_iff.mp calm
      have knownLeft := Expression.value?_of_denotes freeLeft calmLeft leftDenotes
      have knownRight := Expression.value?_of_denotes freeRight calmRight rightDenotes
      have apart : first.truthAdded second = false := by
        rwa [Expression.isTruthSum, knownLeft, knownRight] at here
      rw [Expression.value?, knownLeft, knownRight, ← (first.add_eq_plus_iff second).mpr apart]
      rfl
  | @negative span operand content number denotes counts =>
      rw [Expression.hasPart, Bool.or_eq_false_iff] at free
      obtain ⟨-, free⟩ := free
      obtain ⟨here, calm⟩ := Bool.or_eq_false_iff.mp calm
      have knownOperand := Expression.value?_of_denotes free calm denotes
      rw [Expression.isTruthNegation, knownOperand] at here
      rw [Expression.value?, knownOperand]
      cases content with
      | text => cases counts
      | number =>
          cases counts
          rfl
      | boolean => cases here

theorem valueTexts?_of_denoteTexts {expressions : List Expression} {texts : List String}
    (free : anyHasPart (Expression.isTruthSum scopes scope) expressions = false)
    (calm : anyHasPart (Expression.isTruthNegation scopes scope) expressions = false)
    (denote : DenoteTexts (scopes.values scope) expressions texts) :
    valueTexts? scopes scope expressions = some texts := by
  cases denote with
  | nil => rfl
  | cons denotes later =>
      obtain ⟨freeFirst, freeRest⟩ := Bool.or_eq_false_iff.mp free
      obtain ⟨calmFirst, calmRest⟩ := Bool.or_eq_false_iff.mp calm
      rw [valueTexts?, Expression.value?_of_denotes freeFirst calmFirst denotes,
        valueTexts?_of_denoteTexts freeRest calmRest later]
      rfl

end

end Known

end TestInventory
