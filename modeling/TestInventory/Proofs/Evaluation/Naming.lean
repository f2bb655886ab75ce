import TestInventory.Proofs.Evaluation.Denotation
import TestInventory.Proofs.Evaluation.Provenance

/-!
# Names of declarations

A suite or test whose first argument is an expression is named by what the expression
denotes, or else by its text, and then one notice says so before the declaration.  This
fails if a truth value is added to something that is no text, and if the first argument
is spread.
-/

namespace TestInventory

open TestInventory.Source (Span)
open Signal

/-- The name that a suite or test is given. -/
def Signal.name? : Signal → Option String
  | .suite call => some call.name
  | .test call => some call.name
  | _ => none

/-- Only declarations are given a name. -/
theorem Signal.declaration?_of_name? {signal : Signal} (named : signal.name?.isSome) :
    signal.declaration?.isSome := by
  cases signal <;> first | rfl | cases named

namespace Setting

variable {σ : Type} (setting : Setting σ)

/-- The notice that the name of a declaration is not known. -/
def unknownName (expression : Expression) : Notice :=
  .unknownName setting.file.path (setting.file.line expression.span)
    (setting.file.excerpt expression.span)

/-- An announced suite or test has the name that its call gives, and the notices on it. -/
theorem naming_of_announcement {registers : Registers} {span : Span} {entry : Entry}
    {arguments : List Element} {signal : Signal} {name : String}
    (announced : (setting.announcement registers span entry arguments).signal? = some signal)
    (named : signal.name? = some name) :
    setting.naming registers.scopes registers.current arguments =
      (name, setting.namingNotes registers entry arguments) := by
  cases entry with
  | suite variant =>
      simp only [announcement] at announced
      split at announced
      · cases announced
        cases named
        rfl
      · split at announced <;> cases announced
        cases named
        rfl
  | test variant =>
      cases announced
      cases named
      rfl
  | hook hook =>
      cases announced
      cases named

end Setting

/--
Whether a name is right, and no notice was heard, or flagged: it is the text of the
expression, one notice says so, and nothing is known that the expression denotes.
-/
inductive Visit.Names {σ : Type} (setting : Setting σ) (visit : Visit (List Signal))
    (first : Expression) (before : List Signal) (name : String) : Prop where
  | right (value : Value) (silent : before = visit.heard)
      (denotes : first.Denotes (visit.scopes.values visit.current) value)
      (only : ∀ other, first.Denotes (visit.scopes.values visit.current) other → other = value)
      (same : name = value.toText) : Names setting visit first before name
  | flagged (noticed : before = visit.heard ++ [.notice (setting.unknownName first)])
      (same : name = setting.file.excerpt first.span)
      (unknown : first.negatesTruth visit.scopes visit.current = true ∨
        ∀ value, ¬ first.Denotes (visit.scopes.values visit.current) value) :
    Names setting visit first before name

namespace Setting

variable {σ : Type}

/-- A name that a call gives by an expression is right or flagged. -/
theorem names_of_naming (setting : Setting σ) (visit : Visit (List Signal)) {first : Expression}
    (free : first.addsTruth visit.scopes visit.current = false) (rest : List Element)
    {name : String} {notes : List Notice}
    (naming : setting.naming visit.scopes visit.current (.plain first :: rest) = (name, notes)) :
    visit.Names setting first (visit.heard ++ notes.map .notice) name := by
  simp only [Setting.naming, List.head?_cons, Option.bind_some, Element.plain?] at naming
  cases known : first.value? visit.scopes visit.current with
  | some value =>
      rw [known] at naming
      cases naming
      have denotes := Expression.denotes_of_value? free known
      exact .right value (List.append_nil _) denotes (fun other also => also.unique denotes) rfl
  | none =>
      rw [known] at naming
      cases naming
      refine .flagged rfl rfl ?_
      cases calm : first.negatesTruth visit.scopes visit.current with
      | true => exact .inl rfl
      | false =>
          refine .inr fun value denotes => ?_
          cases known.symm.trans (Expression.value?_of_denotes free calm denotes)

/--
Every suite and test that is heard of is announced by a call that was taken up while
just that was heard which comes before it.  If the first argument of the call is an
expression that adds no truth value to anything but texts, then either no notice comes
between, and the name is the text of the one value that the expression denotes; or one
does, and the name is the text of the expression, which denotes nothing unless it
negates a truth value.
-/
theorem names_right_or_flagged (setting : Setting σ) (enters : setting.listener.Enters)
    (limit : Nat) (program : Program) (heard : σ) :
    let observed := setting.withListener observer
    (∀ before signal after, setting.told limit program heard = before ++ signal :: after →
        signal.name?.isSome → ∃ visit span entry,
          (program.visit []).Reaches observed limit visit ∧
            visit.Announces observed span entry before signal) ∧
      ∀ (visit : Visit (List Signal)) span entry before (signal : Signal) name,
        visit.Announces observed span entry before signal → signal.name? = some name →
        ∃ callee arguments,
          visit.task = .expression (.call span callee arguments) ∧
            ∀ first rest, arguments = .plain first :: rest →
              first.addsTruth visit.scopes visit.current = false →
              visit.Names setting first before name := by
  intro observed
  refine ⟨fun before signal after split named => ?_, ?_⟩
  · have told : observed.Tells limit program.job [] := tells rfl limit program.job []
    obtain ⟨all, whole, traced⟩ := told
    have hears : (observed.ends limit program.job []).2.heard = setting.told limit program heard :=
      (setting.told_eq_signals limit program enters heard).symm
    obtain rfl : setting.told limit program heard = all := hears.symm.trans whole
    exact traced before signal after split (Signal.declaration?_of_name? named)
  · rintro visit span entry before signal name announces named
    obtain ⟨callee, arguments, task, -, announced, rfl⟩ := announces
    refine ⟨callee, arguments, task, ?_⟩
    rintro first rest rfl free
    have naming := observed.naming_of_announcement announced named
    exact setting.names_of_naming visit free rest naming

/-- A text and a sum of numbers. -/
def sumName : Expression :=
  .sum ⟨3, 16⟩ (.literal ⟨3, 6⟩ (.text "t")) (.parenthesized ⟨9, 16⟩
    (.sum ⟨10, 15⟩ (.literal ⟨10, 11⟩ (.number 1)) (.literal ⟨14, 15⟩ (.number 1))))

/-- A program that declares a test with that name. -/
def sumNamed : Program where
  statements := [.expression default
    (.call ⟨0, 17⟩ (.identifier default "it") [.plain sumName])]

/-- The test is heard of with the name that the expression denotes. -/
theorem names_right_or_flagged_sumNamed :
    let setting := ofText "it('t' + (1 + 1));"
    let site : CallSite := .frames [setting.file.frame ⟨0, 17⟩]
    setting.listener.Enters ∧
      setting.told activationLimit sumNamed [] =
        [] ++ .test { name := "t2", site, hasBody := false } :: [] ∧
      sumName.addsTruth Scopes.initial Scopes.file = false ∧
      ∃ value, sumName.Denotes (Scopes.initial.values Scopes.file) value ∧ "t2" = value.toText := by
  intro setting site
  have told : setting.told activationLimit sumNamed [] =
      [] ++ .test { name := "t2", site, hasBody := false } :: [] := by
    decide +kernel
  have free : sumName.addsTruth Scopes.initial Scopes.file = false := by decide +kernel
  obtain ⟨-, named⟩ := setting.names_right_or_flagged observer_enters activationLimit sumNamed []
  let call : Visit (List Signal) :=
    ⟨⟨.initial, []⟩, .expression (.call ⟨0, 17⟩ (.identifier default "it") [.plain sumName])⟩
  have announces : call.Announces setting ⟨0, 17⟩ (.test .plain) []
      (.test { name := "t2", site, hasBody := false }) :=
    ⟨_, _, rfl, rfl, by decide +kernel, by decide +kernel⟩
  obtain ⟨callee, arguments, task, right⟩ := named call _ _ _ _ "t2" announces rfl
  cases task
  refine ⟨observer_enters, told, free, ?_⟩
  cases right sumName [] rfl free with
  | right value _ denotes _ same => exact ⟨value, denotes, same⟩
  | flagged noticed => cases noticed

/-- The names of the tests of a text, if nothing is said of them. -/
def unflaggedNames (text : String) : Option (List String) :=
  (Program.parse? false text.toList).bind fun program =>
    let signals := (ofText text).signals activationLimit program
    if signals.any (fun signal => match signal with
        | .notice (.unknownName ..) => true
        | _ => false) then none
    else some (signals.filterMap Signal.name?)

/--
A truth value that is added to a number counts 0 or 1, but is taken for a text; and a
name that is spread is empty.  Nothing is said of either.
-/
theorem unflagged_names_wrong :
    unflaggedNames "it(true + 1);" = some ["true1"] ∧
      (∀ known, ∃ value, (Expression.sum default (.literal default (.boolean true))
          (.literal default (.number 1))).Denotes known value ∧ value.toText = "2") ∧
      unflaggedNames "it(...['a']);" = some [""] := by
  refine ⟨by decide +kernel, fun known => ?_, by decide +kernel⟩
  refine ⟨_, .sum default (.literal default _) (.literal default _), ?_⟩
  decide +kernel

end Setting

end TestInventory
