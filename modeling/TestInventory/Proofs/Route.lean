import Mathlib.Data.List.Basic
import TestInventory.Route

/-!
# Paths of tests and of their suites

The path of a test is the path of its suite, a dot and its name, less one dot at
the start or else one at the end.  The path of the suite is nowhere cut, so the
two agree unless the dot that is dropped at the start is the suite's own.  Where a dot
at the end is dropped, a name and the same name with a dot behind it have one path.
-/

namespace TestInventory

/-- A row of characters is the same with a character put behind or before it, if it has no other. -/
theorem append_singleton_eq_cons_iff (c : Char) (row : List Char) :
    row ++ [c] = c :: row ↔ ∀ other ∈ row, other = c := by
  induction row with
  | nil => simp
  | cons first rest ih =>
      rw [List.cons_append, List.cons.injEq, List.forall_mem_cons]
      constructor
      · rintro ⟨rfl, later⟩
        exact ⟨rfl, ih.mp later⟩
      · rintro ⟨rfl, later⟩
        exact ⟨rfl, ih.mpr later⟩

namespace Route

/-- Whether an entry is a suite's path, a dot and a name, less one dot at the end at most. -/
def Extends (entry suite name : String) : Prop :=
  entry = suite ++ "." ++ name ∨ entry ++ "." = suite ++ "." ++ name

instance (entry suite name : String) : Decidable (Extends entry suite name) :=
  inferInstanceAs (Decidable (_ ∨ _))

/-- Whether a path begins with a character other than a dot; the empty path does not. -/
def beginsPlain (path : String) : Bool := path.toList.head?.any (· ≠ '.')

/-! ## The dot at the end -/

/-- A row of characters without a dot at its end. -/
def chopDot (row : List Char) : List Char := if row.getLast? = some '.' then row.dropLast else row

theorem chopDot_of_dotted {row : List Char} (dotted : row.getLast? = some '.') :
    chopDot row ++ ['.'] = row := by
  rw [chopDot, if_pos dotted]
  exact List.dropLast_append_getLast? _ dotted

theorem chopDot_of_undotted {row : List Char} (undotted : row.getLast? ≠ some '.') :
    chopDot row = row := if_neg undotted

theorem chopDot_concat (row : List Char) : chopDot (row ++ ['.']) = row := by
  rw [chopDot, if_pos List.getLast?_concat, List.dropLast_concat]

theorem chopDot_append (first : List Char) {second : List Char} (nonempty : second ≠ []) :
    chopDot (first ++ second) = first ++ chopDot second := by
  unfold chopDot
  rw [List.getLast?_append_of_ne_nil first nonempty,
    List.dropLast_append_of_ne_nil nonempty]
  split <;> rfl

/-- Different rows are the same without the dot exactly if one is the other with a dot behind it. -/
theorem chopDot_eq_iff (first second : List Char) :
    chopDot first = chopDot second ↔
      first = second ∨ second.getLast? ≠ some '.' ∧ first = second ++ ['.'] ∨
        first.getLast? ≠ some '.' ∧ second = first ++ ['.'] := by
  constructor
  · intro same
    by_cases dotted : first.getLast? = some '.' <;> by_cases dotted' : second.getLast? = some '.'
    · left
      rw [← chopDot_of_dotted dotted, same, chopDot_of_dotted dotted']
    · refine .inr (.inl ⟨dotted', ?_⟩)
      rw [← chopDot_of_undotted dotted', ← same, chopDot_of_dotted dotted]
    · refine .inr (.inr ⟨dotted, ?_⟩)
      rw [← chopDot_of_undotted dotted, same, chopDot_of_dotted dotted']
    · left
      rw [← chopDot_of_undotted dotted, same, chopDot_of_undotted dotted']
  · rintro (rfl | ⟨undotted, rfl⟩ | ⟨undotted, rfl⟩)
    · rfl
    · rw [chopDot_concat, chopDot_of_undotted undotted]
    · rw [chopDot_concat, chopDot_of_undotted undotted]

/-! ## The path of a test -/

variable (route : Route) (name : String)

theorem toList_joined :
    (route.suitePath ++ "." ++ name).toList = route.suitePath.toList ++ '.' :: name.toList := by
  rw [String.toList_append, String.toList_append, List.append_assoc]
  rfl

/-- A dot at the start is dropped. -/
theorem leafPath_of_dot {rest : List Char}
    (begins : (route.suitePath ++ "." ++ name).toList = '.' :: rest) :
    (route.leafPath name).toList = rest := by
  simp only [leafPath, begins, String.toList_ofList]

/-- The joined path begins with a dot if that of the suite does not begin plainly. -/
theorem exists_joined_of_dotted (dotted : beginsPlain route.suitePath = false) :
    ∃ rest, (route.suitePath ++ "." ++ name).toList = '.' :: rest := by
  rw [toList_joined]
  unfold beginsPlain at dotted
  cases path : route.suitePath.toList with
  | nil => exact ⟨_, rfl⟩
  | cons first rest =>
      have dot : first = '.' := by simpa [path] using dotted
      exact ⟨_, by rw [dot, List.cons_append]⟩

/-- If the path of the suite begins plainly, it stays as it is, and a dot at the end is dropped. -/
theorem leafPath_of_plain (plain : beginsPlain route.suitePath = true) :
    (route.leafPath name).toList = chopDot (route.suitePath ++ "." ++ name).toList := by
  have joined := route.toList_joined name
  unfold beginsPlain at plain
  cases path : route.suitePath.toList with
  | nil => simp [path] at plain
  | cons first rest =>
      have noDot : first ≠ '.' := by simpa [path] using plain
      rw [path, List.cons_append] at joined
      simp only [leafPath, joined]
      split
      · next _ dotted => exact absurd (List.cons.inj dotted).1 noDot
      · rw [chopDot]
        split <;> exact String.toList_ofList

/-- Otherwise the path of a test lacks the first dot of its suite's path, or of the joint. -/
theorem dot_append_leafPath (dotted : beginsPlain route.suitePath = false) :
    "." ++ route.leafPath name = route.suitePath ++ "." ++ name := by
  obtain ⟨rest, begins⟩ := route.exists_joined_of_dotted name dotted
  rw [← String.toList_inj, String.toList_append, begins, leafPath_of_dot route name begins]
  rfl

theorem extends_of_plain (plain : beginsPlain route.suitePath = true) :
    Extends (route.leafPath name) route.suitePath name := by
  have cut := route.leafPath_of_plain name plain
  by_cases dotted : (route.suitePath ++ "." ++ name).toList.getLast? = some '.'
  · right
    rw [← String.toList_inj, String.toList_append, cut]
    exact chopDot_of_dotted dotted
  · left
    rw [← String.toList_inj, cut, chopDot_of_undotted dotted]

/--
The path of a test extends that of its suite exactly if the latter begins plainly,
or if there is nothing but dots in both.
-/
theorem extends_leafPath_iff :
    Extends (route.leafPath name) route.suitePath name ↔
      beginsPlain route.suitePath = true ∨
        ∀ c ∈ (route.suitePath ++ "." ++ name).toList, c = '.' := by
  cases begins : beginsPlain route.suitePath with
  | true => exact iff_of_true (route.extends_of_plain name begins) (.inl rfl)
  | false =>
      obtain ⟨rest, joined⟩ := route.exists_joined_of_dotted name begins
      have cut := leafPath_of_dot route name joined
      have shorter : rest ≠ '.' :: rest := fun same => List.cons_ne_self '.' rest same.symm
      rw [Extends, ← String.toList_inj, ← String.toList_inj, joined, String.toList_append, cut]
      simpa [shorter] using append_singleton_eq_cons_iff '.' rest

/-! ## Tests with the same path -/

/-- Whether a name is another one, neither empty nor with a dot at its end, and a dot. -/
structure AddsDot (longer name : String) : Prop where
  nonempty : name ≠ ""
  undotted : name.toList.getLast? ≠ some '.'
  eq : longer = name ++ "."

/-- Behind a dot, only an empty name ends in one that is not its own. -/
theorem addsDot_iff (longer name : String) :
    AddsDot longer name ↔
      ('.' :: name.toList).getLast? ≠ some '.' ∧
        '.' :: longer.toList = ('.' :: name.toList) ++ ['.'] := by
  have eq : '.' :: longer.toList = ('.' :: name.toList) ++ ['.'] ↔ longer = name ++ "." := by
    rw [List.cons_append, List.cons.injEq, ← String.toList_inj, String.toList_append]
    exact and_iff_right rfl
  rw [eq]
  constructor
  · rintro ⟨nonempty, undotted, rfl⟩
    refine ⟨?_, rfl⟩
    rwa [List.getLast?_cons_of_ne_nil (mt String.toList_eq_nil_iff.mp nonempty)]
  · rintro ⟨undotted, rfl⟩
    have nonempty : name ≠ "" := by
      rintro rfl
      exact undotted rfl
    refine ⟨nonempty, ?_, rfl⟩
    rwa [List.getLast?_cons_of_ne_nil (mt String.toList_eq_nil_iff.mp nonempty)] at undotted

theorem chopDot_joint_eq_iff (first second : String) :
    chopDot ('.' :: first.toList) = chopDot ('.' :: second.toList) ↔
      first = second ∨ AddsDot first second ∨ AddsDot second first := by
  have same : '.' :: first.toList = '.' :: second.toList ↔ first = second := by
    rw [List.cons.injEq, and_iff_right rfl, String.toList_inj]
  rw [chopDot_eq_iff, same, addsDot_iff, addsDot_iff]

/--
Two names give the same path if they are the same, and below a path that begins plainly
also if one of them is the other with a dot behind it.
-/
theorem leafPath_eq_leafPath_iff (first second : String) :
    route.leafPath first = route.leafPath second ↔
      first = second ∨
        beginsPlain route.suitePath = true ∧ (AddsDot first second ∨ AddsDot second first) := by
  cases begins : beginsPlain route.suitePath with
  | true =>
      have cut : ∀ name, (route.leafPath name).toList =
          route.suitePath.toList ++ chopDot ('.' :: name.toList) := by
        intro name
        rw [leafPath_of_plain route name begins, toList_joined,
          chopDot_append _ (List.cons_ne_nil '.' name.toList)]
      rw [← String.toList_inj, cut, cut, List.append_cancel_left_eq, chopDot_joint_eq_iff,
        and_iff_right rfl]
  | false =>
      simp only [Bool.false_eq_true, false_and, or_false]
      refine ⟨fun same => ?_, congrArg route.leafPath⟩
      have joined := congrArg ("." ++ ·) same
      simp only [dot_append_leafPath _ _ begins] at joined
      exact (String.append_right_inj (route.suitePath ++ ".")).mp joined

/-- Names are told apart by their paths exactly below a path that does not begin plainly. -/
theorem injective_leafPath_iff :
    Function.Injective route.leafPath ↔ beginsPlain route.suitePath = false := by
  rw [← Bool.not_eq_true]
  constructor
  · intro apart plain
    have same : route.leafPath "x." = route.leafPath "x" :=
      (route.leafPath_eq_leafPath_iff _ _).mpr (.inr ⟨plain, .inl ⟨by decide, by decide, rfl⟩⟩)
    exact absurd (apart same) (by decide)
  · intro dotted first second same
    exact ((route.leafPath_eq_leafPath_iff _ _).mp same).resolve_right fun merged =>
      dotted merged.1

theorem suitePath_eq_empty_iff :
    route.suitePath = "" ↔ route.segments = [] ∨ route.segments = [""] := by
  rw [← String.toList_eq_nil_iff, suitePath, String.toList_intercalate]
  cases route.segments with
  | nil => simp
  | cons first rest =>
      cases rest with
      | nil => simp
      | cons second rest => simp [List.intercalate_cons_cons]

/-- A test is named by itself exactly outside all suites or in a single one without a name. -/
theorem leafPath_eq_self_iff :
    (∀ name, route.leafPath name = name) ↔ route.segments = [] ∨ route.segments = [""] := by
  rw [← suitePath_eq_empty_iff]
  constructor
  · intro self
    cases begins : beginsPlain route.suitePath with
    | true =>
        have cut := congrArg List.length (route.leafPath_of_plain "x" begins)
        rw [self "x", toList_joined, chopDot_append _ (List.cons_ne_nil '.' "x".toList)] at cut
        simp [chopDot] at cut
    | false =>
        have cut := route.dot_append_leafPath "x" begins
        rw [self "x", String.append_left_inj] at cut
        exact (String.append_left_inj ".").mp (cut.symm.trans String.empty_append.symm)
  · intro empty name
    have cut := route.dot_append_leafPath name (by rw [empty]; rfl)
    rw [empty, String.empty_append] at cut
    exact (String.append_right_inj ".").mp cut

end Route

end TestInventory
