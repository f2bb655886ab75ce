import Mathlib.Data.List.Induction
import Mathlib.Data.List.Nodup
import TestInventory.Proofs.Recording.Insertion
import TestInventory.Proofs.Signal

/-!
# The tree that a recording leaves

A recording is a sequence of signals, and the declarations among them, with the
suites open around each, are read off without looking at the recorder.  They
determine the tree: a path holds what was declared last at exactly that path,
and the names of a level stand in the order of their first declarations.
-/

namespace TestInventory

/-! ## First-seen order -/

section FirstSeen

variable {α : Type} [DecidableEq α]

/-- A last element is kept unless it was seen before. -/
theorem eraseDups_concat (seen : List α) (last : α) :
    (seen ++ [last]).eraseDups =
      if last ∈ seen then seen.eraseDups else seen.eraseDups ++ [last] := by
  by_cases present : last ∈ seen
  · simp [List.eraseDups_append, List.removeAll, present]
  · simp [List.eraseDups_append, List.removeAll, List.eraseDups_cons, present]

theorem nodup_eraseDups (seen : List α) : seen.eraseDups.Nodup := by
  induction seen using List.reverseRecOn with
  | nil => exact List.nodup_nil
  | append_singleton seen last ih =>
      rw [eraseDups_concat]
      split
      · exact ih
      · next new =>
          rw [← List.concat_eq_append]
          exact ih.concat (mt List.mem_eraseDups.mp new)

/-- What is seen once more changes nothing. -/
theorem eraseDups_again (seen again : List α) :
    (seen ++ again ++ again).eraseDups = (seen ++ again).eraseDups := by
  have nothing : again.removeAll (seen ++ again) = [] :=
    List.filter_eq_nil_iff.mpr fun element member => by simp [member]
  calc (seen ++ again ++ again).eraseDups
      = (seen ++ again).eraseDups ++ (again.removeAll (seen ++ again)).eraseDups :=
        List.eraseDups_append
    _ = (seen ++ again).eraseDups := by rw [nothing, List.eraseDups_nil, List.append_nil]

end FirstSeen

/-! ## Declarations -/

/-- A declaration and the suites that were open when it was made. -/
structure Declaration where
  route : List String
  name : String
  record : Record
  deriving DecidableEq, Repr, Inhabited

namespace Declaration

/-- Where a declaration belongs in the tree. -/
def path (declaration : Declaration) : List String := declaration.route ++ [declaration.name]

/-- What was declared last at a path. -/
def lastAt? (made : List Declaration) (path : List String) : Option Record :=
  ((made.filter (·.path = path)).getLast?).map (·.record)

/-- The names declared under a route, each where it was declared first. -/
def namesUnder (made : List Declaration) (route : List String) : List String :=
  ((made.filter (·.route = route)).map (·.name)).eraseDups

theorem lastAt?_concat (made : List Declaration) (declaration : Declaration)
    (path : List String) :
    lastAt? (made ++ [declaration]) path =
      if path = declaration.path then some declaration.record else lastAt? made path := by
  by_cases same : path = declaration.path
  · simp [lastAt?, List.filter_append, same]
  · simp [lastAt?, List.filter_append, same, Ne.symm same]

theorem namesUnder_concat (made : List Declaration) (declaration : Declaration)
    (route : List String) :
    namesUnder (made ++ [declaration]) route =
      if route = declaration.route ∧ declaration.name ∉ namesUnder made route then
        namesUnder made route ++ [declaration.name]
      else namesUnder made route := by
  by_cases same : route = declaration.route
  · simp only [namesUnder, List.filter_append, List.map_append, same, true_and,
      List.mem_eraseDups, ite_not]
    simpa using eraseDups_concat ((made.filter (·.route = declaration.route)).map (·.name))
      declaration.name
  · simp [namesUnder, List.filter_append, same, Ne.symm same]

/-- Something is declared last at a path exactly when something is declared there. -/
theorem lastAt?_isSome_iff (made : List Declaration) (path : List String) :
    (lastAt? made path).isSome ↔ ∃ declaration ∈ made, declaration.path = path := by
  rw [lastAt?, Option.isSome_map, List.getLast?_isSome, ne_eq, List.filter_eq_nil_iff]
  simp

/-- What stands at a path was declared there. -/
theorem mem_of_lastAt? {made : List Declaration} {path : List String} {record : Record}
    (last : lastAt? made path = some record) :
    ∃ declaration ∈ made, declaration.path = path ∧ declaration.record = record := by
  obtain ⟨declaration, found, same⟩ := Option.map_eq_some_iff.mp last
  obtain ⟨member, here⟩ := List.mem_filter.mp (List.mem_of_getLast? found)
  exact ⟨declaration, member, of_decide_eq_true here, same⟩

end Declaration

namespace Signal

/-- What a signal declares: a name and what is recorded about it. -/
def declared? (resolver : Resolver) : Signal → Option (String × Record)
  | .suite call => some (call.name, ⟨.suite call.variant, resolver.resolve call.site⟩)
  | .test call => some (call.name, ⟨.test call.variant, resolver.resolve call.site⟩)
  | .hook call => some (call.hook.nodeName, ⟨.hook call.hook, resolver.resolve call.site⟩)
  | .leave .. => none
  | .notice _ => none

/-- The suites that are open after a signal. -/
def routeAfter (route : List String) : Signal → List String
  | .suite call => route ++ [call.name]
  | .leave .. => route.dropLast
  | _ => route

end Signal

/-- The declarations among signals that are heard while the suites of a route are open. -/
def declarations (resolver : Resolver) : (route : List String) → List Signal → List Declaration
  | _, [] => []
  | route, signal :: rest =>
    match signal.declared? resolver with
    | some (name, record) =>
      ⟨route, name, record⟩ :: declarations resolver (signal.routeAfter route) rest
    | none => declarations resolver (signal.routeAfter route) rest

namespace Recorder

/-- The open suites of a recorder follow what it hears. -/
theorem segments_hear (recorder : Recorder) (signal : Signal) :
    (listener.hear signal recorder).route.segments =
      signal.routeAfter recorder.route.segments := by
  cases signal <;> rfl

theorem segments_replay (recorder : Recorder) (signals : List Signal) :
    (recorder.replay signals).route.segments =
      signals.foldl Signal.routeAfter recorder.route.segments := by
  induction signals generalizing recorder with
  | nil => rfl
  | cons signal rest ih =>
      rw [List.foldl_cons, ← segments_hear]
      exact ih (listener.hear signal recorder)

/-- Later declarations are made while those suites are open that the earlier signals leave. -/
theorem declarations_append (recorder : Recorder) (first second : List Signal) :
    declarations recorder.resolver recorder.route.segments (first ++ second) =
      declarations recorder.resolver recorder.route.segments first ++
        declarations recorder.resolver (recorder.replay first).route.segments second := by
  induction first generalizing recorder with
  | nil => rfl
  | cons signal rest ih =>
      have later := ih (listener.hear signal recorder)
      rw [resolver_hear, segments_hear] at later
      simp only [List.cons_append, declarations, later]
      cases signal.declared? recorder.resolver <;> rfl

/--
What is kept by each signal, together with the declarations made so far, is kept
by all of a recording.
-/
theorem replay_induction {motive : Recorder → List Declaration → Prop}
    (suite : ∀ recorder made (call : SuiteCall), motive recorder made →
      motive (recorder.enter call) (made ++ [⟨recorder.route.segments, call.name,
        .suite call.variant, recorder.resolver.resolve call.site⟩]))
    (leave : ∀ recorder made, motive recorder made → motive recorder.leave made)
    (test : ∀ recorder made (call : TestCall), motive recorder made →
      motive (recorder.addTest call) (made ++ [⟨recorder.route.segments, call.name,
        .test call.variant, recorder.resolver.resolve call.site⟩]))
    (hook : ∀ recorder made (call : HookCall), motive recorder made →
      motive (recorder.addHook call) (made ++ [⟨recorder.route.segments, call.hook.nodeName,
        .hook call.hook, recorder.resolver.resolve call.site⟩]))
    (notice : ∀ recorder made note, motive recorder made →
      motive (listener.notice note recorder) made)
    {recorder : Recorder} {made : List Declaration} (holds : motive recorder made)
    (signals : List Signal) :
    motive (recorder.replay signals)
      (made ++ declarations recorder.resolver recorder.route.segments signals) := by
  induction signals generalizing recorder made with
  | nil =>
      rw [declarations, List.append_nil]
      exact holds
  | cons signal rest ih =>
      cases signal with
      | suite call =>
          have entered := ih (suite recorder made call holds)
          rw [List.append_assoc] at entered
          exact entered
      | leave call outcome => exact ih (leave recorder made holds)
      | test call =>
          have told := ih (test recorder made call holds)
          rw [List.append_assoc] at told
          exact told
      | hook call =>
          have told := ih (hook recorder made call holds)
          rw [List.append_assoc] at told
          exact told
      | notice note => exact ih (notice recorder made note holds)

end Recorder

/--
The recorder agrees with the declarations made so far.  Every suite that is open
is recorded as a suite; this is what keeps markers out of the tree.
-/
structure Recorder.Agrees (recorder : Recorder) (made : List Declaration) : Prop where
  lookup_eq : ∀ path, recorder.assembler.tree.lookup? path = Declaration.lastAt? made path
  names_eq : ∀ path,
    (recorder.assembler.tree.levelAt path).names = Declaration.namesUnder made path
  opened : ∀ path, path ≠ [] → path <+: recorder.route.segments →
    ∃ record, recorder.assembler.tree.lookup? path = some record ∧ record.kind.isSuite = true

namespace Recorder.Agrees

variable {recorder : Recorder} {made : List Declaration}

/-- Nothing has been declared to a new recorder. -/
theorem start (resolver : Resolver) : Agrees { resolver } [] where
  lookup_eq _ := Tree.lookup?_empty _
  names_eq path := by
    show (Tree.levelAt path .empty).names = []
    rw [Tree.levelAt_empty]
    rfl
  opened _ nonempty isPrefix := absurd (List.prefix_nil.mp isPrefix) nonempty

/-- No declaration puts a marker on the open route. -/
theorem needsMarker_eq_false (agrees : recorder.Agrees made) :
    recorder.assembler.tree.needsMarker recorder.route.segments = false :=
  Tree.needsMarker_eq_false agrees.opened

/-- Recording a declaration under the open suites adds it to those made. -/
theorem record (agrees : recorder.Agrees made) (name : String) (kind : Kind)
    (site : CallSite) :
    (recorder.record name kind site).Agrees
      (made ++ [⟨recorder.route.segments, name, kind, recorder.resolver.resolve site⟩]) := by
  have noMarker := agrees.needsMarker_eq_false
  refine ⟨fun path => ?_, fun path => ?_, fun path nonempty isPrefix => ?_⟩
  · rw [Declaration.lastAt?_concat, ← agrees.lookup_eq]
    exact Tree.lookup?_insert name _ noMarker path
  · rw [Declaration.namesUnder_concat, ← agrees.names_eq]
    exact Tree.names_levelAt_insert name _ noMarker path
  · obtain ⟨found, present, suite⟩ := agrees.opened path nonempty isPrefix
    refine ⟨found, ?_, suite⟩
    have shorter : path ≠ recorder.route.segments ++ [name] := by
      intro same
      have bound := List.IsPrefix.length_le isPrefix
      rw [same, List.length_append, List.length_singleton] at bound
      exact Nat.not_succ_le_self _ bound
    rw [← present]
    exact (Tree.lookup?_insert name _ noMarker path).trans (if_neg shorter)

/-- A recorded suite may be opened. -/
theorem enter (agrees : recorder.Agrees made) (call : SuiteCall) :
    (recorder.enter call).Agrees
      (made ++ [⟨recorder.route.segments, call.name, .suite call.variant,
        recorder.resolver.resolve call.site⟩]) := by
  have recorded := agrees.record call.name (.suite call.variant) call.site
  refine ⟨recorded.lookup_eq, recorded.names_eq, fun path nonempty isPrefix => ?_⟩
  rcases List.prefix_concat_iff.mp isPrefix with here | above
  · subst here
    refine ⟨⟨.suite call.variant, recorder.resolver.resolve call.site⟩, ?_, rfl⟩
    exact (Tree.lookup?_insert _ _ agrees.needsMarker_eq_false _).trans (if_pos rfl)
  · exact recorded.opened path nonempty above

/-- A test is recorded like any declaration. -/
theorem addTest (agrees : recorder.Agrees made) (call : TestCall) :
    (recorder.addTest call).Agrees
      (made ++ [⟨recorder.route.segments, call.name, .test call.variant,
        recorder.resolver.resolve call.site⟩]) :=
  have recorded := agrees.record call.name (.test call.variant) call.site
  ⟨recorded.lookup_eq, recorded.names_eq, recorded.opened⟩

/-- Closing the innermost suite leaves the tree alone, whether its body failed or not. -/
theorem leave (agrees : recorder.Agrees made) : recorder.leave.Agrees made :=
  ⟨agrees.lookup_eq, agrees.names_eq, fun path nonempty isPrefix =>
    agrees.opened path nonempty (isPrefix.trans (List.dropLast_prefix _))⟩

/-- A recorder that hears signals agrees with the declarations among them. -/
theorem replay (agrees : recorder.Agrees made) (signals : List Signal) :
    (recorder.replay signals).Agrees
      (made ++ declarations recorder.resolver recorder.route.segments signals) :=
  Recorder.replay_induction (fun _ _ call agrees => agrees.enter call)
    (fun _ _ agrees => agrees.leave) (fun _ _ call agrees => agrees.addTest call)
    (fun _ _ call agrees => agrees.record call.hook.nodeName (.hook call.hook) call.site)
    (fun _ _ _ agrees => ⟨agrees.lookup_eq, agrees.names_eq, agrees.opened⟩) agrees signals

end Recorder.Agrees

/--
The tree of a recording.  Playing scripts is hearing their signals, and for every
sequence of signals: a path is in the tree when something was declared at it, it
holds what was declared there last, the names of a level stand in the order of
their first declarations, and at no time does a declaration need a marker, since
every open suite is recorded as a suite.
-/
theorem Recorder.tree_of_declarations (resolver : Resolver) :
    (∀ scripts : List Script, ({ resolver } : Recorder).playAll scripts =
      ({ resolver } : Recorder).replay (scripts.flatMap Script.signals)) ∧
    ∀ signals : List Signal,
      let tree := (({ resolver } : Recorder).replay signals).assembler.tree
      let made := declarations resolver [] signals
      (∀ path, (tree.lookup? path).isSome ↔ ∃ declaration ∈ made, declaration.path = path) ∧
      (∀ path, tree.lookup? path = Declaration.lastAt? made path) ∧
      (∀ path, (tree.levelAt path).names = Declaration.namesUnder made path) ∧
      ∀ before, before <+: signals →
        let recorder := ({ resolver } : Recorder).replay before
        recorder.assembler.tree.needsMarker recorder.route.segments = false ∧
        ∀ path, path ≠ [] → path <+: recorder.route.segments →
          ∃ variant location,
            recorder.assembler.tree.lookup? path = some ⟨.suite variant, location⟩ := by
  refine ⟨Recorder.playAll_eq_replay _, fun signals => ?_⟩
  have agrees := (Agrees.start resolver).replay signals
  refine ⟨fun path => ?_, agrees.lookup_eq, agrees.names_eq, fun before _ => ?_⟩
  · rw [agrees.lookup_eq]
    exact Declaration.lastAt?_isSome_iff _ path
  · have agreed := (Agrees.start resolver).replay before
    refine ⟨agreed.needsMarker_eq_false, fun path nonempty isPrefix => ?_⟩
    obtain ⟨⟨kind, location⟩, present, suite⟩ := agreed.opened path nonempty isPrefix
    cases kind with
    | suite variant => exact ⟨variant, location, present⟩
    | test variant => cases suite
    | hook hook => cases suite

end TestInventory
