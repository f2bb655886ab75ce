import TestInventory.Proofs.Recording.Declarations

/-!
# Hooks beside suites and tests

A hook is recorded under a name of its own, but nothing keeps a suite or a test
from having that name.  Hooks stay apart from the suites and tests around them
exactly if none of these is named like a hook that is declared beside it; then no
declaration takes the place of one of the other sort.
-/

namespace TestInventory

/-- Whether declarations of this kind are hooks. -/
def Kind.isHook : Kind → Bool
  | .hook _ => true
  | _ => false

namespace Declaration

/-- Whether no suite or test has the node of a hook. -/
def HooksApart (made : List Declaration) : Prop :=
  ∀ hook ∈ made, ∀ other ∈ made, hook.record.kind.isHook = true →
    other.record.kind.isHook = false → hook.path ≠ other.path

/-- Whether no suite or test is named like a hook that is declared under the same suites. -/
def HookNamesFree (made : List Declaration) : Prop :=
  ∀ hook ∈ made, ∀ lifecycle, hook.record.kind = .hook lifecycle → ∀ other ∈ made,
    other.record.kind.isHook = false → other.route = hook.route →
      other.name ≠ lifecycle.nodeName

theorem path_eq_iff (first second : Declaration) :
    first.path = second.path ↔ first.route = second.route ∧ first.name = second.name := by
  constructor
  · intro same
    obtain ⟨route, name⟩ := List.append_inj' same rfl
    exact ⟨route, List.singleton_inj.mp name⟩
  · rintro ⟨route, name⟩
    rw [path, path, route, name]

/-- A hook is declared under the name of its node. -/
theorem name_of_hook {resolver : Resolver} {route : List String} {signals : List Signal}
    {declaration : Declaration} (member : declaration ∈ declarations resolver route signals)
    {lifecycle : Hook} (hook : declaration.record.kind = .hook lifecycle) :
    declaration.name = lifecycle.nodeName := by
  induction signals generalizing route with
  | nil => cases member
  | cons signal rest ih =>
      cases signal with
      | suite call =>
          rcases List.mem_cons.mp member with rfl | later
          · cases hook
          · exact ih later
      | leave call outcome => exact ih member
      | test call =>
          rcases List.mem_cons.mp member with rfl | later
          · cases hook
          · exact ih later
      | hook call =>
          rcases List.mem_cons.mp member with rfl | later
          · cases hook
            rfl
          · exact ih later
      | notice note => exact ih member

/-- Hooks stay apart exactly if their names are free. -/
theorem hooksApart_iff (resolver : Resolver) (route : List String) (signals : List Signal) :
    HooksApart (declarations resolver route signals) ↔
      HookNamesFree (declarations resolver route signals) := by
  constructor
  · intro apart hook member lifecycle kind other memberOther sort sameRoute sameName
    have isHook : hook.record.kind.isHook = true := by rw [kind, Kind.isHook]
    refine apart hook member other memberOther isHook sort ((path_eq_iff hook other).mpr ?_)
    exact ⟨sameRoute.symm, (name_of_hook member kind).trans sameName.symm⟩
  · intro free hook member other memberOther isHook sort same
    obtain ⟨route, name⟩ := (path_eq_iff hook other).mp same
    cases kind : hook.record.kind with
    | hook lifecycle =>
        refine free hook member lifecycle kind other memberOther sort route.symm ?_
        exact name.symm.trans (name_of_hook member kind)
    | suite variant => rw [kind] at isHook; cases isHook
    | test variant => rw [kind] at isHook; cases isHook

/-- Where hooks are apart, declarations at one path are all hooks, or all suites and tests. -/
theorem HooksApart.sort_eq {made : List Declaration} (apart : HooksApart made)
    {first second : Declaration} (memberFirst : first ∈ made) (memberSecond : second ∈ made)
    (same : first.path = second.path) :
    first.record.kind.isHook = second.record.kind.isHook := by
  cases sort : first.record.kind.isHook <;> cases sort' : second.record.kind.isHook
  · rfl
  · exact absurd same.symm (apart second memberSecond first memberFirst sort' sort)
  · exact absurd same (apart first memberFirst second memberSecond sort sort')
  · rfl

end Declaration

namespace Recorder

/--
Whether a recorder that hears a signal keeps what is recorded of the other sort: of
suites and tests if a hook is declared, of hooks if a suite or test is.
-/
def KeepsOthers (recorder : Recorder) (signal : Signal) : Prop :=
  ∀ path record, recorder.assembler.tree.lookup? path = some record →
    ∀ name new, signal.declared? recorder.resolver = some (name, new) →
      new.kind.isHook ≠ record.kind.isHook →
        (listener.hear signal recorder).assembler.tree.lookup? path = some record

theorem tree_hear (recorder : Recorder) {signal : Signal} {name : String} {new : Record}
    (declares : signal.declared? recorder.resolver = some (name, new)) :
    (listener.hear signal recorder).assembler.tree =
      recorder.assembler.tree.insert recorder.route.segments name new := by
  cases signal with
  | leave => cases declares
  | notice => cases declares
  | _ =>
      cases declares
      rfl

/-- The other sort is kept exactly if what stands at the declared path is of the same sort. -/
theorem Agrees.keepsOthers_iff {recorder : Recorder} {made : List Declaration}
    (agrees : recorder.Agrees made) {signal : Signal} {name : String} {new : Record}
    (declares : signal.declared? recorder.resolver = some (name, new)) :
    recorder.KeepsOthers signal ↔
      ∀ record, Declaration.lastAt? made (recorder.route.segments ++ [name]) = some record →
        record.kind.isHook = new.kind.isHook := by
  have lookup := Tree.lookup?_insert name new agrees.needsMarker_eq_false
  rw [← recorder.tree_hear declares] at lookup
  constructor
  · intro keeps record present
    by_contra differ
    rw [← agrees.lookup_eq] at present
    have kept := keeps _ record present name new declares (Ne.symm differ)
    rw [lookup, if_pos rfl] at kept
    exact differ (congrArg (·.kind.isHook) (Option.some.inj kept).symm)
  · intro same path record present name' new' declares' differ
    cases declares.symm.trans declares'
    have elsewhere : path ≠ recorder.route.segments ++ [name] := by
      rintro rfl
      rw [agrees.lookup_eq] at present
      exact differ (same record present).symm
    rw [lookup, if_neg elsewhere]
    exact present

variable (resolver : Resolver)

/-- A last signal that declares something adds one declaration. -/
theorem declarations_concat (before : List Signal) {signal : Signal} {name : String}
    {new : Record} (declares : signal.declared? resolver = some (name, new)) :
    declarations resolver [] (before ++ [signal]) = declarations resolver [] before ++
      [⟨(({ resolver } : Recorder).replay before).route.segments, name, new⟩] := by
  refine (declarations_append { resolver } before [signal]).trans ?_
  simp only [declarations, declares]

theorem declarations_concat_of_silent (before : List Signal) {signal : Signal}
    (silent : signal.declared? resolver = none) :
    declarations resolver [] (before ++ [signal]) = declarations resolver [] before := by
  refine (declarations_append { resolver } before [signal]).trans ?_
  simp only [declarations, silent, List.append_nil]

theorem declarations_subset {before signals : List Signal} (isPrefix : before <+: signals) :
    declarations resolver [] before ⊆ declarations resolver [] signals := by
  obtain ⟨rest, rfl⟩ := isPrefix
  rw [declarations_append { resolver } before rest]
  exact List.subset_append_left ..

/-- A recording keeps the other sort if what was declared last at the path is of the same sort. -/
theorem keepsOthers_replay_iff (before : List Signal) {signal : Signal} {name : String}
    {new : Record} (declares : signal.declared? resolver = some (name, new)) :
    let recorder := ({ resolver } : Recorder).replay before
    recorder.KeepsOthers signal ↔ ∀ record,
      Declaration.lastAt? (declarations resolver [] before) (recorder.route.segments ++ [name]) =
        some record → record.kind.isHook = new.kind.isHook :=
  ((Agrees.start resolver).replay before).keepsOthers_iff
    ((replay_resolver { resolver } before).symm ▸ declares)

theorem keepsOthers_of_silent (before : List Signal) {signal : Signal}
    (silent : signal.declared? resolver = none) :
    (({ resolver } : Recorder).replay before).KeepsOthers signal := by
  intro path record present name new declares
  rw [replay_resolver { resolver } before, silent] at declares
  cases declares

/-- If hooks are apart, no signal of a recording takes the place of the other sort. -/
theorem keepsOthers_of_hooksApart {signals before : List Signal} {signal : Signal}
    (apart : Declaration.HooksApart (declarations resolver [] signals))
    (isPrefix : before ++ [signal] <+: signals) :
    (({ resolver } : Recorder).replay before).KeepsOthers signal := by
  cases declares : signal.declared? resolver with
  | none => exact keepsOthers_of_silent resolver before declares
  | some declared =>
      obtain ⟨name, new⟩ := declared
      refine (keepsOthers_replay_iff resolver before declares).mpr fun record last => ?_
      obtain ⟨earlier, member, path, rfl⟩ := Declaration.mem_of_lastAt? last
      have known := declarations_subset resolver isPrefix
      rw [declarations_concat resolver before declares] at known
      exact apart.sort_eq (known (List.mem_append_left _ member))
        (known (List.mem_append_right _ (List.mem_singleton_self _))) path

/-- If no signal takes the place of the other sort, each path keeps the sort declared there. -/
theorem sort_of_keepsOthers {signals : List Signal}
    (keeps : ∀ before signal, before ++ [signal] <+: signals →
      (({ resolver } : Recorder).replay before).KeepsOthers signal) :
    ∀ declaration ∈ declarations resolver [] signals, ∃ record,
      Declaration.lastAt? (declarations resolver [] signals) declaration.path = some record ∧
        record.kind.isHook = declaration.record.kind.isHook := by
  induction signals using List.reverseRecOn with
  | nil => exact fun _ member => nomatch member
  | append_singleton before signal ih =>
      have earlier := ih fun first next isPrefix =>
        keeps first next (isPrefix.trans (List.prefix_append ..))
      cases declares : signal.declared? resolver with
      | none =>
          rw [declarations_concat_of_silent resolver before declares]
          exact earlier
      | some declared =>
          obtain ⟨name, new⟩ := declared
          have sorted := (keepsOthers_replay_iff resolver before declares).mp
            (keeps before signal List.prefix_rfl)
          rw [declarations_concat resolver before declares]
          intro declaration member
          rw [Declaration.lastAt?_concat]
          split
          · next here =>
              refine ⟨new, rfl, ?_⟩
              rcases List.mem_append.mp member with old | last
              · obtain ⟨record, last, sort⟩ := earlier declaration old
                rw [here] at last
                exact (sorted record last).symm.trans sort
              · rw [List.mem_singleton.mp last]
          · next elsewhere =>
              rcases List.mem_append.mp member with old | last
              · exact earlier declaration old
              · exact absurd (congrArg Declaration.path (List.mem_singleton.mp last)) elsewhere

/--
The node of a hook is never that of a suite or test exactly if no suite or test is
named like a hook declared under the same suites, and only then does no declaration
of a recording take the place of one of the other sort.
-/
theorem hooks_apart_iff (signals : List Signal) :
    let made := declarations resolver [] signals
    (Declaration.HooksApart made ↔ Declaration.HookNamesFree made) ∧
      ((∀ before signal, before ++ [signal] <+: signals →
          (({ resolver } : Recorder).replay before).KeepsOthers signal) ↔
        Declaration.HookNamesFree made) := by
  intro made
  have named := Declaration.hooksApart_iff resolver [] signals
  refine ⟨named, fun keeps => ?_, fun free before signal isPrefix => ?_⟩
  · refine named.mp fun hook member other memberOther isHook notHook same => ?_
    obtain ⟨record, last, sort⟩ := sort_of_keepsOthers resolver keeps hook member
    obtain ⟨record', last', sort'⟩ := sort_of_keepsOthers resolver keeps other memberOther
    rw [same] at last
    cases last.symm.trans last'
    rw [isHook] at sort
    rw [notHook, sort] at sort'
    cases sort'
  · exact keepsOthers_of_hooksApart resolver (named.mpr free) isPrefix

/-- A test takes the place of a hook, and a hook that of a test. -/
theorem hook_and_test_share_node :
    let hook : Signal := .hook { hook := .before }
    let test : Signal := .test { name := ":before" }
    ¬ Declaration.HooksApart (declarations .absolute [] [hook, test]) ∧
      ¬ (({} : Recorder).replay [hook]).KeepsOthers test ∧
      ¬ (({} : Recorder).replay [test]).KeepsOthers hook := by
  intro hook test
  refine ⟨fun apart => ?_, fun keeps => ?_, fun keeps => ?_⟩
  · exact apart ⟨[], ":before", .hook .before, .unknown⟩ (.head _)
      ⟨[], ":before", .test .plain, .unknown⟩ (.tail _ (.head _)) rfl rfl rfl
  · cases keeps [":before"] ⟨.hook .before, .unknown⟩ rfl ":before" ⟨.test .plain, .unknown⟩ rfl
      (by decide)
  · cases keeps [":before"] ⟨.test .plain, .unknown⟩ rfl ":before" ⟨.hook .before, .unknown⟩ rfl
      (by decide)

end Recorder

end TestInventory
