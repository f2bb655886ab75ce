import TestInventory.Proofs.Recording.Matching
import TestInventory.Proofs.Recording.OpenSuites
import TestInventory.Proofs.Recording.Paths

/-!
# Recordings that repeat themselves

Declarations that are all made a second time, in the same order, change nothing:
the last declaration at each path is the same again, and every name and every
dotted path was seen before.
-/

namespace TestInventory

/-! ## Declarations made again -/

namespace Declaration

variable (made again : List Declaration)

/-- Of the declarations at a path the later ones count. -/
theorem lastAt?_append (path : List String) :
    lastAt? (made ++ again) path = (lastAt? again path).or (lastAt? made path) := by
  rw [lastAt?, List.filter_append, List.getLast?_append, Option.map_or]
  rfl

theorem lastAt?_again (path : List String) :
    lastAt? (made ++ again ++ again) path = lastAt? (made ++ again) path := by
  rw [lastAt?_append (made ++ again), lastAt?_append, ← Option.or_assoc, Option.or_self]

theorem namesUnder_again (route : List String) :
    namesUnder (made ++ again ++ again) route = namesUnder (made ++ again) route := by
  simp only [namesUnder, List.filter_append, List.map_append, eraseDups_again]

theorem contributed_again (which : Kind → Bool) (entry : Declaration → String) :
    contributed which entry (made ++ again ++ again) = contributed which entry (made ++ again) := by
  simp only [contributed, List.filter_append, List.map_append, eraseDups_again]

end Declaration

namespace Recorder

variable {recorder : Recorder} {made : List Declaration}

/-- No name stands twice on a level of a recorded tree. -/
theorem Agrees.distinct (agrees : recorder.Agrees made) : recorder.assembler.tree.Distinct := by
  intro path
  rw [agrees.names_eq]
  exact nodup_eraseDups _

/-- A recorder that hears once more what leaves its route unchanged only adds to its journal. -/
theorem replay_again (agrees : recorder.Agrees made) (lists : recorder.Lists made)
    {signals : List Signal}
    (complete : (recorder.replay signals).route.segments = recorder.route.segments) :
    let once := recorder.replay signals
    let twice := once.replay signals
    twice = { once with journal := twice.journal } := by
  intro once twice
  have resolver : once.resolver = recorder.resolver := recorder.replay_resolver signals
  let declared := declarations recorder.resolver recorder.route.segments signals
  have agreesOnce : once.Agrees (made ++ declared) := agrees.replay signals
  have listsOnce : once.Lists (made ++ declared) := lists.replay signals
  have agreesTwice : twice.Agrees (made ++ declared ++ declared) := by
    have again := agreesOnce.replay signals
    rwa [resolver, complete] at again
  have listsTwice : twice.Lists (made ++ declared ++ declared) := by
    have again := listsOnce.replay signals
    rwa [resolver, complete] at again
  have tree : twice.assembler.tree = once.assembler.tree := by
    refine agreesTwice.distinct.eq_of_matches agreesOnce.distinct ⟨fun path => ?_, fun path => ?_⟩
    · rw [agreesTwice.names_eq, agreesOnce.names_eq, Declaration.namesUnder_again]
    · rw [agreesTwice.lookup_eq, agreesOnce.lookup_eq, Declaration.lastAt?_again]
  have suites : twice.assembler.suites = once.assembler.suites := by
    rw [listsTwice.suites_eq, listsOnce.suites_eq]
    exact Declaration.contributed_again ..
  have tests : twice.assembler.tests = once.assembler.tests := by
    rw [listsTwice.tests_eq, listsOnce.tests_eq]
    exact Declaration.contributed_again ..
  have route : twice.route.segments = once.route.segments := by
    rw [segments_replay, complete, ← segments_replay]
    exact complete
  have resolver' : twice.resolver = once.resolver := once.replay_resolver signals
  show (⟨twice.resolver, ⟨twice.route.segments⟩, ⟨twice.assembler.tree,
      twice.assembler.suites, twice.assembler.tests⟩, twice.journal⟩ : Recorder) =
    ⟨once.resolver, ⟨once.route.segments⟩, ⟨once.assembler.tree, once.assembler.suites,
      once.assembler.tests⟩, twice.journal⟩
  rw [resolver', route, tree, suites, tests]

/-- Scripts that are all played once more only add to the journal, whatever was played before. -/
theorem playAll_again (resolver : Resolver) (earlier scripts : List Script) :
    let once := (({ resolver } : Recorder).playAll earlier).playAll scripts
    let twice := once.playAll scripts
    twice = { once with journal := twice.journal } := by
  let heard := earlier.flatMap Script.signals
  let told := scripts.flatMap Script.signals
  have agrees := (Agrees.start resolver).replay heard
  have lists := (Lists.start resolver).replay heard
  have closed : (({ resolver } : Recorder).replay (heard ++ told)).route.segments =
      (({ resolver } : Recorder).replay heard).route.segments := by
    rw [segments_eq_namesOf, segments_eq_namesOf, Signal.openAfter_append,
      Script.openAfter_flatMap scripts]
  rw [replay, listener.replay_append] at closed
  simp only [playAll_eq_replay]
  exact replay_again agrees lists closed

end Recorder

end TestInventory
