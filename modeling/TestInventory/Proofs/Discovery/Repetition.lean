import TestInventory.Proofs.Discovery.Replay
import TestInventory.Proofs.Recording.Repetition

/-!
# Files that are loaded again

What a file declares is a script, whoever listens, so a run over files plays one
script after another.  A run that loads all its files twice has the inventory of a
run that loads them once.
-/

namespace TestInventory

namespace Loader

variable (loader : Loader)

/-- What the observer writes down of a file is what it hears of a script. -/
theorem exists_heard (path : String) : ∃ script : Script, loader.signals path = script.signals := by
  obtain ⟨script, plays⟩ := loader.exists_script (form path) path
  exact ⟨script, congrArg Prod.snd (plays _ Signal.observer_enters.neverPasses [])⟩

/-- What is heard of files is what is heard of scripts. -/
theorem exists_scripts (paths : List String) :
    ∃ scripts : List Script, paths.flatMap loader.signals = scripts.flatMap Script.signals := by
  induction paths with
  | nil => exact ⟨[], rfl⟩
  | cons path paths ih =>
      obtain ⟨script, here⟩ := loader.exists_heard path
      obtain ⟨scripts, later⟩ := ih
      exact ⟨script :: scripts, by rw [List.flatMap_cons, List.flatMap_cons, here, later]⟩

end Loader

namespace Discovery

/--
Repetition changes no inventory.  Scripts that are all played once more leave all of
a recorder but its journal as it was; and a run that loads files, and then loads them
all again, succeeds if the first round does, with the inventory of the first round
and twice as many files loaded.
-/
theorem inventory_of_repetition (resolver : Resolver) :
    (∀ earlier scripts : List Script,
      let once := (({ resolver } : Recorder).playAll earlier).playAll scripts
      let twice := once.playAll scripts
      twice = { once with journal := twice.journal }) ∧
    ∀ (loader : Loader) (paths : List String),
      ((start resolver).loadFiles loader paths).1 = .ok () →
        let once := (start resolver).loadFiles loader paths
        let twice := (start resolver).loadFiles loader (paths ++ paths)
        twice.1 = .ok () ∧ twice.2.finish = once.2.finish ∧
          twice.2.filesLoaded = 2 * once.2.filesLoaded := by
  refine ⟨Recorder.playAll_again resolver, fun loader paths ended => ?_⟩
  have loads := ((start resolver).loadFiles_ok_iff loader paths).mp ended
  have loadsTwice : ∀ path ∈ paths ++ paths, loader.Loads path := by
    intro path member
    rcases List.mem_append.mp member with first | second
    · exact loads path first
    · exact loads path second
  refine ⟨((start resolver).loadFiles_ok_iff loader _).mpr loadsTwice, ?_, ?_⟩
  · obtain ⟨scripts, heard⟩ := loader.exists_scripts paths
    have again := Recorder.playAll_again resolver [] scripts
    simp only [Recorder.playAll_eq_replay, List.flatMap_nil, ← heard] at again
    rw [loadFiles_eq_replay _ _ _ loads, loadFiles_eq_replay _ _ _ loadsTwice,
      List.flatMap_append, Recorder.replay, Recorder.listener.replay_append]
    exact congrArg (·.assembler.finish) again
  · rw [loadFiles_eq_replay _ _ _ loads, loadFiles_eq_replay _ _ _ loadsTwice]
    show 0 + (paths ++ paths).length = 2 * (0 + paths.length)
    rw [List.length_append]
    omega

/-- A file in which a name is declared as a test and then as a suite. -/
def mergingFile : Loader where
  files := .folder [("a.js", .file "it('s'); describe('s', () => it('a'));".toUTF8)]
  directory := "/"

/-- Loaded twice, it leaves the inventory that it leaves when loaded once. -/
theorem inventory_of_repetition_mergingFile :
    ((start .absolute).loadFiles mergingFile ["a.js"]).1 = .ok () ∧
      ((start .absolute).loadFiles mergingFile ["a.js"]).2.finish.tests = ["s", "s.a"] ∧
      ((start .absolute).loadFiles mergingFile (["a.js"] ++ ["a.js"])).2.finish =
        ((start .absolute).loadFiles mergingFile ["a.js"]).2.finish := by
  have ended : ((start .absolute).loadFiles mergingFile ["a.js"]).1 = .ok () := by
    decide +kernel
  have tests : ((start .absolute).loadFiles mergingFile ["a.js"]).2.finish.tests =
      ["s", "s.a"] := by
    decide +kernel
  obtain ⟨-, same, -⟩ := (inventory_of_repetition .absolute).2 mergingFile ["a.js"] ended
  exact ⟨ended, tests, same⟩

end Discovery

end TestInventory
