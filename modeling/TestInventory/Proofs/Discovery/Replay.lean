import TestInventory.Proofs.Discovery.Loading
import TestInventory.Proofs.Evaluation.Listening
import TestInventory.Proofs.Evaluation.Scripted

/-!
# Runs as replays

Each file has one sequence of signals, whoever listens.  What a run of discovery
records is the replay of the sequences of its files, one after another.
-/

namespace TestInventory

namespace Loader

variable (loader : Loader)

/-- What the observer writes down of a file that is loaded alone. -/
def signals (path : String) : List Signal := (loader.load Signal.observer path []).2

/-- Whether a file loads when it is loaded alone. -/
def Loads (path : String) : Prop := (loader.load Signal.observer path []).1 = .ok ()

section Files

-- Otherwise a check of equality may follow the links of a path.
attribute [local irreducible] FileTree.read

/-- What a file declares is a script, in whatever form it is brought in. -/
theorem exists_script (form : LoadForm) (path : String) :
    ∃ script : Script, ∀ {σ : Type} (listener : Listener σ), listener.NeverPasses → ∀ heard,
      loader.loadAs form listener path heard = script.play listener heard := by
  unfold loadAs
  cases loader.files.read (loader.wholePath path) with
  | error failure => exact ⟨.fail _, fun _ _ _ => rfl⟩
  | ok text =>
      let setting : Setting (List Signal) :=
        { file := loader.sourceFileAs form path text, interface := loader.interface,
          resolver := loader.resolver, listener := Signal.observer }
      show ∃ script : Script, ∀ {σ : Type} (listener : Listener σ), listener.NeverPasses →
        ∀ heard, (setting.withListener listener).load heard = script.play listener heard
      unfold Setting.load
      simp only [Setting.file_withListener]
      cases Program.parse? setting.file.isScript setting.file.text with
      | none => exact ⟨.fail _, fun _ _ _ => rfl⟩
      | some program =>
          obtain ⟨script, plays⟩ := setting.exists_script Setting.activationLimit program
          exact ⟨script, fun listener decided heard => plays _ listener decided heard⟩

end Files

/-- What a file declares is code that is given a scope. -/
instance : LawfulFileLoader Loader where
  exists_conduct loader path := by
    obtain ⟨script, plays⟩ := loader.exists_script (form path) path
    refine ⟨script.conduct, fun listener enters heard => ?_⟩
    rw [script.run_conduct]
    exact plays listener enters.neverPasses heard

end Loader

namespace Discovery

variable (discovery : Discovery) (loader : Loader)

section Runs

-- Otherwise a check of equality may load a file.
attribute [local irreducible] Loader.loadAs

/-- A run loads all its files exactly if each of them loads alone. -/
theorem loadFiles_ok_iff (paths : List String) :
    (discovery.loadFiles loader paths).1 = .ok () ↔ ∀ path ∈ paths, loader.Loads path := by
  rw [loadFiles_eq]
  exact FileLoader.ending_eq_ok_iff (fun _ => rfl) paths

/-- A run that loads all its files records their signals one after another. -/
theorem loadFiles_eq_replay (paths : List String) (loads : ∀ path ∈ paths, loader.Loads path) :
    (discovery.loadFiles loader paths).2 =
      { recorder := discovery.recorder.replay (paths.flatMap loader.signals)
        filesLoaded := discovery.filesLoaded + paths.length } := by
  have all : paths.countP (Attempt.loads ∘ Attempt.mk loader) = paths.length := by
    refine List.countP_eq_length.mpr fun path member => ?_
    show (FileLoader.outcome loader path).isOk = true
    rw [show FileLoader.outcome loader path = .ok () from loads path member]
    rfl
  rw [loadFiles_eq, FileLoader.tried_of_loads (fun _ => rfl) loads, List.flatMap_map,
    List.countP_map]
  exact congrArg (fun count => Discovery.mk _ (discovery.filesLoaded + count)) all

end Runs

/--
What the listeners of a program are told, and how the program ends, is the same
for all that enter every suite, whatever state they are in.  A run of discovery
loads all its files exactly if each loads alone, and its inventory is then that
of a new recorder to which the signals of the files are replayed in order.
-/
theorem inventory_eq_replay (resolver : Resolver) (paths : List String) :
    (∀ (σ τ : Type) (setting : Setting σ) (other : Listener τ), setting.listener.Enters →
      other.Enters → ∀ (limit : Nat) (program : Program) (heard : σ) (heard' : τ),
        setting.told limit program heard =
            (setting.withListener other).told limit program heard' ∧
          (setting.evaluate limit program heard).1 =
            ((setting.withListener other).evaluate limit program heard').1) ∧
      (((start resolver).loadFiles loader paths).1 = .ok () ↔
        ∀ path ∈ paths, loader.Loads path) ∧
      ((∀ path ∈ paths, loader.Loads path) →
        ((start resolver).loadFiles loader paths).2.finish =
          (({ resolver } : Recorder).replay (paths.flatMap loader.signals)).finish) := by
  refine ⟨?_, (start resolver).loadFiles_ok_iff loader paths, fun loads => ?_⟩
  · intro σ τ setting other enters enters' limit program heard heard'
    rw [setting.told_eq_signals limit program enters,
      (setting.withListener other).told_eq_signals limit program enters',
      setting.evaluate_eq_replay limit program enters,
      (setting.withListener other).evaluate_eq_replay limit program enters']
    exact ⟨rfl, rfl⟩
  · rw [loadFiles_eq_replay _ _ _ loads]
    rfl

/-- Two files; the second one nests a test in a suite. -/
def twoFiles : Loader where
  files := .folder
    [("a.js", .file "it('a');".toUTF8), ("b.js", .file "describe('s', () => it('b'));".toUTF8)]
  directory := "/"

/-- Both files load, and the run records what each of them declares. -/
theorem inventory_eq_replay_twoFiles :
    (∀ path ∈ ["a.js", "b.js"], twoFiles.Loads path) ∧
      twoFiles.signals "a.js" =
        [.test { name := "a"
                 site := .frames [{ file := "/a.js", line := 1, column := 1 }]
                 hasBody := false }] ∧
      ((start .absolute).loadFiles twoFiles ["a.js", "b.js"]).2.finish =
        (({ resolver := .absolute } : Recorder).replay
          (["a.js", "b.js"].flatMap twoFiles.signals)).finish := by
  have loads : ∀ path ∈ ["a.js", "b.js"], twoFiles.Loads path := by
    unfold Loader.Loads
    decide +kernel
  exact ⟨loads, by decide +kernel, (inventory_eq_replay twoFiles .absolute _).2.2 loads⟩

end Discovery

end TestInventory
