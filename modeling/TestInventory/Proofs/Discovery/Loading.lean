import TestInventory.Proofs.Discovery.Conduct

/-!
# Loading files one after another

How a file ends and what is heard of it depends on its loader alone, and not on what
was recorded before.  A run therefore loads the files before the first one that
fails, tries that one too, and leaves the others alone.
-/

namespace TestInventory

/-- The loading of one file, by its loader as it then is. -/
structure Attempt (L : Type) where
  loader : L
  path : String

namespace Attempt

variable {L : Type} [FileLoader L] (attempt : Attempt L)

/-- What is heard while the file is loaded. -/
def signals : List Signal := FileLoader.signals attempt.loader attempt.path

/-- Whether the file loads. -/
def loads : Bool := (FileLoader.outcome attempt.loader attempt.path).isOk

end Attempt

namespace FileLoader

variable {L : Type} [FileLoader L]

/-- The loader once it has brought in some files. -/
def afterAll (loader : L) (paths : List String) : L := paths.foldl FileLoader.after loader

/-- The attempts of a run: one for each file, or for those up to the first that fails. -/
def tried (loader : L) : List String → List (Attempt L)
  | [] => []
  | path :: paths =>
    ⟨loader, path⟩ :: match outcome loader path with
      | .ok () => tried (FileLoader.after loader path) paths
      | .error _ => []

/-- How a run ends: an error names the file that failed. -/
def ending (loader : L) : List String → Except DiscoveryError Unit
  | [] => .ok ()
  | path :: paths =>
    match outcome loader path with
    | .ok () => ending (FileLoader.after loader path) paths
    | .error error => .error (.load path error)

section Steady

variable {loader : L} (steady : ∀ path, FileLoader.after loader path = loader)
include steady

/-- A loader that keeps no account loads all files exactly if it loads each of them. -/
theorem ending_eq_ok_iff (paths : List String) :
    ending loader paths = .ok () ↔ ∀ path ∈ paths, Loads loader path := by
  induction paths with
  | nil => exact iff_of_true rfl nofun
  | cons path paths ih =>
      rw [List.forall_mem_cons, ending, Loads]
      cases outcome loader path with
      | ok =>
          dsimp only
          rw [steady, ih]
          exact (and_iff_right rfl).symm
      | error error => exact iff_of_false nofun fun loads => nomatch loads.1

theorem tried_of_loads {paths : List String} (load : ∀ path ∈ paths, Loads loader path) :
    tried loader paths = paths.map (Attempt.mk loader) := by
  induction paths with
  | nil => rfl
  | cons path paths ih =>
      obtain ⟨first, rest⟩ := List.forall_mem_cons.mp load
      rw [tried, show outcome loader path = .ok () from first, List.map_cons]
      dsimp only
      rw [steady, ih rest]

end Steady

end FileLoader

namespace Discovery

open FileLoader

variable {L : Type} [FileLoader L] (discovery : Discovery)

/-- Files in two stretches are loaded one stretch after the other, if the first loads. -/
theorem loadFiles_append (loader : L) (first second : List String) :
    discovery.loadFiles loader (first ++ second) =
      match discovery.loadFiles loader first with
      | (.ok (), loaded) => loaded.loadFiles (afterAll loader first) second
      | (.error error, failed) => (.error error, failed) := by
  induction first generalizing discovery loader with
  | nil => rfl
  | cons path first ih =>
      rw [List.cons_append, loadFiles, loadFiles]
      rcases discovery.loadFile loader path with ⟨_ | _, loaded⟩
      · rfl
      · exact ih loaded (FileLoader.after loader path)

/-- A file that loads is counted, and the error of one that fails names it. -/
theorem loadFile_cases (loader : L) (path : String) :
    (∃ loaded, discovery.loadFile loader path = (.ok (), loaded) ∧
      loaded.filesLoaded = discovery.filesLoaded + 1) ∨
    ∃ error failed, discovery.loadFile loader path = (.error (.load path error), failed) ∧
      failed.filesLoaded = discovery.filesLoaded := by
  unfold loadFile
  rcases FileLoader.load loader Recorder.listener path discovery.recorder with ⟨_ | _, recorder⟩
  · exact .inr ⟨_, _, rfl, rfl⟩
  · exact .inl ⟨_, rfl, rfl⟩

/--
Either all files of a run load, or one of them fails after all before it have loaded.
The run then ends with that one and its error, whatever the files behind it are.
-/
theorem loadFiles_cases (loader : L) (paths : List String) :
    (∃ loaded, discovery.loadFiles loader paths = (.ok (), loaded) ∧
      loaded.filesLoaded = discovery.filesLoaded + paths.length) ∨
    ∃ before path later loaded error failed, paths = before ++ path :: later ∧
      discovery.loadFiles loader before = (.ok (), loaded) ∧
      loaded.loadFile (afterAll loader before) path = (.error (.load path error), failed) ∧
      discovery.loadFiles loader paths = (.error (.load path error), failed) ∧
      failed.filesLoaded = discovery.filesLoaded + before.length := by
  induction paths generalizing discovery loader with
  | nil => exact .inl ⟨discovery, rfl, rfl⟩
  | cons path paths ih =>
      rcases discovery.loadFile_cases loader path with
        ⟨first, loads, counted⟩ | ⟨error, failed, fails, counted⟩
      · have next : ∀ paths, discovery.loadFiles loader (path :: paths) =
            first.loadFiles (FileLoader.after loader path) paths := fun paths => by
          rw [loadFiles, loads]
        rw [next]
        rcases ih first (FileLoader.after loader path) with
          ⟨loaded, all, count⟩ |
          ⟨before, last, later, loaded, error, failed, rfl, all, fails, ends, count⟩
        · refine .inl ⟨loaded, all, ?_⟩
          rw [count, counted, List.length_cons, Nat.add_assoc, Nat.add_comm 1]
        · refine .inr ⟨path :: before, last, later, loaded, error, failed, rfl, ?_, fails, ends, ?_⟩
          · rw [next, all]
          · rw [count, counted, List.length_cons, Nat.add_assoc, Nat.add_comm 1]
      · refine .inr ⟨[], path, paths, discovery, error, failed, rfl, rfl, fails, ?_, counted⟩
        rw [loadFiles, fails]

variable [LawfulFileLoader L]

/-- The loading of a file records what is heard of it, also if it fails. -/
theorem loadFile_eq (loader : L) (path : String) :
    discovery.loadFile loader path =
      ((outcome loader path).mapError (.load path),
        { recorder := discovery.recorder.replay (signals loader path)
          filesLoaded := discovery.filesLoaded + [Attempt.mk loader path].countP (·.loads) }) := by
  rw [List.countP_singleton, Attempt.loads]
  unfold loadFile
  rw [load_eq_replay loader Recorder.listener_enters]
  cases outcome loader path with
  | ok => rfl
  | error error => rfl

/-- A run records what is heard in its attempts and counts those in which a file loads. -/
theorem loadFiles_eq (loader : L) (paths : List String) :
    discovery.loadFiles loader paths =
      (ending loader paths,
        { recorder := discovery.recorder.replay ((tried loader paths).flatMap (·.signals))
          filesLoaded := discovery.filesLoaded + (tried loader paths).countP (·.loads) }) := by
  induction paths generalizing discovery loader with
  | nil => rfl
  | cons path paths ih =>
      rw [loadFiles, loadFile_eq, ending, tried, List.flatMap_cons, Recorder.replay,
        Recorder.replay, Listener.replay_append]
      cases outcome loader path with
      | ok =>
          refine (ih ..).trans ?_
          simp only [List.countP_cons, List.countP_nil, Nat.zero_add, Nat.add_assoc, Nat.add_comm]
          rfl
      | error error => rfl

end Discovery

end TestInventory
