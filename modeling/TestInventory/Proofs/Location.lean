import TestInventory.Discovery
import TestInventory.Proofs.Bracket
import TestInventory.Proofs.Site.Relative
import TestInventory.Proofs.Source.Position

/-!
# Where declarations are reported

A frame of a file gives the line and the column of one of its offsets.  At an absolute
path it is never taken for a frame of the host, so a call site that begins with it has
the line of that frame and the reported name of the file.
-/

namespace TestInventory

/-- Whether a frame gives the name of a file and the line and column of one of its offsets. -/
structure SourceFile.Marks (file : SourceFile) (frame : Frame) (offset : Nat) : Prop where
  named : frame.file = file.frameFile
  line : frame.line = 1 + Source.feedsBefore file.text offset
  column : ∀ before rest, file.text = before ++ rest → Text.byteLength before = offset →
    frame.column = 1 + (before.reverse.takeWhile (· ≠ '\n')).length

theorem SourceFile.marks_frame (file : SourceFile) (span : Source.Span) :
    file.Marks (file.frame span) span.start where
  named := rfl
  line := Source.Position.line_ofOffset ..
  column before rest text offset := by
    have column := Source.Position.column_ofOffset before rest
    rw [← text, offset] at column
    exact column

/-! ## Files at absolute paths -/

/-- A file at an absolute path is named by the path or by its URL in call sites. -/
structure SourceFile.AtAbsolute (file : SourceFile) : Prop where
  absolute : Path.isAbsolute file.path = true
  named : file.frameFile = file.path ∨ file.frameFile = "file://" ++ file.path

theorem Loader.sourceFile_atAbsolute (loader : Loader) {path : String}
    (absolute : Path.isAbsolute (loader.wholePath path) = true) (text : String) :
    (loader.sourceFile path text).AtAbsolute where
  absolute := absolute
  named := by
    unfold sourceFile sourceFileAs
    cases form path with
    | immediate => exact .inl rfl
    | deferred => exact .inr rfl

namespace Resolver

/-- A call site that begins with a frame of a file is resolved to the line of that frame. -/
theorem resolve_frames {file : SourceFile} (known : file.AtAbsolute) (resolver : Resolver)
    (span : Source.Span) (rest : List Frame) :
    resolver.resolve (.frames (file.frame span :: rest)) =
      ⟨resolver.relativize file.path, 1 + Source.feedsBefore file.text span.start⟩ := by
  have line := (file.marks_frame span).line
  have positive : 0 < (file.frame span).line := by
    rw [line]
    exact Nat.lt_of_lt_of_le Nat.one_pos (Nat.le_add_right ..)
  have points : Points (.frames (file.frame span :: rest)) file.path (file.frame span).line :=
    points_of_frame known.absolute known.named rest
  rw [resolve_of_points known.absolute resolver points positive, line]

end Resolver

/-! ## What stays of a recorder -/

namespace Recorder

/-- The route of a recorder is as deep as the suites are that it has heard of and not left. -/
theorem depth_replay {recorder : Recorder} (opened : List SuiteCall)
    (depth : recorder.route.depth = opened.length) (signals : List Signal) :
    (recorder.replay signals).route.depth = (Signal.openAfter opened signals).length := by
  induction signals generalizing recorder opened with
  | nil => exact depth
  | cons signal rest ih =>
      refine ih (signal.opening opened) ?_
      cases signal with
      | suite call => exact List.length_append.trans (congrArg (· + 1) depth)
      | leave call outcome =>
          exact List.length_dropLast.trans ((congrArg (· - 1) depth).trans List.length_tail.symm)
      | test => exact depth
      | hook => exact depth
      | notice => exact depth

end Recorder

end TestInventory
