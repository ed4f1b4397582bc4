import VolumeImport.Failure.Tool
import VolumeImport.FileSystem.Tree
import VolumeImport.Process.Limits

/-!
Running tools, seen from the engine: an invocation goes out, and what comes back is the tool's result, the
lines it printed meanwhile and the file system as it left it. Who runs the tools, and what else that one
remembers, is left open.
-/

namespace VolumeImport

structure Invocation where
  program : String
  arguments : List String
  /-- The limits to run under; the tool is not bounded without any. -/
  limits : Option Limits
  /-- Whether the lines of the regular output are wanted while the tool runs. -/
  hasSink : Bool
  deriving DecidableEq

structure Run where
  /-- The lines of its regular output, if they were wanted. -/
  lines : List String
  files : FileSystem
  outcome : Except ToolError Bytes

/-- One who runs tools; `ω` is what changes with it besides the file system. -/
abbrev Runner (ω : Type) := Invocation → FileSystem → ω → Run × ω

end VolumeImport
