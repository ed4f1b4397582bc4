import VolumeImport.Engine.Options
import VolumeImport.Storage.Preallocation

/-!
Sample failures of the image tool.
-/

namespace VolumeImport.Double

def failedWith (message : String) : ToolError :=
  .exited Options.imageToolName 1 "" message

def unknownMode (mode : String) : ToolError :=
  failedWith s!"{Options.imageToolName}: {Preallocation.unsupportedText} '{mode}'"

def outOfTime : ToolError :=
  .limitExceeded Options.imageToolName 24 "" ""

end VolumeImport.Double
