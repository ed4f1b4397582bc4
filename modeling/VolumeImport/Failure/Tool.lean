import VolumeImport.Failure.System
import VolumeImport.Text.Blank
import VolumeImport.Text.Search

/-!
How a run of an outside tool can fail. A tool that ran into its limits is told apart from one that reported
a failure of its own, and both keep what the tool printed, so that a caller can look for a diagnosis in it.
-/

namespace VolumeImport

inductive ToolError where
  | notStarted (program : String) (cause : SystemError)
  | exited (program : String) (code : Int) (stdout stderr : String)
  | limitExceeded (program : String) (signal : Int) (stdout stderr : String)
  | killed (program : String) (signal : Int)
  | unreadable (program : String) (cause : SystemError)
  deriving DecidableEq

namespace ToolError

def program : ToolError → String
  | .notStarted program _ | .exited program .. | .limitExceeded program .. | .killed program _
  | .unreadable program _ => program

def message : ToolError → String
  | .notStarted program cause => s!"failed to spawn {program}: {cause.message}"
  | .exited program code _ stderr =>
      s!"{program} exited with status {code}: {String.ofList (Text.trim stderr.toList)}"
  | .limitExceeded program signal _ _ =>
      s!"{program} killed by signal {signal} after exceeding resource limits"
  | .killed program signal => s!"{program} terminated by signal {signal}"
  | .unreadable program cause => s!"{program}: {cause.message}"

def isLimitExceeded : ToolError → Bool
  | .limitExceeded .. => true
  | _ => false

def outputContains (error : ToolError) (needle : String) : Bool :=
  match error with
  | .exited _ _ stdout stderr | .limitExceeded _ _ stdout stderr =>
      Text.contains stdout needle || Text.contains stderr needle
  -- no other failure leaves any output
  | _ => false

end ToolError

end VolumeImport
