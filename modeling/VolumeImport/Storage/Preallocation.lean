import VolumeImport.Failure.Tool

/-!
Preallocation by fallback. Storage differs in the ways of preallocation that it offers, so several methods
are tried in order. A method is passed over only when the tool reports that its mode is unsupported, which
shows in nothing but the text of its output; any other outcome is final.
-/

namespace VolumeImport.Preallocation

/-- What the image tool prints when the storage has no such preallocation mode. -/
def unsupportedText : String := "Unsupported preallocation mode"

inductive Placement where
  | behindSubcommand
  | atEnd
  deriving DecidableEq

abbrev Method := List String

def convertMethods : List Method :=
  [["-o", "preallocation=falloc"], ["-o", "preallocation=full"], ["-S", "0"]]

def resizeMethods : List Method :=
  [["--preallocation=falloc"], ["--preallocation=full"]]

def createMethods : List Method :=
  [["-o", "preallocation=falloc"], ["-o", "preallocation=full"]]

def withFlags (base : List String) (method : Method) (placement : Placement) : List String :=
  match placement, base with
  | .behindSubcommand, subcommand :: rest => subcommand :: (method ++ rest)
  -- without a subcommand there is nothing to stand behind
  | _, _ => base ++ method

def isUnsupported (error : ToolError) : Bool :=
  error.outputContains unsupportedText

/-- Runs a tool by one method after the other until a run is final. `run` may keep a state. -/
def tryInOrder {α σ : Type} (run : List String → σ → Except ToolError α × σ)
    (base : List String) (placement : Placement) :
    List Method → σ → Except ToolError α × σ
  -- no method at all is not the same as no run
  | [], state => run base state
  | [method], state => run (withFlags base method placement) state
  | method :: next :: rest, state =>
      match run (withFlags base method placement) state with
      | (.ok output, after) => (.ok output, after)
      | (.error error, after) =>
          if isUnsupported error then
            tryInOrder run base placement (next :: rest) after
          else (.error error, after)

end VolumeImport.Preallocation
