import VolumeImport.Failure.Tool
import VolumeImport.Json.Fault
import VolumeImport.Text.Quoted

/-!
How an import operation can fail, sorted by what the caller can do about it: refuse the input, ask for a
larger volume, or report a failed tool or file system with the operation it happened in.
-/

namespace VolumeImport

inductive ImportError where
  | unsupportedScheme (scheme : String)
  | unsupportedFormat (format image : String)
  | invalidBackingFile (image backingFile : String)
  | largerVolumeRequired (virtualSize available : Int)
  /-- The tool's description of an image cannot be read; `output` is all of it. -/
  | invalidImageInfo (image output : String) (fault : Json.Fault)
  | tool (context : String) (cause : ToolError)
  | io (context : String) (cause : SystemError)
  | invalidSize (text : String)
  | config (text : String)
  deriving DecidableEq

namespace ImportError

def message : ImportError → String
  | .unsupportedScheme scheme => s!"not valid schema {scheme}"
  | .unsupportedFormat format image => s!"Invalid format {format} for image {image}"
  | .invalidBackingFile image backingFile =>
      s!"Image {image} is invalid because it has invalid backing file {backingFile}"
  | .largerVolumeRequired virtualSize available =>
      s!"virtual image size {virtualSize} is larger than the reported available storage {available}. A larger volume is required"
  -- the name of the fault stands for the words of the reader
  | .invalidImageInfo image _ fault => s!"Invalid json for image {image}: {fault.describe}"
  | .tool context cause => s!"{context}: {cause.message}"
  | .io context cause => s!"{context}: {cause.message}"
  | .invalidSize text => s!"invalid size quantity {Text.quote text}"
  | .config text => s!"config: {text}"

def isLargerVolumeRequired : ImportError → Bool
  | .largerVolumeRequired .. => true
  | _ => false

def isResourceLimit : ImportError → Bool
  | .tool _ cause => cause.isLimitExceeded
  | _ => false

end ImportError

end VolumeImport
