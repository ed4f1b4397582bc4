/-!
What can be wrong with a JSON document.
-/

namespace VolumeImport.Json

inductive Fault where
  | malformed
  /-- The text is well formed so far, but a value is not what the reader needs. -/
  | mismatched
  | truncated
  deriving DecidableEq

def Fault.describe : Fault → String
  | .malformed => "malformed text"
  | .mismatched => "value of the wrong type"
  | .truncated => "unexpected end of text"

end VolumeImport.Json
