/-!
Colour codes in terminal output: an escape character, `[`, parameters, and a closing `m`.
-/

namespace VolumeImport.Text

mutual

def stripColour : List Char → List Char
  | [] => []
  | '\x1b' :: '[' :: rest => stripParameters rest
  -- whatever stands behind an escape character goes with it
  | '\x1b' :: _ :: rest => stripColour rest
  | ['\x1b'] => []
  | char :: rest => char :: stripColour rest

def stripParameters : List Char → List Char
  -- without a closing letter the sequence takes the rest of the line
  | [] => []
  | 'm' :: rest => stripColour rest
  | _ :: rest => stripParameters rest

end

end VolumeImport.Text
