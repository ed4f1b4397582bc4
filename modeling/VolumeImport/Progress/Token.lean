import VolumeImport.Text.DecimalDigit

/-!
Progress tokens in the output of the image tool: `(NN.NN/100%)`, with one or two digits before the point.

The search takes decimal digits of any script, but only ASCII digits have a value. The leftmost token
decides: if it has other digits, the line has no value, whatever stands behind it.
-/

namespace VolumeImport.Progress

def tokenPattern : String := "\\((\\d?\\d\\.\\d\\d)/100%\\)"

def tokenEnd : List Char := "/100%)".toList

def fraction? : List Char → Option (List Char)
  | tenth :: hundredth :: rest =>
      if Text.isDecimalDigit tenth && Text.isDecimalDigit hundredth && tokenEnd.isPrefixOf rest then
        some [tenth, hundredth]
      else none
  | _ => none

def digits? : List Char → Option (List Char)
  | ones :: '.' :: rest =>
      if Text.isDecimalDigit ones then (fraction? rest).map (ones :: ·) else none
  | tens :: ones :: '.' :: rest =>
      if Text.isDecimalDigit tens && Text.isDecimalDigit ones then
        (fraction? rest).map fun fraction => tens :: ones :: fraction
      else none
  | _ => none

def leftmost? : List Char → Option (List Char)
  | [] => none
  | '(' :: rest =>
      match digits? rest with
      | some digits => some digits
      | none => leftmost? rest
  | _ :: rest => leftmost? rest

/-- The progress that a line reports, in hundredths of a percent. -/
def parse (line : String) : Option Nat := do
  let digits ← leftmost? line.toList
  -- digits of other scripts make a token, but no value
  if digits.all Text.isAsciiDigit then some (Text.decimalValue digits) else none

end VolumeImport.Progress
