import VolumeImport.Text.Colour
import VolumeImport.Text.Cut
import VolumeImport.Text.Utf8

/-!
Lines of tool output. A line ends at a line feed or a carriage return, since the image tool draws its
progress over and over on one line of the terminal. What stands here is the plain rule on a whole output;
how the lines are found while the output arrives is the collector's affair.
-/

namespace VolumeImport.Output

def isLineEnd (byte : UInt8) : Bool :=
  byte = 0x0A || byte = 0x0D

def lineText (line : Bytes) : String :=
  String.ofList (Text.stripColour (Utf8.decodeLossy line).toList)

def lines (output : Bytes) : List String :=
  (Text.fields isLineEnd output).map lineText

end VolumeImport.Output
