import VolumeImport.Json.Text

/-!
Writing JSON without blanks. Members stand in the order given; their values are written already.
-/

namespace VolumeImport.Json

def writeNull : List Char :=
  ['n', 'u', 'l', 'l']

def writeInteger (value : Int) : List Char :=
  (toString value).toList

def writeOptional {α : Type} (write : α → List Char) : Option α → List Char
  | none => writeNull
  | some value => write value

def writeMember (member : String × List Char) : List Char :=
  writeText member.1 ++ ':' :: member.2

def writeObject (members : List (String × List Char)) : List Char :=
  '\x7b' :: [','].intercalate (members.map writeMember) ++ ['\x7d']

end VolumeImport.Json
