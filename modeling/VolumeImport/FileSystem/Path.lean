import VolumeImport.Text.Cut
import VolumeImport.Text.Utf8

/-!
Paths: byte strings, cut into names at the slashes. The empty path is a path too, though nothing is found
under it.
-/

namespace VolumeImport

abbrev Name := Bytes

structure Path where
  bytes : Bytes
  deriving DecidableEq

namespace Path

def slash : UInt8 := 0x2F

def ofText (text : String) : Path :=
  ⟨Utf8.encode text⟩

/-- The path as text; bytes that are no UTF-8 are replaced. -/
def text (path : Path) : String :=
  Utf8.decodeLossy path.bytes

def text? (path : Path) : Option String :=
  Utf8.decode? path.bytes

def names (path : Path) : List Name :=
  Text.fields (· = slash) path.bytes

def isAbsolute (path : Path) : Bool :=
  path.bytes.head? = some slash

def endsInSlash (path : Path) : Bool :=
  path.bytes.getLast? = some slash

def hasNul (path : Path) : Bool :=
  path.bytes.contains 0

end Path

end VolumeImport
