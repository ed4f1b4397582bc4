import VolumeImport.Failure.Import
import VolumeImport.FileSystem.Path
import VolumeImport.Text.DecimalDigit

/-!
Where an image is read from: a path, or a locator with a scheme. Only the scheme is interpreted; the image
tool gets the locator as it stands.
-/

namespace VolumeImport

def exportScheme : String := "nbd+unix"

def fileScheme : String := "file"

structure Source where
  locator : String
  scheme : Option String
  deriving DecidableEq

namespace Source

def isAsciiLetter (char : Char) : Bool :=
  ('a' ≤ char && char ≤ 'z') || ('A' ≤ char && char ≤ 'Z')

def isSchemeRest (char : Char) : Bool :=
  isAsciiLetter char || Text.isAsciiDigit char || char == '+' || char == '-' || char == '.'

def isScheme : List Char → Bool
  | [] => false
  | first :: rest => isAsciiLetter first && rest.all isSchemeRest

def lowerAscii (char : Char) : Char :=
  if 'A' ≤ char ∧ char ≤ 'Z' then Char.ofNat (char.toNat + 32) else char

/-- The scheme of a locator in lower case: what stands before the first colon, if that has the form of a
scheme. -/
def scheme? (locator : List Char) : Option (List Char) :=
  let before := locator.takeWhile (· ≠ ':')
  if before.length < locator.length && isScheme before then some (before.map lowerAscii) else none

def parse (locator : String) : Source :=
  ⟨locator, (scheme? locator.toList).map String.ofList⟩

def localFile (path : Path) : Source :=
  ⟨path.text, none⟩

def isExport (source : Source) : Bool :=
  source.scheme = some exportScheme

def requireScheme (source : Source) (allowed : List String) : Except ImportError Unit :=
  match source.scheme with
  | none => .ok ()
  | some scheme =>
      if allowed.contains scheme then .ok () else .error (.unsupportedScheme scheme)

end Source

end VolumeImport
