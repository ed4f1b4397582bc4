import VolumeImport.Image.Cache
import VolumeImport.Image.Report
import VolumeImport.Image.Source
import VolumeImport.Size.Quantity

/-!
The operations that an import is made of, as values, so that engines and their stand-ins answer the same
ones.
-/

namespace VolumeImport

inductive Operation where
  | convert (source : Source) (destination : Path) (preallocate : Bool) (hint : CacheHint)
  | resize (image : Path) (size : Quantity) (preallocate : Bool)
  | inspect (source : Source)
  /-- Asks what an image is and holds it against the import policy. -/
  | validate (source : Source) (available : Int)
  | create (destination : Path) (size : Quantity) (preallocate : Bool)
  | rebase (backingFile delta : Path)
  /-- Writes the changes in an image into its backing file. -/
  | commit (image : Path)
  /-- Fills the head of a block device with zeros. -/
  | zeroDevice (destination : Path) (size : Quantity)
  deriving DecidableEq

/-- What an operation returns: what an image is, where that was asked, or why it failed. -/
abbrev Answer := Except ImportError (Option ImageReport)

end VolumeImport
