import VolumeImport.FileSystem.Path
import VolumeImport.Image.Cache
import VolumeImport.Image.Source
import VolumeImport.Size.Quantity

/-!
The arguments of the image tool, one list for each of its subcommands. Their form is the tool's; paths go
in as text.
-/

namespace VolumeImport.Arguments

def jsonOutput : String := "--output=json"

def convert (mode : CacheMode) (source : Source) (destination : Path) : List String :=
  ["convert", "-t", mode.name, "-p", "-O", "raw", source.locator, destination.text]

def resize (image : Path) (size : Quantity) : List String :=
  ["resize", "-f", "raw", image.text, size.toolText]

def inspect (source : Source) : List String :=
  ["info", jsonOutput, source.locator]

def create (destination : Path) (size : Quantity) : List String :=
  ["create", "-f", "raw", destination.text, size.toolText]

/-- Points an image at another backing file without copying data. -/
def rebase (backingFile delta : Path) : List String :=
  ["rebase", "-p", "-u", "-F", "raw", "-b", backingFile.text, delta.text]

def commit (image : Path) : List String :=
  ["commit", "-p", image.text]

end VolumeImport.Arguments
