import VolumeImport.FileSystem.Path

/-!
Sample documents of the kind that the image tool reports an image in.
-/

namespace VolumeImport.Double

/-- A report on an image with the given format, virtual size and backing file. The texts are put in as they
are, so they must need no escaping. -/
def sampleDocument (format : String) (virtualSize : Int) (backingFile : Option Path) : String :=
  let backing := match backingFile with
    | some path => ", \"backing-filename\": \"" ++ path.text ++ "\""
    | none => ""
  "\x7b\"virtual-size\": " ++ toString virtualSize
    ++ ", \"filename\": \"disk\", \"format\": \"" ++ format
    ++ "\", \"actual-size\": 4096, \"dirty-flag\": false" ++ backing ++ "\x7d"

end VolumeImport.Double
