import VolumeImport.Json.Reader
import VolumeImport.Json.Writer

/-!
Image formats, by the names that the image tool reports. In documents a format is its name.
-/

namespace VolumeImport

inductive DiskFormat where
  | raw
  | qcow2
  | vmdk
  | vdi
  | vpc
  | vhdx
  | other (name : String)
  deriving DecidableEq

namespace DiskFormat

/-- The format of a name. Names are case sensitive. -/
def ofName (name : String) : DiskFormat :=
  if name = "raw" then .raw
  else if name = "qcow2" then .qcow2
  else if name = "vmdk" then .vmdk
  else if name = "vdi" then .vdi
  else if name = "vpc" then .vpc
  else if name = "vhdx" then .vhdx
  else .other name

def name : DiskFormat → String
  | .raw => "raw"
  | .qcow2 => "qcow2"
  | .vmdk => "vmdk"
  | .vdi => "vdi"
  | .vpc => "vpc"
  | .vhdx => "vhdx"
  | .other name => name

def supportedNames : List String :=
  ["raw", "qcow2", "vmdk", "vdi", "vpc", "vhdx"]

/-- Whether an import accepts the format. The name decides, also that of a format held as `other`. -/
def isSupported (format : DiskFormat) : Bool :=
  supportedNames.contains format.name

def isOther : DiskFormat → Bool
  | .other _ => true
  | _ => false

def read : Json.Reader DiskFormat := fun bytes => do
  let (name, rest) ← Json.readString bytes
  .ok (ofName name, rest)

def parse (bytes : Bytes) : Except Json.Fault DiskFormat :=
  Json.readDocument read bytes

def write (format : DiskFormat) : List Char :=
  Json.writeText format.name

end DiskFormat

end VolumeImport
