import VolumeImport.FileSystem.Calls

/-!
File systems to work on: a host with next to nothing on it, and an empty working directory that is filled
entry by entry.
-/

namespace VolumeImport.Double

def fixtureOwner : String := "import-job-1"

inductive FixtureEntry where
  | file (path : Path) (content : Bytes)
  | directory (path : Path)
  | link (path target : Path)
  | blockDevice (path : Path)
  deriving DecidableEq

def fixtureDirectory : Location :=
  [".volume-import", "work"].map Utf8.encode

def statusFile : Location :=
  ["proc", "self", "status"].map Utf8.encode

def bareHost : FileSystem :=
  let directory := Node.directory FileSystem.directoryMode
  (((FileSystem.empty fixtureDirectory).put (statusFile.take 1) directory).put
    (statusFile.take 2) directory).put statusFile (.file 0o444 [])

def deviceMode : Nat := 0o600

def FixtureEntry.make (hasDevices : Bool) (files : FileSystem) :
    FixtureEntry → Except SystemError FileSystem
  | .file path content => files.write path content
  | .directory path => files.makeDirectory path
  | .link path target => files.makeLink path target
  | .blockDevice path =>
      if hasDevices then files.makeBlockDevice path deviceMode else .error (.call .permission)

def fixture (hasDevices : Bool) (entries : List FixtureEntry) : Except SystemError FileSystem :=
  entries.foldlM (FixtureEntry.make hasDevices) bareHost

end VolumeImport.Double
