import VolumeImport.FileSystem.Lookup

/-!
The calls that an import makes on a file system, and those by which its tools change it. A call that fails
changes nothing.
-/

namespace VolumeImport.FileSystem

/-- What lies under a path, and where. A slash behind the path asks for a directory. -/
def locate (files : FileSystem) (path : Path) (followLast : Bool) :
    Except SystemError (Location × Node) :=
  match files.find path followLast path.endsInSlash with
  | .error error => .error error
  | .ok (.vacant ..) => .error (.call .noEntry)
  | .ok (.taken location node) => .ok (location, node)

def lstat (files : FileSystem) (path : Path) : Except SystemError Node :=
  (files.locate path false).map Prod.snd

def stat (files : FileSystem) (path : Path) : Except SystemError Node :=
  (files.locate path true).map Prod.snd

def isPresent (files : FileSystem) (path : Path) : Bool :=
  match files.stat path with
  | .ok _ => true
  | .error _ => false

def read (files : FileSystem) (path : Path) : Except SystemError Bytes :=
  match files.stat path with
  | .error error => .error error
  | .ok node =>
      if !grantsRead node.mode then .error (.call .permission)
      else
        match node with
        | .file _ content => .ok content
        | .directory _ => .error (.call .isDirectory)
        | .channel .socket _ => .error (.call .noDevice)
        -- nothing on a device or in a pipe concerns an import
        | _ => .ok []

def readText? (files : FileSystem) (path : Path) : Option String :=
  match files.read path with
  | .ok content => Utf8.decode? content
  | .error _ => none

def unlink (files : FileSystem) (path : Path) : Except SystemError FileSystem :=
  -- a link goes without what it leads to
  match files.locate path false with
  | .error error => .error error
  | .ok (location, node) =>
      if node.isDirectory then .error (.call .isDirectory) else .ok (files.erase location)

def discard (files : FileSystem) (path : Path) : FileSystem :=
  match files.unlink path with
  | .ok after => after
  | .error _ => files

def chmod (files : FileSystem) (path : Path) (mode : Nat) : Except SystemError FileSystem :=
  match files.locate path true with
  | .error error => .error error
  | .ok (location, node) =>
      match files.modeLocks.lookup location with
      | some errno => .error (.call errno)
      | none => .ok (files.put location (node.withMode mode))

/-- Writes a whole file, through links. An existing file keeps its permissions. -/
def write (files : FileSystem) (path : Path) (content : Bytes) : Except SystemError FileSystem :=
  match files.find path true path.endsInSlash with
  | .error error => .error error
  | .ok (.taken location node) =>
      if node.isDirectory then .error (.call .isDirectory)
      else if !grantsWrite node.mode then .error (.call .permission)
      else if node.isSocket then .error (.call .noDevice)
      else
        match node with
        | .file mode _ => .ok (files.put location (.file mode content))
        -- what is written to a device or a pipe leaves the tree as it is
        | _ => .ok files
  | .ok (.vacant location asDirectory) =>
      if asDirectory then .error (.call .isDirectory)
      else .ok (files.put location (.file fileMode content))

/-- The place for a new entry: nothing may lie there, not even a link. -/
def vacancy (files : FileSystem) (path : Path) : Except SystemError Location :=
  match files.find path false false with
  | .error error => .error error
  | .ok (.taken ..) => .error (.call .alreadyExists)
  | .ok (.vacant location _) => .ok location

def fileVacancy (files : FileSystem) (path : Path) : Except SystemError Location :=
  match files.find path false false with
  | .error error => .error error
  -- a path with a slash behind it names a directory, whatever lies there
  | .ok _ => if path.endsInSlash then .error (.call .isDirectory) else files.vacancy path

def makeDirectory (files : FileSystem) (path : Path) : Except SystemError FileSystem :=
  match files.vacancy path with
  | .error error => .error error
  | .ok location => .ok (files.put location (.directory directoryMode))

def makeLink (files : FileSystem) (path target : Path) : Except SystemError FileSystem :=
  if target.bytes.isEmpty then .error (.call .noEntry)
  else
    match files.fileVacancy path with
    | .error error => .error error
    | .ok location => .ok (files.put location (.link target))

def makeBlockDevice (files : FileSystem) (path : Path) (mode : Nat) :
    Except SystemError FileSystem :=
  match files.fileVacancy path with
  | .error error => .error error
  | .ok location => .ok (files.put location (.blockDevice mode))

end VolumeImport.FileSystem
