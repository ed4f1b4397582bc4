import VolumeImport.FileSystem.Calls

/-!
Asking whether a destination takes unbuffered writes. The answer is found by opening the destination for
unbuffered access; a file that does not exist yet is created for the moment, and taken away again whatever
the outcome. Answers are not kept, because the destination can change between two calls.
-/

namespace VolumeImport

inductive ProbeKind where
  | file
  | blockDevice
  deriving DecidableEq

/-- One who answers whether a destination takes unbuffered writes; `ω` is what changes with it besides the
file system. -/
abbrev Prober (ω : Type) :=
  ProbeKind → Path → FileSystem → ω → (Except SystemError Bool × FileSystem) × ω

namespace Unbuffered

/-- How the storage meets an unbuffered open at a place. -/
structure Verdict where
  /-- Why the open fails, if it does. -/
  refusal : Option Errno
  /-- Whether an open that fails may have created its file all the same. -/
  leavesFile : Bool
  deriving DecidableEq

abbrev Storage := Location → Verdict

def openStorage : Storage := fun _ => ⟨none, false⟩

def answer (verdict : Verdict) : Except SystemError Bool :=
  match verdict.refusal with
  | none => .ok true
  -- storage without unbuffered access calls the open invalid
  | some errno => if errno = .invalid then .ok false else .error (.call errno)

def probeExisting (storage : Storage) (path : Path) (files : FileSystem) : Except SystemError Bool :=
  match files.locate path true with
  | .error error => .error error
  | .ok (location, _) => answer (storage location)

def probeFileMode : Nat := 0o600

def probeNew (storage : Storage) (path : Path) (files : FileSystem) :
    Except SystemError Bool × FileSystem :=
  match files.fileVacancy path with
  | .error error => (.error error, files)
  | .ok location =>
      let verdict := storage location
      -- an open that finds an entry after all has created none
      let isCreated :=
        verdict.refusal = none || (verdict.leavesFile && verdict.refusal ≠ some .alreadyExists)
      (answer verdict, if isCreated then files.put location (.file probeFileMode []) else files)

def probeFile (storage : Storage) (path : Path) (files : FileSystem) :
    Except SystemError Bool × FileSystem :=
  match files.lstat path with
  | .ok node =>
      -- what a dangling link leads to is the tool's to create
      if node.isLink && !files.isPresent path then (.ok false, files)
      else (probeExisting storage path files, files)
  | .error error =>
      if error.kind = .notFound then
        match probeNew storage path files with
        | (.ok isDirect, after) => (.ok isDirect, after.discard path)
        | (.error error, after) =>
            (.error error, if error.kind = .alreadyExists then after else after.discard path)
      else (.error error, files)

def probeDevice (storage : Storage) (path : Path) (files : FileSystem) :
    Except SystemError Bool :=
  probeExisting storage path files

def prober {ω : Type} (storage : Storage) : Prober ω := fun kind path files world =>
  match kind with
  | .file => (probeFile storage path files, world)
  | .blockDevice => ((probeDevice storage path files, files), world)

end Unbuffered

end VolumeImport
