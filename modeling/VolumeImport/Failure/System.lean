/-!
Failures of the operating system.

A failed call carries an error number; its kind and its text follow from the number by one table. The
other failures are refusals before any call is made: a name with a NUL byte cannot be handed over at all.
-/

namespace VolumeImport

inductive SystemErrorKind where
  | notFound
  | permissionDenied
  | interrupted
  | inputOutputError
  | outOfMemory
  | resourceBusy
  | alreadyExists
  | notADirectory
  | isADirectory
  | invalidInput
  | storageFull
  | readOnlyFilesystem
  | brokenPipe
  | invalidFilename
  | filesystemLoop
  | uncategorized
  | other
  deriving DecidableEq

structure Errno where
  number : Nat
  deriving DecidableEq

namespace Errno

def noEntry : Errno := ⟨2⟩
def noDevice : Errno := ⟨6⟩
def permission : Errno := ⟨13⟩
def alreadyExists : Errno := ⟨17⟩
def notDirectory : Errno := ⟨20⟩
def isDirectory : Errno := ⟨21⟩
def invalid : Errno := ⟨22⟩
def nameTooLong : Errno := ⟨36⟩
def loop : Errno := ⟨40⟩

def describe (errno : Errno) : SystemErrorKind × String :=
  match errno.number with
  | 1 => (.permissionDenied, "Operation not permitted")
  | 2 => (.notFound, "No such file or directory")
  | 4 => (.interrupted, "Interrupted system call")
  | 5 => (.inputOutputError, "Input/output error")
  | 6 => (.uncategorized, "No such device or address")
  | 12 => (.outOfMemory, "Cannot allocate memory")
  | 13 => (.permissionDenied, "Permission denied")
  | 16 => (.resourceBusy, "Device or resource busy")
  | 17 => (.alreadyExists, "File exists")
  | 20 => (.notADirectory, "Not a directory")
  | 21 => (.isADirectory, "Is a directory")
  | 22 => (.invalidInput, "Invalid argument")
  | 28 => (.storageFull, "No space left on device")
  | 30 => (.readOnlyFilesystem, "Read-only file system")
  | 32 => (.brokenPipe, "Broken pipe")
  | 36 => (.invalidFilename, "File name too long")
  | 40 => (.filesystemLoop, "Too many levels of symbolic links")
  | number => (.uncategorized, s!"Unknown error {number}")

end Errno

inductive SystemError where
  | call (errno : Errno)
  | nulInPath
  | nulInArgument
  | other (text : String)
  deriving DecidableEq

namespace SystemError

def kind : SystemError → SystemErrorKind
  | .call errno => errno.describe.1
  | .nulInPath | .nulInArgument => .invalidInput
  | .other _ => .other

def message : SystemError → String
  | .call errno => s!"{errno.describe.2} (os error {errno.number})"
  | .nulInPath => "file name contained an unexpected NUL byte"
  | .nulInArgument => "nul byte found in provided data"
  | .other text => text

end SystemError

end VolumeImport
