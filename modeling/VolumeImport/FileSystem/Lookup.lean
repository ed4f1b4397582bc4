import VolumeImport.FileSystem.Tree

/-!
From a path to a place. Names are followed from directory to directory, each of which has to permit the
search; `.` stays, `..` goes up, and a link on the way is replaced by its target. A link under the last name
is followed or not as the caller wishes, and always if a slash behind it asks for a directory.

Names are followed by recursion on them. Links could lead in circles, so each look-up follows a bounded
number of them and fails beyond.
-/

namespace VolumeImport.FileSystem

/-- Where a path leads: to a node, or to a place in a directory where nothing lies. `asDirectory` tells
that the path asked for a directory there. -/
inductive Spot where
  | taken (location : Location) (node : Node)
  | vacant (location : Location) (asDirectory : Bool)
  deriving DecidableEq

inductive Leg where
  | arrived (spot : Spot)
  | atLink (directory : Location) (target : Path) (rest : List Name)
  deriving DecidableEq

def sameName : Name := [0x2E]

def upName : Name := [0x2E, 0x2E]

/-- The longest name, the bound that a path stays below, and the most links that one look-up follows. -/
def maxNameLength : Nat := 255

def pathBound : Nat := 4096

def maxLinks : Nat := 40

/-- Follows names from a place on, up to the first link that has to be followed. -/
def advance (files : FileSystem) (followLast asDirectory : Bool) :
    Location → List Name → Except Errno Leg
  | current, [] =>
      match files.node? current with
      | some node => .ok (.arrived (.taken current node))
      | none => .error .noEntry
  | current, name :: rest =>
      match files.node? current with
      | none => .error .noEntry
      | some (.directory mode) =>
          if !grantsSearch mode then .error .permission
          else if name = sameName then advance files followLast asDirectory current rest
          else if name = upName then advance files followLast asDirectory current.dropLast rest
          else if maxNameLength < name.length then .error .nameTooLong
          else
            let child := current ++ [name]
            match files.node? child with
            | none =>
                -- only the last name may be missing
                if rest.isEmpty then .ok (.arrived (.vacant child asDirectory)) else .error .noEntry
            | some (.link target) =>
                if rest.isEmpty && !followLast then .ok (.arrived (.taken child (.link target)))
                else .ok (.atLink current target rest)
            | some _ => advance files followLast asDirectory child rest
      | some _ => .error .notDirectory

def walk (files : FileSystem) (followLast : Bool) :
    Nat → Bool → Location → List Name → Except Errno Spot
  | budget, asDirectory, start, names =>
      match advance files (followLast || asDirectory) asDirectory start names with
      | .error errno => .error errno
      | .ok (.arrived (.taken location node)) =>
          if asDirectory && !node.isDirectory then .error .notDirectory
          else .ok (.taken location node)
      | .ok (.arrived (.vacant location asDirectory)) => .ok (.vacant location asDirectory)
      | .ok (.atLink directory target rest) =>
          match budget with
          | 0 => .error .loop
          | budget + 1 =>
              -- a slash at the end of the last link asks for a directory too
              walk files followLast budget (asDirectory || (rest.isEmpty && target.endsInSlash))
                (if target.isAbsolute then [] else directory) (target.names ++ rest)

def find (files : FileSystem) (path : Path) (followLast asDirectory : Bool) :
    Except SystemError Spot :=
  if path.hasNul then .error .nulInPath
  else if path.bytes.isEmpty then .error (.call .noEntry)
  else if pathBound ≤ path.bytes.length then .error (.call .nameTooLong)
  else
    match walk files followLast maxLinks asDirectory
        (if path.isAbsolute then [] else files.workingDirectory) path.names with
    | .ok spot => .ok spot
    | .error errno => .error (.call errno)

end VolumeImport.FileSystem
