import VolumeImport.Failure.System
import VolumeImport.FileSystem.Path

/-!
The state of a file system: what lies at which place. A place is given by the names that lead to it from
the root, links aside; how paths lead to places is the business of the look-up.

A file system is one table for the whole tree, so a statement about what a call leaves alone is a
statement about the places at which the table stays the same.
-/

namespace VolumeImport

abbrev Location := List Name

/-- Entries that pass data on and keep none. -/
inductive Channel where
  | pipe
  | socket
  | characterDevice
  deriving DecidableEq

inductive Node where
  | file (mode : Nat) (content : Bytes)
  | directory (mode : Nat)
  | link (target : Path)
  | blockDevice (mode : Nat)
  | channel (kind : Channel) (mode : Nat)
  deriving DecidableEq

namespace Node

def isDirectory : Node → Bool
  | .directory _ => true
  | _ => false

def isLink : Node → Bool
  | .link _ => true
  | _ => false

def isBlockDevice : Node → Bool
  | .blockDevice _ => true
  | _ => false

def isSocket : Node → Bool
  | .channel .socket _ => true
  | _ => false

def mode : Node → Nat
  | .file mode _ | .directory mode | .blockDevice mode | .channel _ mode => mode
  -- links have no permissions of their own, so they refuse nothing
  | .link _ => 0o777

def withMode (node : Node) (mode : Nat) : Node :=
  match node with
  | .file _ content => .file mode content
  | .directory _ => .directory mode
  | .link target => .link target
  | .blockDevice _ => .blockDevice mode
  | .channel kind _ => .channel kind mode

end Node

structure FileSystem where
  entries : List (Location × Node)
  /-- Where paths without a leading slash start. -/
  workingDirectory : Location
  /-- The entries whose permissions cannot be changed, and why: they are somebody else's, or on storage
  that takes no changes. -/
  modeLocks : List (Location × Errno)
  deriving DecidableEq

namespace FileSystem

def node? (files : FileSystem) (location : Location) : Option Node :=
  files.entries.lookup location

def putEntry (location : Location) (node : Node) :
    List (Location × Node) → List (Location × Node)
  | [] => [(location, node)]
  | entry :: rest =>
      if entry.1 = location then (location, node) :: rest
      else entry :: putEntry location node rest

def put (files : FileSystem) (location : Location) (node : Node) : FileSystem :=
  { files with entries := putEntry location node files.entries }

def erase (files : FileSystem) (location : Location) : FileSystem :=
  { files with entries := files.entries.filter fun entry => entry.1 ≠ location }

theorem lookup_putEntry (entries : List (Location × Node)) (location place : Location)
    (node : Node) :
    (putEntry location node entries).lookup place =
      if place = location then some node else entries.lookup place := by
  induction entries with
  | nil =>
      by_cases same : place = location
      · simp [putEntry, same]
      · have apart : (place == location) = false := beq_false_of_ne same
        simp [putEntry, List.lookup_cons, same, apart]
  | cons entry rest ih =>
      obtain ⟨first, old⟩ := entry
      by_cases hit : first = location
      · by_cases same : place = location
        · simp [putEntry, hit, same]
        · have apart : (place == location) = false := beq_false_of_ne same
          simp [putEntry, List.lookup_cons, hit, same, apart]
      · by_cases here : place = first
        · simp [putEntry, hit, here]
        · have apart : (place == first) = false := beq_false_of_ne here
          simp [putEntry, List.lookup_cons, hit, apart, ih]

@[simp, grind =] theorem node?_put (files : FileSystem) (location place : Location) (node : Node) :
    (files.put location node).node? place =
      if place = location then some node else files.node? place :=
  lookup_putEntry files.entries location place node

theorem lookup_filter_ne (entries : List (Location × Node)) (location place : Location) :
    (entries.filter fun entry => entry.1 ≠ location).lookup place =
      if place = location then none else entries.lookup place := by
  induction entries with
  | nil => simp
  | cons entry rest ih =>
      obtain ⟨first, node⟩ := entry
      by_cases hit : first = location
      · by_cases same : place = location
        · simpa [hit, same] using ih
        · have apart : (place == location) = false := beq_false_of_ne same
          simpa [List.lookup_cons, hit, same, apart] using ih
      · by_cases here : place = first
        · simp [hit, here]
        · have apart : (place == first) = false := beq_false_of_ne here
          simpa [List.lookup_cons, hit, apart] using ih

@[simp, grind =] theorem node?_erase (files : FileSystem) (location place : Location) :
    (files.erase location).node? place =
      if place = location then none else files.node? place :=
  lookup_filter_ne files.entries location place

theorem filter_putEntry (entries : List (Location × Node)) (location : Location) (node : Node)
    (vacant : entries.lookup location = none) :
    ((putEntry location node entries).filter fun entry => entry.1 ≠ location) = entries := by
  induction entries with
  | nil => simp [putEntry]
  | cons entry rest ih =>
      obtain ⟨first, old⟩ := entry
      by_cases hit : first = location
      · simp [hit] at vacant
      · have apart : (location == first) = false := beq_false_of_ne (Ne.symm hit)
        rw [List.lookup_cons, apart] at vacant
        simpa [putEntry, hit] using ih vacant

theorem erase_put (files : FileSystem) (location : Location) (node : Node)
    (vacant : files.node? location = none) :
    (files.put location node).erase location = files := by
  simp only [put, erase, filter_putEntry files.entries location node vacant]

/-! What the owner of an entry may do with it. -/

def grantsSearch (mode : Nat) : Bool :=
  -- to know the names in a directory and to look them up are two permissions
  mode.testBit 6

def grantsWrite (mode : Nat) : Bool :=
  mode.testBit 7

def grantsRead (mode : Nat) : Bool :=
  mode.testBit 8

def directoryMode : Nat := 0o755

def fileMode : Nat := 0o644

def empty (workingDirectory : Location) : FileSystem where
  entries := (List.range (workingDirectory.length + 1)).map fun depth =>
    (workingDirectory.take depth, .directory directoryMode)
  workingDirectory
  modeLocks := []

def behind? : Location → Location → Option Location
  | [], location => some location
  | _ :: _, [] => none
  | name :: names, other :: location => if name = other then behind? names location else none

def relativePath (location : Location) : Path :=
  ⟨[Path.slash].intercalate location⟩

def Precedes (left right : Path × Node) : Bool :=
  left.1.bytes ≤ right.1.bytes

def below (files : FileSystem) : List (Location × Path × Node) :=
  files.entries.filterMap fun entry =>
    match behind? files.workingDirectory entry.1 with
    | none | some [] => none
    | some rest => some (entry.1, relativePath rest, entry.2)

def isOpen (files : FileSystem) (location : Location) : Bool :=
  match files.node? location.dropLast with
  | some (.directory mode) => grantsSearch mode
  | _ => false

def listing? (files : FileSystem) : Option (List (Path × Node)) :=
  if files.below.all fun entry => files.isOpen entry.1 then
    some ((files.below.map Prod.snd).mergeSort Precedes)
  else none

end FileSystem

end VolumeImport
