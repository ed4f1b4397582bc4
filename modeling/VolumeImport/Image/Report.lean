import VolumeImport.Failure.Import
import VolumeImport.FileSystem.Path
import VolumeImport.Image.Format
import VolumeImport.Json.Record

/-!
What the image tool reports about an image, and the JSON document it reports it in.

The document needs a format and a virtual size. A backing file that is absent, `null` or empty is none,
and an actual size that is absent is zero. Nothing else is defaulted or coerced.
-/

namespace VolumeImport

structure ImageReport where
  format : DiskFormat
  backingFile : Option Path
  /-- The size of the disk as its guest sees it. -/
  virtualSize : Int
  /-- The room the image takes up, which exports over the network do not report. -/
  actualSize : Int
  deriving DecidableEq

namespace ImageReport

structure Draft where
  format : Option DiskFormat
  backingFile : Option (Option Path)
  virtualSize : Option Int
  actualSize : Option Int

def readBackingFile : Json.Reader (Option Path) := fun bytes => do
  let (name, rest) ← Json.readOptional Json.readString bytes
  .ok ((name.filter (· ≠ "")).map Path.ofText, rest)

def formatMember : Json.Member Draft where
  name := "format"
  isTaken draft := draft.format.isSome
  read draft bytes := do
    let (format, rest) ← DiskFormat.read bytes
    .ok ({ draft with format := some format }, rest)

def backingFileMember : Json.Member Draft where
  name := "backing-filename"
  isTaken draft := draft.backingFile.isSome
  read draft bytes := do
    let (backingFile, rest) ← readBackingFile bytes
    .ok ({ draft with backingFile := some backingFile }, rest)

def virtualSizeMember : Json.Member Draft where
  name := "virtual-size"
  isTaken draft := draft.virtualSize.isSome
  read draft bytes := do
    let (size, rest) ← Json.readSigned bytes
    .ok ({ draft with virtualSize := some size }, rest)

def actualSizeMember : Json.Member Draft where
  name := "actual-size"
  isTaken draft := draft.actualSize.isSome
  read draft bytes := do
    let (size, rest) ← Json.readSigned bytes
    .ok ({ draft with actualSize := some size }, rest)

def Draft.finish (draft : Draft) : Option ImageReport := do
  let format ← draft.format
  let virtualSize ← draft.virtualSize
  pure ⟨format, draft.backingFile.getD none, virtualSize, draft.actualSize.getD 0⟩

def record : Json.Record Draft ImageReport where
  blank := ⟨none, none, none, none⟩
  members := [formatMember, backingFileMember, virtualSizeMember, actualSizeMember]
  finish := Draft.finish

/-- Reads the tool's report on an image. An unreadable report is kept as text. -/
def parse (output : Bytes) (image : String) : Except ImportError ImageReport :=
  match Json.readDocument record.read output with
  | .ok report => .ok report
  | .error fault => .error (.invalidImageInfo image (Utf8.decodeLossy output) fault)

def write? (report : ImageReport) : Option String := do
  let backing ← match report.backingFile with
    | none => some []
    | some path => (path.text?).map fun text => [("backing-filename", Json.writeText text)]
  pure (String.ofList (Json.writeObject
    ([("format", report.format.write)] ++ backing ++
      [("virtual-size", Json.writeInteger report.virtualSize),
        ("actual-size", Json.writeInteger report.actualSize)])))

end ImageReport

end VolumeImport
