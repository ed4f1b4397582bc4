import VolumeImport.Failure.Import
import VolumeImport.FileSystem.Path
import VolumeImport.Process.Limits

/-!
The options of an engine, read once at the start.
-/

namespace VolumeImport

structure Options where
  /-- The import job that progress is published for; nothing is published without one. -/
  owner : Option String
  imageTool : Path
  zeroTool : Path
  /-- The log of the export helper, which is added to what is reported about a failed conversion. -/
  exportLog : Path
  inspectionLimits : Limits
  deriving DecidableEq

namespace Options

def imageToolName : String := "qemu-img"
def zeroToolName : String := "dd"
def exportLogName : String := "/tmp/nbdkit.log"

def ownerVariable : String := "OWNER_UID"

def default : Options where
  owner := none
  imageTool := Path.ofText imageToolName
  zeroTool := Path.ofText zeroToolName
  exportLog := Path.ofText exportLogName
  inspectionLimits := Limits.untrustedImage

def ofEnvironment (value : Option Bytes) : Options :=
  -- an empty value, and one that is no text, count as none
  let owner := (value.bind Utf8.decode?).filter (· ≠ "")
  { default with owner }

def validate (options : Options) : Except ImportError Unit :=
  -- untrusted images are never looked at without a bound
  if options.inspectionLimits.maxMemory.isNone && options.inspectionLimits.maxCpuTime.isNone then
    .error (.config "info_limits must bound memory or CPU time")
  else if options.imageTool.bytes.isEmpty || options.zeroTool.bytes.isEmpty then
    .error (.config "tool paths must not be empty")
  else .ok ()

structure Draft where
  owner : Option (Option String)
  imageTool : Option Path
  zeroTool : Option Path
  exportLog : Option Path
  inspectionLimits : Option Limits

def readPath : Json.Reader Path := fun bytes => do
  let (text, rest) ← Json.readString bytes
  .ok (Path.ofText text, rest)

def ownerMember : Json.Member Draft where
  name := "owner_uid"
  isTaken draft := draft.owner.isSome
  read draft bytes := do
    let (owner, rest) ← Json.readOptional Json.readString bytes
    .ok ({ draft with owner := some owner }, rest)

def imageToolMember : Json.Member Draft where
  name := "qemu_img"
  isTaken draft := draft.imageTool.isSome
  read draft bytes := do
    let (path, rest) ← readPath bytes
    .ok ({ draft with imageTool := some path }, rest)

def zeroToolMember : Json.Member Draft where
  name := "dd"
  isTaken draft := draft.zeroTool.isSome
  read draft bytes := do
    let (path, rest) ← readPath bytes
    .ok ({ draft with zeroTool := some path }, rest)

def exportLogMember : Json.Member Draft where
  name := "nbdkit_log_path"
  isTaken draft := draft.exportLog.isSome
  read draft bytes := do
    let (path, rest) ← readPath bytes
    .ok ({ draft with exportLog := some path }, rest)

def inspectionLimitsMember : Json.Member Draft where
  name := "info_limits"
  isTaken draft := draft.inspectionLimits.isSome
  read draft bytes := do
    let (limits, rest) ← Limits.record.read bytes
    .ok ({ draft with inspectionLimits := some limits }, rest)

def Draft.finish (draft : Draft) : Options where
  owner := draft.owner.getD default.owner
  imageTool := draft.imageTool.getD default.imageTool
  zeroTool := draft.zeroTool.getD default.zeroTool
  exportLog := draft.exportLog.getD default.exportLog
  inspectionLimits := draft.inspectionLimits.getD default.inspectionLimits

def record : Json.Record Draft Options where
  blank := ⟨none, none, none, none, none⟩
  members := [ownerMember, imageToolMember, zeroToolMember, exportLogMember, inspectionLimitsMember]
  finish draft := some draft.finish

def parse (bytes : Bytes) : Except Json.Fault Options :=
  Json.readDocument record.read bytes

def write? (options : Options) : Option String := do
  let imageTool ← options.imageTool.text?
  let zeroTool ← options.zeroTool.text?
  let exportLog ← options.exportLog.text?
  pure (String.ofList (Json.writeObject
    [("owner_uid", Json.writeOptional Json.writeText options.owner),
      ("qemu_img", Json.writeText imageTool),
      ("dd", Json.writeText zeroTool),
      ("nbdkit_log_path", Json.writeText exportLog),
      ("info_limits", options.inspectionLimits.write)]))

end Options

end VolumeImport
