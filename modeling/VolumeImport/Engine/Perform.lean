import VolumeImport.Engine.Arguments
import VolumeImport.Engine.Operation
import VolumeImport.Engine.Session
import VolumeImport.Image.Policy
import VolumeImport.Storage.Zeroing

/-!
How an engine performs the operations. Whatever an operation refuses, it refuses before a tool runs; where
a tool fails, the error says in which operation.
-/

namespace VolumeImport.Engine

variable {α ω : Type} [Progress.Percentage α]

def attempt (engine : Engine ω) (preallocate : Bool) (methods : List Preallocation.Method)
    (placement : Preallocation.Placement) (hasSink : Bool) (arguments : List String)
    (session : Session α ω) : Except ToolError Bytes × Session α ω :=
  if preallocate then
    Preallocation.tryInOrder (engine.runImageTool none hasSink) arguments placement methods
      session
  else engine.runImageTool none hasSink arguments session

def inContext {β : Type} (context : String) (result : Except ToolError β) :
    Except ImportError Unit :=
  match result with
  | .ok _ => .ok ()
  | .error cause => .error (.tool context cause)

def convert (engine : Engine ω) (source : Source) (destination : Path) (preallocate : Bool)
    (hint : CacheHint) (session : Session α ω) : Except ImportError Unit × Session α ω :=
  match source.requireScheme [exportScheme] with
  | .error error => (.error error, session)
  | .ok () =>
      match engine.chooseCacheMode hint destination session with
      | (.error error, after) => (.error error, after)
      | (.ok mode, after) =>
          match engine.attempt preallocate Preallocation.convertMethods .behindSubcommand true
              (Arguments.convert mode source destination) after with
          | (.ok _, after) => (.ok (), after)
          | (.error cause, after) =>
              let files := clearDestination after.files destination
              -- the helper's log is read only now, when the tool has written to it
              let context := engine.withExportLog "could not convert image to raw" files
              (.error (.tool context cause), { after with files })

def resize (engine : Engine ω) (image : Path) (size : Quantity) (preallocate : Bool)
    (session : Session α ω) : Except ImportError Unit × Session α ω :=
  let (result, after) :=
    engine.attempt preallocate Preallocation.resizeMethods .behindSubcommand false
      (Arguments.resize image size) session
  (inContext s!"Error resizing image {image.text}" result, after)

def inspect (engine : Engine ω) (source : Source) (session : Session α ω) :
    Except ImportError ImageReport × Session α ω :=
  match source.requireScheme [exportScheme, fileScheme] with
  | .error error => (.error error, session)
  | .ok () =>
      match engine.runImageTool (some engine.options.inspectionLimits) false (Arguments.inspect source)
          session with
      | (.ok output, after) => (ImageReport.parse output source.locator, after)
      | (.error cause, after) =>
          let plain := s!"could not read image info for {source.locator}"
          let context := if source.isExport then engine.withExportLog plain after.files else plain
          (.error (.tool context cause), after)

def validate (engine : Engine ω) (source : Source) (available : Int) (session : Session α ω) :
    Except ImportError Unit × Session α ω :=
  match engine.inspect source session with
  | (.error error, after) => (.error error, after)
  | (.ok report, after) => (report.checkPolicy available source.locator after.files, after)

def newImageMode : Nat := 0o660

def create (engine : Engine ω) (destination : Path) (size : Quantity) (preallocate : Bool)
    (session : Session α ω) : Except ImportError Unit × Session α ω :=
  match engine.attempt preallocate Preallocation.createMethods .atEnd false
      (Arguments.create destination size) session with
  | (.error cause, after) =>
      let context := s!"could not create raw image with size {size.text} in {destination.text}"
      (.error (.tool context cause), { after with files := clearDestination after.files destination })
  | (.ok _, after) =>
      match after.files.chmod destination newImageMode with
      | .ok files => (.ok (), { after with files })
      | .error error =>
          (.error (.io "Unable to change permissions of target file" error),
            { after with files := clearDestination after.files destination })

def rebase (engine : Engine ω) (backingFile delta : Path) (session : Session α ω) :
    Except ImportError Unit × Session α ω :=
  let (result, after) :=
    engine.runImageTool none true (Arguments.rebase backingFile delta) session
  (inContext s!"could not rebase {delta.text} onto {backingFile.text}" result, after)

def commit (engine : Engine ω) (image : Path) (session : Session α ω) :
    Except ImportError Unit × Session α ω :=
  let (result, after) := engine.runImageTool none true (Arguments.commit image) session
  (inContext s!"could not commit {image.text}" result, after)

def sweepOnce (engine : Engine ω) (destination : Path) (sweep : Zeroing.Sweep)
    (session : Session α ω) : Except ImportError Unit × Session α ω :=
  match engine.askProber .blockDevice destination session with
  | (.error error, after) => (.error error, after)
  | (.ok direct, after) =>
      let (result, after) := engine.runZeroTool (Zeroing.arguments destination sweep direct) after
      let context :=
        s!"Could not preallocate blank block volume at {destination.text}, running dd for size {sweep.length}, offset {sweep.offset}"
      (inContext context result, after)

def sweepAll (engine : Engine ω) (destination : Path) :
    List Zeroing.Sweep → Session α ω → Except ImportError Unit × Session α ω
  | [], session => (.ok (), session)
  | sweep :: rest, session =>
      match engine.sweepOnce destination sweep session with
      | (.error error, after) => (.error error, after)
      | (.ok (), after) => sweepAll engine destination rest after

def zeroDevice (engine : Engine ω) (destination : Path) (size : Quantity)
    (session : Session α ω) : Except ImportError Unit × Session α ω :=
  match size.byteCount with
  | .error error => (.error error, session)
  | .ok bytes => engine.sweepAll destination (Zeroing.sweeps bytes) session

def withoutReport (result : Except ImportError Unit × Session α ω) : Answer × Session α ω :=
  (result.1.map fun _ => none, result.2)

def perform (engine : Engine ω) (operation : Operation) (session : Session α ω) :
    Answer × Session α ω :=
  match operation with
  | .convert source destination preallocate hint =>
      withoutReport (engine.convert source destination preallocate hint session)
  | .resize image size preallocate => withoutReport (engine.resize image size preallocate session)
  | .inspect source =>
      let (result, after) := engine.inspect source session
      (result.map some, after)
  | .validate source available => withoutReport (engine.validate source available session)
  | .create destination size preallocate =>
      withoutReport (engine.create destination size preallocate session)
  | .rebase backingFile delta => withoutReport (engine.rebase backingFile delta session)
  | .commit image => withoutReport (engine.commit image session)
  | .zeroDevice destination size =>
      withoutReport (engine.zeroDevice destination size session)

def performAll (engine : Engine ω) :
    List Operation → Session α ω → List Answer × Session α ω
  | [], session => ([], session)
  | operation :: rest, session =>
      let (answer, after) := engine.perform operation session
      let (answers, last) := performAll engine rest after
      (answer :: answers, last)

end VolumeImport.Engine
