import VolumeImport.Engine.Options
import VolumeImport.Image.Cache
import VolumeImport.Process.Runner
import VolumeImport.Progress.Publication
import VolumeImport.Storage.Unbuffered
import VolumeImport.Storage.Preallocation

/-!
An engine and the state it works on. The engine runs tools through a runner and probes destinations through
a prober, both given to it; everything that a call changes is in the session, together with a record of all
runs and probes so far.
-/

namespace VolumeImport

inductive Event where
  | probed (kind : ProbeKind) (path : Path) (answer : Except SystemError Bool)
  | ran (invocation : Invocation) (run : Run)

/-- The state that operations work on. Percentages are `α`, and `ω` is what the runner and the prober
remember. -/
structure Session (α ω : Type) where
  files : FileSystem
  gauge : Progress.Gauge α
  world : ω
  /-- Everything done so far, the latest last. -/
  events : List Event

structure Engine (ω : Type) where
  options : Options
  run : Runner ω
  probe : Prober ω
  options_valid : options.validate = .ok ()

namespace Engine

variable {α ω : Type} [Progress.Percentage α]

def ofOptions (options : Options) (run : Runner ω) (probe : Prober ω) :
    Except ImportError (Engine ω) :=
  match valid : options.validate with
  | .ok () => .ok ⟨options, run, probe, valid⟩
  | .error error => .error error

def runTool (engine : Engine ω) (invocation : Invocation) (session : Session α ω) :
    Except ToolError Bytes × Session α ω :=
  let (run, world) := engine.run invocation session.files session.world
  let gauge :=
    if invocation.hasSink then
      Progress.reportAll engine.options.owner session.gauge run.lines
    else session.gauge
  (run.outcome,
    { files := run.files, gauge, world, events := session.events ++ [.ran invocation run] })

def runImageTool (engine : Engine ω) (limits : Option Limits) (hasSink : Bool)
    (arguments : List String) (session : Session α ω) : Except ToolError Bytes × Session α ω :=
  engine.runTool ⟨engine.options.imageTool.text, arguments, limits, hasSink⟩ session

def runZeroTool (engine : Engine ω) (arguments : List String) (session : Session α ω) :
    Except ToolError Bytes × Session α ω :=
  engine.runTool ⟨engine.options.zeroTool.text, arguments, none, false⟩ session

def probeContext (destination : Path) : String :=
  s!"cannot establish O_DIRECT support for {destination.text}"

def askProber (engine : Engine ω) (kind : ProbeKind) (destination : Path) (session : Session α ω) :
    Except ImportError Bool × Session α ω :=
  let ((answer, files), world) := engine.probe kind destination session.files session.world
  (answer.mapError (.io (probeContext destination)),
    { session with
      files, world, events := session.events ++ [.probed kind destination answer] })

/-- What a destination has to be probed as for a hint, if at all. -/
def neededProbe (hint : CacheHint) (destination : Path) (files : FileSystem) :
    Except ImportError (Option ProbeKind) :=
  match hint with
  | .writeback => .ok none
  | .tryDirect =>
      match files.stat destination with
      | .ok node => .ok (some (if node.isBlockDevice then .blockDevice else .file))
      | .error error =>
          -- what does not exist yet will be a file
          if error.kind = .notFound then .ok (some .file)
          else .error (.io "cannot stat for establishing O_DIRECT support" error)

def chooseCacheMode (engine : Engine ω) (hint : CacheHint) (destination : Path)
    (session : Session α ω) : Except ImportError CacheMode × Session α ω :=
  match neededProbe hint destination session.files with
  | .error error => (.error error, session)
  | .ok none => (.ok .writeback, session)
  | .ok (some kind) =>
      match engine.askProber kind destination session with
      | (.error error, after) => (.error error, after)
      | (.ok isDirect, after) => (.ok (if isDirect then .direct else .writeback), after)

def clearDestination (files : FileSystem) (destination : Path) : FileSystem :=
  match files.lstat destination with
  -- a device is not the tool's to leave behind
  | .ok (.blockDevice _) => files
  | .ok _ => files.discard destination
  | .error _ => files

/-- A context with the log of the export helper behind it, if that can be read. -/
def withExportLog (engine : Engine ω) (context : String) (files : FileSystem) : String :=
  match files.readText? engine.options.exportLog with
  | some log => context ++ " " ++ log
  | none => context

end Engine

end VolumeImport
