import VolumeImport.Failure.Tool
import VolumeImport.FileSystem.Calls
import VolumeImport.Process.Collector
import VolumeImport.Process.Runner

/-!
The guard that tools run under: whether a tool can be started at all, what is gathered while it runs, and
what its end means. An exit status of zero is success, any other a failure of the tool's own; a signal that
enforces a limit is told apart from all other signals.
-/

namespace VolumeImport.Guard

inductive Ending where
  | exited (status : UInt8)
  | killed (signal : Nat)
  deriving DecidableEq

structure Child where
  stdout : List PipeRead
  stderr : List PipeRead
  ending : Ending
  deriving DecidableEq

structure Report where
  lines : List String
  outcome : Except ToolError Bytes

def hasNul (text : String) : Bool :=
  text.toList.contains '\x00'

/-- Why a program cannot be started, if it cannot. `commands` are the names on the search path. -/
def startError? (commands : List String) (files : FileSystem) (program : String)
    (arguments : List String) : Option SystemError :=
  let path := Path.ofText program
  if hasNul program || arguments.any hasNul then some .nulInArgument
  else if path.bytes.contains Path.slash then
    match files.stat path with
    | .error error => some error
    -- no file of the tree is a program
    | .ok _ => some (.call .permission)
  else if commands.contains program then none
  else if FileSystem.maxNameLength < path.bytes.length then some (.call .nameTooLong)
  else some (.call .noEntry)

def outcomeOf (program : String) (limits : Option Limits) (ending : Ending) (stdout stderr : Bytes) :
    Except ToolError Bytes :=
  match ending with
  | .exited status =>
      if status = 0 then .ok stdout
      else .error (.exited program status.toNat (Utf8.decodeLossy stdout) (Utf8.decodeLossy stderr))
  | .killed signal =>
      if limits.any (·.enforces signal) then
        .error (.limitExceeded program signal (Utf8.decodeLossy stdout) (Utf8.decodeLossy stderr))
      else .error (.killed program signal)

def watch (program : String) (limits : Option Limits) (sink : Option Sink) (child : Child) : Report :=
  let output := Collector.collect sink child.stdout
  -- no sink here: this pipe echoes what stands in untrusted images
  let errors := Collector.collect none child.stderr
  { lines := output.lines
    outcome :=
      match output.bytes, errors.bytes with
      -- without all the output there is no knowing what the tool did
      | .error error, _ | .ok _, .error error => .error (.unreadable program error)
      | .ok stdout, .ok stderr => outcomeOf program limits child.ending stdout stderr }

def openSink : Sink := fun _ _ => true

/-- Where tools are started: why a tool does not start, or how it behaves and what file system it
leaves. -/
abbrev Host (ω : Type) :=
  Invocation → FileSystem → ω → Except SystemError (Child × FileSystem) × ω

def runner {ω : Type} (host : Host ω) : Runner ω := fun invocation files world =>
  match host invocation files world with
  | (.error error, world) =>
      ({ lines := [], files, outcome := .error (.notStarted invocation.program error) }, world)
  | (.ok (child, files), world) =>
      let sink := if invocation.hasSink then some openSink else none
      let report := watch invocation.program invocation.limits sink child
      ({ lines := report.lines, files, outcome := report.outcome }, world)

end VolumeImport.Guard
