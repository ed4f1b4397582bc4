import VolumeImport.Process.Guard
import VolumeImport.Storage.Unbuffered

/-!
Stand-ins for the tools and for the storage, which follow a script: what every run of a tool prints,
changes and returns, and what every probe answers.
-/

namespace VolumeImport.Double

inductive SideEffect where
  | overwriteLast
  | write (path : Path) (content : Bytes)
  | makeDirectory (path : Path)
  | remove (path : Path)
  deriving DecidableEq

def touchedText : String := "partial"

def SideEffect.attempt (arguments : List String) (files : FileSystem) :
    SideEffect → Except SystemError FileSystem
  | .overwriteLast =>
      match arguments.getLast? with
      | some name => files.write (Path.ofText name) (Utf8.encode touchedText)
      | none => .ok files
  | .write path content => files.write path content
  | .makeDirectory path => files.makeDirectory path
  | .remove path => files.unlink path

def applyEffects (arguments : List String) (effects : List SideEffect) (files : FileSystem) :
    FileSystem :=
  effects.foldl (fun files effect => (effect.attempt arguments files).toOption.getD files) files

structure Step where
  lines : List String
  effects : List SideEffect
  outcome : Except ToolError Bytes

structure Script where
  steps : List Step
  fileAnswers : List (Except SystemError Bool)
  blockAnswers : List (Except SystemError Bool)

def Script.runner : Runner Script := fun invocation files script =>
  match script.steps with
  -- a run that was not foreseen succeeds and prints nothing
  | [] => ({ lines := [], files, outcome := .ok [] }, script)
  | step :: rest =>
      ({ lines := if invocation.hasSink then step.lines else []
         files := applyEffects invocation.arguments step.effects files
         outcome := step.outcome },
        { script with steps := rest })

def nextAnswer : List (Except SystemError Bool) →
    Except SystemError Bool × List (Except SystemError Bool)
  | [] => (.ok false, [])
  -- the last answer is given again and again
  | [last] => (last, [last])
  | answer :: next :: rest => (answer, next :: rest)

def Script.prober : Prober Script := fun kind _ files script =>
  match kind with
  | .file =>
      let (answer, rest) := nextAnswer script.fileAnswers
      ((answer, files), { script with fileAnswers := rest })
  | .blockDevice =>
      let (answer, rest) := nextAnswer script.blockAnswers
      ((answer, files), { script with blockAnswers := rest })

structure ScriptedChild where
  child : Guard.Child
  effects : List SideEffect

def quietChild : ScriptedChild := ⟨⟨[], [], .exited 0⟩, []⟩

structure ChildScript where
  children : List ScriptedChild
  started : Nat

/-- A host with some commands on its search path. The tool that starts as the n-th behaves as the n-th
child of the script. -/
def ChildScript.host (commands : List String) : Guard.Host ChildScript := fun invocation files script =>
  match Guard.startError? commands files invocation.program invocation.arguments with
  | some error => (.error error, script)
  | none =>
      -- by number, so a child that is added later does not make up for a quiet start
      let next := script.children[script.started]?.getD quietChild
      (.ok (next.child, applyEffects invocation.arguments next.effects files),
        { script with started := script.started + 1 })

end VolumeImport.Double
