import VolumeImport.Double.Failures
import VolumeImport.Engine.Operation
import VolumeImport.Image.Policy

/-!
A stand-in for an engine, for testing what calls one. It runs nothing: it writes down what it is asked to
do, fails where it has been told to, and describes every image alike. Only the import policy is the real
one.
-/

namespace VolumeImport.Double

structure Recorder where
  report : Option ImageReport
  failing : List String
  /-- What has been asked for, the latest last. -/
  calls : List String
  deriving DecidableEq

namespace Recorder

def ofReport (report : Option ImageReport) : Recorder := ⟨report, [], []⟩

def fail (recorder : Recorder) (name : String) : Recorder :=
  { recorder with failing := name :: recorder.failing }

def record (recorder : Recorder) (name detail : String) : Except ImportError Unit × Recorder :=
  let after := { recorder with calls := recorder.calls ++ [s!"{name} {detail}"] }
  if recorder.failing.contains name then
    (.error (.tool s!"{name} failed" (failedWith "scripted failure")), after)
  else (.ok (), after)

def inspect (recorder : Recorder) (source : Source) : Except ImportError ImageReport × Recorder :=
  match recorder.record "info" source.locator with
  | (.error error, after) => (.error error, after)
  | (.ok (), after) =>
      match after.report with
      | some report => (.ok report, after)
      | none =>
          let context := s!"could not read image info for {source.locator}"
          (.error (.tool context (failedWith "no metadata configured")), after)

def validate (recorder : Recorder) (source : Source) (available : Int) (files : FileSystem) :
    Except ImportError Unit × Recorder :=
  match recorder.inspect source with
  | (.error error, after) => (.error error, after)
  | (.ok report, after) => (report.checkPolicy available source.locator files, after)

def withoutReport (result : Except ImportError Unit × Recorder) : Answer × Recorder :=
  (result.1.map fun _ => none, result.2)

def perform (recorder : Recorder) (operation : Operation) (files : FileSystem) : Answer × Recorder :=
  match operation with
  | .convert source destination preallocate hint =>
      withoutReport (recorder.record "convert"
        s!"{source.locator} {destination.text} {preallocate} {hint.name}")
  | .resize image size preallocate =>
      withoutReport (recorder.record "resize" s!"{image.text} {size.text} {preallocate}")
  | .inspect source =>
      let (result, after) := recorder.inspect source
      (result.map some, after)
  | .validate source available => withoutReport (recorder.validate source available files)
  | .create destination size preallocate =>
      withoutReport (recorder.record "create" s!"{destination.text} {size.text} {preallocate}")
  | .rebase backingFile delta =>
      withoutReport (recorder.record "rebase" s!"{backingFile.text} {delta.text}")
  | .commit image => withoutReport (recorder.record "commit" image.text)
  | .zeroDevice destination size =>
      withoutReport (recorder.record "preallocate_block" s!"{destination.text} {size.text}")

end Recorder

end VolumeImport.Double
