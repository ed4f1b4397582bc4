import VolumeImport.Failure.System
import VolumeImport.Process.Output

/-!
Collecting the output of a running tool. A pipe delivers bytes in chunks of any size; the collector keeps
them all and hands every line on as soon as it is complete.
-/

namespace VolumeImport

/-- What one read from a pipe brings: some bytes, of which none at all means that the pipe is closed, or
an error. -/
inductive PipeRead where
  | chunk (bytes : Bytes)
  | failed (error : SystemError)
  deriving DecidableEq

/-- The receiver of the lines of an output: whether it takes a line after those it has been given, the
latest first. A line that is not taken breaks the collector down. -/
abbrev Sink := List String → String → Bool

/-- A collector at work. All rows have the latest first. -/
structure Collector where
  captured : Bytes
  /-- The bytes of the line that has not ended yet. -/
  pending : Bytes
  delivered : List String
  isBroken : Bool
  deriving DecidableEq

structure Collected where
  lines : List String
  bytes : Except SystemError Bytes

namespace Collector

def empty : Collector := ⟨[], [], [], false⟩

def breakdown : SystemError :=
  .other "output reader thread panicked"

def endLine (sink : Option Sink) (collector : Collector) : Collector :=
  -- two terminators in a row end one line only
  if collector.pending.isEmpty then collector
  else
    let line := Output.lineText collector.pending.reverse
    match sink with
    | none => { collector with pending := [] }
    | some takes =>
        if takes collector.delivered line then
          { collector with pending := [], delivered := line :: collector.delivered }
        else { collector with isBroken := true }

def push (sink : Option Sink) (collector : Collector) (byte : UInt8) : Collector :=
  if collector.isBroken then collector
  else
    let collector := { collector with captured := byte :: collector.captured }
    if Output.isLineEnd byte then endLine sink collector
    else { collector with pending := byte :: collector.pending }

theorem foldl_push_of_isBroken (sink : Option Sink) (collector : Collector) (bytes : Bytes)
    (broken : collector.isBroken = true) : bytes.foldl (push sink) collector = collector := by
  induction bytes with
  | nil => rfl
  | cons byte rest ih => simp [push, broken, ih]

def stop (collector : Collector) (error : SystemError) : Collected :=
  ⟨collector.delivered.reverse, .error error⟩

def finish (sink : Option Sink) (collector : Collector) : Collected :=
  -- the last line may lack its end
  let last := endLine sink collector
  if last.isBroken then last.stop breakdown
  else ⟨last.delivered.reverse, .ok last.captured.reverse⟩

def drain (sink : Option Sink) (collector : Collector) : List PipeRead → Collected
  | [] => finish sink collector
  -- a read without bytes is the end of the pipe, whatever comes behind it
  | .chunk [] :: _ => finish sink collector
  | .chunk bytes :: rest =>
      let after := bytes.foldl (push sink) collector
      if after.isBroken then after.stop breakdown else drain sink after rest
  | .failed error :: rest =>
      if error.kind = .interrupted then drain sink collector rest else collector.stop error

def collect (sink : Option Sink) (reads : List PipeRead) : Collected :=
  drain sink empty reads

end Collector

end VolumeImport
