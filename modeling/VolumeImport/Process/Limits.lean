import VolumeImport.Json.Record
import VolumeImport.Json.Writer
import VolumeImport.Number.Word

/-!
Resource limits of one run of a tool. Each bound is set as both the soft and the hard limit of the child
before the tool starts, so the kernel enforces it without the tool's cooperation.
-/

namespace VolumeImport

structure Limits where
  maxMemory : Option Nat
  maxCpuTime : Option Nat
  deriving DecidableEq

namespace Limits

def none : Limits := ⟨.none, .none⟩

def untrustedMemory : Nat := 1073741824

def untrustedCpuTime : Nat := 30

def untrustedImage : Limits := ⟨some untrustedMemory, some untrustedCpuTime⟩

def cpuSignals : List Int := [24, 9]

/-- The signals in which a tool dies that cannot get memory. -/
def memorySignals : List Int := [11, 6, 7]

def enforces (limits : Limits) (signal : Int) : Bool :=
  (limits.maxCpuTime.isSome && cpuSignals.contains signal)
    || (limits.maxMemory.isSome && memorySignals.contains signal)

inductive Resource where
  | addressSpace
  | cpuTime
  deriving DecidableEq

/-- The limits set in the child before the tool starts, in order, each with its value. -/
def settings (limits : Limits) : List (Resource × Nat) :=
  (limits.maxMemory.map (Resource.addressSpace, ·)).toList
    ++ (limits.maxCpuTime.map (Resource.cpuTime, ·)).toList

def unlimited : Nat := Word.bound 64 - 1

structure Draft where
  maxMemory : Option (Option Nat)
  maxCpuTime : Option (Option Nat)

def maxMemoryMember : Json.Member Draft where
  name := "max_memory"
  isTaken draft := draft.maxMemory.isSome
  read draft bytes := do
    let (bound, rest) ← Json.readOptional Json.readUnsigned bytes
    .ok ({ draft with maxMemory := some bound }, rest)

def maxCpuTimeMember : Json.Member Draft where
  name := "max_cpu_time"
  isTaken draft := draft.maxCpuTime.isSome
  read draft bytes := do
    let (bound, rest) ← Json.readOptional Json.readUnsigned bytes
    .ok ({ draft with maxCpuTime := some bound }, rest)

def record : Json.Record Draft Limits where
  blank := ⟨.none, .none⟩
  members := [maxMemoryMember, maxCpuTimeMember]
  -- a bound that is absent is not set
  finish draft := some ⟨draft.maxMemory.getD .none, draft.maxCpuTime.getD .none⟩

def parse (bytes : Bytes) : Except Json.Fault Limits :=
  Json.readDocument record.read bytes

def writeBound (bound : Option Nat) : List Char :=
  Json.writeOptional (fun value : Nat => Json.writeInteger value) bound

def write (limits : Limits) : List Char :=
  Json.writeObject
    [("max_memory", writeBound limits.maxMemory), ("max_cpu_time", writeBound limits.maxCpuTime)]

end Limits

end VolumeImport
