import VolumeImport.FileSystem.Path

/-!
Filling a block volume with zeros: whole chunks of one mebibyte in one sweep, and what is left in another.
-/

namespace VolumeImport.Zeroing

def chunk : Nat := 1048576

/-- One run of the zero tool: `count` blocks written from `offset` on. -/
structure Sweep where
  blockSize : Nat
  count : Nat
  offset : Nat
  deriving DecidableEq

def Sweep.length (sweep : Sweep) : Nat :=
  sweep.blockSize * sweep.count

/-- The sweeps that fill `size` bytes. A size below zero needs none. -/
def sweeps (size : Int) : List Sweep :=
  let bytes := size.toNat
  let count := bytes / chunk
  let remainder := bytes % chunk
  (if 0 < count then [⟨chunk, count, 0⟩] else [])
    ++ (if 0 < remainder then [⟨remainder, 1, count * chunk⟩] else [])

def sourceArgument : String := "if=/dev/zero"

def arguments (destination : Path) (sweep : Sweep) (direct : Bool) : List String :=
  [sourceArgument,
    "of=" ++ destination.text,
    s!"bs={sweep.blockSize}",
    s!"count={sweep.count}",
    s!"seek={sweep.offset}",
    if direct then "oflag=seek_bytes,direct" else "oflag=seek_bytes"]

end VolumeImport.Zeroing
