/-!
The bounds of machine words. A number fits an unsigned word of `bits` bits when it lies below
`Word.bound bits`; each further bit doubles what fits.
-/

namespace VolumeImport.Word

def bound (bits : Nat) : Nat :=
  Nat.pow 2 bits

theorem bound_pos (bits : Nat) : 0 < bound bits :=
  Nat.pow_pos (by decide)

theorem bound_succ (bits : Nat) : bound (bits + 1) = bound bits * 2 :=
  rfl

end VolumeImport.Word
