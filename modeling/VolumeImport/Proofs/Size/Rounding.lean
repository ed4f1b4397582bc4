import Mathlib.Algebra.Order.Field.Rat
import Mathlib.Algebra.Order.Floor.Div
import VolumeImport.Size.Quantity

/-!
Whole byte counts. They round a fraction up to the next integer and never further, by a division that does
not leave the word the numerator fits.
-/

namespace VolumeImport.Quantity

theorem isWhole_iff (size : Quantity) (positive : 0 < size.denominator) :
    size.isWhole = true ↔ ∃ integer : ℤ, (size.numerator : ℚ) / size.denominator = integer := by
  have nonzero : (size.denominator : ℚ) ≠ 0 := Nat.cast_ne_zero.mpr positive.ne'
  rw [isWhole, decide_eq_true_iff, ← Nat.dvd_iff_mod_eq_zero, ← Int.natCast_dvd_natCast]
  constructor
  · rintro ⟨integer, multiple⟩
    refine ⟨integer, ?_⟩
    rw [div_eq_iff nonzero, mul_comm]
    exact_mod_cast multiple
  · rintro ⟨integer, multiple⟩
    refine ⟨integer, ?_⟩
    rw [div_eq_iff nonzero, mul_comm] at multiple
    exact_mod_cast multiple

theorem ceiling_le_iff (size : Quantity) (positive : 0 < size.denominator) (bytes : ℕ) :
    size.ceiling ≤ bytes ↔ (size.numerator : ℚ) / size.denominator ≤ bytes := by
  have positive_cast : (0 : ℚ) < size.denominator := Nat.cast_pos.mpr positive
  have divided : size.ceiling = size.numerator ⌈/⌉ size.denominator := rfl
  rw [divided, ceilDiv_le_iff_le_mul positive, div_le_iff₀' positive_cast]
  exact_mod_cast Iff.rfl

theorem ceiling_isLeast (size : Quantity) (positive : 0 < size.denominator) :
    IsLeast {bytes : ℕ | (size.numerator : ℚ) / size.denominator ≤ bytes} size.ceiling := by
  constructor
  · exact (ceiling_le_iff size positive size.ceiling).mp le_rfl
  · intro bytes above
    exact (ceiling_le_iff size positive bytes).mpr above

theorem ceiling_divided (size : Quantity) (positive : 0 < size.denominator) :
    size.ceiling = size.numerator / size.denominator +
      if size.numerator % size.denominator = 0 then 0 else 1 := by
  have whole := Nat.div_add_mod size.numerator size.denominator
  have rest := Nat.mod_lt size.numerator positive
  rw [Nat.mul_comm] at whole
  unfold ceiling
  split
  · apply Nat.div_eq_of_lt_le
    · rw [Nat.add_zero]
      omega
    · rw [Nat.add_zero, Nat.succ_mul]
      omega
  · apply Nat.div_eq_of_lt_le
    · rw [Nat.succ_mul]
      omega
    · rw [Nat.succ_mul, Nat.succ_mul]
      omega

theorem ceiling_le_numerator (size : Quantity) (positive : 0 < size.denominator) :
    size.ceiling ≤ size.numerator := by
  have divided : size.ceiling = size.numerator ⌈/⌉ size.denominator := rfl
  rw [divided, ceilDiv_le_iff_le_mul positive]
  exact Nat.le_mul_of_pos_left size.numerator positive

theorem byteCount_counted (size : Quantity) (small : size.ceiling ≤ 2 ^ 63 - 1) :
    size.byteCount = .ok size.ceiling := by
  have below : size.ceiling < Word.bound 63 := Nat.lt_of_le_pred (by decide) small
  rw [byteCount, if_pos below]

theorem byteCount_refused (size : Quantity) (large : 2 ^ 63 - 1 < size.ceiling) :
    size.byteCount = .error (.invalidSize size.text) := by
  have above : ¬size.ceiling < Word.bound 63 := Nat.not_lt.mpr (Nat.le_of_pred_lt large)
  rw [byteCount, if_neg above]

end VolumeImport.Quantity
