import Mathlib.Algebra.Order.Ring.Nat
import VolumeImport.Text.DecimalDigit

/-!
Decimal numerals: the number that a row of digits denotes, and the numeral that a number is printed as.
-/

namespace VolumeImport.Text

def AllDigits (text : List Char) : Prop :=
  ∀ char ∈ text, isAsciiDigit char = true

theorem decimalValue_eq (digits : List Char) :
    decimalValue digits = Nat.ofDigitChars 10 digits 0 := by
  rw [decimalValue, Nat.ofDigitChars_eq_foldl]
  congr 1
  funext value digit
  rw [Nat.mul_comm]

theorem ofDigitChars_lt (digits : List Char) (all : AllDigits digits) (start : Nat) :
    Nat.ofDigitChars 10 digits start < (start + 1) * 10 ^ digits.length := by
  induction digits generalizing start with
  | nil => simp
  | cons digit rest ih =>
      have digit_le : digit.toNat - '0'.toNat ≤ 9 := by
        have range := all digit (by simp)
        simp only [isAsciiDigit, Bool.and_eq_true, decide_eq_true_eq, Char.le_def,
          UInt32.le_iff_toNat_le] at range
        have last : '9'.toNat = '0'.toNat + 9 := rfl
        have upper : digit.toNat ≤ '9'.toNat := range.2
        omega
      have later := ih (fun char member => all char (by simp [member]))
        (10 * start + (digit.toNat - '0'.toNat))
      have room : 10 * start + (digit.toNat - '0'.toNat) + 1 ≤ (start + 1) * 10 := by omega
      rw [Nat.ofDigitChars_cons, List.length_cons, Nat.pow_succ']
      calc Nat.ofDigitChars 10 rest (10 * start + (digit.toNat - '0'.toNat))
          < (10 * start + (digit.toNat - '0'.toNat) + 1) * 10 ^ rest.length := later
        _ ≤ (start + 1) * 10 * 10 ^ rest.length := Nat.mul_le_mul_right _ room
        _ = (start + 1) * (10 * 10 ^ rest.length) := Nat.mul_assoc ..

theorem decimalValue_lt (digits : List Char) (all : AllDigits digits) :
    decimalValue digits < 10 ^ digits.length := by
  simpa [decimalValue_eq] using ofDigitChars_lt digits all 0

/-- `text` is the numeral of a number: digits that denote it, without a zero too many in front. -/
structure IsNumeral (text : List Char) (value : Nat) : Prop where
  digits : AllDigits text
  denotes : Nat.ofDigitChars 10 text 0 = value
  some_digit : text ≠ []
  no_zero : text.head? = some '0' → text = ['0']

@[simp] theorem isAsciiDigit_iff (char : Char) : isAsciiDigit char = true ↔ char.isDigit = true := by
  simp [isAsciiDigit, Char.isDigit, Char.le_def]

theorem toDigits_head (value : Nat) (positive : 0 < value) :
    (Nat.toDigits 10 value).head? ≠ some '0' := by
  induction value using Nat.strongRecOn with
  | ind value ih =>
      by_cases small : value < 10
      · rw [Nat.toDigits_of_lt_base small]
        intro zero
        have code := Nat.toNat_digitChar_sub_48_of_lt_ten small
        rw [Option.some.inj zero] at code
        simp at code
        omega
      · have shorter := ih (value / 10) (by omega) (by omega)
        rw [Nat.toDigits_of_base_le (by decide) (by omega)]
        cases digits : Nat.toDigits 10 (value / 10) with
        | nil => exact absurd digits Nat.toDigits_ne_nil
        | cons first rest => simpa [digits] using shorter

theorem toString_isNumeral (value : Nat) : IsNumeral (toString value).toList value := by
  have printed : (toString value).toList = Nat.toDigits 10 value := by
    rw [Nat.toString_eq_ofList_toDigits, String.toList_ofList]
  rw [printed]
  refine ⟨?_, Nat.ofDigitChars_ten_toDigits, Nat.toDigits_ne_nil, ?_⟩
  · intro char member
    rw [isAsciiDigit_iff]
    exact Nat.isDigit_of_mem_toDigits (by decide) (by decide) member
  · intro zero
    rcases Nat.eq_zero_or_pos value with rfl | positive
    · rfl
    · exact absurd zero (toDigits_head value positive)

end VolumeImport.Text
