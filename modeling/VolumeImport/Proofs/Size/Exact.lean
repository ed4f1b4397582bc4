import VolumeImport.Proofs.Size.Rounding
import VolumeImport.Proofs.Size.Spelling

/-!
Sizes are exact. A text is a size when it is spelled as one and each number on the way stays below 2^128;
the fraction that is kept is then the rational number spelled.
-/

namespace VolumeImport.Quantity

open Text

@[simp] theorem fit?_iff (value result : Nat) :
    fit? value = some result ↔ value < 2 ^ 128 ∧ result = value := by
  have limit : wordBound = 2 ^ 128 := rfl
  rw [fit?, limit]
  split <;> simp_all [eq_comm]

@[simp] theorem times?_iff (left right result : Nat) :
    times? left right = some result ↔ left * right < 2 ^ 128 ∧ result = left * right :=
  fit?_iff (left * right) result

theorem power?_iff (base exponent result : Nat) (two : 2 ≤ base) :
    power? base exponent = some result ↔
      base ^ exponent < 2 ^ 128 ∧ result = base ^ exponent := by
  unfold power?
  split
  · exact fit?_iff (base ^ exponent) result
  · next large =>
      have steep : 2 ^ 128 ≤ base ^ exponent :=
        calc 2 ^ 128 ≤ 2 ^ exponent := Nat.pow_le_pow_right (by decide) (by omega)
          _ ≤ base ^ exponent := Nat.pow_le_pow_left two exponent
      have beyond : ¬base ^ exponent < 2 ^ 128 := Nat.not_lt.mpr steep
      simp only [beyond, false_and, reduceCtorEq]

theorem scaled_iff {Result : Type} (value base exponent : Nat) (two : 2 ≤ base)
    (next : Nat → Result) (result : Result) :
    (do
      let scaled ← times? value (← power? base exponent)
      pure (next scaled)) = some result ↔
      base ^ exponent < 2 ^ 128 ∧ value * base ^ exponent < 2 ^ 128 ∧
        result = next (value * base ^ exponent) := by
  simp only [Option.bind_eq_bind, Option.bind_eq_some_iff, power?_iff _ _ _ two, times?_iff]
  constructor
  · rintro ⟨_, ⟨power_fits, rfl⟩, _, ⟨product_fits, rfl⟩, handed⟩
    exact ⟨power_fits, product_fits, (Option.some.inj handed).symm⟩
  · rintro ⟨power_fits, product_fits, rfl⟩
    exact ⟨_, ⟨power_fits, rfl⟩, _, ⟨product_fits, rfl⟩, rfl⟩

namespace Scale

def factor : Scale → Nat
  | .binary power => 1024 ^ power
  | .decimal exponent => 10 ^ exponent.natAbs

def reduces : Scale → Bool
  | .binary _ => false
  | .decimal exponent => exponent < 0

def ratio : Scale → ℚ
  | .binary power => 1024 ^ power
  | .decimal exponent => 10 ^ exponent

theorem factor_pos (scale : Scale) : 0 < scale.factor := by
  cases scale with
  | binary power => exact Nat.pow_pos (by decide)
  | decimal exponent => exact Nat.pow_pos (by decide)

theorem ratio_eq (scale : Scale) :
    scale.ratio = if scale.reduces then (scale.factor : ℚ)⁻¹ else scale.factor := by
  cases scale with
  | binary power => simp [ratio, reduces, factor]
  | decimal exponent =>
      cases exponent with
      | ofNat exponent => simp [ratio, reduces, factor]
      | negSucc previous => simp [ratio, reduces, factor, zpow_negSucc, Int.negSucc_lt_zero]

theorem apply?_iff (scale : Scale) (numerator denominator : Nat) (result : Nat × Nat) :
    scale.apply? numerator denominator = some result ↔
      scale.factor < 2 ^ 128 ∧
      (if scale.reduces then denominator else numerator) * scale.factor < 2 ^ 128 ∧
      result = if scale.reduces then (numerator, denominator * scale.factor)
        else (numerator * scale.factor, denominator) := by
  cases scale with
  | binary power => exact scaled_iff numerator 1024 power (by decide) (·, denominator) result
  | decimal exponent =>
      cases exponent with
      | ofNat exponent =>
          exact scaled_iff numerator 10 exponent (by decide) (·, denominator) result
      | negSucc previous =>
          have reducing : (decimal (.negSucc previous)).reduces = true :=
            decide_eq_true (Int.negSucc_lt_zero previous)
          simp only [reducing, if_true]
          exact scaled_iff denominator 10 (previous + 1) (by decide) (numerator, ·) result

end Scale

namespace Spelling

/-- Every number on the way to the fraction stays below 2^128. -/
structure Fits (spelling : Spelling) : Prop where
  digits : Nat.ofDigitChars 10 spelling.digits 0 < 2 ^ 128
  places : 10 ^ spelling.places < 2 ^ 128
  factor : spelling.scale.factor < 2 ^ 128
  product : (if spelling.scale.reduces then 10 ^ spelling.places
    else Nat.ofDigitChars 10 spelling.digits 0) * spelling.scale.factor < 2 ^ 128

def value (spelling : Spelling) : ℚ :=
  Nat.ofDigitChars 10 spelling.digits 0 * spelling.scale.ratio / 10 ^ spelling.places

def numerator (spelling : Spelling) : Nat :=
  if spelling.scale.reduces then Nat.ofDigitChars 10 spelling.digits 0
  else Nat.ofDigitChars 10 spelling.digits 0 * spelling.scale.factor

def denominator (spelling : Spelling) : Nat :=
  if spelling.scale.reduces then 10 ^ spelling.places * spelling.scale.factor
  else 10 ^ spelling.places

theorem fraction?_iff (spelling : Spelling) (short : spelling.places < 2 ^ 32)
    (result : Nat × Nat) :
    spelling.fraction? = some result ↔
      spelling.Fits ∧ result = (spelling.numerator, spelling.denominator) := by
  have unwrapped : spelling.places % Word.bound 32 = spelling.places := Nat.mod_eq_of_lt short
  have pair : (if spelling.scale.reduces then
      (Nat.ofDigitChars 10 spelling.digits 0, 10 ^ spelling.places * spelling.scale.factor)
      else (Nat.ofDigitChars 10 spelling.digits 0 * spelling.scale.factor, 10 ^ spelling.places)) =
      (spelling.numerator, spelling.denominator) := by
    unfold numerator denominator
    split <;> rfl
  simp only [fraction?, unwrapped, Option.bind_eq_bind, Option.bind_eq_some_iff, fit?_iff,
    power?_iff 10 _ _ (by decide), Scale.apply?_iff]
  constructor
  · rintro ⟨_, ⟨digits, rfl⟩, _, ⟨places, rfl⟩, factor, product, rfl⟩
    exact ⟨⟨digits, places, factor, product⟩, pair⟩
  · rintro ⟨fits, rfl⟩
    exact ⟨_, ⟨fits.digits, rfl⟩, _, ⟨fits.places, rfl⟩, fits.factor, fits.product, pair.symm⟩

theorem denominator_pos (spelling : Spelling) : 0 < spelling.denominator := by
  have places : 0 < 10 ^ spelling.places := Nat.pow_pos (by decide)
  unfold denominator
  split
  · exact Nat.mul_pos places spelling.scale.factor_pos
  · exact places

theorem value_eq (spelling : Spelling) :
    (spelling.numerator : ℚ) / spelling.denominator = spelling.value := by
  unfold numerator denominator value
  rw [Scale.ratio_eq]
  split
  · push_cast
    rw [div_mul_eq_div_div_swap, ← div_eq_mul_inv]
  · push_cast
    rfl

end Spelling

/-- The size is kept, rounded and counted as the rational number that is spelled. -/
structure Represents (size : Quantity) (spelling : Spelling) : Prop where
  text : size.text = String.ofList spelling.text
  places : spelling.places % Word.bound 32 = spelling.places
  denominator : size.denominator ≠ 0
  fits : size.numerator < 2 ^ 128 ∧ size.denominator < 2 ^ 128 ∧ size.ceiling < 2 ^ 128
  value : (size.numerator : ℚ) / size.denominator = spelling.value
  whole : size.isWhole = true ↔ ∃ integer : ℤ, spelling.value = integer
  least : IsLeast {bytes : ℕ | spelling.value ≤ bytes} size.ceiling
  divided : size.ceiling = size.numerator / size.denominator +
    if size.numerator % size.denominator = 0 then 0 else 1
  printed : IsNumeral size.toolText.toList size.ceiling
  counted : size.ceiling ≤ 2 ^ 63 - 1 → size.byteCount = .ok size.ceiling
  refused : 2 ^ 63 - 1 < size.ceiling → size.byteCount = .error (.invalidSize size.text)

namespace Spelling

theorem numerator_fits (spelling : Spelling) (fits : spelling.Fits) :
    spelling.numerator < 2 ^ 128 := by
  have product := fits.product
  unfold numerator
  split
  · exact fits.digits
  · next enlarging =>
      rwa [if_neg enlarging] at product

theorem denominator_fits (spelling : Spelling) (fits : spelling.Fits) :
    spelling.denominator < 2 ^ 128 := by
  have product := fits.product
  unfold denominator
  split
  · next reducing =>
      rwa [if_pos reducing] at product
  · exact fits.places

def size (spelling : Spelling) : Quantity :=
  ⟨String.ofList spelling.text, spelling.numerator, spelling.denominator⟩

theorem represents (spelling : Spelling) (short : spelling.places < 2 ^ 32)
    (fits : spelling.Fits) : spelling.size.Represents spelling := by
  have positive : 0 < spelling.size.denominator := spelling.denominator_pos
  have value := spelling.value_eq
  have numerator := spelling.numerator_fits fits
  exact {
    text := rfl
    places := Nat.mod_eq_of_lt short
    denominator := positive.ne'
    fits := ⟨numerator, spelling.denominator_fits fits,
      lt_of_le_of_lt (ceiling_le_numerator spelling.size positive) numerator⟩
    value := value
    whole := by
      rw [← value]
      exact isWhole_iff spelling.size positive
    least := by
      rw [← value]
      exact ceiling_isLeast spelling.size positive
    divided := ceiling_divided spelling.size positive
    printed := toString_isNumeral spelling.size.ceiling
    counted := byteCount_counted spelling.size
    refused := byteCount_refused spelling.size }

theorem places_le (spelling : Spelling) (text : String) (spelled : spelling.IsOf text) :
    spelling.places ≤ text.toList.length := by
  obtain ⟨left, right, around, -, -⟩ := spelled
  rw [around]
  unfold places Spelling.text number pointed
  cases spelling.fraction with
  | none => exact Nat.zero_le _
  | some digits =>
      simp
      omega

end Spelling

theorem parse_ok_iff (text : String) (spelling : Spelling) (spelled : spelling.IsOf text)
    (short : spelling.places < 2 ^ 32) (size : Quantity) :
    parse text = .ok size ↔ spelling.Fits ∧ size = spelling.size := by
  rw [parse_spelled text spelling spelled]
  constructor
  · intro read
    split at read
    · next found =>
        obtain ⟨fits, pair⟩ := (spelling.fraction?_iff short _).mp found
        obtain ⟨rfl, rfl⟩ := Prod.mk.inj pair
        exact ⟨fits, (Except.ok.inj read).symm⟩
    · cases read
  · rintro ⟨fits, rfl⟩
    rw [(spelling.fraction?_iff short _).mpr ⟨fits, rfl⟩]
    rfl

theorem parse_error (text : String) (error : ImportError) (refused : parse text = .error error) :
    error = .invalidSize text := by
  simp only [parse] at refused
  split at refused
  · cases refused
  · exact (Except.error.inj refused).symm

/-- A text is a size exactly if it is spelled as one and all its numbers fit, and the size is then the
rational number spelled. Only a fraction part of 2^32 digits or more is left open. -/
theorem parse_exact (text : String)
    (short : ∀ spelling : Spelling, spelling.IsOf text → spelling.places < 2 ^ 32) :
    ((∃ size, parse text = .ok size) ↔ ∃ spelling : Spelling, spelling.IsOf text ∧ spelling.Fits) ∧
    (∀ error, parse text = .error error → error = .invalidSize text) ∧
    ∀ size, parse text = .ok size →
      ∀ spelling : Spelling, spelling.IsOf text → size.Represents spelling := by
  refine ⟨⟨?_, ?_⟩, parse_error text, ?_⟩
  · rintro ⟨size, read⟩
    obtain ⟨spelling, spelled⟩ := parse_ok text size read
    exact ⟨spelling, spelled,
      ((parse_ok_iff text spelling spelled (short spelling spelled) size).mp read).1⟩
  · rintro ⟨spelling, spelled, fits⟩
    exact ⟨spelling.size,
      (parse_ok_iff text spelling spelled (short spelling spelled) _).mpr ⟨fits, rfl⟩⟩
  · intro size read spelling spelled
    obtain ⟨fits, rfl⟩ :=
      (parse_ok_iff text spelling spelled (short spelling spelled) size).mp read
    exact spelling.represents (short spelling spelled) fits

/-- One and a half `Gi` are exact, with a plus and white space around them. -/
theorem parse_one_and_a_half :
    (∀ spelling : Spelling, spelling.IsOf " +1.5Gi " → spelling.places < 2 ^ 32) ∧
    parse " +1.5Gi " = .ok ⟨"+1.5Gi", 16106127360, 10⟩ ∧
    ∃ spelling : Spelling, spelling.IsOf " +1.5Gi " ∧ spelling.Fits ∧
      Represents ⟨"+1.5Gi", 16106127360, 10⟩ spelling := by
  have short : ∀ spelling : Spelling, spelling.IsOf " +1.5Gi " → spelling.places < 2 ^ 32 := by
    intro spelling spelled
    exact lt_of_le_of_lt (spelling.places_le _ spelled) (by decide)
  have read : parse " +1.5Gi " = .ok ⟨"+1.5Gi", 16106127360, 10⟩ := by rfl
  obtain ⟨reads, -, exact_value⟩ := parse_exact " +1.5Gi " short
  obtain ⟨spelling, spelled, fits⟩ := reads.mp ⟨_, read⟩
  exact ⟨short, read, spelling, spelled, fits, exact_value _ read spelling spelled⟩

end VolumeImport.Quantity
