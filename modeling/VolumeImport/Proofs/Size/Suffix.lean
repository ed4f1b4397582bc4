import Mathlib.Algebra.Order.Ring.Nat
import VolumeImport.Proofs.Text.Numeral
import VolumeImport.Size.Quantity

/-!
What a suffix may be: a name from a table, or a mark with a signed exponent behind it. No suffix begins like
a number goes on and none holds white space, so where a number ends never depends on what follows it.
-/

namespace VolumeImport.Quantity

open Text

inductive IsExponent : List Char → Int → Prop
  | plain (digits : List Char) (some_digit : digits ≠ []) (plain : AllDigits digits)
      (fits : Nat.ofDigitChars 10 digits 0 < 2 ^ 31) :
      IsExponent digits (Nat.ofDigitChars 10 digits 0)
  | plus (digits : List Char) (some_digit : digits ≠ []) (plain : AllDigits digits)
      (fits : Nat.ofDigitChars 10 digits 0 < 2 ^ 31) :
      IsExponent ('+' :: digits) (Nat.ofDigitChars 10 digits 0)
  | minus (digits : List Char) (some_digit : digits ≠ []) (plain : AllDigits digits)
      (fits : Nat.ofDigitChars 10 digits 0 ≤ 2 ^ 31) :
      IsExponent ('-' :: digits) (-Nat.ofDigitChars 10 digits 0)

theorem unreadable_iff (digits : List Char) :
    (digits.isEmpty || !digits.all isAsciiDigit) = false ↔ digits ≠ [] ∧ AllDigits digits := by
  simp [AllDigits]

theorem exponent?_minus (digits : List Char) (value : Int) :
    exponent? ('-' :: digits) = some value ↔ (digits ≠ [] ∧ AllDigits digits) ∧
      Nat.ofDigitChars 10 digits 0 ≤ 2 ^ 31 ∧ -(Nat.ofDigitChars 10 digits 0 : Int) = value := by
  have limit : Word.bound 31 = 2 ^ 31 := rfl
  simp only [exponent?, decimalValue_eq, limit, ← unreadable_iff]
  cases digits.isEmpty || !digits.all isAsciiDigit with
  | true => simp
  | false => simp

theorem exponent?_plus (digits : List Char) (value : Int) :
    exponent? ('+' :: digits) = some value ↔ (digits ≠ [] ∧ AllDigits digits) ∧
      Nat.ofDigitChars 10 digits 0 < 2 ^ 31 ∧ (Nat.ofDigitChars 10 digits 0 : Int) = value := by
  have limit : Word.bound 31 = 2 ^ 31 := rfl
  simp only [exponent?, decimalValue_eq, limit, ← unreadable_iff]
  cases digits.isEmpty || !digits.all isAsciiDigit with
  | true => simp
  | false => simp

theorem exponent?_unsigned (digits : List Char) (minus : digits.head? ≠ some '-')
    (plus : digits.head? ≠ some '+') : exponent? digits = exponent? ('+' :: digits) := by
  cases digits with
  | nil => rfl
  | cons first rest =>
      have not_minus : first ≠ '-' := by simpa using minus
      have not_plus : first ≠ '+' := by simpa using plus
      simp [exponent?, not_minus, not_plus]

theorem head_of_digits (digits : List Char) (plain : AllDigits digits) (char : Char)
    (other : isAsciiDigit char = false) : digits.head? ≠ some char := by
  intro first
  have digit := plain char (List.mem_of_mem_head? first)
  rw [other] at digit
  cases digit

theorem exponent?_iff (text : List Char) (value : Int) :
    exponent? text = some value ↔ IsExponent text value := by
  constructor
  · intro read
    by_cases minus : text.head? = some '-'
    · obtain ⟨digits, rfl⟩ : ∃ digits, text = '-' :: digits := by
        cases text <;> simp_all
      obtain ⟨⟨some_digit, plain⟩, fits, rfl⟩ := (exponent?_minus digits value).mp read
      exact .minus digits some_digit plain fits
    · by_cases plus : text.head? = some '+'
      · obtain ⟨digits, rfl⟩ : ∃ digits, text = '+' :: digits := by
          cases text <;> simp_all
        obtain ⟨⟨some_digit, plain⟩, fits, rfl⟩ := (exponent?_plus digits value).mp read
        exact .plus digits some_digit plain fits
      · rw [exponent?_unsigned text minus plus] at read
        obtain ⟨⟨some_digit, plain⟩, fits, rfl⟩ := (exponent?_plus text value).mp read
        exact .plain text some_digit plain fits
  · intro spelled
    cases spelled with
    | plain _ some_digit plain fits =>
        rw [exponent?_unsigned text (head_of_digits text plain '-' rfl)
          (head_of_digits text plain '+' rfl)]
        exact (exponent?_plus text _).mpr ⟨⟨some_digit, plain⟩, fits, rfl⟩
    | plus digits some_digit plain fits =>
        exact (exponent?_plus digits _).mpr ⟨⟨some_digit, plain⟩, fits, rfl⟩
    | minus digits some_digit plain fits =>
        exact (exponent?_minus digits _).mpr ⟨⟨some_digit, plain⟩, fits, rfl⟩

def suffixes : List (String × Scale) :=
  [("", .decimal 0),
    ("Ki", .binary 1), ("Mi", .binary 2), ("Gi", .binary 3), ("Ti", .binary 4), ("Pi", .binary 5),
    ("Ei", .binary 6),
    ("n", .decimal (-9)), ("u", .decimal (-6)), ("m", .decimal (-3)), ("k", .decimal 3),
    ("M", .decimal 6), ("G", .decimal 9), ("T", .decimal 12), ("P", .decimal 15),
    ("E", .decimal 18)]

inductive Denotes : List Char → Scale → Prop
  | named (name : String) (scale : Scale) (listed : (name, scale) ∈ suffixes) :
      Denotes name.toList scale
  | power (mark : Char) (text : List Char) (exponent : Int) (marked : mark = 'e' ∨ mark = 'E')
      (spelled : IsExponent text exponent) : Denotes (mark :: text) (.decimal exponent)

theorem denotes_of_listed (suffix : List Char) (scale : Scale)
    (listed : (String.ofList suffix, scale) ∈ suffixes) : Denotes suffix scale := by
  have named := Denotes.named (String.ofList suffix) scale listed
  rwa [String.toList_ofList] at named

theorem scale?_named : ∀ entry ∈ suffixes, scale? entry.1.toList = some entry.2 := by
  decide

theorem scale?_power (mark : Char) (text : List Char) (exponent : Int)
    (marked : mark = 'e' ∨ mark = 'E') (spelled : IsExponent text exponent) :
    scale? (mark :: text) = some (.decimal exponent) := by
  have read := (exponent?_iff text exponent).mpr spelled
  -- E and Ei are names too, but an exponent is neither empty nor an i
  have not_e : text ≠ [] := by
    rintro rfl
    cases read
  have not_ei : text ≠ ['i'] := by
    rintro rfl
    cases read
  rcases marked with rfl | rfl <;> simp [scale?, read]

theorem scale?_iff (suffix : List Char) (scale : Scale) :
    scale? suffix = some scale ↔ Denotes suffix scale := by
  constructor
  · intro read
    unfold scale? at read
    split at read
    case h_17 digits =>
      obtain ⟨exponent, spelled, rfl⟩ := Option.map_eq_some_iff.mp read
      exact .power 'e' digits exponent (.inl rfl) ((exponent?_iff digits exponent).mp spelled)
    case h_18 digits _ _ =>
      obtain ⟨exponent, spelled, rfl⟩ := Option.map_eq_some_iff.mp read
      exact .power 'E' digits exponent (.inr rfl) ((exponent?_iff digits exponent).mp spelled)
    case h_19 => cases read
    -- what is left are the names, each at its place in the table
    all_goals
      obtain rfl := Option.some.inj read
      exact denotes_of_listed _ _ (by decide)
  · intro denotes
    cases denotes with
    | named name scale listed => exact scale?_named (name, scale) listed
    | power mark text exponent marked spelled =>
        exact scale?_power mark text exponent marked spelled

def isNumeral (char : Char) : Bool :=
  isAsciiDigit char || char == '.'

theorem suffix_head (suffix : List Char) (scale : Scale) (denotes : Denotes suffix scale) :
    ∀ char ∈ suffix.head?, isNumeral char = false := by
  cases denotes with
  | named name scale listed =>
      have heads : ∀ entry ∈ suffixes, entry.1.toList.head?.all (!isNumeral ·) = true := by
        decide
      simpa [Option.all_eq_true] using heads (name, scale) listed
  | power mark text exponent marked spelled =>
      intro char first
      obtain rfl := Option.some.inj first
      rcases marked with rfl | rfl <;> rfl

def alphabet : List Char :=
  "0123456789.+-EGKMPTeikmnu".toList

theorem digit_listed (char : Char) (digit : isAsciiDigit char = true) : char ∈ alphabet := by
  have range : '0'.toNat ≤ char.toNat ∧ char.toNat ≤ '9'.toNat := by
    simpa [isAsciiDigit, Char.le_def, UInt32.le_iff_toNat_le] using digit
  have listed : ∀ code ≤ '9'.toNat, '0'.toNat ≤ code → Char.ofNat code ∈ alphabet := by decide
  simpa using listed char.toNat range.2 range.1

theorem exponent_listed (text : List Char) (exponent : Int) (spelled : IsExponent text exponent) :
    ∀ char ∈ text, char ∈ alphabet := by
  cases spelled with
  | plain _ some_digit plain fits => exact fun char member => digit_listed char (plain char member)
  | plus digits some_digit plain fits =>
      exact List.forall_mem_cons.mpr
        ⟨by decide, fun char member => digit_listed char (plain char member)⟩
  | minus digits some_digit plain fits =>
      exact List.forall_mem_cons.mpr
        ⟨by decide, fun char member => digit_listed char (plain char member)⟩

theorem suffix_listed (suffix : List Char) (scale : Scale) (denotes : Denotes suffix scale) :
    ∀ char ∈ suffix, char ∈ alphabet := by
  cases denotes with
  | named name scale listed =>
      have names : (suffixes.all fun entry => entry.1.toList.all alphabet.contains) = true := by decide
      simpa [List.all_eq_true] using List.all_eq_true.mp names (name, scale) listed
  | power mark text exponent marked spelled =>
      have listed := exponent_listed text exponent spelled
      rcases marked with rfl | rfl <;> exact List.forall_mem_cons.mpr ⟨by decide, listed⟩

theorem digit_not_point (char : Char) (digit : isAsciiDigit char = true) : char ≠ '.' := by
  rintro rfl
  cases digit

theorem digit_of_isNumeral (char : Char) (numeral : isNumeral char = true) (other : char ≠ '.') :
    isAsciiDigit char = true := by
  simpa [isNumeral, other] using numeral

end VolumeImport.Quantity
