import Mathlib.Data.Nat.Digits.Defs
import VolumeImport.Json.Skim

/-!
The bytes that the grammar gives a meaning to, as it lists them: blanks, digits, exponent marks and escapes. The
readers tell the same bytes apart, and take the same values for them.
-/

namespace VolumeImport.Json

def blankBytes : Bytes :=
  [0x20, 0x09, 0x0A, 0x0D]

theorem isBlank_iff (byte : UInt8) : isBlank byte = true ↔ byte ∈ blankBytes := by
  simp only [isBlank, blankBytes, Bool.or_eq_true, decide_eq_true_eq, List.mem_cons, List.not_mem_nil,
    or_false]
  tauto

def IsDecimal (byte : UInt8) : Prop :=
  0x30 ≤ byte ∧ byte ≤ 0x39

theorem isDigit_iff (byte : UInt8) : isDigit byte = true ↔ IsDecimal byte := by
  simp [isDigit, IsDecimal]

def exponentMarks : Bytes :=
  [0x65, 0x45]

theorem isExponentMark_iff (byte : UInt8) :
    isExponentMark byte = true ↔ byte ∈ exponentMarks := by
  simp [isExponentMark, exponentMarks]

/-- The number that a row of digits denotes, the last of them for the units. -/
def digitsValue (digits : Bytes) : Nat :=
  Nat.ofDigits 10 (digits.reverse.map fun digit => digit.toNat - 0x30)

theorem foldl_digitsValue (digits : Bytes) :
    digits.foldl (fun value digit => value * 10 + digitValue digit) 0 = digitsValue digits := by
  rw [digitsValue, Nat.ofDigits_eq_foldr, List.foldr_map, List.foldr_reverse]
  congr 1
  funext value digit
  simp [digitValue, Nat.mul_comm, Nat.add_comm]

/-- The letters that may stand behind a backslash, and what they stand for. -/
def shortEscapes : List (UInt8 × UInt8) :=
  [(0x22, 0x22), (0x5C, 0x5C), (0x2F, 0x2F), (0x62, 0x08), (0x66, 0x0C), (0x6E, 0x0A), (0x72, 0x0D),
    (0x74, 0x09)]

theorem shortEscape?_iff (letter byte : UInt8) :
    shortEscape? letter = some byte ↔ (letter, byte) ∈ shortEscapes := by
  unfold shortEscape?
  split <;> simp_all [shortEscapes, eq_comm]

theorem shortEscape?_isSome_iff (letter : UInt8) :
    (shortEscape? letter).isSome = true ↔ ∃ byte, (letter, byte) ∈ shortEscapes := by
  simp only [Option.isSome_iff_exists, shortEscape?_iff]

inductive IsHexDigit : UInt8 → Nat → Prop
  | numeral (byte : UInt8) (value : Nat) (small : value < 10) (spelled : byte.toNat = 0x30 + value) :
      IsHexDigit byte value
  | capital (byte : UInt8) (value : Nat) (small : value < 6) (spelled : byte.toNat = 0x41 + value) :
      IsHexDigit byte (10 + value)
  | small (byte : UInt8) (value : Nat) (small : value < 6) (spelled : byte.toNat = 0x61 + value) :
      IsHexDigit byte (10 + value)

theorem hexDigit?_iff (byte : UInt8) (value : Nat) :
    hexDigit? byte = some value ↔ IsHexDigit byte value := by
  simp only [hexDigit?]
  constructor
  · intro read
    split at read
    · obtain rfl := Option.some.inj read
      exact .numeral byte _ (by omega) (by omega)
    · split at read
      · obtain rfl := Option.some.inj read
        rw [show byte.toNat - 0x37 = 10 + (byte.toNat - 0x41) by omega]
        exact .capital byte _ (by omega) (by omega)
      · split at read
        · obtain rfl := Option.some.inj read
          rw [show byte.toNat - 0x57 = 10 + (byte.toNat - 0x61) by omega]
          exact .small byte _ (by omega) (by omega)
        · cases read
  · intro spelled
    cases spelled with
    | numeral value small spelled => grind
    | capital value small spelled => grind
    | small value small spelled => grind

theorem hexDigit?_isSome_iff (byte : UInt8) :
    (hexDigit? byte).isSome = true ↔ ∃ value, IsHexDigit byte value := by
  simp only [Option.isSome_iff_exists, hexDigit?_iff]

def IsHexUnit (a b c d : UInt8) (unit : Nat) : Prop :=
  ∃ p q r s, IsHexDigit a p ∧ IsHexDigit b q ∧ IsHexDigit c r ∧ IsHexDigit d s ∧
    unit = p * 0x1000 + q * 0x100 + r * 0x10 + s

theorem hexUnit?_iff (a b c d : UInt8) (unit : Nat) :
    hexUnit? a b c d = some unit ↔ IsHexUnit a b c d unit := by
  simp only [hexUnit?, IsHexUnit, Option.pure_def, Option.bind_eq_bind, Option.bind_eq_some_iff,
    Option.some.injEq, hexDigit?_iff]
  grind

def IsLeading (unit : Nat) : Prop :=
  0xD800 ≤ unit ∧ unit ≤ 0xDBFF

def IsTrailing (unit : Nat) : Prop :=
  0xDC00 ≤ unit ∧ unit ≤ 0xDFFF

theorem isLeadingSurrogate_iff (unit : Nat) :
    isLeadingSurrogate unit = true ↔ IsLeading unit := by
  simp [isLeadingSurrogate, IsLeading]

theorem isTrailingSurrogate_iff (unit : Nat) :
    isTrailingSurrogate unit = true ↔ IsTrailing unit := by
  simp [isTrailingSurrogate, IsTrailing]

end VolumeImport.Json
