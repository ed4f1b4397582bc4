import VolumeImport.Proofs.Json.Integers
import VolumeImport.Proofs.Json.Rows

/-!
The grammar of JSON values, whatever they are. Numbers have no bounds here, and strings need sound escapes
but no sensible characters.
-/

namespace VolumeImport.Json

inductive Quotable : Bytes → Prop
  | done : Quotable []
  | plain (byte : UInt8) (body : Bytes) (printable : ¬byte < 0x20) (not_quote : byte ≠ 0x22)
      (not_backslash : byte ≠ 0x5C) (rest : Quotable body) : Quotable (byte :: body)
  | short (letter byte : UInt8) (body : Bytes) (known : (letter, byte) ∈ shortEscapes)
      (rest : Quotable body) : Quotable (0x5C :: letter :: body)
  | unit (digits body : Bytes) (four : digits.length = 4)
      (hex : ∀ digit ∈ digits, ∃ value, IsHexDigit digit value) (rest : Quotable body) :
      Quotable (0x5C :: 0x75 :: (digits ++ body))

inductive IsQuoted : Bytes → Prop
  | quoted (before body : Bytes) (blank : AllBlank before) (quotable : Quotable body) :
      IsQuoted (before ++ 0x22 :: (body ++ [0x22]))

def IsDigits (digits : Bytes) : Prop :=
  digits ≠ [] ∧ ∀ digit ∈ digits, IsDecimal digit

inductive IsFraction : Bytes → Prop
  | absent : IsFraction []
  | present (digits : Bytes) (spelled : IsDigits digits) : IsFraction (0x2E :: digits)

inductive IsExponent : Bytes → Prop
  | absent : IsExponent []
  | present (mark : UInt8) (sign digits : Bytes) (marked : mark ∈ exponentMarks)
      (signed : sign ∈ [[], [0x2B], [0x2D]]) (spelled : IsDigits digits) :
      IsExponent (mark :: (sign ++ digits))

inductive IsNumber : Bytes → Prop
  | number (sign digits fraction exponent : Bytes) (signed : sign ∈ [[], [0x2D]])
      (literal : IsLiteral digits) (fractional : IsFraction fraction)
      (exponential : IsExponent exponent) : IsNumber (sign ++ (digits ++ (fraction ++ exponent)))

structure Pair where
  key : Bytes
  middle : Bytes
  value : Bytes
  after : Bytes
  quoted : IsQuoted key
  middle_blank : AllBlank middle
  after_blank : AllBlank after

namespace Pair

def text (pair : Pair) : Bytes :=
  pair.key ++ (pair.middle ++ 0x3A :: (pair.value ++ pair.after))

def closing (pairs : List Pair) : Bytes :=
  Json.closing 0x7D (pairs.map text)

def inside (blanks : Bytes) (pairs : List Pair) : Bytes :=
  Json.inside 0x7D blanks (pairs.map text)

end Pair

def words : List Bytes :=
  [[0x6E, 0x75, 0x6C, 0x6C], [0x74, 0x72, 0x75, 0x65], [0x66, 0x61, 0x6C, 0x73, 0x65]]

/-- One value of any kind, blanks before it included. -/
inductive IsValue : Bytes → Prop
  | word (before word : Bytes) (blank : AllBlank before) (known : word ∈ words) :
      IsValue (before ++ word)
  | number (before text : Bytes) (blank : AllBlank before) (spelled : IsNumber text) :
      IsValue (before ++ text)
  | string (text : Bytes) (quoted : IsQuoted text) : IsValue text
  | array (before blanks : Bytes) (elements : List Element) (blank : AllBlank before)
      (inside_blank : AllBlank blanks) (values : ∀ element ∈ elements, IsValue element.value) :
      IsValue (before ++ 0x5B :: Element.inside blanks elements)
  | object (before blanks : Bytes) (pairs : List Pair) (blank : AllBlank before)
      (inside_blank : AllBlank blanks) (values : ∀ pair ∈ pairs, IsValue pair.value) :
      IsValue (before ++ 0x7B :: Pair.inside blanks pairs)

theorem IsValue.after_blanks {text : Bytes} (value : IsValue text) (before : Bytes)
    (blank : AllBlank before) : IsValue (before ++ text) := by
  cases value with
  | word inner word inner_blank known =>
      rw [← List.append_assoc]
      exact .word _ word (blank.append inner_blank) known
  | number inner text inner_blank spelled =>
      rw [← List.append_assoc]
      exact .number _ text (blank.append inner_blank) spelled
  | string text quoted =>
      obtain ⟨inner, body, inner_blank, quotable⟩ := quoted
      rw [← List.append_assoc]
      exact .string _ (.quoted _ body (blank.append inner_blank) quotable)
  | array inner blanks elements inner_blank inside_blank values =>
      rw [← List.append_assoc]
      exact .array _ blanks elements (blank.append inner_blank) inside_blank values
  | object inner blanks pairs inner_blank inside_blank values =>
      rw [← List.append_assoc]
      exact .object _ blanks pairs (blank.append inner_blank) inside_blank values

end VolumeImport.Json
