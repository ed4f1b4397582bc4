import VolumeImport.Json.Fault
import VolumeImport.Number.Word
import VolumeImport.Text.Utf8

/-!
JSON numbers. Only a plain integer literal has a value here; every other number is merely well formed, but
a literal too large for a binary floating point number of 64 bits breaks the grammar.

The digits of a number are gathered in a 64-bit word. Integer digits past the word count as powers of ten,
and fraction digits past it are dropped.
-/

namespace VolumeImport.Json

inductive Number where
  /-- An integer literal without a sign. -/
  | natural (value : Nat)
  /-- An integer literal with a minus sign, by its magnitude. -/
  | negated (magnitude : Nat)
  /-- A literal with a fraction or an exponent, or an integer past the word. -/
  | inexact
  deriving DecidableEq

def isDigit (byte : UInt8) : Bool :=
  0x30 ≤ byte && byte ≤ 0x39

def digitValue (byte : UInt8) : Nat :=
  byte.toNat - 0x30

def isExponentMark (byte : UInt8) : Bool :=
  byte = 0x65 || byte = 0x45

/-- Takes digits into a word as long as they fit; returns the word and the digits left over. -/
def absorb (word : Nat) : Bytes → Nat × Bytes
  | [] => (word, [])
  | digit :: rest =>
      let next := word * 10 + digitValue digit
      if next < Word.bound 64 then absorb next rest else (word, digit :: rest)

/-- A natural number rounded to 53 significant bits, a half going to the even neighbour. -/
def roundTo53 (value : Nat) : Nat :=
  let excess := value.log2 + 1 - 53
  let unit := Word.bound excess
  let quotient := value / unit
  let remainder := value % unit
  let up := unit < 2 * remainder ∨ (2 * remainder = unit ∧ quotient % 2 = 1)
  if excess = 0 then value
  else (if up then quotient + 1 else quotient) * unit

/-- Whether a word times a power of ten is a finite floating point number. Both factors are rounded
before they are multiplied, and the product overflows from half a step above the largest number on. -/
def isFinite (word : Nat) (exponent : Int) : Bool :=
  word = 0 || exponent < 0
    || (exponent ≤ 308
      && roundTo53 word * roundTo53 (Nat.pow 10 exponent.toNat)
        < Word.bound 1024 - Word.bound 970)

def inexact (word : Nat) (exponent : Int) (rest : Bytes) : Except Fault (Number × Bytes) :=
  if isFinite word exponent then .ok (.inexact, rest) else .error .malformed

def someDigits (bytes : Bytes) : Except Fault (Bytes × Bytes) :=
  match bytes with
  | [] => .error .truncated
  | byte :: _ =>
      if isDigit byte then .ok (bytes.takeWhile isDigit, bytes.dropWhile isDigit)
      else .error .malformed

/-- An exponent, after its mark. A magnitude past 31 bits makes any number but zero too large, or, with a
minus sign, zero. -/
def readExponent (word : Nat) (scale : Int) (bytes : Bytes) : Except Fault (Number × Bytes) := do
  let (negative, unsigned) := match bytes with
    | 0x2B :: rest => (false, rest)
    | 0x2D :: rest => (true, rest)
    | _ => (false, bytes)
  let (digits, rest) ← someDigits unsigned
  let magnitude := digits.foldl (fun value digit => value * 10 + digitValue digit) 0
  if magnitude < Word.bound 31 then
    inexact word (if negative then scale - magnitude else scale + magnitude) rest
  else if negative || word = 0 then .ok (.inexact, rest)
  else .error .malformed

def readFraction (word : Nat) (scale : Int) (bytes : Bytes) : Except Fault (Number × Bytes) := do
  let (digits, rest) ← someDigits bytes
  let (word, left) := absorb word digits
  let scale := scale - (digits.length - left.length : Nat)
  match rest with
  | mark :: more =>
      if isExponentMark mark then readExponent word scale more else inexact word scale rest
  | [] => inexact word scale rest

def readNumber (negative : Bool) (bytes : Bytes) : Except Fault (Number × Bytes) := do
  let (digits, rest) ← someDigits bytes
  if digits.head? = some 0x30 && 1 < digits.length then .error .malformed
  let (word, left) := absorb 0 digits
  let plain :=
    if left.isEmpty then
      .ok (if negative then .negated word else .natural word, rest)
    else inexact word left.length rest
  match rest with
  | mark :: more =>
      if mark = 0x2E then readFraction word left.length more
      else if isExponentMark mark then readExponent word left.length more
      else plain
  | [] => plain

end VolumeImport.Json
