import VolumeImport.Failure.Import
import VolumeImport.Json.Reader
import VolumeImport.Json.Writer
import VolumeImport.Number.Word
import VolumeImport.Text.Blank
import VolumeImport.Text.DecimalDigit

/-!
Sizes as quantities: a decimal numeral with an optional binary (`Ki` to `Ei`) or decimal (`n` to `E`)
suffix, or a power of ten (`e9`). A size is kept as an exact fraction, because the tools take whole byte
counts only and a volume must never come out smaller than what was asked for.

The numerator, the denominator and every factor have to stay below 2^128. In documents a size is its text.
-/

namespace VolumeImport

structure Quantity where
  text : String
  numerator : Nat
  denominator : Nat
  deriving DecidableEq

namespace Quantity

/-- What a suffix multiplies by: a power of 1024, or a power of ten that may be negative. -/
inductive Scale where
  | binary (power : Nat)
  | decimal (exponent : Int)
  deriving DecidableEq

def wordBound : Nat := Word.bound 128

def fit? (value : Nat) : Option Nat :=
  if value < wordBound then some value else none

def power? (base exponent : Nat) : Option Nat :=
  -- no base of at least two has a larger power below the bound
  if exponent ≤ 128 then fit? (Nat.pow base exponent) else none

def times? (left right : Nat) : Option Nat :=
  fit? (left * right)

def exponent? (text : List Char) : Option Int :=
  let (negative, digits) := match text with
    | '-' :: rest => (true, rest)
    | '+' :: rest => (false, rest)
    | _ => (false, text)
  if digits.isEmpty || !digits.all Text.isAsciiDigit then none
  else
    let magnitude := Text.decimalValue digits
    if negative then
      if magnitude ≤ Word.bound 31 then some (-magnitude) else none
    else
      if magnitude < Word.bound 31 then some magnitude else none

def scale? (suffix : List Char) : Option Scale :=
  match suffix with
  | [] => some (.decimal 0)
  | ['K', 'i'] => some (.binary 1)
  | ['M', 'i'] => some (.binary 2)
  | ['G', 'i'] => some (.binary 3)
  | ['T', 'i'] => some (.binary 4)
  | ['P', 'i'] => some (.binary 5)
  | ['E', 'i'] => some (.binary 6)
  | ['n'] => some (.decimal (-9))
  | ['u'] => some (.decimal (-6))
  | ['m'] => some (.decimal (-3))
  | ['k'] => some (.decimal 3)
  | ['M'] => some (.decimal 6)
  | ['G'] => some (.decimal 9)
  | ['T'] => some (.decimal 12)
  | ['P'] => some (.decimal 15)
  | ['E'] => some (.decimal 18)
  | 'e' :: digits | 'E' :: digits => (exponent? digits).map .decimal
  | _ => none

def Scale.apply? (scale : Scale) (numerator denominator : Nat) : Option (Nat × Nat) :=
  match scale with
  | .binary power => do
      let scaled ← times? numerator (← power? 1024 power)
      pure (scaled, denominator)
  | .decimal (.ofNat exponent) => do
      let scaled ← times? numerator (← power? 10 exponent)
      pure (scaled, denominator)
  -- a power of ten below one goes into the denominator
  | .decimal (.negSucc previous) => do
      let scaled ← times? denominator (← power? 10 (previous + 1))
      pure (numerator, scaled)

def splitPoint (number : List Char) : List Char × List Char :=
  (number.takeWhile (· ≠ '.'), (number.dropWhile (· ≠ '.')).drop 1)

def fraction? (text : List Char) : Option (Nat × Nat) := do
  let isNumeral := fun char => Text.isAsciiDigit char || char == '.'
  let (whole, part) := splitPoint (text.takeWhile isNumeral)
  if (whole.isEmpty && part.isEmpty) || part.contains '.' then none
  let numerator ← fit? (Text.decimalValue (whole ++ part))
  -- the number of digits counts as a 32-bit word
  let denominator ← power? 10 (part.length % Word.bound 32)
  let scale ← scale? (text.dropWhile isNumeral)
  scale.apply? numerator denominator

def dropPlus : List Char → List Char
  | '+' :: rest => rest
  | text => text

def parse (text : String) : Except ImportError Quantity :=
  let trimmed := Text.trim text.toList
  match fraction? (dropPlus trimmed) with
  | some (numerator, denominator) => .ok ⟨String.ofList trimmed, numerator, denominator⟩
  -- the refusal names the text as it came, blanks included
  | none => .error (.invalidSize text)

def ofBytes (bytes : Nat) : Quantity :=
  ⟨toString bytes, bytes, 1⟩

def isWhole (size : Quantity) : Bool :=
  size.numerator % size.denominator = 0

def ceiling (size : Quantity) : Nat :=
  (size.numerator + size.denominator - 1) / size.denominator

def toolText (size : Quantity) : String :=
  toString size.ceiling

def byteCount (size : Quantity) : Except ImportError Nat :=
  if size.ceiling < Word.bound 63 then .ok size.ceiling else .error (.invalidSize size.text)

def read : Json.Reader Quantity := fun bytes => do
  let (text, rest) ← Json.readString bytes
  match parse text with
  | .ok size => .ok (size, rest)
  | .error _ => .error .mismatched

def parseDocument (bytes : Bytes) : Except Json.Fault Quantity :=
  Json.readDocument read bytes

def write (size : Quantity) : List Char :=
  Json.writeText size.text

end Quantity

end VolumeImport
