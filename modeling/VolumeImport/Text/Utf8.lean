/-!
UTF-8 between texts and bytes.

Decoding cuts the bytes into pieces, each either one encoded character or one maximal invalid part: the
longest run of bytes that starts a character and cannot be continued, or else a single byte. Strict
reading accepts the bytes whose pieces are all characters; lossy reading puts U+FFFD in the place of
each invalid part.
-/

namespace VolumeImport

abbrev Bytes := List UInt8

namespace Utf8

def encodeChar (char : Char) : Bytes :=
  let code := char.toNat
  if code < 0x80 then
    [UInt8.ofNat code]
  else if code < 0x800 then
    [UInt8.ofNat (0xC0 + code / 64), UInt8.ofNat (0x80 + code % 64)]
  else if code < 0x10000 then
    [UInt8.ofNat (0xE0 + code / 4096), UInt8.ofNat (0x80 + code / 64 % 64),
      UInt8.ofNat (0x80 + code % 64)]
  else
    [UInt8.ofNat (0xF0 + code / 262144), UInt8.ofNat (0x80 + code / 4096 % 64),
      UInt8.ofNat (0x80 + code / 64 % 64), UInt8.ofNat (0x80 + code % 64)]

def encode (text : String) : Bytes :=
  text.toList.flatMap encodeChar

/-- A character of which the first bytes have been read. `low` and `high` bound the next byte: they are
narrower than 80..BF right after a first byte whose range holds overlong forms, surrogates or numbers
past the last character. -/
structure Pending where
  code : Nat
  missing : Nat
  low : Nat
  high : Nat

inductive Lead where
  | char (char : Char)
  | pending (pending : Pending)
  | invalid

def lead (byte : UInt8) : Lead :=
  let value := byte.toNat
  if value < 0x80 then .char (Char.ofNat value)
  -- a continuation byte, or the start of an overlong form
  else if value < 0xC2 then .invalid
  else if value < 0xE0 then .pending ⟨value - 0xC0, 1, 0x80, 0xBF⟩
  else if value = 0xE0 then .pending ⟨0, 2, 0xA0, 0xBF⟩
  else if value = 0xED then .pending ⟨0xD, 2, 0x80, 0x9F⟩
  else if value < 0xF0 then .pending ⟨value - 0xE0, 2, 0x80, 0xBF⟩
  else if value = 0xF0 then .pending ⟨0, 3, 0x90, 0xBF⟩
  else if value < 0xF4 then .pending ⟨value - 0xF0, 3, 0x80, 0xBF⟩
  else if value = 0xF4 then .pending ⟨4, 3, 0x80, 0x8F⟩
  else .invalid

def Pending.continue? (pending : Pending) (byte : UInt8) : Option (Char ⊕ Pending) :=
  let value := byte.toNat
  if value < pending.low ∨ pending.high < value then none
  else
    let code := pending.code * 64 + (value - 0x80)
    if pending.missing = 1 then some (.inl (Char.ofNat code))
    else some (.inr ⟨code, pending.missing - 1, 0x80, 0xBF⟩)

/-- One piece of a byte string: a character, or `none` for a maximal invalid part. -/
abbrev Piece := Option Char

def piecesAfter : Option Pending → Bytes → List Piece
  | none, [] => []
  | some _, [] => [none]
  | none, byte :: rest =>
      match lead byte with
      | .char char => some char :: piecesAfter none rest
      | .pending pending => piecesAfter (some pending) rest
      | .invalid => none :: piecesAfter none rest
  | some pending, byte :: rest =>
      match pending.continue? byte with
      | some (.inl char) => some char :: piecesAfter none rest
      | some (.inr further) => piecesAfter (some further) rest
      | none =>
          -- the byte ends an invalid part and starts the next piece
          match lead byte with
          | .char char => none :: some char :: piecesAfter none rest
          | .pending next => none :: piecesAfter (some next) rest
          | .invalid => none :: none :: piecesAfter none rest

def pieces (bytes : Bytes) : List Piece :=
  piecesAfter none bytes

def decode? (bytes : Bytes) : Option String :=
  ((pieces bytes).mapM id).map String.ofList

def replacement : Char := '\uFFFD'

/-- Lossy reading: every maximal invalid part becomes one U+FFFD. -/
def decodeLossy (bytes : Bytes) : String :=
  String.ofList ((pieces bytes).map (·.getD replacement))

end Utf8

end VolumeImport
