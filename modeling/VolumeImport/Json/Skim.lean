import VolumeImport.Json.Number
import VolumeImport.Json.Text

/-!
Skipping a JSON value of any kind and depth. The text has to be well formed, but nothing in it has to have
a value: numbers may be out of range and strings need not be UTF-8.

The skipper is a machine that takes one byte at a time and keeps the open containers on a stack, so depth
costs no recursion. A number that the text breaks off is malformed and not merely unfinished.
-/

namespace VolumeImport.Json

def isBlank (byte : UInt8) : Bool :=
  byte = 0x20 || byte = 0x0A || byte = 0x09 || byte = 0x0D

inductive Container where
  | array
  | object
  deriving DecidableEq

/-- What the skipper is in the middle of. `isKey` tells the key of a member from any other string. -/
inductive Skim where
  | value
  | firstElement
  | firstKey
  | nextKey
  | colon
  | afterValue
  | text (isKey : Bool)
  | escape (isKey : Bool)
  | unit (isKey : Bool) (missing : Nat) (isSound : Bool)
  | word (missing : Bytes)
  | sign
  | zero
  | whole
  | point
  | fraction
  | exponent
  | exponentSign
  | exponentDigits
  deriving DecidableEq

inductive Turn where
  | go (stack : List Container) (state : Skim)
  | endBefore
  | endBehind
  deriving DecidableEq

namespace Skim

def close (stack : List Container) : Turn :=
  if stack.isEmpty then .endBehind else .go stack .afterValue

def start (stack : List Container) (byte : UInt8) : Except Fault Turn :=
  match byte with
  | 0x6E => .ok (.go stack (.word [0x75, 0x6C, 0x6C]))
  | 0x74 => .ok (.go stack (.word [0x72, 0x75, 0x65]))
  | 0x66 => .ok (.go stack (.word [0x61, 0x6C, 0x73, 0x65]))
  | 0x2D => .ok (.go stack .sign)
  | 0x22 => .ok (.go stack (.text false))
  | 0x5B => .ok (.go (.array :: stack) .firstElement)
  | 0x7B => .ok (.go (.object :: stack) .firstKey)
  | 0x30 => .ok (.go stack .zero)
  | _ => if isDigit byte then .ok (.go stack .whole) else .error .malformed

def separate (stack : List Container) (byte : UInt8) : Except Fault Turn :=
  if isBlank byte then .ok (.go stack .afterValue)
  else
    match stack, byte with
    | .array :: _, 0x2C => .ok (.go stack .value)
    | .object :: _, 0x2C => .ok (.go stack .nextKey)
    | .array :: outer, 0x5D => .ok (close outer)
    | .object :: outer, 0x7D => .ok (close outer)
    | _, _ => .error .malformed

/-- The byte behind a complete number: it ends the value, and belongs to whatever the value stands in. -/
def leave (stack : List Container) (byte : UInt8) : Except Fault Turn :=
  if stack.isEmpty then .ok .endBefore else separate stack byte

def mantissa (stack : List Container) (byte : UInt8) : Except Fault Turn :=
  if byte = 0x2E then .ok (.go stack .point)
  else if isExponentMark byte then .ok (.go stack .exponent)
  else leave stack byte

def closeText (stack : List Container) (isKey : Bool) : Turn :=
  if isKey then .go stack .colon else close stack

def step (stack : List Container) (state : Skim) (byte : UInt8) : Except Fault Turn :=
  match state with
  | .value => if isBlank byte then .ok (.go stack .value) else start stack byte
  | .firstElement =>
      if isBlank byte then .ok (.go stack .firstElement)
      else if byte = 0x5D then .ok (close stack.tail)
      else start stack byte
  | .firstKey =>
      if isBlank byte then .ok (.go stack .firstKey)
      else if byte = 0x7D then .ok (close stack.tail)
      else if byte = quoteByte then .ok (.go stack (.text true))
      else .error .malformed
  | .nextKey =>
      if isBlank byte then .ok (.go stack .nextKey)
      else if byte = quoteByte then .ok (.go stack (.text true))
      else .error .malformed
  | .colon =>
      if isBlank byte then .ok (.go stack .colon)
      else if byte = 0x3A then .ok (.go stack .value)
      else .error .malformed
  | .afterValue => separate stack byte
  | .text isKey =>
      if byte = quoteByte then .ok (closeText stack isKey)
      else if byte = backslash then .ok (.go stack (.escape isKey))
      else if byte < 0x20 then .error .malformed
      else .ok (.go stack (.text isKey))
  | .escape isKey =>
      if byte = 0x75 then .ok (.go stack (.unit isKey 4 true))
      else if (shortEscape? byte).isSome then .ok (.go stack (.text isKey))
      else .error .malformed
  | .unit isKey missing isSound =>
      let isSound := isSound && (hexDigit? byte).isSome
      if 1 < missing then .ok (.go stack (.unit isKey (missing - 1) isSound))
      else if isSound then .ok (.go stack (.text isKey))
      else .error .malformed
  | .word missing =>
      match missing with
      | [] => .error .malformed
      | [letter] => if byte = letter then .ok (close stack) else .error .malformed
      | letter :: rest => if byte = letter then .ok (.go stack (.word rest)) else .error .malformed
  | .sign =>
      if byte = 0x30 then .ok (.go stack .zero)
      else if isDigit byte then .ok (.go stack .whole)
      else .error .malformed
  | .zero => if isDigit byte then .error .malformed else mantissa stack byte
  | .whole => if isDigit byte then .ok (.go stack .whole) else mantissa stack byte
  | .point => if isDigit byte then .ok (.go stack .fraction) else .error .malformed
  | .fraction =>
      if isDigit byte then .ok (.go stack .fraction)
      else if isExponentMark byte then .ok (.go stack .exponent)
      else leave stack byte
  | .exponent =>
      if byte = 0x2B || byte = 0x2D then .ok (.go stack .exponentSign)
      else if isDigit byte then .ok (.go stack .exponentDigits)
      else .error .malformed
  | .exponentSign => if isDigit byte then .ok (.go stack .exponentDigits) else .error .malformed
  | .exponentDigits =>
      if isDigit byte then .ok (.go stack .exponentDigits) else leave stack byte

def finish (stack : List Container) (state : Skim) : Except Fault Bytes :=
  match state with
  | .zero | .whole | .fraction | .exponentDigits =>
      if stack.isEmpty then .ok [] else .error .truncated
  | .sign | .point | .exponent | .exponentSign => .error .malformed
  | _ => .error .truncated

def run (stack : List Container) (state : Skim) : Bytes → Except Fault Bytes
  | [] => finish stack state
  | byte :: rest =>
      match step stack state byte with
      | .error fault => .error fault
      | .ok (.go stack state) => run stack state rest
      | .ok .endBefore => .ok (byte :: rest)
      | .ok .endBehind => .ok rest

end Skim

def skipValue (bytes : Bytes) : Except Fault Bytes :=
  Skim.run [] .value bytes

end VolumeImport.Json
