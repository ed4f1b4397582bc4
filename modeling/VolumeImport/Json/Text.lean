import VolumeImport.Json.Fault
import VolumeImport.Text.Utf8

/-!
JSON strings, read from behind the opening quote and written with the fewest escapes.

The bytes between the quotes are gathered first, escapes resolved, and must be UTF-8 as a whole when the
closing quote is reached. A character past U+FFFF is escaped as a pair of surrogates; a surrogate without
its partner breaks the grammar.
-/

namespace VolumeImport.Json

def quoteByte : UInt8 := 0x22
def backslash : UInt8 := 0x5C

def hexDigit? (byte : UInt8) : Option Nat :=
  let value := byte.toNat
  if 0x30 ≤ value ∧ value ≤ 0x39 then some (value - 0x30)
  else if 0x41 ≤ value ∧ value ≤ 0x46 then some (value - 0x37)
  else if 0x61 ≤ value ∧ value ≤ 0x66 then some (value - 0x57)
  else none

def hexUnit? (a b c d : UInt8) : Option Nat := do
  pure ((((← hexDigit? a) * 16 + (← hexDigit? b)) * 16 + (← hexDigit? c)) * 16 + (← hexDigit? d))

def shortEscape? (letter : UInt8) : Option UInt8 :=
  match letter with
  | 0x22 => some 0x22
  | 0x5C => some 0x5C
  | 0x2F => some 0x2F
  | 0x62 => some 0x08
  | 0x66 => some 0x0C
  | 0x6E => some 0x0A
  | 0x72 => some 0x0D
  | 0x74 => some 0x09
  | _ => none

def isLeadingSurrogate (unit : Nat) : Bool :=
  0xD800 ≤ unit && unit ≤ 0xDBFF

def isTrailingSurrogate (unit : Nat) : Bool :=
  0xDC00 ≤ unit && unit ≤ 0xDFFF

def surrogatePair (leading trailing : Nat) : Char :=
  Char.ofNat (0x10000 + (leading - 0xD800) * 0x400 + (trailing - 0xDC00))

def pushChar (char : Char) (taken : Bytes) : Bytes :=
  (Utf8.encodeChar char).reverse ++ taken

/-- The bytes up to the closing quote, escapes resolved, and the text behind it. `taken` holds the bytes
gathered so far, the latest first. -/
def gather (taken : Bytes) : Bytes → Except Fault (Bytes × Bytes)
  | [] => .error .truncated
  | 0x22 :: rest => .ok (taken.reverse, rest)
  | [0x5C] => .error .truncated
  | 0x5C :: 0x75 :: a :: b :: c :: d :: rest =>
      match hexUnit? a b c d with
      | none => .error .malformed
      | some unit =>
          -- half a pair stands for no character
          if isTrailingSurrogate unit then .error .malformed
          else if !isLeadingSurrogate unit then gather (pushChar (Char.ofNat unit) taken) rest
          else
            match rest with
            | [] => .error .truncated
            | 0x5C :: [] => .error .truncated
            | 0x5C :: 0x75 :: e :: f :: g :: h :: more =>
                match hexUnit? e f g h with
                | none => .error .malformed
                | some partner =>
                    if isTrailingSurrogate partner then
                      gather (pushChar (surrogatePair unit partner) taken) more
                    else .error .malformed
            | 0x5C :: 0x75 :: _ => .error .truncated
            | _ => .error .malformed
  | 0x5C :: 0x75 :: _ => .error .truncated
  | 0x5C :: letter :: rest =>
      match shortEscape? letter with
      | some byte => gather (byte :: taken) rest
      | none => .error .malformed
  | byte :: rest =>
      if byte < 0x20 then .error .malformed else gather (byte :: taken) rest

def readText (bytes : Bytes) : Except Fault (String × Bytes) := do
  let (content, rest) ← gather [] bytes
  match Utf8.decode? content with
  | some text => .ok (text, rest)
  | none => .error .malformed

def hexDigit (value : Nat) : Char :=
  Nat.digitChar value

def writeChar (char : Char) : List Char :=
  match char with
  | '"' => ['\\', '"']
  | '\\' => ['\\', '\\']
  | '\x08' => ['\\', 'b']
  | '\x0c' => ['\\', 'f']
  | '\n' => ['\\', 'n']
  | '\r' => ['\\', 'r']
  | '\t' => ['\\', 't']
  | _ =>
      -- of the rest only the controls need an escape
      if char.toNat < 0x20 then
        ['\\', 'u', '0', '0', hexDigit (char.toNat / 16), hexDigit (char.toNat % 16)]
      else [char]

def writeText (text : String) : List Char :=
  '"' :: text.toList.flatMap writeChar ++ ['"']

end VolumeImport.Json
