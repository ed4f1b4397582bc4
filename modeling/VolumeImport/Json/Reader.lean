import VolumeImport.Json.Skim

/-!
Reading JSON values of known types. A reader takes the text from some point on and returns what it read
with the text behind it, or the first fault on the way.
-/

namespace VolumeImport.Json

abbrev Reader (α : Type) := Bytes → Except Fault (α × Bytes)

def skipBlanks (bytes : Bytes) : Bytes :=
  bytes.dropWhile isBlank

def readWord : Bytes → Bytes → Except Fault Bytes
  | [], bytes => .ok bytes
  | _ :: _, [] => .error .truncated
  | letter :: letters, byte :: rest =>
      if byte = letter then readWord letters rest else .error .malformed

def faultOr (fault : Fault) {α : Type} : Except Fault α → Fault
  | .error earlier => earlier
  | .ok _ => fault

/-- The fault of a value that has another type than the one needed. A word, number or string is read to
its end first, and a fault inside it comes earlier. -/
def mismatch : Bytes → Fault
  | [] => .truncated
  | byte :: rest =>
      match byte with
      | 0x6E => faultOr .mismatched (readWord [0x75, 0x6C, 0x6C] rest)
      | 0x74 => faultOr .mismatched (readWord [0x72, 0x75, 0x65] rest)
      | 0x66 => faultOr .mismatched (readWord [0x61, 0x6C, 0x73, 0x65] rest)
      | 0x2D => faultOr .mismatched (readNumber true rest)
      | 0x22 => faultOr .mismatched (readText rest)
      -- a container is refused at its bracket, whatever it holds
      | 0x5B | 0x7B => .mismatched
      | _ =>
          if isDigit byte then faultOr .mismatched (readNumber false (byte :: rest))
          else .malformed

def readString : Reader String := fun bytes =>
  match skipBlanks bytes with
  | 0x22 :: rest => readText rest
  | other => .error (mismatch other)

def readLiteral : Reader Number := fun bytes =>
  match skipBlanks bytes with
  | 0x2D :: rest => readNumber true rest
  | byte :: rest =>
      if isDigit byte then readNumber false (byte :: rest) else .error (mismatch (byte :: rest))
  | [] => .error .truncated

def Number.integer : Number → Except Fault Int
  | .natural value => .ok value
  -- minus zero is no integer
  | .negated magnitude => if magnitude = 0 then .error .mismatched else .ok (-magnitude)
  | .inexact => .error .mismatched

def readInteger (low high : Int) : Reader Int := fun bytes => do
  let (number, rest) ← readLiteral bytes
  let value ← number.integer
  if low ≤ value ∧ value ≤ high then .ok (value, rest) else .error .mismatched

def readSigned : Reader Int :=
  readInteger (-(Word.bound 63 : Nat)) ((Word.bound 63 : Nat) - 1)

def readUnsigned : Reader Nat := fun bytes => do
  let (value, rest) ← readInteger 0 ((Word.bound 64 : Nat) - 1) bytes
  .ok (value.toNat, rest)

def readOptional {α : Type} (read : Reader α) : Reader (Option α) := fun bytes =>
  match skipBlanks bytes with
  | 0x6E :: rest => do
      let rest ← readWord [0x75, 0x6C, 0x6C] rest
      .ok (none, rest)
  | other => do
      let (value, rest) ← read other
      .ok (some value, rest)

def readColon (bytes : Bytes) : Except Fault Bytes :=
  match skipBlanks bytes with
  | 0x3A :: rest => .ok rest
  | [] => .error .truncated
  | _ => .error .malformed

def readNull (bytes : Bytes) : Except Fault Bytes :=
  match skipBlanks bytes with
  | 0x6E :: rest => readWord [0x75, 0x6C, 0x6C] rest
  | other => .error (mismatch other)

def readKey : Reader String := fun bytes =>
  match skipBlanks bytes with
  | 0x22 :: rest => readText rest
  | [] => .error .truncated
  -- malformed and not mismatched: no other value could be a key
  | _ => .error .malformed

/-- A choice among names: the name as a string, or an object with the name as its only key and `null` as
its value. -/
def readChoice {α : Type} (ofName : String → Option α) : Reader α := fun bytes =>
  match skipBlanks bytes with
  | 0x22 :: rest => do
      let (name, rest) ← readText rest
      match ofName name with
      | some choice => .ok (choice, rest)
      | none => .error .mismatched
  | 0x7B :: rest => do
      let (name, rest) ← readKey rest
      match ofName name with
      | none => .error .mismatched
      | some choice =>
          let rest ← readNull (← readColon rest)
          match skipBlanks rest with
          | 0x7D :: rest => .ok (choice, rest)
          | [] => .error .truncated
          | _ => .error .malformed
  | [] => .error .truncated
  | _ => .error .malformed

def readDocument {α : Type} (read : Reader α) (bytes : Bytes) : Except Fault α := do
  let (value, rest) ← read bytes
  if (skipBlanks rest).isEmpty then .ok value else .error .malformed

end VolumeImport.Json
