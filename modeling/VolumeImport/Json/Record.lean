import VolumeImport.Json.Reader

/-!
Records: JSON objects with known members, some of them optional. Other members are skipped. A record may
also be written as an array of its members in order, with members missing at the end.

A record is read into a draft that notes which members have been met; what the draft becomes in the end,
and whether anything needed is missing, is the record's own affair.
-/

namespace VolumeImport.Json

structure Member (δ : Type) where
  name : String
  isTaken : δ → Bool
  read : δ → Reader δ

structure Record (δ α : Type) where
  blank : δ
  members : List (Member δ)
  finish : δ → Option α

namespace Record

variable {δ α : Type}

def readValue (members : List (Member δ)) (key : String) (draft : δ) : Reader δ := fun bytes =>
  match members.find? (·.name = key) with
  | some member =>
      -- a member met again is refused before its colon
      if member.isTaken draft then .error .mismatched
      else do member.read draft (← readColon bytes)
  | none => do
      let rest ← skipValue (← readColon bytes)
      .ok (draft, rest)

/-- The members of an object up to its closing brace. Every member takes some of the text, so its length
bounds their number. -/
def readMembers (members : List (Member δ)) : Nat → Bool → δ → Reader δ
  | 0, _, _, _ => .error .truncated
  | bound + 1, isFirst, draft, bytes =>
      match skipBlanks bytes with
      | [] => .error .truncated
      | 0x7D :: rest => .ok (draft, rest)
      | byte :: rest =>
          let key : Except Fault Bytes :=
            if isFirst then .ok (byte :: rest)
            else if byte = 0x2C then .ok (skipBlanks rest)
            else .error .malformed
          match key with
          | .error fault => .error fault
          | .ok [] => .error .truncated
          | .ok (0x22 :: rest) => do
              let (key, rest) ← readText rest
              let (draft, rest) ← readValue members key draft rest
              readMembers members bound false draft rest
          | .ok (_ :: _) => .error .malformed

def readElements : List (Member δ) → Bool → δ → Reader δ
  | [], _, draft, bytes =>
      match skipBlanks bytes with
      | [] => .error .truncated
      | 0x5D :: rest => .ok (draft, rest)
      | _ => .error .malformed
  | member :: members, isFirst, draft, bytes =>
      match skipBlanks bytes with
      | [] => .error .truncated
      | 0x5D :: rest => .ok (draft, rest)
      | byte :: rest =>
          let element : Except Fault Bytes :=
            if isFirst then .ok (byte :: rest)
            else if byte = 0x2C then
              match skipBlanks rest with
              | [] => .error .truncated
              -- the bracket cannot stand behind a comma
              | 0x5D :: _ => .error .malformed
              | other => .ok other
            else .error .malformed
          do
            let (draft, rest) ← member.read draft (← element)
            readElements members false draft rest

def readDraft (record : Record δ α) : Reader δ := fun bytes =>
  match skipBlanks bytes with
  | 0x7B :: rest => readMembers record.members rest.length true record.blank rest
  | 0x5B :: rest => readElements record.members true record.blank rest
  | other => .error (mismatch other)

def read (record : Record δ α) : Reader α := fun bytes => do
  let (draft, rest) ← record.readDraft bytes
  match record.finish draft with
  | some value => .ok (value, rest)
  | none => .error .mismatched

end Record

end VolumeImport.Json
