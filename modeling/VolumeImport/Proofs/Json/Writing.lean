import VolumeImport.Json.Writer
import VolumeImport.Proofs.Json.Unambiguity
import VolumeImport.Proofs.Text.Encoding
import VolumeImport.Proofs.Text.Numeral

/-!
What the writers write. Every writer stays within the grammar that the readers recognize: a text is written as a
string that stands for it, a number as its literal, and members as the entries of an object, without blanks. So
whatever is said of a document by its entries is said of a written one too.
-/

namespace VolumeImport.Json

def bytesOf (chars : List Char) : Bytes :=
  chars.flatMap Utf8.encodeChar

theorem encode_ofList (chars : List Char) : Utf8.encode (String.ofList chars) = bytesOf chars := by
  rw [Utf8.encode, String.toList_ofList, bytesOf]

theorem bytesOf_append (left right : List Char) :
    bytesOf (left ++ right) = bytesOf left ++ bytesOf right :=
  List.flatMap_append

theorem bytesOf_cons (char : Char) (byte : UInt8) (own : Utf8.encodeChar char = [byte])
    (chars : List Char) : bytesOf (char :: chars) = byte :: bytesOf chars := by
  rw [bytesOf, List.flatMap_cons, own]
  rfl

/-- What may stand in a string for itself. -/
def IsPlain (byte : UInt8) : Prop :=
  ¬byte < 0x20 ∧ byte ≠ 0x22 ∧ byte ≠ 0x5C

theorem isPlain_iff (byte : UInt8) :
    IsPlain byte ↔ 0x20 ≤ byte.toNat ∧ byte.toNat ≠ 0x22 ∧ byte.toNat ≠ 0x5C := by
  simp [IsPlain, UInt8.lt_iff_toNat_lt, ← UInt8.toNat_inj]

theorem encodeChar_plain (char : Char) (printable : 0x20 ≤ char.toNat) (not_quote : char ≠ '"')
    (not_backslash : char ≠ '\\') : ∀ byte ∈ Utf8.encodeChar char, IsPlain byte := by
  intro byte member
  rw [isPlain_iff]
  rcases Utf8.encodeChar_ascii_or_high char with ⟨own, single, same, -⟩ | high
  · rw [single, List.mem_singleton] at member
    subst member
    rw [same]
    refine ⟨printable, ?_, ?_⟩
    · intro code
      exact not_quote (Char.toNat_inj.mp code)
    · intro code
      exact not_backslash (Char.toNat_inj.mp code)
  · have above := high byte member
    omega

theorem escaped_append (bytes body content : Bytes)
    (plain : ∀ byte ∈ bytes, IsPlain byte)
    (escaped : Escaped body content) : Escaped (bytes ++ body) (bytes ++ content) := by
  induction bytes with
  | nil => exact escaped
  | cons byte bytes ih =>
      obtain ⟨⟨printable, not_quote, not_backslash⟩, others⟩ := List.forall_mem_cons.mp plain
      exact .plain byte _ _ printable not_quote not_backslash (ih others)

theorem hexUnit?_control : ∀ code < 0x20,
    bytesOf [hexDigit (code / 16), hexDigit (code % 16)] =
        [UInt8.ofNat (hexDigit (code / 16)).toNat, UInt8.ofNat (hexDigit (code % 16)).toNat] ∧
      hexUnit? 0x30 0x30 (UInt8.ofNat (hexDigit (code / 16)).toNat)
        (UInt8.ofNat (hexDigit (code % 16)).toNat) = some code := by
  decide

theorem writeChar_escaped (char : Char) (body content : Bytes) (escaped : Escaped body content) :
    Escaped (bytesOf (writeChar char) ++ body) (Utf8.encodeChar char ++ content) := by
  unfold writeChar
  split
  · exact .short 0x22 0x22 _ _ (by decide) escaped
  · exact .short 0x5C 0x5C _ _ (by decide) escaped
  · exact .short 0x62 0x08 _ _ (by decide) escaped
  · exact .short 0x66 0x0C _ _ (by decide) escaped
  · exact .short 0x6E 0x0A _ _ (by decide) escaped
  · exact .short 0x72 0x0D _ _ (by decide) escaped
  · exact .short 0x74 0x09 _ _ (by decide) escaped
  · next not_quote not_backslash _ _ _ _ _ =>
      split
      · next control =>
          obtain ⟨digits, hex⟩ := hexUnit?_control char.toNat control
          have unit := Escaped.unit 0x30 0x30 _ _ char.toNat body content ((hexUnit?_iff ..).mp hex)
            (fun trailing => absurd trailing.1 (by omega)) (fun leading => absurd leading.1 (by omega))
            escaped
          rw [Char.ofNat_toNat] at unit
          have escape : bytesOf ['\\', 'u', '0', '0'] = [0x5C, 0x75, 0x30, 0x30] := rfl
          rw [show ['\\', 'u', '0', '0', hexDigit (char.toNat / 16), hexDigit (char.toNat % 16)] =
            ['\\', 'u', '0', '0'] ++ [hexDigit (char.toNat / 16), hexDigit (char.toNat % 16)] from rfl,
            bytesOf_append, escape, digits]
          exact unit
      · next printable =>
          have plain := encodeChar_plain char (by omega) not_quote not_backslash
          simpa [bytesOf] using escaped_append _ body content plain escaped

theorem writeText_isString (text : String) : IsString (bytesOf (writeText text)) text := by
  have body : ∀ chars : List Char,
      Escaped (bytesOf (chars.flatMap writeChar)) (chars.flatMap Utf8.encodeChar) := by
    intro chars
    induction chars with
    | nil => exact .done
    | cons char chars ih =>
        rw [List.flatMap_cons, bytesOf_append, List.flatMap_cons]
        exact writeChar_escaped char _ _ ih
  have quoted := IsString.quoted [] _ text (by simp [AllBlank]) (body text.toList)
  have quote : Utf8.encodeChar '"' = [0x22] := rfl
  simpa [writeText, bytesOf, quote] using quoted

theorem writeChar_plain (char : Char) (printable : 0x20 ≤ char.toNat) (not_quote : char ≠ '"')
    (not_backslash : char ≠ '\\') : writeChar char = [char] := by
  have control : ∀ other : Char, other.toNat < 0x20 → char ≠ other := by
    rintro _ below rfl
    omega
  unfold writeChar
  split
  · exact absurd rfl not_quote
  · exact absurd rfl not_backslash
  case h_8 => exact if_neg (by omega)
  all_goals exact absurd rfl (control _ (by decide))

theorem writeText_plain (text : String)
    (plain : ∀ char ∈ text.toList, 0x20 ≤ char.toNat ∧ char ≠ '"' ∧ char ≠ '\\') :
    writeText text = '"' :: text.toList ++ ['"'] := by
  have kept : text.toList.map writeChar = text.toList.map fun char => [char] := by
    apply List.map_congr_left
    intro char member
    obtain ⟨printable, not_quote, not_backslash⟩ := plain char member
    exact writeChar_plain char printable not_quote not_backslash
  rw [writeText, List.flatMap_def, kept, ← List.flatMap_def, List.flatMap_singleton']

theorem encodeChar_digit (char : Char) (digit : Text.isAsciiDigit char = true) :
    ∃ byte, Utf8.encodeChar char = [byte] ∧ IsDecimal byte ∧
      digitValue byte = char.toNat - '0'.toNat ∧ (byte = 0x30 ↔ char = '0') := by
  have range : 0x30 ≤ char.toNat ∧ char.toNat ≤ 0x39 := by
    simpa [Text.isAsciiDigit, Char.le_def, UInt32.le_iff_toNat_le] using digit
  obtain ⟨byte, own⟩ := Utf8.exists_byte char.toNat (by omega)
  refine ⟨byte, (Utf8.Form.one byte (by omega) own).encodes, ?_, ?_, ?_⟩
  · simp [IsDecimal, UInt8.le_iff_toNat_le, own, range]
  · rw [digitValue, own]
    rfl
  · rw [← UInt8.toNat_inj, own, ← Char.toNat_inj]
    rfl

theorem bytesOf_digits (text : List Char) (digits : Text.AllDigits text) :
    (∀ digit ∈ bytesOf text, IsDecimal digit) ∧
      (bytesOf text).length = text.length ∧
      ((bytesOf text).head? = some 0x30 ↔ text.head? = some '0') ∧
      ∀ start, (bytesOf text).foldl (fun value digit => value * 10 + digitValue digit) start =
        Nat.ofDigitChars 10 text start := by
  induction text with
  | nil => exact ⟨by simp [bytesOf], rfl, by simp [bytesOf], fun start => rfl⟩
  | cons char text ih =>
      obtain ⟨first, others⟩ := List.forall_mem_cons.mp digits
      obtain ⟨byte, own, digit, value, zero⟩ := encodeChar_digit char first
      obtain ⟨plain, long, -, folded⟩ := ih others
      rw [bytesOf_cons char byte own]
      refine ⟨List.forall_mem_cons.mpr ⟨digit, plain⟩, by simp [long], by simp [zero], ?_⟩
      intro start
      rw [List.foldl_cons, folded, value, Nat.ofDigitChars_cons, Nat.mul_comm]

theorem numeral_isLiteral (text : List Char) (value : Nat) (numeral : Text.IsNumeral text value) :
    IsLiteral (bytesOf text) ∧ digitsValue (bytesOf text) = value := by
  obtain ⟨plain, long, zero, folded⟩ := bytesOf_digits text numeral.digits
  refine ⟨⟨?_, plain, ?_⟩, ?_⟩
  · intro nothing
    rw [nothing] at long
    exact numeral.some_digit (List.length_eq_zero_iff.mp long.symm)
  · intro leading
    rw [long, numeral.no_zero (zero.mp leading)]
    exact Nat.le_refl 1
  · rw [← foldl_digitsValue, folded, numeral.denotes]

theorem writeInteger_isInteger (value : Int) : IsInteger (bytesOf (writeInteger value)) value := by
  cases value with
  | ofNat value =>
      obtain ⟨literal, denoted⟩ := numeral_isLiteral _ _ (Text.toString_isNumeral value)
      have integer := IsInteger.natural [] _ (by simp [AllBlank]) literal
      rw [denoted] at integer
      exact integer
  | negSucc value =>
      obtain ⟨literal, denoted⟩ := numeral_isLiteral _ _ (Text.toString_isNumeral (value + 1))
      have integer := IsInteger.negative [] _ (by simp [AllBlank]) literal (by omega)
      rw [denoted] at integer
      have printed : writeInteger (Int.negSucc value) = '-' :: (toString (value + 1)).toList :=
        String.toList_append
      rw [printed]
      exact integer

theorem writeText_isValue (text : String) : IsValue (bytesOf (writeText text)) :=
  isString_isValue _ text (writeText_isString text)

theorem writeInteger_isValue (value : Int) : IsValue (bytesOf (writeInteger value)) :=
  isInteger_isValue _ value (writeInteger_isInteger value)

theorem writeOptional_isOptional {α : Type} (write : α → List Char) (Is : Bytes → α → Prop)
    (value : Option α) (spelled : ∀ given, value = some given → Is (bytesOf (write given)) given) :
    IsOptional Is (bytesOf (writeOptional write value)) value := by
  cases value with
  | none => exact .null [] (by simp [AllBlank])
  | some given => exact .value _ given (spelled given rfl)

def writtenEntry (member : String × List Char) : Entry where
  key := member.1
  keyText := bytesOf (writeText member.1)
  middle := []
  value := bytesOf member.2
  after := []
  spelled := writeText_isString member.1
  middle_blank := by simp [AllBlank]
  after_blank := by simp [AllBlank]

def inBytes (members : List (String × List Char)) : List (String × Bytes) :=
  members.map fun member => (member.1, bytesOf member.2)

theorem writtenEntry_member (members : List (String × List Char)) :
    (members.map writtenEntry).map Entry.member = inBytes members := by
  rw [List.map_map]
  rfl

def writeSpacedMember (gap : List Char) (member : String × List Char) : List Char :=
  writeText member.1 ++ ':' :: (gap ++ member.2)

/-- An object as it is written with the same gap behind every colon and every comma. -/
def writeSpaced (gap : List Char) (members : List (String × List Char)) : List Char :=
  '\x7b' :: (',' :: gap).intercalate (members.map (writeSpacedMember gap)) ++ ['\x7d']

def spacedEntry (before gap : Bytes) (blank : AllBlank before) (member : String × List Char) :
    Entry where
  key := member.1
  keyText := before ++ bytesOf (writeText member.1)
  middle := []
  value := gap ++ bytesOf member.2
  after := []
  spelled := readString_recognizes.after_blanks readString_blanks before _ _ blank
    (writeText_isString member.1)
  middle_blank := allBlank_nil
  after_blank := allBlank_nil

/-- The members as entries: the first one stands right behind the brace, every other behind a gap. -/
def spacedEntries (gap : Bytes) (blank : AllBlank gap) : List (String × List Char) → List Entry
  | [] => []
  | member :: members =>
      spacedEntry [] gap allBlank_nil member :: members.map (spacedEntry gap gap blank)

theorem spacedEntries_member (gap : Bytes) (blank : AllBlank gap)
    (members : List (String × List Char)) :
    (spacedEntries gap blank members).map Entry.member =
      (members.map writtenEntry).map fun entry => (entry.key, gap ++ entry.value) := by
  cases members with
  | nil => rfl
  | cons member members =>
      simp only [spacedEntries, List.map_cons, List.map_map]
      rfl

theorem intercalate_cons (separator item : List Char) (items : List (List Char)) :
    separator.intercalate (item :: items) = item ++ items.flatMap (separator ++ ·) := by
  induction items generalizing item with
  | nil => simp [List.intercalate]
  | cons next items ih =>
      have further := ih next
      simp only [List.intercalate, List.intersperse_cons_cons, List.flatten_cons] at further ⊢
      rw [further]
      simp

theorem writeSpaced_cons (gap : List Char) (first : String × List Char)
    (members : List (String × List Char)) :
    writeSpaced gap (first :: members) =
      '\x7b' :: (writeSpacedMember gap first ++
        (members.flatMap (fun member => ',' :: (gap ++ writeSpacedMember gap member)) ++
          ['\x7d'])) := by
  rw [writeSpaced, List.map_cons, intercalate_cons, List.flatMap_map, List.cons_append,
    List.append_assoc]
  rfl

section Spaced

variable (gap : List Char) (blank : AllBlank (bytesOf gap))

theorem writeSpacedMember_text (before : Bytes) (before_blank : AllBlank before)
    (member : String × List Char) :
    before ++ bytesOf (writeSpacedMember gap member) =
      (spacedEntry before (bytesOf gap) before_blank member).text := by
  rw [writeSpacedMember, bytesOf_append, bytesOf_cons ':' 0x3A rfl, bytesOf_append]
  simp [Entry.text, spacedEntry]

theorem closing_bytes (members : List (String × List Char)) :
    bytesOf (members.flatMap (fun member => ',' :: (gap ++ writeSpacedMember gap member)) ++
        ['\x7d']) =
      Entry.closing (members.map (spacedEntry (bytesOf gap) (bytesOf gap) blank)) := by
  induction members with
  | nil => rfl
  | cons member members ih =>
      rw [List.flatMap_cons, List.append_assoc, bytesOf_append, ih, bytesOf_cons ',' 0x2C rfl,
        bytesOf_append, writeSpacedMember_text gap (bytesOf gap) blank]
      simp [Entry.closing, closing]

theorem writeSpaced_bytes (members : List (String × List Char)) :
    bytesOf (writeSpaced gap members) =
      0x7B :: Entry.inside [] (spacedEntries (bytesOf gap) blank members) := by
  cases members with
  | nil => rfl
  | cons member members =>
      have first := writeSpacedMember_text gap [] allBlank_nil member
      rw [List.nil_append] at first
      rw [writeSpaced_cons, bytesOf_cons '\x7b' 0x7B rfl, bytesOf_append, closing_bytes gap blank,
        first]
      rfl

def spacedObject (members : List (String × List Char))
    (values : ∀ member ∈ members, IsValue (bytesOf member.2)) : WrittenObject where
  before := []
  blanks := []
  entries := spacedEntries (bytesOf gap) blank members
  after := []
  before_blank := allBlank_nil
  blanks_blank := allBlank_nil
  after_blank := allBlank_nil
  values := by
    intro entry listed
    obtain ⟨_, unspaced, -, value⟩ := Entry.exists_of_gap _ _ (bytesOf gap)
      (spacedEntries_member (bytesOf gap) blank members) entry listed
    obtain ⟨member, written, rfl⟩ := List.mem_map.mp unspaced
    rw [← value]
    exact (values member written).after_blanks (bytesOf gap) blank

theorem spacedObject_text (members : List (String × List Char))
    (values : ∀ member ∈ members, IsValue (bytesOf member.2)) :
    (spacedObject gap blank members values).text =
      Utf8.encode (String.ofList (writeSpaced gap members)) := by
  rw [encode_ofList, writeSpaced_bytes gap blank]
  simp [WrittenObject.text, spacedObject]

end Spaced

theorem writeObject_bytes (members : List (String × List Char)) :
    bytesOf (writeObject members) = 0x7B :: Entry.inside [] (members.map writtenEntry) := by
  have same : spacedEntries [] allBlank_nil members = members.map writtenEntry := by
    cases members <;> rfl
  rw [← same]
  exact writeSpaced_bytes [] allBlank_nil members

def writtenObject (members : List (String × List Char))
    (values : ∀ member ∈ members, IsValue (bytesOf member.2)) : WrittenObject where
  before := []
  blanks := []
  entries := members.map writtenEntry
  after := []
  before_blank := by simp [AllBlank]
  blanks_blank := by simp [AllBlank]
  after_blank := by simp [AllBlank]
  values := by
    intro entry listed
    obtain ⟨member, written, rfl⟩ := List.mem_map.mp listed
    exact values member written

theorem writtenObject_text (members : List (String × List Char))
    (values : ∀ member ∈ members, IsValue (bytesOf member.2)) :
    (writtenObject members values).text = Utf8.encode (String.ofList (writeObject members)) := by
  rw [encode_ofList, writeObject_bytes]
  simp [WrittenObject.text, writtenObject]

end VolumeImport.Json
