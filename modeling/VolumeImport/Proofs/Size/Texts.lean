import VolumeImport.Proofs.Json.Writing
import VolumeImport.Proofs.Size.Exact

/-!
A size and its text. The text that a size keeps is the one it was read from, less the white space around it,
and that text decides everything else: sizes with one text are one size, wherever they came from, and every
size is read back from its text and from its document. A byte count is the size that its numeral spells.
-/

namespace VolumeImport.Quantity

open Text

/-- A size as it can come about: read from a text or a document, or made of a byte count. -/
inductive Obtained : Quantity → Prop
  | parsed (text : String) (size : Quantity) (read : parse text = .ok size) : Obtained size
  | counted (bytes : Nat) (fits : bytes < Word.bound 64) : Obtained (ofBytes bytes)
  | told (document : Bytes) (size : Quantity) (read : parseDocument document = .ok size) :
      Obtained size

theorem parse_trimmed_iff (text : String) (size : Quantity) :
    parse text = .ok size ↔
      fraction? (dropPlus (trim text.toList)) = some (size.numerator, size.denominator) ∧
        size.text = String.ofList (trim text.toList) := by
  obtain ⟨kept, numerator, denominator⟩ := size
  simp only [parse]
  constructor
  · intro read
    split at read
    · next found =>
        obtain ⟨rfl, rfl, rfl⟩ := Quantity.mk.inj (Except.ok.inj read)
        exact ⟨found, rfl⟩
    · cases read
  · rintro ⟨found, rfl⟩
    rw [found]

theorem parse_congr (text other : String) (same : trim text.toList = trim other.toList)
    (size : Quantity) : parse text = .ok size ↔ parse other = .ok size := by
  rw [parse_trimmed_iff, parse_trimmed_iff, same]

theorem parse_padded (left text right : String) (before : AllBlank left.toList)
    (behind : AllBlank right.toList) (size : Quantity) :
    parse (left ++ text ++ right) = .ok size ↔ parse text = .ok size := by
  apply parse_congr
  rw [String.toList_append, String.toList_append, trim_around _ _ _ before behind]

theorem parse_text (text : String) (size : Quantity) (read : parse text = .ok size) :
    parse size.text = .ok size := by
  obtain ⟨-, kept⟩ := (parse_trimmed_iff text size).mp read
  rw [parse_congr size.text text, read]
  rw [kept, String.toList_ofList, trim_trim]

theorem parse_unescaped (text : String) (size : Quantity) (read : parse text = .ok size) :
    size.write = '"' :: size.text.toList ++ ['"'] := by
  obtain ⟨spelling, spelled⟩ := parse_ok text size read
  obtain ⟨-, kept⟩ := (parse_trimmed_iff text size).mp read
  rw [spelling.trim_of text spelled] at kept
  have plain :
      (alphabet.all fun char => 0x20 ≤ char.toNat && char ≠ '"' && char ≠ '\\') = true := by
    decide
  apply Json.writeText_plain
  intro char member
  rw [kept, String.toList_ofList] at member
  simpa [and_assoc] using List.all_eq_true.mp plain char (spelling.text_listed char member)

def IsSize (text : Bytes) (size : Quantity) : Prop :=
  ∃ name, Json.IsString text name ∧ parse name = .ok size

theorem read_recognizes : Json.Recognizes read IsSize := by
  constructor
  · intro bytes size rest made
    obtain ⟨⟨name, behind⟩, found, judged⟩ := Json.bind_ok _ _ _ made
    obtain ⟨text, joined, spelled⟩ := Json.readString_recognizes.sound bytes name behind found
    dsimp only at judged
    split at judged
    · next other parsed =>
        obtain ⟨rfl, rfl⟩ := Prod.mk.inj (Except.ok.inj judged)
        exact ⟨text, joined, name, spelled, parsed⟩
    · cases judged
  · rintro text size rest ⟨name, spelled, parsed⟩ delimited
    have found := Json.readString_recognizes.complete text name rest spelled delimited
    simp [read, found, parsed, bind, Except.bind]

theorem parseDocument_write (size : Quantity) (parsed : parse size.text = .ok size) :
    parseDocument (Utf8.encode (String.ofList size.write)) = .ok size := by
  rw [Json.encode_ofList, parseDocument, Json.readDocument_iff read IsSize read_recognizes]
  exact ⟨_, [], (List.append_nil _).symm, ⟨size.text, Json.writeText_isString size.text, parsed⟩,
    by simp [Json.AllBlank]⟩

def numeralSpelling (bytes : Nat) : Spelling where
  plus := false
  whole := (toString bytes).toList
  fraction := none
  suffix := []
  scale := .decimal 0
  whole_digits := (toString_isNumeral bytes).digits
  fraction_digits := by simp [AllDigits]
  some_digit := .inl (toString_isNumeral bytes).some_digit
  denotes := .named "" (.decimal 0) (by decide)

@[simp] theorem numeralSpelling_text (bytes : Nat) :
    (numeralSpelling bytes).text = (toString bytes).toList := by
  simp [numeralSpelling, Spelling.text, Spelling.sign, Spelling.number, Spelling.pointed]

theorem numeralSpelling_isOf (bytes : Nat) : (numeralSpelling bytes).IsOf (toString bytes) :=
  ⟨[], [], by simp, by simp [AllBlank], by simp [AllBlank]⟩

theorem numeralSpelling_digits (bytes : Nat) :
    Nat.ofDigitChars 10 (numeralSpelling bytes).digits 0 = bytes := by
  simp [Spelling.digits, numeralSpelling]

theorem numeralSpelling_fits (bytes : Nat) (fits : bytes < 2 ^ 128) :
    (numeralSpelling bytes).Fits where
  digits := by rwa [numeralSpelling_digits]
  places := (by decide : 10 ^ 0 < 2 ^ 128)
  factor := (by decide : 10 ^ 0 < 2 ^ 128)
  product := by
    rw [numeralSpelling_digits]
    simpa [numeralSpelling, Scale.reduces, Scale.factor] using fits

theorem numeralSpelling_size (bytes : Nat) : (numeralSpelling bytes).size = ofBytes bytes := by
  have text : String.ofList (numeralSpelling bytes).text = toString bytes := by
    rw [numeralSpelling_text, String.ofList_toList]
  have numerator : (numeralSpelling bytes).numerator = bytes * 1 :=
    congrArg (· * 1) (numeralSpelling_digits bytes)
  have denominator : (numeralSpelling bytes).denominator = 1 := rfl
  rw [Spelling.size, text, numerator, denominator, Nat.mul_one, ofBytes]

theorem parse_numeral (bytes : Nat) (fits : bytes < Word.bound 64) :
    parse (toString bytes) = .ok (ofBytes bytes) := by
  rw [parse_ok_iff _ _ (numeralSpelling_isOf bytes) (by decide : 0 < 2 ^ 32)]
  exact ⟨numeralSpelling_fits bytes (Nat.lt_trans fits (by decide)), (numeralSpelling_size bytes).symm⟩

theorem toolText_ofBytes (bytes : Nat) : (ofBytes bytes).toolText = toString bytes := by
  simp [toolText, ceiling, ofBytes]

theorem obtained_parsed (size : Quantity) (obtained : size.Obtained) :
    parse size.text = .ok size := by
  cases obtained with
  | parsed text _ read => exact parse_text text size read
  | counted bytes fits => exact parse_numeral bytes fits
  | told document _ read =>
      obtain ⟨_, _, -, ⟨text, -, parsed⟩, -⟩ :=
        (Json.readDocument_iff Quantity.read IsSize read_recognizes document size).mp read
      exact parse_text text size parsed

/-- A size is its text: it is told from other sizes by it, read back from it, and written as it stands. White
space around a text makes no difference, and a byte count is the size of its numeral. -/
theorem sizes_are_their_texts :
    (∀ size other : Quantity, size.Obtained → other.Obtained →
      (size = other ↔ size.text = other.text)) ∧
    (∀ size : Quantity, size.Obtained → parse size.text = .ok size ∧
      parseDocument (Utf8.encode (String.ofList size.write)) = .ok size ∧
      size.write = '"' :: size.text.toList ++ ['"']) ∧
    (∀ left text right : String, AllBlank left.toList → AllBlank right.toList →
      ∀ size, parse (left ++ text ++ right) = .ok size ↔ parse text = .ok size) ∧
    ∀ bytes < Word.bound 64,
      parse (toString bytes) = .ok (ofBytes bytes) ∧ (ofBytes bytes).toolText = toString bytes := by
  refine ⟨?_, ?_, parse_padded, fun bytes fits => ⟨parse_numeral bytes fits, toolText_ofBytes bytes⟩⟩
  · intro size other obtained also
    constructor
    · rintro rfl
      rfl
    · intro same
      have read := obtained_parsed size obtained
      rw [same, obtained_parsed other also] at read
      exact (Except.ok.inj read).symm
  · intro size obtained
    have read := obtained_parsed size obtained
    exact ⟨read, parseDocument_write size read, parse_unescaped size.text size read⟩

/-- Fifteen hundred bytes, from a padded text and from a document with an escaped sign: one size. The byte count
itself is another, for its text is. -/
theorem fifteen_hundred_is_its_text :
    let size : Quantity := ⟨"+1.50k", 150000, 100⟩
    parse "\u3000+1.50k\n" = .ok size ∧ parseDocument (Utf8.encode "\"\\u002b1.50k\"") = .ok size ∧
      parse "+1.50k" = .ok size ∧
      parseDocument (Utf8.encode (String.ofList size.write)) = .ok size ∧
      size ≠ ofBytes 1500 := by
  intro size
  have padded : parse "\u3000+1.50k\n" = .ok size := by rfl
  have told : parseDocument (Utf8.encode "\"\\u002b1.50k\"") = .ok size := by decide +kernel
  obtain ⟨told_apart, read_back, -, -⟩ := sizes_are_their_texts
  have obtained : size.Obtained := .parsed _ size padded
  obtain ⟨text, document, -⟩ := read_back size obtained
  have apart : size ≠ ofBytes 1500 := by
    rw [Ne, told_apart size (ofBytes 1500) obtained (.counted 1500 (by decide))]
    decide
  exact ⟨padded, told, text, document, apart⟩

end VolumeImport.Quantity
