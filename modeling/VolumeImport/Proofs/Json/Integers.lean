import VolumeImport.Proofs.Json.Recognition

/-!
JSON integers. Only a plain literal is an integer: no fraction, no exponent, no zero in front, and no minus
zero. A number of another form is read to its end and then refused.
-/

namespace VolumeImport.Json

/-- Digits that may stand for a number: some, and none of them a zero in front. -/
structure IsLiteral (digits : Bytes) : Prop where
  some_digit : digits ≠ []
  plain : ∀ digit ∈ digits, IsDecimal digit
  no_zero : digits.head? = some 0x30 → digits.length ≤ 1

theorem IsLiteral.isDigit {digits : Bytes} (literal : IsLiteral digits) :
    ∀ digit ∈ digits, isDigit digit = true := fun digit listed =>
  (isDigit_iff digit).mpr (literal.plain digit listed)

inductive IsInteger : Bytes → Int → Prop
  | natural (before digits : Bytes) (blank : AllBlank before) (literal : IsLiteral digits) :
      IsInteger (before ++ digits) (digitsValue digits)
  | negative (before digits : Bytes) (blank : AllBlank before) (literal : IsLiteral digits)
      (nonzero : digitsValue digits ≠ 0) :
      IsInteger (before ++ 0x2D :: digits) (-digitsValue digits)

theorem foldl_grows (digits : Bytes) (word : Nat) :
    word ≤ digits.foldl (fun value digit => value * 10 + digitValue digit) word := by
  induction digits generalizing word with
  | nil => exact Nat.le_refl word
  | cons digit rest ih =>
      have further := ih (word * 10 + digitValue digit)
      rw [List.foldl_cons]
      omega

theorem absorb_all (digits : Bytes) (word : Nat)
    (fits : digits.foldl (fun value digit => value * 10 + digitValue digit) word < Word.bound 64) :
    absorb word digits =
      (digits.foldl (fun value digit => value * 10 + digitValue digit) word, []) := by
  induction digits generalizing word with
  | nil => rfl
  | cons digit rest ih =>
      rw [List.foldl_cons] at fits ⊢
      have grown := foldl_grows rest (word * 10 + digitValue digit)
      have next : word * 10 + digitValue digit < Word.bound 64 := by omega
      rw [absorb]
      simp only [next, if_true]
      exact ih _ fits

theorem absorb_nothing_left (digits : Bytes) (word result : Nat)
    (absorbed : absorb word digits = (result, [])) :
    result = digits.foldl (fun value digit => value * 10 + digitValue digit) word := by
  induction digits generalizing word with
  | nil => exact (Prod.mk.inj absorbed).1.symm
  | cons digit rest ih =>
      rw [absorb] at absorbed
      split at absorbed
      · exact ih _ absorbed
      · cases (Prod.mk.inj absorbed).2

theorem inexact_ok (word : Nat) (exponent : Int) (bytes rest : Bytes) (number : Number)
    (read : inexact word exponent bytes = .ok (number, rest)) : number = .inexact := by
  unfold inexact at read
  split at read
  · exact (Prod.mk.inj (Except.ok.inj read)).1.symm
  · cases read

theorem readExponent_ok (word : Nat) (scale : Int) (bytes rest : Bytes) (number : Number)
    (read : readExponent word scale bytes = .ok (number, rest)) : number = .inexact := by
  unfold readExponent at read
  split at read
  all_goals
    obtain ⟨⟨digits, behind⟩, -, read⟩ := bind_ok _ _ _ read
    dsimp only at read
    split at read
    · exact inexact_ok _ _ _ _ _ read
    · split at read
      · exact (Prod.mk.inj (Except.ok.inj read)).1.symm
      · cases read

theorem readFraction_ok (word : Nat) (scale : Int) (bytes rest : Bytes) (number : Number)
    (read : readFraction word scale bytes = .ok (number, rest)) : number = .inexact := by
  unfold readFraction at read
  obtain ⟨⟨digits, behind⟩, -, read⟩ := bind_ok _ _ _ read
  dsimp only at read
  split at read
  · split at read
    · exact readExponent_ok _ _ _ _ _ read
    · exact inexact_ok _ _ _ _ _ read
  · exact inexact_ok _ _ _ _ _ read

def exactly (negative : Bool) (magnitude : Nat) : Number :=
  if negative then .negated magnitude else .natural magnitude

theorem someDigits_ok (bytes digits rest : Bytes) (read : someDigits bytes = .ok (digits, rest)) :
    bytes = digits ++ rest ∧ digits ≠ [] ∧ ∀ digit ∈ digits, isDigit digit = true := by
  unfold someDigits at read
  split at read
  · cases read
  · next byte behind =>
      split at read
      · next first =>
          obtain ⟨rfl, rfl⟩ := Prod.mk.inj (Except.ok.inj read)
          refine ⟨List.takeWhile_append_dropWhile.symm, ?_, ?_⟩
          · simp [first]
          · intro digit member
            exact List.all_eq_true.mp List.all_takeWhile digit member
      · cases read

theorem readNumber_ok (negative : Bool) (bytes rest : Bytes) (number : Number)
    (read : readNumber negative bytes = .ok (number, rest)) :
    number = .inexact ∨ ∃ digits, bytes = digits ++ rest ∧ IsLiteral digits ∧
      number = exactly negative (digitsValue digits) := by
  unfold readNumber at read
  obtain ⟨⟨digits, behind⟩, found, read⟩ := bind_ok _ _ _ read
  obtain ⟨joined, some_digit, plain⟩ := someDigits_ok bytes digits behind found
  dsimp only at read
  split at read
  · cases read
  · next no_zero =>
      have literal : IsLiteral digits := by
        refine ⟨some_digit, fun digit listed => (isDigit_iff digit).mp (plain digit listed), ?_⟩
        intro zero
        simpa [zero] using no_zero
      -- the digits alone, if they fit the word and nothing else follows
      have alone : ∀ number rest, (if (absorb 0 digits).2.isEmpty then
          .ok (exactly negative (absorb 0 digits).1, behind)
          else inexact (absorb 0 digits).1 (absorb 0 digits).2.length behind) =
            .ok (number, rest) →
          number = .inexact ∨ ∃ digits, bytes = digits ++ rest ∧ IsLiteral digits ∧
            number = exactly negative (digitsValue digits) := by
        intro number rest read
        rcases absorbed : absorb 0 digits with ⟨word, left⟩
        rw [absorbed] at read
        cases left with
        | cons digit more => exact .inl (inexact_ok _ _ _ _ _ read)
        | nil =>
            obtain ⟨rfl, rfl⟩ := Prod.mk.inj (Except.ok.inj read)
            rw [absorb_nothing_left digits 0 word absorbed, foldl_digitsValue]
            exact .inr ⟨digits, joined, literal, rfl⟩
      split at read
      · split at read
        · exact .inl (readFraction_ok _ _ _ _ _ read)
        · split at read
          · exact .inl (readExponent_ok _ _ _ _ _ read)
          · exact alone number rest read
      · exact alone number rest read

theorem delimited_apart (rest : Bytes) (delimited : Delimited rest) (byte : UInt8)
    (first : rest.head? = some byte) :
    isDigit byte = false ∧ byte ≠ 0x2E ∧ isExponentMark byte = false := by
  rcases delimited byte first with blank | rfl | rfl | rfl
  · simp only [isBlank, Bool.or_eq_true, decide_eq_true_eq] at blank
    rcases blank with ((rfl | rfl) | rfl) | rfl <;> decide
  all_goals decide

theorem someDigits_append (digits rest : Bytes) (some_digit : digits ≠ [])
    (plain : ∀ digit ∈ digits, isDigit digit = true) (delimited : Delimited rest) :
    someDigits (digits ++ rest) = .ok (digits, rest) := by
  have taken : (digits ++ rest).takeWhile isDigit = digits ∧
      (digits ++ rest).dropWhile isDigit = rest := by
    rw [List.takeWhile_append_of_pos plain, List.dropWhile_append_of_pos plain]
    cases rest with
    | nil => simp
    | cons byte more =>
        have apart := (delimited_apart (byte :: more) delimited byte rfl).1
        simp [apart]
  cases digits with
  | nil => exact absurd rfl some_digit
  | cons first others =>
      have digit := plain first (by simp)
      rw [List.cons_append] at taken ⊢
      rw [someDigits, if_pos digit, taken.1, taken.2]

theorem readNumber_complete (negative : Bool) (digits rest : Bytes) (literal : IsLiteral digits)
    (fits : digitsValue digits < Word.bound 64) (delimited : Delimited rest) :
    readNumber negative (digits ++ rest) = .ok (exactly negative (digitsValue digits), rest) := by
  have found := someDigits_append digits rest literal.some_digit literal.isDigit delimited
  have absorbed : absorb 0 digits = (digitsValue digits, []) := by
    rw [← foldl_digitsValue] at fits ⊢
    exact absorb_all digits 0 fits
  have no_zero : ¬(digits.head? = some 0x30 ∧ 1 < digits.length) := by
    rintro ⟨zero, long⟩
    have short := literal.no_zero zero
    omega
  unfold readNumber
  rw [found]
  simp only [bind, Except.bind, absorbed]
  cases rest with
  | nil => simp [no_zero, exactly]
  | cons byte more =>
      obtain ⟨-, not_point, not_mark⟩ := delimited_apart (byte :: more) delimited byte rfl
      simp [no_zero, not_point, not_mark, exactly]

theorem readLiteral_ok (bytes rest : Bytes) (number : Number)
    (read : readLiteral bytes = .ok (number, rest)) :
    number = .inexact ∨ ∃ before digits, AllBlank before ∧ IsLiteral digits ∧
      ((bytes = before ++ digits ++ rest ∧ number = .natural (digitsValue digits)) ∨
        bytes = before ++ 0x2D :: digits ++ rest ∧ number = .negated (digitsValue digits)) := by
  obtain ⟨before, cut, blank⟩ := skipBlanks_exists bytes
  unfold readLiteral at read
  split at read
  · next behind start =>
      rcases readNumber_ok true behind rest number read with rough | ⟨digits, rfl, literal, rfl⟩
      · exact .inl rough
      · refine .inr ⟨before, digits, blank, literal, .inr ⟨?_, rfl⟩⟩
        rw [cut, start]
        simp
  · next byte behind _ start =>
      split at read
      · rcases readNumber_ok false _ rest number read with rough | ⟨digits, joined, literal, rfl⟩
        · exact .inl rough
        · refine .inr ⟨before, digits, blank, literal, .inl ⟨?_, rfl⟩⟩
          rw [cut, start, joined, List.append_assoc]
      · cases read
  · cases read

theorem digit_solid (byte : UInt8) (digit : isDigit byte = true) :
    isBlank byte = false ∧ byte ≠ 0x2D := by
  constructor
  · cases blank : isBlank byte with
    | false => rfl
    | true =>
        simp only [isBlank, Bool.or_eq_true, decide_eq_true_eq] at blank
        rcases blank with ((rfl | rfl) | rfl) | rfl <;> cases digit
  · rintro rfl
    cases digit

theorem readLiteral_natural (before digits rest : Bytes) (blank : AllBlank before)
    (literal : IsLiteral digits) (fits : digitsValue digits < Word.bound 64)
    (delimited : Delimited rest) :
    readLiteral (before ++ digits ++ rest) = .ok (.natural (digitsValue digits), rest) := by
  have read := readNumber_complete false digits rest literal fits delimited
  obtain ⟨byte, more, rfl⟩ := List.exists_cons_of_ne_nil literal.some_digit
  have digit := literal.isDigit byte (by simp)
  obtain ⟨solid, not_minus⟩ := digit_solid byte digit
  have start : skipBlanks (before ++ (byte :: more) ++ rest) = byte :: (more ++ rest) := by
    rw [List.append_assoc, skipBlanks_append before _ blank]
    exact skipBlanks_cons byte _ solid
  simp only [readLiteral, start]
  rw [if_pos digit]
  exact read

theorem readLiteral_negated (before digits rest : Bytes) (blank : AllBlank before)
    (literal : IsLiteral digits) (fits : digitsValue digits < Word.bound 64)
    (delimited : Delimited rest) :
    readLiteral (before ++ 0x2D :: digits ++ rest) = .ok (.negated (digitsValue digits), rest) := by
  have start : skipBlanks (before ++ 0x2D :: digits ++ rest) = 0x2D :: (digits ++ rest) := by
    rw [List.append_assoc, skipBlanks_append before _ blank]
    exact skipBlanks_cons 0x2D _ rfl
  simp only [readLiteral, start]
  exact readNumber_complete true digits rest literal fits delimited

theorem readInteger_recognizes (low high : Int) (above : -(Word.bound 64 : Nat) < low)
    (below : high < (Word.bound 64 : Nat)) :
    Recognizes (readInteger low high)
      (fun text value => IsInteger text value ∧ low ≤ value ∧ value ≤ high) := by
  constructor
  · intro bytes value rest read
    unfold readInteger at read
    obtain ⟨⟨number, behind⟩, found, read⟩ := bind_ok _ _ _ read
    obtain ⟨result, valued, read⟩ := bind_ok _ _ _ read
    split at read
    · next within =>
        obtain ⟨rfl, rfl⟩ := Prod.mk.inj (Except.ok.inj read)
        rcases readLiteral_ok bytes behind number found with rfl | ⟨before, digits, blank, literal,
          ⟨joined, rfl⟩ | ⟨joined, rfl⟩⟩
        · cases valued
        · obtain rfl := Except.ok.inj valued
          exact ⟨_, joined, .natural before digits blank literal, within⟩
        · simp only [Number.integer] at valued
          split at valued
          · cases valued
          · next nonzero =>
              obtain rfl := Except.ok.inj valued
              exact ⟨_, joined, .negative before digits blank literal nonzero, within⟩
    · cases read
  · rintro text value rest ⟨spelled, least, most⟩ delimited
    cases spelled with
    | natural before digits blank literal =>
        have fits : digitsValue digits < Word.bound 64 := by omega
        rw [readInteger, readLiteral_natural before digits rest blank literal fits delimited]
        exact if_pos ⟨least, most⟩
    | negative before digits blank literal nonzero =>
        have fits : digitsValue digits < Word.bound 64 := by omega
        rw [readInteger, readLiteral_negated before digits rest blank literal fits delimited]
        simp only [Number.integer, bind, Except.bind, nonzero, if_false]
        exact if_pos ⟨least, most⟩

theorem readLiteral_start (bytes : Bytes) (result : Number × Bytes)
    (read : readLiteral bytes = .ok result) :
    ∃ byte rest, skipBlanks bytes = byte :: rest ∧ byte ≠ 0x5D ∧ byte ≠ 0x6E := by
  unfold readLiteral at read
  split at read
  · next rest start => exact ⟨0x2D, rest, start, by decide, by decide⟩
  · next byte rest _ start =>
      split at read
      · next digit =>
          refine ⟨byte, rest, start, ?_, ?_⟩
          · rintro rfl
            cases digit
          · rintro rfl
            cases digit
      · cases read
  · cases read

theorem readInteger_start (low high : Int) (bytes : Bytes) (result : Int × Bytes)
    (read : readInteger low high bytes = .ok result) :
    ∃ byte rest, skipBlanks bytes = byte :: rest ∧ byte ≠ 0x5D ∧ byte ≠ 0x6E := by
  obtain ⟨found, literal, -⟩ := bind_ok _ _ _ read
  exact readLiteral_start bytes found literal

theorem readInteger_regular (low high : Int) (above : -(Word.bound 64 : Nat) < low)
    (below : high < (Word.bound 64 : Nat)) : Regular (readInteger low high) := by
  refine regular_of _ _ (readInteger_recognizes low high above below) ?_ ?_
  · intro bytes
    have same : readLiteral (skipBlanks bytes) = readLiteral bytes := by
      rw [readLiteral, skipBlanks_idem]
      rfl
    rw [readInteger, same]
    rfl
  · intro bytes result read
    obtain ⟨byte, rest, start, not_end, -⟩ := readInteger_start low high bytes result read
    exact ⟨byte, rest, start, not_end⟩

def IsSigned (text : Bytes) (value : Int) : Prop :=
  IsInteger text value ∧ -2 ^ 63 ≤ value ∧ value ≤ 2 ^ 63 - 1

theorem signed_within : -(Word.bound 64 : Nat) < (-(Word.bound 63 : Nat) : Int) ∧
    ((Word.bound 63 : Nat) - 1 : Int) < (Word.bound 64 : Nat) := by
  have wide : Word.bound 64 = Word.bound 63 * 2 := Word.bound_succ 63
  have positive := Word.bound_pos 63
  omega

theorem readSigned_recognizes : Recognizes readSigned IsSigned :=
  readInteger_recognizes _ _ signed_within.1 signed_within.2

theorem readSigned_regular : Regular readSigned :=
  readInteger_regular _ _ signed_within.1 signed_within.2

def IsUnsigned (text : Bytes) (value : Nat) : Prop :=
  IsInteger text value ∧ value < 2 ^ 64

theorem unsigned_within : -(Word.bound 64 : Nat) < (0 : Int) ∧
    ((Word.bound 64 : Nat) - 1 : Int) < (Word.bound 64 : Nat) := by
  have positive := Word.bound_pos 64
  omega

theorem readUnsigned_recognizes : Recognizes readUnsigned IsUnsigned := by
  have kind := mapped_recognizes _ _
    (readInteger_recognizes _ _ unsigned_within.1 unsigned_within.2) Int.toNat
  have same : (fun text value => ∃ number : Int, (IsInteger text number ∧ 0 ≤ number ∧
      number ≤ (Word.bound 64 : Nat) - 1) ∧ number.toNat = value) = IsUnsigned := by
    have wide : Word.bound 64 = 2 ^ 64 := rfl
    funext text value
    apply propext
    constructor
    · rintro ⟨number, ⟨spelled, least, most⟩, rfl⟩
      refine ⟨?_, by omega⟩
      rwa [Int.toNat_of_nonneg least]
    · rintro ⟨spelled, fits⟩
      exact ⟨value, ⟨spelled, by omega, by omega⟩, rfl⟩
  rw [same] at kind
  exact kind

theorem readUnsigned_regular : Regular readUnsigned :=
  mapped_regular _ Int.toNat (readInteger_regular _ _ unsigned_within.1 unsigned_within.2)

theorem readUnsigned_not_null (bytes : Bytes) (result : Nat × Bytes)
    (read : readUnsigned bytes = .ok result) :
    ∃ byte rest, skipBlanks bytes = byte :: rest ∧ byte ≠ 0x6E := by
  obtain ⟨found, integer, -⟩ := bind_ok _ _ _ read
  obtain ⟨byte, rest, start, -, other⟩ := readInteger_start _ _ bytes found integer
  exact ⟨byte, rest, start, other⟩

end VolumeImport.Json
