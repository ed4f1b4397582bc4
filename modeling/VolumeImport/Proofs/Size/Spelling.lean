import VolumeImport.Proofs.Size.Suffix
import VolumeImport.Proofs.Text.Trimming

/-!
The texts that are sizes. A spelling is such a text taken apart, and reading is shown to find exactly the
parts: a spelled text is read as its parts say, and a text that is read has a spelling.
-/

namespace VolumeImport.Quantity

open Text

/-- A size taken apart: an optional plus, digits, an optional point with digits behind it, and a suffix. -/
structure Spelling where
  plus : Bool
  whole : List Char
  fraction : Option (List Char)
  suffix : List Char
  scale : Scale
  whole_digits : AllDigits whole
  fraction_digits : AllDigits (fraction.getD [])
  some_digit : whole ≠ [] ∨ fraction.getD [] ≠ []
  denotes : Denotes suffix scale

namespace Spelling

def sign (spelling : Spelling) : List Char :=
  if spelling.plus then ['+'] else []

def pointed (spelling : Spelling) : List Char :=
  match spelling.fraction with
  | none => []
  | some digits => '.' :: digits

def number (spelling : Spelling) : List Char :=
  spelling.whole ++ spelling.pointed

def text (spelling : Spelling) : List Char :=
  spelling.sign ++ (spelling.number ++ spelling.suffix)

def digits (spelling : Spelling) : List Char :=
  spelling.whole ++ spelling.fraction.getD []

def places (spelling : Spelling) : Nat :=
  (spelling.fraction.getD []).length

theorem number_isNumeral (spelling : Spelling) :
    ∀ char ∈ spelling.number, isNumeral char = true := by
  have digit : ∀ char, isAsciiDigit char = true → isNumeral char = true := by
    intro char digit
    simp [isNumeral, digit]
  intro char member
  simp only [number, pointed, List.mem_append] at member
  rcases member with whole | behind
  · exact digit char (spelling.whole_digits char whole)
  · cases point : spelling.fraction with
    | none => simp [point] at behind
    | some digits =>
        have plain := spelling.fraction_digits
        rw [point] at plain
        simp only [point, List.mem_cons] at behind
        rcases behind with rfl | inside
        · rfl
        · exact digit char (plain char inside)

theorem number_taken (spelling : Spelling) :
    (spelling.number ++ spelling.suffix).takeWhile isNumeral = spelling.number ∧
      (spelling.number ++ spelling.suffix).dropWhile isNumeral = spelling.suffix := by
  have head := suffix_head spelling.suffix spelling.scale spelling.denotes
  rw [List.takeWhile_append_of_pos spelling.number_isNumeral,
    List.dropWhile_append_of_pos spelling.number_isNumeral]
  cases suffix : spelling.suffix with
  | nil => simp
  | cons first rest =>
      have other : isNumeral first = false := head first (by simp [suffix])
      simp [other]

theorem number_split (spelling : Spelling) :
    splitPoint spelling.number = (spelling.whole, spelling.fraction.getD []) := by
  have before : ∀ char ∈ spelling.whole, (char ≠ '.') = true := by
    intro char member
    simpa using digit_not_point char (spelling.whole_digits char member)
  have kept : ∀ char ∈ spelling.whole, decide (char ≠ '.') = true := by
    intro char member
    exact decide_eq_true (digit_not_point char (spelling.whole_digits char member))
  simp only [splitPoint, number]
  rw [List.takeWhile_append_of_pos kept, List.dropWhile_append_of_pos kept]
  cases point : spelling.fraction <;> simp [pointed, point]

end Spelling

theorem fraction?_parts (text whole part : List Char)
    (split : splitPoint (text.takeWhile isNumeral) = (whole, part)) :
    fraction? text =
      if (whole = [] ∧ part = []) ∨ '.' ∈ part then none
      else (do
        let numerator ← fit? (Nat.ofDigitChars 10 (whole ++ part) 0)
        let denominator ← power? 10 (part.length % Word.bound 32)
        let scale ← scale? (text.dropWhile isNumeral)
        scale.apply? numerator denominator) := by
  have cut : splitPoint (text.takeWhile fun char => isAsciiDigit char || char == '.') =
      (whole, part) := split
  have behind : text.dropWhile (fun char => isAsciiDigit char || char == '.') =
      text.dropWhile isNumeral := rfl
  by_cases unreadable : (whole = [] ∧ part = []) ∨ '.' ∈ part
  · simp [fraction?, cut, unreadable]
  · simp [fraction?, cut, behind, unreadable, decimalValue_eq]

namespace Spelling

def fraction? (spelling : Spelling) : Option (Nat × Nat) := do
  let numerator ← fit? (Nat.ofDigitChars 10 spelling.digits 0)
  let denominator ← power? 10 (spelling.places % Word.bound 32)
  spelling.scale.apply? numerator denominator

theorem fraction?_spelled (spelling : Spelling) :
    Quantity.fraction? (spelling.number ++ spelling.suffix) = spelling.fraction? := by
  obtain ⟨taken, left⟩ := spelling.number_taken
  have readable : ¬((spelling.whole = [] ∧ spelling.fraction.getD [] = []) ∨
      '.' ∈ spelling.fraction.getD []) := by
    rintro (⟨whole, part⟩ | point)
    · exact spelling.some_digit.elim (· whole) (· part)
    · exact digit_not_point '.' (spelling.fraction_digits '.' point) rfl
  have scale := (scale?_iff spelling.suffix spelling.scale).mpr spelling.denotes
  rw [fraction?_parts _ spelling.whole (spelling.fraction.getD []) (by
    rw [taken, spelling.number_split]), if_neg readable, left, scale]
  rfl

end Spelling

theorem splitPoint_joins (number : List Char) :
    (number = (splitPoint number).1 ∧ (splitPoint number).2 = []) ∨
      number = (splitPoint number).1 ++ '.' :: (splitPoint number).2 := by
  have joined : number.takeWhile (· ≠ '.') ++ number.dropWhile (· ≠ '.') = number :=
    List.takeWhile_append_dropWhile
  simp only [splitPoint]
  cases rest : number.dropWhile (· ≠ '.') with
  | nil =>
      rw [rest, List.append_nil] at joined
      exact .inl ⟨joined.symm, rfl⟩
  | cons first part =>
      have stopped := List.head?_dropWhile_not (· ≠ '.') number
      rw [rest] at stopped
      obtain rfl : first = '.' := by simpa using stopped
      rw [rest] at joined
      exact .inr joined.symm

theorem splitPoint_digits (number : List Char) (numeral : ∀ char ∈ number, isNumeral char = true)
    (single : '.' ∉ (splitPoint number).2) :
    AllDigits (splitPoint number).1 ∧ AllDigits (splitPoint number).2 := by
  constructor
  · intro char member
    have other := List.all_eq_true.mp List.all_takeWhile char member
    exact digit_of_isNumeral char (numeral char (List.takeWhile_subset _ member))
      (of_decide_eq_true other)
  · intro char member
    have inside : char ∈ number :=
      List.dropWhile_subset _ (List.drop_subset 1 _ member)
    exact digit_of_isNumeral char (numeral char inside) (fun point => single (point ▸ member))

theorem fraction?_some (text : List Char) (value : Nat × Nat) (read : fraction? text = some value) :
    ∃ spelling : Spelling, spelling.plus = false ∧ spelling.number ++ spelling.suffix = text := by
  have numeral : ∀ char ∈ text.takeWhile isNumeral, isNumeral char = true :=
    List.all_eq_true.mp List.all_takeWhile
  rw [fraction?_parts text _ _ rfl] at read
  split at read
  · cases read
  · next readable =>
      obtain ⟨numerator, -, read⟩ := Option.bind_eq_some_iff.mp read
      obtain ⟨denominator, -, read⟩ := Option.bind_eq_some_iff.mp read
      obtain ⟨scale, scaled, -⟩ := Option.bind_eq_some_iff.mp read
      have denotes := (scale?_iff (text.dropWhile isNumeral) scale).mp scaled
      obtain ⟨some_digit, single⟩ := not_or.mp readable
      obtain ⟨whole_digits, part_digits⟩ := splitPoint_digits _ numeral single
      have joined : text.takeWhile isNumeral ++ text.dropWhile isNumeral = text :=
        List.takeWhile_append_dropWhile
      rcases splitPoint_joins (text.takeWhile isNumeral) with ⟨number, nothing⟩ | number
      · refine ⟨⟨false, _, none, _, scale, whole_digits, ?_, ?_, denotes⟩, rfl, ?_⟩
        · intro char member
          cases member
        · exact .inl fun whole => some_digit ⟨whole, nothing⟩
        · simp only [Spelling.number, Spelling.pointed, List.append_nil]
          rw [← number, joined]
      · refine ⟨⟨false, _, some _, _, scale, whole_digits, part_digits, ?_, denotes⟩, rfl, ?_⟩
        · exact Classical.not_and_iff_not_or_not.mp some_digit
        · simp only [Spelling.number, Spelling.pointed]
          rw [← number, joined]

namespace Spelling

/-- The text spells the size, up to white space at its ends. -/
def IsOf (spelling : Spelling) (text : String) : Prop :=
  ∃ left right, text.toList = left ++ spelling.text ++ right ∧ AllBlank left ∧ AllBlank right

theorem text_listed (spelling : Spelling) : ∀ char ∈ spelling.text, char ∈ alphabet := by
  intro char member
  simp only [text, List.mem_append] at member
  rcases member with sign | number | suffix
  · have plus : char = '+' := by
      unfold Spelling.sign at sign
      split at sign <;> simp_all
    rw [plus]
    decide
  · have numeral := spelling.number_isNumeral char number
    by_cases point : char = '.'
    · rw [point]
      decide
    · exact digit_listed char (digit_of_isNumeral char numeral point)
  · exact suffix_listed spelling.suffix spelling.scale spelling.denotes char suffix

theorem text_solid (spelling : Spelling) : ∀ char ∈ spelling.text, isBlank char = false := by
  have solid : (alphabet.all fun char => !isBlank char) = true := by decide
  intro char member
  simpa using List.all_eq_true.mp solid char (spelling.text_listed char member)

theorem trim_of (spelling : Spelling) (text : String) (spelled : spelling.IsOf text) :
    trim text.toList = spelling.text := by
  obtain ⟨left, right, around, before, behind⟩ := spelled
  rw [around, trim_around left spelling.text right before behind,
    trim_plain spelling.text spelling.text_solid]

theorem number_ne_nil (spelling : Spelling) : spelling.number ≠ [] := by
  intro nothing
  simp only [number, pointed, List.append_eq_nil_iff] at nothing
  have some_digit := spelling.some_digit
  cases point : spelling.fraction <;> simp_all

theorem dropPlus_text (spelling : Spelling) :
    dropPlus spelling.text = spelling.number ++ spelling.suffix := by
  unfold text sign
  split
  · rfl
  · cases number : spelling.number with
    | nil => exact absurd number spelling.number_ne_nil
    | cons first rest =>
        have numeral : isNumeral first = true := spelling.number_isNumeral first (by simp [number])
        have not_plus : first ≠ '+' := by
          rintro rfl
          cases numeral
        simp [dropPlus, not_plus]

end Spelling

theorem parse_spelled (text : String) (spelling : Spelling) (spelled : spelling.IsOf text) :
    parse text = match spelling.fraction? with
      | some (numerator, denominator) => .ok ⟨String.ofList spelling.text, numerator, denominator⟩
      | none => .error (.invalidSize text) := by
  have trimmed := spelling.trim_of text spelled
  have read : fraction? (dropPlus spelling.text) = spelling.fraction? := by
    rw [spelling.dropPlus_text, spelling.fraction?_spelled]
  cases found : spelling.fraction? with
  | none => simp only [parse, trimmed, read, found]
  | some pair => simp only [parse, trimmed, read, found]

theorem dropPlus_cases (text : List Char) :
    text = '+' :: dropPlus text ∨ text = dropPlus text := by
  unfold dropPlus
  split
  · exact .inl rfl
  · exact .inr rfl

theorem parse_ok (text : String) (size : Quantity) (read : parse text = .ok size) :
    ∃ spelling : Spelling, spelling.IsOf text := by
  simp only [parse] at read
  split at read
  · next found =>
      obtain ⟨spelling, unsigned, joined⟩ := fraction?_some _ _ found
      obtain ⟨left, right, around, before, behind⟩ := trim_exists text.toList
      rcases dropPlus_cases (trim text.toList) with plus | none
      · refine ⟨{ spelling with plus := true }, left, right, ?_, before, behind⟩
        have spelled : ({ spelling with plus := true } : Spelling).text = trim text.toList := by
          rw [plus, ← joined]
          rfl
        rw [spelled, ← around]
      · refine ⟨spelling, left, right, ?_, before, behind⟩
        have spelled : spelling.text = trim text.toList := by
          rw [none, ← joined, Spelling.text, Spelling.sign, unsigned]
          rfl
        rw [spelled, ← around]
  · cases read

end VolumeImport.Quantity
