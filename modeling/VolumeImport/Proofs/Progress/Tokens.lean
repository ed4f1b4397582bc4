import Mathlib.Data.List.Basic
import VolumeImport.Progress.Token
import VolumeImport.Proofs.Text.Numeral

/-!
Where a line carries a progress token. The search finds the leftmost token in digits of any script, and only
then asks for their value. So it finds every proper token, in ASCII digits, but for those that stand behind a
token in other digits.
-/

namespace VolumeImport.Progress

structure Opens (isDigit : Char → Bool) (text whole fraction : List Char) : Prop where
  spelled : ∃ behind, text = '(' :: (whole ++ '.' :: (fraction ++ (tokenEnd ++ behind)))
  places : whole.length = 1 ∨ whole.length = 2
  hundredths : fraction.length = 2
  digits : ∀ char ∈ whole ++ fraction, isDigit char = true

def Stands (isDigit : Char → Bool) (line before whole fraction : List Char) : Prop :=
  ∃ text, line = before ++ text ∧ Opens isDigit text whole fraction

structure Leads (isDigit : Char → Bool) (line before whole fraction : List Char) : Prop where
  stands : Stands isDigit line before whole fraction
  first : ∀ earlier other_whole other_fraction,
    Stands isDigit line earlier other_whole other_fraction → before.length ≤ earlier.length

def Finds (isDigit : Char → Bool) (line digits : List Char) : Prop :=
  ∃ before whole fraction, digits = whole ++ fraction ∧ Leads isDigit line before whole fraction

section Search

variable {isDigit other : Char → Bool} {char : Char} {line before whole fraction : List Char}

theorem Stands.mono (stands : Stands isDigit line before whole fraction)
    (digits : ∀ char ∈ whole ++ fraction, other char = true) :
    Stands other line before whole fraction := by
  obtain ⟨text, parts, opens⟩ := stands
  exact ⟨text, parts, opens.spelled, opens.places, opens.hundredths, digits⟩

theorem Stands.digits (stands : Stands isDigit line before whole fraction) :
    ∀ char ∈ whole ++ fraction, isDigit char = true := by
  obtain ⟨_, -, opens⟩ := stands
  exact opens.digits

theorem stands_cons :
    Stands isDigit (char :: line) before whole fraction ↔
      (before = [] ∧ Opens isDigit (char :: line) whole fraction) ∨
        ∃ front, before = char :: front ∧ Stands isDigit line front whole fraction := by
  constructor
  · rintro ⟨text, parts, opens⟩
    cases before with
    | nil =>
        obtain rfl : char :: line = text := parts
        exact .inl ⟨rfl, opens⟩
    | cons first front =>
        obtain ⟨rfl, rest⟩ := List.cons.inj parts
        exact .inr ⟨front, rfl, text, rest, opens⟩
  · rintro (⟨rfl, opens⟩ | ⟨front, rfl, text, rfl, opens⟩)
    · exact ⟨_, rfl, opens⟩
    · exact ⟨text, rfl, opens⟩

theorem leads_cons (skipped : ∀ whole fraction, ¬Opens isDigit (char :: line) whole fraction) :
    Leads isDigit (char :: line) before whole fraction ↔
      ∃ front, before = char :: front ∧ Leads isDigit line front whole fraction := by
  constructor
  · rintro ⟨stands, first⟩
    rcases stands_cons.mp stands with ⟨-, opens⟩ | ⟨front, rfl, behind⟩
    · exact absurd opens (skipped whole fraction)
    · refine ⟨front, rfl, behind, fun earlier _ _ found => ?_⟩
      simpa using first (char :: earlier) _ _ (stands_cons.mpr (.inr ⟨earlier, rfl, found⟩))
  · rintro ⟨front, rfl, stands, first⟩
    refine ⟨stands_cons.mpr (.inr ⟨front, rfl, stands⟩), fun earlier _ _ found => ?_⟩
    rcases stands_cons.mp found with ⟨-, opens⟩ | ⟨shorter, rfl, behind⟩
    · exact absurd opens (skipped _ _)
    · simpa using first shorter _ _ behind

theorem finds_cons (digits : List Char)
    (skipped : ∀ whole fraction, ¬Opens isDigit (char :: line) whole fraction) :
    Finds isDigit (char :: line) digits ↔ Finds isDigit line digits := by
  constructor
  · rintro ⟨before, whole, fraction, rfl, leads⟩
    obtain ⟨front, -, behind⟩ := (leads_cons skipped).mp leads
    exact ⟨front, whole, fraction, rfl, behind⟩
  · rintro ⟨front, whole, fraction, rfl, behind⟩
    exact ⟨char :: front, whole, fraction, rfl, (leads_cons skipped).mpr ⟨front, rfl, behind⟩⟩

theorem Stands.start (stands : Stands isDigit line before whole fraction) :
    ∃ digit rest, line.drop before.length = '(' :: digit :: rest ∧ isDigit digit = true := by
  obtain ⟨_, rfl, ⟨behind, rfl⟩, places, -, digits⟩ := stands
  obtain ⟨digit, others, rfl⟩ : ∃ digit others, whole = digit :: others :=
    List.exists_cons_of_ne_nil (by rintro rfl; simp at places)
  exact ⟨digit, _, List.drop_left, digits digit (by simp)⟩

end Search

theorem fraction?_iff (text fraction : List Char) :
    fraction? text = some fraction ↔
      fraction.length = 2 ∧ (∀ char ∈ fraction, Text.isDecimalDigit char = true) ∧
        ∃ behind, text = fraction ++ (tokenEnd ++ behind) := by
  constructor
  · intro found
    unfold fraction? at found
    split at found
    · rename_i tenth hundredth rest
      split at found
      · rename_i token
        simp only [Bool.and_eq_true, List.isPrefixOf_iff_prefix] at token
        obtain ⟨⟨tenths, hundredths⟩, behind, rfl⟩ := token
        cases found
        exact ⟨rfl, by simp [tenths, hundredths], behind, rfl⟩
      · cases found
    · cases found
  · rintro ⟨places, digits, behind, rfl⟩
    obtain ⟨tenth, hundredth, rfl⟩ := List.length_eq_two.mp places
    have tenths := digits tenth (by simp)
    have hundredths := digits hundredth (by simp)
    simp [fraction?, tenths, hundredths]

theorem digits?_iff (text digits : List Char) :
    digits? text = some digits ↔
      ∃ whole fraction, digits = whole ++ fraction ∧
        Opens Text.isDecimalDigit ('(' :: text) whole fraction := by
  constructor
  · intro found
    unfold digits? at found
    split at found
    · rename_i ones rest
      split at found
      · rename_i digit
        obtain ⟨fraction, behind, rfl⟩ := Option.map_eq_some_iff.mp found
        obtain ⟨places, decimal, end_, rfl⟩ := (fraction?_iff rest fraction).mp behind
        exact ⟨[ones], fraction, rfl, ⟨end_, rfl⟩, .inl rfl, places, by simpa [digit] using decimal⟩
      · cases found
    · rename_i tens ones rest _
      split at found
      · rename_i both
        obtain ⟨tens_digit, ones_digit⟩ := Bool.and_eq_true_iff.mp both
        obtain ⟨fraction, behind, rfl⟩ := Option.map_eq_some_iff.mp found
        obtain ⟨places, decimal, end_, rfl⟩ := (fraction?_iff rest fraction).mp behind
        exact ⟨[tens, ones], fraction, rfl, ⟨end_, rfl⟩, .inr rfl, places,
          by simpa [tens_digit, ones_digit] using decimal⟩
      · cases found
    · cases found
  · rintro ⟨whole, fraction, rfl, ⟨behind, spelled⟩, places, hundredths, decimal⟩
    have fractional : fraction? (fraction ++ (tokenEnd ++ behind)) = some fraction :=
      (fraction?_iff _ fraction).mpr
        ⟨hundredths, fun char member => decimal char (by simp [member]), behind, rfl⟩
    obtain rfl := (List.cons.inj spelled).2
    rcases places with one | two
    · obtain ⟨ones, rfl⟩ := List.length_eq_one_iff.mp one
      have digit := decimal ones (by simp)
      simp [digits?, digit, fractional]
    · obtain ⟨tens, ones, rfl⟩ := List.length_eq_two.mp two
      have tens_digit := decimal tens (by simp)
      have ones_digit := decimal ones (by simp)
      have no_point : ones ≠ '.' := by
        rintro rfl
        exact absurd ones_digit (by decide)
      simp [digits?, tens_digit, ones_digit, fractional]

theorem leftmost?_iff (line digits : List Char) :
    leftmost? line = some digits ↔ Finds Text.isDecimalDigit line digits := by
  fun_induction leftmost? line with
  | case1 =>
      constructor
      · nofun
      · rintro ⟨before, whole, fraction, -, stands, -⟩
        obtain ⟨digit, rest, next, -⟩ := stands.start
        simp at next
  | case2 rest token here =>
      obtain ⟨whole, fraction, rfl, opens⟩ := (digits?_iff rest token).mp here
      constructor
      · rintro ⟨⟩
        exact ⟨[], whole, fraction, rfl, stands_cons.mpr (.inl ⟨rfl, opens⟩), by simp⟩
      · rintro ⟨before, other_whole, other_fraction, rfl, stands, first⟩
        have front := first [] whole fraction (stands_cons.mpr (.inl ⟨rfl, opens⟩))
        obtain rfl : before = [] := by simpa using front
        rcases stands_cons.mp stands with ⟨-, also⟩ | ⟨_, empty, -⟩
        · rw [← here]
          exact (digits?_iff rest _).mpr ⟨other_whole, other_fraction, rfl, also⟩
        · cases empty
  | case3 rest nothing ih =>
      rw [ih]
      refine (finds_cons digits fun whole fraction opens => ?_).symm
      have found := (digits?_iff rest _).mpr ⟨whole, fraction, rfl, opens⟩
      rw [nothing] at found
      cases found
  | case4 char rest other ih =>
      rw [ih]
      refine (finds_cons digits fun whole fraction opens => ?_).symm
      obtain ⟨behind, spelled⟩ := opens.spelled
      exact other (List.cons.inj spelled).1

theorem isDecimalDigit_of_isAsciiDigit (char : Char) (ascii : Text.isAsciiDigit char = true) :
    Text.isDecimalDigit char = true := by
  simp only [Text.isAsciiDigit, Bool.and_eq_true, decide_eq_true_eq, Char.le_def,
    UInt32.le_iff_toNat_le] at ascii
  refine List.any_eq_true.mpr ⟨(0x30, 0x39), by decide, ?_⟩
  simpa using ascii

theorem decimalValue_append (whole fraction : List Char) (hundredths : fraction.length = 2) :
    Text.decimalValue (whole ++ fraction) =
      Text.decimalValue whole * 100 + Text.decimalValue fraction := by
  obtain ⟨tenth, hundredth, rfl⟩ := List.length_eq_two.mp hundredths
  simp only [Text.decimalValue, List.foldl_append, List.foldl_cons, List.foldl_nil]
  omega

/-- A line has a value if its leftmost token is written in ASCII digits, and it is the value of that token. -/
theorem parse_iff (line : String) (hundredths : Nat) :
    parse line = some hundredths ↔
      ∃ before whole fraction, Leads Text.isDecimalDigit line.toList before whole fraction ∧
        (∀ char ∈ whole ++ fraction, Text.isAsciiDigit char = true) ∧
        hundredths = Text.decimalValue whole * 100 + Text.decimalValue fraction := by
  simp only [parse, Option.bind_eq_bind, Option.bind_eq_some_iff, leftmost?_iff, Finds]
  constructor
  · rintro ⟨_, ⟨before, whole, fraction, rfl, leads⟩, read⟩
    split at read
    · rename_i ascii
      obtain ⟨_, _, opens⟩ := leads.stands
      rw [decimalValue_append whole fraction opens.hundredths, Option.some.injEq] at read
      exact ⟨before, whole, fraction, leads, List.all_eq_true.mp ascii, read.symm⟩
    · cases read
  · rintro ⟨before, whole, fraction, leads, ascii, rfl⟩
    obtain ⟨_, _, opens⟩ := leads.stands
    refine ⟨_, ⟨before, whole, fraction, rfl, leads⟩, ?_⟩
    rw [if_pos (List.all_eq_true.mpr ascii), decimalValue_append whole fraction opens.hundredths]

/-- The value that a line shows: the number in its leftmost token in ASCII digits. -/
def Shows (line : List Char) (hundredths : Nat) : Prop :=
  ∃ before whole fraction, Leads Text.isAsciiDigit line before whole fraction ∧
    hundredths = Text.decimalValue whole * 100 + Text.decimalValue fraction

/-- A token in digits of another script stands to the left of all tokens in ASCII digits. -/
def Shadowed (line : List Char) : Prop :=
  ∃ before whole fraction, Leads Text.isAsciiDigit line before whole fraction ∧
    ∃ earlier other_whole other_fraction,
      Stands Text.isDecimalDigit line earlier other_whole other_fraction ∧
        earlier.length < before.length

theorem parse_shadowed (line : String) (shadowed : Shadowed line.toList) : parse line = none := by
  obtain ⟨before, whole, fraction, leads, earlier, _, _, foreign, left⟩ := shadowed
  by_contra read
  obtain ⟨hundredths, read⟩ := Option.ne_none_iff_exists'.mp read
  obtain ⟨found, _, _, leftmost, ascii, -⟩ := (parse_iff line hundredths).mp read
  have not_before := leftmost.first _ _ _ foreign
  have not_behind := leads.first _ _ _ (leftmost.stands.mono ascii)
  omega

/-- A line is read for the value that it shows, whatever else stands in it, unless a token in digits of
another script shadows the value. Such a line has none. -/
theorem shown_value_read_iff (line : String) :
    ((∀ hundredths, parse line = some hundredths ↔ Shows line.toList hundredths) ↔
      ¬Shadowed line.toList) ∧
    (Shadowed line.toList → parse line = none) := by
  refine ⟨⟨?_, ?_⟩, parse_shadowed line⟩
  · rintro reads shadowed
    obtain ⟨before, whole, fraction, leads, -⟩ := id shadowed
    have read := (reads _).mpr ⟨before, whole, fraction, leads, rfl⟩
    rw [parse_shadowed line shadowed] at read
    cases read
  · intro clear hundredths
    rw [parse_iff]
    constructor
    · rintro ⟨before, whole, fraction, leads, ascii, value⟩
      refine ⟨before, whole, fraction, ⟨leads.stands.mono ascii, ?_⟩, value⟩
      intro earlier _ _ proper
      exact leads.first _ _ _
        (proper.mono fun char member => isDecimalDigit_of_isAsciiDigit char (proper.digits char member))
    · rintro ⟨before, whole, fraction, leads, value⟩
      have ascii := leads.stands.digits
      have decimal := leads.stands.mono fun char member =>
        isDecimalDigit_of_isAsciiDigit char (ascii char member)
      refine ⟨before, whole, fraction, ⟨decimal, ?_⟩, ascii, value⟩
      intro earlier other_whole other_fraction found
      by_contra left
      exact clear ⟨before, whole, fraction, leads, earlier, other_whole, other_fraction, found,
        Nat.lt_of_not_le left⟩

/-- The line carries a token of 45.34, and it is not read. -/
theorem shadowed_token_not_read :
    parse "(٤٥.٣٤/100%) (45.34/100%)" = none ∧
      Shows "(٤٥.٣٤/100%) (45.34/100%)".toList 4534 := by
  refine ⟨by decide, "(٤٥.٣٤/100%) ".toList, ['4', '5'], ['3', '4'], ⟨?_, ?_⟩, rfl⟩
  · exact ⟨"(45.34/100%)".toList, by decide, ⟨[], by decide⟩, .inr rfl, rfl,
      List.all_eq_true.mp rfl⟩
  · intro earlier whole fraction stands
    obtain ⟨digit, rest, next, ascii⟩ := stands.start
    by_contra left
    have foreign : ∀ place < 13,
        ("(٤٥.٣٤/100%) (45.34/100%)".toList.drop place).head? = some '(' →
        ("(٤٥.٣٤/100%) (45.34/100%)".toList.drop place).tail.head?.all Text.isAsciiDigit = false := by
      decide
    have refuted := foreign earlier.length (Nat.lt_of_not_le left)
    rw [next] at refuted
    simp [ascii] at refuted

end VolumeImport.Progress
