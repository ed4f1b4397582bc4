import VolumeImport.Image.Source
import VolumeImport.Proofs.Text.Numeral

/-!
Which locators have a scheme, and which one. The scheme is found by the first colon alone: nothing behind that
colon has a say in it, and letter case makes no difference.
-/

namespace VolumeImport.Source

/-- A letter, and letters, digits and three signs behind it; letters and digits are those of ASCII. -/
def IsSchemeText (text : List Char) : Prop :=
  ∃ first rest, text = first :: rest ∧ first.isAlpha = true ∧
    ∀ char ∈ rest, char.isAlphanum = true ∨ char ∈ ['+', '-', '.']

/-- Before the first colon of the locator stands this scheme, in any letter case. -/
def Names (locator scheme : String) : Prop :=
  ∃ before behind, locator.toList = before ++ ':' :: behind ∧ ':' ∉ before ∧ IsSchemeText before ∧
    scheme.toList = before.map Char.toLower

theorem isAsciiLetter_eq (char : Char) : isAsciiLetter char = char.isAlpha := by
  delta Char.isAlpha Char.isUpper Char.isLower
  simp only [isAsciiLetter, Char.le_def, ge_iff_le]
  rw [Bool.or_comm, Bool.decide_and]

theorem isSchemeRest_iff (char : Char) :
    isSchemeRest char = true ↔ char.isAlphanum = true ∨ char ∈ ['+', '-', '.'] := by
  simp [isSchemeRest, isAsciiLetter_eq, Char.isAlphanum, or_assoc]

theorem isScheme_iff (text : List Char) : isScheme text = true ↔ IsSchemeText text := by
  cases text with
  | nil => simp [isScheme, IsSchemeText]
  | cons first rest =>
      simp [isScheme, IsSchemeText, isAsciiLetter_eq, List.all_eq_true, isSchemeRest_iff]

theorem lowerAscii_eq (char : Char) : lowerAscii char = char.toLower := by
  unfold lowerAscii Char.toLower
  split
  · next upper =>
      have range : 65 ≤ char.toNat ∧ char.toNat ≤ 90 := by
        simpa [Char.le_def, UInt32.le_iff_toNat_le] using upper
      have valid : Nat.isValidChar (char.toNat + 32) := .inl (by omega)
      rw [dif_pos (by simpa [Char.le_def] using upper), Char.ofNat, dif_pos valid]
      apply Char.toNat_inj.mp
      change char.toNat + 32 = (char.toNat + 32) % 2 ^ 32
      omega
  · next other =>
      rw [dif_neg (by simpa [Char.le_def] using other)]

theorem takeWhile_before (before behind : List Char) (first : ':' ∉ before) :
    (before ++ ':' :: behind).takeWhile (· ≠ ':') = before := by
  rw [List.takeWhile_append_of_pos]
  · simp
  · intro char listed
    have other : char ≠ ':' := fun colon => first (colon ▸ listed)
    simpa using other

theorem exists_behind (text : List Char)
    (short : (text.takeWhile (· ≠ ':')).length < text.length) :
    ∃ behind, text = text.takeWhile (· ≠ ':') ++ ':' :: behind := by
  have whole := List.takeWhile_append_dropWhile (p := (· ≠ ':')) (l := text)
  cases left : text.dropWhile (· ≠ ':') with
  | nil =>
      rw [left, List.append_nil] at whole
      rw [whole] at short
      exact absurd short (Nat.lt_irrefl _)
  | cons char behind =>
      have stop := List.head?_dropWhile_not (· ≠ ':') text
      rw [left] at stop
      obtain rfl : char = ':' := by simpa using stop
      exact ⟨behind, by rw [← left, whole]⟩

theorem scheme?_iff (locator scheme : List Char) :
    scheme? locator = some scheme ↔ ∃ before behind, locator = before ++ ':' :: behind ∧
      ':' ∉ before ∧ IsSchemeText before ∧ scheme = before.map Char.toLower := by
  have lowered : ∀ before : List Char, before.map lowerAscii = before.map Char.toLower :=
    fun before => List.map_congr_left fun char _ => lowerAscii_eq char
  simp only [scheme?, lowered, ← isScheme_iff]
  constructor
  · intro found
    split at found
    · next formed =>
        obtain ⟨short, formed⟩ := (Bool.and_eq_true _ _).mp formed
        obtain ⟨behind, split⟩ := exists_behind locator (of_decide_eq_true short)
        refine ⟨_, behind, split, ?_, formed, (Option.some.inj found).symm⟩
        intro colon
        simpa using List.all_eq_true.mp List.all_takeWhile ':' colon
    · cases found
  · rintro ⟨before, behind, rfl, first, formed, rfl⟩
    rw [takeWhile_before before behind first]
    simp [formed]

theorem parse_scheme_iff (locator scheme : String) :
    (parse locator).scheme = some scheme ↔ Names locator scheme := by
  simp only [parse, Option.map_eq_some_iff, scheme?_iff, Names]
  constructor
  · rintro ⟨_, ⟨before, behind, split, first, formed, rfl⟩, rfl⟩
    exact ⟨before, behind, split, first, formed, String.toList_ofList⟩
  · rintro ⟨before, behind, split, first, formed, lower⟩
    exact ⟨_, ⟨before, behind, split, first, formed, rfl⟩, by rw [← lower, String.ofList_toList]⟩

end VolumeImport.Source
