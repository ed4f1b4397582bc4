import VolumeImport.Proofs.Json.Recognition

/-!
Values that may be `null`. Only the word itself begins with its first letter, so the reader knows at once which
of the two it has before it.
-/

namespace VolumeImport.Json

variable {α : Type}

inductive IsOptional (Is : Bytes → α → Prop) : Bytes → Option α → Prop
  | null (before : Bytes) (blank : AllBlank before) :
      IsOptional Is (before ++ [0x6E, 0x75, 0x6C, 0x6C]) none
  | value (text : Bytes) (value : α) (spelled : Is text value) : IsOptional Is text (some value)

theorem readWord_iff (word bytes rest : Bytes) :
    readWord word bytes = .ok rest ↔ bytes = word ++ rest := by
  induction word generalizing bytes with
  | nil => simp [readWord]
  | cons letter letters ih =>
      cases bytes with
      | nil => simp [readWord]
      | cons byte more =>
          rw [readWord]
          split
          · next same => simp [ih, same]
          · next other => simp [other]

theorem readOptional_recognizes (read : Reader α) (Is : Bytes → α → Prop)
    (kind : Recognizes read Is) (blanks : ∀ bytes, read (skipBlanks bytes) = read bytes)
    (starts : ∀ bytes result, read bytes = .ok result →
      ∃ byte rest, skipBlanks bytes = byte :: rest ∧ byte ≠ 0x6E) :
    Recognizes (readOptional read) (IsOptional Is) := by
  constructor
  · intro bytes value rest made
    obtain ⟨before, cut, blank⟩ := skipBlanks_exists bytes
    unfold readOptional at made
    split at made
    · next behind start =>
        obtain ⟨left, word, none_read⟩ := bind_ok _ _ _ made
        obtain ⟨rfl, rfl⟩ := Prod.mk.inj (Except.ok.inj none_read)
        obtain rfl := (readWord_iff _ behind left).mp word
        refine ⟨_, ?_, .null before blank⟩
        rw [cut, start]
        simp
    · obtain ⟨⟨found, behind⟩, given, some_read⟩ := bind_ok _ _ _ made
      obtain ⟨rfl, rfl⟩ := Prod.mk.inj (Except.ok.inj some_read)
      rw [blanks] at given
      obtain ⟨text, joined, spelled⟩ := kind.sound bytes found behind given
      exact ⟨text, joined, .value text found spelled⟩
  · intro text value rest spelled delimited
    cases spelled with
    | null before blank =>
        have start : skipBlanks (before ++ [0x6E, 0x75, 0x6C, 0x6C] ++ rest) =
            0x6E :: ([0x75, 0x6C, 0x6C] ++ rest) := by
          rw [List.append_assoc, skipBlanks_append before _ blank]
          exact skipBlanks_cons 0x6E _ rfl
        have word := (readWord_iff [0x75, 0x6C, 0x6C] ([0x75, 0x6C, 0x6C] ++ rest) rest).mpr rfl
        simp only [readOptional, start]
        rw [word]
        rfl
    | value text value spelled =>
        have given := kind.complete text value rest spelled delimited
        obtain ⟨byte, behind, start, other⟩ := starts _ _ given
        rw [← blanks, start] at given
        rw [readOptional, start]
        split
        · next same => exact absurd (List.cons.inj same).1 other
        · simp [given, bind, Except.bind]

theorem readOptional_regular (read : Reader α) (regular : Regular read)
    (starts : ∀ bytes result, read bytes = .ok result →
      ∃ byte rest, skipBlanks bytes = byte :: rest ∧ byte ≠ 0x6E) :
    Regular (readOptional read) := by
  refine regular_of _ _
    (readOptional_recognizes read _ regular.recognizes regular.blanks starts) ?_ ?_
  · intro bytes
    rw [readOptional, skipBlanks_idem]
    rfl
  · intro bytes result made
    unfold readOptional at made
    split at made
    · next rest start => exact ⟨0x6E, rest, start, by decide⟩
    · obtain ⟨found, given, -⟩ := bind_ok _ _ _ made
      rw [regular.blanks] at given
      exact regular.starts bytes found given

end VolumeImport.Json
