import VolumeImport.Json.Reader
import VolumeImport.Proofs.Json.Alphabet

/-!
What it means that a reader recognizes a kind of text: it reads nothing else, and it reads all of that kind
wherever a value may end. Every value may have blanks before it.
-/

namespace VolumeImport.Json

def AllBlank (bytes : Bytes) : Prop :=
  ∀ byte ∈ bytes, byte ∈ blankBytes

theorem allBlank_nil : AllBlank [] := fun _ listed => absurd listed List.not_mem_nil

theorem AllBlank.append {bytes others : Bytes} (blank : AllBlank bytes) (blank' : AllBlank others) :
    AllBlank (bytes ++ others) := fun byte listed =>
  (List.mem_append.mp listed).elim (blank byte) (blank' byte)

theorem AllBlank.isBlank {bytes : Bytes} (blank : AllBlank bytes) :
    ∀ byte ∈ bytes, isBlank byte = true := fun byte listed =>
  (isBlank_iff byte).mpr (blank byte listed)

/-- What may stand behind a value: nothing, a blank, or punctuation. -/
def Delimited (rest : Bytes) : Prop :=
  ∀ byte ∈ rest.head?, isBlank byte = true ∨ byte = 0x2C ∨ byte = 0x5D ∨ byte = 0x7D

variable {α β : Type}

def Reads (read : Reader α) (text : Bytes) (value : α) : Prop :=
  read text = .ok (value, [])

/-- The reader reads exactly the texts of one kind, as their values. -/
structure Recognizes (read : Reader α) (Is : Bytes → α → Prop) : Prop where
  sound : ∀ bytes value rest, read bytes = .ok (value, rest) →
    ∃ text, bytes = text ++ rest ∧ Is text value
  complete : ∀ text value rest, Is text value → Delimited rest →
    read (text ++ rest) = .ok (value, rest)

theorem bind_ok (first : Except Fault α) (next : α → Except Fault β) (result : β)
    (made : first >>= next = .ok result) : ∃ value, first = .ok value ∧ next value = .ok result := by
  cases first with
  | error fault => cases made
  | ok value => exact ⟨value, rfl, made⟩

theorem skipBlanks_append (before rest : Bytes) (blank : AllBlank before) :
    skipBlanks (before ++ rest) = skipBlanks rest :=
  List.dropWhile_append_of_pos blank.isBlank

theorem skipBlanks_cons (byte : UInt8) (rest : Bytes) (solid : isBlank byte = false) :
    skipBlanks (byte :: rest) = byte :: rest := by
  simp [skipBlanks, solid]

theorem skipBlanks_nil (blanks : Bytes) (blank : AllBlank blanks) : skipBlanks blanks = [] := by
  simpa [skipBlanks] using skipBlanks_append blanks [] blank

theorem skipBlanks_exists (bytes : Bytes) :
    ∃ before, bytes = before ++ skipBlanks bytes ∧ AllBlank before := by
  refine ⟨bytes.takeWhile isBlank, List.takeWhile_append_dropWhile.symm, ?_⟩
  intro byte member
  exact (isBlank_iff byte).mp (List.all_eq_true.mp List.all_takeWhile byte member)

theorem skipBlanks_idem (bytes : Bytes) : skipBlanks (skipBlanks bytes) = skipBlanks bytes := by
  cases start : skipBlanks bytes with
  | nil => rfl
  | cons byte rest =>
      have solid := List.head?_dropWhile_not isBlank bytes
      have dropped : bytes.dropWhile isBlank = byte :: rest := start
      rw [dropped] at solid
      exact skipBlanks_cons byte rest solid

theorem recognizes_reads (read : Reader α) (Is : Bytes → α → Prop) (kind : Recognizes read Is)
    (text : Bytes) (value : α) : Reads read text value ↔ Is text value := by
  constructor
  · intro reads
    obtain ⟨whole, joined, is_value⟩ := kind.sound text value [] reads
    rw [joined, List.append_nil]
    exact is_value
  · intro is_value
    have read_whole := kind.complete text value [] is_value (by simp [Delimited])
    rwa [List.append_nil] at read_whole

theorem Recognizes.after_blanks {read : Reader α} {Is : Bytes → α → Prop}
    (kind : Recognizes read Is) (passes : ∀ bytes, read (skipBlanks bytes) = read bytes)
    (before text : Bytes) (value : α) (blank : AllBlank before) (spelled : Is text value) :
    Is (before ++ text) value := by
  have reads : Reads read text value := (recognizes_reads read Is kind text value).mpr spelled
  rw [Reads, ← passes text, ← skipBlanks_append before text blank, passes] at reads
  exact (recognizes_reads read Is kind _ value).mp reads

/-- A reader that looks past blanks, never takes a closing bracket for a value, and takes no more than the
value. -/
structure Regular (read : Reader α) : Prop where
  blanks : ∀ bytes, read (skipBlanks bytes) = read bytes
  starts : ∀ bytes result, read bytes = .ok result →
    ∃ byte rest, skipBlanks bytes = byte :: rest ∧ byte ≠ 0x5D
  recognizes : Recognizes read (Reads read)

theorem regular_of (read : Reader α) (Is : Bytes → α → Prop) (kind : Recognizes read Is)
    (blanks : ∀ bytes, read (skipBlanks bytes) = read bytes)
    (starts : ∀ bytes result, read bytes = .ok result →
      ∃ byte rest, skipBlanks bytes = byte :: rest ∧ byte ≠ 0x5D) : Regular read := by
  refine ⟨blanks, starts, ?_, ?_⟩
  · intro bytes value rest made
    obtain ⟨text, joined, is_value⟩ := kind.sound bytes value rest made
    exact ⟨text, joined, (recognizes_reads read Is kind text value).mpr is_value⟩
  · intro text value rest reads delimited
    exact kind.complete text value rest ((recognizes_reads read Is kind text value).mp reads) delimited

def mapped (read : Reader α) (next : α → β) : Reader β := fun bytes => do
  let (value, rest) ← read bytes
  .ok (next value, rest)

theorem mapped_ok (read : Reader α) (next : α → β) (bytes rest : Bytes) (result : β) :
    mapped read next bytes = .ok (result, rest) ↔
      ∃ value, read bytes = .ok (value, rest) ∧ next value = result := by
  constructor
  · intro made
    obtain ⟨⟨value, behind⟩, found, used⟩ := bind_ok _ _ _ made
    obtain ⟨rfl, rfl⟩ := Prod.mk.inj (Except.ok.inj used)
    exact ⟨value, found, rfl⟩
  · rintro ⟨value, found, rfl⟩
    simp [mapped, found, bind, Except.bind]

theorem mapped_recognizes (read : Reader α) (Is : Bytes → α → Prop) (kind : Recognizes read Is)
    (next : α → β) :
    Recognizes (mapped read next) (fun text result => ∃ value, Is text value ∧ next value = result) := by
  constructor
  · intro bytes result rest made
    obtain ⟨value, found, used⟩ := (mapped_ok read next bytes rest result).mp made
    obtain ⟨text, joined, is_value⟩ := kind.sound bytes value rest found
    exact ⟨text, joined, value, is_value, used⟩
  · rintro text result rest ⟨value, is_value, used⟩ delimited
    exact (mapped_ok read next _ rest result).mpr
      ⟨value, kind.complete text value rest is_value delimited, used⟩

theorem reads_mapped (read : Reader α) (Is : Bytes → α → Prop) (kind : Recognizes read Is)
    (next : α → β) (text : Bytes) (value : α) (spelled : Is text value) :
    Reads (mapped read next) text (next value) :=
  (recognizes_reads _ _ (mapped_recognizes read Is kind next) text _).mpr ⟨value, spelled, rfl⟩

theorem mapped_regular (read : Reader α) (next : α → β) (regular : Regular read) :
    Regular (mapped read next) := by
  refine regular_of _ _ (mapped_recognizes read _ regular.recognizes next) ?_ ?_
  · intro bytes
    rw [mapped, regular.blanks bytes]
    rfl
  · rintro bytes ⟨result, rest⟩ made
    obtain ⟨value, found, -⟩ := (mapped_ok read next bytes rest result).mp made
    exact regular.starts bytes _ found

theorem readDocument_iff (read : Reader α) (Is : Bytes → α → Prop) (kind : Recognizes read Is)
    (bytes : Bytes) (value : α) :
    readDocument read bytes = .ok value ↔
      ∃ text after, bytes = text ++ after ∧ Is text value ∧ AllBlank after := by
  constructor
  · intro made
    obtain ⟨⟨result, after⟩, found, ended⟩ := bind_ok _ _ _ made
    obtain ⟨text, joined, is_value⟩ := kind.sound bytes result after found
    dsimp only at ended
    split at ended
    · next nothing =>
        obtain rfl := Except.ok.inj ended
        obtain ⟨blanks, cut, blank⟩ := skipBlanks_exists after
        rw [List.isEmpty_iff.mp nothing, List.append_nil] at cut
        exact ⟨text, after, joined, is_value, cut ▸ blank⟩
    · cases ended
  · rintro ⟨text, after, rfl, is_value, blank⟩
    have delimited : Delimited after := by
      intro byte first
      exact .inl (blank.isBlank byte (List.mem_of_mem_head? first))
    have found := kind.complete text value after is_value delimited
    simp [readDocument, found, bind, Except.bind, skipBlanks_nil after blank]

end VolumeImport.Json
