import VolumeImport.Text.Utf8

/-!
Texts and their bytes. Strict reading accepts the bytes of a text and no others, and gives that text back;
lossy reading keeps exactly such bytes.

The reader is a machine that takes one byte at a time. A character is read from the bytes that take the
machine through it, and those are the bytes that the character is encoded in.
-/

namespace VolumeImport.Utf8

inductive Completes : Pending → Bytes → Char → Prop
  | last (pending : Pending) (byte : UInt8) (char : Char)
      (ends : pending.continue? byte = some (.inl char)) : Completes pending [byte] char
  | more (pending next : Pending) (byte : UInt8) (rest : Bytes) (char : Char)
      (goes : pending.continue? byte = some (.inr next)) (further : Completes next rest char) :
      Completes pending (byte :: rest) char

inductive Spells : Bytes → Char → Prop
  | single (byte : UInt8) (char : Char) (leads : lead byte = .char char) : Spells [byte] char
  | several (byte : UInt8) (pending : Pending) (rest : Bytes) (char : Char)
      (leads : lead byte = .pending pending) (completed : Completes pending rest char) :
      Spells (byte :: rest) char

theorem piecesAfter_completes (pending : Pending) (bytes rest : Bytes) (char : Char)
    (completes : Completes pending bytes char) :
    piecesAfter (some pending) (bytes ++ rest) = some char :: piecesAfter none rest := by
  induction completes with
  | last pending byte char ends => simp [piecesAfter, ends]
  | more pending next byte bytes char goes _ ih => simpa [piecesAfter, goes] using ih

theorem piecesAfter_spells (bytes rest : Bytes) (char : Char) (spells : Spells bytes char) :
    piecesAfter none (bytes ++ rest) = some char :: piecesAfter none rest := by
  cases spells with
  | single byte char leads => simp [piecesAfter, leads]
  | several byte pending tail char leads completed =>
      simpa [piecesAfter, leads] using piecesAfter_completes pending tail rest char completed

theorem piecesAfter_pending (pending : Pending) (bytes : Bytes) (text : List Char)
    (sound : piecesAfter (some pending) bytes = text.map some) :
    ∃ head rest char chars, bytes = head ++ rest ∧ Completes pending head char ∧
      text = char :: chars ∧ piecesAfter none rest = chars.map some := by
  induction bytes generalizing pending with
  | nil => cases text <;> simp [piecesAfter] at sound
  | cons byte bytes ih =>
      cases goes : pending.continue? byte with
      | none =>
          cases text <;> cases leads : lead byte <;> simp [piecesAfter, goes, leads] at sound
      | some reached =>
          cases reached with
          | inl char =>
              cases text with
              | nil => simp [piecesAfter, goes] at sound
              | cons first chars =>
                  obtain ⟨rfl, behind⟩ : char = first ∧ piecesAfter none bytes = chars.map some := by
                    simpa [piecesAfter, goes] using sound
                  exact ⟨[byte], bytes, char, chars, rfl, .last pending byte char goes, rfl, behind⟩
          | inr next =>
              obtain ⟨head, rest, char, chars, rfl, completes, rfl, behind⟩ :=
                ih next (by simpa [piecesAfter, goes] using sound)
              exact ⟨byte :: head, rest, char, chars, rfl,
                .more pending next byte head char goes completes, rfl, behind⟩

theorem piecesAfter_sound (bytes : Bytes) (char : Char) (text : List Char)
    (sound : piecesAfter none bytes = (char :: text).map some) :
    ∃ head rest, bytes = head ++ rest ∧ Spells head char ∧
      piecesAfter none rest = text.map some := by
  cases bytes with
  | nil => simp [piecesAfter] at sound
  | cons byte bytes =>
      cases leads : lead byte with
      | invalid => simp [piecesAfter, leads] at sound
      | char first =>
          obtain ⟨rfl, behind⟩ : first = char ∧ piecesAfter none bytes = text.map some := by
            simpa [piecesAfter, leads] using sound
          exact ⟨[byte], bytes, rfl, .single byte first leads, behind⟩
      | pending pending =>
          obtain ⟨head, rest, first, chars, rfl, completes, same, behind⟩ :=
            piecesAfter_pending pending bytes (char :: text) (by simpa [piecesAfter, leads] using sound)
          obtain ⟨rfl, rfl⟩ := List.cons.inj same
          exact ⟨byte :: head, rest, rfl, .several byte pending head char leads completes, behind⟩

theorem toNat_ofNat (code : Nat) (valid : code < 0xD800 ∨ 0xDFFF < code ∧ code < 0x110000) :
    (Char.ofNat code).toNat = code := by
  have within : code.isValidChar := valid
  rw [Char.ofNat, dif_pos within]
  rfl

theorem continue?_ends (pending : Pending) (byte : UInt8) (char : Char) :
    pending.continue? byte = some (.inl char) ↔
      pending.low ≤ byte.toNat ∧ byte.toNat ≤ pending.high ∧ pending.missing = 1 ∧
        Char.ofNat (pending.code * 64 + (byte.toNat - 0x80)) = char := by
  unfold Pending.continue?
  dsimp only
  split
  · next outside =>
      have apart : ¬(pending.low ≤ byte.toNat ∧ byte.toNat ≤ pending.high) := by omega
      simpa using fun least most => absurd ⟨least, most⟩ apart
  · next inside =>
      have least : pending.low ≤ byte.toNat := by omega
      have most : byte.toNat ≤ pending.high := by omega
      split <;> simp [*]

theorem continue?_goes (pending next : Pending) (byte : UInt8) :
    pending.continue? byte = some (.inr next) ↔
      pending.low ≤ byte.toNat ∧ byte.toNat ≤ pending.high ∧ pending.missing ≠ 1 ∧
        ⟨pending.code * 64 + (byte.toNat - 0x80), pending.missing - 1, 0x80, 0xBF⟩ = next := by
  unfold Pending.continue?
  dsimp only
  split
  · next outside =>
      have apart : ¬(pending.low ≤ byte.toNat ∧ byte.toNat ≤ pending.high) := by omega
      simpa using fun least most => absurd ⟨least, most⟩ apart
  · next inside =>
      have least : pending.low ≤ byte.toNat := by omega
      have most : byte.toNat ≤ pending.high := by omega
      split <;> simp [*]

theorem completes_one (code low high : Nat) (bytes : Bytes) (char : Char) :
    Completes ⟨code, 1, low, high⟩ bytes char ↔ ∃ byte, bytes = [byte] ∧ low ≤ byte.toNat ∧
      byte.toNat ≤ high ∧ Char.ofNat (code * 64 + (byte.toNat - 0x80)) = char := by
  constructor
  · intro completes
    cases completes with
    | last _ byte _ ends =>
        obtain ⟨least, most, -, same⟩ := (continue?_ends _ byte char).mp ends
        exact ⟨byte, rfl, least, most, same⟩
    | more _ next byte rest _ goes further =>
        exact absurd rfl ((continue?_goes _ next byte).mp goes).2.2.1
  · rintro ⟨byte, rfl, least, most, same⟩
    exact .last _ byte char ((continue?_ends _ byte char).mpr ⟨least, most, rfl, same⟩)

theorem completes_more (code missing low high : Nat) (bytes : Bytes) (char : Char) :
    Completes ⟨code, missing + 2, low, high⟩ bytes char ↔
      ∃ byte rest, bytes = byte :: rest ∧ low ≤ byte.toNat ∧ byte.toNat ≤ high ∧
        Completes ⟨code * 64 + (byte.toNat - 0x80), missing + 1, 0x80, 0xBF⟩ rest char := by
  constructor
  · intro completes
    cases completes with
    | last _ byte _ ends =>
        have one := ((continue?_ends _ byte char).mp ends).2.2.1
        simp at one
    | more _ next byte rest _ goes further =>
        obtain ⟨least, most, -, rfl⟩ := (continue?_goes _ next byte).mp goes
        exact ⟨byte, rest, rfl, least, most, further⟩
  · rintro ⟨byte, rest, rfl, least, most, further⟩
    exact .more _ _ byte rest char
      ((continue?_goes _ _ byte).mpr ⟨least, most, by simp, rfl⟩) further

theorem completes_two (code low high : Nat) (bytes : Bytes) (char : Char) :
    Completes ⟨code, 2, low, high⟩ bytes char ↔ ∃ y z, bytes = [y, z] ∧
      (low ≤ y.toNat ∧ y.toNat ≤ high) ∧ (0x80 ≤ z.toNat ∧ z.toNat ≤ 0xBF) ∧
      Char.ofNat ((code * 64 + (y.toNat - 0x80)) * 64 + (z.toNat - 0x80)) = char := by
  rw [completes_more code 0]
  simp only [Nat.zero_add, completes_one]
  constructor
  · rintro ⟨y, _, rfl, least, most, z, rfl, low, high, same⟩
    exact ⟨y, z, rfl, ⟨least, most⟩, ⟨low, high⟩, same⟩
  · rintro ⟨y, z, rfl, ⟨least, most⟩, ⟨low, high⟩, same⟩
    exact ⟨y, [z], rfl, least, most, z, rfl, low, high, same⟩

theorem completes_three (code low high : Nat) (bytes : Bytes) (char : Char) :
    Completes ⟨code, 3, low, high⟩ bytes char ↔ ∃ x y z, bytes = [x, y, z] ∧
      (low ≤ x.toNat ∧ x.toNat ≤ high) ∧ (0x80 ≤ y.toNat ∧ y.toNat ≤ 0xBF) ∧
      (0x80 ≤ z.toNat ∧ z.toNat ≤ 0xBF) ∧
      Char.ofNat (((code * 64 + (x.toNat - 0x80)) * 64 + (y.toNat - 0x80)) * 64 +
        (z.toNat - 0x80)) = char := by
  rw [completes_more code 1]
  simp only [Nat.reduceAdd, completes_two]
  constructor
  · rintro ⟨x, _, rfl, least, most, y, z, rfl, second, third, same⟩
    exact ⟨x, y, z, rfl, ⟨least, most⟩, second, third, same⟩
  · rintro ⟨x, y, z, rfl, ⟨least, most⟩, second, third, same⟩
    exact ⟨x, [y, z], rfl, least, most, y, z, rfl, second, third, same⟩

theorem exists_byte (value : Nat) (small : value < 256) : ∃ byte : UInt8, byte.toNat = value :=
  ⟨UInt8.ofNat value, UInt8.toNat_ofNat_of_lt small⟩

theorem lead_one (byte : UInt8) (small : byte.toNat < 0x80) :
    lead byte = .char (Char.ofNat byte.toNat) := by
  simp [lead, small]

theorem lead_two (byte : UInt8) (least : 0xC2 ≤ byte.toNat) (most : byte.toNat < 0xE0) :
    lead byte = .pending ⟨byte.toNat - 0xC0, 1, 0x80, 0xBF⟩ := by
  unfold lead
  dsimp only
  rw [if_neg (by omega), if_neg (by omega), if_pos most]

/-- Of three bytes the first two leave out overlong forms and surrogates. -/
theorem lead_three (byte : UInt8) (least : 0xE0 ≤ byte.toNat) (most : byte.toNat < 0xF0) :
    ∃ low high, lead byte = .pending ⟨byte.toNat - 0xE0, 2, low, high⟩ ∧
      ∀ next, low ≤ next ∧ next ≤ high ↔ (0x80 ≤ next ∧ next ≤ 0xBF) ∧
        0x20 ≤ (byte.toNat - 0xE0) * 64 + (next - 0x80) ∧
        ((byte.toNat - 0xE0) * 64 + (next - 0x80) < 0x360 ∨
          0x37F < (byte.toNat - 0xE0) * 64 + (next - 0x80)) := by
  unfold lead
  dsimp only
  rw [if_neg (by omega), if_neg (by omega), if_neg (by omega)]
  split
  · exact ⟨0xA0, 0xBF, by simp [*], by omega⟩
  split
  · exact ⟨0x80, 0x9F, by simp [*], by omega⟩
  · exact ⟨0x80, 0xBF, by simp [*], by omega⟩

theorem lead_four (byte : UInt8) (least : 0xF0 ≤ byte.toNat) (most : byte.toNat ≤ 0xF4) :
    ∃ low high, lead byte = .pending ⟨byte.toNat - 0xF0, 3, low, high⟩ ∧
      ∀ next, low ≤ next ∧ next ≤ high ↔ (0x80 ≤ next ∧ next ≤ 0xBF) ∧
        0x10 ≤ (byte.toNat - 0xF0) * 64 + (next - 0x80) ∧
        (byte.toNat - 0xF0) * 64 + (next - 0x80) < 0x110 := by
  unfold lead
  dsimp only
  rw [if_neg (by omega), if_neg (by omega), if_neg (by omega), if_neg (by omega),
    if_neg (by omega), if_neg (by omega)]
  split
  · exact ⟨0x90, 0xBF, by simp [*], by omega⟩
  split
  · exact ⟨0x80, 0xBF, by simp [*], by omega⟩
  · have last : byte.toNat = 0xF4 := by omega
    exact ⟨0x80, 0x8F, by simp [last], by omega⟩

theorem lead_char (byte : UInt8) (char : Char) (leads : lead byte = .char char) :
    byte.toNat < 0x80 := by
  apply Nat.lt_of_not_le
  intro large
  unfold lead at leads
  dsimp only at leads
  rw [if_neg (by omega)] at leads
  repeat (split at leads; cases leads)
  cases leads

theorem lead_pending (byte : UInt8) (pending : Pending) (leads : lead byte = .pending pending) :
    0xC2 ≤ byte.toNat ∧ byte.toNat ≤ 0xF4 := by
  constructor
  · rcases Nat.lt_or_ge byte.toNat 0x80 with small | large
    · rw [lead_one byte small] at leads
      cases leads
    · apply Nat.le_of_not_lt
      intro early
      unfold lead at leads
      dsimp only at leads
      rw [if_neg (by omega), if_pos early] at leads
      cases leads
  · apply Nat.le_of_not_lt
    intro late
    unfold lead at leads
    dsimp only at leads
    repeat rw [if_neg (by omega)] at leads
    cases leads

/-- The bytes that a character is encoded in: its number in pieces of six bits, the first of them under a mark
that tells how many follow. -/
inductive Form (char : Char) : Bytes → Prop
  | one (a : UInt8) (most : char.toNat < 0x80) (first : a.toNat = char.toNat) : Form char [a]
  | two (a z : UInt8) (least : 0x80 ≤ char.toNat) (most : char.toNat < 0x800)
      (first : a.toNat = 0xC0 + char.toNat / 64) (last : z.toNat = 0x80 + char.toNat % 64) :
      Form char [a, z]
  | three (a y z : UInt8) (least : 0x800 ≤ char.toNat) (most : char.toNat < 0x10000)
      (first : a.toNat = 0xE0 + char.toNat / 4096) (second : y.toNat = 0x80 + char.toNat / 64 % 64)
      (last : z.toNat = 0x80 + char.toNat % 64) : Form char [a, y, z]
  | four (a x y z : UInt8) (least : 0x10000 ≤ char.toNat)
      (first : a.toNat = 0xF0 + char.toNat / 262144)
      (second : x.toNat = 0x80 + char.toNat / 4096 % 64)
      (third : y.toNat = 0x80 + char.toNat / 64 % 64) (last : z.toNat = 0x80 + char.toNat % 64) :
      Form char [a, x, y, z]

theorem Form.encodes {char : Char} {bytes : Bytes} (form : Form char bytes) :
    encodeChar char = bytes := by
  unfold encodeChar
  dsimp only
  cases form with
  | one a most first => rw [if_pos most, ← first, UInt8.ofNat_toNat]
  | two a z least most first last =>
      rw [if_neg (by omega), if_pos most, ← first, ← last, UInt8.ofNat_toNat, UInt8.ofNat_toNat]
  | three a y z least most first second last =>
      rw [if_neg (by omega), if_neg (by omega), if_pos most, ← first, ← second, ← last]
      simp only [UInt8.ofNat_toNat]
  | four a x y z least first second third last =>
      rw [if_neg (by omega), if_neg (by omega), if_neg (by omega), ← first, ← second, ← third,
        ← last]
      simp only [UInt8.ofNat_toNat]

theorem form_encodeChar (char : Char) : Form char (encodeChar char) := by
  have valid : char.toNat < 0xD800 ∨ 0xDFFF < char.toNat ∧ char.toNat < 0x110000 := char.valid
  have encoded : ∃ bytes, Form char bytes := by
    obtain ⟨z, last⟩ := exists_byte (0x80 + char.toNat % 64) (by omega)
    obtain ⟨y, third⟩ := exists_byte (0x80 + char.toNat / 64 % 64) (by omega)
    rcases Nat.lt_or_ge char.toNat 0x80 with one | more
    · obtain ⟨a, first⟩ := exists_byte char.toNat (by omega)
      exact ⟨_, .one a one first⟩
    rcases Nat.lt_or_ge char.toNat 0x800 with two | more
    · obtain ⟨a, first⟩ := exists_byte (0xC0 + char.toNat / 64) (by omega)
      exact ⟨_, .two a z (by omega) two first last⟩
    rcases Nat.lt_or_ge char.toNat 0x10000 with three | more
    · obtain ⟨a, first⟩ := exists_byte (0xE0 + char.toNat / 4096) (by omega)
      exact ⟨_, .three a y z (by omega) three first third last⟩
    · obtain ⟨a, first⟩ := exists_byte (0xF0 + char.toNat / 262144) (by omega)
      obtain ⟨x, second⟩ := exists_byte (0x80 + char.toNat / 4096 % 64) (by omega)
      exact ⟨_, .four a x y z (by omega) first second third last⟩
  obtain ⟨bytes, form⟩ := encoded
  rwa [form.encodes]

theorem Form.spells {char : Char} {bytes : Bytes} (form : Form char bytes) : Spells bytes char := by
  have valid : char.toNat < 0xD800 ∨ 0xDFFF < char.toNat ∧ char.toNat < 0x110000 := char.valid
  have back := Char.ofNat_toNat char
  cases form with
  | one a most first =>
      have leads := lead_one a (by omega)
      rw [first, back] at leads
      exact .single a char leads
  | two a z least most first last =>
      apply Spells.several a _ _ _ (lead_two a (by omega) (by omega))
      rw [completes_one]
      refine ⟨z, rfl, by omega, by omega, ?_⟩
      have same : (a.toNat - 0xC0) * 64 + (z.toNat - 0x80) = char.toNat := by omega
      rw [same, back]
  | three a y z least most first second last =>
      obtain ⟨low, high, leads, within⟩ := lead_three a (by omega) (by omega)
      have range := (within y.toNat).mpr (by omega)
      apply Spells.several a _ _ _ leads
      rw [completes_two]
      refine ⟨y, z, rfl, range, by omega, ?_⟩
      have same :
          ((a.toNat - 0xE0) * 64 + (y.toNat - 0x80)) * 64 + (z.toNat - 0x80) = char.toNat := by
        omega
      rw [same, back]
  | four a x y z least first second third last =>
      obtain ⟨low, high, leads, within⟩ := lead_four a (by omega) (by omega)
      have range := (within x.toNat).mpr (by omega)
      apply Spells.several a _ _ _ leads
      rw [completes_three]
      refine ⟨x, y, z, rfl, range, by omega, by omega, ?_⟩
      have same : (((a.toNat - 0xF0) * 64 + (x.toNat - 0x80)) * 64 + (y.toNat - 0x80)) * 64 +
          (z.toNat - 0x80) = char.toNat := by omega
      rw [same, back]

theorem Spells.form {bytes : Bytes} {char : Char} (spells : Spells bytes char) :
    Form char bytes := by
  cases spells with
  | single a char leads =>
      have small : a.toNat < 0x80 := lead_char a char leads
      obtain rfl := Lead.char.inj ((lead_one a small).symm.trans leads)
      have code := toNat_ofNat a.toNat (by omega)
      exact .one a (by omega) code.symm
  | several a pending rest char leads completed =>
      obtain ⟨least, most⟩ := lead_pending a pending leads
      rcases Nat.lt_or_ge a.toNat 0xE0 with two | more
      · obtain rfl := Lead.pending.inj ((lead_two a least two).symm.trans leads)
        obtain ⟨z, rfl, low, high, rfl⟩ := (completes_one _ _ _ _ _).mp completed
        have code := toNat_ofNat ((a.toNat - 0xC0) * 64 + (z.toNat - 0x80)) (by omega)
        apply Form.two <;> omega
      rcases Nat.lt_or_ge a.toNat 0xF0 with three | more
      · obtain ⟨low, high, leads', within⟩ := lead_three a more three
        obtain rfl := Lead.pending.inj (leads'.symm.trans leads)
        obtain ⟨y, z, rfl, inside, third, rfl⟩ := (completes_two _ _ _ _ _).mp completed
        have range := (within y.toNat).mp inside
        have code := toNat_ofNat
          (((a.toNat - 0xE0) * 64 + (y.toNat - 0x80)) * 64 + (z.toNat - 0x80)) (by omega)
        apply Form.three <;> omega
      · obtain ⟨low, high, leads', within⟩ := lead_four a more most
        obtain rfl := Lead.pending.inj (leads'.symm.trans leads)
        obtain ⟨x, y, z, rfl, inside, third, fourth, rfl⟩ := (completes_three _ _ _ _ _).mp completed
        have range := (within x.toNat).mp inside
        have code := toNat_ofNat
          ((((a.toNat - 0xF0) * 64 + (x.toNat - 0x80)) * 64 + (y.toNat - 0x80)) * 64 +
            (z.toNat - 0x80)) (by omega)
        apply Form.four <;> omega

theorem encodeChar_ascii_or_high (char : Char) :
    (∃ byte : UInt8, encodeChar char = [byte] ∧ byte.toNat = char.toNat ∧ char.toNat < 0x80) ∨
      ∀ byte ∈ encodeChar char, 0x80 ≤ byte.toNat := by
  have form := form_encodeChar char
  generalize encodeChar char = bytes at form
  cases form with
  | one a most first => exact .inl ⟨a, rfl, first, most⟩
  | two a z least most first last =>
      right
      simp only [List.forall_mem_cons]
      exact ⟨by omega, by omega, by simp⟩
  | three a y z least most first second last =>
      right
      simp only [List.forall_mem_cons]
      exact ⟨by omega, by omega, by omega, by simp⟩
  | four a x y z least first second third last =>
      right
      simp only [List.forall_mem_cons]
      exact ⟨by omega, by omega, by omega, by omega, by simp⟩

theorem pieces_encode (text : List Char) :
    piecesAfter none (text.flatMap encodeChar) = text.map some := by
  induction text with
  | nil => rfl
  | cons char text ih =>
      rw [List.flatMap_cons, piecesAfter_spells _ _ char (form_encodeChar char).spells, ih, List.map_cons]

theorem piecesAfter_pending_ne_nil (pending : Pending) (bytes : Bytes) :
    piecesAfter (some pending) bytes ≠ [] := by
  induction bytes generalizing pending with
  | nil => simp [piecesAfter]
  | cons byte bytes ih =>
      unfold piecesAfter
      split
      · simp
      · exact ih _
      · split <;> simp

theorem piecesAfter_ne_nil (byte : UInt8) (bytes : Bytes) :
    piecesAfter none (byte :: bytes) ≠ [] := by
  unfold piecesAfter
  split
  · simp
  · exact piecesAfter_pending_ne_nil _ bytes
  · simp

theorem encode_of_pieces (bytes : Bytes) (text : List Char)
    (sound : piecesAfter none bytes = text.map some) : text.flatMap encodeChar = bytes := by
  induction text generalizing bytes with
  | nil =>
      cases bytes with
      | nil => rfl
      | cons byte bytes => exact absurd sound (piecesAfter_ne_nil byte bytes)
  | cons char text ih =>
      obtain ⟨head, rest, rfl, spells, behind⟩ := piecesAfter_sound bytes char text sound
      rw [List.flatMap_cons, spells.form.encodes, ih rest behind]

theorem mapM_id_eq_some (pieces : List Piece) (text : List Char) :
    pieces.mapM id = some text ↔ pieces = text.map some := by
  induction pieces generalizing text with
  | nil => cases text <;> simp
  | cons piece pieces ih =>
      rw [List.mapM_cons]
      cases piece with
      | none => cases text <;> simp
      | some char =>
          cases read : pieces.mapM id with
          | none =>
              rw [read] at ih
              cases text with
              | nil => simp
              | cons first text => simpa using fun _ same => absurd ((ih text).mpr same) (by simp)
          | some chars =>
              rw [read] at ih
              cases text with
              | nil => simp
              | cons first text => simpa using fun _ => ih text

theorem decode?_iff (bytes : Bytes) (text : String) :
    decode? bytes = some text ↔ encode text = bytes := by
  unfold decode? pieces encode
  rw [Option.map_eq_some_iff]
  constructor
  · rintro ⟨chars, sound, rfl⟩
    rw [String.toList_ofList]
    exact encode_of_pieces bytes chars ((mapM_id_eq_some _ chars).mp sound)
  · rintro rfl
    refine ⟨text.toList, ?_, String.ofList_toList⟩
    exact (mapM_id_eq_some _ _).mpr (pieces_encode text.toList)

theorem decodeLossy_encode (text : String) : decodeLossy (encode text) = text := by
  unfold decodeLossy pieces encode
  rw [pieces_encode, List.map_map]
  have kept : ((fun piece : Piece => piece.getD replacement) ∘ some) = (id : Char → Char) := rfl
  rw [kept, List.map_id, String.ofList_toList]

theorem encode_decodeLossy_iff (bytes : Bytes) :
    encode (decodeLossy bytes) = bytes ↔ ∃ text, decode? bytes = some text := by
  constructor
  · intro kept
    exact ⟨decodeLossy bytes, (decode?_iff bytes _).mpr kept⟩
  · rintro ⟨text, decoded⟩
    obtain rfl := (decode?_iff bytes text).mp decoded
    rw [decodeLossy_encode]

theorem encode_inj (text other : String) (same : encode text = encode other) : text = other := by
  rw [← decodeLossy_encode text, same, decodeLossy_encode]

end VolumeImport.Utf8
