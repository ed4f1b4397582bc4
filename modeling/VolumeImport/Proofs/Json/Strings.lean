import VolumeImport.Proofs.Json.Optionals
import VolumeImport.Proofs.Text.Encoding

/-!
JSON strings. What stands between the quotes is a row of plain bytes and escapes, and reading a string finds
the first quote that is none of them.
-/

namespace VolumeImport.Json

/-- The bytes between the quotes of a string, and the bytes that they stand for. -/
inductive Escaped : Bytes → Bytes → Prop
  | done : Escaped [] []
  | plain (byte : UInt8) (body content : Bytes) (printable : ¬byte < 0x20) (not_quote : byte ≠ 0x22)
      (not_backslash : byte ≠ 0x5C) (rest : Escaped body content) :
      Escaped (byte :: body) (byte :: content)
  | short (letter byte : UInt8) (body content : Bytes) (known : (letter, byte) ∈ shortEscapes)
      (rest : Escaped body content) : Escaped (0x5C :: letter :: body) (byte :: content)
  | unit (a b c d : UInt8) (unit : Nat) (body content : Bytes) (hex : IsHexUnit a b c d unit)
      (not_trailing : ¬IsTrailing unit) (not_leading : ¬IsLeading unit)
      (rest : Escaped body content) :
      Escaped (0x5C :: 0x75 :: a :: b :: c :: d :: body)
        (Utf8.encodeChar (Char.ofNat unit) ++ content)
  | pair (a b c d e f g h : UInt8) (leading trailing : Nat) (body content : Bytes)
      (hex : IsHexUnit a b c d leading) (hex' : IsHexUnit e f g h trailing)
      (leads : IsLeading leading) (trails : IsTrailing trailing)
      (rest : Escaped body content) :
      Escaped (0x5C :: 0x75 :: a :: b :: c :: d :: 0x5C :: 0x75 :: e :: f :: g :: h :: body)
        (Utf8.encodeChar (Char.ofNat (0x10000 + (leading - 0xD800) * 0x400 + (trailing - 0xDC00))) ++
          content)

@[simp] theorem pushChar_reverse (char : Char) (taken : Bytes) :
    (pushChar char taken).reverse = taken.reverse ++ Utf8.encodeChar char := by
  simp [pushChar]

theorem gather_ok (taken bytes content rest : Bytes) (read : gather taken bytes = .ok (content, rest)) :
    ∃ body more, bytes = body ++ 0x22 :: rest ∧ Escaped body more ∧
      content = taken.reverse ++ more := by
  fun_induction gather taken bytes with
  | case2 taken rest =>
      obtain ⟨rfl, rfl⟩ := Prod.mk.inj (Except.ok.inj read)
      exact ⟨[], [], rfl, .done, (List.append_nil _).symm⟩
  | case6 taken a b c d _ unit hex not_trailing not_leading ih =>
      obtain ⟨body, more, rfl, escaped, rfl⟩ := ih read
      have spelled := (hexUnit?_iff a b c d unit).mp hex
      refine ⟨_, _, rfl, .unit a b c d unit body more spelled ?_ ?_ escaped, ?_⟩
      · rwa [← isTrailingSurrogate_iff]
      · simpa [← isLeadingSurrogate_iff] using not_leading
      · rw [pushChar_reverse, List.append_assoc]
  | case10 taken a b c d leading hex _ leads e f g h _ trailing hex' trails ih =>
      obtain ⟨body, more, rfl, escaped, joined⟩ := ih read
      have spelled := (hexUnit?_iff a b c d leading).mp hex
      have spelled_too := (hexUnit?_iff e f g h trailing).mp hex'
      refine ⟨_, _, rfl, .pair a b c d e f g h leading trailing body more spelled spelled_too ?_
        ((isTrailingSurrogate_iff trailing).mp trails) escaped, ?_⟩
      · simpa [← isLeadingSurrogate_iff] using leads
      · rw [joined, pushChar_reverse, List.append_assoc, surrogatePair]
  | case15 taken letter _ _ _ byte known ih =>
      obtain ⟨body, more, rfl, escaped, rfl⟩ := ih read
      have listed := (shortEscape?_iff letter byte).mp known
      exact ⟨_, _, rfl, .short letter byte body more listed escaped, by simp⟩
  | case18 taken byte _ not_quote lone _ _ long printable ih =>
      obtain ⟨body, more, rfl, escaped, rfl⟩ := ih read
      refine ⟨_, _, rfl, .plain byte body more printable not_quote ?_ escaped, by simp⟩
      -- a backslash would have been an escape, or the end
      intro backslash
      cases body with
      | nil => exact long 0x22 rest backslash rfl
      | cons letter body => exact long letter (body ++ 0x22 :: rest) backslash rfl
  | _ => cases read

theorem gather_escaped (body content rest taken : Bytes) (escaped : Escaped body content) :
    gather taken (body ++ 0x22 :: rest) = .ok (taken.reverse ++ content, rest) := by
  induction escaped generalizing taken with
  | done => simp [gather]
  | plain byte body content printable not_quote not_backslash plain ih =>
      have step : gather taken (byte :: (body ++ 0x22 :: rest)) =
          gather (byte :: taken) (body ++ 0x22 :: rest) := by
        rw [gather]
        · simp [printable]
        all_goals simp_all
      rw [List.cons_append, step, ih]
      simp
  | short letter byte body content listed plain ih =>
      have known := (shortEscape?_iff letter byte).mpr listed
      have step : gather taken (0x5C :: letter :: (body ++ 0x22 :: rest)) =
          gather (byte :: taken) (body ++ 0x22 :: rest) := by
        have not_unit : letter ≠ 0x75 := by
          rintro rfl
          cases known
        rw [gather]
        · simp [known]
        all_goals simp_all
      rw [List.cons_append, List.cons_append, step, ih]
      simp
  | unit a b c d unit body content hex not_trailing not_leading plain ih =>
      rw [← hexUnit?_iff] at hex
      rw [← isTrailingSurrogate_iff] at not_trailing
      rw [← isLeadingSurrogate_iff] at not_leading
      simp [gather, hex, not_trailing, not_leading, ih]
  | pair a b c d e f g h leading trailing body content hex hex' leads trails plain ih =>
      have apart : ¬IsTrailing leading := fun trailing => Nat.not_lt.mpr leads.2 trailing.1
      rw [← hexUnit?_iff] at hex hex'
      rw [← isTrailingSurrogate_iff] at trails apart
      rw [← isLeadingSurrogate_iff] at leads
      simp [gather, hex, hex', leads, trails, apart, ih, surrogatePair]

theorem readText_iff (bytes : Bytes) (value : String) (rest : Bytes) :
    readText bytes = .ok (value, rest) ↔
      ∃ body, bytes = body ++ 0x22 :: rest ∧ Escaped body (Utf8.encode value) := by
  unfold readText
  constructor
  · intro read
    cases gathered : gather [] bytes with
    | error fault =>
        rw [gathered] at read
        cases read
    | ok found =>
        obtain ⟨content, behind⟩ := found
        obtain ⟨body, _, cut, escaped, rfl⟩ := gather_ok [] bytes content behind gathered
        rw [gathered] at read
        cases decoded : Utf8.decode? content with
        | none => simp [bind, Except.bind, decoded] at read
        | some text =>
            obtain ⟨rfl, rfl⟩ : text = value ∧ behind = rest := by
              simpa [bind, Except.bind, decoded] using read
            obtain rfl := (Utf8.decode?_iff content text).mp decoded
            exact ⟨body, cut, escaped⟩
  · rintro ⟨body, rfl, escaped⟩
    have gathered := gather_escaped body _ rest [] escaped
    have decoded := (Utf8.decode?_iff _ value).mpr rfl
    simp [gathered, bind, Except.bind, decoded]

inductive IsString : Bytes → String → Prop
  | quoted (before body : Bytes) (value : String) (blank : AllBlank before)
      (escaped : Escaped body (Utf8.encode value)) :
      IsString (before ++ 0x22 :: (body ++ [0x22])) value

theorem readString_recognizes : Recognizes readString IsString := by
  constructor
  · intro bytes value rest read
    obtain ⟨before, cut, blank⟩ := skipBlanks_exists bytes
    unfold readString at read
    split at read
    · next inner start =>
        obtain ⟨body, rfl, escaped⟩ := (readText_iff inner value rest).mp read
        refine ⟨before ++ 0x22 :: (body ++ [0x22]), ?_, .quoted before body value blank escaped⟩
        rw [cut, start]
        simp
    · cases read
  · intro text value rest spelled delimited
    cases spelled with
    | quoted before body value blank escaped =>
        have start : skipBlanks (before ++ 0x22 :: (body ++ [0x22]) ++ rest) =
            0x22 :: (body ++ 0x22 :: rest) := by
          rw [List.append_assoc, skipBlanks_append before _ blank]
          simp [skipBlanks_cons 0x22 _ rfl]
        simp only [readString, start]
        exact (readText_iff _ value rest).mpr ⟨body, rfl, escaped⟩

theorem readString_start (bytes : Bytes) (result : String × Bytes)
    (read : readString bytes = .ok result) : ∃ rest, skipBlanks bytes = 0x22 :: rest := by
  unfold readString at read
  split at read
  · next rest start => exact ⟨rest, start⟩
  · cases read

theorem readString_blanks (bytes : Bytes) : readString (skipBlanks bytes) = readString bytes := by
  rw [readString, skipBlanks_idem]
  rfl

theorem readString_regular : Regular readString := by
  refine regular_of readString IsString readString_recognizes readString_blanks ?_
  intro bytes result read
  obtain ⟨rest, start⟩ := readString_start bytes result read
  exact ⟨0x22, rest, start, by decide⟩

inductive IsOptionalString : Bytes → Option String → Prop
  | null (before : Bytes) (blank : AllBlank before) :
      IsOptionalString (before ++ [0x6E, 0x75, 0x6C, 0x6C]) none
  | string (text : Bytes) (value : String) (spelled : IsString text value) :
      IsOptionalString text (some value)

theorem isOptional_string : IsOptional IsString = IsOptionalString := by
  funext text value
  apply propext
  constructor
  · intro spelled
    cases spelled with
    | null before blank => exact .null before blank
    | value text value spelled => exact .string text value spelled
  · intro spelled
    cases spelled with
    | null before blank => exact .null before blank
    | string text value spelled => exact .value text value spelled

theorem readString_not_null (bytes : Bytes) (result : String × Bytes)
    (read : readString bytes = .ok result) :
    ∃ byte rest, skipBlanks bytes = byte :: rest ∧ byte ≠ 0x6E := by
  obtain ⟨rest, start⟩ := readString_start bytes result read
  exact ⟨0x22, rest, start, by decide⟩

theorem readOptionalString_recognizes : Recognizes (readOptional readString) IsOptionalString := by
  rw [← isOptional_string]
  exact readOptional_recognizes readString IsString readString_recognizes readString_blanks
    readString_not_null

theorem readOptionalString_regular : Regular (readOptional readString) :=
  readOptional_regular readString readString_regular readString_not_null

end VolumeImport.Json
