import VolumeImport.Proofs.Json.Objects

/-!
An object has one reading. Its text settles the keys, the texts of the values and where the object ends:
a key ends at its closing quote, and a value where skipping it stops. The values that a record takes for
its known keys are values in this sense too.
-/

namespace VolumeImport.Json

theorem IsHexUnit.digits {a b c d : UInt8} {unit : Nat} (hex : IsHexUnit a b c d unit) :
    ∀ digit ∈ [a, b, c, d], ∃ value, IsHexDigit digit value := by
  obtain ⟨p, q, r, s, first, second, third, fourth, -⟩ := hex
  simp only [List.forall_mem_cons]
  exact ⟨⟨p, first⟩, ⟨q, second⟩, ⟨r, third⟩, ⟨s, fourth⟩, by simp⟩

theorem escaped_quotable (body content : Bytes) (escaped : Escaped body content) :
    Quotable body := by
  induction escaped with
  | done => exact .done
  | plain byte body _ printable not_quote not_backslash _ ih =>
      exact .plain byte body printable not_quote not_backslash ih
  | short letter byte body _ known _ ih =>
      exact .short letter byte body known ih
  | unit a b c d unit body _ hex _ _ _ ih =>
      exact .unit [a, b, c, d] body rfl hex.digits ih
  | pair a b c d e f g h leading trailing body _ hex hex' _ _ _ ih =>
      exact .unit [a, b, c, d] _ rfl hex.digits
        (.unit [e, f, g, h] body rfl hex'.digits ih)

theorem isString_isQuoted (text : Bytes) (value : String) (spelled : IsString text value) :
    IsQuoted text := by
  cases spelled with
  | quoted before body _ blank escaped =>
      exact .quoted before body blank (escaped_quotable body _ escaped)

theorem isString_isValue (text : Bytes) (value : String) (spelled : IsString text value) :
    IsValue text :=
  .string text (isString_isQuoted text value spelled)

theorem isOptional_isValue {α : Type} (Is : Bytes → α → Prop)
    (sound : ∀ text value, Is text value → IsValue text) (text : Bytes) (value : Option α)
    (spelled : IsOptional Is text value) : IsValue text := by
  cases spelled with
  | null before blank => exact .word before _ blank (by simp [words])
  | value _ value spelled => exact sound text value spelled

theorem isOptionalString_isValue (text : Bytes) (value : Option String)
    (spelled : IsOptionalString text value) : IsValue text := by
  rw [← isOptional_string] at spelled
  exact isOptional_isValue IsString isString_isValue text value spelled

theorem isInteger_isValue (text : Bytes) (value : Int) (spelled : IsInteger text value) :
    IsValue text := by
  cases spelled with
  | natural before digits blank literal =>
      have number := IsNumber.number [] digits [] [] (by simp) literal .absent .absent
      simpa using IsValue.number before _ blank number
  | negative before digits blank literal nonzero =>
      have number := IsNumber.number [0x2D] digits [] [] (by simp) literal .absent .absent
      simpa using IsValue.number before _ blank number

def Entry.member (entry : Entry) : String × Bytes :=
  (entry.key, entry.value)

theorem Entry.exists_of_gap (entries others : List Entry) (gap : Bytes)
    (same : others.map Entry.member = entries.map fun entry => (entry.key, gap ++ entry.value)) :
    ∀ entry ∈ others, ∃ other ∈ entries, other.key = entry.key ∧ gap ++ other.value = entry.value := by
  intro entry listed
  have told : entry.member ∈ entries.map fun entry => (entry.key, gap ++ entry.value) :=
    same ▸ List.mem_map_of_mem listed
  obtain ⟨other, member, same_member⟩ := List.mem_map.mp told
  exact ⟨other, member, Prod.mk.inj same_member⟩

theorem entry_unique (entry other : Entry) (behind behind' : Bytes) (value : IsValue entry.value)
    (value' : IsValue other.value) (delimited : Delimited (entry.after ++ behind))
    (delimited' : Delimited (other.after ++ behind'))
    (same : entry.text ++ behind = other.text ++ behind') :
    entry.member = other.member ∧ entry.after ++ behind = other.after ++ behind' := by
  obtain ⟨inner, start, read⟩ := entry.key_read behind
  obtain ⟨inner', start', read'⟩ := other.key_read behind'
  obtain rfl : inner = inner' := by
    rw [same, start'] at start
    exact (List.cons.inj start).2.symm
  obtain ⟨key, behind_key⟩ := Prod.mk.inj (Except.ok.inj (read.symm.trans read'))
  have colon := readColon_append entry.middle (entry.value ++ (entry.after ++ behind))
    entry.middle_blank
  rw [behind_key, readColon_append other.middle _ other.middle_blank] at colon
  have valued := (Except.ok.inj colon).symm
  have skipped := skipValue_complete entry.value _ value delimited
  rw [valued, skipValue_complete other.value _ value' delimited'] at skipped
  have left := (Except.ok.inj skipped).symm
  refine ⟨Prod.ext key ?_, left⟩
  rw [left] at valued
  exact List.append_cancel_right valued

theorem closing_start (entries : List Entry) (before rest : Bytes) (blank : AllBlank before) :
    skipBlanks (before ++ (Entry.closing entries ++ rest)) =
      match entries with
      | [] => 0x7D :: rest
      | entry :: more => 0x2C :: (entry.text ++ (Entry.closing more ++ rest)) := by
  cases entries with
  | nil => exact skipBlanks_closing_nil 0x7D rfl before rest blank
  | cons entry more => exact skipBlanks_closing_cons 0x7D before entry.text rest _ blank

theorem Entry.delimited (entry : Entry) (more : List Entry) (rest : Bytes) :
    Delimited (entry.after ++ (Entry.closing more ++ rest)) :=
  delimited_closing 0x7D (.inr rfl) entry.after rest _ entry.after_blank

theorem closing_unique (entries others : List Entry) (before before' rest rest' : Bytes)
    (blank : AllBlank before) (blank' : AllBlank before')
    (values : ∀ entry ∈ entries, IsValue entry.value)
    (values' : ∀ entry ∈ others, IsValue entry.value)
    (same : before ++ (Entry.closing entries ++ rest) =
      before' ++ (Entry.closing others ++ rest')) :
    entries.map Entry.member = others.map Entry.member ∧ rest = rest' := by
  induction entries generalizing others before before' with
  | nil =>
      have start := closing_start [] before rest blank
      rw [same, closing_start others before' rest' blank'] at start
      cases others with
      | nil => exact ⟨rfl, (List.cons.inj start).2.symm⟩
      | cons other others => cases (List.cons.inj start).1
  | cons entry entries ih =>
      have start := closing_start (entry :: entries) before rest blank
      rw [same, closing_start others before' rest' blank'] at start
      cases others with
      | nil => cases (List.cons.inj start).1
      | cons other others =>
          obtain ⟨value, further⟩ := List.forall_mem_cons.mp values
          obtain ⟨value', further'⟩ := List.forall_mem_cons.mp values'
          obtain ⟨member, left⟩ := entry_unique entry other _ _ value value'
            (entry.delimited entries rest) (other.delimited others rest') (List.cons.inj start).2.symm
          obtain ⟨members, ended⟩ := ih others entry.after other.after entry.after_blank
            other.after_blank further further' left
          exact ⟨by rw [List.map_cons, List.map_cons, member, members], ended⟩

theorem inside_unique (entries others : List Entry) (blanks blanks' rest rest' : Bytes)
    (blank : AllBlank blanks) (blank' : AllBlank blanks')
    (values : ∀ entry ∈ entries, IsValue entry.value)
    (values' : ∀ entry ∈ others, IsValue entry.value)
    (same : Entry.inside blanks entries ++ rest = Entry.inside blanks' others ++ rest') :
    entries.map Entry.member = others.map Entry.member ∧ rest = rest' := by
  have empty : ∀ blanks rest, AllBlank blanks →
      skipBlanks (Entry.inside blanks [] ++ rest) = 0x7D :: rest := fun blanks rest blank =>
    skipBlanks_inside_nil 0x7D rfl blanks rest blank
  have filled : ∀ (entry : Entry) more blanks rest,
      Entry.inside blanks (entry :: more) ++ rest = entry.text ++ (Entry.closing more ++ rest) :=
    fun entry more blanks rest => inside_cons ..
  -- behind the blanks one row shows its brace and another one the quote of a key
  cases entries with
  | nil =>
      have start := empty blanks rest blank
      rw [same] at start
      cases others with
      | nil =>
          rw [empty blanks' rest' blank'] at start
          exact ⟨rfl, (List.cons.inj start).2.symm⟩
      | cons other others =>
          obtain ⟨inner, quote, -⟩ := other.key_read (Entry.closing others ++ rest')
          rw [filled, quote] at start
          cases (List.cons.inj start).1
  | cons entry entries =>
      rw [filled] at same
      cases others with
      | nil =>
          obtain ⟨inner, quote, -⟩ := entry.key_read (Entry.closing entries ++ rest)
          rw [same, empty blanks' rest' blank'] at quote
          cases (List.cons.inj quote).1
      | cons other others =>
          rw [filled] at same
          obtain ⟨value, further⟩ := List.forall_mem_cons.mp values
          obtain ⟨value', further'⟩ := List.forall_mem_cons.mp values'
          obtain ⟨member, left⟩ := entry_unique entry other _ _ value value'
            (entry.delimited entries rest) (other.delimited others rest') same
          obtain ⟨members, ended⟩ := closing_unique entries others entry.after other.after rest rest'
            entry.after_blank other.after_blank further further' left
          exact ⟨by rw [List.map_cons, List.map_cons, member, members], ended⟩

/-- An object as it is written: entries in any order under any keys, each with a value of any kind, and blanks
wherever they may stand. `blanks` stands between the braces of an object without entries. -/
structure WrittenObject where
  before : Bytes
  blanks : Bytes
  entries : List Entry
  after : Bytes
  before_blank : AllBlank before
  blanks_blank : AllBlank blanks
  after_blank : AllBlank after
  values : ∀ entry ∈ entries, IsValue entry.value

def WrittenObject.text (object : WrittenObject) : Bytes :=
  object.before ++ 0x7B :: (Entry.inside object.blanks object.entries ++ object.after)

def Entry.pair (entry : Entry) : Pair where
  key := entry.keyText
  middle := entry.middle
  value := entry.value
  after := entry.after
  quoted := isString_isQuoted entry.keyText entry.key entry.spelled
  middle_blank := entry.middle_blank
  after_blank := entry.after_blank

theorem WrittenObject.isValue (object : WrittenObject) (ended : object.after = []) :
    IsValue object.text := by
  have same : (object.entries.map Entry.pair).map Pair.text = object.entries.map Entry.text := by
    rw [List.map_map]
    rfl
  have value := IsValue.object object.before object.blanks (object.entries.map Entry.pair)
    object.before_blank object.blanks_blank (by
      intro pair listed
      obtain ⟨entry, member, rfl⟩ := List.mem_map.mp listed
      exact object.values entry member)
  rw [Pair.inside, same] at value
  rw [WrittenObject.text, ended, List.append_nil]
  exact value

theorem WrittenObject.start (object : WrittenObject) (rest : Bytes) :
    skipBlanks (object.text ++ rest) =
      0x7B :: (Entry.inside object.blanks object.entries ++ (object.after ++ rest)) := by
  rw [WrittenObject.text, List.append_assoc, skipBlanks_append object.before _ object.before_blank,
    List.cons_append, List.append_assoc]
  exact skipBlanks_cons 0x7B _ rfl

/-- An object with some text behind it is no other object with blanks behind it. -/
theorem WrittenObject.unique (object other : WrittenObject) (trailing : Bytes)
    (same : object.text ++ trailing = other.text) :
    object.entries.map Entry.member = other.entries.map Entry.member ∧ AllBlank trailing := by
  have start := other.start []
  rw [List.append_nil, ← same, object.start trailing] at start
  obtain ⟨members, ended⟩ := inside_unique object.entries other.entries object.blanks other.blanks _ _
    object.blanks_blank other.blanks_blank object.values other.values (List.cons.inj start).2
  refine ⟨members, fun byte listed => other.after_blank byte ?_⟩
  rw [List.append_nil] at ended
  exact ended ▸ List.mem_append_right object.after listed

end VolumeImport.Json
