import VolumeImport.Json.Record
import VolumeImport.Proofs.Json.Rows
import VolumeImport.Proofs.Json.Skipping
import VolumeImport.Proofs.Json.Strings

/-!
Records as objects. The text of an object is a row of entries, each with a key and a value, and reading one
finds exactly the entries: a known key takes its value into the draft, once, and any other key may have any
value.
-/

namespace VolumeImport.Json

variable {α δ : Type}

/-- One entry of an object as it is written, with the blanks in it and behind it. -/
structure Entry where
  key : String
  keyText : Bytes
  middle : Bytes
  value : Bytes
  after : Bytes
  spelled : IsString keyText key
  middle_blank : AllBlank middle
  after_blank : AllBlank after

namespace Entry

def text (entry : Entry) : Bytes :=
  entry.keyText ++ (entry.middle ++ 0x3A :: (entry.value ++ entry.after))

def closing (entries : List Entry) : Bytes :=
  Json.closing 0x7D (entries.map text)

def inside (blanks : Bytes) (entries : List Entry) : Bytes :=
  Json.inside 0x7D blanks (entries.map text)

theorem length_inside (blanks rest : Bytes) (entries : List Entry) :
    entries.length < (inside blanks entries ++ rest).length := by
  have solid : ∀ item ∈ entries.map text, item ≠ [] := by
    intro item listed
    obtain ⟨entry, -, rfl⟩ := List.mem_map.mp listed
    simp [text]
  have enough := Json.length_inside 0x7D blanks rest (entries.map text) solid
  rwa [List.length_map] at enough

end Entry

/-- An entry takes a draft to the next one: a known key by its value and only once, any other key not at
all. -/
def TakesOne (members : List (Member δ)) (draft : δ) (key : String) (value : Bytes) (next : δ) :
    Prop :=
  (∃ member, members.find? (·.name = key) = some member ∧ member.isTaken draft = false ∧
    Reads (member.read draft) value next) ∨
  members.find? (·.name = key) = none ∧ IsValue value ∧ next = draft

inductive Takes (members : List (Member δ)) : δ → List Entry → δ → Prop
  | done (draft : δ) : Takes members draft [] draft
  | more (entry : Entry) (rest : List Entry) (draft next final : δ)
      (one : TakesOne members draft entry.key entry.value next)
      (further : Takes members next rest final) : Takes members draft (entry :: rest) final

def Member.Regular (member : Member δ) : Prop :=
  ∀ draft, Json.Regular (member.read draft)

theorem readColon_ok (bytes rest : Bytes) (read : readColon bytes = .ok rest) :
    ∃ middle, bytes = middle ++ 0x3A :: rest ∧ AllBlank middle := by
  obtain ⟨middle, cut, blank⟩ := skipBlanks_exists bytes
  unfold readColon at read
  split at read
  · next behind start =>
      obtain rfl := Except.ok.inj read
      exact ⟨middle, by rw [← start]; exact cut, blank⟩
  · cases read
  · cases read

theorem readColon_append (middle rest : Bytes) (blank : AllBlank middle) :
    readColon (middle ++ 0x3A :: rest) = .ok rest := by
  rw [readColon, skipBlanks_append middle _ blank, skipBlanks_cons 0x3A rest rfl]
  rfl

theorem Entry.key_read (entry : Entry) (behind : Bytes) :
    ∃ inner, skipBlanks (entry.text ++ behind) = 0x22 :: inner ∧
      readText inner = .ok (entry.key,
        entry.middle ++ 0x3A :: (entry.value ++ (entry.after ++ behind))) := by
  obtain ⟨key, keyText, middle, value, after, spelled, middle_blank, after_blank⟩ := entry
  cases spelled with
  | quoted before body key blank escaped =>
      refine ⟨body ++ 0x22 :: (middle ++ 0x3A :: (value ++ (after ++ behind))), ?_, ?_⟩
      · simp only [Entry.text, List.append_assoc]
        rw [skipBlanks_append before _ blank]
        simp [skipBlanks_cons 0x22 _ rfl]
      · exact (readText_iff _ key _).mpr ⟨body, rfl, escaped⟩

namespace Record

variable (members : List (Member δ)) (regular : ∀ member ∈ members, member.Regular)

include regular in
theorem readValue_sound (key : String) (draft next : δ) (bytes rest : Bytes)
    (read : readValue members key draft bytes = .ok (next, rest)) :
    ∃ middle value, bytes = middle ++ 0x3A :: (value ++ rest) ∧ AllBlank middle ∧
      TakesOne members draft key value next := by
  unfold readValue at read
  cases found : members.find? (·.name = key) with
  | some member =>
      simp only [found] at read
      split at read
      · cases read
      · next fresh =>
          obtain ⟨behind, colon, value_read⟩ := bind_ok _ _ _ read
          obtain ⟨middle, rfl, blank⟩ := readColon_ok bytes behind colon
          have listed := List.mem_of_find?_eq_some found
          obtain ⟨value, rfl, reads⟩ :=
            (regular member listed draft).recognizes.sound behind next rest value_read
          exact ⟨middle, value, rfl, blank, .inl ⟨member, found, by simpa using fresh, reads⟩⟩
  | none =>
      simp only [found] at read
      obtain ⟨behind, colon, value_read⟩ := bind_ok _ _ _ read
      obtain ⟨left, skipped, kept⟩ := bind_ok _ _ _ value_read
      obtain ⟨middle, rfl, blank⟩ := readColon_ok bytes behind colon
      obtain ⟨value, rfl, is_value⟩ := skipValue_sound behind left skipped
      obtain ⟨rfl, rfl⟩ := Prod.mk.inj (Except.ok.inj kept)
      exact ⟨middle, value, rfl, blank, .inr ⟨found, is_value, rfl⟩⟩

include regular in
theorem readValue_complete (key : String) (draft next : δ) (middle value rest : Bytes)
    (blank : AllBlank middle) (delimited : Delimited rest)
    (one : TakesOne members draft key value next) :
    readValue members key draft (middle ++ 0x3A :: (value ++ rest)) = .ok (next, rest) := by
  have colon := readColon_append middle (value ++ rest) blank
  unfold readValue
  rcases one with ⟨member, found, fresh, reads⟩ | ⟨unknown, is_value, rfl⟩
  · have listed := List.mem_of_find?_eq_some found
    have read := (regular member listed draft).recognizes.complete _ _ rest reads delimited
    simp [found, fresh, colon, bind, Except.bind, read]
  · have skipped := skipValue_complete value rest is_value delimited
    simp [unknown, colon, bind, Except.bind, skipped]

include regular in
theorem round_sound (bound : Nat) (draft final : δ) (before inner rest : Bytes)
    (blank : AllBlank before)
    (closes : ∀ next bytes, readMembers members bound false next bytes = .ok (final, rest) →
      ∃ after entries, AllBlank after ∧ bytes = after ++ (Entry.closing entries ++ rest) ∧
        Takes members next entries final)
    (read : (readText inner >>= fun found => readValue members found.1 draft found.2 >>= fun next =>
      readMembers members bound false next.1 next.2) = .ok (final, rest)) :
    ∃ entry entries, before ++ 0x22 :: inner = entry.text ++ (Entry.closing entries ++ rest) ∧
      Takes members draft (entry :: entries) final := by
  obtain ⟨⟨key, behind⟩, key_read, further⟩ := bind_ok _ _ _ read
  obtain ⟨⟨next, left⟩, value_read, closed⟩ := bind_ok _ _ _ further
  obtain ⟨body, rfl, escaped⟩ := (readText_iff inner key behind).mp key_read
  obtain ⟨middle, value, rfl, middle_blank, one⟩ :=
    readValue_sound members regular key draft next behind left value_read
  obtain ⟨after, entries, after_blank, rfl, taken⟩ := closes next left closed
  have spelled := IsString.quoted before body key blank escaped
  refine ⟨⟨key, _, middle, value, after, spelled, middle_blank, after_blank⟩, entries, ?_, ?_⟩
  · simp [Entry.text]
  · exact .more _ entries draft next final one taken

include regular in
theorem readMembers_closing (bound : Nat) (draft final : δ) (bytes rest : Bytes)
    (read : readMembers members bound false draft bytes = .ok (final, rest)) :
    ∃ before entries, AllBlank before ∧ bytes = before ++ (Entry.closing entries ++ rest) ∧
      Takes members draft entries final := by
  induction bound generalizing draft bytes with
  | zero => cases read
  | succ bound ih =>
      obtain ⟨before, cut, blank⟩ := skipBlanks_exists bytes
      rw [readMembers] at read
      split at read
      · cases read
      · next behind start =>
          obtain ⟨rfl, rfl⟩ := Prod.mk.inj (Except.ok.inj read)
          exact ⟨before, [], blank, by rw [cut, start]; rfl, .done draft⟩
      · next byte behind _ start =>
          simp only [Bool.false_eq_true, if_false] at read
          by_cases comma : byte = 0x2C
          · simp only [comma, if_true] at read
            obtain ⟨gap, gap_cut, gap_blank⟩ := skipBlanks_exists behind
            split at read
            · cases read
            · cases read
            · next inner key =>
                obtain key := Except.ok.inj key
                obtain ⟨entry, entries, joined, takes⟩ :=
                  round_sound members regular bound draft final gap inner rest gap_blank ih read
                refine ⟨before, entry :: entries, blank, ?_, takes⟩
                rw [cut, start, comma, gap_cut, key, joined]
                exact congrArg (before ++ ·) (closing_cons ..).symm
            · cases read
          · simp only [comma, if_false] at read
            cases read

include regular in
theorem readMembers_inside (bound : Nat) (draft final : δ) (bytes rest : Bytes)
    (read : readMembers members bound true draft bytes = .ok (final, rest)) :
    ∃ blanks entries, AllBlank blanks ∧ bytes = Entry.inside blanks entries ++ rest ∧
      Takes members draft entries final := by
  cases bound with
  | zero => cases read
  | succ bound =>
      obtain ⟨before, cut, blank⟩ := skipBlanks_exists bytes
      rw [readMembers] at read
      split at read
      · cases read
      · next behind start =>
          obtain ⟨rfl, rfl⟩ := Prod.mk.inj (Except.ok.inj read)
          exact ⟨before, [], blank, by rw [cut, start]; exact (inside_nil ..).symm, .done draft⟩
      · next byte behind _ start =>
          simp only [if_true] at read
          split at read
          · cases read
          · next key => cases key
          · next inner key =>
              obtain ⟨rfl, rfl⟩ := List.cons.inj (Except.ok.inj key)
              obtain ⟨entry, entries, joined, takes⟩ :=
                round_sound members regular bound draft final before behind rest blank
                  (readMembers_closing members regular bound · final · rest) read
              refine ⟨[], entry :: entries, by simp [AllBlank], ?_, takes⟩
              rw [cut, start, joined]
              exact (inside_cons ..).symm
          · cases read

include regular in
theorem round_complete (entry : Entry) (draft next : δ) (behind : Bytes)
    (delimited : Delimited (entry.after ++ behind))
    (one : TakesOne members draft entry.key entry.value next) :
    ∃ inner, skipBlanks (entry.text ++ behind) = 0x22 :: inner ∧
      ∀ further : δ × Bytes → Except Fault (δ × Bytes),
        (readText inner >>= fun found => readValue members found.1 draft found.2 >>= further) =
          further (next, entry.after ++ behind) := by
  obtain ⟨inner, start, key_read⟩ := entry.key_read behind
  refine ⟨inner, start, fun further => ?_⟩
  have value_read := readValue_complete members regular entry.key draft next entry.middle entry.value
    (entry.after ++ behind) entry.middle_blank delimited one
  simp only [key_read, bind, Except.bind, value_read]

include regular in
theorem closing_read (entries : List Entry) (draft final : δ) (takes : Takes members draft entries final)
    (bound : Nat) (enough : entries.length < bound) (before rest : Bytes) (blank : AllBlank before) :
    readMembers members bound false draft (before ++ (Entry.closing entries ++ rest)) =
      .ok (final, rest) := by
  induction takes generalizing bound before with
  | done draft =>
      cases bound with
      | zero => cases enough
      | succ bound =>
          have start : skipBlanks (before ++ (Entry.closing [] ++ rest)) = 0x7D :: rest :=
            skipBlanks_closing_nil 0x7D rfl before rest blank
          rw [readMembers, start]
          rfl
  | more entry entries draft next final one further ih =>
      cases bound with
      | zero => cases enough
      | succ bound =>
          have start : skipBlanks (before ++ (Entry.closing (entry :: entries) ++ rest)) =
              0x2C :: (entry.text ++ (Entry.closing entries ++ rest)) :=
            skipBlanks_closing_cons 0x7D before entry.text rest _ blank
          obtain ⟨inner, key, round⟩ := round_complete members regular entry draft next
            (Entry.closing entries ++ rest)
            (delimited_closing 0x7D (.inr rfl) entry.after rest _ entry.after_blank) one
          have rest_read := ih bound (by simpa using enough) entry.after entry.after_blank
          have step : readMembers members (bound + 1) false draft
              (before ++ (Entry.closing (entry :: entries) ++ rest)) =
                (readText inner >>= fun found => readValue members found.1 draft found.2 >>=
                  fun next => readMembers members bound false next.1 next.2) := by
            rw [readMembers, start]
            simp [key]
          rw [step, round, rest_read]

include regular in
theorem inside_read (entries : List Entry) (draft final : δ) (takes : Takes members draft entries final)
    (bound : Nat) (enough : entries.length < bound) (blanks rest : Bytes) (blank : AllBlank blanks) :
    readMembers members bound true draft (Entry.inside blanks entries ++ rest) =
      .ok (final, rest) := by
  cases bound with
  | zero => cases enough
  | succ bound =>
      cases takes with
      | done =>
          have start : skipBlanks (Entry.inside blanks [] ++ rest) = 0x7D :: rest :=
            skipBlanks_inside_nil 0x7D rfl blanks rest blank
          rw [readMembers, start]
          rfl
      | more entry entries _ next _ one further =>
          obtain ⟨inner, key, round⟩ := round_complete members regular entry draft next
            (Entry.closing entries ++ rest)
            (delimited_closing 0x7D (.inr rfl) entry.after rest _ entry.after_blank) one
          have rest_read := closing_read members regular entries next final further bound
            (by simpa using enough) entry.after rest entry.after_blank
          have start : skipBlanks (Entry.inside blanks (entry :: entries) ++ rest) = 0x22 :: inner := by
            rw [← key]
            exact congrArg skipBlanks (inside_cons ..)
          have step : readMembers members (bound + 1) true draft
              (Entry.inside blanks (entry :: entries) ++ rest) =
                (readText inner >>= fun found => readValue members found.1 draft found.2 >>=
                  fun next => readMembers members bound false next.1 next.2) := by
            rw [readMembers, start]
            simp
          rw [step, round, rest_read]

end Record

end VolumeImport.Json
