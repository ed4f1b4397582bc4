import VolumeImport.Proofs.Json.Objects

/-!
Records as arrays, and records in either form. An array holds the values of the members in their order, some
of the last ones left out.
-/

namespace VolumeImport.Json

variable {α δ : Type}

/-- Elements take a draft to another one, each by the member at its place. -/
inductive TakesInOrder : List (Member δ) → δ → List Element → δ → Prop
  | done (members : List (Member δ)) (draft : δ) : TakesInOrder members draft [] draft
  | more (member : Member δ) (members : List (Member δ)) (element : Element) (rest : List Element)
      (draft next final : δ) (read : Reads (member.read draft) element.value next)
      (further : TakesInOrder members next rest final) :
      TakesInOrder (member :: members) draft (element :: rest) final

namespace Record

theorem readElements_nil (isFirst : Bool) (draft final : δ) (bytes rest : Bytes)
    (read : readElements [] isFirst draft bytes = .ok (final, rest)) :
    ∃ before, AllBlank before ∧ bytes = before ++ 0x5D :: rest ∧ final = draft := by
  obtain ⟨before, cut, blank⟩ := skipBlanks_exists bytes
  rw [readElements] at read
  split at read
  · cases read
  · next behind start =>
      obtain ⟨rfl, rfl⟩ := Prod.mk.inj (Except.ok.inj read)
      exact ⟨before, blank, by rw [← start]; exact cut, rfl⟩
  · cases read

theorem element_sound (member : Member δ) (members : List (Member δ)) (regular : member.Regular)
    (draft final : δ) (bytes rest : Bytes)
    (closes : ∀ next bytes, readElements members false next bytes = .ok (final, rest) →
      ∃ after elements, AllBlank after ∧ bytes = after ++ (Element.closing elements ++ rest) ∧
        TakesInOrder members next elements final)
    (read : (member.read draft (skipBlanks bytes) >>= fun found =>
      readElements members false found.1 found.2) = .ok (final, rest)) :
    ∃ element elements, bytes = element.text ++ (Element.closing elements ++ rest) ∧
      TakesInOrder (member :: members) draft (element :: elements) final := by
  obtain ⟨⟨next, behind⟩, value_read, closed⟩ := bind_ok _ _ _ read
  rw [(regular draft).blanks] at value_read
  obtain ⟨value, rfl, reads⟩ := (regular draft).recognizes.sound bytes next behind value_read
  obtain ⟨after, elements, after_blank, rfl, takes⟩ := closes next behind closed
  refine ⟨⟨value, after, after_blank⟩, elements, ?_, .more member members _ elements draft next final
    reads takes⟩
  rw [Element.text, List.append_assoc]

theorem readElements_closing (members : List (Member δ))
    (regular : ∀ member ∈ members, member.Regular) (draft final : δ) (bytes rest : Bytes)
    (read : readElements members false draft bytes = .ok (final, rest)) :
    ∃ before elements, AllBlank before ∧ bytes = before ++ (Element.closing elements ++ rest) ∧
      TakesInOrder members draft elements final := by
  induction members generalizing draft bytes with
  | nil =>
      obtain ⟨before, blank, rfl, rfl⟩ := readElements_nil false draft final bytes rest read
      exact ⟨before, [], blank, rfl, .done [] final⟩
  | cons member members ih =>
      have this_one := regular member (by simp)
      have others : ∀ other ∈ members, other.Regular := fun other listed =>
        regular other (List.mem_cons_of_mem member listed)
      obtain ⟨before, cut, blank⟩ := skipBlanks_exists bytes
      rw [readElements] at read
      split at read
      · cases read
      · next behind start =>
          obtain ⟨rfl, rfl⟩ := Prod.mk.inj (Except.ok.inj read)
          exact ⟨before, [], blank, by rw [cut, start]; rfl, .done _ draft⟩
      · next byte behind _ start =>
          simp only [Bool.false_eq_true, if_false] at read
          obtain ⟨inner, chosen, read⟩ := bind_ok _ _ _ read
          split at chosen
          · next comma =>
              split at chosen
              · cases chosen
              · cases chosen
              · obtain rfl := Except.ok.inj chosen
                obtain ⟨element, elements, rfl, takes⟩ :=
                  element_sound member members this_one draft final behind rest (ih others) read
                refine ⟨before, element :: elements, blank, ?_, takes⟩
                rw [cut, start, comma]
                exact congrArg (before ++ ·) (closing_cons ..).symm
          · cases chosen

theorem readElements_inside (members : List (Member δ))
    (regular : ∀ member ∈ members, member.Regular) (draft final : δ) (bytes rest : Bytes)
    (read : readElements members true draft bytes = .ok (final, rest)) :
    ∃ blanks elements, AllBlank blanks ∧ bytes = Element.inside blanks elements ++ rest ∧
      TakesInOrder members draft elements final := by
  cases members with
  | nil =>
      obtain ⟨before, blank, rfl, rfl⟩ := readElements_nil true draft final bytes rest read
      exact ⟨before, [], blank, (inside_nil ..).symm, .done [] final⟩
  | cons member members =>
      have this_one := regular member (by simp)
      have others : ∀ other ∈ members, other.Regular := fun other listed =>
        regular other (List.mem_cons_of_mem member listed)
      obtain ⟨before, cut, blank⟩ := skipBlanks_exists bytes
      rw [readElements] at read
      split at read
      · cases read
      · next behind start =>
          obtain ⟨rfl, rfl⟩ := Prod.mk.inj (Except.ok.inj read)
          exact ⟨before, [], blank, by rw [cut, start]; exact (inside_nil ..).symm, .done _ draft⟩
      · next byte behind _ start =>
          simp only [if_true] at read
          rw [← start] at read
          obtain ⟨element, elements, joined, takes⟩ :=
            element_sound member members this_one draft final bytes rest
              (readElements_closing members others · final · rest) read
          refine ⟨[], element :: elements, by simp [AllBlank], ?_, takes⟩
          rw [joined]
          exact (inside_cons ..).symm

theorem element_complete (member : Member δ) (regular : member.Regular) (element : Element)
    (draft next : δ) (behind : Bytes) (delimited : Delimited (element.after ++ behind))
    (read : Reads (member.read draft) element.value next) :
    member.read draft (skipBlanks (element.text ++ behind)) = .ok (next, element.after ++ behind) ∧
      ∃ byte rest, skipBlanks (element.text ++ behind) = byte :: rest ∧ byte ≠ 0x5D := by
  have value_read : member.read draft (element.text ++ behind) =
      .ok (next, element.after ++ behind) := by
    rw [Element.text, List.append_assoc]
    exact (regular draft).recognizes.complete element.value next _ read delimited
  exact ⟨((regular draft).blanks _).trans value_read, (regular draft).starts _ _ value_read⟩

theorem elements_closing_read (members : List (Member δ))
    (regular : ∀ member ∈ members, member.Regular) (elements : List Element) (draft final : δ)
    (takes : TakesInOrder members draft elements final) (before rest : Bytes)
    (blank : AllBlank before) :
    readElements members false draft (before ++ (Element.closing elements ++ rest)) =
      .ok (final, rest) := by
  induction takes generalizing before with
  | done members draft =>
      have start : skipBlanks (before ++ (Element.closing [] ++ rest)) = 0x5D :: rest :=
        skipBlanks_closing_nil 0x5D rfl before rest blank
      cases members <;> rw [readElements, start] <;> rfl
  | more member members element elements draft next final read further ih =>
      have start : skipBlanks (before ++ (Element.closing (element :: elements) ++ rest)) =
          0x2C :: (element.text ++ (Element.closing elements ++ rest)) :=
        skipBlanks_closing_cons 0x5D before element.text rest _ blank
      obtain ⟨value_read, byte, more, starts, not_end⟩ := element_complete member
        (regular member (by simp)) element draft next (Element.closing elements ++ rest)
        (delimited_closing 0x5D (.inl rfl) element.after rest _ element.after_blank) read
      have rest_read := ih (fun other listed => regular other (List.mem_cons_of_mem member listed))
        element.after element.after_blank
      rw [starts] at value_read
      rw [readElements, start]
      simp [starts, not_end, value_read, bind, Except.bind, rest_read]

theorem elements_inside_read (members : List (Member δ))
    (regular : ∀ member ∈ members, member.Regular) (elements : List Element) (draft final : δ)
    (takes : TakesInOrder members draft elements final) (blanks rest : Bytes)
    (blank : AllBlank blanks) :
    readElements members true draft (Element.inside blanks elements ++ rest) =
      .ok (final, rest) := by
  cases takes with
  | done =>
      have start : skipBlanks (Element.inside blanks [] ++ rest) = 0x5D :: rest :=
        skipBlanks_inside_nil 0x5D rfl blanks rest blank
      cases members <;> rw [readElements, start] <;> rfl
  | more member members element elements _ next _ read further =>
      obtain ⟨value_read, byte, more, starts, not_end⟩ := element_complete member
        (regular member (by simp)) element draft next (Element.closing elements ++ rest)
        (delimited_closing 0x5D (.inl rfl) element.after rest _ element.after_blank) read
      have rest_read := elements_closing_read members
        (fun other listed => regular other (List.mem_cons_of_mem member listed)) elements next final
        further element.after rest element.after_blank
      rw [starts] at value_read
      have start : skipBlanks (Element.inside blanks (element :: elements) ++ rest) =
          byte :: more := by
        rw [← starts]
        exact congrArg skipBlanks (inside_cons ..)
      rw [readElements, start]
      simp [value_read, bind, Except.bind, rest_read]

end Record

inductive Record.Is (record : Record δ α) : Bytes → α → Prop
  | object (before blanks : Bytes) (entries : List Entry) (draft : δ) (value : α)
      (blank : AllBlank before) (inside_blank : AllBlank blanks)
      (takes : Takes record.members record.blank entries draft)
      (finished : record.finish draft = some value) :
      Record.Is record (before ++ 0x7B :: Entry.inside blanks entries) value
  | array (before blanks : Bytes) (elements : List Element) (draft : δ) (value : α)
      (blank : AllBlank before) (inside_blank : AllBlank blanks)
      (takes : TakesInOrder record.members record.blank elements draft)
      (finished : record.finish draft = some value) :
      Record.Is record (before ++ 0x5B :: Element.inside blanks elements) value

theorem Record.readDraft_sound (record : Record δ α)
    (regular : ∀ member ∈ record.members, member.Regular) (bytes rest : Bytes) (draft : δ)
    (value : α) (found : record.readDraft bytes = .ok (draft, rest))
    (finished : record.finish draft = some value) :
    ∃ text, bytes = text ++ rest ∧ record.Is text value := by
  obtain ⟨before, cut, blank⟩ := skipBlanks_exists bytes
  unfold readDraft at found
  split at found
  · next inner start =>
      obtain ⟨blanks, entries, inside_blank, rfl, takes⟩ :=
        readMembers_inside record.members regular inner.length record.blank draft inner rest found
      refine ⟨_, ?_, .object before blanks entries draft value blank inside_blank takes finished⟩
      rw [cut, start]
      simp
  · next inner start =>
      obtain ⟨blanks, elements, inside_blank, rfl, takes⟩ :=
        readElements_inside record.members regular record.blank draft inner rest found
      refine ⟨_, ?_, .array before blanks elements draft value blank inside_blank takes finished⟩
      rw [cut, start]
      simp
  · cases found

theorem Record.readDraft_complete (record : Record δ α)
    (regular : ∀ member ∈ record.members, member.Regular) (text rest : Bytes) (value : α)
    (spelled : record.Is text value) :
    ∃ draft, record.readDraft (text ++ rest) = .ok (draft, rest) ∧ record.finish draft = some value := by
  cases spelled with
  | object before blanks entries draft value blank inside_blank takes finished =>
      have start : skipBlanks (before ++ 0x7B :: Entry.inside blanks entries ++ rest) =
          0x7B :: (Entry.inside blanks entries ++ rest) := by
        rw [List.append_assoc, skipBlanks_append before _ blank]
        exact skipBlanks_cons 0x7B _ rfl
      refine ⟨draft, ?_, finished⟩
      rw [readDraft, start]
      exact inside_read record.members regular entries record.blank draft takes _
        (Entry.length_inside blanks rest entries) blanks rest inside_blank
  | array before blanks elements draft value blank inside_blank takes finished =>
      have start : skipBlanks (before ++ 0x5B :: Element.inside blanks elements ++ rest) =
          0x5B :: (Element.inside blanks elements ++ rest) := by
        rw [List.append_assoc, skipBlanks_append before _ blank]
        exact skipBlanks_cons 0x5B _ rfl
      refine ⟨draft, ?_, finished⟩
      rw [readDraft, start]
      exact elements_inside_read record.members regular elements record.blank draft takes blanks rest
        inside_blank

theorem Record.read_recognizes (record : Record δ α)
    (regular : ∀ member ∈ record.members, member.Regular) :
    Recognizes record.read record.Is := by
  constructor
  · intro bytes value rest read
    obtain ⟨⟨draft, behind⟩, found, finished⟩ := bind_ok _ _ _ read
    dsimp only at finished
    split at finished
    · next result finish =>
        obtain ⟨rfl, rfl⟩ := Prod.mk.inj (Except.ok.inj finished)
        exact record.readDraft_sound regular bytes behind draft result found finish
    · cases finished
  · intro text value rest spelled _
    obtain ⟨draft, found, finished⟩ := record.readDraft_complete regular text rest value spelled
    rw [Record.read, found]
    simp [bind, Except.bind, finished]

end VolumeImport.Json
