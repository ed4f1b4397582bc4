import VolumeImport.Json.Reader
import VolumeImport.Proofs.Json.Values

/-!
The skipper on words and strings. The machine may start with any containers open; behind a value it has to
go on in the innermost of them.
-/

namespace VolumeImport.Json

namespace Skim

/-- What is left to do behind a value: nothing, or to go on in the innermost container. -/
def resume (stack : List Container) (rest : Bytes) : Except Fault Bytes :=
  if stack.isEmpty then .ok rest else run stack .afterValue rest

def follow (turn : Turn) (byte : UInt8) (rest : Bytes) : Except Fault Bytes :=
  match turn with
  | .go stack state => run stack state rest
  | .endBefore => .ok (byte :: rest)
  | .endBehind => .ok rest

theorem run_cons (stack : List Container) (state : Skim) (byte : UInt8) (rest : Bytes) :
    run stack state (byte :: rest) = step stack state byte >>= (follow · byte rest) := by
  rw [run]
  cases step stack state byte with
  | error fault => rfl
  | ok turn => cases turn <;> rfl

theorem run_step (stack : List Container) (state : Skim) (byte : UInt8) (rest : Bytes) (turn : Turn)
    (stepped : step stack state byte = .ok turn) :
    run stack state (byte :: rest) = follow turn byte rest := by
  rw [run_cons, stepped]
  rfl

theorem run_ok (stack : List Container) (state : Skim) (byte : UInt8) (rest left : Bytes)
    (ran : run stack state (byte :: rest) = .ok left) :
    ∃ turn, step stack state byte = .ok turn ∧ follow turn byte rest = .ok left := by
  rw [run_cons] at ran
  exact bind_ok _ _ _ ran

theorem follow_close (stack : List Container) (byte : UInt8) (rest : Bytes) :
    follow (close stack) byte rest = resume stack rest := by
  unfold close resume
  split <;> rfl

theorem run_through (stack : List Container) (state : Skim) (kind : UInt8 → Bool)
    (stays : ∀ byte, kind byte = true → step stack state byte = .ok (.go stack state))
    (bytes rest : Bytes) (all : ∀ byte ∈ bytes, kind byte = true) :
    run stack state (bytes ++ rest) = run stack state rest := by
  induction bytes with
  | nil => rfl
  | cons byte bytes ih =>
      rw [List.cons_append, run_step stack state byte _ _ (stays byte (all byte List.mem_cons_self))]
      exact ih fun other listed => all other (List.mem_cons_of_mem byte listed)

def waiting : List Skim :=
  [.value, .firstElement, .firstKey, .nextKey, .colon, .afterValue]

theorem waits (stack : List Container) (state : Skim) (listed : state ∈ waiting) (byte : UInt8)
    (blank : isBlank byte = true) : step stack state byte = .ok (.go stack state) := by
  simp only [waiting, List.mem_cons, List.not_mem_nil, or_false] at listed
  rcases listed with rfl | rfl | rfl | rfl | rfl | rfl <;> simp [step, separate, blank]

theorem run_past (stack : List Container) (state : Skim) (listed : state ∈ waiting)
    (before rest : Bytes) (blank : AllBlank before) :
    run stack state (before ++ rest) = run stack state rest :=
  run_through stack state isBlank (waits stack state listed) before rest blank.isBlank

theorem run_blanks (stack : List Container) (state : Skim) (listed : state ∈ waiting)
    (bytes : Bytes) : run stack state bytes = run stack state (skipBlanks bytes) := by
  obtain ⟨before, cut, blank⟩ := skipBlanks_exists bytes
  calc run stack state bytes
      = run stack state (before ++ skipBlanks bytes) := congrArg (run stack state) cut
    _ = run stack state (skipBlanks bytes) := run_past stack state listed before _ blank

theorem skipBlanks_solid (bytes more : Bytes) (byte : UInt8) (start : skipBlanks bytes = byte :: more) :
    isBlank byte = false := by
  have solid := List.head?_dropWhile_not isBlank bytes
  have dropped : bytes.dropWhile isBlank = byte :: more := start
  rwa [dropped] at solid

theorem waiting_ok (stack : List Container) (state : Skim) (listed : state ∈ waiting)
    (bytes left : Bytes) (ran : run stack state bytes = .ok left) :
    ∃ before byte more turn, AllBlank before ∧ bytes = before ++ byte :: more ∧
      isBlank byte = false ∧ step stack state byte = .ok turn ∧ follow turn byte more = .ok left := by
  obtain ⟨before, cut, blank⟩ := skipBlanks_exists bytes
  rw [run_blanks stack state listed] at ran
  cases start : skipBlanks bytes with
  | nil =>
      rw [start] at ran
      simp only [waiting, List.mem_cons, List.not_mem_nil, or_false] at listed
      rcases listed with rfl | rfl | rfl | rfl | rfl | rfl <;> cases ran
  | cons byte more =>
      rw [start] at ran cut
      obtain ⟨turn, stepped, further⟩ := run_ok _ _ _ _ _ ran
      exact ⟨before, byte, more, turn, blank, cut, skipBlanks_solid bytes more byte start, stepped, further⟩

theorem word_sound (stack : List Container) (word bytes left : Bytes) (some_letter : word ≠ [])
    (ran : run stack (.word word) bytes = .ok left) :
    ∃ rest, bytes = word ++ rest ∧ resume stack rest = .ok left := by
  induction word generalizing bytes with
  | nil => exact absurd rfl some_letter
  | cons letter letters ih =>
      cases bytes with
      | nil => cases ran
      | cons byte more =>
          cases letters with
          | nil =>
              by_cases same : byte = letter
              · rw [run_step _ _ _ _ (close stack) (by simp [step, same]), follow_close] at ran
                exact ⟨more, by rw [same]; rfl, ran⟩
              · simp [run_cons, step, same, bind, Except.bind] at ran
          | cons second letters =>
              by_cases same : byte = letter
              · rw [run_step _ _ _ _ (.go stack (.word (second :: letters))) (by simp [step, same])] at ran
                obtain ⟨rest, rfl, further⟩ := ih more (List.cons_ne_nil _ _) ran
                exact ⟨rest, by rw [same]; rfl, further⟩
              · simp [run_cons, step, same, bind, Except.bind] at ran

theorem word_complete (stack : List Container) (word rest : Bytes) (some_letter : word ≠ []) :
    run stack (.word word) (word ++ rest) = resume stack rest := by
  induction word with
  | nil => exact absurd rfl some_letter
  | cons letter letters ih =>
      rw [List.cons_append]
      cases letters with
      | nil =>
          rw [run_step _ _ _ _ (close stack) (by simp [step])]
          exact follow_close stack letter rest
      | cons second letters =>
          rw [run_step _ _ _ _ (.go stack (.word (second :: letters))) (by simp [step])]
          exact ih (List.cons_ne_nil _ _)

theorem unit_sound (stack : List Container) (isKey : Bool) (missing : Nat) (isSound : Bool)
    (bytes left : Bytes) (ran : run stack (.unit isKey (missing + 1) isSound) bytes = .ok left) :
    ∃ digits rest, bytes = digits ++ rest ∧ digits.length = missing + 1 ∧ isSound = true ∧
      (∀ digit ∈ digits, (hexDigit? digit).isSome = true) ∧ run stack (.text isKey) rest = .ok left := by
  induction missing generalizing isSound bytes with
  | zero =>
      cases bytes with
      | nil => cases ran
      | cons byte rest =>
          obtain ⟨turn, stepped, further⟩ := run_ok _ _ _ _ _ ran
          simp only [step, Nat.zero_add, Nat.lt_irrefl, if_false] at stepped
          split at stepped
          · next sound =>
              obtain rfl := Except.ok.inj stepped
              obtain ⟨sound, hex⟩ := Bool.and_eq_true_iff.mp sound
              exact ⟨[byte], rest, rfl, rfl, sound, by simpa using hex, further⟩
          · cases stepped
  | succ missing ih =>
      cases bytes with
      | nil => cases ran
      | cons byte rest =>
          obtain ⟨turn, stepped, further⟩ := run_ok _ _ _ _ _ ran
          have more : 1 < missing + 1 + 1 := by omega
          simp only [step, more, if_true] at stepped
          obtain rfl := Except.ok.inj stepped
          obtain ⟨digits, behind, rfl, long, sound, hex, text⟩ := ih _ rest further
          obtain ⟨sound, first⟩ := Bool.and_eq_true_iff.mp sound
          refine ⟨byte :: digits, behind, rfl, congrArg (· + 1) long, sound, ?_, text⟩
          exact List.forall_mem_cons.mpr ⟨first, hex⟩

theorem unit_complete (stack : List Container) (isKey : Bool) (digits rest : Bytes)
    (some_digit : digits ≠ []) (hex : ∀ digit ∈ digits, (hexDigit? digit).isSome = true) :
    run stack (.unit isKey digits.length true) (digits ++ rest) = run stack (.text isKey) rest := by
  induction digits with
  | nil => exact absurd rfl some_digit
  | cons digit digits ih =>
      obtain ⟨first, others⟩ := List.forall_mem_cons.mp hex
      rw [List.cons_append]
      cases digits with
      | nil => exact run_step _ _ _ _ (.go stack (.text isKey)) (by simp [step, first])
      | cons second digits =>
          rw [run_step _ _ _ _ (.go stack (.unit isKey (second :: digits).length true))
            (by simp [step, first])]
          exact ih (List.cons_ne_nil _ _) others

theorem escape_sound (stack : List Container) (isKey : Bool) (bytes left : Bytes)
    (ran : run stack (.escape isKey) bytes = .ok left) :
    ∃ escape rest, bytes = escape ++ rest ∧
      (∀ body, Quotable body → Quotable (0x5C :: (escape ++ body))) ∧
      run stack (.text isKey) rest = .ok left := by
  cases bytes with
  | nil => cases ran
  | cons letter more =>
      obtain ⟨turn, stepped, further⟩ := run_ok _ _ _ _ _ ran
      simp only [step] at stepped
      split at stepped
      · next unit =>
          obtain rfl := Except.ok.inj stepped
          obtain ⟨digits, rest, rfl, four, -, hex, text⟩ := unit_sound stack isKey 3 true more left further
          refine ⟨letter :: digits, rest, rfl, ?_, text⟩
          intro body quotable
          rw [unit, List.cons_append]
          exact .unit digits body four (fun digit listed =>
            (hexDigit?_isSome_iff digit).mp (hex digit listed)) quotable
      · split at stepped
        · next known =>
            obtain rfl := Except.ok.inj stepped
            obtain ⟨byte, listed⟩ := (shortEscape?_isSome_iff letter).mp known
            exact ⟨[letter], more, rfl, fun body quotable => .short letter byte body listed quotable,
              further⟩
        · cases stepped

/-- The text of a string runs up to its first quote that no escape takes. -/
theorem text_sound (stack : List Container) (isKey : Bool) (bound : Nat) (bytes left : Bytes)
    (short : bytes.length ≤ bound) (ran : run stack (.text isKey) bytes = .ok left) :
    ∃ body rest, bytes = body ++ 0x22 :: rest ∧ Quotable body ∧
      follow (closeText stack isKey) 0x22 rest = .ok left := by
  -- not on the bytes themselves, as an escape takes several at once
  induction bound generalizing bytes with
  | zero =>
      obtain rfl := List.length_eq_zero_iff.mp (Nat.le_zero.mp short)
      cases ran
  | succ bound ih =>
      cases bytes with
      | nil => cases ran
      | cons byte more =>
          obtain ⟨turn, stepped, further⟩ := run_ok _ _ _ _ _ ran
          simp only [step] at stepped
          rw [List.length_cons] at short
          split at stepped
          · next quote =>
              obtain rfl := Except.ok.inj stepped
              obtain rfl : byte = 0x22 := quote
              exact ⟨[], more, rfl, .done, further⟩
          · next not_quote =>
              split at stepped
              · next escape =>
                  obtain rfl := Except.ok.inj stepped
                  obtain rfl : byte = 0x5C := escape
                  obtain ⟨escape, behind, rfl, escaped, text⟩ := escape_sound stack isKey more left further
                  rw [List.length_append] at short
                  obtain ⟨body, rest, rfl, quotable, closed⟩ := ih behind (by omega) text
                  refine ⟨0x5C :: (escape ++ body), rest, ?_, escaped body quotable, closed⟩
                  rw [List.cons_append, List.append_assoc]
              · next not_backslash =>
                  split at stepped
                  · cases stepped
                  · next printable =>
                      obtain rfl := Except.ok.inj stepped
                      obtain ⟨body, rest, rfl, quotable, closed⟩ := ih more (by omega) further
                      exact ⟨byte :: body, rest, rfl,
                        .plain byte body printable not_quote not_backslash quotable, closed⟩

theorem text_complete (stack : List Container) (isKey : Bool) (body rest : Bytes)
    (quotable : Quotable body) :
    run stack (.text isKey) (body ++ 0x22 :: rest) = follow (closeText stack isKey) 0x22 rest := by
  induction quotable with
  | done => exact run_step _ _ _ _ (closeText stack isKey) rfl
  | plain byte body printable not_quote not_backslash _ ih =>
      rw [List.cons_append, run_step _ _ _ _ (.go stack (.text isKey))]
      · exact ih
      · simp [step, quoteByte, backslash, printable, not_quote, not_backslash]
  | short letter byte body listed _ ih =>
      have known := (shortEscape?_isSome_iff letter).mpr ⟨byte, listed⟩
      have not_unit : letter ≠ 0x75 := by
        rintro rfl
        cases known
      rw [List.cons_append, run_step _ _ _ _ (.go stack (.escape isKey)) rfl]
      simp only [follow]
      rw [List.cons_append, run_step _ _ _ _ (.go stack (.text isKey))]
      · exact ih
      · simp [step, not_unit, known]
  | unit digits body four hex _ ih =>
      have some_digit : digits ≠ [] := by
        rintro rfl
        cases four
      have units := unit_complete stack isKey digits (body ++ 0x22 :: rest) some_digit
        fun digit listed => (hexDigit?_isSome_iff digit).mpr (hex digit listed)
      rw [four] at units
      rw [List.cons_append, run_step _ _ _ _ (.go stack (.escape isKey)) rfl]
      simp only [follow]
      rw [List.cons_append, run_step _ _ _ _ (.go stack (.unit isKey 4 true)) rfl, List.append_assoc]
      exact units.trans ih

end Skim

end VolumeImport.Json
