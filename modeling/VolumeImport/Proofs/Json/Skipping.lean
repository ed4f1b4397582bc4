import VolumeImport.Proofs.Json.SkippedNumbers

/-!
Skipping keeps to the grammar of values: the machine takes every value to its end, and it takes nothing that
is no value.
-/

namespace VolumeImport.Json

namespace Skim

/-- Values of up to some length are taken whole, and nothing else is. -/
def TakesValues (bound : Nat) : Prop :=
  ∀ stack bytes left, bytes.length ≤ bound → run stack .value bytes = .ok left →
    ∃ text rest, bytes = text ++ rest ∧ IsValue text ∧ resume stack rest = .ok left

def bracket : Container → UInt8
  | .array => 0x5D
  | .object => 0x7D

def next : Container → Skim
  | .array => .value
  | .object => .nextKey

theorem afterValue_sound (container : Container) (stack : List Container) (bytes left : Bytes)
    (ran : run (container :: stack) .afterValue bytes = .ok left) :
    ∃ before more, AllBlank before ∧
      (bytes = before ++ bracket container :: more ∧ resume stack more = .ok left ∨
        bytes = before ++ 0x2C :: more ∧
          run (container :: stack) (next container) more = .ok left) := by
  obtain ⟨before, byte, more, turn, blank, cut, solid, stepped, further⟩ :=
    waiting_ok _ .afterValue (by decide) bytes left ran
  refine ⟨before, more, blank, ?_⟩
  simp only [step, separate, solid, Bool.false_eq_true, if_false] at stepped
  split at stepped
  · next opened =>
      obtain ⟨rfl, rfl⟩ := List.cons.inj opened
      obtain rfl := Except.ok.inj stepped
      exact .inr ⟨cut, further⟩
  · next opened =>
      obtain ⟨rfl, rfl⟩ := List.cons.inj opened
      obtain rfl := Except.ok.inj stepped
      exact .inr ⟨cut, further⟩
  · next opened =>
      obtain ⟨rfl, rfl⟩ := List.cons.inj opened
      obtain rfl := Except.ok.inj stepped
      rw [follow_close] at further
      exact .inl ⟨cut, further⟩
  · next opened =>
      obtain ⟨rfl, rfl⟩ := List.cons.inj opened
      obtain rfl := Except.ok.inj stepped
      rw [follow_close] at further
      exact .inl ⟨cut, further⟩
  · cases stepped

theorem elements_sound (limit : Nat) (values : TakesValues limit) (stack : List Container)
    (bound : Nat) (bytes left : Bytes) (short : bytes.length ≤ bound) (within : bound ≤ limit)
    (ran : run (.array :: stack) .afterValue bytes = .ok left) :
    ∃ before elements rest, AllBlank before ∧ bytes = before ++ (Element.closing elements ++ rest) ∧
      (∀ element ∈ elements, IsValue element.value) ∧ resume stack rest = .ok left := by
  induction bound generalizing bytes with
  | zero =>
      obtain rfl := List.length_eq_zero_iff.mp (Nat.le_zero.mp short)
      cases ran
  | succ bound ih =>
      obtain ⟨before, more, blank, ⟨rfl, ended⟩ | ⟨rfl, further⟩⟩ :=
        afterValue_sound .array stack bytes left ran
      · exact ⟨before, [], more, blank, rfl, by simp, ended⟩
      · rw [List.length_append, List.length_cons] at short
        obtain ⟨value, behind, rfl, is_value, resumed⟩ := values _ more left (by omega) further
        rw [List.length_append] at short
        obtain ⟨after, elements, rest, after_blank, rfl, others, ended⟩ :=
          ih behind (by omega) (Nat.le_of_succ_le within) resumed
        refine ⟨before, ⟨value, after, after_blank⟩ :: elements, rest, blank, ?_,
          List.forall_mem_cons.mpr ⟨is_value, others⟩, ended⟩
        refine congrArg (before ++ ·) (Eq.trans ?_ (closing_cons ..).symm)
        rw [Element.text, List.append_assoc]
        rfl

theorem firstElement_sound (limit : Nat) (values : TakesValues limit) (stack : List Container)
    (bytes left : Bytes) (short : bytes.length ≤ limit)
    (ran : run (.array :: stack) .firstElement bytes = .ok left) :
    ∃ blanks elements rest, AllBlank blanks ∧ bytes = Element.inside blanks elements ++ rest ∧
      (∀ element ∈ elements, IsValue element.value) ∧ resume stack rest = .ok left := by
  obtain ⟨before, byte, more, turn, blank, cut, solid, stepped, further⟩ :=
    waiting_ok _ .firstElement (by decide) bytes left ran
  simp only [step, solid, Bool.false_eq_true, if_false] at stepped
  split at stepped
  · next closed =>
      obtain rfl := Except.ok.inj stepped
      rw [follow_close] at further
      refine ⟨before, [], more, blank, ?_, by simp, further⟩
      rw [cut, closed]
      exact (inside_nil ..).symm
  · -- the first byte of a value is taken alike here and before any other value
    have value_step : step (.array :: stack) .value byte = .ok turn := by
      simpa [step, solid] using stepped
    have value_ran : run (.array :: stack) .value bytes = .ok left := by
      rw [cut, run_past _ .value (by decide) before _ blank, run_step _ _ _ _ turn value_step]
      exact further
    obtain ⟨value, behind, rfl, is_value, resumed⟩ := values _ bytes left short value_ran
    rw [List.length_append] at short
    obtain ⟨after, elements, rest, after_blank, rfl, others, ended⟩ :=
      elements_sound limit values stack behind.length behind left (Nat.le_refl _) (by omega) resumed
    refine ⟨[], ⟨value, after, after_blank⟩ :: elements, rest, by simp [AllBlank], ?_,
      List.forall_mem_cons.mpr ⟨is_value, others⟩, ended⟩
    refine Eq.trans ?_ (inside_cons ..).symm
    rw [Element.text, List.append_assoc]
    rfl

theorem colon_sound (stack : List Container) (bytes left : Bytes)
    (ran : run stack .colon bytes = .ok left) :
    ∃ middle rest, AllBlank middle ∧ bytes = middle ++ 0x3A :: rest ∧
      run stack .value rest = .ok left := by
  obtain ⟨middle, byte, rest, turn, blank, cut, solid, stepped, further⟩ :=
    waiting_ok _ .colon (by decide) bytes left ran
  simp only [step, solid, Bool.false_eq_true, if_false] at stepped
  split at stepped
  · next colon =>
      obtain rfl := Except.ok.inj stepped
      exact ⟨middle, rest, blank, by rw [cut, colon], further⟩
  · cases stepped

theorem nextKey_sound (stack : List Container) (bytes left : Bytes)
    (ran : run stack .nextKey bytes = .ok left) :
    ∃ gap inner, AllBlank gap ∧ bytes = gap ++ 0x22 :: inner ∧
      run stack (.text true) inner = .ok left := by
  obtain ⟨gap, byte, inner, turn, blank, cut, solid, stepped, further⟩ :=
    waiting_ok _ .nextKey (by decide) bytes left ran
  simp only [step, solid, Bool.false_eq_true, if_false] at stepped
  split at stepped
  · next quote =>
      obtain rfl := Except.ok.inj stepped
      exact ⟨gap, inner, blank, by rw [cut, quote]; rfl, further⟩
  · cases stepped

theorem pair_sound (limit : Nat) (values : TakesValues limit) (stack : List Container)
    (before inner left : Bytes) (blank : AllBlank before) (short : inner.length ≤ limit)
    (ran : run stack (.text true) inner = .ok left) :
    ∃ key middle value behind, IsQuoted key ∧ AllBlank middle ∧ IsValue value ∧
      before ++ 0x22 :: inner = key ++ (middle ++ 0x3A :: (value ++ behind)) ∧
      behind.length ≤ inner.length ∧ resume stack behind = .ok left := by
  obtain ⟨body, rest, rfl, quotable, closed⟩ :=
    text_sound stack true inner.length inner left (Nat.le_refl _) ran
  obtain ⟨middle, further, middle_blank, rfl, value_ran⟩ := colon_sound stack rest left closed
  simp only [List.length_append, List.length_cons] at short
  obtain ⟨value, behind, rfl, is_value, resumed⟩ := values stack further left (by omega) value_ran
  refine ⟨_, middle, value, behind, .quoted before body blank quotable, middle_blank, is_value, ?_, ?_,
    resumed⟩
  · simp only [List.append_assoc, List.cons_append, List.nil_append]
  · simp only [List.length_append, List.length_cons]
    omega

theorem pairs_sound (limit : Nat) (values : TakesValues limit) (stack : List Container)
    (bound : Nat) (bytes left : Bytes) (short : bytes.length ≤ bound) (within : bound ≤ limit)
    (ran : run (.object :: stack) .afterValue bytes = .ok left) :
    ∃ before pairs rest, AllBlank before ∧ bytes = before ++ (Pair.closing pairs ++ rest) ∧
      (∀ pair ∈ pairs, IsValue pair.value) ∧ resume stack rest = .ok left := by
  induction bound generalizing bytes with
  | zero =>
      obtain rfl := List.length_eq_zero_iff.mp (Nat.le_zero.mp short)
      cases ran
  | succ bound ih =>
      obtain ⟨before, more, blank, ⟨rfl, ended⟩ | ⟨rfl, further⟩⟩ :=
        afterValue_sound .object stack bytes left ran
      · exact ⟨before, [], more, blank, rfl, by simp, ended⟩
      · rw [List.length_append, List.length_cons] at short
        obtain ⟨gap, inner, gap_blank, rfl, text⟩ := nextKey_sound _ more left further
        rw [List.length_append, List.length_cons] at short
        obtain ⟨key, middle, value, behind, quoted, middle_blank, is_value, joined, less, resumed⟩ :=
          pair_sound limit values _ gap inner left gap_blank (by omega) text
        obtain ⟨after, pairs, rest, after_blank, rfl, others, ended⟩ :=
          ih behind (by omega) (Nat.le_of_succ_le within) resumed
        refine ⟨before, ⟨key, middle, value, after, quoted, middle_blank, after_blank⟩ :: pairs, rest,
          blank, ?_, List.forall_mem_cons.mpr ⟨is_value, others⟩, ended⟩
        refine congrArg (before ++ ·) (Eq.trans ?_ (closing_cons ..).symm)
        rw [joined]
        simp [Pair.text, Pair.closing]

theorem firstKey_sound (limit : Nat) (values : TakesValues limit) (stack : List Container)
    (bytes left : Bytes) (short : bytes.length ≤ limit)
    (ran : run (.object :: stack) .firstKey bytes = .ok left) :
    ∃ blanks pairs rest, AllBlank blanks ∧ bytes = Pair.inside blanks pairs ++ rest ∧
      (∀ pair ∈ pairs, IsValue pair.value) ∧ resume stack rest = .ok left := by
  obtain ⟨before, byte, more, turn, blank, rfl, solid, stepped, further⟩ :=
    waiting_ok _ .firstKey (by decide) bytes left ran
  simp only [step, solid, Bool.false_eq_true, if_false] at stepped
  split at stepped
  · next closed =>
      obtain rfl := Except.ok.inj stepped
      rw [follow_close] at further
      refine ⟨before, [], more, blank, ?_, by simp, further⟩
      rw [closed]
      exact (inside_nil ..).symm
  · split at stepped
    · next quote =>
        obtain rfl := Except.ok.inj stepped
        rw [List.length_append, List.length_cons] at short
        obtain ⟨key, middle, value, behind, quoted, middle_blank, is_value, joined, less, resumed⟩ :=
          pair_sound limit values _ before more left blank (by omega) further
        obtain ⟨after, pairs, rest, after_blank, rfl, others, ended⟩ :=
          pairs_sound limit values stack behind.length behind left (Nat.le_refl _) (by omega) resumed
        refine ⟨[], ⟨key, middle, value, after, quoted, middle_blank, after_blank⟩ :: pairs, rest,
          by simp [AllBlank], ?_, List.forall_mem_cons.mpr ⟨is_value, others⟩, ended⟩
        refine Eq.trans ?_ (inside_cons ..).symm
        rw [quote]
        refine joined.trans ?_
        simp [Pair.text, Pair.closing]
    · cases stepped

theorem number_sound (stack : List Container) (before sign bytes left : Bytes) (blank : AllBlank before)
    (signed : sign ∈ [[], [0x2D]]) (byte : UInt8) (more : Bytes) (cut : bytes = byte :: more)
    (digit : isDigit byte = true)
    (ran : run stack (if byte = 0x30 then .zero else .whole) more = .ok left) :
    ∃ text rest, before ++ (sign ++ bytes) = text ++ rest ∧ IsValue text ∧
      resume stack rest = .ok left := by
  obtain ⟨digits, fraction, exponent, rest, joined, literal, fractional, exponential, resumed⟩ :=
    digits_sound stack byte more left digit ran
  refine ⟨_, rest, ?_, .number before _ blank
    (.number sign digits fraction exponent signed literal fractional exponential), resumed⟩
  rw [cut, joined]
  simp only [List.append_assoc]

theorem named_sound (stack : List Container) (before more left : Bytes) (letter : UInt8)
    (letters : Bytes) (blank : AllBlank before) (known : (letter :: letters) ∈ words)
    (some_letter : letters ≠ []) (ran : run stack (.word letters) more = .ok left) :
    ∃ text rest, before ++ letter :: more = text ++ rest ∧ IsValue text ∧
      resume stack rest = .ok left := by
  obtain ⟨rest, rfl, resumed⟩ := word_sound stack letters more left some_letter ran
  exact ⟨_, rest, (List.append_assoc before (letter :: letters) rest).symm,
    .word before (letter :: letters) blank known, resumed⟩

theorem start_sound (limit : Nat) (values : TakesValues limit) (stack : List Container)
    (before more left : Bytes) (byte : UInt8) (blank : AllBlank before) (short : more.length ≤ limit)
    (turn : Turn) (started : start stack byte = .ok turn) (further : follow turn byte more = .ok left) :
    ∃ text rest, before ++ byte :: more = text ++ rest ∧ IsValue text ∧
      resume stack rest = .ok left := by
  unfold start at started
  split at started
  · obtain rfl := Except.ok.inj started
    exact named_sound stack before more left _ _ blank (by decide) (List.cons_ne_nil _ _) further
  · obtain rfl := Except.ok.inj started
    exact named_sound stack before more left _ _ blank (by decide) (List.cons_ne_nil _ _) further
  · obtain rfl := Except.ok.inj started
    exact named_sound stack before more left _ _ blank (by decide) (List.cons_ne_nil _ _) further
  · obtain rfl := Except.ok.inj started
    obtain ⟨digit, behind, cut, is_digit, ran⟩ := sign_sound stack more left further
    exact number_sound stack before [0x2D] more left blank (by simp) digit behind cut is_digit ran
  · obtain rfl := Except.ok.inj started
    obtain ⟨body, rest, rfl, quotable, closed⟩ :=
      text_sound stack false more.length more left (Nat.le_refl _) further
    rw [closeText, if_neg Bool.false_ne_true, follow_close] at closed
    refine ⟨_, rest, ?_, .string _ (.quoted before body blank quotable), closed⟩
    simp only [List.append_assoc, List.cons_append, List.nil_append]
  · obtain rfl := Except.ok.inj started
    obtain ⟨blanks, elements, rest, inside_blank, rfl, each, resumed⟩ :=
      firstElement_sound limit values stack more left short further
    exact ⟨_, rest, (List.append_assoc before (0x5B :: Element.inside blanks elements) rest).symm,
      .array before blanks elements blank inside_blank each, resumed⟩
  · obtain rfl := Except.ok.inj started
    obtain ⟨blanks, pairs, rest, inside_blank, rfl, each, resumed⟩ :=
      firstKey_sound limit values stack more left short further
    exact ⟨_, rest, (List.append_assoc before (0x7B :: Pair.inside blanks pairs) rest).symm,
      .object before blanks pairs blank inside_blank each, resumed⟩
  · obtain rfl := Except.ok.inj started
    exact number_sound stack before [] (0x30 :: more) left blank (by simp) 0x30 more rfl rfl further
  · next nonzero =>
      split at started
      · next digit =>
          obtain rfl := Except.ok.inj started
          refine number_sound stack before [] (byte :: more) left blank (by simp) byte more rfl digit ?_
          rw [if_neg nonzero]
          exact further
      · cases started

/-- What the machine takes for a value is one. The induction is on the length of the text: containers hold
shorter values. -/
theorem takesValues (bound : Nat) : TakesValues bound := by
  induction bound with
  | zero =>
      intro stack bytes left short ran
      obtain rfl := List.length_eq_zero_iff.mp (Nat.le_zero.mp short)
      cases ran
  | succ bound ih =>
      intro stack bytes left short ran
      obtain ⟨before, byte, more, turn, blank, rfl, solid, stepped, further⟩ :=
        waiting_ok stack .value (by decide) bytes left ran
      rw [List.length_append, List.length_cons] at short
      simp only [step, solid, Bool.false_eq_true, if_false] at stepped
      exact start_sound bound ih stack before more left byte blank (by omega) turn stepped further

def IsTaken (text : Bytes) : Prop :=
  ∀ stack rest, Delimited rest → run stack .value (text ++ rest) = resume stack rest

theorem value_start (text : Bytes) (value : IsValue text) :
    ∃ before byte more, text = before ++ byte :: more ∧ AllBlank before ∧ isBlank byte = false ∧
      byte ≠ 0x5D := by
  cases value with
  | word before word blank known =>
      simp only [words, List.mem_cons, List.not_mem_nil, or_false] at known
      rcases known with rfl | rfl | rfl
      all_goals exact ⟨before, _, _, rfl, blank, by decide⟩
  | number before text blank spelled =>
      cases spelled with
      | number sign digits fraction exponent signed literal fractional exponential =>
          simp only [List.mem_cons, List.not_mem_nil, or_false] at signed
          rcases signed with rfl | rfl
          · cases digits with
            | nil => exact absurd rfl literal.some_digit
            | cons digit digits =>
                have is_digit := literal.isDigit digit List.mem_cons_self
                refine ⟨before, digit, _, rfl, blank, ?_, ?_⟩
                · exact (digit_solid digit is_digit).1
                · rintro rfl
                  cases is_digit
          · exact ⟨before, 0x2D, _, rfl, blank, by decide⟩
  | string text quoted =>
      cases quoted with
      | quoted before body blank quotable => exact ⟨before, 0x22, _, rfl, blank, by decide⟩
  | array before blanks elements blank inside_blank values =>
      exact ⟨before, 0x5B, _, rfl, blank, by decide⟩
  | object before blanks pairs blank inside_blank values =>
      exact ⟨before, 0x7B, _, rfl, blank, by decide⟩

theorem elements_complete (stack : List Container) (elements : List Element) (after rest : Bytes)
    (blank : AllBlank after) (taken : ∀ element ∈ elements, IsTaken element.value) :
    run (.array :: stack) .afterValue (after ++ (Element.closing elements ++ rest)) =
      resume stack rest := by
  induction elements generalizing after with
  | nil =>
      have start : skipBlanks (after ++ (Element.closing [] ++ rest)) = 0x5D :: rest :=
        skipBlanks_closing_nil 0x5D rfl after rest blank
      rw [run_blanks _ .afterValue (by decide), start, run_step _ _ _ _ (close stack) rfl]
      exact follow_close stack 0x5D rest
  | cons element elements ih =>
      obtain ⟨first, others⟩ := List.forall_mem_cons.mp taken
      have start : skipBlanks (after ++ (Element.closing (element :: elements) ++ rest)) =
          0x2C :: (element.text ++ (Element.closing elements ++ rest)) :=
        skipBlanks_closing_cons 0x5D after element.text rest _ blank
      have delimited := delimited_closing 0x5D (.inl rfl) element.after rest (elements.map Element.text)
        element.after_blank
      calc run (.array :: stack) .afterValue (after ++ (Element.closing (element :: elements) ++ rest))
          = run (.array :: stack) .value (element.text ++ (Element.closing elements ++ rest)) := by
            rw [run_blanks _ .afterValue (by decide), start]
            exact run_step _ _ _ _ (.go (.array :: stack) .value) rfl
        _ = run (.array :: stack) .value
              (element.value ++ (element.after ++ (Element.closing elements ++ rest))) := by
            rw [Element.text, List.append_assoc]
        _ = run (.array :: stack) .afterValue
              (element.after ++ (Element.closing elements ++ rest)) :=
            first (.array :: stack) _ delimited
        _ = resume stack rest := ih element.after element.after_blank others

/-- No value starts with the bracket that would end an array, so the first element may be taken for any
other value. -/
theorem firstElement_value (stack : List Container) (text rest : Bytes) (value : IsValue text) :
    run stack .firstElement (text ++ rest) = run stack .value (text ++ rest) := by
  obtain ⟨before, byte, more, rfl, before_blank, solid, not_end⟩ := value_start text value
  have same_step : step stack .firstElement byte = step stack .value byte := by
    simp [step, solid, not_end]
  rw [List.append_assoc, run_past _ .firstElement (by decide) before _ before_blank,
    run_past _ .value (by decide) before _ before_blank, List.cons_append, run_cons, run_cons, same_step]

theorem firstElement_complete (stack : List Container) (elements : List Element) (blanks rest : Bytes)
    (blank : AllBlank blanks) (values : ∀ element ∈ elements, IsValue element.value)
    (taken : ∀ element ∈ elements, IsTaken element.value) :
    run (.array :: stack) .firstElement (Element.inside blanks elements ++ rest) =
      resume stack rest := by
  cases elements with
  | nil =>
      have start : skipBlanks (Element.inside blanks [] ++ rest) = 0x5D :: rest :=
        skipBlanks_inside_nil 0x5D rfl blanks rest blank
      rw [run_blanks _ .firstElement (by decide), start, run_step _ _ _ _ (close stack) rfl]
      exact follow_close stack 0x5D rest
  | cons element elements =>
      obtain ⟨is_value, -⟩ := List.forall_mem_cons.mp values
      obtain ⟨first, others⟩ := List.forall_mem_cons.mp taken
      have delimited := delimited_closing 0x5D (.inl rfl) element.after rest (elements.map Element.text)
        element.after_blank
      have inner : Element.inside blanks (element :: elements) ++ rest =
          element.value ++ (element.after ++ (Element.closing elements ++ rest)) :=
        (inside_cons ..).trans (List.append_assoc ..)
      rw [inner, firstElement_value (.array :: stack) element.value _ is_value]
      calc run (.array :: stack) .value
              (element.value ++ (element.after ++ (Element.closing elements ++ rest)))
          = run (.array :: stack) .afterValue
              (element.after ++ (Element.closing elements ++ rest)) :=
            first (.array :: stack) _ delimited
        _ = resume stack rest := elements_complete stack elements element.after rest
              element.after_blank others

theorem pair_complete (stack : List Container) (state : Skim) (listed : state ∈ waiting)
    (quotes : step stack state 0x22 = .ok (.go stack (.text true))) (pair : Pair)
    (taken : IsTaken pair.value) (rest : Bytes) (delimited : Delimited (pair.after ++ rest)) :
    run stack state (pair.text ++ rest) = resume stack (pair.after ++ rest) := by
  obtain ⟨key, middle, value, after, quoted, middle_blank, after_blank⟩ := pair
  cases quoted with
  | quoted before body blank quotable =>
      simp only [Pair.text, List.append_assoc, List.cons_append, List.nil_append]
      rw [run_past _ state listed before _ blank, run_step _ _ _ _ _ quotes]
      calc run stack (.text true) (body ++ 0x22 :: (middle ++ 0x3A :: (value ++ (after ++ rest))))
          = run stack .colon (middle ++ 0x3A :: (value ++ (after ++ rest))) :=
            text_complete stack true body _ quotable
        _ = run stack .colon (0x3A :: (value ++ (after ++ rest))) :=
            run_past _ .colon (by decide) middle _ middle_blank
        _ = run stack .value (value ++ (after ++ rest)) := run_step _ _ _ _ (.go stack .value) rfl
        _ = resume stack (after ++ rest) := taken stack _ delimited

theorem pairs_complete (stack : List Container) (pairs : List Pair) (after rest : Bytes)
    (blank : AllBlank after) (taken : ∀ pair ∈ pairs, IsTaken pair.value) :
    run (.object :: stack) .afterValue (after ++ (Pair.closing pairs ++ rest)) =
      resume stack rest := by
  induction pairs generalizing after with
  | nil =>
      have start : skipBlanks (after ++ (Pair.closing [] ++ rest)) = 0x7D :: rest :=
        skipBlanks_closing_nil 0x7D rfl after rest blank
      rw [run_blanks _ .afterValue (by decide), start, run_step _ _ _ _ (close stack) rfl]
      exact follow_close stack 0x7D rest
  | cons pair pairs ih =>
      obtain ⟨first, others⟩ := List.forall_mem_cons.mp taken
      have start : skipBlanks (after ++ (Pair.closing (pair :: pairs) ++ rest)) =
          0x2C :: (pair.text ++ (Pair.closing pairs ++ rest)) :=
        skipBlanks_closing_cons 0x7D after pair.text rest _ blank
      have delimited := delimited_closing 0x7D (.inr rfl) pair.after rest (pairs.map Pair.text)
        pair.after_blank
      calc run (.object :: stack) .afterValue (after ++ (Pair.closing (pair :: pairs) ++ rest))
          = run (.object :: stack) .nextKey (pair.text ++ (Pair.closing pairs ++ rest)) := by
            rw [run_blanks _ .afterValue (by decide), start]
            exact run_step _ _ _ _ (.go (.object :: stack) .nextKey) rfl
        _ = run (.object :: stack) .afterValue (pair.after ++ (Pair.closing pairs ++ rest)) :=
            pair_complete _ .nextKey (by decide) rfl pair first _ delimited
        _ = resume stack rest := ih pair.after pair.after_blank others

theorem firstKey_complete (stack : List Container) (pairs : List Pair) (blanks rest : Bytes)
    (blank : AllBlank blanks) (taken : ∀ pair ∈ pairs, IsTaken pair.value) :
    run (.object :: stack) .firstKey (Pair.inside blanks pairs ++ rest) = resume stack rest := by
  cases pairs with
  | nil =>
      have start : skipBlanks (Pair.inside blanks [] ++ rest) = 0x7D :: rest :=
        skipBlanks_inside_nil 0x7D rfl blanks rest blank
      rw [run_blanks _ .firstKey (by decide), start, run_step _ _ _ _ (close stack) rfl]
      exact follow_close stack 0x7D rest
  | cons pair pairs =>
      obtain ⟨first, others⟩ := List.forall_mem_cons.mp taken
      have inner : Pair.inside blanks (pair :: pairs) ++ rest =
          pair.text ++ (Pair.closing pairs ++ rest) := inside_cons ..
      have delimited := delimited_closing 0x7D (.inr rfl) pair.after rest (pairs.map Pair.text)
        pair.after_blank
      rw [inner]
      calc run (.object :: stack) .firstKey (pair.text ++ (Pair.closing pairs ++ rest))
          = run (.object :: stack) .afterValue (pair.after ++ (Pair.closing pairs ++ rest)) :=
            pair_complete _ .firstKey (by decide) rfl pair first _ delimited
        _ = resume stack rest := pairs_complete stack pairs pair.after rest pair.after_blank others

theorem start_digit (stack : List Container) (byte : UInt8) (digit : isDigit byte = true) :
    step stack .value byte = .ok (.go stack (if byte = 0x30 then .zero else .whole)) := by
  rw [step, (digit_solid byte digit).1, if_neg Bool.false_ne_true]
  unfold start
  split
  all_goals first
    | cases digit; done
    | simp_all

theorem number_complete (text : Bytes) (spelled : IsNumber text) : IsTaken text := by
  intro stack rest delimited
  cases spelled with
  | number sign digits fraction exponent signed literal fractional exponential =>
      obtain ⟨byte, more, joined, digit, ran⟩ :=
        digits_complete stack digits fraction exponent rest literal fractional exponential delimited
      simp only [List.append_assoc, joined]
      simp only [List.mem_cons, List.not_mem_nil, or_false] at signed
      rcases signed with rfl | rfl
      · rw [List.nil_append, run_step _ _ _ _ _ (start_digit stack byte digit)]
        exact ran
      · rw [List.cons_append, run_step _ _ _ _ (.go stack .sign) rfl]
        refine Eq.trans ?_ ran
        have turn : step stack .sign byte = .ok (.go stack (if byte = 0x30 then .zero else .whole)) := by
          by_cases zero : byte = 0x30 <;> simp [step, zero, digit]
        exact run_step _ _ _ _ _ turn

/-- The machine takes every value. The induction is on the value: what a container holds is taken by what is
known of its parts. -/
theorem value_complete (text : Bytes) (value : IsValue text) : IsTaken text := by
  induction value with
  | word before word blank known =>
      intro stack rest delimited
      rw [List.append_assoc, run_past _ .value (by decide) before _ blank]
      simp only [words, List.mem_cons, List.not_mem_nil, or_false] at known
      rcases known with rfl | rfl | rfl
      · exact word_complete stack [0x75, 0x6C, 0x6C] rest (List.cons_ne_nil _ _)
      · exact word_complete stack [0x72, 0x75, 0x65] rest (List.cons_ne_nil _ _)
      · exact word_complete stack [0x61, 0x6C, 0x73, 0x65] rest (List.cons_ne_nil _ _)
  | number before text blank spelled =>
      intro stack rest delimited
      rw [List.append_assoc, run_past _ .value (by decide) before _ blank]
      exact number_complete text spelled stack rest delimited
  | string text quoted =>
      intro stack rest delimited
      cases quoted with
      | quoted before body blank quotable =>
          simp only [List.append_assoc, List.cons_append, List.nil_append]
          rw [run_past _ .value (by decide) before _ blank,
            run_step _ _ _ _ (.go stack (.text false)) rfl]
          refine (text_complete stack false body rest quotable).trans ?_
          exact follow_close stack 0x22 rest
  | array before blanks elements blank inside_blank values taken =>
      intro stack rest delimited
      rw [List.append_assoc, run_past _ .value (by decide) before _ blank,
        List.cons_append, run_step _ _ _ _ (.go (.array :: stack) .firstElement) rfl]
      exact firstElement_complete stack elements blanks rest inside_blank values taken
  | object before blanks pairs blank inside_blank values taken =>
      intro stack rest delimited
      rw [List.append_assoc, run_past _ .value (by decide) before _ blank,
        List.cons_append, run_step _ _ _ _ (.go (.object :: stack) .firstKey) rfl]
      exact firstKey_complete stack pairs blanks rest inside_blank taken

end Skim

theorem skipValue_sound (bytes rest : Bytes) (skipped : skipValue bytes = .ok rest) :
    ∃ text, bytes = text ++ rest ∧ IsValue text := by
  obtain ⟨text, behind, joined, value, ended⟩ :=
    Skim.takesValues bytes.length [] bytes rest (Nat.le_refl _) skipped
  obtain rfl := Except.ok.inj ended
  exact ⟨text, joined, value⟩

theorem skipValue_complete (text rest : Bytes) (value : IsValue text) (delimited : Delimited rest) :
    skipValue (text ++ rest) = .ok rest :=
  Skim.value_complete text value [] rest delimited

end VolumeImport.Json
