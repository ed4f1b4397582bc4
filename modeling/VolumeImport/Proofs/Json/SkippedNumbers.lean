import VolumeImport.Proofs.Json.SkippedTokens

/-!
The skipper on numbers. Only a byte that does not go on with a number tells that it has ended, so a number
is taken whole before such a byte, or at the end of the text.
-/

namespace VolumeImport.Json

namespace Skim

theorem run_resume (stack : List Container) (state : Skim) (rest : Bytes)
    (ends : finish stack state = if stack.isEmpty then .ok [] else .error .truncated)
    (leaves : ∀ byte ∈ rest.head?, step stack state byte = leave stack byte) :
    run stack state rest = resume stack rest := by
  cases rest with
  | nil => exact ends
  | cons byte more =>
      rw [run_cons, leaves byte rfl, leave, resume]
      cases stack with
      | nil => rfl
      | cons container outer => exact (run_cons _ .afterValue byte more).symm

theorem apart_dropWhile (bytes : Bytes) :
    ∀ byte ∈ (bytes.dropWhile isDigit).head?, isDigit byte = false := by
  intro byte first
  have solid := List.head?_dropWhile_not isDigit bytes
  rwa [Option.mem_def.mp first] at solid

theorem digits_exist (byte : UInt8) (more : Bytes) (digit : isDigit byte = true) :
    ∃ digits, byte :: more = digits ++ more.dropWhile isDigit ∧ IsDigits digits := by
  refine ⟨byte :: more.takeWhile isDigit, ?_, List.cons_ne_nil _ _, ?_⟩
  · rw [List.cons_append, List.takeWhile_append_dropWhile]
  · refine List.forall_mem_cons.mpr ⟨(isDigit_iff byte).mp digit, ?_⟩
    intro other listed
    exact (isDigit_iff other).mp (List.all_eq_true.mp List.all_takeWhile other listed)

theorem digits_stay (stack : List Container) (state : Skim)
    (listed : state ∈ [.whole, .fraction, .exponentDigits]) (byte : UInt8)
    (digit : isDigit byte = true) : step stack state byte = .ok (.go stack state) := by
  simp only [List.mem_cons, List.not_mem_nil, or_false] at listed
  rcases listed with rfl | rfl | rfl <;> simp [step, digit]

theorem run_plain (stack : List Container) (state : Skim)
    (listed : state ∈ [.whole, .fraction, .exponentDigits]) (digits rest : Bytes)
    (plain : ∀ digit ∈ digits, IsDecimal digit) :
    run stack state (digits ++ rest) = run stack state rest :=
  run_through stack state isDigit (digits_stay stack state listed) digits rest fun digit member =>
    (isDigit_iff digit).mpr (plain digit member)

theorem run_digits (stack : List Container) (state : Skim)
    (listed : state ∈ [.whole, .fraction, .exponentDigits]) (bytes : Bytes) :
    run stack state bytes = run stack state (bytes.dropWhile isDigit) := by
  have plain : ∀ digit ∈ bytes.takeWhile isDigit, IsDecimal digit := by
    intro digit member
    exact (isDigit_iff digit).mp (List.all_eq_true.mp List.all_takeWhile digit member)
  have through := run_plain stack state listed _ (bytes.dropWhile isDigit) plain
  rwa [List.takeWhile_append_dropWhile] at through

theorem exponentDigits_run (stack : List Container) (bytes : Bytes) :
    run stack .exponentDigits bytes = resume stack (bytes.dropWhile isDigit) := by
  rw [run_digits stack .exponentDigits (by decide)]
  apply run_resume stack .exponentDigits _ rfl
  intro byte first
  simp [step, apart_dropWhile bytes byte first]

theorem exponent_sound (stack : List Container) (bytes left : Bytes)
    (ran : run stack .exponent bytes = .ok left) :
    ∃ sign digits rest, bytes = sign ++ (digits ++ rest) ∧ sign ∈ [[], [0x2B], [0x2D]] ∧
      IsDigits digits ∧ resume stack rest = .ok left := by
  cases bytes with
  | nil => cases ran
  | cons byte more =>
      obtain ⟨turn, stepped, further⟩ := run_ok _ _ _ _ _ ran
      simp only [step] at stepped
      split at stepped
      · next signed =>
          obtain rfl := Except.ok.inj stepped
          cases more with
          | nil => cases further
          | cons first behind =>
              obtain ⟨turn, stepped, further⟩ := run_ok _ _ _ _ _ further
              simp only [step] at stepped
              split at stepped
              · next digit =>
                  obtain rfl := Except.ok.inj stepped
                  obtain ⟨digits, cut, spelled⟩ := digits_exist first behind digit
                  refine ⟨[byte], digits, behind.dropWhile isDigit, congrArg (byte :: ·) cut, ?_, spelled,
                    (exponentDigits_run stack behind).symm.trans further⟩
                  simpa using signed
              · cases stepped
      · split at stepped
        · next digit =>
            obtain rfl := Except.ok.inj stepped
            obtain ⟨digits, cut, spelled⟩ := digits_exist byte more digit
            exact ⟨[], digits, more.dropWhile isDigit, cut, List.mem_cons_self, spelled,
              (exponentDigits_run stack more).symm.trans further⟩
        · cases stepped

theorem exponent_or_end (stack : List Container) (state : Skim) (bytes left : Bytes)
    (ends : finish stack state = if stack.isEmpty then .ok [] else .error .truncated)
    (turns : ∀ byte ∈ bytes.head?, step stack state byte =
      if isExponentMark byte then .ok (.go stack .exponent) else leave stack byte)
    (ran : run stack state bytes = .ok left) :
    ∃ exponent rest, bytes = exponent ++ rest ∧ IsExponent exponent ∧ resume stack rest = .ok left := by
  by_cases marked : ∃ byte ∈ bytes.head?, isExponentMark byte = true
  · obtain ⟨mark, first, marked⟩ := marked
    obtain ⟨more, rfl⟩ := List.head?_eq_some_iff.mp first
    rw [run_step _ _ _ _ (.go stack .exponent) (by rw [turns mark rfl, if_pos marked])] at ran
    obtain ⟨sign, digits, rest, rfl, signed, spelled, resumed⟩ := exponent_sound stack more left ran
    refine ⟨mark :: (sign ++ digits), rest, ?_, ?_, resumed⟩
    case refine_2 => exact .present mark sign digits ((isExponentMark_iff mark).mp marked) signed spelled
    rw [List.cons_append, List.append_assoc]
  · refine ⟨[], bytes, rfl, .absent, ?_⟩
    rw [← run_resume stack state bytes ends]
    · exact ran
    · intro byte first
      rw [turns byte first, if_neg]
      intro mark
      exact marked ⟨byte, first, mark⟩

theorem point_sound (stack : List Container) (bytes left : Bytes)
    (ran : run stack .point bytes = .ok left) :
    ∃ digits exponent rest, bytes = digits ++ (exponent ++ rest) ∧ IsDigits digits ∧
      IsExponent exponent ∧ resume stack rest = .ok left := by
  cases bytes with
  | nil => cases ran
  | cons byte more =>
      obtain ⟨turn, stepped, further⟩ := run_ok _ _ _ _ _ ran
      simp only [step] at stepped
      split at stepped
      · next digit =>
          obtain rfl := Except.ok.inj stepped
          obtain ⟨digits, cut, spelled⟩ := digits_exist byte more digit
          have turns : ∀ byte ∈ (more.dropWhile isDigit).head?, step stack .fraction byte =
              if isExponentMark byte then .ok (.go stack .exponent) else leave stack byte := by
            intro byte first
            simp [step, apart_dropWhile more byte first]
          have digits_run := run_digits stack .fraction (by decide) more
          obtain ⟨exponent, rest, split, exponential, resumed⟩ :=
            exponent_or_end stack .fraction _ left rfl turns (digits_run.symm.trans further)
          exact ⟨digits, exponent, rest, by rw [cut, split], spelled, exponential, resumed⟩
      · cases stepped

theorem mantissa_sound (stack : List Container) (state : Skim) (bytes left : Bytes)
    (ends : finish stack state = if stack.isEmpty then .ok [] else .error .truncated)
    (turns : ∀ byte ∈ bytes.head?, step stack state byte = mantissa stack byte)
    (ran : run stack state bytes = .ok left) :
    ∃ fraction exponent rest, bytes = fraction ++ (exponent ++ rest) ∧ IsFraction fraction ∧
      IsExponent exponent ∧ resume stack rest = .ok left := by
  by_cases pointed : bytes.head? = some 0x2E
  · obtain ⟨more, rfl⟩ := List.head?_eq_some_iff.mp pointed
    rw [run_step _ _ _ _ (.go stack .point) (turns 0x2E rfl)] at ran
    obtain ⟨digits, exponent, rest, rfl, spelled, exponential, resumed⟩ := point_sound stack more left ran
    exact ⟨0x2E :: digits, exponent, rest, rfl, .present digits spelled, exponential, resumed⟩
  · have marks : ∀ byte ∈ bytes.head?, step stack state byte =
        if isExponentMark byte then .ok (.go stack .exponent) else leave stack byte := by
      intro byte first
      rw [turns byte first, mantissa, if_neg]
      rintro rfl
      exact pointed first
    obtain ⟨exponent, rest, cut, exponential, resumed⟩ :=
      exponent_or_end stack state bytes left ends marks ran
    exact ⟨[], exponent, rest, cut, .absent, exponential, resumed⟩

theorem digits_sound (stack : List Container) (byte : UInt8) (more left : Bytes)
    (digit : isDigit byte = true)
    (ran : run stack (if byte = 0x30 then .zero else .whole) more = .ok left) :
    ∃ digits fraction exponent rest, byte :: more = digits ++ (fraction ++ (exponent ++ rest)) ∧
      IsLiteral digits ∧ IsFraction fraction ∧ IsExponent exponent ∧ resume stack rest = .ok left := by
  split at ran
  · next zero =>
      have turns : ∀ byte ∈ more.head?, step stack .zero byte = mantissa stack byte := by
        intro byte first
        obtain ⟨behind, rfl⟩ := List.head?_eq_some_iff.mp first
        obtain ⟨turn, stepped, -⟩ := run_ok _ _ _ _ _ ran
        simp only [step] at stepped ⊢
        split at stepped
        · cases stepped
        · next apart => exact if_neg apart
      obtain ⟨fraction, exponent, rest, cut, fractional, exponential, resumed⟩ :=
        mantissa_sound stack .zero more left rfl turns ran
      refine ⟨[byte], fraction, exponent, rest, congrArg (byte :: ·) cut, ⟨List.cons_ne_nil _ _, ?_, ?_⟩,
        fractional, exponential, resumed⟩
      · simpa [← isDigit_iff] using digit
      · exact fun _ => Nat.le_refl 1
  · next nonzero =>
      obtain ⟨digits, cut, some_digit, plain⟩ := digits_exist byte more digit
      have turns : ∀ byte ∈ (more.dropWhile isDigit).head?,
          step stack .whole byte = mantissa stack byte := by
        intro byte first
        simp [step, apart_dropWhile more byte first]
      have digits_run := run_digits stack .whole (by decide) more
      obtain ⟨fraction, exponent, rest, split, fractional, exponential, resumed⟩ :=
        mantissa_sound stack .whole _ left rfl turns (digits_run.symm.trans ran)
      refine ⟨digits, fraction, exponent, rest, by rw [cut, split], ⟨some_digit, plain, ?_⟩, fractional,
        exponential, resumed⟩
      intro zero
      obtain ⟨others, rfl⟩ := List.head?_eq_some_iff.mp zero
      exact absurd (List.cons.inj cut).1 nonzero

theorem sign_sound (stack : List Container) (bytes left : Bytes)
    (ran : run stack .sign bytes = .ok left) :
    ∃ byte more, bytes = byte :: more ∧ isDigit byte = true ∧
      run stack (if byte = 0x30 then .zero else .whole) more = .ok left := by
  cases bytes with
  | nil => cases ran
  | cons byte more =>
      obtain ⟨turn, stepped, further⟩ := run_ok _ _ _ _ _ ran
      refine ⟨byte, more, rfl, ?_⟩
      simp only [step] at stepped
      split at stepped
      · next zero =>
          obtain rfl := Except.ok.inj stepped
          subst zero
          exact ⟨rfl, further⟩
      · next nonzero =>
          split at stepped
          · next digit =>
              obtain rfl := Except.ok.inj stepped
              rw [if_neg nonzero]
              exact ⟨digit, further⟩
          · cases stepped

theorem exponentDigits_complete (stack : List Container) (state : Skim) (digits rest : Bytes)
    (takes : ∀ byte, isDigit byte = true → step stack state byte = .ok (.go stack .exponentDigits))
    (spelled : IsDigits digits) (delimited : Delimited rest) :
    run stack state (digits ++ rest) = resume stack rest := by
  obtain ⟨some_digit, plain⟩ := spelled
  cases digits with
  | nil => exact absurd rfl some_digit
  | cons digit digits =>
      obtain ⟨first, others⟩ := List.forall_mem_cons.mp plain
      rw [List.cons_append, run_step _ _ _ _ _ (takes digit ((isDigit_iff digit).mpr first))]
      calc run stack .exponentDigits (digits ++ rest)
          = run stack .exponentDigits rest := run_plain stack .exponentDigits (by decide) digits rest others
        _ = resume stack rest := by
            apply run_resume stack .exponentDigits rest rfl
            intro byte first
            simp [step, (delimited_apart rest delimited byte first).1]

theorem exponent_complete (stack : List Container) (state : Skim) (exponent rest : Bytes)
    (number : state = .zero ∨ state = .whole ∨ state = .fraction)
    (exponential : IsExponent exponent) (delimited : Delimited rest) :
    run stack state (exponent ++ rest) = resume stack rest := by
  cases exponential with
  | absent =>
      apply run_resume
      · rcases number with rfl | rfl | rfl <;> rfl
      · intro byte first
        obtain ⟨apart, not_point, not_mark⟩ := delimited_apart rest delimited byte first
        rcases number with rfl | rfl | rfl <;> simp [step, mantissa, apart, not_point, not_mark]
  | present mark sign digits marked signed spelled =>
      have apart : isDigit mark = false ∧ mark ≠ 0x2E := by
        simp only [exponentMarks, List.mem_cons, List.not_mem_nil, or_false] at marked
        rcases marked with rfl | rfl <;> decide
      obtain ⟨not_digit, not_point⟩ := apart
      have turn : step stack state mark = .ok (.go stack .exponent) := by
        rw [← isExponentMark_iff] at marked
        rcases number with rfl | rfl | rfl <;> simp [step, mantissa, not_digit, not_point, marked]
      have behind_sign : run stack .exponentSign (digits ++ rest) = resume stack rest := by
        apply exponentDigits_complete stack .exponentSign digits rest _ spelled delimited
        intro byte digit
        simp [step, digit]
      rw [List.cons_append, List.append_assoc, run_step _ _ _ _ _ turn]
      simp only [List.mem_cons, List.not_mem_nil, or_false] at signed
      rcases signed with rfl | rfl | rfl
      · apply exponentDigits_complete stack .exponent digits rest _ spelled delimited
        intro byte digit
        have not_sign : byte ≠ 0x2B ∧ byte ≠ 0x2D := by
          constructor <;> rintro rfl <;> cases digit
        simp [step, not_sign, digit]
      · exact (run_step stack .exponent 0x2B _ (.go stack .exponentSign) rfl).trans behind_sign
      · exact (run_step stack .exponent 0x2D _ (.go stack .exponentSign) rfl).trans behind_sign

theorem fraction_complete (stack : List Container) (state : Skim) (fraction exponent rest : Bytes)
    (number : state = .zero ∨ state = .whole) (fractional : IsFraction fraction)
    (exponential : IsExponent exponent) (delimited : Delimited rest) :
    run stack state (fraction ++ (exponent ++ rest)) = resume stack rest := by
  cases fractional with
  | absent =>
      apply exponent_complete stack state exponent rest _ exponential delimited
      rcases number with rfl | rfl
      · exact .inl rfl
      · exact .inr (.inl rfl)
  | present digits spelled =>
      obtain ⟨some_digit, plain⟩ := spelled
      cases digits with
      | nil => exact absurd rfl some_digit
      | cons digit digits =>
          obtain ⟨first, others⟩ := List.forall_mem_cons.mp plain
          have turn : step stack state 0x2E = .ok (.go stack .point) := by
            rcases number with rfl | rfl <;> rfl
          rw [List.cons_append, run_step _ _ _ _ _ turn]
          simp only [follow]
          rw [List.cons_append, run_step _ _ _ _ (.go stack .fraction) (by
            simp [step, (isDigit_iff digit).mpr first])]
          exact (run_plain stack .fraction (by decide) digits _ others).trans
            (exponent_complete stack .fraction exponent rest (.inr (.inr rfl)) exponential delimited)

theorem digits_complete (stack : List Container) (digits fraction exponent rest : Bytes)
    (literal : IsLiteral digits) (fractional : IsFraction fraction) (exponential : IsExponent exponent)
    (delimited : Delimited rest) :
    ∃ byte more, digits ++ (fraction ++ (exponent ++ rest)) = byte :: more ∧ isDigit byte = true ∧
      run stack (if byte = 0x30 then .zero else .whole) more = resume stack rest := by
  obtain ⟨some_digit, plain, no_zero⟩ := literal
  cases digits with
  | nil => exact absurd rfl some_digit
  | cons digit digits =>
      obtain ⟨first, others⟩ := List.forall_mem_cons.mp plain
      refine ⟨digit, _, rfl, (isDigit_iff digit).mpr first, ?_⟩
      by_cases zero : digit = 0x30
      · have alone : digits = [] := by
          have short := no_zero (congrArg some zero)
          exact List.length_eq_zero_iff.mp (Nat.le_zero.mp (Nat.le_of_succ_le_succ short))
        rw [if_pos zero, alone]
        exact fraction_complete stack .zero fraction exponent rest (.inl rfl) fractional exponential
          delimited
      · rw [if_neg zero]
        exact (run_plain stack .whole (by decide) digits _ others).trans
          (fraction_complete stack .whole fraction exponent rest (.inr rfl) fractional exponential
            delimited)

end Skim

end VolumeImport.Json
