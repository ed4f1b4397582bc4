import VolumeImport.Storage.Preallocation

/-!
Which runs the fallback makes, and which of them it answers with. The runs that it could make are fixed
beforehand: one for each method, in order. It makes them up to the first that is not passed over, or to the
last, and answers with that one. `run` may keep any state, so nothing else can have been run either.
-/

namespace VolumeImport.Preallocation

/-- A tool that ended, or ran into its limits, and said that it lacks the preallocation mode. -/
def ReportsUnsupported : ToolError → Prop
  | .exited _ _ stdout stderr | .limitExceeded _ _ stdout stderr =>
      unsupportedText.toList <:+: stdout.toList ∨ unsupportedText.toList <:+: stderr.toList
  | _ => False

@[simp] theorem isUnsupported_iff (error : ToolError) :
    isUnsupported error = true ↔ ReportsUnsupported error := by
  cases error <;>
    simp [isUnsupported, ToolError.outputContains, ReportsUnsupported]

variable {α σ : Type}

def PassesOver (outcome : Except ToolError α) : Prop :=
  ∃ error, outcome = .error error ∧ ReportsUnsupported error

@[simp] theorem passesOver_error (error : ToolError) :
    PassesOver (.error error : Except ToolError α) ↔ ReportsUnsupported error := by
  simp [PassesOver]

@[simp] theorem not_passesOver_ok (output : α) : ¬ PassesOver (.ok output : Except ToolError α) := by
  simp [PassesOver]

/-- The argument lists that the methods stand for, in order; without any method, the arguments as they
are. -/
def candidates (base : List String) (placement : Placement) : List Method → List (List String)
  | [] => [base]
  | method :: rest => (method :: rest).map (withFlags base · placement)

/-- What comes of a tool that runs with one argument list after the other, whatever comes of each. With
every outcome stands the state behind it. -/
def outcomes (run : List String → σ → Except ToolError α × σ) :
    List (List String) → σ → List (Except ToolError α × σ)
  | [], _ => []
  | arguments :: rest, state =>
      run arguments state :: outcomes run rest (run arguments state).2

@[simp] theorem outcomes_length (run : List String → σ → Except ToolError α × σ)
    (calls : List (List String)) (state : σ) :
    (outcomes run calls state).length = calls.length := by
  induction calls generalizing state with
  | nil => rfl
  | cons arguments rest ih => simp [outcomes, ih]

/-- The outcome at an index is the first that is not passed over, or the last of all. -/
structure Ends (results : List (Except ToolError α × σ)) (index : Nat)
    (result : Except ToolError α × σ) : Prop where
  made : results[index]? = some result
  passedOver : ∀ earlier, earlier < index →
    ∃ passed, results[earlier]? = some passed ∧ PassesOver passed.1
  ended : ¬ PassesOver result.1 ∨ index + 1 = results.length

theorem ends_cons (results : List (Except ToolError α × σ)) (index : Nat)
    (first result : Except ToolError α × σ) (passed : PassesOver first.1)
    (ends : Ends results index result) : Ends (first :: results) (index + 1) result := by
  refine ⟨by simpa using ends.made, ?_, by simpa using ends.ended⟩
  intro earlier before
  cases earlier with
  | zero => exact ⟨first, rfl, passed⟩
  | succ earlier =>
      obtain ⟨other, made, passed⟩ := ends.passedOver earlier (by omega)
      exact ⟨other, by simpa using made, passed⟩

theorem ends_unique (results : List (Except ToolError α × σ)) (left right : Nat)
    (first second : Except ToolError α × σ) (a : Ends results left first)
    (b : Ends results right second) : left = right ∧ first = second := by
  have ordered : ∀ {low high : Nat} {lower higher : Except ToolError α × σ},
      Ends results low lower → Ends results high higher → ¬ low < high := by
    intro low high lower higher below above before
    have inside : high < results.length := (List.getElem?_eq_some_iff.mp above.made).1
    obtain ⟨other, made, passed⟩ := above.passedOver low before
    have same : lower = other := Option.some.inj (below.made.symm.trans made)
    rcases below.ended with final | last
    · exact final (same ▸ passed)
    · omega
  have same : left = right := by
    have := ordered a b
    have := ordered b a
    omega
  subst same
  exact ⟨rfl, Option.some.inj (a.made.symm.trans b.made)⟩

theorem tryInOrder_ends (run : List String → σ → Except ToolError α × σ) (base : List String)
    (placement : Placement) (methods : List Method) (state : σ) :
    ∃ index, Ends (outcomes run (candidates base placement methods) state) index
      (tryInOrder run base placement methods state) := by
  fun_induction tryInOrder run base placement methods state with
  | case1 state => exact ⟨0, rfl, by simp, Or.inr rfl⟩
  | case2 state method => exact ⟨0, rfl, by simp, Or.inr rfl⟩
  | case3 method next rest state output after made =>
      exact ⟨0, by simp [candidates, outcomes, made], by simp, Or.inl (not_passesOver_ok output)⟩
  | case4 method next rest state error after made unsupported ih =>
      obtain ⟨index, ends⟩ := ih
      have passed : PassesOver (.error error : Except ToolError α) :=
        (passesOver_error error).mpr ((isUnsupported_iff error).mp unsupported)
      refine ⟨index + 1, ?_⟩
      simp only [candidates, List.map_cons, outcomes, made] at ends ⊢
      exact ends_cons _ _ _ _ passed ends
  | case5 method next rest state error after made other =>
      refine ⟨0, by simp [candidates, outcomes, made], by simp, Or.inl ?_⟩
      rw [passesOver_error, ← isUnsupported_iff]
      exact other

theorem tryInOrder_keeps (run : List String → σ → Except ToolError α × σ) (base : List String)
    (placement : Placement) (methods : List Method) (state : σ) (kept : σ → Prop)
    (keeps : ∀ arguments ∈ candidates base placement methods, ∀ before, kept before →
      kept (run arguments before).2)
    (start : kept state) : kept (tryInOrder run base placement methods state).2 := by
  fun_induction tryInOrder run base placement methods state with
  | case1 state => exact keeps base (by simp [candidates]) state start
  | case2 method state => exact keeps _ (by simp [candidates]) state start
  | case3 method next rest state output after made =>
      simpa [made] using keeps (withFlags base method placement) (by simp [candidates]) state start
  | case4 method next rest state error after made unsupported ih =>
      apply ih
      · intro arguments member
        exact keeps arguments (List.mem_cons_of_mem _ member)
      · simpa [made] using keeps (withFlags base method placement) (by simp [candidates]) state start
  | case5 method next rest state error after made other =>
      simpa [made] using keeps (withFlags base method placement) (by simp [candidates]) state start

def recorded (run : List String → σ → Except ToolError α × σ) (arguments : List String)
    (state : σ × List (List String)) : Except ToolError α × σ × List (List String) :=
  let (outcome, after) := run arguments state.1
  (outcome, after, state.2 ++ [arguments])

theorem outcomes_recorded (run : List String → σ → Except ToolError α × σ)
    (calls : List (List String)) (state : σ) (made : List (List String)) (index : Nat) :
    (outcomes (recorded run) calls (state, made))[index]? =
      (outcomes run calls state)[index]?.map fun result =>
        (result.1, result.2, made ++ calls.take (index + 1)) := by
  induction calls generalizing state made index with
  | nil => simp [outcomes]
  | cons arguments rest ih =>
      cases index with
      | zero => simp [outcomes, recorded]
      | succ index => simp [outcomes, recorded, ih]

theorem tryInOrder_recorded (run : List String → σ → Except ToolError α × σ) (base : List String)
    (placement : Placement) (methods : List Method) (state : σ) :
    ∃ index, Ends (outcomes run (candidates base placement methods) state) index
        (tryInOrder run base placement methods state) ∧
      tryInOrder (recorded run) base placement methods (state, []) =
        ((tryInOrder run base placement methods state).1,
          (tryInOrder run base placement methods state).2,
          (candidates base placement methods).take (index + 1)) := by
  obtain ⟨index, plain⟩ := tryInOrder_ends run base placement methods state
  obtain ⟨other, noted⟩ := tryInOrder_ends (recorded run) base placement methods (state, [])
  obtain ⟨result, made, same⟩ :
      ∃ result, (outcomes run (candidates base placement methods) state)[other]? = some result ∧
        (result.1, result.2, (candidates base placement methods).take (other + 1)) =
          tryInOrder (recorded run) base placement methods (state, []) := by
    simpa [outcomes_recorded, Option.map_eq_some_iff] using noted.made
  have ends : Ends (outcomes run (candidates base placement methods) state) other result := by
    refine ⟨made, ?_, ?_⟩
    · intro earlier before
      obtain ⟨copy, found, passed⟩ := noted.passedOver earlier before
      rw [outcomes_recorded, Option.map_eq_some_iff] at found
      obtain ⟨original, kept, rfl⟩ := found
      exact ⟨original, kept, passed⟩
    · simpa [← same] using noted.ended
  obtain ⟨rfl, rfl⟩ := ends_unique _ _ _ _ _ ends plain
  exact ⟨other, ends, same.symm⟩

/-- The flags of a method stand in one block among the arguments, which keep their order. -/
theorem withFlags_block (base : List String) (method : Method) (placement : Placement) :
    ∃ front back, base = front ++ back ∧
      withFlags base method placement = front ++ method ++ back ∧
      front = match placement with
        | .behindSubcommand => base.take 1
        | .atEnd => base := by
  cases placement with
  | behindSubcommand =>
      cases base with
      | nil => exact ⟨[], [], rfl, by simp [withFlags], rfl⟩
      | cons subcommand rest => exact ⟨[subcommand], rest, rfl, rfl, rfl⟩
  | atEnd => exact ⟨base, [], by simp, by simp [withFlags], rfl⟩

end VolumeImport.Preallocation
