import VolumeImport.Proofs.Engine.Courses

/-!
The fallback as the tools see it. Converting, resizing and creating hand the preallocation methods to the
image tool one after the other, and what the operation reports of the tool is what its last run came to.
-/

namespace VolumeImport.Engine

open Preallocation

variable {α ω : Type}

def Succeeds (run : Invocation × Run) : Prop :=
  ∃ output, run.2.outcome = .ok output

def IsPassedOver (run : Invocation × Run) : Prop :=
  PassesOver run.2.outcome

/-- The runs of a tool phase that preallocates, with the outcome of the phase. -/
structure FallsBack (base : List String) (methods : List Method) (placement : Placement)
    (runs : List (Invocation × Run)) (outcome : Except ToolError Bytes) : Prop where
  inOrder : runs.map (·.1.arguments) =
    (methods.map (withFlags base · placement)).take runs.length
  /-- Nothing runs behind a success or a failure of another kind. -/
  stops : ∀ (index : Nat) run, runs[index]? = some run → ¬ IsPassedOver run → index + 1 = runs.length
  exhausts : (∀ run ∈ runs, IsPassedOver run) → runs.length = methods.length
  last : ∃ last, runs.getLast? = some last ∧ last.2.outcome = outcome
  succeeds : (∃ output, outcome = .ok output) ↔
    ∃ (index : Nat) (run : Invocation × Run), runs[index]? = some run ∧ Succeeds run ∧
      ∀ earlier, earlier < index → ∃ other, runs[earlier]? = some other ∧ IsPassedOver other

theorem succeeds_not_passedOver (run : Invocation × Run) (success : Succeeds run) :
    ¬ IsPassedOver run := by
  obtain ⟨output, made⟩ := success
  rw [IsPassedOver, made]
  exact not_passesOver_ok output

theorem phase_fallsBack (engine : Engine ω) (methods : List Method) (placement : Placement)
    (hasSink : Bool) (base : List String) (before after : Session α ω)
    (outcome : Except ToolError Bytes) (runs : List (Invocation × Run)) (some_method : methods ≠ [])
    (phase : engine.Phase (engine.row true methods placement hasSink base) before after outcome runs) :
    FallsBack base methods placement runs outcome := by
  obtain ⟨last, final, made, -⟩ := phase.last
  have rowed : engine.row true methods placement hasSink base =
      (methods.map (withFlags base · placement)).map (engine.imageInvocation none hasSink) := by
    cases methods with
    | nil => exact absurd rfl some_method
    | cons method rest => rfl
  have stops : ∀ (index : Nat) run, runs[index]? = some run → ¬ IsPassedOver run →
      index + 1 = runs.length :=
    fun index run found final => (phase.final index run found final).1
  have at_last : runs[runs.length - 1]? = some last := by
    rw [← List.getLast?_eq_getElem?]
    exact final
  have inside : runs.length - 1 < runs.length := (List.getElem?_eq_some_iff.mp at_last).1
  refine ⟨?_, stops, ?_, ⟨last, final, made⟩, ?_⟩
  · have called := congrArg (List.map Invocation.arguments) phase.invoked
    rw [rowed, ← List.map_take] at called
    simpa [Function.comp_def, imageInvocation] using called
  · intro all
    have passed := all last (List.mem_of_getElem? at_last)
    rw [IsPassedOver, made] at passed
    rcases phase.ended with final | whole
    · exact absurd passed final
    · rw [whole, rowed]
      simp
  · constructor
    · rintro ⟨output, success⟩
      refine ⟨runs.length - 1, last, at_last, ⟨output, made.trans success⟩, ?_⟩
      intro earlier before
      have bound : earlier < runs.length := by omega
      refine ⟨runs[earlier], List.getElem?_eq_getElem bound, ?_⟩
      exact phase.passedOver earlier _ (List.getElem?_eq_getElem bound) (by omega)
    · rintro ⟨index, run, found, success, -⟩
      have extent := stops index run found (succeeds_not_passedOver run success)
      obtain rfl : run = last := by
        rw [show runs.length - 1 = index by omega, found] at at_last
        exact Option.some.inj at_last
      obtain ⟨output, ended⟩ := success
      exact ⟨output, made.symm.trans ended⟩

/-- An operation whose tool phase preallocates by the methods, and which reports a tool failure exactly if
that phase failed, with its error. -/
def Preallocates (engine : Engine ω) (base : List String) (methods : List Method)
    (placement : Placement) (session : Session α ω) (ended : Except ImportError Unit × Session α ω) :
    Prop :=
  ∃ runs outcome, engine.Makes session ended.2 runs ∧
    FallsBack base methods placement runs outcome ∧
    ∀ cause, (∃ context, ended.1 = .error (.tool context cause)) ↔ outcome = .error cause

theorem convert_preallocates (engine : Engine ω) (source : Source) (destination : Path)
    (hint : CacheHint) (session : Session α ω) (ended : Except ImportError Unit × Session α ω)
    (course : ConvertCourse engine source destination true hint session ended) :
    (engine.Makes session ended.2 [] ∧
        ∃ error, ended.1 = .error error ∧ ∀ context cause, error ≠ .tool context cause) ∨
      ∃ mode, engine.Preallocates (Arguments.convert mode source destination) convertMethods
        .behindSubcommand session ended := by
  have makes := engine.chooseCacheMode_makes hint destination session
  have fails := (chooseCacheMode_outcome engine hint destination session).2
  cases course with
  | refused error barred =>
      obtain ⟨scheme, -, -, rfl⟩ := (requireScheme_error_iff source _ error).mp barred
      exact Or.inl ⟨engine.makes_nothing session, _, rfl, by simp⟩
  | undecided error after admitted unclear =>
      rw [unclear] at makes fails
      obtain ⟨context, cause, rfl⟩ := fails error rfl
      exact Or.inl ⟨makes, _, rfl, by simp⟩
  | failed mode middle after cause runs admitted chosen phase =>
      refine Or.inr ⟨mode, runs, .error cause, ?_, ?_, ?_⟩
      · exact chosen_makes engine hint destination mode session middle after _ _ runs chosen phase _
      · exact phase_fallsBack engine _ _ _ _ _ _ _ _ (by decide) phase
      · intro other
        simp
  | done mode middle after output runs admitted chosen phase =>
      refine Or.inr ⟨mode, runs, .ok output, ?_, ?_, ?_⟩
      · exact chosen_makes engine hint destination mode session middle after _ _ runs chosen phase _
      · exact phase_fallsBack engine _ _ _ _ _ _ _ _ (by decide) phase
      · simp

theorem resize_preallocates (engine : Engine ω) (image : Path) (size : Quantity)
    (session : Session α ω) (ended : Except ImportError Unit × Session α ω)
    (course : ResizeCourse engine image size true session ended) :
    engine.Preallocates (Arguments.resize image size) resizeMethods .behindSubcommand session
      ended := by
  cases course with
  | failed after cause runs phase =>
      refine ⟨runs, .error cause, phase.makes _, ?_, ?_⟩
      · exact phase_fallsBack engine _ _ _ _ _ _ _ _ (by decide) phase
      · simp
  | done after output runs phase =>
      refine ⟨runs, .ok output, phase.makes _, ?_, ?_⟩
      · exact phase_fallsBack engine _ _ _ _ _ _ _ _ (by decide) phase
      · simp

theorem create_preallocates (engine : Engine ω) (destination : Path) (size : Quantity)
    (session : Session α ω) (ended : Except ImportError Unit × Session α ω)
    (course : CreateCourse engine destination size true session ended) :
    engine.Preallocates (Arguments.create destination size) createMethods .atEnd session ended := by
  cases course with
  | failed after cause runs phase =>
      refine ⟨runs, .error cause, phase.makes _, ?_, ?_⟩
      · exact phase_fallsBack engine _ _ _ _ _ _ _ _ (by decide) phase
      · simp
  | unprotected after output error runs phase refused =>
      refine ⟨runs, .ok output, phase.makes _, ?_, ?_⟩
      · exact phase_fallsBack engine _ _ _ _ _ _ _ _ (by decide) phase
      · simp
  | done after output files runs phase changed =>
      refine ⟨runs, .ok output, phase.makes _, ?_, ?_⟩
      · exact phase_fallsBack engine _ _ _ _ _ _ _ _ (by decide) phase
      · simp

variable [Progress.Percentage α]

/-- The fallback makes the runs of its methods in order, up to the first that is not passed over or to the
last, and none besides, and answers with that one as it is; every run keeps the arguments around one block
of flags. So it is with the tool phases of converting, resizing and creating. -/
theorem preallocation_falls_back {β σ : Type} (run : List String → σ → Except ToolError β × σ)
    (base : List String) (placement : Placement) (methods : List Method) (state : σ)
    (engine : Engine ω) (source : Source) (path : Path) (size : Quantity) (hint : CacheHint)
    (session : Session α ω) :
    (∃ index, Ends (outcomes run (candidates base placement methods) state) index
        (tryInOrder run base placement methods state) ∧
      tryInOrder (recorded run) base placement methods (state, []) =
        ((tryInOrder run base placement methods state).1,
          (tryInOrder run base placement methods state).2,
          (candidates base placement methods).take (index + 1))) ∧
    (∀ method ∈ methods, ∃ front back, base = front ++ back ∧
      withFlags base method placement = front ++ method ++ back ∧
      front = match placement with
        | .behindSubcommand => base.take 1
        | .atEnd => base) ∧
    ((engine.Makes session (engine.convert source path true hint session).2 [] ∧
        ∃ error, (engine.convert source path true hint session).1 = .error error ∧
          ∀ context cause, error ≠ .tool context cause) ∨
      ∃ mode, engine.Preallocates (Arguments.convert mode source path) convertMethods
        .behindSubcommand session (engine.convert source path true hint session)) ∧
    engine.Preallocates (Arguments.resize path size) resizeMethods .behindSubcommand session
      (engine.resize path size true session) ∧
    engine.Preallocates (Arguments.create path size) createMethods .atEnd session
      (engine.create path size true session) :=
  ⟨tryInOrder_recorded run base placement methods state,
    fun method _ => withFlags_block base method placement,
    convert_preallocates engine source path hint session _
      (convert_course engine source path true hint session),
    resize_preallocates engine path size session _ (resize_course engine path size true session),
    create_preallocates engine path size session _ (create_course engine path size true session)⟩

end VolumeImport.Engine
