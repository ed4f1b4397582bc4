import VolumeImport.Proofs.Engine.Conversion
import VolumeImport.Proofs.Engine.PreallocationRuns
import VolumeImport.Proofs.Process.Starts

/-!
The attempts of an engine whose tools run under the guard. Each attempt starts a program on what the one before
it left. The first of them whose failure is not about the mode is the last, and its error is what the operation
answers with.
-/

namespace VolumeImport.Engine

open Guard (comesTo start starts Fatal)

variable {α ω : Type} {engine : Engine ω} {host : Guard.Host ω}

/-- How an operation closes its tool phase: a failure of the phase is its own, and besides it can only fail by
the file system. -/
structure Closes (attempted : Except ToolError Bytes × Session α ω)
    (ended : Except ImportError Unit × Session α ω) : Prop where
  runs : ended.2.runs = attempted.2.runs
  failed : ∀ cause, attempted.1 = .error cause → ∃ context, ended.1 = .error (.tool context cause)
  failures : ∀ error, ended.1 = .error error →
    (∃ context cause, error = .tool context cause ∧ attempted.1 = .error cause) ∨
      ∃ context cause, error = .io context cause

theorem closes_failed (after : Session α ω) (files : FileSystem) (context : String)
    (cause : ToolError) :
    Closes (.error cause, after) (.error (.tool context cause), { after with files }) where
  runs := rfl
  failed := by
    rintro _ ⟨⟩
    exact ⟨context, rfl⟩
  failures := by
    rintro _ ⟨⟩
    exact .inl ⟨context, cause, rfl, rfl⟩

theorem closes_done (after : Session α ω) (files : FileSystem) (output : Bytes) :
    Closes (.ok output, after) (.ok (), { after with files }) where
  runs := rfl
  failed := nofun
  failures := nofun

theorem closes_io (after : Session α ω) (files : FileSystem) (output : Bytes) (context : String)
    (cause : SystemError) :
    Closes (.ok output, after) (.error (.io context cause), { after with files }) where
  runs := rfl
  failed := nofun
  failures := by
    rintro _ ⟨⟩
    exact .inr ⟨context, cause, rfl⟩

variable [Progress.Percentage α]

theorem runTool_comesTo (wired : engine.run = Guard.runner host) (invocation : Invocation)
    (session : Session α ω) :
    (engine.runTool invocation session).1 = comesTo invocation.program invocation.limits
      (start host invocation session.files session.world) := by
  simp only [runTool, wired]
  exact Guard.runner_outcome host invocation session.files session.world

theorem outcomes_started (wired : engine.run = Guard.runner host) (hasSink : Bool)
    (calls : List (List String)) (session : Session α ω) :
    (Preallocation.outcomes (engine.runImageTool none hasSink) calls session).map Prod.fst =
      (starts host (calls.map (engine.imageInvocation none hasSink)) session.files
        session.world).map (comesTo engine.options.imageTool.text none) := by
  induction calls generalizing session with
  | nil => rfl
  | cons arguments rest ih =>
      have later := ih (engine.runImageTool none hasSink arguments session).2
      have first := runTool_comesTo wired (engine.imageInvocation none hasSink arguments) session
      simp only [Preallocation.outcomes, List.map_cons, starts, later]
      simp only [runImageTool, runTool, wired, imageInvocation] at first ⊢
      rw [first]

theorem attempt_started (wired : engine.run = Guard.runner host) (preallocate : Bool)
    (methods : List Preallocation.Method) (placement : Preallocation.Placement) (hasSink : Bool)
    (arguments : List String) (session : Session α ω) :
    ∃ runs, engine.Phase (engine.row preallocate methods placement hasSink arguments) session
        (engine.attempt preallocate methods placement hasSink arguments session).2
        (engine.attempt preallocate methods placement hasSink arguments session).1 runs ∧
      runs.map (·.2.outcome) =
        ((starts host (engine.row preallocate methods placement hasSink arguments) session.files
          session.world).take runs.length).map (comesTo engine.options.imageTool.text none) := by
  obtain ⟨stop, ends⟩ :=
    attempt_ends engine preallocate methods placement hasSink arguments session
  obtain ⟨runs, phase, reported⟩ := ends_phase engine hasSink _ session stop _ ends
  refine ⟨runs, phase, ?_⟩
  rw [reported, outcomes_started wired, List.map_take, row]

theorem convert_closes (engine : Engine ω) (source : Source) (destination : Path)
    (preallocate : Bool) (hint : CacheHint) (session middle : Session α ω) (mode : CacheMode)
    (exported : Exported source)
    (chosen : engine.chooseCacheMode hint destination session = (.ok mode, middle)) :
    Closes (engine.attempt preallocate Preallocation.convertMethods .behindSubcommand true
        (Arguments.convert mode source destination) middle)
      (engine.convert source destination preallocate hint session) := by
  unfold convert
  rw [(exported_iff source).mp exported]
  simp only [chosen]
  rcases engine.attempt preallocate Preallocation.convertMethods .behindSubcommand true
    (Arguments.convert mode source destination) middle with ⟨cause | output, after⟩
  · exact closes_failed after _ _ cause
  · exact closes_done after after.files output

theorem resize_closes (engine : Engine ω) (image : Path) (size : Quantity) (preallocate : Bool)
    (session : Session α ω) :
    Closes (engine.attempt preallocate Preallocation.resizeMethods .behindSubcommand false
        (Arguments.resize image size) session)
      (engine.resize image size preallocate session) := by
  unfold resize
  rcases engine.attempt preallocate Preallocation.resizeMethods .behindSubcommand false
    (Arguments.resize image size) session with ⟨cause | output, after⟩
  · exact closes_failed after after.files _ cause
  · exact closes_done after after.files output

theorem create_closes (engine : Engine ω) (destination : Path) (size : Quantity)
    (preallocate : Bool) (session : Session α ω) :
    Closes (engine.attempt preallocate Preallocation.createMethods .atEnd false
        (Arguments.create destination size) session)
      (engine.create destination size preallocate session) := by
  unfold create
  rcases engine.attempt preallocate Preallocation.createMethods .atEnd false
    (Arguments.create destination size) session with ⟨cause | output, after⟩
  · exact closes_failed after _ _ cause
  · dsimp only
    cases after.files.chmod destination newImageMode with
    | ok files => exact closes_done after files output
    | error error => exact closes_io after _ output _ error

inductive Chain (engine : Engine ω) (session : Session α ω) :
    Operation → List Invocation → Session α ω → Prop
  | converting (source : Source) (destination : Path) (preallocate : Bool) (hint : CacheHint)
      (mode : CacheMode) (middle : Session α ω) (exported : Exported source)
      (chosen : engine.chooseCacheMode hint destination session = (.ok mode, middle)) :
      Chain engine session (.convert source destination preallocate hint)
        (engine.row preallocate Preallocation.convertMethods .behindSubcommand true
          (Arguments.convert mode source destination)) middle
  | resizing (image : Path) (size : Quantity) (preallocate : Bool) :
      Chain engine session (.resize image size preallocate)
        (engine.row preallocate Preallocation.resizeMethods .behindSubcommand false
          (Arguments.resize image size)) session
  | creating (destination : Path) (size : Quantity) (preallocate : Bool) :
      Chain engine session (.create destination size preallocate)
        (engine.row preallocate Preallocation.createMethods .atEnd false
          (Arguments.create destination size)) session

/-- Of a row of attempts, those that were made and what came of them: a failure of the tool that is answered with
is that of the last attempt, and one that is not about the mode is answered with and no attempt follows it. -/
structure Surfaces (host : Guard.Host ω) (program : String) (row : List Invocation)
    (middle : Session α ω) (runs : List (Invocation × Run)) (answer : Answer) : Prop where
  invoked : runs.map Prod.fst = row.take runs.length
  reported : runs.map (·.2.outcome) =
    ((starts host row middle.files middle.world).take runs.length).map (comesTo program none)
  ran : runs ≠ []
  answered : ∀ context cause, answer = .error (.tool context cause) →
    ∃ last, runs.getLast? = some last ∧ last.2.outcome = .error cause
  final : ∀ index started cause, index < runs.length →
    (starts host row middle.files middle.world)[index]? = some started →
      Fatal program started cause →
        index + 1 = runs.length ∧ ∃ context, answer = .error (.tool context cause)

theorem attempt_surfaces (wired : engine.run = Guard.runner host) (preallocate : Bool)
    (methods : List Preallocation.Method) (placement : Preallocation.Placement) (hasSink : Bool)
    (arguments : List String) (session middle : Session α ω) (kept : middle.runs = session.runs)
    (ended : Except ImportError Unit × Session α ω)
    (closes : Closes (engine.attempt preallocate methods placement hasSink arguments middle)
      ended) :
    ∃ runs, (withoutReport ended).2.runs = session.runs ++ runs ∧
      Surfaces host engine.options.imageTool.text
        (engine.row preallocate methods placement hasSink arguments) middle runs
        (withoutReport ended).1 := by
  obtain ⟨runs, phase, reported⟩ :=
    attempt_started wired preallocate methods placement hasSink arguments middle
  refine ⟨runs, ?_, phase.invoked, reported, phase.ran, ?_, ?_⟩
  · rw [← kept, ← (phase.makes _).recorded]
    exact closes.runs
  · intro context cause failed
    obtain ⟨last, listed, made, -⟩ := phase.last
    rcases closes.failures _ ((map_error_iff _ ended.1 _).mp failed) with
      ⟨_, _, same, failure⟩ | ⟨_, _, other⟩
    · obtain ⟨rfl, rfl⟩ := ImportError.tool.inj same
      exact ⟨last, listed, made.trans failure⟩
    · cases other
  · intro index started cause inside begun fatal
    obtain ⟨failed, other⟩ := (Guard.fatal_iff _ started cause).mp fatal
    have outcome : (runs[index]).2.outcome = .error cause := by
      have same := congrArg (·[index]?) reported
      simpa [inside, begun, failed] using same
    -- only a complaint about the mode makes room for another attempt
    have final : ¬Preallocation.PassesOver (runs[index]).2.outcome := by
      rwa [outcome, Preallocation.passesOver_error]
    obtain ⟨last, made⟩ := phase.final index _ (List.getElem?_eq_getElem inside) final
    obtain ⟨context, answer⟩ := closes.failed cause (made.symm.trans outcome)
    exact ⟨last, context, (map_error_iff _ ended.1 _).mpr answer⟩

theorem chain_surfaces (wired : engine.run = Guard.runner host) (operation : Operation)
    (session middle : Session α ω) (row : List Invocation)
    (chain : Chain engine session operation row middle) :
    ∃ runs, (engine.perform operation session).2.runs = session.runs ++ runs ∧
      Surfaces host engine.options.imageTool.text row middle runs
        (engine.perform operation session).1 := by
  cases chain with
  | converting source destination preallocate hint mode _ exported chosen =>
      have kept := (chooseCacheMode_outcome engine hint destination session).1
      rw [chosen] at kept
      exact attempt_surfaces wired preallocate _ _ _ _ session middle kept _
        (convert_closes engine source destination preallocate hint session middle mode exported chosen)
  | resizing image size preallocate =>
      exact attempt_surfaces wired preallocate _ _ _ _ session session rfl _
        (resize_closes engine image size preallocate session)
  | creating destination size preallocate =>
      exact attempt_surfaces wired preallocate _ _ _ _ session session rfl _
        (create_closes engine destination size preallocate session)

end VolumeImport.Engine
