import VolumeImport.Proofs.Engine.Runs

/-!
The courses that the operations with a tool phase can take. Each course names the point at which the
operation ended, the tool phase if it came to one, and the session it left. Later statements on these
operations go through the courses and open no operation again.
-/

namespace VolumeImport.Engine

open Preallocation

variable {α ω : Type}

@[simp] theorem map_error_iff {β γ : Type} (next : β → γ) (result : Except ImportError β)
    (error : ImportError) : result.map next = .error error ↔ result = .error error := by
  cases result <;> simp [Except.map]

theorem requireScheme_error_iff (source : Source) (allowed : List String) (error : ImportError) :
    source.requireScheme allowed = .error error ↔
      ∃ scheme, source.scheme = some scheme ∧ scheme ∉ allowed ∧
        error = .unsupportedScheme scheme := by
  unfold Source.requireScheme
  cases source.scheme with
  | none => simp
  | some scheme => by_cases member : scheme ∈ allowed <;> simp [member, eq_comm]

theorem neededProbe_error (hint : CacheHint) (destination : Path) (files : FileSystem)
    (error : ImportError) (unclear : neededProbe hint destination files = .error error) :
    ∃ context cause, error = .io context cause := by
  cases hint with
  | writeback => cases unclear
  | tryDirect =>
      simp only [neededProbe] at unclear
      split at unclear
      · cases unclear
      · split at unclear <;> cases unclear
        exact ⟨_, _, rfl⟩

theorem askProber_runs (engine : Engine ω) (kind : ProbeKind) (destination : Path)
    (session : Session α ω) :
    (engine.askProber kind destination session).2.runs = session.runs := by
  simp [askProber, Session.runs, Event.run?]

theorem askProber_error (engine : Engine ω) (kind : ProbeKind) (destination : Path)
    (session after : Session α ω) (error : ImportError)
    (unclear : engine.askProber kind destination session = (.error error, after)) :
    ∃ context cause, error = .io context cause := by
  have answer := congrArg Prod.fst unclear
  dsimp only [askProber] at answer
  cases given : (engine.probe kind destination session.files session.world).1.1 with
  | error cause =>
      rw [given] at answer
      cases answer
      exact ⟨_, cause, rfl⟩
  | ok isDirect =>
      rw [given] at answer
      cases answer

theorem chooseCacheMode_outcome (engine : Engine ω) (hint : CacheHint) (destination : Path)
    (session : Session α ω) :
    (engine.chooseCacheMode hint destination session).2.runs = session.runs ∧
      ∀ error, (engine.chooseCacheMode hint destination session).1 = .error error →
        ∃ context cause, error = .io context cause := by
  unfold chooseCacheMode
  split
  · rename_i fault needed
    refine ⟨rfl, fun error unclear => ?_⟩
    obtain rfl : fault = error := by simpa using unclear
    exact neededProbe_error hint destination session.files fault needed
  · exact ⟨rfl, by simp⟩
  · rename_i kind _
    have kept := askProber_runs engine kind destination session
    rcases asked : engine.askProber kind destination session with ⟨fault | isDirect, after⟩
    · rw [asked] at kept
      refine ⟨kept, fun error unclear => ?_⟩
      obtain rfl : fault = error := by simpa using unclear
      exact askProber_error engine kind destination session after fault asked
    · rw [asked] at kept
      exact ⟨kept, by simp⟩

theorem chooseCacheMode_makes (engine : Engine ω) (hint : CacheHint) (destination : Path)
    (session : Session α ω) :
    engine.Makes session (engine.chooseCacheMode hint destination session).2 [] := by
  obtain ⟨events, recorded, unrun, happened⟩ :=
    engine.chooseCacheMode_happens hint destination session
  exact happened.makes _ recorded unrun

theorem chosen_makes (engine : Engine ω) (hint : CacheHint) (destination : Path) (mode : CacheMode)
    (session middle after : Session α ω) (row : List Invocation) (outcome : Except ToolError Bytes)
    (runs : List (Invocation × Run))
    (chosen : engine.chooseCacheMode hint destination session = (.ok mode, middle))
    (phase : engine.Phase row middle after outcome runs) (files : FileSystem) :
    engine.Makes session { after with files } runs := by
  obtain ⟨events, recorded, unrun, happened⟩ :=
    engine.chooseCacheMode_happens hint destination session
  rw [chosen] at recorded happened
  have both : after.events = session.events ++ (events ++ runs.map Event.ofRun) := by
    rw [← List.append_assoc, ← recorded]
    exact phase.recorded
  refine Happens.makes after.files (happened.append phase.happened) both ?_
  rw [List.filterMap_append, unrun, runs_of_ofRun, List.nil_append]

variable [Progress.Percentage α]

inductive ConvertCourse (engine : Engine ω) (source : Source) (destination : Path)
    (preallocate : Bool) (hint : CacheHint) (session : Session α ω) :
    Except ImportError Unit × Session α ω → Prop
  | refused (error : ImportError)
      (barred : source.requireScheme [exportScheme] = .error error) :
      ConvertCourse engine source destination preallocate hint session (.error error, session)
  | undecided (error : ImportError) (after : Session α ω)
      (admitted : source.requireScheme [exportScheme] = .ok ())
      (unclear : engine.chooseCacheMode hint destination session = (.error error, after)) :
      ConvertCourse engine source destination preallocate hint session (.error error, after)
  | failed (mode : CacheMode) (middle after : Session α ω) (cause : ToolError)
      (runs : List (Invocation × Run))
      (admitted : source.requireScheme [exportScheme] = .ok ())
      (chosen : engine.chooseCacheMode hint destination session = (.ok mode, middle))
      (phase : engine.Phase (engine.row preallocate convertMethods .behindSubcommand true
        (Arguments.convert mode source destination)) middle after (.error cause) runs) :
      ConvertCourse engine source destination preallocate hint session
        (.error (.tool (engine.withExportLog "could not convert image to raw"
            (clearDestination after.files destination)) cause),
          { after with files := clearDestination after.files destination })
  | done (mode : CacheMode) (middle after : Session α ω) (output : Bytes)
      (runs : List (Invocation × Run))
      (admitted : source.requireScheme [exportScheme] = .ok ())
      (chosen : engine.chooseCacheMode hint destination session = (.ok mode, middle))
      (phase : engine.Phase (engine.row preallocate convertMethods .behindSubcommand true
        (Arguments.convert mode source destination)) middle after (.ok output) runs) :
      ConvertCourse engine source destination preallocate hint session (.ok (), after)

theorem convert_course (engine : Engine ω) (source : Source) (destination : Path)
    (preallocate : Bool) (hint : CacheHint) (session : Session α ω) :
    ConvertCourse engine source destination preallocate hint session
      (engine.convert source destination preallocate hint session) := by
  unfold convert
  cases admitted : source.requireScheme [exportScheme] with
  | error error => exact .refused error admitted
  | ok _ =>
      rcases chosen : engine.chooseCacheMode hint destination session with ⟨error | mode, middle⟩
      · exact .undecided error middle admitted chosen
      · obtain ⟨runs, phase⟩ := attempt_phase engine preallocate convertMethods .behindSubcommand
          true (Arguments.convert mode source destination) middle
        dsimp only
        rcases made : engine.attempt preallocate convertMethods .behindSubcommand true
          (Arguments.convert mode source destination) middle with ⟨cause | output, after⟩
        · rw [made] at phase
          exact .failed mode middle after cause runs admitted chosen phase
        · rw [made] at phase
          exact .done mode middle after output runs admitted chosen phase

inductive ResizeCourse (engine : Engine ω) (image : Path) (size : Quantity) (preallocate : Bool)
    (session : Session α ω) : Except ImportError Unit × Session α ω → Prop
  | failed (after : Session α ω) (cause : ToolError) (runs : List (Invocation × Run))
      (phase : engine.Phase (engine.row preallocate resizeMethods .behindSubcommand false
        (Arguments.resize image size)) session after (.error cause) runs) :
      ResizeCourse engine image size preallocate session
        (.error (.tool s!"Error resizing image {image.text}" cause), after)
  | done (after : Session α ω) (output : Bytes) (runs : List (Invocation × Run))
      (phase : engine.Phase (engine.row preallocate resizeMethods .behindSubcommand false
        (Arguments.resize image size)) session after (.ok output) runs) :
      ResizeCourse engine image size preallocate session (.ok (), after)

theorem resize_course (engine : Engine ω) (image : Path) (size : Quantity) (preallocate : Bool)
    (session : Session α ω) :
    ResizeCourse engine image size preallocate session
      (engine.resize image size preallocate session) := by
  obtain ⟨runs, phase⟩ := attempt_phase engine preallocate resizeMethods .behindSubcommand false
    (Arguments.resize image size) session
  unfold resize
  rcases made : engine.attempt preallocate resizeMethods .behindSubcommand false
    (Arguments.resize image size) session with ⟨cause | output, after⟩
  · rw [made] at phase
    exact .failed after cause runs phase
  · rw [made] at phase
    exact .done after output runs phase

inductive CreateCourse (engine : Engine ω) (destination : Path) (size : Quantity)
    (preallocate : Bool) (session : Session α ω) : Except ImportError Unit × Session α ω → Prop
  | failed (after : Session α ω) (cause : ToolError) (runs : List (Invocation × Run))
      (phase : engine.Phase (engine.row preallocate createMethods .atEnd false
        (Arguments.create destination size)) session after (.error cause) runs) :
      CreateCourse engine destination size preallocate session
        (.error (.tool
            s!"could not create raw image with size {size.text} in {destination.text}" cause),
          { after with files := clearDestination after.files destination })
  | unprotected (after : Session α ω) (output : Bytes) (error : SystemError)
      (runs : List (Invocation × Run))
      (phase : engine.Phase (engine.row preallocate createMethods .atEnd false
        (Arguments.create destination size)) session after (.ok output) runs)
      (refused : after.files.chmod destination newImageMode = .error error) :
      CreateCourse engine destination size preallocate session
        (.error (.io "Unable to change permissions of target file" error),
          { after with files := clearDestination after.files destination })
  | done (after : Session α ω) (output : Bytes) (files : FileSystem)
      (runs : List (Invocation × Run))
      (phase : engine.Phase (engine.row preallocate createMethods .atEnd false
        (Arguments.create destination size)) session after (.ok output) runs)
      (changed : after.files.chmod destination newImageMode = .ok files) :
      CreateCourse engine destination size preallocate session (.ok (), { after with files })

theorem create_course (engine : Engine ω) (destination : Path) (size : Quantity)
    (preallocate : Bool) (session : Session α ω) :
    CreateCourse engine destination size preallocate session
      (engine.create destination size preallocate session) := by
  obtain ⟨runs, phase⟩ := attempt_phase engine preallocate createMethods .atEnd false
    (Arguments.create destination size) session
  unfold create
  rcases made : engine.attempt preallocate createMethods .atEnd false
    (Arguments.create destination size) session with ⟨cause | output, after⟩
  · rw [made] at phase
    exact .failed after cause runs phase
  · rw [made] at phase
    dsimp only
    cases changed : after.files.chmod destination newImageMode with
    | error error => exact .unprotected after output error runs phase changed
    | ok files => exact .done after output files runs phase changed

end VolumeImport.Engine
