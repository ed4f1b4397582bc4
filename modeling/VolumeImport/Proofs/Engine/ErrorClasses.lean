import VolumeImport.Proofs.Engine.Attempts
import VolumeImport.Proofs.Engine.Validation

/-!
The classes of errors, followed from the end of a program to the answer of the operation that started it. An
engine whose tools run under the guard answers with a limit only if a look into an image overran it, and with
a lack of room only if a look into an image succeeded. All other runs are unlimited, and where they are a
row of attempts, the first failure that is not about the mode is the answer.
-/

namespace VolumeImport

open Guard (comesTo start)

def Operation.inspected : Operation → Option Source
  | .inspect source | .validate source _ => some source
  | _ => none

namespace ImportError

def IsPlain (error : ImportError) : Prop :=
  error.isResourceLimit = false ∧ error.isLargerVolumeRequired = false

theorem isPlain_tool (context : String) (cause : ToolError)
    (within : cause.isLimitExceeded = false) : IsPlain (.tool context cause) :=
  ⟨within, rfl⟩

theorem isPlain_io (context : String) (cause : SystemError) : IsPlain (.io context cause) :=
  ⟨rfl, rfl⟩

theorem isPlain_unsupportedScheme (scheme : String) : IsPlain (.unsupportedScheme scheme) :=
  ⟨rfl, rfl⟩

theorem classes_disjoint (error : ImportError) :
    ¬(error.isResourceLimit = true ∧ error.isLargerVolumeRequired = true) := by
  rintro ⟨limit, larger⟩
  cases error with
  | largerVolumeRequired needed room => cases limit
  | _ => cases larger

theorem resourceLimit_iff {β : Type} (answer : Except ImportError β) :
    (∃ error, answer = .error error ∧ error.isResourceLimit = true) ↔
      ∃ cause, (∃ context, answer = .error (.tool context cause)) ∧
        cause.isLimitExceeded = true := by
  constructor
  · rintro ⟨error, failed, limit⟩
    cases error with
    | tool context cause => exact ⟨cause, ⟨context, failed⟩, limit⟩
    | _ => cases limit
  · rintro ⟨cause, ⟨context, failed⟩, exceeded⟩
    exact ⟨_, failed, exceeded⟩

@[simp] theorem largerVolumeRequired_iff {β : Type} (answer : Except ImportError β) :
    (∃ error, answer = .error error ∧ error.isLargerVolumeRequired = true) ↔
      ∃ needed room, answer = .error (.largerVolumeRequired needed room) := by
  constructor
  · rintro ⟨error, failed, larger⟩
    cases error with
    | largerVolumeRequired needed room => exact ⟨needed, room, failed⟩
    | _ => cases larger
  · rintro ⟨needed, room, failed⟩
    exact ⟨_, failed, rfl⟩

end ImportError

namespace Engine

open ImportError

variable {α ω : Type} {engine : Engine ω} {host : Guard.Host ω}

/-- The program that looked into the source was killed in the name of one of the limits it ran under. Both its
pipes held out, as otherwise the one that broke is reported. -/
def Overruns (engine : Engine ω) (host : Guard.Host ω) (source : Source) (session : Session α ω) :
    Prop :=
  Admitted source ∧ ∃ child left after signal,
    host (engine.inspection source) session.files session.world = (.ok (child, left), after) ∧
    child.failure = none ∧ child.ending = .killed signal ∧
    Guard.Enforces (some engine.options.inspectionLimits) signal

/-- The program that looked into the source ended well and reported an image that can be imported, if only into
a larger volume. -/
def Outgrows (engine : Engine ω) (host : Guard.Host ω) (source : Source) (available : Int)
    (session : Session α ω) : Prop :=
  Admitted source ∧ ∃ child left after report,
    host (engine.inspection source) session.files session.world = (.ok (child, left), after) ∧
    child.failure = none ∧ child.ending = .exited 0 ∧
    ImageReport.Describes (Collector.transmitted child.stdout).bytes report ∧
    report.HasKnownFormat ∧ (∀ path, ¬report.Misses left path) ∧ available < report.virtualSize

theorem look_exceeds_iff (wired : engine.run = Guard.runner host) (source : Source)
    (session : Session α ω) (run : Run) (after : ω) (admitted : Admitted source)
    (made : engine.run (engine.inspection source) session.files session.world = (run, after)) :
    (∃ cause, run.outcome = .error cause ∧ cause.isLimitExceeded = true) ↔
      engine.Overruns host source session := by
  have outcome := Guard.runner_outcome host (engine.inspection source) session.files session.world
  rw [← wired, made] at outcome
  rw [outcome, Guard.exceeded_iff]
  simp only [Guard.start_ok_iff, Overruns, admitted, true_and]
  constructor
  · rintro ⟨child, signal, ⟨left, world, started⟩, rest⟩
    exact ⟨child, left, world, signal, started, rest⟩
  · rintro ⟨child, left, world, signal, started, rest⟩
    exact ⟨child, signal, ⟨left, world, started⟩, rest⟩

theorem look_outgrows_iff (wired : engine.run = Guard.runner host) (source : Source)
    (available : Int) (session : Session α ω) (run : Run) (after : ω) (admitted : Admitted source)
    (made : engine.run (engine.inspection source) session.files session.world = (run, after)) :
    (∃ report, Reported run report ∧ report.HasKnownFormat ∧
        (∀ path, ¬report.Misses run.files path) ∧ available < report.virtualSize) ↔
      engine.Outgrows host source available session := by
  rw [wired] at made
  obtain rfl := congrArg Prod.fst made
  have outcome := Guard.runner_outcome host (engine.inspection source) session.files session.world
  constructor
  · rintro ⟨report, ⟨output, printed, described⟩, known, backed, short⟩
    obtain ⟨child, started, legible, ending, rfl⟩ :=
      (Guard.succeeded_iff _ _ _ output).mp (outcome.symm.trans printed)
    obtain ⟨left, world, begun⟩ := (Guard.start_ok_iff host _ _ _ child).mp started
    rw [Guard.runner_files host _ _ left _ world child begun] at backed
    exact ⟨admitted, child, left, world, report, begun, legible, ending, described, known, backed,
      short⟩
  · rintro ⟨-, child, left, world, report, begun, legible, ending, described, known, backed, short⟩
    have started := (Guard.start_ok_iff host _ _ _ child).mpr ⟨left, world, begun⟩
    refine ⟨report, ⟨_, ?_, described⟩, known, ?_, short⟩
    · exact outcome.trans ((Guard.succeeded_iff _ _ _ _).mpr ⟨child, started, legible, ending, rfl⟩)
    · rwa [Guard.runner_files host _ _ left _ world child begun]

variable [Progress.Percentage α]

theorem attempt_unlimited (wired : engine.run = Guard.runner host) (preallocate : Bool)
    (methods : List Preallocation.Method) (placement : Preallocation.Placement) (hasSink : Bool)
    (arguments : List String) (session : Session α ω) (cause : ToolError)
    (failed : (engine.attempt preallocate methods placement hasSink arguments session).1 =
      .error cause) : cause.isLimitExceeded = false := by
  obtain ⟨runs, phase, reported⟩ :=
    attempt_started wired preallocate methods placement hasSink arguments session
  obtain ⟨last, listed, made, -⟩ := phase.last
  have outcome := List.mem_map_of_mem (f := (·.2.outcome)) (List.mem_of_getLast? listed)
  rw [reported, made, failed] at outcome
  obtain ⟨started, -, came⟩ := List.mem_map.mp outcome
  exact Guard.comesTo_unlimited _ started cause came

theorem Closes.isPlain {preallocate : Bool} {methods : List Preallocation.Method}
    {placement : Preallocation.Placement} {hasSink : Bool} {arguments : List String}
    {session : Session α ω} {ended : Except ImportError Unit × Session α ω}
    (wired : engine.run = Guard.runner host)
    (closes : Closes (engine.attempt preallocate methods placement hasSink arguments session) ended)
    (error : ImportError) (failed : ended.1 = .error error) : error.IsPlain := by
  rcases closes.failures error failed with ⟨context, cause, rfl, reported⟩ | ⟨context, cause, rfl⟩
  · exact isPlain_tool context cause
      (attempt_unlimited wired preallocate methods placement hasSink arguments session cause reported)
  · exact isPlain_io context cause

theorem convert_isPlain (wired : engine.run = Guard.runner host) (source : Source)
    (destination : Path) (preallocate : Bool) (hint : CacheHint) (session : Session α ω)
    (error : ImportError)
    (failed : (engine.convert source destination preallocate hint session).1 = .error error) :
    error.IsPlain := by
  cases admitted : source.requireScheme [exportScheme] with
  | error refusal =>
      obtain ⟨scheme, -, -, rfl⟩ := (requireScheme_error_iff source _ refusal).mp admitted
      rw [convert, admitted] at failed
      obtain rfl := Except.error.inj failed
      exact isPlain_unsupportedScheme scheme
  | ok _ =>
      rcases chosen : engine.chooseCacheMode hint destination session with ⟨fault | mode, middle⟩
      · have unclear := (chooseCacheMode_outcome engine hint destination session).2 fault
        rw [chosen] at unclear
        obtain ⟨context, cause, rfl⟩ := unclear rfl
        simp only [convert, admitted, chosen] at failed
        obtain rfl := Except.error.inj failed
        exact isPlain_io context cause
      · exact (convert_closes engine source destination preallocate hint session middle mode
          ((exported_iff source).mpr admitted) chosen).isPlain wired error failed

theorem inContext_isPlain (wired : engine.run = Guard.runner host) (context : String)
    (invocation : Invocation) (unlimited : invocation.limits = none) (session : Session α ω)
    (error : ImportError)
    (failed : inContext context (engine.runTool invocation session).1 = .error error) :
    error.IsPlain := by
  rw [runTool_comesTo wired, unlimited] at failed
  cases reported : comesTo invocation.program none
      (start host invocation session.files session.world) with
  | ok output =>
      rw [reported] at failed
      cases failed
  | error cause =>
      rw [reported] at failed
      obtain rfl := Except.error.inj failed
      exact isPlain_tool context cause (Guard.comesTo_unlimited _ _ cause reported)

theorem sweepOnce_isPlain (wired : engine.run = Guard.runner host) (destination : Path)
    (sweep : Zeroing.Sweep) (session : Session α ω) (error : ImportError)
    (failed : (engine.sweepOnce destination sweep session).1 = .error error) : error.IsPlain := by
  unfold sweepOnce at failed
  rcases asked : engine.askProber .blockDevice destination session with ⟨fault | direct, after⟩
  · obtain ⟨context, cause, rfl⟩ := askProber_error engine .blockDevice destination session after
      fault asked
    rw [asked] at failed
    obtain rfl := Except.error.inj failed
    exact isPlain_io context cause
  · rw [asked] at failed
    exact inContext_isPlain wired _
      (engine.zeroInvocation (Zeroing.arguments destination sweep direct)) rfl after error failed

theorem sweepAll_isPlain (wired : engine.run = Guard.runner host) (destination : Path)
    (sweeps : List Zeroing.Sweep) (session : Session α ω) (error : ImportError)
    (failed : (engine.sweepAll destination sweeps session).1 = .error error) : error.IsPlain := by
  induction sweeps generalizing session with
  | nil => cases failed
  | cons sweep rest ih =>
      rcases once : engine.sweepOnce destination sweep session with ⟨fault | _, after⟩
      · simp only [sweepAll, once] at failed
        obtain rfl := Except.error.inj failed
        exact sweepOnce_isPlain wired destination sweep session fault (by rw [once])
      · simp only [sweepAll, once] at failed
        exact ih after failed

theorem zeroDevice_isPlain (wired : engine.run = Guard.runner host) (destination : Path)
    (size : Quantity) (session : Session α ω) (error : ImportError)
    (failed : (engine.zeroDevice destination size session).1 = .error error) : error.IsPlain := by
  unfold zeroDevice Quantity.byteCount at failed
  split at failed <;> rename_i counted <;> split at counted <;> cases counted
  · obtain rfl := Except.error.inj failed
    exact ⟨rfl, rfl⟩
  · exact sweepAll_isPlain wired destination _ session error failed

theorem perform_isPlain (wired : engine.run = Guard.runner host) (operation : Operation)
    (session : Session α ω) (elsewhere : operation.inspected = none) (error : ImportError)
    (failed : (engine.perform operation session).1 = .error error) : error.IsPlain := by
  cases operation with
  | convert source destination preallocate hint =>
      exact convert_isPlain wired source destination preallocate hint session error
        ((map_error_iff _ _ error).mp failed)
  | resize image size preallocate =>
      exact (resize_closes engine image size preallocate session).isPlain wired error
        ((map_error_iff _ _ error).mp failed)
  | create destination size preallocate =>
      exact (create_closes engine destination size preallocate session).isPlain wired error
        ((map_error_iff _ _ error).mp failed)
  | rebase backingFile delta =>
      exact inContext_isPlain wired _
        (engine.imageInvocation none true (Arguments.rebase backingFile delta)) rfl session error
        ((map_error_iff _ _ error).mp failed)
  | commit image =>
      exact inContext_isPlain wired _
        (engine.imageInvocation none true (Arguments.commit image)) rfl session error
        ((map_error_iff _ _ error).mp failed)
  | zeroDevice destination size =>
      exact zeroDevice_isPlain wired destination size session error
        ((map_error_iff _ _ error).mp failed)
  | inspect source => cases elsewhere
  | validate source available => cases elsewhere

theorem inspect_failed_iff (engine : Engine ω) (source : Source) (session : Session α ω)
    (admitted : Admitted source) :
    ∃ run after, engine.run (engine.inspection source) session.files session.world = (run, after) ∧
      ∀ cause, (∃ context, (engine.inspect source session).1 = .error (.tool context cause)) ↔
        run.outcome = .error cause := by
  obtain ⟨run, after, made, -, answer⟩ := inspect_admitted engine source session admitted
  refine ⟨run, after, made, fun cause => ?_⟩
  cases outcome : run.outcome with
  | error reported =>
      rw [outcome] at answer
      simp [answer]
  | ok output =>
      rw [outcome] at answer
      simp only [answer, reduceCtorEq, iff_false]
      rintro ⟨context, failed⟩
      obtain ⟨_, other⟩ := ImageReport.parse_fails output source.locator _ failed
      cases other

theorem inspect_not_larger (engine : Engine ω) (source : Source) (session : Session α ω)
    (needed room : Int) :
    (engine.inspect source session).1 ≠ .error (.largerVolumeRequired needed room) := by
  intro larger
  by_cases admitted : Admitted source
  · obtain ⟨run, after, -, -, answer⟩ := inspect_admitted engine source session admitted
    rw [larger] at answer
    split at answer
    · obtain ⟨_, other⟩ := ImageReport.parse_fails _ source.locator _ answer.symm
      cases other
    · cases answer
  · obtain ⟨scheme, refused⟩ := inspect_refused engine source session admitted
    rw [refused] at larger
    cases larger

theorem inspect_limit_iff (wired : engine.run = Guard.runner host) (source : Source)
    (session : Session α ω) :
    (∃ error, (engine.inspect source session).1 = .error error ∧ error.isResourceLimit = true) ↔
      engine.Overruns host source session := by
  by_cases admitted : Admitted source
  · obtain ⟨run, after, made, failed⟩ := inspect_failed_iff engine source session admitted
    rw [resourceLimit_iff, ← look_exceeds_iff wired source session run after admitted made]
    simp only [failed]
  · obtain ⟨scheme, refused⟩ := inspect_refused engine source session admitted
    simp [refused, Overruns, admitted, isResourceLimit]

theorem validate_limit_iff (wired : engine.run = Guard.runner host) (source : Source)
    (available : Int) (session : Session α ω) :
    (∃ error, (engine.validate source available session).1 = .error error ∧
        error.isResourceLimit = true) ↔ engine.Overruns host source session := by
  by_cases admitted : Admitted source
  · obtain ⟨run, after, made, -, verdict⟩ :=
      validate_admitted engine source available session admitted
    have decides := verdict_decides source available run _ verdict
    rw [resourceLimit_iff, ← look_exceeds_iff wired source session run after admitted made]
    simp only [decides.failed]
  · obtain ⟨scheme, refused⟩ := inspect_refused engine source session admitted
    simp [validate, refused, Overruns, admitted, isResourceLimit]

theorem validate_larger_iff (wired : engine.run = Guard.runner host) (source : Source)
    (available : Int) (session : Session α ω) :
    (∃ error, (engine.validate source available session).1 = .error error ∧
        error.isLargerVolumeRequired = true) ↔
      engine.Outgrows host source available session := by
  by_cases admitted : Admitted source
  · obtain ⟨run, after, made, -, verdict⟩ :=
      validate_admitted engine source available session admitted
    have decides := verdict_decides source available run _ verdict
    rw [largerVolumeRequired_iff,
      ← look_outgrows_iff wired source available session run after admitted made]
    simp only [decides.small]
    constructor
    · rintro ⟨needed, room, report, reported, known, backed, short, -, -⟩
      exact ⟨report, reported, known, backed, short⟩
    · rintro ⟨report, reported, known, backed, short⟩
      exact ⟨_, _, report, reported, known, backed, short, rfl, rfl⟩
  · obtain ⟨scheme, refused⟩ := inspect_refused engine source session admitted
    simp [validate, refused, Outgrows, admitted, isLargerVolumeRequired]

theorem perform_limit_iff (wired : engine.run = Guard.runner host) (operation : Operation)
    (session : Session α ω) :
    (∃ error, (engine.perform operation session).1 = .error error ∧
        error.isResourceLimit = true) ↔
      ∃ source, operation.inspected = some source ∧ engine.Overruns host source session := by
  cases looks : operation.inspected with
  | none =>
      simp only [reduceCtorEq, false_and, exists_false, iff_false]
      rintro ⟨error, failed, limit⟩
      have plain := perform_isPlain wired operation session looks error failed
      rw [plain.1] at limit
      cases limit
  | some source =>
      simp only [Option.some.injEq, exists_eq_left']
      cases operation with
      | inspect other =>
          obtain rfl := Option.some.inj looks
          simpa only [perform, map_error_iff] using inspect_limit_iff wired other session
      | validate other available =>
          obtain rfl := Option.some.inj looks
          simpa only [perform, withoutReport, map_error_iff] using
            validate_limit_iff wired other available session
      | _ => cases looks

theorem perform_larger_iff (wired : engine.run = Guard.runner host) (operation : Operation)
    (session : Session α ω) :
    (∃ error, (engine.perform operation session).1 = .error error ∧
        error.isLargerVolumeRequired = true) ↔
      ∃ source available, operation = .validate source available ∧
        engine.Outgrows host source available session := by
  cases looks : operation.inspected with
  | none =>
      constructor
      · rintro ⟨error, failed, larger⟩
        have plain := perform_isPlain wired operation session looks error failed
        rw [plain.2] at larger
        cases larger
      · rintro ⟨source, available, rfl, -⟩
        cases looks
  | some source =>
      cases operation with
      | inspect other =>
          have never := inspect_not_larger engine other session
          simp only [perform, map_error_iff, largerVolumeRequired_iff, never, exists_false,
            reduceCtorEq, false_and]
      | validate other available =>
          simpa [perform, withoutReport] using
            validate_larger_iff wired other available session
      | _ => cases looks

/-- Behind the guard the class of an error tells what happened to the program: a limit is one that a look into
an image ran into, a lack of room is one that such a look established, and no error is both. Where attempts
follow one another, a failure that is not about the mode is answered with as it is. -/
theorem error_classes_told_apart (engine : Engine ω) (host : Guard.Host ω)
    (wired : engine.run = Guard.runner host) (operation : Operation) (session : Session α ω) :
    ((∃ error, (engine.perform operation session).1 = .error error ∧
        error.isResourceLimit = true) ↔
      ∃ source, operation.inspected = some source ∧ engine.Overruns host source session) ∧
    ((∃ error, (engine.perform operation session).1 = .error error ∧
        error.isLargerVolumeRequired = true) ↔
      ∃ source available, operation = .validate source available ∧
        engine.Outgrows host source available session) ∧
    (∀ error, (engine.perform operation session).1 = .error error →
      ¬(error.isResourceLimit = true ∧ error.isLargerVolumeRequired = true)) ∧
    ∀ row middle, Chain engine session operation row middle →
      ∃ runs, (engine.perform operation session).2.runs = session.runs ++ runs ∧
        Surfaces host engine.options.imageTool.text row middle runs
          (engine.perform operation session).1 :=
  ⟨perform_limit_iff wired operation session, perform_larger_iff wired operation session,
    fun error _ => classes_disjoint error,
    fun row middle chain => chain_surfaces wired operation session middle row chain⟩

def scripted : Guard.Host (List Guard.Start)
  | _, _, [] => (.error (.call .noEntry), [])
  | _, _, .error error :: rest => (.error error, rest)
  | _, files, .ok child :: rest => (.ok (child, files), rest)

/-- SIGKILL overruns a look, and ends a row of attempts behind one that lacks the mode. -/
theorem killed_programs_told_apart :
    let killed : Guard.Child := ⟨[], [], .killed 9⟩
    let lacking : Guard.Child :=
      ⟨[], [.chunk (Utf8.encode Preallocation.unsupportedText)], .exited 1⟩
    let engine : Engine (List Guard.Start) :=
      ⟨Options.default, Guard.runner scripted, fun _ _ files rest => ((.ok true, files), rest), rfl⟩
    let image := Path.ofText "image"
    let look : Session Int (List Guard.Start) := ⟨FileSystem.empty [], .empty, [.ok killed], []⟩
    let growth : Session Int (List Guard.Start) :=
      { look with world := [.ok lacking, .ok killed, .ok lacking] }
    let resize := Operation.resize image (Quantity.ofBytes 512) true
    (∃ error, (engine.perform (.inspect (.localFile image)) look).1 = .error error ∧
        error.isResourceLimit = true) ∧
      (engine.perform resize growth).1 =
        .error (.tool "Error resizing image image" (.killed "qemu-img" 9)) ∧
      ∃ row runs, Chain engine growth resize row growth ∧
        (engine.perform resize growth).2.runs = runs ∧ runs.length = 2 ∧
        Surfaces scripted "qemu-img" row growth runs (engine.perform resize growth).1 := by
  intro killed lacking engine image look growth resize
  have overruns : engine.Overruns scripted (.localFile image) look :=
    ⟨nofun, killed, look.files, [], 9, rfl, rfl, rfl, Limits.untrustedImage, rfl, .inl ⟨rfl, .inr rfl⟩⟩
  have chain : Chain engine growth resize _ growth :=
    .resizing image (Quantity.ofBytes 512) true
  obtain ⟨runs, recorded, surfaces⟩ :=
    (error_classes_told_apart engine scripted rfl resize growth).2.2.2 _ growth chain
  have all : (engine.perform resize growth).2.runs = runs := recorded
  refine ⟨?_, rfl, _, runs, chain, all, ?_, surfaces⟩
  · exact (error_classes_told_apart engine scripted rfl (.inspect (.localFile image)) look).1.mpr
      ⟨_, rfl, overruns⟩
  · rw [← all]
    rfl

end Engine

end VolumeImport
