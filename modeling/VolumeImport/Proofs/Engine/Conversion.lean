import VolumeImport.Proofs.Engine.Courses
import VolumeImport.Proofs.Engine.Supervision

/-!
What a conversion does before its first run. It asks the prober at most once, and gives up without a trace if
it cannot tell how to write; what it has decided by then stands in the arguments of every run, whatever
method that run tries.
-/

namespace VolumeImport.Engine

variable {α ω : Type}

def Harmless (probe : Prober ω) : Prop :=
  ∀ kind path files world, (probe kind path files world).1.2 = files

/-- What a destination is probed as: as what it leads to, or as a file if nothing is there yet. -/
inductive ProbedAs (destination : Path) (files : FileSystem) : ProbeKind → Prop
  | device (node : Node) (found : files.stat destination = .ok node)
      (device : node.isBlockDevice = true) : ProbedAs destination files .blockDevice
  | file (node : Node) (found : files.stat destination = .ok node)
      (other : node.isBlockDevice = false) : ProbedAs destination files .file
  | new (error : SystemError) (missing : files.stat destination = .error error)
      (kind : error.kind = .notFound) : ProbedAs destination files .file

theorem neededProbe_of_probedAs (destination : Path) (files : FileSystem) (kind : ProbeKind)
    (probed : ProbedAs destination files kind) :
    neededProbe .tryDirect destination files = .ok (some kind) := by
  cases probed with
  | device node found device => simp [neededProbe, found, device]
  | file node found other => simp [neededProbe, found, other]
  | new error missing absent => simp [neededProbe, missing, absent]

theorem neededProbe_of_unclear (destination : Path) (files : FileSystem) (error : SystemError)
    (unclear : files.stat destination = .error error) (other : error.kind ≠ .notFound) :
    neededProbe .tryDirect destination files =
      .error (.io "cannot stat for establishing O_DIRECT support" error) := by
  simp [neededProbe, unclear, other]

theorem probedAs_or_unclear (destination : Path) (files : FileSystem) :
    (∃ kind, ProbedAs destination files kind) ∨
      ∃ error, files.stat destination = .error error ∧ error.kind ≠ .notFound := by
  cases found : files.stat destination with
  | ok node =>
      cases device : node.isBlockDevice with
      | true => exact .inl ⟨_, .device node found device⟩
      | false => exact .inl ⟨_, .file node found device⟩
  | error error =>
      by_cases absent : error.kind = .notFound
      · exact .inl ⟨_, .new error found absent⟩
      · exact .inr ⟨error, rfl, absent⟩

theorem probedAs_unique (destination : Path) (files : FileSystem) (kind other : ProbeKind)
    (probed : ProbedAs destination files kind) (probed_too : ProbedAs destination files other) :
    kind = other := by
  have needed := neededProbe_of_probedAs destination files kind probed
  rw [neededProbe_of_probedAs destination files other probed_too] at needed
  exact (Option.some.inj (Except.ok.inj needed)).symm

theorem clear_of_probedAs (destination : Path) (files : FileSystem) (kind : ProbeKind)
    (probed : ProbedAs destination files kind) (error : SystemError)
    (missing : files.stat destination = .error error) : error.kind = .notFound := by
  cases probed with
  | device node found _ => cases missing.symm.trans found
  | file node found _ => cases missing.symm.trans found
  | new other absent kind =>
      obtain rfl := Except.error.inj (missing.symm.trans absent)
      exact kind

abbrev Question := Option (ProbeKind × Except SystemError Bool)

namespace Question

def events (destination : Path) (question : Question) : List Event :=
  question.toList.map fun asked => .probed asked.1 destination asked.2

def modeName : Question → String
  | some (_, .ok true) => "none"
  | _ => "writeback"

end Question

structure Chooses (answers : ProbeKind → Except SystemError Bool) (destination : Path)
    (hint : CacheHint) (before : FileSystem) (question : Question)
    (result : Except ImportError CacheMode) : Prop where
  asked : ∀ kind answer, question = some (kind, answer) ↔
    hint = .tryDirect ∧ ProbedAs destination before kind ∧ answers kind = answer
  unclear : ∀ error, hint = .tryDirect → before.stat destination = .error error →
    error.kind ≠ .notFound →
      result = .error (.io "cannot stat for establishing O_DIRECT support" error)
  unanswered : ∀ kind error, question = some (kind, .error error) →
    result = .error (.io s!"cannot establish O_DIRECT support for {destination.text}" error)
  chosen : ∀ mode, result = .ok mode → mode.name = question.modeName

def choice (destination : Path) (answer : Except SystemError Bool) : Except ImportError CacheMode :=
  (answer.mapError (.io (probeContext destination))).map fun isDirect =>
    if isDirect then .direct else .writeback

theorem choice_chooses (answers : ProbeKind → Except SystemError Bool) (destination : Path)
    (files : FileSystem) (kind : ProbeKind) (probed : ProbedAs destination files kind) :
    Chooses answers destination .tryDirect files (some (kind, answers kind))
      (choice destination (answers kind)) := by
  constructor
  · intro other answer
    constructor
    · intro same
      obtain ⟨rfl, rfl⟩ := Prod.mk.inj (Option.some.inj same)
      exact ⟨rfl, probed, rfl⟩
    · rintro ⟨-, probed_too, rfl⟩
      rw [probedAs_unique destination files kind other probed probed_too]
  · intro error _ missing other
    exact absurd (clear_of_probedAs destination files kind probed error missing) other
  · intro other error same
    obtain ⟨-, refused⟩ := Prod.mk.inj (Option.some.inj same)
    rw [refused]
    rfl
  · intro mode chosen
    rcases given : answers kind with error | _ | _ <;> rw [given] at chosen <;> cases chosen <;> rfl

def answers (engine : Engine ω) (destination : Path) (session : Session α ω) (kind : ProbeKind) :
    Except SystemError Bool :=
  (engine.probe kind destination session.files session.world).1.1

theorem chooseCacheMode_asks (engine : Engine ω) (hint : CacheHint) (destination : Path)
    (session : Session α ω) (kind : ProbeKind)
    (needed : neededProbe hint destination session.files = .ok (some kind)) :
    engine.chooseCacheMode hint destination session =
      (choice destination (engine.answers destination session kind),
        { session with
          files := (engine.probe kind destination session.files session.world).1.2
          world := (engine.probe kind destination session.files session.world).2
          events := session.events ++
            [.probed kind destination (engine.answers destination session kind)] }) := by
  rcases answered : engine.probe kind destination session.files session.world with
    ⟨⟨answer, files⟩, world⟩
  simp only [chooseCacheMode, needed, askProber, answers, answered]
  cases answer <;> rfl

theorem chooseCacheMode_chooses (engine : Engine ω) (harmless : Harmless engine.probe)
    (hint : CacheHint) (destination : Path) (session : Session α ω) :
    ∃ question : Question,
      (engine.chooseCacheMode hint destination session).2.events =
        session.events ++ question.events destination ∧
      (engine.chooseCacheMode hint destination session).2.files = session.files ∧
      Chooses (engine.answers destination session) destination hint session.files question
        (engine.chooseCacheMode hint destination session).1 := by
  cases hint with
  | writeback =>
      refine ⟨none, (List.append_nil _).symm, rfl, ?_⟩
      constructor <;> simp [chooseCacheMode, neededProbe, Question.modeName, CacheMode.name]
  | tryDirect =>
      rcases probedAs_or_unclear destination session.files with ⟨kind, probed⟩ | ⟨error, missing, other⟩
      · rw [chooseCacheMode_asks engine .tryDirect destination session kind
          (neededProbe_of_probedAs destination session.files kind probed)]
        exact ⟨some (kind, engine.answers destination session kind), rfl, harmless kind _ _ _,
          choice_chooses _ destination session.files kind probed⟩
      · have nothing : ∀ kind, ¬ProbedAs destination session.files kind := fun kind probed =>
          other (clear_of_probedAs destination session.files kind probed error missing)
        refine ⟨none, ?_⟩
        simp only [chooseCacheMode, neededProbe_of_unclear destination session.files error missing other]
        refine ⟨(List.append_nil _).symm, trivial, ?_⟩
        constructor <;> simp +contextual [nothing, missing]

theorem row_flags (engine : Engine ω) (preallocate : Bool) (methods : List Preallocation.Method)
    (hasSink : Bool) (subcommand : String) (rest : List String) (invocation : Invocation)
    (member : invocation ∈
      engine.row preallocate methods .behindSubcommand hasSink (subcommand :: rest)) :
    ∃ flags ∈ [] :: methods, invocation.arguments = subcommand :: (flags ++ rest) := by
  obtain ⟨flags, chosen, rfl⟩ := engine.row_member preallocate methods _ hasSink _ _ member
  exact ⟨flags, chosen, rfl⟩

def ConvertsWith (source : Source) (destination : Path) (mode : String) (arguments : List String) :
    Prop :=
  ∃ flags ∈ [] :: Preallocation.convertMethods, arguments =
    "convert" :: (flags ++ ["-t", mode, "-p", "-O", "raw", source.locator, destination.text])

theorem phase_converts (engine : Engine ω) (source : Source) (destination : Path)
    (preallocate : Bool) (mode : CacheMode) (before after : Session α ω)
    (outcome : Except ToolError Bytes) (runs : List (Invocation × Run))
    (phase : engine.Phase (engine.row preallocate Preallocation.convertMethods .behindSubcommand true
      (Arguments.convert mode source destination)) before after outcome runs) :
    ∀ run ∈ runs, ConvertsWith source destination mode.name run.1.arguments := by
  intro run listed
  exact row_flags engine preallocate _ true "convert" _ run.1 (phase.member run listed)

/-- The source has no scheme, or the one that conversions read from. -/
def Exported (source : Source) : Prop :=
  ∀ scheme, source.scheme = some scheme → scheme = "nbd+unix"

theorem exported_iff (source : Source) :
    Exported source ↔ source.requireScheme [exportScheme] = .ok () := by
  unfold Exported Source.requireScheme exportScheme
  cases source.scheme with
  | none => simp
  | some scheme => by_cases same : scheme = "nbd+unix" <;> simp [same]

/-- What holds around the runs of a conversion, with the question that was put to the prober. -/
structure Prepared (answers : ProbeKind → Except SystemError Bool) (source : Source)
    (destination : Path) (hint : CacheHint) (before : FileSystem) (question : Question)
    (runs : List (Invocation × Run)) (result : Except ImportError Unit) (after : FileSystem) :
    Prop where
  untouched : (∃ scheme, result = .error (.unsupportedScheme scheme)) ∨
    (∃ context error, result = .error (.io context error)) → runs = [] ∧ after = before
  ran : (∃ context cause, result = .error (.tool context cause)) → runs ≠ []
  asked : ∀ kind answer, question = some (kind, answer) ↔
    Exported source ∧ hint = .tryDirect ∧ ProbedAs destination before kind ∧ answers kind = answer
  unclear : ∀ error, Exported source → hint = .tryDirect →
    before.stat destination = .error error → error.kind ≠ .notFound →
      result = .error (.io "cannot stat for establishing O_DIRECT support" error) ∧ runs = []
  unanswered : ∀ kind error, question = some (kind, .error error) →
    result = .error (.io s!"cannot establish O_DIRECT support for {destination.text}" error) ∧
      runs = []
  bound : ∀ run ∈ runs, ConvertsWith source destination question.modeName run.1.arguments

variable {answers : ProbeKind → Except SystemError Bool} {source : Source} {destination : Path}
  {hint : CacheHint} {before after : FileSystem} {question : Question}

theorem prepared_refused (foreign : ¬Exported source) (scheme : String) :
    Prepared answers source destination hint before none [] (.error (.unsupportedScheme scheme))
      before := by
  constructor <;> simp [foreign]

theorem prepared_undecided (exported : Exported source) (error : ImportError)
    (chooses : Chooses answers destination hint before question (.error error))
    (kept : after = before) (failed : ∃ context cause, error = .io context cause) :
    Prepared answers source destination hint before question [] (.error error) after := by
  obtain ⟨context, cause, rfl⟩ := failed
  exact
    { untouched := fun _ => ⟨rfl, kept⟩
      ran := by simp
      asked := fun kind answer => (chooses.asked kind answer).trans (and_iff_right exported).symm
      unclear := fun other _ tried missing unknown =>
        ⟨congrArg _ (Except.error.inj (chooses.unclear other tried missing unknown)), rfl⟩
      unanswered := fun kind other refused =>
        ⟨congrArg _ (Except.error.inj (chooses.unanswered kind other refused)), rfl⟩
      bound := by simp }

theorem prepared_ran (exported : Exported source) (mode : CacheMode)
    (chooses : Chooses answers destination hint before question (.ok mode))
    (runs : List (Invocation × Run)) (ran : runs ≠ []) (result : Except ImportError Unit)
    (ended : ∀ error, result = .error error → ∃ context cause, error = .tool context cause)
    (bound : ∀ run ∈ runs, ConvertsWith source destination mode.name run.1.arguments) :
    Prepared answers source destination hint before question runs result after := by
  refine ⟨?_, fun _ => ran, ?_, ?_, ?_, ?_⟩
  · rintro (⟨scheme, refused⟩ | ⟨context, error, failed⟩)
    · obtain ⟨_, _, tool⟩ := ended _ refused
      cases tool
    · obtain ⟨_, _, tool⟩ := ended _ failed
      cases tool
  · exact fun kind answer => (chooses.asked kind answer).trans (and_iff_right exported).symm
  · intro error _ tried missing other
    cases chooses.unclear error tried missing other
  · intro kind error refused
    cases chooses.unanswered kind error refused
  · rw [← chooses.chosen mode rfl]
    exact bound

theorem convert_prepared (engine : Engine ω) (harmless : Harmless engine.probe)
    (preallocate : Bool) (session : Session α ω) (ended : Except ImportError Unit × Session α ω)
    (course : ConvertCourse engine source destination preallocate hint session ended) :
    ∃ (question : Question) (runs : List (Invocation × Run)),
      ended.2.events = session.events ++ question.events destination ++ runs.map Event.ofRun ∧
      engine.Makes session ended.2 runs ∧
      Prepared (engine.answers destination session) source destination hint session.files question
        runs ended.1 ended.2.files := by
  obtain ⟨question, asked, kept, chooses⟩ :=
    chooseCacheMode_chooses engine harmless hint destination session
  cases course with
  | refused error barred =>
      obtain ⟨scheme, named, other, rfl⟩ := (requireScheme_error_iff source _ error).mp barred
      refine ⟨none, [], by simp [Question.events], engine.makes_nothing session,
        prepared_refused ?_ scheme⟩
      exact fun exported => other (List.mem_singleton.mpr (exported scheme named))
  | undecided error after admitted unclear =>
      have failed := (chooseCacheMode_outcome engine hint destination session).2 error
      have makes := engine.chooseCacheMode_makes hint destination session
      rw [unclear] at asked kept chooses failed makes
      refine ⟨question, [], by simpa using asked, makes, ?_⟩
      exact prepared_undecided ((exported_iff source).mpr admitted) error chooses kept (failed rfl)
  | failed mode middle after cause runs admitted chosen phase =>
      rw [chosen] at asked kept chooses
      refine ⟨question, runs, by rw [← asked]; exact phase.recorded,
        chosen_makes engine hint destination mode session middle after _ _ runs chosen phase _, ?_⟩
      exact prepared_ran ((exported_iff source).mpr admitted) mode chooses runs phase.ran _ (by simp)
        (phase_converts engine source destination preallocate mode _ _ _ runs phase)
  | done mode middle after output runs admitted chosen phase =>
      rw [chosen] at asked kept chooses
      refine ⟨question, runs, by rw [← asked]; exact phase.recorded,
        chosen_makes engine hint destination mode session middle after _ _ runs chosen phase _, ?_⟩
      exact prepared_ran ((exported_iff source).mpr admitted) mode chooses runs phase.ran _ (by simp)
        (phase_converts engine source destination preallocate mode _ _ _ runs phase)

variable [Progress.Percentage α]

/-- Before its first run a conversion only looks: if it is refused or cannot tell how to write, nothing has
changed, and what it did find out is in the arguments of all its runs. -/
theorem conversion_prepared (engine : Engine ω) (harmless : Harmless engine.probe) (source : Source)
    (destination : Path) (preallocate : Bool) (hint : CacheHint) (session : Session α ω) :
    ∃ (question : Question) (runs : List (Invocation × Run)),
      (engine.convert source destination preallocate hint session).2.events =
        session.events ++ question.events destination ++ runs.map Event.ofRun ∧
      engine.Makes session (engine.convert source destination preallocate hint session).2 runs ∧
      Prepared (engine.answers destination session) source destination hint session.files question
        runs (engine.convert source destination preallocate hint session).1
        (engine.convert source destination preallocate hint session).2.files :=
  convert_prepared engine harmless preallocate session _
    (convert_course engine source destination preallocate hint session)

/-- Storage without any preallocation mode: each of the three attempts goes by the answer of the one probe. -/
theorem unbuffered_conversion_prepared :
    let tool := noting (.error (.exited "qemu-img" 1 "" Preallocation.unsupportedText))
    let engine : Engine (List Invocation) := ⟨Options.default, tool, assenting, rfl⟩
    let destination := Path.ofText "volume"
    let files := (FileSystem.empty []).put [destination.bytes] (.file 0o644 [])
    let session : Session Int (List Invocation) := ⟨files, .empty, [], []⟩
    let ended := engine.convert (.localFile (Path.ofText "image")) destination true .tryDirect session
    Harmless engine.probe ∧
      ended.2.world.map Invocation.arguments =
        [["convert", "-o", "preallocation=falloc", "-t", "none", "-p", "-O", "raw", "image", "volume"],
          ["convert", "-o", "preallocation=full", "-t", "none", "-p", "-O", "raw", "image", "volume"],
          ["convert", "-S", "0", "-t", "none", "-p", "-O", "raw", "image", "volume"]] ∧
      ∃ (question : Question) (runs : List (Invocation × Run)),
        ended.2.events = question.events destination ++ runs.map Event.ofRun ∧
        engine.Makes session ended.2 runs ∧
        Prepared (engine.answers destination session) (.localFile (Path.ofText "image")) destination
          .tryDirect files question runs ended.1 ended.2.files := by
  intro tool engine destination files session ended
  have harmless : Harmless engine.probe := fun _ _ _ _ => rfl
  exact ⟨harmless, rfl, conversion_prepared engine harmless _ destination true .tryDirect session⟩

end VolumeImport.Engine
