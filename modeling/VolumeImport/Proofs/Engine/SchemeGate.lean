import VolumeImport.Proofs.Engine.Conversion
import VolumeImport.Proofs.Engine.Validation
import VolumeImport.Proofs.Image.Scheme

/-!
The gate in front of every operation that reads from a source. It goes by the scheme of the locator alone. A
source that does not pass has no effect of any kind, and one that passes comes to the tool under its locator as
it stands.
-/

namespace VolumeImport

/-- An operation that reads from a source, short of the source. -/
inductive Reading where
  | converting (destination : Path) (preallocate : Bool) (hint : CacheHint)
  | inspecting
  | validating (available : Int)

namespace Reading

def of (reading : Reading) (source : Source) : Operation :=
  match reading with
  | .converting destination preallocate hint => .convert source destination preallocate hint
  | .inspecting => .inspect source
  | .validating available => .validate source available

/-- The schemes that pass the gate. A source without a scheme passes too. -/
def schemes : Reading → List String
  | .converting .. => ["nbd+unix"]
  | .inspecting | .validating _ => ["nbd+unix", "file"]

/-- The locator stands among the arguments where the tool looks for its source. -/
def Hands (reading : Reading) (locator : String) (arguments : List String) : Prop :=
  match reading with
  | .converting destination _ _ => ∃ front, arguments = front ++ [locator, destination.text]
  | .inspecting | .validating _ => arguments = ["info", "--output=json", locator]

end Reading

namespace Engine

variable {α ω : Type}

/-- What becomes of an operation behind the gate. A look is one run of the tool, and a conversion comes to the
tool if the file system lets it. -/
structure Passed (engine : Engine ω) (reading : Reading) (locator : String) (before : Session α ω)
    (ended : Answer × Session α ω) : Prop where
  heard : ∀ scheme, ended.1 ≠ .error (.unsupportedScheme scheme)
  handed : ∃ runs, engine.Makes before ended.2 runs ∧
    (∀ run ∈ runs, reading.Hands locator run.1.arguments) ∧
    match reading with
    | .converting .. => runs = [] → ∃ context error, ended.1 = .error (.io context error)
    | .inspecting | .validating _ => runs.length = 1

theorem phase_passed (engine : Engine ω) (source : Source) (destination : Path)
    (preallocate : Bool) (hint : CacheHint) (mode : CacheMode) (before middle after : Session α ω)
    (outcome : Except ToolError Bytes) (runs : List (Invocation × Run))
    (chosen : engine.chooseCacheMode hint destination before = (.ok mode, middle))
    (phase : engine.Phase (engine.row preallocate Preallocation.convertMethods .behindSubcommand true
      (Arguments.convert mode source destination)) middle after outcome runs)
    (answer : Answer) (files : FileSystem)
    (heard : ∀ scheme, answer ≠ .error (.unsupportedScheme scheme)) :
    engine.Passed (.converting destination preallocate hint) source.locator before
      (answer, { after with files }) := by
  refine ⟨heard, runs, ?_, ?_, fun none => absurd none phase.ran⟩
  · exact chosen_makes engine hint destination mode before middle after _ _ runs chosen phase files
  intro run listed
  obtain ⟨flags, -, arguments⟩ :=
    phase_converts engine source destination preallocate mode _ _ _ runs phase run listed
  exact ⟨"convert" :: (flags ++ ["-t", mode.name, "-p", "-O", "raw"]), by simp [arguments]⟩

theorem convert_passed (engine : Engine ω) (source : Source) (destination : Path)
    (preallocate : Bool) (hint : CacheHint) (session : Session α ω)
    (ended : Except ImportError Unit × Session α ω) (exported : Exported source)
    (course : ConvertCourse engine source destination preallocate hint session ended) :
    engine.Passed (.converting destination preallocate hint) source.locator session
      (withoutReport ended) := by
  cases course with
  | refused error barred =>
      rw [(exported_iff source).mp exported] at barred
      cases barred
  | undecided error after admitted unclear =>
      have fails := (chooseCacheMode_outcome engine hint destination session).2
      have makes := engine.chooseCacheMode_makes hint destination session
      rw [unclear] at fails makes
      obtain ⟨context, cause, rfl⟩ := fails error rfl
      exact ⟨by simp [withoutReport, Except.map], [], makes, by simp, fun _ => ⟨context, cause, rfl⟩⟩
  | failed mode middle after cause runs admitted chosen phase =>
      exact phase_passed engine source destination preallocate hint mode session middle after _ runs
        chosen phase _ _ (by simp [Except.map])
  | done mode middle after output runs admitted chosen phase =>
      exact phase_passed engine source destination preallocate hint mode session middle after _ runs
        chosen phase _ after.files (by simp [Except.map])

variable [Progress.Percentage α]

theorem perform_barred (engine : Engine ω) (reading : Reading) (source : Source)
    (session : Session α ω) (scheme : String) (named : source.scheme = some scheme)
    (barred : scheme ∉ reading.schemes) :
    engine.perform (reading.of source) session =
      (.error (.unsupportedScheme scheme), session) := by
  have refused := (requireScheme_error_iff source reading.schemes _).mpr
    ⟨scheme, named, barred, rfl⟩
  cases reading with
  | converting destination preallocate hint =>
      have refused : source.requireScheme [exportScheme] = _ := refused
      simp [Reading.of, perform, convert, refused, withoutReport, Except.map]
  | inspecting =>
      have refused : source.requireScheme [exportScheme, fileScheme] = _ := refused
      simp [Reading.of, perform, inspect, refused, Except.map]
  | validating available =>
      have refused : source.requireScheme [exportScheme, fileScheme] = _ := refused
      simp [Reading.of, perform, validate, inspect, refused, withoutReport, Except.map]

theorem perform_passed (engine : Engine ω) (reading : Reading) (source : Source)
    (session : Session α ω)
    (admitted : ∀ scheme, source.scheme = some scheme → scheme ∈ reading.schemes) :
    engine.Passed reading source.locator session
      (engine.perform (reading.of source) session) := by
  cases reading with
  | converting destination preallocate hint =>
      have exported : Exported source := fun scheme named =>
        List.mem_singleton.mp (admitted scheme named)
      exact convert_passed engine source destination preallocate hint session _ exported
        (convert_course engine source destination preallocate hint session)
  | inspecting =>
      obtain ⟨run, world, made, after, answer⟩ := inspect_admitted engine source session admitted
      have makes := inspection_makes engine source session run world made
      simp only [Reading.of, perform, after]
      refine ⟨fun scheme refused => ?_, _, makes, List.forall_mem_singleton.mpr rfl, rfl⟩
      rw [map_error_iff] at refused
      rw [refused] at answer
      split at answer
      · obtain ⟨_, other⟩ := ImageReport.parse_fails _ _ _ answer.symm
        cases other
      · cases answer
  | validating available =>
      obtain ⟨run, world, made, after, verdict⟩ :=
        validate_admitted engine source available session admitted
      have makes := inspection_makes engine source session run world made
      simp only [Reading.of, perform, withoutReport, after]
      refine ⟨fun scheme refused => ?_, _, makes, List.forall_mem_singleton.mpr rfl, rfl⟩
      rw [map_error_iff] at refused
      rw [refused] at verdict
      cases verdict

/-- A locator has a scheme if its first colon closes one, and the gate goes by that scheme alone: a source that
does not pass is refused under it and leaves everything as it was, so that what stands behind the colon cannot
be told from the refusal. Any other source is handed to the tool as it stands. -/
theorem sources_gated (engine : Engine ω) (reading : Reading) (locator : String)
    (session : Session α ω) :
    (Source.parse locator).locator = locator ∧
    (∀ scheme, (Source.parse locator).scheme = some scheme ↔ Source.Names locator scheme) ∧
    ((∀ scheme, Source.Names locator scheme → scheme ∈ reading.schemes) ↔
      engine.Passed reading locator session
        (engine.perform (reading.of (Source.parse locator)) session)) ∧
    (∀ scheme, Source.Names locator scheme → scheme ∉ reading.schemes →
      engine.perform (reading.of (Source.parse locator)) session =
        (.error (.unsupportedScheme scheme), session)) ∧
    ∀ other scheme, Source.Names locator scheme → Source.Names other scheme →
      scheme ∉ reading.schemes →
        engine.perform (reading.of (Source.parse other)) session =
          engine.perform (reading.of (Source.parse locator)) session := by
  have named := Source.parse_scheme_iff locator
  have refused : ∀ locator scheme, Source.Names locator scheme → scheme ∉ reading.schemes →
      engine.perform (reading.of (Source.parse locator)) session =
        (.error (.unsupportedScheme scheme), session) := fun locator scheme named barred =>
    perform_barred engine reading (Source.parse locator) session scheme
      ((Source.parse_scheme_iff locator scheme).mpr named) barred
  refine ⟨rfl, named, ⟨?_, ?_⟩, refused locator, ?_⟩
  · intro admitted
    exact perform_passed engine reading (Source.parse locator) session
      fun scheme found => admitted scheme ((named scheme).mp found)
  · intro passed scheme found
    by_cases admitted : scheme ∈ reading.schemes
    · exact admitted
    · exact absurd (congrArg Prod.fst (refused locator scheme found admitted)) (passed.heard scheme)
  · intro other scheme found found_too barred
    rw [refused locator scheme found barred, refused other scheme found_too barred]

/-- A scheme in capitals passes, and the tool is handed the locator as it is spelled. Another scheme is refused
in small letters. -/
theorem capitals_pass_gate :
    let engine : Engine (List Invocation) :=
      ⟨Options.default, noting (.error (.exited "qemu-img" 1 "" "boom")), assenting, rfl⟩
    let session : Session Int (List Invocation) := ⟨FileSystem.empty [], .empty, [], []⟩
    (∃ run, (engine.perform (.inspect (.parse "NBD+Unix:///?socket=s")) session).2.runs = [run] ∧
      run.1.arguments = ["info", "--output=json", "NBD+Unix:///?socket=s"]) ∧
    engine.perform (.validate (.parse "FTP://host/disk") 0) session =
      (.error (.unsupportedScheme "ftp"), session) := by
  intro engine session
  have exported : Source.Names "NBD+Unix:///?socket=s" "nbd+unix" :=
    ⟨"NBD+Unix".toList, "///?socket=s".toList, rfl, by decide, (Source.isScheme_iff _).mp rfl, rfl⟩
  have foreign : Source.Names "FTP://host/disk" "ftp" :=
    ⟨"FTP".toList, "//host/disk".toList, rfl, by decide, (Source.isScheme_iff _).mp rfl, rfl⟩
  obtain ⟨-, schemes, passes, -⟩ :=
    sources_gated engine .inspecting "NBD+Unix:///?socket=s" session
  obtain ⟨-, runs, makes, handed, single⟩ := passes.mp (by
    intro scheme named
    obtain rfl := Option.some.inj
      (((schemes _).mpr named).symm.trans ((schemes _).mpr exported))
    decide)
  obtain ⟨run, rfl⟩ := List.length_eq_one_iff.mp single
  obtain ⟨-, -, -, refused, -⟩ := sources_gated engine (.validating 0) "FTP://host/disk" session
  exact ⟨⟨run, makes.recorded, handed run (by simp)⟩, refused "ftp" foreign (by decide)⟩

end Engine

end VolumeImport
