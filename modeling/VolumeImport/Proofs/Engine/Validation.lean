import VolumeImport.Double.Script
import VolumeImport.Proofs.Engine.Courses
import VolumeImport.Proofs.Image.Documents

/-!
The import policy. Which of its outcomes a validation has is decided by the scheme of the source, the one run
of the image tool, the document this run printed, the backing file that the document declares, and last of
all the room that is available.
-/

namespace VolumeImport

namespace ImageReport

def Misses (report : ImageReport) (files : FileSystem) (path : Path) : Prop :=
  report.backingFile = some path ∧ ∃ error, files.stat path = .error error

/-- The names under which images are imported. -/
def IsImported (name : String) : Prop :=
  name ∈ ["raw", "qcow2", "vmdk", "vdi", "vpc", "vhdx"]

def HasKnownFormat (report : ImageReport) : Prop :=
  ∃ name, Declares name report.format ∧ IsImported name

theorem isSupported_iff (name : String) (format : DiskFormat) (declared : Declares name format) :
    format.isSupported = true ↔ IsImported name := by
  rw [← declared.name]
  exact List.contains_iff_mem

theorem isPresent_eq_false_iff (files : FileSystem) (path : Path) :
    files.isPresent path = false ↔ ∃ error, files.stat path = .error error := by
  unfold FileSystem.isPresent
  cases files.stat path <;> simp

theorem misses_iff (report : ImageReport) (files : FileSystem) (path : Path) :
    report.backingFile.filter (!files.isPresent ·) = some path ↔ report.Misses files path := by
  rw [Option.filter_eq_some_iff, Misses, ← isPresent_eq_false_iff files path, Bool.not_eq_true']

end ImageReport

variable {α ω : Type}

def Session.ran (session : Session α ω) (invocation : Invocation) (run : Run) (world : ω) :
    Session α ω :=
  { session with files := run.files, world, events := session.events ++ [.ran invocation run] }

namespace Engine

open ImageReport

def Admitted (source : Source) : Prop :=
  ∀ scheme, source.scheme = some scheme → scheme ∈ ["nbd+unix", "file"]

def Reported (run : Run) (report : ImageReport) : Prop :=
  ∃ output, run.outcome = .ok output ∧ Describes output report

def Unreadable (run : Run) (output : Bytes) : Prop :=
  run.outcome = .ok output ∧ ∀ report, ¬Describes output report

/-- How a validation ends, by the first rule that does not hold. -/
inductive Verdict (source : Source) (available : Int) (run : Run) : Except ImportError Unit → Prop
  | failed (context : String) (cause : ToolError) (outcome : run.outcome = .error cause) :
      Verdict source available run (.error (.tool context cause))
  | unreadable (output : Bytes) (fault : Json.Fault) (nothing : Unreadable run output) :
      Verdict source available run
        (.error (.invalidImageInfo source.locator (Utf8.decodeLossy output) fault))
  | unsupported (report : ImageReport) (name : String) (reported : Reported run report)
      (declared : Declares name report.format) (unknown : ¬IsImported name) :
      Verdict source available run (.error (.unsupportedFormat name source.locator))
  | baseless (report : ImageReport) (path : Path) (reported : Reported run report)
      (known : report.HasKnownFormat) (missing : report.Misses run.files path) :
      Verdict source available run (.error (.invalidBackingFile source.locator path.text))
  | small (report : ImageReport) (reported : Reported run report) (known : report.HasKnownFormat)
      (backed : ∀ path, ¬report.Misses run.files path) (short : available < report.virtualSize) :
      Verdict source available run
        (.error (.largerVolumeRequired report.virtualSize available))
  | accepted (report : ImageReport) (reported : Reported run report)
      (known : report.HasKnownFormat) (backed : ∀ path, ¬report.Misses run.files path)
      (roomy : report.virtualSize ≤ available) : Verdict source available run (.ok ())

theorem checkPolicy_verdict (source : Source) (available : Int) (run : Run) (report : ImageReport)
    (reported : Reported run report) :
    Verdict source available run
      (report.checkPolicy available source.locator run.files) := by
  obtain ⟨name, declared⟩ : ∃ name, Declares name report.format := by
    obtain ⟨output, -, described⟩ := reported
    exact describes_declares output report described
  unfold checkPolicy
  by_cases known : report.format.isSupported = true
  · have listed : report.HasKnownFormat :=
      ⟨name, declared, (isSupported_iff name _ declared).mp known⟩
    simp only [known, Bool.not_true, Bool.false_eq_true, if_false]
    cases backing : report.backingFile.filter (!run.files.isPresent ·) with
    | some path =>
        exact .baseless report path reported listed ((report.misses_iff run.files path).mp backing)
    | none =>
        have backed : ∀ path, ¬report.Misses run.files path := by
          intro path missing
          rw [(report.misses_iff run.files path).mpr missing] at backing
          cases backing
        by_cases short : available < report.virtualSize
        · simpa only [short, if_true] using .small report reported listed backed short
        · simpa only [short, if_false] using .accepted report reported listed backed (Int.not_lt.mp short)
  · have unknown : ¬IsImported name := by
      rwa [← isSupported_iff name _ declared]
    simpa [known, declared.name] using .unsupported report name reported declared unknown

theorem admitted_iff (source : Source) :
    Admitted source ↔ source.requireScheme [exportScheme, fileScheme] = .ok () := by
  have schemes : [exportScheme, fileScheme] = ["nbd+unix", "file"] := rfl
  rw [Admitted, Source.requireScheme, schemes]
  cases source.scheme with
  | none => simp
  | some scheme => by_cases listed : scheme ∈ ["nbd+unix", "file"] <;> simp_all

def lookContext (engine : Engine ω) (source : Source) (files : FileSystem) : String :=
  if source.isExport then
    engine.withExportLog s!"could not read image info for {source.locator}" files
  else s!"could not read image info for {source.locator}"

def inspection (engine : Engine ω) (source : Source) : Invocation :=
  engine.imageInvocation (some engine.options.inspectionLimits) false (Arguments.inspect source)

theorem inspection_makes (engine : Engine ω) (source : Source) (session : Session α ω) (run : Run)
    (world : ω)
    (made : engine.run (engine.inspection source) session.files session.world = (run, world)) :
    engine.Makes session (session.ran (engine.inspection source) run world)
      [(engine.inspection source, run)] := by
  have happened : engine.Happens session.state
      [.ran (engine.inspection source) (engine.run (engine.inspection source) session.files
        session.world).1] _ := .ran _ _ _ [] _ (.nothing _)
  rw [made] at happened
  exact happened.makes run.files rfl rfl

variable [Progress.Percentage α]

theorem runImageTool_ran (engine : Engine ω) (source : Source) (session : Session α ω) :
    ∃ run world, engine.run (engine.inspection source) session.files session.world = (run, world) ∧
      engine.runImageTool (some engine.options.inspectionLimits) false (Arguments.inspect source)
          session = (run.outcome, session.ran (engine.inspection source) run world) :=
  ⟨_, _, rfl, rfl⟩

theorem inspect_admitted (engine : Engine ω) (source : Source) (session : Session α ω)
    (admitted : Admitted source) :
    ∃ run world, engine.run (engine.inspection source) session.files session.world = (run, world) ∧
      (engine.inspect source session).2 = session.ran (engine.inspection source) run world ∧
      match run.outcome with
      | .ok output => (engine.inspect source session).1 = ImageReport.parse output source.locator
      | .error cause => (engine.inspect source session).1 =
          .error (.tool (engine.lookContext source run.files) cause) := by
  obtain ⟨run, world, made, ran⟩ := runImageTool_ran engine source session
  refine ⟨run, world, made, ?_⟩
  unfold inspect
  rw [(admitted_iff source).mp admitted]
  simp only [ran]
  cases outcome : run.outcome with
  | error cause => exact ⟨rfl, rfl⟩
  | ok output => exact ⟨rfl, rfl⟩

theorem inspect_refused (engine : Engine ω) (source : Source) (session : Session α ω)
    (barred : ¬Admitted source) :
    ∃ scheme, engine.inspect source session = (.error (.unsupportedScheme scheme), session) := by
  obtain ⟨scheme, named, other⟩ : ∃ scheme, source.scheme = some scheme ∧
      scheme ∉ ["nbd+unix", "file"] := by
    simpa [Admitted] using barred
  have refused := (requireScheme_error_iff source [exportScheme, fileScheme] _).mpr
    ⟨scheme, named, other, rfl⟩
  exact ⟨scheme, by rw [inspect, refused]⟩

theorem validate_admitted (engine : Engine ω) (source : Source) (available : Int)
    (session : Session α ω) (admitted : Admitted source) :
    ∃ run world, engine.run (engine.inspection source) session.files session.world = (run, world) ∧
      (engine.validate source available session).2 =
        session.ran (engine.inspection source) run world ∧
      Verdict source available run (engine.validate source available session).1 := by
  obtain ⟨run, world, made, after, answer⟩ := inspect_admitted engine source session admitted
  refine ⟨run, world, made, ?_⟩
  unfold validate
  rcases looked : engine.inspect source session with ⟨result, left⟩
  rw [looked] at after answer
  obtain rfl : left = session.ran (engine.inspection source) run world := after
  cases outcome : run.outcome with
  | error cause =>
      rw [outcome] at answer
      obtain rfl : result = .error (.tool _ cause) := answer
      exact ⟨rfl, .failed _ cause outcome⟩
  | ok output =>
      rw [outcome] at answer
      obtain rfl : result = ImageReport.parse output source.locator := answer
      cases read : ImageReport.parse output source.locator with
      | ok report =>
          have described := (parse_ok_iff output source.locator report).mp read
          exact ⟨rfl, checkPolicy_verdict source available run report ⟨output, outcome, described⟩⟩
      | error error =>
          have nothing : ∀ report, ¬Describes output report := by
            intro report described
            cases read.symm.trans ((parse_ok_iff output source.locator report).mpr described)
          obtain ⟨fault, kept⟩ := parse_error output source.locator nothing
          obtain rfl := Except.error.inj (read.symm.trans kept)
          exact ⟨rfl, .unreadable output fault ⟨outcome, nothing⟩⟩

/-- What a validation answers, outcome by outcome. -/
structure Decides (source : Source) (available : Int) (run : Run)
    (answer : Except ImportError Unit) : Prop where
  failed : ∀ cause, (∃ context, answer = .error (.tool context cause)) ↔ run.outcome = .error cause
  /-- All that the tool printed is attached. -/
  unreadable : ∀ image text, (∃ fault, answer = .error (.invalidImageInfo image text fault)) ↔
    ∃ output, Unreadable run output ∧ source.locator = image ∧ Utf8.decodeLossy output = text
  unsupported : ∀ name image, answer = .error (.unsupportedFormat name image) ↔
    ∃ report, Reported run report ∧ Declares name report.format ∧ ¬IsImported name ∧
      source.locator = image
  baseless : ∀ image missing, answer = .error (.invalidBackingFile image missing) ↔
    ∃ report path, Reported run report ∧ report.HasKnownFormat ∧ report.Misses run.files path ∧
      source.locator = image ∧ path.text = missing
  small : ∀ needed room, answer = .error (.largerVolumeRequired needed room) ↔
    ∃ report, Reported run report ∧ report.HasKnownFormat ∧
      (∀ path, ¬report.Misses run.files path) ∧ available < report.virtualSize ∧
      report.virtualSize = needed ∧ available = room
  accepted : answer = .ok () ↔
    ∃ report, Reported run report ∧ report.HasKnownFormat ∧
      (∀ path, ¬report.Misses run.files path) ∧ report.virtualSize ≤ available

theorem reported_only (run : Run) (report : ImageReport) (reported : Reported run report) :
    (∀ cause, run.outcome ≠ .error cause) ∧ (∀ output, ¬Unreadable run output) ∧
      ∀ other, Reported run other ↔ other = report := by
  obtain ⟨output, outcome, described⟩ := reported
  refine ⟨?_, ?_, ?_⟩
  · intro cause failed
    rw [outcome] at failed
    cases failed
  · rintro other ⟨printed, nothing⟩
    obtain rfl := Except.ok.inj (outcome.symm.trans printed)
    exact nothing report described
  · intro other
    constructor
    · rintro ⟨same, printed, expected⟩
      obtain rfl := Except.ok.inj (outcome.symm.trans printed)
      exact describes_unique output other report expected described
    · rintro rfl
      exact ⟨output, outcome, described⟩

theorem unreadable_only (run : Run) (output : Bytes) (unreadable : Unreadable run output) :
    (∀ cause, run.outcome ≠ .error cause) ∧ (∀ report, ¬Reported run report) ∧
      ∀ other, Unreadable run other ↔ other = output := by
  obtain ⟨outcome, nothing⟩ := unreadable
  refine ⟨?_, ?_, ?_⟩
  · intro cause failed
    rw [outcome] at failed
    cases failed
  · rintro report ⟨other, printed, described⟩
    obtain rfl := Except.ok.inj (outcome.symm.trans printed)
    exact nothing report described
  · intro other
    constructor
    · rintro ⟨printed, -⟩
      exact Except.ok.inj (printed.symm.trans outcome)
    · rintro rfl
      exact ⟨outcome, nothing⟩

theorem misses_unique (report : ImageReport) (files : FileSystem) (path other : Path)
    (missing : report.Misses files path) : report.Misses files other ↔ other = path := by
  constructor
  · intro missing_too
    exact Option.some.inj (missing_too.1.symm.trans missing.1)
  · rintro rfl
    exact missing

theorem verdict_decides (source : Source) (available : Int) (run : Run)
    (answer : Except ImportError Unit) (verdict : Verdict source available run answer) :
    Decides source available run answer := by
  -- in each case every rule up to the deciding one has a known truth value
  cases verdict with
  | failed context cause outcome => constructor <;> simp [Reported, Unreadable, outcome]
  | unreadable output fault nothing =>
      obtain ⟨ran, reports, only⟩ := unreadable_only run output nothing
      constructor <;> simp [ran, reports, only]
  | unsupported report name reported declared unknown =>
      obtain ⟨ran, readable, only⟩ := reported_only run report reported
      constructor <;> simp [ran, readable, only, HasKnownFormat, declared.only, unknown, eq_comm]
  | baseless report path reported known missing =>
      obtain ⟨ran, readable, only⟩ := reported_only run report reported
      obtain ⟨name, declared, imported⟩ := known
      have this_path := fun other => misses_unique report run.files path other missing
      constructor <;>
        simp [ran, readable, only, HasKnownFormat, declared.only, imported, this_path]
  | small report reported known backed short =>
      obtain ⟨ran, readable, only⟩ := reported_only run report reported
      obtain ⟨name, declared, imported⟩ := known
      constructor <;>
        simp [ran, readable, only, HasKnownFormat, declared.only, imported, backed, short]
  | accepted report reported known backed roomy =>
      obtain ⟨ran, readable, only⟩ := reported_only run report reported
      obtain ⟨name, declared, imported⟩ := known
      constructor <;>
        simp [ran, readable, only, HasKnownFormat, declared.only, imported, backed, roomy]

def TurnsOnRoom (answer : Except ImportError Unit) : Prop :=
  answer = .ok () ∨ ∃ needed room, answer = .error (.largerVolumeRequired needed room)

theorem checkPolicy_room (report : ImageReport) (available other : Int) (image : String)
    (files : FileSystem) :
    (available ≤ other → report.checkPolicy available image files = .ok () →
      report.checkPolicy other image files = .ok ()) ∧
    (report.checkPolicy other image files ≠ report.checkPolicy available image files →
      TurnsOnRoom (report.checkPolicy available image files) ∧
      TurnsOnRoom (report.checkPolicy other image files)) := by
  have turns : ∀ room, TurnsOnRoom (if room < report.virtualSize then
      .error (.largerVolumeRequired report.virtualSize room) else .ok ()) := by
    intro room
    split
    · exact .inr ⟨_, _, rfl⟩
    · exact .inl rfl
  unfold checkPolicy
  split
  · exact ⟨fun _ refused => refused, fun changed => absurd rfl changed⟩
  · split
    · exact ⟨fun _ refused => refused, fun changed => absurd rfl changed⟩
    · refine ⟨?_, fun _ => ⟨turns available, turns other⟩⟩
      intro more fits
      by_cases short : available < report.virtualSize
      · rw [if_pos short] at fits
        cases fits
      · have roomy : ¬other < report.virtualSize := by omega
        rw [if_neg roomy]

theorem validate_room (engine : Engine ω) (source : Source) (available other : Int)
    (session : Session α ω) :
    (engine.validate source other session).2 = (engine.validate source available session).2 ∧
    (available ≤ other → (engine.validate source available session).1 = .ok () →
      (engine.validate source other session).1 = .ok ()) ∧
    ((engine.validate source other session).1 ≠ (engine.validate source available session).1 →
      TurnsOnRoom (engine.validate source available session).1 ∧
      TurnsOnRoom (engine.validate source other session).1) := by
  unfold validate
  rcases engine.inspect source session with ⟨error | report, after⟩
  · exact ⟨rfl, fun _ refused => refused, fun changed => absurd rfl changed⟩
  · exact ⟨rfl, checkPolicy_room report available other source.locator after.files⟩

theorem validate_refused (engine : Engine ω) (source : Source) (available : Int)
    (session : Session α ω) (scheme : String) (named : source.scheme = some scheme)
    (barred : scheme ∉ ["nbd+unix", "file"]) :
    engine.validate source available session = (.error (.unsupportedScheme scheme), session) := by
  have refused := (requireScheme_error_iff source [exportScheme, fileScheme] _).mpr
    ⟨scheme, named, barred, rfl⟩
  unfold validate inspect
  rw [refused]

/-- A validation decides the import policy: by the scheme alone, before any run, or by one run of the image
tool. More room never turns an accepted image away, and room changes no answer but that there is too
little of it. -/
theorem validate_decides (engine : Engine ω) (source : Source) (available : Int)
    (session : Session α ω) :
    (∀ scheme, source.scheme = some scheme → scheme ∉ ["nbd+unix", "file"] →
      engine.validate source available session = (.error (.unsupportedScheme scheme), session)) ∧
    (∀ scheme, (engine.validate source available session).1 = .error (.unsupportedScheme scheme) →
      source.scheme = some scheme ∧ scheme ∉ ["nbd+unix", "file"]) ∧
    (Admitted source → ∃ run world,
      engine.run (engine.inspection source) session.files session.world = (run, world) ∧
      (engine.validate source available session).2 =
        session.ran (engine.inspection source) run world ∧
      Decides source available run (engine.validate source available session).1) ∧
    ∀ other : Int,
      (engine.validate source other session).2 = (engine.validate source available session).2 ∧
      (available ≤ other → (engine.validate source available session).1 = .ok () →
        (engine.validate source other session).1 = .ok ()) ∧
      ((engine.validate source other session).1 ≠ (engine.validate source available session).1 →
        TurnsOnRoom (engine.validate source available session).1 ∧
        TurnsOnRoom (engine.validate source other session).1) := by
  refine ⟨validate_refused engine source available session, ?_, ?_, ?_⟩
  · intro scheme refused
    by_cases admitted : Admitted source
    · obtain ⟨run, world, -, -, verdict⟩ :=
        validate_admitted engine source available session admitted
      rw [refused] at verdict
      cases verdict
    · obtain ⟨other, named, barred⟩ : ∃ other, source.scheme = some other ∧
          other ∉ ["nbd+unix", "file"] := by
        simpa [Admitted] using admitted
      rw [validate_refused engine source available session other named barred] at refused
      cases refused
      exact ⟨named, barred⟩
  · intro admitted
    obtain ⟨run, world, made, after, verdict⟩ :=
      validate_admitted engine source available session admitted
    exact ⟨run, world, made, after, verdict_decides source available run _ verdict⟩
  · exact fun other => validate_room engine source available other session

/-- An image of a foreign format, one that wants all the room there is, and output that is no report. -/
theorem foreign_and_large_refused :
    let engine : Engine Double.Script :=
      ⟨Options.default, Double.Script.runner, Double.Script.prober, rfl⟩
    let source := Source.localFile (Path.ofText "disk")
    let printing : Bytes → Session Int Double.Script := fun output =>
      ⟨FileSystem.empty [], .empty, ⟨[⟨[], [], .ok output⟩], [], []⟩, []⟩
    let foreign := printing (Utf8.encode "\x7b\"format\": \"QCOW2\", \"virtual-size\": 4096\x7d")
    let large := printing (Utf8.encode "\x7b\"format\": \"qcow2\", \"virtual-size\": 4096\x7d")
    (engine.validate source 4096 foreign).1 = .error (.unsupportedFormat "QCOW2" "disk") ∧
      (engine.validate source 4095 large).1 = .error (.largerVolumeRequired 4096 4095) ∧
      (engine.validate source 4096 large).1 = .ok () ∧
      (engine.validate source 4096 large).2.runs.length = 1 ∧
      ∃ fault, (engine.validate source 4096 (printing [0x7B, 0xFF])).1 =
        .error (.invalidImageInfo "disk" "\x7b\uFFFD" fault) := by
  intro engine source printing foreign large
  have admitted : Admitted source := nofun
  have reports : ∀ (output : Bytes) (run : Run) (report : ImageReport), run.outcome = .ok output →
      ImageReport.parse output "disk" = .ok report → Reported run report :=
    fun output run report outcome read => ⟨_, outcome, (parse_ok_iff _ "disk" report).mp read⟩
  obtain ⟨-, -, refuses, -⟩ := validate_decides engine source 4096 foreign
  obtain ⟨-, -, shrinks, more⟩ := validate_decides engine source 4095 large
  obtain ⟨run, world, made, -, answers⟩ := refuses admitted
  obtain ⟨other, after, made_too, alone, answers_too⟩ := shrinks admitted
  obtain rfl := congrArg Prod.fst made
  obtain rfl := congrArg Prod.fst made_too
  have qcow2 : Declares "qcow2" .qcow2 := .named _ _ (by decide)
  refine ⟨(answers.unsupported "QCOW2" "disk").mpr ?_, (answers_too.small 4096 4095).mpr ?_, ?_, ?_,
    ?_⟩
  · exact ⟨⟨.other "QCOW2", none, 4096, 0⟩, reports _ _ _ rfl rfl, .foreign _ (by decide),
      by simp [IsImported], rfl⟩
  · exact ⟨⟨.qcow2, none, 4096, 0⟩, reports _ _ _ rfl rfl, ⟨_, qcow2, by simp [IsImported]⟩,
      by simp [Misses], by decide, rfl, rfl⟩
  · obtain ⟨-, -, roomy, -⟩ := validate_decides engine source 4096 large
    obtain ⟨third, _, made_again, -, accepts⟩ := roomy admitted
    obtain rfl := congrArg Prod.fst made_again
    exact accepts.accepted.mpr ⟨⟨.qcow2, none, 4096, 0⟩, reports _ _ _ rfl rfl,
      ⟨_, qcow2, by simp [IsImported]⟩, by simp [Misses], by decide⟩
  · rw [(more 4096).1, alone]
    rfl
  · obtain ⟨-, -, garbled, -⟩ := validate_decides engine source 4096 (printing [0x7B, 0xFF])
    obtain ⟨fourth, _, made_last, -, keeps⟩ := garbled admitted
    obtain rfl := congrArg Prod.fst made_last
    refine (keeps.unreadable "disk" "\x7b\uFFFD").mpr ⟨[0x7B, 0xFF], ⟨rfl, ?_⟩, rfl, rfl⟩
    intro report described
    have read := (parse_ok_iff [0x7B, 0xFF] "disk" report).mpr described
    cases read

end Engine

end VolumeImport
