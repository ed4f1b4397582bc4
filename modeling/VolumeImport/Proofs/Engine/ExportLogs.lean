import VolumeImport.Proofs.Engine.SchemeGate
import VolumeImport.Proofs.Text.Encoding

/-!
What becomes of the log of the export helper when the tool fails. The log is read last, from the files that the
operation leaves, and whatever comes of reading it, the failure of the tool is reported. A log that is no text is
left out as a whole, as if there were none.
-/

namespace VolumeImport.Engine

variable {α ω : Type}

/-- What reading a log makes of the own context of an operation. -/
structure Carries (files : FileSystem) (log : Path) (own context : String) : Prop where
  /-- A file that its owner may read shows up exactly if it is a text. -/
  shown : ∀ mode content, files.stat log = .ok (.file mode content) → mode.testBit 8 = true →
    (context = own ++ " " ++ Utf8.decodeLossy content ↔ ∃ text, Utf8.encode text = content)
  dropped : ∀ mode content, files.stat log = .ok (.file mode content) →
    (∀ text, Utf8.encode text ≠ content) → context = own
  shut : ∀ mode content, files.stat log = .ok (.file mode content) → mode.testBit 8 = false →
    context = own
  unread : ∀ error, files.read log = .error error → context = own

/-- How an operation ends when its tool fails: with the failure of the last run, in a context that the log goes
into or not. -/
structure Reports {β : Type} (engine : Engine ω) (own : String) (logged : Prop)
    (before : Session α ω) (ended : Except ImportError β × Session α ω) : Prop where
  cause : ∃ runs, engine.Makes before ended.2 runs ∧ ∀ cause,
    (∃ context, ended.1 = .error (.tool context cause)) ↔
      ∃ last, runs.getLast? = some last ∧ last.2.outcome = .error cause
  carried : logged → ∀ context cause, ended.1 = .error (.tool context cause) →
    Carries ended.2.files engine.options.exportLog own context
  plain : ¬logged → ∀ context cause, ended.1 = .error (.tool context cause) → context = own

theorem withExportLog_read (engine : Engine ω) (own : String) (files : FileSystem) (content : Bytes)
    (read : files.read engine.options.exportLog = .ok content) :
    (∀ text, Utf8.encode text = content → engine.withExportLog own files = own ++ " " ++ text) ∧
      ((∀ text, Utf8.encode text ≠ content) → engine.withExportLog own files = own) := by
  simp only [withExportLog, FileSystem.readText?, read]
  constructor
  · intro text encoded
    rw [(Utf8.decode?_iff content text).mpr encoded]
  · intro broken
    cases decoded : Utf8.decode? content with
    | none => rfl
    | some text => exact absurd ((Utf8.decode?_iff content text).mp decoded) (broken text)

theorem withExportLog_unread (engine : Engine ω) (own : String) (files : FileSystem)
    (error : SystemError) (unread : files.read engine.options.exportLog = .error error) :
    engine.withExportLog own files = own := by
  simp [withExportLog, FileSystem.readText?, unread]

theorem withExportLog_carries (engine : Engine ω) (own : String) (files : FileSystem) :
    Carries files engine.options.exportLog own (engine.withExportLog own files) := by
  have read : ∀ mode content, files.stat engine.options.exportLog = .ok (.file mode content) →
      mode.testBit 8 = true → files.read engine.options.exportLog = .ok content := by
    intro mode content found readable
    simp [FileSystem.read, found, Node.mode, FileSystem.grantsRead, readable]
  have unread : ∀ mode content, files.stat engine.options.exportLog = .ok (.file mode content) →
      mode.testBit 8 = false → engine.withExportLog own files = own := by
    intro mode content found closed
    apply withExportLog_unread engine own files (.call .permission)
    simp [FileSystem.read, found, Node.mode, FileSystem.grantsRead, closed]
  refine ⟨?_, ?_, unread, withExportLog_unread engine own files⟩
  · intro mode content found readable
    obtain ⟨shown, dropped⟩ :=
      withExportLog_read engine own files content (read mode content found readable)
    constructor
    · intro whole
      by_contra broken
      rw [dropped (not_exists.mp broken)] at whole
      -- even an empty log would leave the blank
      have longer := congrArg String.length whole
      simp only [String.length_append, show " ".length = 1 from rfl] at longer
      omega
    · rintro ⟨text, encoded⟩
      rw [shown text encoded, ← encoded, Utf8.decodeLossy_encode]
  · intro mode content found broken
    cases readable : mode.testBit 8 with
    | true =>
        exact (withExportLog_read engine own files content (read mode content found readable)).2 broken
    | false => exact unread mode content found readable

theorem lookContext_carries (engine : Engine ω) (source : Source) (files : FileSystem)
    (exported : source.scheme = some "nbd+unix") :
    Carries files engine.options.exportLog s!"could not read image info for {source.locator}"
      (engine.lookContext source files) := by
  have served : source.isExport = true := decide_eq_true exported
  rw [lookContext, if_pos served]
  exact withExportLog_carries engine _ files

theorem lookContext_plain (engine : Engine ω) (source : Source) (files : FileSystem)
    (other : source.scheme ≠ some "nbd+unix") :
    engine.lookContext source files = s!"could not read image info for {source.locator}" := by
  have apart : ¬source.isExport = true := fun served => other (of_decide_eq_true served)
  rw [lookContext, if_neg apart]

theorem reports_other {β : Type} (engine : Engine ω) (own : String) (logged : Prop)
    (before after : Session α ω) (answer : Except ImportError β) (runs : List (Invocation × Run))
    (makes : engine.Makes before after runs)
    (sound : ∀ last, runs.getLast? = some last → ∃ output, last.2.outcome = .ok output)
    (other : ∀ context cause, answer ≠ .error (.tool context cause)) :
    Reports engine own logged before (answer, after) where
  cause := by
    refine ⟨runs, makes, fun cause => ?_⟩
    constructor
    · rintro ⟨context, failed⟩
      exact absurd failed (other context cause)
    · rintro ⟨last, final, failed⟩
      obtain ⟨output, outcome⟩ := sound last final
      cases outcome.symm.trans failed
  carried := fun _ context cause failed => absurd failed (other context cause)
  plain := fun _ context cause failed => absurd failed (other context cause)

theorem reports_failed {β : Type} (engine : Engine ω) (own : String) (logged : Prop)
    (before after : Session α ω) (context : String) (runs : List (Invocation × Run))
    (last : Invocation × Run) (cause : ToolError) (makes : engine.Makes before after runs)
    (final : runs.getLast? = some last) (outcome : last.2.outcome = .error cause)
    (carried : logged → Carries after.files engine.options.exportLog own context)
    (plain : ¬logged → context = own) :
    Reports (β := β) engine own logged before (.error (.tool context cause), after) where
  cause := ⟨runs, makes, by simp [final, outcome]⟩
  carried := by
    rintro applies _ _ ⟨⟩
    exact carried applies
  plain := by
    rintro apart _ _ ⟨⟩
    exact plain apart

theorem convert_reports (engine : Engine ω) (source : Source) (destination : Path)
    (preallocate : Bool) (hint : CacheHint) (session : Session α ω)
    (ended : Except ImportError Unit × Session α ω)
    (course : ConvertCourse engine source destination preallocate hint session ended) :
    Reports engine "could not convert image to raw" True session ended := by
  cases course with
  | refused error barred =>
      obtain ⟨scheme, -, -, rfl⟩ := (requireScheme_error_iff source _ error).mp barred
      exact reports_other engine _ _ session session _ [] (engine.makes_nothing session) nofun
        (by simp)
  | undecided error after admitted unclear =>
      have fails := (chooseCacheMode_outcome engine hint destination session).2
      have makes := engine.chooseCacheMode_makes hint destination session
      rw [unclear] at fails makes
      obtain ⟨context, cause, rfl⟩ := fails error rfl
      exact reports_other engine _ _ session after _ [] makes nofun (by simp)
  | failed mode middle after cause runs admitted chosen phase =>
      obtain ⟨last, final, outcome, -⟩ := phase.last
      refine reports_failed engine _ _ session _ _ runs last cause ?_ final outcome ?_ ?_
      · exact chosen_makes engine hint destination mode session middle after _ _ runs chosen phase _
      · exact fun _ => withExportLog_carries engine _ (clearDestination after.files destination)
      · exact fun apart => absurd trivial apart
  | done mode middle after output runs admitted chosen phase =>
      obtain ⟨last, final, outcome, -⟩ := phase.last
      have makes :=
        chosen_makes engine hint destination mode session middle after _ _ runs chosen phase after.files
      refine reports_other engine _ _ session after _ runs makes (fun other ended => ?_) (by simp)
      obtain rfl := Option.some.inj (final.symm.trans ended)
      exact ⟨output, outcome⟩

variable [Progress.Percentage α]

theorem inspect_reports (engine : Engine ω) (source : Source) (session : Session α ω) :
    Reports engine s!"could not read image info for {source.locator}"
      (source.scheme = some "nbd+unix") session (engine.inspect source session) := by
  by_cases admitted : Admitted source
  · obtain ⟨run, world, made, after, answer⟩ := inspect_admitted engine source session admitted
    have makes := inspection_makes engine source session run world made
    rw [← Prod.eta (engine.inspect source session), after]
    cases outcome : run.outcome with
    | ok output =>
        rw [outcome] at answer
        refine reports_other engine _ _ session _ _ _ makes ?_ ?_
        · rintro _ ⟨⟩
          exact ⟨output, outcome⟩
        · intro context cause failed
          obtain ⟨_, other⟩ :=
            ImageReport.parse_fails output source.locator _ (answer.symm.trans failed)
          cases other
    | error cause =>
        rw [outcome] at answer
        rw [answer]
        exact reports_failed engine _ _ session _ _ _ _ cause makes rfl outcome
          (lookContext_carries engine source run.files) (lookContext_plain engine source run.files)
  · obtain ⟨scheme, refused⟩ := inspect_refused engine source session admitted
    rw [refused]
    exact reports_other engine _ _ session session _ [] (engine.makes_nothing session) nofun (by simp)

/-- A conversion whose tool failed, and a look whose tool failed at an image of the export helper, carry the log
that they find at their end if it is a text. A look at another image has no log in its context. The failure of the
tool is the cause in any case. -/
theorem failures_carry_export_log (engine : Engine ω) (source : Source) (destination : Path)
    (preallocate : Bool) (hint : CacheHint) (session : Session α ω) :
    Reports engine "could not convert image to raw" True session
      (engine.convert source destination preallocate hint session) ∧
    Reports engine s!"could not read image info for {source.locator}"
      (source.scheme = some "nbd+unix") session (engine.inspect source session) ∧
    (∀ locator, (Source.parse locator).scheme = some "nbd+unix" ↔
      Source.Names locator "nbd+unix") ∧
    ∀ path, (Source.localFile path).scheme ≠ some "nbd+unix" :=
  ⟨convert_reports engine source destination preallocate hint session _
      (convert_course engine source destination preallocate hint session),
    inspect_reports engine source session,
    fun locator => Source.parse_scheme_iff locator "nbd+unix", nofun⟩

/-- The log of a helper whose scheme is written in capitals, found by a look. -/
theorem helper_log_carried :
    let failure := ToolError.exited "qemu-img" 1 "" "boom"
    let options : Options := { Options.default with exportLog := Path.ofText "nbdkit.log" }
    let engine : Engine (List Invocation) := ⟨options, noting (.error failure), assenting, rfl⟩
    let files := (FileSystem.empty []).put [options.exportLog.bytes]
      (.file 0o644 (Utf8.encode "nbdkit: reset"))
    let session : Session Int (List Invocation) := ⟨files, .empty, [], []⟩
    Source.Names "NBD+Unix:///?socket=s" "nbd+unix" ∧
      (engine.inspect (.parse "NBD+Unix:///?socket=s") session).1 = .error (.tool
        "could not read image info for NBD+Unix:///?socket=s nbdkit: reset" failure) := by
  intro failure options engine files session
  have named : Source.Names "NBD+Unix:///?socket=s" "nbd+unix" :=
    ⟨"NBD+Unix".toList, "///?socket=s".toList, rfl, by decide, (Source.isScheme_iff _).mp rfl, rfl⟩
  obtain ⟨-, reports, schemes, -⟩ := failures_carry_export_log engine
    (.parse "NBD+Unix:///?socket=s") (Path.ofText "volume") false .writeback session
  obtain ⟨runs, makes, causes⟩ := reports.cause
  have recorded := makes.recorded
  have ran : session.runs ++ runs = runs := rfl
  rw [ran] at recorded
  obtain ⟨context, failed⟩ := (causes failure).mpr ⟨_, by rw [← recorded]; rfl, rfl⟩
  have carried := reports.carried ((schemes _).mpr named) context failure failed
  have shown := (carried.shown 0o644 (Utf8.encode "nbdkit: reset") rfl rfl).mpr ⟨_, rfl⟩
  rw [Utf8.decodeLossy_encode] at shown
  exact ⟨named, by rw [failed, shown]; rfl⟩

/-- The last character of the log is cut short, and nothing of the log is reported. -/
theorem truncated_log_dropped :
    let failure := ToolError.exited "qemu-img" 1 "" "boom"
    let options : Options := { Options.default with exportLog := Path.ofText "nbdkit.log" }
    let engine : Engine (List Invocation) := ⟨options, noting (.error failure), assenting, rfl⟩
    let content := Utf8.encode "nbdkit: G" ++ [0xC3]
    let files := (FileSystem.empty []).put [options.exportLog.bytes] (.file 0o644 content)
    let session : Session Int (List Invocation) := ⟨files, .empty, [], []⟩
    let source := Source.parse "nbd+unix:///?socket=s"
    let ended := engine.convert source (Path.ofText "volume") false .writeback session
    ended.2.files.stat options.exportLog = .ok (.file 0o644 content) ∧
      Utf8.decodeLossy content = "nbdkit: G\uFFFD" ∧
      ended.1 = .error (.tool "could not convert image to raw" failure) ∧
      (engine.inspect source session).1 =
        .error (.tool "could not read image info for nbd+unix:///?socket=s" failure) := by
  exact ⟨rfl, rfl, rfl, rfl⟩

end VolumeImport.Engine
