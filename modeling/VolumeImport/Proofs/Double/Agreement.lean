import VolumeImport.Double.Recorder
import VolumeImport.Proofs.Engine.Supervision
import VolumeImport.Proofs.Engine.Validation
import VolumeImport.Proofs.Image.RoundTrip

/-!
A stand-in validates as the engine does. The engine has its report from a run of the image tool, the stand-in has
it by heart; the one comes through a document, the other through whatever the stand-in has been asked before. Both
hold the same report against the same policy, so what is shown is that neither way changes the report.
-/

namespace VolumeImport

namespace Double.Recorder

/-- What can be asked of a stand-in: an operation, on the files that there are then, or to fail from then on. -/
inductive Request where
  | perform (operation : Operation) (files : FileSystem)
  | fail (name : String)

def serve (recorder : Recorder) : Request → Recorder
  | .perform operation files => (recorder.perform operation files).2
  | .fail name => recorder.fail name

def serveAll (recorder : Recorder) (requests : List Request) : Recorder :=
  requests.foldl serve recorder

def noting (recorder : Recorder) (call : String) : Recorder :=
  { recorder with calls := recorder.calls ++ [call] }

theorem record_noting (recorder : Recorder) (name detail : String) :
    (recorder.record name detail).2 = recorder.noting (name ++ " " ++ detail) := by
  unfold record
  dsimp only
  split <;> rfl

theorem inspect_noting (recorder : Recorder) (source : Source) :
    (recorder.inspect source).2 = recorder.noting ("info " ++ source.locator) := by
  have noted := recorder.record_noting "info" source.locator
  unfold inspect
  rcases asked : recorder.record "info" source.locator with ⟨error | _, after⟩
  · rw [asked] at noted
    exact noted
  · rw [asked] at noted
    dsimp only
    cases after.report <;> exact noted

theorem validate_noting (recorder : Recorder) (source : Source) (available : Int)
    (files : FileSystem) :
    (recorder.validate source available files).2 = recorder.noting ("info " ++ source.locator) := by
  rw [← recorder.inspect_noting source]
  unfold validate
  rcases recorder.inspect source with ⟨error | report, after⟩ <;> rfl

theorem perform_noting (recorder : Recorder) (operation : Operation) (files : FileSystem) :
    ∃ call, (recorder.perform operation files).2 = recorder.noting call := by
  cases operation with
  | inspect source => exact ⟨_, recorder.inspect_noting source⟩
  | validate source available => exact ⟨_, recorder.validate_noting source available files⟩
  | convert source destination preallocate hint => exact ⟨_, recorder.record_noting "convert" _⟩
  | resize image size preallocate => exact ⟨_, recorder.record_noting "resize" _⟩
  | create destination size preallocate => exact ⟨_, recorder.record_noting "create" _⟩
  | rebase backingFile delta => exact ⟨_, recorder.record_noting "rebase" _⟩
  | commit image => exact ⟨_, recorder.record_noting "commit" _⟩
  | zeroDevice destination size => exact ⟨_, recorder.record_noting "preallocate_block" _⟩

structure Tells (recorder : Recorder) (report : ImageReport) : Prop where
  report : recorder.report = some report
  willing : "info" ∉ recorder.failing

theorem serve_tells (recorder : Recorder) (report : ImageReport) (request : Request)
    (tells : recorder.Tells report) (spared : request ≠ .fail "info") :
    (recorder.serve request).Tells report := by
  cases request with
  | perform operation files =>
      obtain ⟨call, noted⟩ := recorder.perform_noting operation files
      rw [serve, noted]
      exact ⟨tells.report, tells.willing⟩
  | fail name =>
      have other : "info" ≠ name := fun same => spared (same ▸ rfl)
      exact ⟨tells.report, List.not_mem_cons_of_ne_of_not_mem other tells.willing⟩

theorem serveAll_tells (recorder : Recorder) (report : ImageReport) (requests : List Request)
    (tells : recorder.Tells report) (spared : .fail "info" ∉ requests) :
    (recorder.serveAll requests).Tells report := by
  induction requests generalizing recorder with
  | nil => exact tells
  | cons request rest ih =>
      obtain ⟨first, later⟩ := List.ne_and_not_mem_of_not_mem_cons spared
      exact ih (recorder.serve request) (recorder.serve_tells report request tells first.symm) later

theorem inspect_tells (recorder : Recorder) (report : ImageReport) (source : Source)
    (tells : recorder.Tells report) : (recorder.inspect source).1 = .ok report := by
  simp [inspect, record, tells.willing, tells.report]

theorem validate_tells (recorder : Recorder) (report : ImageReport) (source : Source)
    (available : Int) (files : FileSystem) (tells : recorder.Tells report) :
    (recorder.validate source available files).1 =
      report.checkPolicy available source.locator files := by
  have told := recorder.inspect_tells report source tells
  unfold validate
  rcases looked : recorder.inspect source with ⟨answer, after⟩
  rw [looked] at told
  obtain rfl : answer = .ok report := told
  rfl

end Double.Recorder

namespace Engine

open Double (Recorder)

variable {α ω : Type} [Progress.Percentage α]

theorem validate_reported (engine : Engine ω) (source : Source) (available : Int)
    (session : Session α ω) (run : Run) (world : ω) (output : Bytes) (report : ImageReport)
    (admitted : Admitted source)
    (made : engine.run (engine.inspection source) session.files session.world = (run, world))
    (printed : run.outcome = .ok output)
    (read : ImageReport.parse output source.locator = .ok report) :
    engine.validate source available session =
      (report.checkPolicy available source.locator run.files,
        session.ran (engine.inspection source) run world) := by
  obtain ⟨_, _, same, after, answer⟩ := inspect_admitted engine source session admitted
  obtain ⟨rfl, rfl⟩ := Prod.mk.inj (made.symm.trans same)
  rw [printed] at answer
  have looked : engine.inspect source session =
      (.ok report, session.ran (engine.inspection source) run world) :=
    Prod.ext (answer.trans read) after
  rw [validate, looked]
  rfl

/-- A stand-in for a report, whatever it was asked before, validates any source that may be looked at as an
engine does whose tool prints this report: the answers are equal, on the files that the tool leaves, and each of
the two has made one look. -/
theorem stand_in_validates_alike (engine : Engine ω) (report : ImageReport) (source : Source)
    (available : Int) (history : List Recorder.Request) (writable : report.Writable)
    (canonical : report.Canonical) (admitted : Admitted source)
    (spared : .fail "info" ∉ history) :
    ∃ text, report.write? = some text ∧
      ∀ (session : Session α ω) (run : Run) (world : ω),
        engine.run (engine.inspection source) session.files session.world = (run, world) →
        run.outcome = .ok (Utf8.encode text) →
          let recorder := (Recorder.ofReport (some report)).serveAll history
          let stoodIn := recorder.validate source available run.files
          let validated := engine.validate source available session
          stoodIn.1 = validated.1 ∧
            stoodIn.2.calls = recorder.calls ++ ["info " ++ source.locator] ∧
            validated.2.runs = session.runs ++ [(engine.inspection source, run)] := by
  obtain ⟨text, written, read⟩ := report.parse_write writable source.locator
  rw [report.settled_eq_iff.mpr canonical] at read
  refine ⟨text, written, fun session run world made printed => ?_⟩
  have tells : ((Recorder.ofReport (some report)).serveAll history).Tells report :=
    Recorder.serveAll_tells _ report history ⟨rfl, List.not_mem_nil⟩ spared
  have validated := validate_reported engine source available session run world _ report admitted
    made printed read
  dsimp only
  rw [validated, Recorder.validate_noting]
  refine ⟨Recorder.validate_tells _ report source available run.files tells, rfl, ?_⟩
  exact Session.runs_of_events session _ [(engine.inspection source, run)] rfl

/-- A stand-in that has been told to fail at other things, and an image whose backing file is not there. -/
theorem spared_stand_in_validates_alike :
    let report : ImageReport := ⟨.qcow2, some (Path.ofText "base"), 1048576, 196624⟩
    let engine : Engine (List Invocation) := ⟨Options.default,
      noting (.ok (Utf8.encode (report.write?.getD ""))), assenting, rfl⟩
    let source := Source.parse "NBD+Unix:///?socket=s"
    let session : Session Int (List Invocation) := ⟨FileSystem.empty [], .empty, [], []⟩
    let history : List Recorder.Request :=
      [.fail "convert", .perform (.validate (.localFile (Path.ofText "disk")) 5) session.files,
        .perform (.convert source (Path.ofText "volume") true .tryDirect) session.files]
    let recorder := (Recorder.ofReport (some report)).serveAll history
    let stoodIn := recorder.validate source 4096 session.files
    let validated := engine.validate source 4096 session
    recorder.calls.length = 2 ∧
      stoodIn.1 = .error (.invalidBackingFile "NBD+Unix:///?socket=s" "base") ∧
      validated.1 = stoodIn.1 ∧
      stoodIn.2.calls = recorder.calls ++ ["info NBD+Unix:///?socket=s"] ∧
      ∃ run, validated.2.runs = [(engine.inspection source, run)] := by
  intro report engine source session history recorder stoodIn validated
  have writable : report.Writable :=
    ⟨fun path listed => Option.some.inj listed ▸ Path.ofText_isText _, by decide, by decide⟩
  have admitted : Admitted source := by
    rw [admitted_iff]
    rfl
  obtain ⟨text, written, alike⟩ := stand_in_validates_alike (α := Int) engine report source 4096
    history writable ⟨nofun, by decide⟩ admitted (by simp [history])
  have printed : report.write?.getD "" = text := by rw [written]; rfl
  obtain ⟨same, called, ran⟩ := alike session ⟨[], session.files, .ok (Utf8.encode text)⟩ _
    (by rw [← printed]; rfl) rfl
  exact ⟨rfl, rfl, same.symm, called, _, ran⟩

end Engine

end VolumeImport
