import VolumeImport.Proofs.Process.Judgement

/-!
Collecting does not depend on how a pipe cuts its bytes. A pipe that is still open has brought some bytes, in
pieces of any size and with any number of interrupted reads between them; what is collected goes by these
bytes and by how the pipe ends.
-/

namespace VolumeImport.Collector

open Output
open Guard (Hears heard hears_iff openSink)

inductive Brings : List PipeRead → Bytes → Prop
  | nothing : Brings [] []
  | piece (piece bytes : Bytes) (rest : List PipeRead) (filled : piece ≠ [])
      (later : Brings rest bytes) : Brings (.chunk piece :: rest) (piece ++ bytes)
  | again (error : SystemError) (bytes : Bytes) (rest : List PipeRead)
      (interrupted : error.kind = .interrupted) (later : Brings rest bytes) :
      Brings (.failed error :: rest) bytes

theorem transmitted_append (reads : List PipeRead) (bytes : Bytes) (brings : Brings reads bytes)
    (behind : List PipeRead) :
    transmitted (reads ++ behind) =
      ⟨bytes ++ (transmitted behind).bytes, (transmitted behind).failure⟩ := by
  induction brings with
  | nothing => rfl
  | piece piece bytes rest filled later ih =>
      obtain ⟨byte, others, rfl⟩ := List.exists_cons_of_ne_nil filled
      simp [transmitted, ih]
  | again error bytes rest interrupted later ih => simpa [transmitted, interrupted] using ih

def reaching (sink : Option Sink) (lines : List String) : List String :=
  if sink.isSome then lines else []

def Accepts (sink : Option Sink) (lines : List String) : Prop :=
  ∀ takes ∈ sink, Takes takes lines

theorem relay_of_accepts (sink : Option Sink) (lines : List String)
    (accepts : Accepts sink lines) :
    relay sink [] lines = ((reaching sink lines).reverse, false) := by
  cases sink with
  | none => exact relay_none [] lines
  | some takes => exact relay_of_takes takes lines (accepts takes rfl)

theorem outcome_closed (sink : Option Sink) (bytes : Bytes) (accepts : Accepts sink (heard bytes)) :
    outcome sink ⟨bytes, none⟩ = ⟨reaching sink (heard bytes), .ok bytes⟩ := by
  have relayed := relay_of_accepts sink (heard bytes) accepts
  rw [heard, ← lines_eq_segments] at relayed ⊢
  simp [outcome, relayed]

theorem outcome_failed (sink : Option Sink) (bytes : Bytes) (error : SystemError)
    (accepts : Accepts sink (heard (ended bytes))) :
    outcome sink ⟨bytes, some error⟩ = ⟨reaching sink (heard (ended bytes)), .error error⟩ := by
  have relayed := relay_of_accepts sink (heard (ended bytes)) accepts
  rw [heard, ← lines_eq_segments] at relayed ⊢
  simp [outcome, relayed]

/-- A pipe that is closed leaves all its bytes and every line of them; one that fails leaves its error, and
the lines that had ended by then. Other cuts through the same bytes change nothing about it. -/
theorem cuts_leave_no_trace (sink : Option Sink) (reads : List PipeRead) (bytes : Bytes)
    (brings : Brings reads bytes) :
    (∀ behind, Accepts sink (heard bytes) →
      collect sink (reads ++ .chunk [] :: behind) = ⟨reaching sink (heard bytes), .ok bytes⟩) ∧
    (∀ error behind, error.kind ≠ .interrupted → Accepts sink (heard (ended bytes)) →
      collect sink (reads ++ .failed error :: behind) =
        ⟨reaching sink (heard (ended bytes)), .error error⟩) ∧
    (∀ other behind, Brings other bytes →
      collect sink (other ++ behind) = collect sink (reads ++ behind)) ∧
    ∀ output lines, Hears output lines ↔ lines = heard output := by
  refine ⟨?_, ?_, ?_, hears_iff⟩
  · intro behind accepts
    rw [collect_eq, transmitted_append reads bytes brings, ← outcome_closed sink bytes accepts]
    simp [transmitted]
  · intro error behind fatal accepts
    rw [collect_eq, transmitted_append reads bytes brings,
      ← outcome_failed sink bytes error accepts]
    simp [transmitted, fatal]
  · intro other behind brings_too
    rw [collect_eq, collect_eq, transmitted_append reads bytes brings,
      transmitted_append other bytes brings_too]

/-- Cuts through a character, between the two ends of a line and through a colour code, with an interrupted
read at one of them. -/
theorem unlucky_cuts_leave_no_trace :
    let reads : List PipeRead := [.chunk [0xC3], .failed (.call ⟨4⟩), .chunk [0xA9, 0x0D],
      .chunk [0x0A, 0x1B], .chunk [0x5B, 0x6D, 0x31]]
    let bytes : Bytes := [0xC3, 0xA9, 0x0D, 0x0A, 0x1B, 0x5B, 0x6D, 0x31]
    Brings reads bytes ∧
      collect (some openSink) (reads ++ [.chunk []]) = ⟨["é", "1"], .ok bytes⟩ ∧
      collect (some openSink) (reads ++ [.failed (.call ⟨5⟩)]) = ⟨["é"], .error (.call ⟨5⟩)⟩ ∧
      collect (some openSink) (.chunk bytes :: [.chunk []]) =
        collect (some openSink) (reads ++ [.chunk []]) := by
  intro reads bytes
  have brings : Brings reads bytes :=
    .piece [0xC3] _ _ (by simp) <| .again _ _ _ rfl <| .piece [0xA9, 0x0D] _ _ (by simp) <|
      .piece [0x0A, 0x1B] _ _ (by simp) <| .piece [0x5B, 0x6D, 0x31] [] [] (by simp) .nothing
  obtain ⟨closed, failed, same, -⟩ := cuts_leave_no_trace (some openSink) reads bytes brings
  have open_to : ∀ lines, Accepts (some openSink) lines := by
    rintro lines _ ⟨⟩
    exact Guard.openSink_takes lines
  refine ⟨brings, closed [] (open_to _), failed (.call ⟨5⟩) [] (by decide) (open_to _), ?_⟩
  exact same [.chunk bytes] [.chunk []] (.piece bytes [] [] (by simp [bytes]) .nothing)

end VolumeImport.Collector
