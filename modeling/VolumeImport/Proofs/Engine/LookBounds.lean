import Mathlib.Control.Monad.Basic
import VolumeImport.Proofs.Engine.Supervision

/-!
How far the looks into an image are bounded. An engine is accepted only with some limit set, but the greatest
value of a limit sets it and bounds nothing. Accepted options therefore leave a look without a bound exactly if
they give that value and no other.
-/

namespace VolumeImport

namespace Limits

def Bounds (limits : Limits) : Prop :=
  ∃ setting ∈ limits.settings, setting.2 ≠ unlimited

/-- The limits that are set and bound nothing. -/
def idle : List Limits :=
  [⟨some unlimited, .none⟩, ⟨.none, some unlimited⟩, ⟨some unlimited, some unlimited⟩]

theorem bounds_iff (limits : Limits) : limits.Bounds ↔ limits.IsBounding ∧ limits ∉ idle := by
  obtain ⟨memory, cpuTime⟩ := limits
  cases memory <;> cases cpuTime <;> simp [Bounds, settings, IsBounding, idle]
  exact Decidable.imp_iff_not_or.symm

end Limits

namespace Engine

variable {α ω : Type} [Progress.Percentage α]

theorem ofOptions_iff (options : Options) (run : Runner ω) (probe : Prober ω) :
    (∃ engine, ofOptions options run probe = .ok engine) ↔ options.validate = .ok () := by
  unfold ofOptions
  split
  · next valid => simp [valid]
  · next invalid => simp [invalid]

/-- Options with tools and a bound are accepted, and under accepted options every look into an image is bounded,
unless all the limits that they give are idle. -/
theorem looks_bounded_unless_idle (options : Options) (run : Runner ω) (probe : Prober ω) :
    (options.imageTool.bytes ≠ [] → options.zeroTool.bytes ≠ [] →
      options.inspectionLimits.Bounds → ∃ engine, ofOptions options run probe = .ok engine) ∧
    ∀ engine, ofOptions options run probe = .ok engine →
      ∀ (operations : List Operation) (session : Session α ω),
        ∀ entry ∈ engine.history operations session,
          entry.2.1.arguments.head? = some "info" →
            entry.2.1.limits = some options.inspectionLimits ∧
              (options.inspectionLimits.Bounds ↔ options.inspectionLimits ∉ Limits.idle) := by
  constructor
  · intro imageTool zeroTool bounds
    rw [ofOptions_iff, options.validate_iff]
    exact ⟨(options.inspectionLimits.bounds_iff.mp bounds).1, imageTool, zeroTool⟩
  · intro engine accepted operations session entry listed look
    obtain ⟨valid, rfl⟩ := ofOptions_ok options run probe engine accepted
    obtain ⟨-, supervised⟩ := history_supervised _ operations session entry listed
    obtain ⟨limits, bounding⟩ := supervised.bounded (supervised.subcommand.mp look)
    refine ⟨limits, ?_⟩
    rw [Limits.bounds_iff]
    exact and_iff_right bounding

/-- Thirty seconds, beside a limit that is idle: both looks of this row are bounded. -/
theorem thirty_seconds_bound_looks :
    let options : Options :=
      { Options.default with inspectionLimits := ⟨some Limits.unlimited, some 30⟩ }
    let operations := [Operation.inspect (.localFile (Path.ofText "image")),
      .validate (.parse "nbd+unix:///?socket=s") 0]
    let session : Session Int (List Invocation) := ⟨FileSystem.empty [], .empty, [], []⟩
    ∃ engine, ofOptions options (noting (.ok [])) assenting = .ok engine ∧
      (engine.history operations session).map (·.2.1.arguments.head?) = [some "info", some "info"] ∧
      (∀ entry ∈ engine.history operations session, entry.2.1.arguments.head? = some "info" →
        entry.2.1.limits = some options.inspectionLimits) ∧
      options.inspectionLimits.Bounds := by
  intro options operations session
  have bounds : options.inspectionLimits.Bounds := ⟨(.cpuTime, 30), by decide, by decide⟩
  obtain ⟨accepts, looks⟩ :=
    looks_bounded_unless_idle (α := Int) options (noting (.ok [])) assenting
  obtain ⟨engine, accepted⟩ := accepts (by decide) (by decide) bounds
  obtain ⟨valid, rfl⟩ := ofOptions_ok _ _ _ engine accepted
  exact ⟨_, accepted, rfl,
    fun entry listed look => (looks _ accepted operations session entry listed look).1, bounds⟩

/-- Options from a document that sets the greatest value of a limit: they are accepted, and the one run of a look
has a limit that does not bound it. -/
theorem greatest_limit_accepted :
    let options : Options :=
      { Options.default with inspectionLimits := ⟨some 18446744073709551615, none⟩ }
    let document :=
      Utf8.encode "\x7b\"info_limits\": \x7b\"max_memory\": 18446744073709551615\x7d\x7d"
    let session : Session Int (List Invocation) := ⟨FileSystem.empty [], .empty, [], []⟩
    Options.parse document = .ok options ∧
      ∃ engine, ofOptions options (noting (.ok [])) assenting = .ok engine ∧
        (engine.history [.inspect (.localFile (Path.ofText "image"))] session).map (·.2.1.limits) =
          [some options.inspectionLimits] ∧
        ¬options.inspectionLimits.Bounds := by
  intro options document session
  refine ⟨by decide +kernel, ⟨options, noting (.ok []), assenting, rfl⟩, rfl, rfl, ?_⟩
  rw [Limits.bounds_iff]
  exact fun ⟨_, busy⟩ => busy (by decide)

end Engine

end VolumeImport
