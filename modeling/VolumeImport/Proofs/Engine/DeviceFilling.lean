import VolumeImport.Engine.Perform
import VolumeImport.Proofs.Engine.Supervision
import VolumeImport.Proofs.Size.Rounding
import VolumeImport.Proofs.Storage.Tiling

/-!
Filling the head of a device with zeros. The operation goes through the sweeps of the size in order. Each is
a probe and a run by the answer of that probe, and the first of them that fails is the last thing that
happens. If none fails, the runs have written the bytes of the size, each of them once.
-/

namespace VolumeImport.Engine

variable {α ω : Type}

structure Pass where
  sweep : Zeroing.Sweep
  /-- What the probe before the run answered. -/
  direct : Bool
  run : Run

namespace Pass

def Succeeds (pass : Pass) : Prop :=
  ∃ output, pass.run.outcome = .ok output

/-- What the zero tool is told: zeros, so many blocks of so many bytes, from a byte of the destination on. -/
def arguments (destination : Path) (pass : Pass) : List String :=
  ["if=/dev/zero", "of=" ++ destination.text, "bs=" ++ toString pass.sweep.blockSize,
    "count=" ++ toString pass.sweep.count, "seek=" ++ toString pass.sweep.offset,
    if pass.direct then "oflag=seek_bytes,direct" else "oflag=seek_bytes"]

def events (engine : Engine ω) (destination : Path) (pass : Pass) : List Event :=
  [.probed .blockDevice destination (.ok pass.direct),
    .ran ⟨engine.options.zeroTool.text, pass.arguments destination, none, false⟩ pass.run]

end Pass

/-- How a row of sweeps ends: what happens behind its last pass, and the result. -/
inductive SweepsEnd (destination : Path) (plan : List Zeroing.Sweep) (passes : List Pass) :
    List Event → Except ImportError Unit → Prop
  | complete (all : passes.map Pass.sweep = plan) (succeeded : ∀ pass ∈ passes, pass.Succeeds) :
      SweepsEnd destination plan passes [] (.ok ())
  | unprobed (cause : SystemError) (short : passes.length < plan.length)
      (succeeded : ∀ pass ∈ passes, pass.Succeeds) :
      SweepsEnd destination plan passes [.probed .blockDevice destination (.error cause)]
        (.error (.io s!"cannot establish O_DIRECT support for {destination.text}" cause))
  | failed (front : List Pass) (last : Pass) (cause : ToolError) (final : passes = front ++ [last])
      (succeeded : ∀ pass ∈ front, pass.Succeeds) (outcome : last.run.outcome = .error cause) :
      SweepsEnd destination plan passes []
        (.error (.tool
          s!"Could not preallocate blank block volume at {destination.text}, running dd for size {last.sweep.length}, offset {last.sweep.offset}"
          cause))

theorem SweepsEnd.cons {destination : Path} {plan : List Zeroing.Sweep} {passes : List Pass}
    {behind : List Event} {result : Except ImportError Unit} (pass : Pass) (success : pass.Succeeds)
    (ending : SweepsEnd destination plan passes behind result) :
    SweepsEnd destination (pass.sweep :: plan) (pass :: passes) behind result := by
  cases ending with
  | complete all succeeded =>
      exact .complete (by simp [all]) (List.forall_mem_cons.mpr ⟨success, succeeded⟩)
  | unprobed cause short succeeded =>
      exact .unprobed cause (by simpa using short) (List.forall_mem_cons.mpr ⟨success, succeeded⟩)
  | failed front last cause final succeeded outcome =>
      exact .failed (pass :: front) last cause (by simp [final])
        (List.forall_mem_cons.mpr ⟨success, succeeded⟩) outcome

theorem SweepsEnd.all {destination : Path} {plan : List Zeroing.Sweep} {passes : List Pass}
    {behind : List Event} (ending : SweepsEnd destination plan passes behind (.ok ())) :
    passes.map Pass.sweep = plan := by
  cases ending with
  | complete all _ => exact all

variable [Progress.Percentage α]

theorem sweepOnce_course (engine : Engine ω) (destination : Path) (sweep : Zeroing.Sweep)
    (session : Session α ω) :
    ∃ events, (engine.sweepOnce destination sweep session).2.events = session.events ++ events ∧
      engine.Happens session.state events (engine.sweepOnce destination sweep session).2.state ∧
      ((∃ cause, events = [.probed .blockDevice destination (.error cause)] ∧
          (engine.sweepOnce destination sweep session).1 =
            .error (.io (probeContext destination) cause)) ∨
        ∃ pass : Pass, events = pass.events engine destination ∧ pass.sweep = sweep ∧
          (engine.sweepOnce destination sweep session).1 = inContext
            s!"Could not preallocate blank block volume at {destination.text}, running dd for size {sweep.length}, offset {sweep.offset}"
            pass.run.outcome) := by
  have asked := engine.askProber_happens .blockDevice destination session
  unfold sweepOnce askProber at *
  rcases answered : engine.probe .blockDevice destination session.files session.world with
    ⟨⟨cause | direct, files⟩, world⟩
  · rw [answered] at asked
    exact ⟨_, rfl, asked, .inl ⟨cause, rfl, rfl⟩⟩
  · rw [answered] at asked
    let probed : Session α ω :=
      { session with
        files, world, events := session.events ++ [.probed .blockDevice destination (.ok direct)] }
    have ran := engine.runTool_happens
      (engine.zeroInvocation (Zeroing.arguments destination sweep direct)) probed
    exact ⟨_, List.append_assoc session.events _ _, asked.append ran,
      .inr ⟨⟨sweep, direct, _⟩, rfl, rfl, rfl⟩⟩

theorem sweepAll_passes (engine : Engine ω) (destination : Path) (plan : List Zeroing.Sweep)
    (session : Session α ω) :
    ∃ passes behind,
      (engine.sweepAll destination plan session).2.events =
        session.events ++ (passes.flatMap (Pass.events engine destination) ++ behind) ∧
      engine.Happens session.state (passes.flatMap (Pass.events engine destination) ++ behind)
        (engine.sweepAll destination plan session).2.state ∧
      passes.map Pass.sweep <+: plan ∧
      SweepsEnd destination plan passes behind (engine.sweepAll destination plan session).1 := by
  induction plan generalizing session with
  | nil =>
      exact ⟨[], [], by simp [sweepAll], .nothing _, List.nil_prefix, .complete rfl (by simp)⟩
  | cons sweep rest ih =>
      obtain ⟨events, recorded, happened, once⟩ := sweepOnce_course engine destination sweep session
      unfold sweepAll
      rcases made : engine.sweepOnce destination sweep session with ⟨result, after⟩
      rw [made] at recorded happened once
      rcases once with ⟨cause, rfl, rfl⟩ | ⟨pass, rfl, rfl, rfl⟩
      · exact ⟨[], _, recorded, happened, List.nil_prefix, .unprobed cause (by simp) (by simp)⟩
      · cases outcome : pass.run.outcome with
        -- a run that fails is the last event, and the sweeps behind it are not made
        | error cause =>
            exact ⟨[pass], [], by simpa [inContext] using recorded, by simpa [inContext] using happened,
              by simp, .failed [] pass cause rfl (by simp) outcome⟩
        | ok output =>
            obtain ⟨passes, behind, later, happens, inOrder, ending⟩ := ih after
            refine ⟨pass :: passes, behind, ?_, ?_, ?_, .cons pass ⟨output, outcome⟩ ending⟩
            · rw [List.flatMap_cons, List.append_assoc, ← List.append_assoc, ← recorded]
              exact later
            · rw [List.flatMap_cons, List.append_assoc]
              exact happened.append happens
            · exact List.cons_prefix_cons.mpr ⟨rfl, inOrder⟩

theorem byteCount_cases (size : Quantity) :
    match size.byteCount with
    | .error error => error = .invalidSize size.text
    | .ok bytes => size.toolText = toString bytes := by
  rcases Nat.lt_or_ge (2 ^ 63 - 1) size.ceiling with large | small
  · rw [size.byteCount_refused large]
  · rw [size.byteCount_counted small]
    rfl

/-- Zeros are written over exactly the bytes asked for, or the first failure is the last thing that happens. A
size that is no byte count is refused before anything happens, and no size overflows the words that the
sweeps are computed in. -/
theorem device_filled (engine : Engine ω) (destination : Path) (size : Quantity)
    (session : Session α ω) :
    (match size.byteCount with
      | .error error =>
          error = .invalidSize size.text ∧
            engine.zeroDevice destination size session = (.error error, session)
      | .ok bytes =>
          size.toolText = toString bytes ∧ ∃ passes behind,
            (engine.zeroDevice destination size session).2.events =
              session.events ++ (passes.flatMap (Pass.events engine destination) ++ behind) ∧
            engine.Happens session.state (passes.flatMap (Pass.events engine destination) ++ behind)
              (engine.zeroDevice destination size session).2.state ∧
            passes.map Pass.sweep <+: Zeroing.sweeps bytes ∧
            SweepsEnd destination (Zeroing.sweeps bytes) passes behind
              (engine.zeroDevice destination size session).1 ∧
            ((engine.zeroDevice destination size session).1 = .ok () →
              Zeroing.Fills (passes.map Pass.sweep) bytes)) ∧
    ∀ words : Int64,
      (Zeroing.sweeps words.toInt = [] ↔ words.toInt ≤ 0) ∧
      (words / Zeroing.wordChunk * Zeroing.wordChunk).toInt =
        (words / Zeroing.wordChunk).toInt * Zeroing.wordChunk.toInt ∧
      List.Forall₂ Zeroing.Holds (Zeroing.wordSweeps words) (Zeroing.sweeps words.toInt) := by
  refine ⟨?_, fun words =>
    ⟨Zeroing.sweeps_eq_nil_iff _, Zeroing.toInt_covered words, Zeroing.words_hold words⟩⟩
  have counted := byteCount_cases size
  unfold zeroDevice
  cases count : size.byteCount with
  | error error =>
      rw [count] at counted
      exact ⟨counted, rfl⟩
  | ok bytes =>
      rw [count] at counted
      obtain ⟨passes, behind, events, happened, inOrder, ending⟩ :=
        sweepAll_passes engine destination (Zeroing.sweeps bytes) session
      refine ⟨counted, passes, behind, events, happened, inOrder, ending, ?_⟩
      intro done
      dsimp only at ending done
      rw [done] at ending
      rw [ending.all]
      exact Zeroing.sweeps_fill bytes

/-- Two mebibytes and a half of a device that can be written to directly. -/
theorem chunks_and_remainder_filled :
    let engine : Engine (List Invocation) := ⟨Options.default, noting (.ok []), assenting, rfl⟩
    let session : Session Int (List Invocation) := ⟨FileSystem.empty [], .empty, [], []⟩
    let ended := engine.zeroDevice (Path.ofText "device") (Quantity.ofBytes 2621440) session
    ended.1 = .ok () ∧
      ended.2.world.map Invocation.arguments =
        [["if=/dev/zero", "of=device", "bs=1048576", "count=2", "seek=0", "oflag=seek_bytes,direct"],
          ["if=/dev/zero", "of=device", "bs=524288", "count=1", "seek=2097152",
            "oflag=seek_bytes,direct"]] ∧
      Zeroing.Fills [⟨1048576, 2, 0⟩, ⟨524288, 1, 2097152⟩] 2621440 := by
  intro engine session ended
  refine ⟨rfl, rfl, ?_⟩
  obtain ⟨⟨-, passes, behind, -, -, -, ending, filled⟩, -⟩ :=
    device_filled engine (Path.ofText "device") (Quantity.ofBytes 2621440) session
  have made : passes.map Pass.sweep = [⟨1048576, 2, 0⟩, ⟨524288, 1, 2097152⟩] := ending.all
  rw [← made]
  exact filled rfl

end VolumeImport.Engine
