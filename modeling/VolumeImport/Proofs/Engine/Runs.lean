import VolumeImport.Engine.Perform
import VolumeImport.Proofs.Engine.Record
import VolumeImport.Proofs.Storage.Fallback

/-!
The tool runs of an operation. A tool phase is what an operation does with the image tool: one run,
or a row of runs by the preallocation methods. What a phase leaves behind is what its last run left behind,
and its outcome is the outcome of that run.
-/

namespace VolumeImport

variable {α ω : Type}

namespace Engine

def imageInvocation (engine : Engine ω) (limits : Option Limits) (hasSink : Bool)
    (arguments : List String) : Invocation :=
  ⟨engine.options.imageTool.text, arguments, limits, hasSink⟩

def zeroInvocation (engine : Engine ω) (arguments : List String) : Invocation :=
  ⟨engine.options.zeroTool.text, arguments, none, false⟩

/-- What a tool phase over a row of invocations comes to. -/
structure Phase (engine : Engine ω) (row : List Invocation) (before after : Session α ω)
    (outcome : Except ToolError Bytes) (runs : List (Invocation × Run)) : Prop where
  recorded : after.events = before.events ++ runs.map Event.ofRun
  happened : engine.Happens before.state (runs.map Event.ofRun) after.state
  /-- The runs are the first of the row, in its order. -/
  invoked : runs.map Prod.fst = row.take runs.length
  passedOver : ∀ index run, runs[index]? = some run → index + 1 < runs.length →
    Preallocation.PassesOver run.2.outcome
  last : ∃ last, runs.getLast? = some last ∧ last.2.outcome = outcome ∧
    last.2.files = after.files
  ended : ¬ Preallocation.PassesOver outcome ∨ runs.length = row.length

section

variable {engine : Engine ω} {row : List Invocation} {before after : Session α ω}
  {outcome : Except ToolError Bytes} {runs : List (Invocation × Run)}

theorem Phase.makes (phase : engine.Phase row before after outcome runs) (files : FileSystem) :
    engine.Makes before { after with files } runs :=
  Happens.makes after.files phase.happened phase.recorded (runs_of_ofRun runs)

theorem Phase.member (phase : engine.Phase row before after outcome runs) (run : Invocation × Run)
    (listed : run ∈ runs) : run.1 ∈ row := by
  have invoked := List.mem_map_of_mem (f := Prod.fst) listed
  rw [phase.invoked] at invoked
  exact List.mem_of_mem_take invoked

theorem Phase.ran (phase : engine.Phase row before after outcome runs) : runs ≠ [] := by
  obtain ⟨last, final, -⟩ := phase.last
  rintro rfl
  cases final

theorem Phase.final (phase : engine.Phase row before after outcome runs) (index : Nat)
    (run : Invocation × Run) (found : runs[index]? = some run)
    (final : ¬Preallocation.PassesOver run.2.outcome) :
    index + 1 = runs.length ∧ run.2.outcome = outcome := by
  have inside : index < runs.length := (List.getElem?_eq_some_iff.mp found).1
  rcases Nat.lt_or_ge (index + 1) runs.length with before | behind
  · exact absurd (phase.passedOver index run found before) final
  · have extent : index + 1 = runs.length := by omega
    obtain ⟨last, ended, made, -⟩ := phase.last
    rw [List.getLast?_eq_getElem?, ← extent, Nat.add_sub_cancel, found] at ended
    obtain rfl := Option.some.inj ended
    exact ⟨extent, made⟩

end

def calls (preallocate : Bool) (methods : List Preallocation.Method)
    (placement : Preallocation.Placement) (arguments : List String) : List (List String) :=
  if preallocate then Preallocation.candidates arguments placement methods else [arguments]

def row (engine : Engine ω) (preallocate : Bool) (methods : List Preallocation.Method)
    (placement : Preallocation.Placement) (hasSink : Bool) (arguments : List String) :
    List Invocation :=
  (calls preallocate methods placement arguments).map (engine.imageInvocation none hasSink)

theorem row_member (engine : Engine ω) (preallocate : Bool) (methods : List Preallocation.Method)
    (placement : Preallocation.Placement) (hasSink : Bool) (arguments : List String)
    (invocation : Invocation)
    (member : invocation ∈ engine.row preallocate methods placement hasSink arguments) :
    ∃ flags ∈ [] :: methods, invocation =
      engine.imageInvocation none hasSink (Preallocation.withFlags arguments flags placement) := by
  have plain : Preallocation.withFlags arguments [] placement = arguments := by
    cases placement <;> cases arguments <;> simp [Preallocation.withFlags]
  obtain ⟨call, listed, rfl⟩ := List.mem_map.mp member
  cases preallocate with
  | false =>
      obtain rfl := List.mem_singleton.mp listed
      exact ⟨[], by simp, by rw [plain]⟩
  | true =>
      cases methods with
      | nil =>
          obtain rfl := List.mem_singleton.mp listed
          exact ⟨[], by simp, by rw [plain]⟩
      | cons method others =>
          obtain ⟨flags, chosen, rfl⟩ := List.mem_map.mp listed
          exact ⟨flags, List.mem_cons_of_mem [] chosen, rfl⟩

variable [Progress.Percentage α]

theorem runTool_recorded (engine : Engine ω) (invocation : Invocation) (session : Session α ω) :
    ∃ run, (engine.runTool invocation session).1 = run.outcome ∧
      (engine.runTool invocation session).2.files = run.files ∧
      (engine.runTool invocation session).2.events =
        session.events ++ [Event.ofRun (invocation, run)] ∧
      engine.Happens session.state [Event.ofRun (invocation, run)]
        (engine.runTool invocation session).2.state :=
  ⟨(engine.run invocation session.files session.world).1, rfl, rfl, rfl,
    engine.runTool_happens invocation session⟩

theorem outcomes_recorded (engine : Engine ω) (limits : Option Limits) (hasSink : Bool)
    (calls : List (List String)) (session : Session α ω) :
    ∃ runs : List (Invocation × Run),
      runs.map Prod.fst = calls.map (engine.imageInvocation limits hasSink) ∧
      ∀ index result,
        (Preallocation.outcomes (engine.runImageTool limits hasSink) calls session)[index]? =
            some result →
          ∃ run, runs[index]? = some run ∧ run.2.outcome = result.1 ∧
            run.2.files = result.2.files ∧
            result.2.events =
              session.events ++ (runs.take (index + 1)).map Event.ofRun ∧
            engine.Happens session.state ((runs.take (index + 1)).map Event.ofRun)
              result.2.state := by
  induction calls generalizing session with
  | nil => exact ⟨[], rfl, fun index result made => by simp [Preallocation.outcomes] at made⟩
  | cons arguments rest ih =>
      obtain ⟨run, outcome, files, events, happened⟩ :=
        runTool_recorded engine (engine.imageInvocation limits hasSink arguments) session
      obtain ⟨runs, invoked, recorded⟩ :=
        ih (engine.runImageTool limits hasSink arguments session).2
      refine ⟨(engine.imageInvocation limits hasSink arguments, run) :: runs,
        by simp [invoked], ?_⟩
      intro index result made
      cases index with
      | zero =>
          obtain rfl : engine.runImageTool limits hasSink arguments session = result := by
            simpa [Preallocation.outcomes] using made
          exact ⟨_, rfl, outcome.symm, files.symm, events, happened⟩
      | succ index =>
          obtain ⟨later, found, same, left, noted, further⟩ := recorded index result (by
            simpa [Preallocation.outcomes] using made)
          refine ⟨later, by simpa using found, same, left, ?_, happened.append further⟩
          rw [noted, runImageTool, ← imageInvocation, events]
          simp

theorem attempt_ends (engine : Engine ω) (preallocate : Bool)
    (methods : List Preallocation.Method) (placement : Preallocation.Placement) (hasSink : Bool)
    (arguments : List String) (session : Session α ω) :
    ∃ stop, Preallocation.Ends
      (Preallocation.outcomes (engine.runImageTool none hasSink)
        (calls preallocate methods placement arguments) session) stop
      (engine.attempt preallocate methods placement hasSink arguments session) := by
  cases preallocate with
  | false => exact ⟨0, rfl, by simp, Or.inr rfl⟩
  | true =>
      exact Preallocation.tryInOrder_ends (engine.runImageTool none hasSink) arguments placement
        methods session

theorem ends_phase (engine : Engine ω) (hasSink : Bool) (calls : List (List String))
    (session : Session α ω) (stop : Nat) (result : Except ToolError Bytes × Session α ω)
    (ends : Preallocation.Ends
      (Preallocation.outcomes (engine.runImageTool none hasSink) calls session) stop result) :
    ∃ runs, engine.Phase (calls.map (engine.imageInvocation none hasSink)) session result.2
        result.1 runs ∧
      runs.map (·.2.outcome) =
        ((Preallocation.outcomes (engine.runImageTool none hasSink) calls session).map
          Prod.fst).take runs.length := by
  obtain ⟨runs, invoked, recorded⟩ := outcomes_recorded engine none hasSink calls session
  obtain ⟨last, made, outcome, files, events, happened⟩ := recorded stop _ ends.made
  have inside : stop < runs.length := (List.getElem?_eq_some_iff.mp made).1
  have extent : (runs.take (stop + 1)).length = stop + 1 := by simp; omega
  refine ⟨runs.take (stop + 1), ?_, ?_⟩
  case refine_2 =>
    rw [extent, List.map_take]
    congr 1
    apply List.ext_getElem
    · have called := congrArg List.length invoked
      simpa using called
    · intro index at_run at_outcome
      have bound : index < (Preallocation.outcomes (engine.runImageTool none hasSink) calls
          session).length := by simpa using at_outcome
      obtain ⟨run, found, same, -⟩ := recorded index _ (List.getElem?_eq_getElem bound)
      obtain ⟨_, rfl⟩ := List.getElem?_eq_some_iff.mp found
      simpa using same
  exact
    { recorded := events
      happened := happened
      invoked := by rw [extent, List.map_take, invoked]
      passedOver := by
        intro index run found before
        have early : index < stop := by omega
        obtain ⟨other, at_index, passed⟩ := ends.passedOver index early
        obtain ⟨same, kept, result, -⟩ := recorded index other at_index
        have this : runs[index]? = some run := by
          rw [List.getElem?_take] at found
          simpa [show index < stop + 1 by omega] using found
        obtain rfl : same = run := Option.some.inj (kept.symm.trans this)
        rw [result]
        exact passed
      last := ⟨last, by simp [List.getLast?_take, made], outcome, files⟩
      ended := by
        rcases ends.ended with final | all
        · exact Or.inl final
        · right
          rw [extent, all, Preallocation.outcomes_length, List.length_map] }

theorem attempt_phase (engine : Engine ω) (preallocate : Bool)
    (methods : List Preallocation.Method) (placement : Preallocation.Placement) (hasSink : Bool)
    (arguments : List String) (session : Session α ω) :
    ∃ runs, engine.Phase (engine.row preallocate methods placement hasSink arguments) session
      (engine.attempt preallocate methods placement hasSink arguments session).2
      (engine.attempt preallocate methods placement hasSink arguments session).1 runs := by
  obtain ⟨stop, ends⟩ :=
    attempt_ends engine preallocate methods placement hasSink arguments session
  obtain ⟨runs, phase, -⟩ := ends_phase engine hasSink _ session stop _ ends
  exact ⟨runs, phase⟩

end Engine

end VolumeImport
