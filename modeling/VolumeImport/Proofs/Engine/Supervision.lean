import VolumeImport.Proofs.Engine.Runs

/-!
Which runs an operation may make. An operation does three things to a session: it runs tools, asks the prober
and changes files; whatever holds of a session through these steps holds of it through every row of
operations. Each operation is held to its own runs. Above all, only the looks into an image run the image
tool on its header, and they do so under the limits that the engine was accepted with.
-/

namespace VolumeImport

def Operation.inspects : Operation → Bool
  | .inspect .. | .validate .. => true
  | _ => false

def Operation.followsProgress : Operation → Bool
  | .convert .. | .rebase .. | .commit .. => true
  | _ => false

def Operation.writesZeros : Operation → Bool
  | .zeroDevice .. => true
  | _ => false

def Options.tool (options : Options) (operation : Operation) : Path :=
  if operation.writesZeros then options.zeroTool else options.imageTool

def Limits.IsBounding (limits : Limits) : Prop :=
  limits.maxMemory.isSome ∨ limits.maxCpuTime.isSome

/-- What an engine with these options may run for an operation. -/
structure Supervised (options : Options) (operation : Operation) (invocation : Invocation) :
    Prop where
  program : invocation.program = (options.tool operation).text
  subcommand : invocation.arguments.head? = some "info" ↔ operation.inspects
  bounded : operation.inspects →
    invocation.limits = some options.inspectionLimits ∧ options.inspectionLimits.IsBounding
  watched : invocation.hasSink ↔ operation.followsProgress

theorem Options.validate_iff (options : Options) :
    options.validate = .ok () ↔ options.inspectionLimits.IsBounding ∧
      options.imageTool.bytes ≠ [] ∧ options.zeroTool.bytes ≠ [] := by
  obtain ⟨owner, imageTool, zeroTool, exportLog, memory, cpuTime⟩ := options
  cases memory <;> cases cpuTime <;> simp [Options.validate, Limits.IsBounding]

namespace Engine

variable {α ω : Type} [Progress.Percentage α]

theorem ofOptions_ok (options : Options) (run : Runner ω) (probe : Prober ω)
    (engine : Engine ω) (accepted : ofOptions options run probe = .ok engine) :
    ∃ valid, engine = ⟨options, run, probe, valid⟩ := by
  unfold ofOptions at accepted
  split at accepted
  · rename_i valid
    exact ⟨valid, (Except.ok.inj accepted).symm⟩
  · cases accepted

/-- A session comes from another by steps of the engine, and each of its runs is allowed. -/
inductive Steps (engine : Engine ω) (allowed : Invocation → Prop) (before : Session α ω) :
    Session α ω → Prop
  | start : Steps engine allowed before before
  | ran (session : Session α ω) (invocation : Invocation)
      (earlier : Steps engine allowed before session) (fits : allowed invocation) :
      Steps engine allowed before (engine.runTool invocation session).2
  | probed (session : Session α ω) (kind : ProbeKind) (path : Path)
      (earlier : Steps engine allowed before session) :
      Steps engine allowed before (engine.askProber kind path session).2
  | changed (session : Session α ω) (files : FileSystem)
      (earlier : Steps engine allowed before session) :
      Steps engine allowed before { session with files }

variable {engine : Engine ω} {allowed : Invocation → Prop} {before session after : Session α ω}

/-- The runner remembers its invocations, the latest last, and the prober leaves them alone. -/
structure Notes (run : Runner ω) (probe : Prober ω) (noted : ω → List Invocation) : Prop where
  run : ∀ invocation files world,
    noted (run invocation files world).2 = noted world ++ [invocation]
  probe : ∀ kind path files world, noted (probe kind path files world).2 = noted world

theorem Steps.recorded (steps : Steps engine allowed before after) :
    ∃ runs, after.runs = before.runs ++ runs ∧ (∀ run ∈ runs, allowed run.1) ∧
      ∀ noted, Notes engine.run engine.probe noted →
        noted after.world = noted before.world ++ runs.map Prod.fst := by
  induction steps with
  | start => exact ⟨[], by simp, by simp, by simp⟩
  | ran session invocation earlier fits ih =>
      obtain ⟨runs, recorded, kept, same⟩ := ih
      obtain ⟨run, -, -, noted, -⟩ := runTool_recorded engine invocation session
      refine ⟨runs ++ [(invocation, run)], ?_, ?_, ?_⟩
      · rw [Session.runs_of_events session _ [(invocation, run)] noted, recorded,
          List.append_assoc]
      · intro entry member
        rcases List.mem_append.mp member with old | new
        · exact kept entry old
        · obtain rfl := List.mem_singleton.mp new
          exact fits
      · intro noted notes
        have called := notes.run invocation session.files session.world
        rw [same noted notes, List.append_assoc] at called
        simpa [runTool] using called
  | probed session kind path earlier ih =>
      obtain ⟨runs, recorded, kept, same⟩ := ih
      refine ⟨runs, ?_, kept, ?_⟩
      · rw [← recorded]
        simp [askProber, Session.runs, Event.run?]
      · intro noted notes
        have asked := notes.probe kind path session.files session.world
        rw [same noted notes] at asked
        exact asked
  | changed session files earlier ih => exact ih

theorem chooseCacheMode_steps (hint : CacheHint) (destination : Path)
    (earlier : Steps engine allowed before session) :
    Steps engine allowed before (engine.chooseCacheMode hint destination session).2 := by
  unfold chooseCacheMode
  split
  · exact earlier
  · exact earlier
  · rename_i kind _
    have asked := Steps.probed session kind destination earlier
    split <;> rename_i answer <;> rwa [answer] at asked

theorem attempt_steps (preallocate : Bool) (methods : List Preallocation.Method)
    (placement : Preallocation.Placement) (hasSink : Bool) (arguments : List String)
    (fits : ∀ invocation ∈ engine.row preallocate methods placement hasSink arguments,
      allowed invocation)
    (earlier : Steps engine allowed before session) :
    Steps engine allowed before
      (engine.attempt preallocate methods placement hasSink arguments session).2 := by
  simp only [row, calls, List.mem_map, forall_exists_index, and_imp,
    forall_apply_eq_imp_iff₂] at fits
  cases preallocate with
  | false => exact .ran session _ earlier (fits arguments (by simp))
  | true =>
      apply Preallocation.tryInOrder_keeps (engine.runImageTool none hasSink) arguments placement
        methods session (Steps engine allowed before)
      · intro call member reached steps
        exact .ran reached _ steps (fits call (by simpa using member))
      · exact earlier

theorem row_head (preallocate : Bool) (methods : List Preallocation.Method)
    (placement : Preallocation.Placement) (hasSink : Bool) (subcommand : String)
    (rest : List String) (invocation : Invocation)
    (member : invocation ∈ engine.row preallocate methods placement hasSink (subcommand :: rest)) :
    invocation.program = engine.options.imageTool.text ∧ invocation.hasSink = hasSink ∧
      invocation.arguments.head? = some subcommand := by
  obtain ⟨flags, -, rfl⟩ := engine.row_member preallocate methods placement hasSink _ _ member
  cases placement with
  | behindSubcommand => exact ⟨rfl, rfl, rfl⟩
  | atEnd => exact ⟨rfl, rfl, rfl⟩

theorem row_supervised (operation : Operation) (preallocate : Bool)
    (methods : List Preallocation.Method) (placement : Preallocation.Placement) (hasSink : Bool)
    (subcommand : String) (rest : List String) (other : subcommand ≠ "info")
    (looks : operation.inspects = false) (tool : operation.writesZeros = false)
    (watched : operation.followsProgress = hasSink) :
    ∀ invocation ∈ engine.row preallocate methods placement hasSink (subcommand :: rest),
      Supervised engine.options operation invocation := by
  intro invocation member
  obtain ⟨program, sink, head⟩ := row_head preallocate methods placement hasSink subcommand rest
    invocation member
  exact
    { program := by simp [program, Options.tool, tool]
      subcommand := by simp [head, other, looks]
      bounded := by simp [looks]
      watched := by rw [sink, watched] }

theorem inspection_supervised (source : Source) (operation : Operation)
    (looks : operation.inspects = true) (tool : operation.writesZeros = false)
    (watched : operation.followsProgress = false) :
    Supervised engine.options operation
      (engine.imageInvocation (some engine.options.inspectionLimits) false
        (Arguments.inspect source)) :=
  { program := by simp [Options.tool, tool, imageInvocation]
    subcommand := by simp [imageInvocation, Arguments.inspect, looks]
    bounded := fun _ => ⟨rfl, (engine.options.validate_iff.mp engine.options_valid).1⟩
    watched := by simp [imageInvocation, watched] }

theorem inspect_steps (source : Source)
    (fits : allowed (engine.imageInvocation (some engine.options.inspectionLimits) false
      (Arguments.inspect source)))
    (earlier : Steps engine allowed before session) :
    Steps engine allowed before (engine.inspect source session).2 := by
  unfold inspect
  split
  · exact earlier
  · have ran := Steps.ran session _ earlier fits
    split <;> rename_i made <;> rw [runImageTool] at made <;> simpa [imageInvocation, made] using ran

theorem sweepOnce_steps (destination : Path) (sweep : Zeroing.Sweep)
    (fits : ∀ direct,
      allowed (engine.zeroInvocation (Zeroing.arguments destination sweep direct)))
    (earlier : Steps engine allowed before session) :
    Steps engine allowed before (engine.sweepOnce destination sweep session).2 := by
  unfold sweepOnce
  have asked := Steps.probed session .blockDevice destination earlier
  split
  · rename_i answer
    rwa [answer] at asked
  · rename_i direct reached answer
    rw [answer] at asked
    exact .ran reached _ asked (fits direct)

theorem sweepAll_steps (destination : Path) (sweeps : List Zeroing.Sweep)
    (fits : ∀ sweep direct,
      allowed (engine.zeroInvocation (Zeroing.arguments destination sweep direct)))
    (earlier : Steps engine allowed before session) :
    Steps engine allowed before (engine.sweepAll destination sweeps session).2 := by
  induction sweeps generalizing session with
  | nil => exact earlier
  | cons sweep rest ih =>
      have once := sweepOnce_steps destination sweep (fits sweep) earlier
      unfold sweepAll
      split <;> rename_i made <;> rw [made] at once
      · exact once
      · exact ih once

theorem convert_steps (source : Source) (destination : Path) (preallocate : Bool)
    (hint : CacheHint)
    (fits : ∀ mode, ∀ invocation ∈ engine.row preallocate Preallocation.convertMethods
      .behindSubcommand true (Arguments.convert mode source destination), allowed invocation)
    (earlier : Steps engine allowed before session) :
    Steps engine allowed before
      (engine.convert source destination preallocate hint session).2 := by
  unfold convert
  split
  · exact earlier
  · have chosen := chooseCacheMode_steps hint destination earlier
    split <;> rename_i choice <;> rw [choice] at chosen
    · exact chosen
    · rename_i mode middle
      have tried := attempt_steps _ _ _ _ _ (fits mode) chosen
      split <;> rename_i made <;> rw [made] at tried
      · exact tried
      · exact .changed _ _ tried

theorem create_steps (destination : Path) (size : Quantity) (preallocate : Bool)
    (fits : ∀ invocation ∈ engine.row preallocate Preallocation.createMethods .atEnd false
      (Arguments.create destination size), allowed invocation)
    (earlier : Steps engine allowed before session) :
    Steps engine allowed before (engine.create destination size preallocate session).2 := by
  have tried := attempt_steps _ _ _ _ _ fits earlier
  unfold create
  split <;> rename_i made <;> rw [made] at tried
  · exact .changed _ _ tried
  · split
    · exact .changed _ _ tried
    · exact .changed _ _ tried

theorem validate_steps (source : Source) (available : Int)
    (fits : allowed (engine.imageInvocation (some engine.options.inspectionLimits) false
      (Arguments.inspect source)))
    (earlier : Steps engine allowed before session) :
    Steps engine allowed before (engine.validate source available session).2 := by
  have looked := inspect_steps source fits earlier
  unfold validate
  split <;> rename_i made <;> rwa [made] at looked

theorem zeroDevice_steps (destination : Path) (size : Quantity)
    (fits : ∀ sweep direct,
      allowed (engine.zeroInvocation (Zeroing.arguments destination sweep direct)))
    (earlier : Steps engine allowed before session) :
    Steps engine allowed before (engine.zeroDevice destination size session).2 := by
  unfold zeroDevice
  split
  · exact earlier
  · exact sweepAll_steps destination _ fits earlier

theorem sweep_supervised (destination : Path) (size : Quantity) (sweep : Zeroing.Sweep)
    (direct : Bool) :
    Supervised engine.options (.zeroDevice destination size)
      (engine.zeroInvocation (Zeroing.arguments destination sweep direct)) :=
  { program := rfl
    subcommand := by
      simp [zeroInvocation, Zeroing.arguments, Zeroing.sourceArgument, Operation.inspects]
    bounded := by simp [Operation.inspects]
    watched := by simp [zeroInvocation, Operation.followsProgress] }

theorem perform_steps (engine : Engine ω) (operation : Operation) (session : Session α ω) :
    Steps engine (Supervised engine.options operation) session
      (engine.perform operation session).2 := by
  cases operation with
  | convert source destination preallocate hint =>
      exact convert_steps source destination preallocate hint
        (fun mode => row_supervised _ _ _ _ _ "convert" _ (by decide) rfl rfl rfl) .start
  | resize image size preallocate =>
      exact attempt_steps preallocate _ _ _ _
        (row_supervised _ _ _ _ _ "resize" _ (by decide) rfl rfl rfl) .start
  | inspect source => exact inspect_steps source (inspection_supervised source _ rfl rfl rfl) .start
  | validate source available =>
      exact validate_steps source available (inspection_supervised source _ rfl rfl rfl) .start
  | create destination size preallocate =>
      exact create_steps destination size preallocate
        (row_supervised _ _ _ _ _ "create" _ (by decide) rfl rfl rfl) .start
  | rebase backingFile delta =>
      exact attempt_steps false [] .atEnd true (Arguments.rebase backingFile delta)
        (row_supervised _ _ _ _ _ "rebase" _ (by decide) rfl rfl rfl) .start
  | commit image =>
      exact attempt_steps false [] .atEnd true (Arguments.commit image)
        (row_supervised _ _ _ _ _ "commit" _ (by decide) rfl rfl rfl) .start
  | zeroDevice destination size =>
      exact zeroDevice_steps destination size (sweep_supervised destination size) .start

def runsOf (engine : Engine ω) (operation : Operation) (session : Session α ω) :
    List (Invocation × Run) :=
  (engine.perform operation session).2.runs.drop session.runs.length

theorem runsOf_recorded (engine : Engine ω) (operation : Operation) (session : Session α ω) :
    (engine.perform operation session).2.runs = session.runs ++ engine.runsOf operation session ∧
      (∀ run ∈ engine.runsOf operation session, Supervised engine.options operation run.1) ∧
      ∀ noted, Notes engine.run engine.probe noted →
        noted (engine.perform operation session).2.world =
          noted session.world ++ (engine.runsOf operation session).map Prod.fst := by
  obtain ⟨runs, recorded, supervised⟩ := (perform_steps engine operation session).recorded
  have made : engine.runsOf operation session = runs := by
    rw [runsOf, recorded, List.drop_left]
  rw [made]
  exact ⟨recorded, supervised⟩

def history (engine : Engine ω) :
    List Operation → Session α ω → List (Operation × Invocation × Run)
  | [], _ => []
  | operation :: rest, session =>
      (engine.runsOf operation session).map (operation, ·)
        ++ history engine rest (engine.perform operation session).2

theorem performAll_recorded (engine : Engine ω) (operations : List Operation)
    (session : Session α ω) :
    (engine.performAll operations session).2.runs =
        session.runs ++ (engine.history operations session).map Prod.snd ∧
      ∀ noted, Notes engine.run engine.probe noted →
        noted (engine.performAll operations session).2.world =
          noted session.world ++ (engine.history operations session).map (·.2.1) := by
  induction operations generalizing session with
  | nil => simp [performAll, history]
  | cons operation rest ih =>
      obtain ⟨recorded, -, seen⟩ := runsOf_recorded engine operation session
      obtain ⟨later, later_seen⟩ := ih (engine.perform operation session).2
      constructor
      · simp [performAll, history, later, recorded, Function.comp_def]
      · intro noted notes
        simp [performAll, history, later_seen noted notes, seen noted notes, Function.comp_def]

theorem history_supervised (engine : Engine ω) (operations : List Operation)
    (session : Session α ω) :
    ∀ entry ∈ engine.history operations session,
      entry.1 ∈ operations ∧ Supervised engine.options entry.1 entry.2.1 := by
  induction operations generalizing session with
  | nil => simp [history]
  | cons operation rest ih =>
      intro entry member
      rcases List.mem_append.mp member with here | later
      · obtain ⟨run, made, rfl⟩ := List.mem_map.mp here
        exact ⟨by simp, (runsOf_recorded engine operation session).2.1 run made⟩
      · obtain ⟨listed, supervised⟩ := ih _ entry later
        exact ⟨List.mem_cons_of_mem operation listed, supervised⟩

/-- However the operations follow one another, an accepted engine makes no run but those that its
options allow the operation at hand: it looks at the header of an image under a bound, and nowhere else. -/
theorem runs_supervised (options : Options) (run : Runner ω) (probe : Prober ω)
    (engine : Engine ω) (accepted : ofOptions options run probe = .ok engine)
    (operations : List Operation) (session : Session α ω) :
    (engine.performAll operations session).2.runs =
        session.runs ++ (engine.history operations session).map Prod.snd ∧
      (∀ noted, Notes run probe noted →
        noted (engine.performAll operations session).2.world =
          noted session.world ++ (engine.history operations session).map (·.2.1)) ∧
      ∀ entry ∈ engine.history operations session,
        entry.1 ∈ operations ∧ Supervised options entry.1 entry.2.1 := by
  obtain ⟨valid, rfl⟩ := ofOptions_ok options run probe engine accepted
  obtain ⟨recorded, seen⟩ := performAll_recorded ⟨options, run, probe, valid⟩ operations session
  exact ⟨recorded, seen, history_supervised _ operations session⟩

def noting (outcome : Except ToolError Bytes) : Runner (List Invocation) :=
  fun invocation files noted => ({ lines := [], files, outcome }, noted ++ [invocation])

def assenting : Prober (List Invocation) :=
  fun _ _ files noted => ((.ok true, files), noted)

/-- A look, a conversion on storage without any preallocation mode, and a device whose first sweep
fails. -/
theorem failing_runs_supervised :
    let tool := noting (.error (.exited "qemu-img" 1 "" Preallocation.unsupportedText))
    let image := Path.ofText "image"
    let operations := [Operation.inspect (.localFile image),
      .convert (.localFile image) (Path.ofText "volume") true .writeback,
      .zeroDevice (Path.ofText "device") (Quantity.ofBytes 1048577)]
    let session : Session Int (List Invocation) := ⟨FileSystem.empty [], .empty, [], []⟩
    ∃ engine, ofOptions Options.default tool assenting = .ok engine ∧
      (engine.performAll operations session).2.world.map (fun invocation =>
          (invocation.program, invocation.arguments.head?, invocation.hasSink)) =
        [("qemu-img", some "info", false), ("qemu-img", some "convert", true),
          ("qemu-img", some "convert", true), ("qemu-img", some "convert", true),
          ("dd", some "if=/dev/zero", false)] ∧
      (∀ noted, Notes tool assenting noted →
        noted (engine.performAll operations session).2.world =
          noted session.world ++ (engine.history operations session).map (·.2.1)) ∧
      ∀ entry ∈ engine.history operations session,
        entry.1 ∈ operations ∧ Supervised Options.default entry.1 entry.2.1 := by
  intro tool image operations session
  refine ⟨⟨Options.default, tool, assenting, rfl⟩, rfl, rfl, ?_⟩
  exact (runs_supervised Options.default tool assenting _ rfl operations session).2

end Engine

end VolumeImport
