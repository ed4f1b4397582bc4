import VolumeImport.Proofs.Engine.Supervision

/-!
Two engines side by side, whose tools do the same but for what they print. What the image tool prints while it
converts, rebases or commits is the same for both. Of all else that a tool prints the engines have no use but
for whether it complains about a preallocation mode, so they stay side by side through any operations.
-/

namespace VolumeImport

open Preallocation (PassesOver)

def Invocation.IsFollowed (invocation : Invocation) : Prop :=
  ∃ subcommand ∈ ["convert", "rebase", "commit"], invocation.arguments.head? = some subcommand

/-- Both end well or both fail, and both or neither complain about a preallocation mode. -/
structure EndAlike (left right : Except ToolError Bytes) : Prop where
  isOk : left.isOk = right.isOk
  passesOver : PassesOver left ↔ PassesOver right

/-- What two tools did with an invocation differs at most in what they printed. -/
structure Resemble (invocation : Invocation) (left right : Run) : Prop where
  files : left.files = right.files
  outcome : EndAlike left.outcome right.outcome
  lines : invocation.IsFollowed → left.lines = right.lines

variable {α ω ω' : Type}

/-- Two engines that differ in their tools only, and these in what they print only. What the tools and the
probers remember is alike as far as it matters to them. -/
structure Twins (like : ω → ω' → Prop) (engine : Engine ω) (other : Engine ω') : Prop where
  options : engine.options = other.options
  run : ∀ invocation files world otherWorld, like world otherWorld →
    Resemble invocation (engine.run invocation files world).1
        (other.run invocation files otherWorld).1 ∧
      like (engine.run invocation files world).2 (other.run invocation files otherWorld).2
  probe : ∀ kind path files world otherWorld, like world otherWorld →
    (engine.probe kind path files world).1 = (other.probe kind path files otherWorld).1 ∧
      like (engine.probe kind path files world).2 (other.probe kind path files otherWorld).2

/-- The sessions are the same but for the record, and for what is remembered beyond likeness. -/
structure SideBySide (like : ω → ω' → Prop) (left : Session α ω) (right : Session α ω') :
    Prop where
  files : left.files = right.files
  gauge : left.gauge = right.gauge
  world : like left.world right.world

structure Paired {β γ : Type} (like : ω → ω' → Prop) (related : β → γ → Prop)
    (left : β × Session α ω) (right : γ × Session α ω') : Prop where
  results : related left.1 right.1
  sessions : SideBySide like left.2 right.2

def SameEnd {ε β γ : Type} (left : Except ε β) (right : Except ε γ) : Prop :=
  left.isOk = right.isOk

section Pairs

variable {like : ω → ω' → Prop} {ε β γ : Type}

theorem SideBySide.withFiles {left : Session α ω} {right : Session α ω'}
    (level : SideBySide like left right) (change : FileSystem → FileSystem) :
    SideBySide like { left with files := change left.files }
      { right with files := change right.files } :=
  ⟨congrArg change level.files, level.gauge, level.world⟩

theorem Paired.sameEnd {left : Except ToolError Bytes × Session α ω}
    {right : Except ToolError Bytes × Session α ω'} (paired : Paired like EndAlike left right) :
    Paired like SameEnd left right :=
  ⟨paired.results.isOk, paired.sessions⟩

theorem Paired.same {left : β × Session α ω} {right : β × Session α ω'}
    (paired : Paired like Eq left right) :
    ∃ result after otherAfter, left = (result, after) ∧ right = (result, otherAfter) ∧
      SideBySide like after otherAfter := by
  obtain ⟨results, sessions⟩ := paired
  exact ⟨left.1, left.2, right.2, rfl, by rw [results], sessions⟩

theorem Paired.ends {left : Except ε β × Session α ω} {right : Except ε γ × Session α ω'}
    (paired : Paired like SameEnd left right) :
    (∃ error after otherError otherAfter, left = (.error error, after) ∧
        right = (.error otherError, otherAfter) ∧ SideBySide like after otherAfter) ∨
      ∃ value after otherValue otherAfter, left = (.ok value, after) ∧
        right = (.ok otherValue, otherAfter) ∧ SideBySide like after otherAfter := by
  obtain ⟨results, sessions⟩ := paired
  rcases left with ⟨error | value, after⟩ <;> rcases right with ⟨otherError | otherValue, otherAfter⟩
  · exact .inl ⟨_, _, _, _, rfl, rfl, sessions⟩
  · cases results
  · cases results
  · exact .inr ⟨_, _, _, _, rfl, rfl, sessions⟩

end Pairs

namespace Preallocation

theorem tryInOrder_paired {like : ω → ω' → Prop}
    (run : List String → Session α ω → Except ToolError Bytes × Session α ω)
    (other : List String → Session α ω' → Except ToolError Bytes × Session α ω')
    (base : List String) (placement : Placement) (methods : List Method)
    (steps : ∀ arguments ∈ candidates base placement methods, ∀ left right,
      SideBySide like left right → Paired like EndAlike (run arguments left) (other arguments right))
    (left : Session α ω) (right : Session α ω') (start : SideBySide like left right) :
    Paired like EndAlike (tryInOrder run base placement methods left)
      (tryInOrder other base placement methods right) := by
  induction methods generalizing left right with
  | nil => exact steps base (by simp [candidates]) left right start
  | cons method rest ih =>
      have once := steps (withFlags base method placement) (by simp [candidates]) left right start
      cases rest with
      | nil => exact once
      | cons next others =>
          simp only [tryInOrder]
          obtain ⟨error, after, otherError, otherAfter, made, also, sessions⟩ |
            ⟨output, after, otherOutput, otherAfter, made, also, sessions⟩ := once.sameEnd.ends
          · rw [made, also] at once
            -- both go on to the next method, or neither does
            have complaint : isUnsupported error = true ↔ isUnsupported otherError = true := by
              simpa using once.results.passesOver
            simp only [made, also, complaint]
            split
            · exact ih (fun arguments member => steps arguments (List.mem_cons_of_mem _ member))
                after otherAfter sessions
            · exact once
          · rw [made, also] at once ⊢
            exact once

end Preallocation

namespace Engine

variable {like : ω → ω' → Prop} {engine : Engine ω} {other : Engine ω'}
  {left : Session α ω} {right : Session α ω'}

theorem askProber_paired (twins : Twins like engine other) (kind : ProbeKind) (destination : Path)
    (level : SideBySide like left right) :
    Paired like Eq (engine.askProber kind destination left)
      (other.askProber kind destination right) := by
  obtain ⟨same, worlds⟩ :=
    twins.probe kind destination left.files left.world right.world level.world
  rw [level.files] at same worlds
  refine ⟨?_, ?_, ?_, ?_⟩ <;> simp only [askProber, level.files, same]
  · exact level.gauge
  · exact worlds

theorem chooseCacheMode_paired (twins : Twins like engine other) (hint : CacheHint)
    (destination : Path) (level : SideBySide like left right) :
    Paired like Eq (engine.chooseCacheMode hint destination left)
      (other.chooseCacheMode hint destination right) := by
  unfold chooseCacheMode
  rw [level.files]
  rcases neededProbe hint destination right.files with error | _ | kind
  · exact ⟨rfl, level⟩
  · exact ⟨rfl, level⟩
  · obtain ⟨answer, after, otherAfter, asked, also, sessions⟩ :=
      (askProber_paired twins kind destination level).same
    simp only [asked, also]
    cases answer <;> exact ⟨rfl, sessions⟩

variable [Progress.Percentage α]

theorem runTool_paired (twins : Twins like engine other) (invocation : Invocation)
    (wired : invocation.hasSink = true → invocation.IsFollowed)
    (level : SideBySide like left right) :
    Paired like EndAlike (engine.runTool invocation left) (other.runTool invocation right) := by
  obtain ⟨resemble, worlds⟩ := twins.run invocation left.files left.world right.world level.world
  rw [level.files] at resemble worlds
  refine ⟨?_, ?_, ?_, ?_⟩ <;> simp only [runTool, level.files, level.gauge, ← twins.options]
  · exact resemble.outcome
  · exact resemble.files
  · cases sink : invocation.hasSink with
    | false => rfl
    | true => simp only [resemble.lines (wired sink)]
  · exact worlds

theorem attempt_paired (twins : Twins like engine other) (preallocate : Bool)
    (methods : List Preallocation.Method) (placement : Preallocation.Placement) (hasSink : Bool)
    (arguments : List String)
    (wired : ∀ invocation ∈ engine.row preallocate methods placement hasSink arguments,
      invocation.hasSink = true → invocation.IsFollowed)
    (level : SideBySide like left right) :
    Paired like EndAlike (engine.attempt preallocate methods placement hasSink arguments left)
      (other.attempt preallocate methods placement hasSink arguments right) := by
  have tool : ∀ call, other.runImageTool (α := α) none hasSink call =
      other.runTool (engine.imageInvocation none hasSink call) := by
    intro call
    simp only [imageInvocation, twins.options]
    rfl
  simp only [row, List.mem_map, forall_exists_index, and_imp, forall_apply_eq_imp_iff₂] at wired
  cases preallocate with
  | false =>
      show Paired like EndAlike _ (other.runImageTool none hasSink arguments right)
      rw [tool]
      exact runTool_paired twins _ (wired arguments (by simp [calls])) level
  | true =>
      apply Preallocation.tryInOrder_paired _ _ arguments placement methods _ left right level
      intro call member before otherBefore step
      rw [tool]
      exact runTool_paired twins _ (wired call member) step

theorem row_wired (preallocate : Bool) (methods : List Preallocation.Method)
    (placement : Preallocation.Placement) (hasSink : Bool) (subcommand : String)
    (rest : List String)
    (followed : hasSink = true → subcommand ∈ ["convert", "rebase", "commit"]) :
    ∀ invocation ∈ engine.row preallocate methods placement hasSink (subcommand :: rest),
      invocation.hasSink = true → invocation.IsFollowed := by
  intro invocation member sink
  obtain ⟨-, same, head⟩ := row_head preallocate methods placement hasSink subcommand rest
    invocation member
  exact ⟨subcommand, followed (same.symm.trans sink), head⟩

theorem convert_paired (twins : Twins like engine other) (source : Source) (destination : Path)
    (preallocate : Bool) (hint : CacheHint) (level : SideBySide like left right) :
    SideBySide like (engine.convert source destination preallocate hint left).2
      (other.convert source destination preallocate hint right).2 := by
  unfold convert
  cases source.requireScheme [exportScheme] with
  | error error => exact level
  | ok _ =>
      obtain ⟨answer, middle, otherMiddle, chosen, also, sessions⟩ :=
        (chooseCacheMode_paired twins hint destination level).same
      simp only [chosen, also]
      cases answer with
      | error error => exact sessions
      | ok mode =>
          have tried := attempt_paired twins preallocate Preallocation.convertMethods
            .behindSubcommand true (Arguments.convert mode source destination)
            (row_wired _ _ _ _ "convert" _ (by simp)) sessions
          obtain ⟨_, _, _, _, made, also, after⟩ | ⟨_, _, _, _, made, also, after⟩ :=
            tried.sameEnd.ends
          · simp only [made, also]
            exact after.withFiles (clearDestination · destination)
          · simp only [made, also]
            exact after

theorem create_paired (twins : Twins like engine other) (destination : Path) (size : Quantity)
    (preallocate : Bool) (level : SideBySide like left right) :
    SideBySide like (engine.create destination size preallocate left).2
      (other.create destination size preallocate right).2 := by
  have tried := attempt_paired twins preallocate Preallocation.createMethods .atEnd false
    (Arguments.create destination size) (row_wired _ _ _ _ "create" _ nofun) level
  unfold create
  obtain ⟨_, _, _, _, made, also, after⟩ | ⟨_, _, _, _, made, also, after⟩ := tried.sameEnd.ends
  · simp only [made, also]
    exact after.withFiles (clearDestination · destination)
  · simp only [made, also, after.files]
    split
    · exact ⟨rfl, after.gauge, after.world⟩
    · exact ⟨rfl, after.gauge, after.world⟩

theorem inspect_session (engine : Engine ω) (source : Source) (session : Session α ω) :
    (engine.inspect source session).2 =
      match source.requireScheme [exportScheme, fileScheme] with
      | .error _ => session
      | .ok _ => (engine.runTool (engine.imageInvocation (some engine.options.inspectionLimits) false
          (Arguments.inspect source)) session).2 := by
  unfold inspect
  cases source.requireScheme [exportScheme, fileScheme] with
  | error error => rfl
  | ok _ =>
      simp only [runImageTool, imageInvocation]
      rcases engine.runTool _ session with ⟨cause | output, after⟩ <;> rfl

theorem validate_session (engine : Engine ω) (source : Source) (available : Int)
    (session : Session α ω) :
    (engine.validate source available session).2 = (engine.inspect source session).2 := by
  unfold validate
  rcases engine.inspect source session with ⟨error | report, after⟩ <;> rfl

theorem inspect_paired (twins : Twins like engine other) (source : Source)
    (level : SideBySide like left right) :
    SideBySide like (engine.inspect source left).2 (other.inspect source right).2 := by
  rw [inspect_session, inspect_session]
  cases source.requireScheme [exportScheme, fileScheme] with
  | error error => exact level
  | ok _ =>
      simp only [imageInvocation, ← twins.options]
      exact (runTool_paired twins _ (by simp) level).sessions

theorem inContext_sameEnd {left right : Except ToolError Bytes} (context otherContext : String)
    (same : left.isOk = right.isOk) :
    SameEnd (inContext context left) (inContext otherContext right) := by
  cases left <;> cases right <;> first | rfl | cases same

theorem sweepOnce_paired (twins : Twins like engine other) (destination : Path)
    (sweep : Zeroing.Sweep) (level : SideBySide like left right) :
    Paired like SameEnd (engine.sweepOnce destination sweep left)
      (other.sweepOnce destination sweep right) := by
  obtain ⟨answer, middle, otherMiddle, asked, also, sessions⟩ :=
    (askProber_paired twins .blockDevice destination level).same
  unfold sweepOnce
  simp only [asked, also]
  cases answer with
  | error error => exact ⟨rfl, sessions⟩
  | ok direct =>
      have filled := runTool_paired twins
        (engine.zeroInvocation (Zeroing.arguments destination sweep direct)) nofun sessions
      simp only [runZeroTool, ← twins.options]
      exact ⟨inContext_sameEnd _ _ filled.results.isOk, filled.sessions⟩

theorem sweepAll_paired (twins : Twins like engine other) (destination : Path)
    (sweeps : List Zeroing.Sweep) (level : SideBySide like left right) :
    SideBySide like (engine.sweepAll destination sweeps left).2
      (other.sweepAll destination sweeps right).2 := by
  induction sweeps generalizing left right with
  | nil => exact level
  | cons sweep rest ih =>
      simp only [sweepAll]
      obtain ⟨_, _, _, _, made, also, after⟩ | ⟨_, _, _, _, made, also, after⟩ :=
        (sweepOnce_paired twins destination sweep level).ends
      · simp only [made, also]
        exact after
      · simp only [made, also]
        exact ih after

theorem zeroDevice_paired (twins : Twins like engine other) (destination : Path) (size : Quantity)
    (level : SideBySide like left right) :
    SideBySide like (engine.zeroDevice destination size left).2
      (other.zeroDevice destination size right).2 := by
  unfold zeroDevice
  cases size.byteCount with
  | error error => exact level
  | ok bytes => exact sweepAll_paired twins destination _ level

theorem perform_paired (twins : Twins like engine other) (operation : Operation)
    (level : SideBySide like left right) :
    SideBySide like (engine.perform operation left).2 (other.perform operation right).2 := by
  cases operation with
  | convert source destination preallocate hint =>
      exact convert_paired twins source destination preallocate hint level
  | resize image size preallocate =>
      exact (attempt_paired twins preallocate Preallocation.resizeMethods .behindSubcommand false
        (Arguments.resize image size) (row_wired _ _ _ _ "resize" _ nofun) level).sessions
  | inspect source => exact inspect_paired twins source level
  | validate source available =>
      show SideBySide like (engine.validate source available left).2
        (other.validate source available right).2
      rw [validate_session, validate_session]
      exact inspect_paired twins source level
  | create destination size preallocate =>
      exact create_paired twins destination size preallocate level
  | rebase backingFile delta =>
      exact (attempt_paired twins false [] .atEnd true (Arguments.rebase backingFile delta)
        (row_wired _ _ _ _ "rebase" _ (by simp)) level).sessions
  | commit image =>
      exact (attempt_paired twins false [] .atEnd true (Arguments.commit image)
        (row_wired _ _ _ _ "commit" _ (by simp)) level).sessions
  | zeroDevice destination size => exact zeroDevice_paired twins destination size level

theorem performAll_paired (twins : Twins like engine other) (operations : List Operation)
    (level : SideBySide like left right) :
    SideBySide like (engine.performAll operations left).2 (other.performAll operations right).2 := by
  induction operations generalizing left right with
  | nil => exact level
  | cons operation rest ih => exact ih (perform_paired twins operation level)

end Engine

end VolumeImport
