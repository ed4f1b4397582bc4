import VolumeImport.Proofs.Engine.Twins
import VolumeImport.Proofs.Progress.Exact

/-!
From the output of the tools to the counters. A gauge takes in the lines that are printed while an operation
runs whose progress is followed, those of all its attempts, and no others. So operations bring the counter of
the owner up to the greatest value in these lines, and whatever else a tool prints shows in no counter.
-/

namespace VolumeImport.Engine

open Progress

variable {α ω : Type}

def heard (runs : List (Invocation × Run)) : List String :=
  (runs.filter (·.1.hasSink)).flatMap (·.2.lines)

def followed (history : List (Operation × Invocation × Run)) : List String :=
  (history.filter (·.1.followsProgress)).flatMap (·.2.2.lines)

theorem heard_append (first rest : List (Invocation × Run)) :
    heard (first ++ rest) = heard first ++ heard rest := by
  simp [heard]

theorem followed_append (first rest : List (Operation × Invocation × Run)) :
    followed (first ++ rest) = followed first ++ followed rest := by
  simp [followed]

theorem followed_supervised (options : Options) (operation : Operation)
    (runs : List (Invocation × Run))
    (supervised : ∀ run ∈ runs, Supervised options operation run.1) :
    followed (runs.map (operation, ·)) = heard runs := by
  have same : runs.filter (·.1.hasSink) = runs.filter fun _ => operation.followsProgress :=
    List.filter_congr fun run member => Bool.eq_iff_iff.mpr (supervised run member).watched
  rw [heard, same]
  simp [followed, List.filter_map, List.flatMap_map, Function.comp_def]

variable [Percentage α]

theorem Steps.heard_only {engine : Engine ω} {allowed : Invocation → Prop}
    {before after : Session α ω} (steps : Steps engine allowed before after) :
    ∃ runs, after.runs = before.runs ++ runs ∧
      after.gauge = reportAll engine.options.owner before.gauge (heard runs) := by
  induction steps with
  | start => exact ⟨[], by simp, rfl⟩
  | ran session invocation earlier fits ih =>
      obtain ⟨runs, recorded, gauge⟩ := ih
      let run := (engine.run invocation session.files session.world).1
      refine ⟨runs ++ [(invocation, run)], ?_, ?_⟩
      · rw [Session.runs_of_events session _ [(invocation, run)] rfl, recorded, List.append_assoc]
      · rw [heard_append, reportAll_append, ← gauge]
        cases sink : invocation.hasSink with
        | false => simp [runTool, heard, sink, reportAll]
        | true => simp [runTool, heard, sink, run]
  | probed session kind path earlier ih =>
      obtain ⟨runs, recorded, gauge⟩ := ih
      refine ⟨runs, ?_, gauge⟩
      rw [← recorded]
      simp [askProber, Session.runs, Event.run?]
  | changed session files earlier ih => exact ih

theorem perform_gauge (engine : Engine ω) (operation : Operation) (session : Session α ω) :
    (engine.perform operation session).2.gauge = reportAll engine.options.owner session.gauge
      (followed ((engine.runsOf operation session).map (operation, ·))) := by
  obtain ⟨runs, recorded, gauge⟩ := (perform_steps engine operation session).heard_only
  have made : engine.runsOf operation session = runs := by
    rw [runsOf, recorded, List.drop_left]
  have supervised := (runsOf_recorded engine operation session).2.1
  rw [made] at supervised ⊢
  rw [followed_supervised engine.options operation runs supervised, gauge]

def followedLines (engine : Engine ω) (operations : List Operation) (session : Session α ω) :
    List String :=
  followed (engine.history operations session)

theorem performAll_gauge (engine : Engine ω) (operations : List Operation)
    (session : Session α ω) :
    (engine.performAll operations session).2.gauge =
      reportAll engine.options.owner session.gauge (engine.followedLines operations session) := by
  induction operations generalizing session with
  | nil => rfl
  | cons operation rest ih =>
      have once := perform_gauge engine operation session
      have later := ih (engine.perform operation session).2
      rw [followedLines, history, followed_append, reportAll_append, ← once]
      exact later

theorem performAll_append (engine : Engine ω) (first rest : List Operation)
    (session : Session α ω) :
    (engine.performAll (first ++ rest) session).2 =
      (engine.performAll rest (engine.performAll first session).2).2 := by
  induction first generalizing session with
  | nil => rfl
  | cons operation others ih => exact ih (engine.perform operation session).2

section Exact

variable [AddCommGroup α] [LinearOrder α]

/-- What operations make of the counters. Followed are conversions, rebases and commits. -/
structure Tracks (engine : Engine ω) (operations : List Operation) (session : Session α ω) :
    Prop where
  /-- The gauge takes in the followed lines, one after the other, and nothing besides. -/
  gauge : (engine.performAll operations session).2.gauge =
    reportAll engine.options.owner session.gauge (engine.followedLines operations session)
  highest : ∀ owner, engine.options.owner = some owner → owner ≠ "" →
    (engine.performAll operations session).2.gauge.get owner =
      (values (engine.followedLines operations session)).foldl max (session.gauge.get owner)
  /-- From any line to any later one. -/
  lineByLine : ∀ earlier later, earlier <+: later →
    Climbs engine.options.owner (reportAll engine.options.owner session.gauge earlier)
      (reportAll engine.options.owner session.gauge later)
  /-- From the end of any operation to the end of all. -/
  oneByOne : ∀ earlier, earlier <+: operations →
    Climbs engine.options.owner (engine.performAll earlier session).2.gauge
      (engine.performAll operations session).2.gauge
  /-- What the tools print besides the followed lines makes no difference. -/
  blind : ∀ {ω' : Type} (like : ω → ω' → Prop) (other : Engine ω') (otherSession : Session α ω'),
    Twins like engine other → SideBySide like session otherSession →
      (other.performAll operations otherSession).2.gauge =
        (engine.performAll operations session).2.gauge

/-- Operations raise the counter of the owner to the greatest value that was printed while progress was
followed, in failed attempts as in others. They never lower a counter, leave those of other names alone, and
leave no trace of what is printed at other times. -/
theorem operations_track [Exact α] (engine : Engine ω) (operations : List Operation)
    (session : Session α ω) (counted : ∀ name, 0 ≤ session.gauge.get name) :
    Tracks engine operations session where
  gauge := performAll_gauge engine operations session
  highest := by
    intro owner named proper
    rw [performAll_gauge]
    exact reportAll_get _ _ _ owner ((publicOwner_eq_some _ owner).mpr ⟨named, proper⟩)
      (counted owner)
  lineByLine := by
    rintro earlier _ ⟨rest, rfl⟩
    rw [reportAll_append]
    exact reportAll_climbs _ _ rest (reportAll_counted _ _ earlier counted)
  oneByOne := by
    rintro earlier ⟨rest, rfl⟩
    rw [performAll_append, performAll_gauge engine rest]
    apply reportAll_climbs
    rw [performAll_gauge]
    exact reportAll_counted _ _ _ counted
  blind := by
    intro ω' like other otherSession twins level
    exact (performAll_paired twins operations level).gauge.symm

end Exact

/-- A tool that lacks every preallocation mode, gets far with the first attempt at a conversion only, and
chatters when its progress is not followed. -/
def chattering (chatter : List String) : Runner Unit := fun invocation files _ =>
  let lines := match invocation.arguments with
    | "convert" :: rest =>
        if rest.contains "preallocation=falloc" then ["(62.50/100%)"] else ["(10.00/100%)"]
    | "rebase" :: _ | "commit" :: _ => ["(41.00/100%)"]
    | _ => chatter
  ({ lines, files,
     outcome := .error (.exited "qemu-img" 1 (String.join chatter) Preallocation.unsupportedText) },
   ())

def chatteringEngine (chatter : List String) : Engine Unit where
  options := { Options.default with owner := some "job" }
  run := chattering chatter
  probe _ _ files _ := ((.ok true, files), ())
  options_valid := rfl

theorem chattering_twins (chatter otherChatter : List String) :
    Twins (fun _ _ => True) (chatteringEngine chatter) (chatteringEngine otherChatter) where
  options := rfl
  run := by
    intro invocation files _ _ _
    refine ⟨⟨rfl, ⟨rfl, ?_⟩, ?_⟩, trivial⟩
    · have complains : ∀ chatter, Preallocation.PassesOver
          (chattering chatter invocation files ()).1.outcome := fun chatter =>
        ⟨_, rfl, .inr (List.infix_refl _)⟩
      exact iff_of_true (complains chatter) (complains otherChatter)
    · rintro ⟨subcommand, member, head⟩
      obtain ⟨rest, arguments⟩ := List.head?_eq_some_iff.mp head
      simp only [List.mem_cons, List.not_mem_nil, or_false] at member
      rcases member with rfl | rfl | rfl <;> simp [chatteringEngine, chattering, arguments]
  probe := fun _ _ _ _ _ _ => ⟨rfl, trivial⟩

/-- A look, a growth and a new image, whose chatter looks like progress, and between them a conversion that
gets worse with every attempt. -/
theorem chatter_untracked :
    let engine := chatteringEngine ["(99.00/100%)"]
    let silent := chatteringEngine []
    let source := Source.localFile (Path.ofText "image")
    let volume := Path.ofText "volume"
    let operations := [Operation.inspect source, .resize volume (Quantity.ofBytes 512) true,
      .convert source volume true .writeback, .create volume (Quantity.ofBytes 512) true,
      .commit volume]
    let session : Session ℚ Unit := ⟨FileSystem.empty [], [("job", 5), ("other", 7)], (), []⟩
    engine.followedLines operations session =
        ["(62.50/100%)", "(10.00/100%)", "(10.00/100%)", "(41.00/100%)"] ∧
      Tracks engine operations session ∧
      (engine.performAll operations session).2.gauge.get "job" = 125 / 2 ∧
      (engine.performAll operations session).2.gauge.lookup "other" = some 7 ∧
      (silent.performAll operations session).2.gauge =
        (engine.performAll operations session).2.gauge := by
  intro engine silent source volume operations session
  have counted : ∀ name, 0 ≤ session.gauge.get name :=
    counted_of_entries _ (by simp +decide [session])
  have tracks := operations_track engine operations session counted
  have lines : engine.followedLines operations session =
      ["(62.50/100%)", "(10.00/100%)", "(10.00/100%)", "(41.00/100%)"] := by decide +kernel
  refine ⟨lines, tracks, ?_, ?_, ?_⟩
  · rw [tracks.highest "job" rfl (by decide), lines]
    decide +kernel
  · exact (tracks.oneByOne [] operations.nil_prefix).others "other" (by decide)
  · exact tracks.blind _ silent session (chattering_twins _ _) ⟨rfl, rfl, trivial⟩

end VolumeImport.Engine
