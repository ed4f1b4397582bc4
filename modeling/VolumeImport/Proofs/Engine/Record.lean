import VolumeImport.Engine.Session

/-!
What a session has on record. Every event stands there as it took place: it is what the runner or the prober made
of the files and the world that the event before it left. So a tool that has run is on record with its own
arguments and its own result, and nothing else is.
-/

namespace VolumeImport

def Event.run? : Event → Option (Invocation × Run)
  | .ran invocation run => some (invocation, run)
  | .probed .. => none

def Event.ofRun (run : Invocation × Run) : Event :=
  .ran run.1 run.2

theorem run?_ofRun (run : Invocation × Run) : (Event.ofRun run).run? = some run :=
  rfl

theorem runs_of_ofRun (runs : List (Invocation × Run)) :
    (runs.map Event.ofRun).filterMap Event.run? = runs := by
  induction runs with
  | nil => rfl
  | cons run rest ih => rw [List.map_cons, List.filterMap_cons, run?_ofRun, ih]

variable {α ω : Type}

namespace Session

def runs (session : Session α ω) : List (Invocation × Run) :=
  session.events.filterMap Event.run?

def state (session : Session α ω) : FileSystem × ω :=
  (session.files, session.world)

theorem runs_append (before after : Session α ω) (events : List Event)
    (recorded : after.events = before.events ++ events) :
    after.runs = before.runs ++ events.filterMap Event.run? := by
  simp [runs, recorded]

theorem runs_of_events (before after : Session α ω) (runs : List (Invocation × Run))
    (recorded : after.events = before.events ++ runs.map Event.ofRun) :
    after.runs = before.runs ++ runs := by
  rw [runs_append before after _ recorded, runs_of_ofRun]

end Session

namespace Engine

/-- The events took place one after the other, each in the files and the world that the one before it left. -/
inductive Happens (engine : Engine ω) : FileSystem × ω → List Event → FileSystem × ω → Prop
  | nothing (state : FileSystem × ω) : Happens engine state [] state
  | ran (invocation : Invocation) (files : FileSystem) (world : ω) (events : List Event)
      (last : FileSystem × ω)
      (later : Happens engine ((engine.run invocation files world).1.files,
        (engine.run invocation files world).2) events last) :
      Happens engine (files, world) (.ran invocation (engine.run invocation files world).1 :: events)
        last
  | probed (kind : ProbeKind) (path : Path) (files : FileSystem) (world : ω) (events : List Event)
      (last : FileSystem × ω)
      (later : Happens engine ((engine.probe kind path files world).1.2,
        (engine.probe kind path files world).2) events last) :
      Happens engine (files, world)
        (.probed kind path (engine.probe kind path files world).1.1 :: events) last

/-- From one session to the other the tools made these runs. They are on record as they took place, with
nothing but probes between them. -/
structure Makes (engine : Engine ω) (before after : Session α ω) (runs : List (Invocation × Run)) :
    Prop where
  recorded : after.runs = before.runs ++ runs
  happened : ∃ events left, after.events = before.events ++ events ∧
    events.filterMap Event.run? = runs ∧ engine.Happens before.state events (left, after.world)

section

variable {engine : Engine ω} {start middle last : FileSystem × ω} {events others : List Event}

theorem Happens.append (first : engine.Happens start events middle)
    (second : engine.Happens middle others last) : engine.Happens start (events ++ others) last := by
  induction first with
  | nothing => exact second
  | ran invocation files world events _ _ ih => exact .ran invocation files world _ _ (ih second)
  | probed kind path files world events _ _ ih =>
      exact .probed kind path files world _ _ (ih second)

theorem Happens.makes {before after : Session α ω} {runs : List (Invocation × Run)}
    (left : FileSystem) (happened : engine.Happens before.state events (left, after.world))
    (recorded : after.events = before.events ++ events)
    (ran : events.filterMap Event.run? = runs) : engine.Makes before after runs :=
  ⟨ran ▸ Session.runs_append before after events recorded, events, left, recorded, ran, happened⟩

theorem makes_nothing (engine : Engine ω) (session : Session α ω) : engine.Makes session session [] :=
  (Happens.nothing session.state).makes session.files (by simp) rfl

end

variable [Progress.Percentage α]

theorem runTool_happens (engine : Engine ω) (invocation : Invocation) (session : Session α ω) :
    engine.Happens session.state
      [.ran invocation (engine.run invocation session.files session.world).1]
      (engine.runTool invocation session).2.state :=
  .ran invocation session.files session.world [] _ (.nothing _)

omit [Progress.Percentage α]

theorem askProber_happens (engine : Engine ω) (kind : ProbeKind) (destination : Path)
    (session : Session α ω) :
    engine.Happens session.state
      [.probed kind destination (engine.probe kind destination session.files session.world).1.1]
      (engine.askProber kind destination session).2.state :=
  .probed kind destination session.files session.world [] _ (.nothing _)

theorem chooseCacheMode_happens (engine : Engine ω) (hint : CacheHint) (destination : Path)
    (session : Session α ω) :
    ∃ events, (engine.chooseCacheMode hint destination session).2.events = session.events ++ events ∧
      events.filterMap Event.run? = [] ∧
      engine.Happens session.state events
        (engine.chooseCacheMode hint destination session).2.state := by
  unfold chooseCacheMode
  split
  · exact ⟨[], by simp, rfl, .nothing _⟩
  · exact ⟨[], by simp, rfl, .nothing _⟩
  · rename_i kind _
    have asked := engine.askProber_happens kind destination session
    split
    · rename_i answered
      rw [answered] at asked
      exact ⟨_, congrArg (·.2.events) answered.symm, rfl, asked⟩
    · rename_i answered
      rw [answered] at asked
      exact ⟨_, congrArg (·.2.events) answered.symm, rfl, asked⟩

end Engine

end VolumeImport
