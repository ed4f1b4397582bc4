import VolumeImport.Proofs.Process.Judgement
import VolumeImport.Proofs.Storage.Fallback

/-!
What a run under the guard comes to, by what came of starting its program. Each way of failing keeps a report of
its own: a program that did not start, a pipe that broke, a limit that was enforced, another signal, a status.
Without limits the fallback passes over one of them only, a status with the complaint about the mode.
-/

namespace VolumeImport.Guard

open Collector

/-- The error that a pipe of the child ended with, the one of its regular output before the other. -/
def Child.failure (child : Child) : Option SystemError :=
  (transmitted child.stdout).failure.or (transmitted child.stderr).failure

abbrev Start := Except SystemError Child

def comesTo (program : String) (limits : Option Limits) : Start → Except ToolError Bytes
  | .error error => .error (.notStarted program error)
  | .ok child =>
      match child.failure with
      | some error => .error (.unreadable program error)
      | none => outcomeOf program limits child.ending (transmitted child.stdout).bytes
          (transmitted child.stderr).bytes

theorem collect_bytes (hasSink : Bool) (reads : List PipeRead) :
    (collect (if hasSink then some openSink else none) reads).bytes =
      match (transmitted reads).failure with
      | none => .ok (transmitted reads).bytes
      | some error => .error error := by
  have works : ∀ lines, (relay (if hasSink then some openSink else none) [] lines).2 = false := by
    intro lines
    cases hasSink with
    | false => simp
    | true => simp [relay_of_takes openSink lines (openSink_takes lines)]
  cases failed : (transmitted reads).failure <;>
    simp only [collect_eq, outcome, works, failed, Bool.false_eq_true, if_false]

theorem watch_outcome (program : String) (limits : Option Limits) (hasSink : Bool) (child : Child) :
    (watch program limits (if hasSink then some openSink else none) child).outcome =
      comesTo program limits (.ok child) := by
  have output := collect_bytes hasSink child.stdout
  have errors := collect_bytes false child.stderr
  simp only [Bool.false_eq_true, if_false] at errors
  simp only [watch, comesTo, Child.failure, output, errors]
  cases (transmitted child.stdout).failure <;> cases (transmitted child.stderr).failure <;> rfl

variable {ω : Type}

def start (host : Host ω) (invocation : Invocation) (files : FileSystem) (world : ω) : Start :=
  (host invocation files world).1.map Prod.fst

theorem runner_outcome (host : Host ω) (invocation : Invocation) (files : FileSystem) (world : ω) :
    (runner host invocation files world).1.outcome =
      comesTo invocation.program invocation.limits (start host invocation files world) := by
  unfold runner start
  rcases host invocation files world with ⟨_ | ⟨child, left⟩, after⟩
  · rfl
  · exact watch_outcome invocation.program invocation.limits invocation.hasSink child

theorem runner_files (host : Host ω) (invocation : Invocation) (files left : FileSystem)
    (world after : ω) (child : Child)
    (started : host invocation files world = (.ok (child, left), after)) :
    (runner host invocation files world).1.files = left := by
  simp only [runner, started]

@[simp] theorem start_ok_iff (host : Host ω) (invocation : Invocation) (files : FileSystem) (world : ω)
    (child : Child) :
    start host invocation files world = .ok child ↔
      ∃ left after, host invocation files world = (.ok (child, left), after) := by
  unfold start
  rcases host invocation files world with ⟨_ | ⟨other, left⟩, after⟩ <;>
    simp [Except.map, eq_comm]

theorem exceeded_iff (program : String) (limits : Option Limits) (start : Start) :
    (∃ cause, comesTo program limits start = .error cause ∧ cause.isLimitExceeded = true) ↔
      ∃ child signal, start = .ok child ∧ child.failure = none ∧ child.ending = .killed signal ∧
        Enforces limits signal := by
  cases start with
  | error error => simp [comesTo, ToolError.isLimitExceeded]
  | ok child =>
      cases legible : child.failure with
      | some error => simp [comesTo, legible, ToolError.isLimitExceeded]
      | none =>
          have judged := outcomeOf_judged program limits child.ending
            (transmitted child.stdout).bytes (transmitted child.stderr).bytes
          simp only [comesTo, legible]
          constructor
          · rintro ⟨cause, reported, exceeded⟩
            cases cause with
            | limitExceeded name signal out err =>
                obtain ⟨number, ending, enforced, -⟩ :=
                  (judged.exceeded name signal out err).mp reported
                exact ⟨child, number, rfl, legible, ending, enforced⟩
            | _ => cases exceeded
          · rintro ⟨_, number, ⟨⟩, -, ending, enforced⟩
            exact ⟨_, (judged.exceeded program number _ _).mpr
              ⟨number, ending, enforced, rfl, rfl, rfl, rfl⟩, rfl⟩

theorem comesTo_unlimited (program : String) (start : Start) (cause : ToolError)
    (reported : comesTo program none start = .error cause) : cause.isLimitExceeded = false := by
  rw [Bool.eq_false_iff]
  intro exceeded
  obtain ⟨child, signal, -, -, -, bounds, given, -⟩ :=
    (exceeded_iff program none start).mp ⟨cause, reported, exceeded⟩
  cases given

theorem succeeded_iff (program : String) (limits : Option Limits) (start : Start) (output : Bytes) :
    comesTo program limits start = .ok output ↔
      ∃ child, start = .ok child ∧ child.failure = none ∧ child.ending = .exited 0 ∧
        output = (transmitted child.stdout).bytes := by
  cases start with
  | error error => simp [comesTo]
  | ok child =>
      cases legible : child.failure with
      | some error => simp [comesTo, legible]
      | none =>
          have judged := outcomeOf_judged program limits child.ending
            (transmitted child.stdout).bytes (transmitted child.stderr).bytes
          simp [comesTo, legible, judged.succeeded output]

/-- The output holds the text by which the image tool turns a preallocation mode down. -/
def Complains (output : Bytes) : Prop :=
  Preallocation.unsupportedText.toList <:+: (Utf8.decodeLossy output).toList

/-- The ways an unlimited program fails that say nothing about the mode it was to try, each with its error. -/
inductive Fatal (program : String) : Start → ToolError → Prop
  | notStarted (error : SystemError) : Fatal program (.error error) (.notStarted program error)
  | unreadable (child : Child) (error : SystemError) (failing : child.failure = some error) :
      Fatal program (.ok child) (.unreadable program error)
  | killed (child : Child) (signal : Nat) (legible : child.failure = none)
      (ending : child.ending = .killed signal) : Fatal program (.ok child) (.killed program signal)
  | exited (child : Child) (status : UInt8) (legible : child.failure = none)
      (ending : child.ending = .exited status) (failing : status ≠ 0)
      (silent : ¬Complains (transmitted child.stdout).bytes ∧
        ¬Complains (transmitted child.stderr).bytes) :
      Fatal program (.ok child)
        (.exited program status.toNat (Utf8.decodeLossy (transmitted child.stdout).bytes)
          (Utf8.decodeLossy (transmitted child.stderr).bytes))

theorem fatal_iff (program : String) (start : Start) (cause : ToolError) :
    Fatal program start cause ↔
      comesTo program none start = .error cause ∧ ¬Preallocation.ReportsUnsupported cause := by
  constructor
  · intro fatal
    cases fatal with
    | notStarted error => exact ⟨rfl, id⟩
    | unreadable child error failing => exact ⟨by simp [comesTo, failing], id⟩
    | killed child signal legible ending =>
        exact ⟨by simp [comesTo, legible, ending, outcomeOf], id⟩
    | exited child status legible ending failing silent =>
        refine ⟨by simp [comesTo, legible, ending, outcomeOf, failing], ?_⟩
        rintro (complains | complains)
        · exact silent.1 complains
        · exact silent.2 complains
  · rintro ⟨reported, other⟩
    cases start with
    | error error =>
        obtain rfl := Except.error.inj reported
        exact .notStarted error
    | ok child =>
        cases legible : child.failure with
        | some error =>
            simp only [comesTo, legible] at reported
            obtain rfl := Except.error.inj reported
            exact .unreadable child error legible
        | none =>
            simp only [comesTo, legible] at reported
            cases ending : child.ending with
            | killed signal =>
                obtain rfl : ToolError.killed program signal = cause := by
                  simpa [outcomeOf, ending] using reported
                exact .killed child signal legible ending
            | exited status =>
                by_cases zero : status = 0
                · simp [outcomeOf, ending, zero] at reported
                · simp only [outcomeOf, ending, zero, if_false] at reported
                  obtain rfl := Except.error.inj reported
                  exact .exited child status legible ending zero
                    ⟨fun complains => other (.inl complains), fun complains => other (.inr complains)⟩

def starts (host : Host ω) : List Invocation → FileSystem → ω → List Start
  | [], _, _ => []
  | invocation :: rest, files, world =>
      let (run, after) := runner host invocation files world
      start host invocation files world :: starts host rest run.files after

end VolumeImport.Guard
