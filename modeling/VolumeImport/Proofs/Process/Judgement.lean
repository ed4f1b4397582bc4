import Mathlib.Data.List.Forall2
import VolumeImport.Process.Guard
import VolumeImport.Proofs.Process.Collection
import VolumeImport.Proofs.Text.Colours

/-!
What the guard makes of a tool that has been started: which lines reach the sink, and what is reported for
each way the tool can end. The judgement is stated without reference to the order in which the guard tries
its cases.
-/

namespace VolumeImport.Guard

open Collector

/-- Whether a signal is how the kernel enforces a bound that is set: SIGXCPU or SIGKILL for the processor
time; SIGSEGV, SIGABRT or SIGBUS for the memory. -/
def Enforces (limits : Option Limits) (signal : Nat) : Prop :=
  ∃ bounds ∈ limits,
    (bounds.maxCpuTime.isSome = true ∧ (signal = 24 ∨ signal = 9)) ∨
      (bounds.maxMemory.isSome = true ∧ (signal = 11 ∨ signal = 6 ∨ signal = 7))

structure Judged (program : String) (limits : Option Limits) (ending : Ending)
    (stdout stderr : Bytes) (outcome : Except ToolError Bytes) : Prop where
  succeeded (output : Bytes) : outcome = .ok output ↔ ending = .exited 0 ∧ output = stdout
  exited (name : String) (code : Int) (out err : String) :
    outcome = .error (.exited name code out err) ↔
      ∃ status : UInt8, ending = .exited status ∧ status ≠ 0 ∧ name = program ∧
        code = status.toNat ∧ out = Utf8.decodeLossy stdout ∧ err = Utf8.decodeLossy stderr
  exceeded (name : String) (signal : Int) (out err : String) :
    outcome = .error (.limitExceeded name signal out err) ↔
      ∃ number : Nat, ending = .killed number ∧ Enforces limits number ∧ name = program ∧
        signal = number ∧ out = Utf8.decodeLossy stdout ∧ err = Utf8.decodeLossy stderr
  killed (name : String) (signal : Int) :
    outcome = .error (.killed name signal) ↔
      ∃ number : Nat, ending = .killed number ∧ ¬ Enforces limits number ∧ name = program ∧
        signal = number

theorem enforces_iff (limits : Option Limits) (signal : Nat) :
    limits.any (·.enforces signal) = true ↔ Enforces limits signal := by
  cases limits with
  | none => simp [Enforces]
  | some bounds =>
      simp only [Option.any_some, Limits.enforces, Limits.cpuSignals, Limits.memorySignals,
        Bool.or_eq_true, Bool.and_eq_true, List.contains_iff_mem, List.mem_cons,
        List.not_mem_nil, or_false, Enforces, Option.mem_some, exists_eq_left']
      norm_cast

theorem outcomeOf_judged (program : String) (limits : Option Limits) (ending : Ending)
    (stdout stderr : Bytes) :
    Judged program limits ending stdout stderr
      (outcomeOf program limits ending stdout stderr) := by
  cases ending with
  | exited status =>
      by_cases zero : status = 0
      · constructor <;> simp [outcomeOf, zero, eq_comm]
      · constructor <;> simp [outcomeOf, zero, eq_comm]
  | killed signal =>
      by_cases enforced : Enforces limits signal
      · have any := (enforces_iff limits signal).mpr enforced
        constructor <;> simp [outcomeOf, any, enforced, eq_comm]
      · have any : limits.any (·.enforces signal) = false := by
          simpa using mt (enforces_iff limits signal).mp enforced
        constructor <;> simp [outcomeOf, any, enforced, eq_comm]

/-- The lines of an output as a sink is to get them: each stretch as text, without the colour codes in it. -/
def Hears (output : Bytes) (lines : List String) : Prop :=
  List.Forall₂ (fun segment line => Text.Strips (Utf8.decodeLossy segment).toList line.toList)
    (Output.segments output) lines

def heard (output : Bytes) : List String :=
  (Output.segments output).map Output.lineText

theorem hears_iff (output : Bytes) (lines : List String) :
    Hears output lines ↔ lines = heard output := by
  rw [Hears, heard]
  generalize Output.segments output = segments
  induction segments generalizing lines with
  | nil => simp [List.forall₂_nil_left_iff]
  | cons segment segments ih =>
      cases lines with
      | nil => simp [List.forall₂_nil_right_iff]
      | cons line lines =>
          rw [List.forall₂_cons, ih, Text.strips_iff, List.map_cons, List.cons.injEq, Output.lineText,
            ← String.toList_inj, String.toList_ofList, eq_comm]

/-- A run under the guard, judged by all that its two pipes bring. `lines` are those of its output. -/
structure Guarded (program : String) (limits : Option Limits) (sink : Option Sink) (child : Child)
    (stdout stderr : Bytes) (lines : List String) : Prop where
  /-- A sink that takes what it is given hides nothing, nor does a missing one. -/
  judged : (∀ takes ∈ sink, Takes takes lines) →
    Judged program limits child.ending stdout stderr (watch program limits sink child).outcome
  unheard : sink = none → (watch program limits sink child).lines = []
  taken : ∀ takes ∈ sink, Takes takes lines → (watch program limits sink child).lines = lines
  refused : ∀ takes ∈ sink, ∀ before line after, lines = before ++ line :: after →
    Takes takes before → takes before.reverse line = false →
      (watch program limits sink child).lines = before ∧
        (watch program limits sink child).outcome = .error (.unreadable program breakdown)
  /-- What stands on the error output never reaches the sink. -/
  separate (other : List PipeRead) :
    (watch program limits sink { child with stderr := other }).lines =
      (watch program limits sink child).lines

theorem watch_guarded (program : String) (limits : Option Limits) (sink : Option Sink)
    (child : Child) (stdout stderr : Bytes) (output : transmitted child.stdout = ⟨stdout, none⟩)
    (errors : transmitted child.stderr = ⟨stderr, none⟩) :
    Guarded program limits sink child stdout stderr (heard stdout) := by
  have gathered : collect sink child.stdout = outcome sink ⟨stdout, none⟩ := by
    rw [collect_eq, output]
  have silent : (collect none child.stderr).bytes = .ok stderr := by
    simp [collect_eq, errors, outcome]
  have lines_eq : Output.lines stdout = heard stdout := Output.lines_eq_segments stdout
  -- from here on the child is its two outputs, whatever reads brought them
  constructor
  case judged =>
    intro accepts
    have works : (relay sink [] (heard stdout)).2 = false := by
      cases sink with
      | none => rw [relay_none]
      | some takes => rw [relay_of_takes takes _ (accepts takes rfl)]
    have whole : (collect sink child.stdout).bytes = .ok stdout := by
      simp [gathered, outcome, lines_eq, works]
    simpa only [watch, whole, silent] using
      outcomeOf_judged program limits child.ending stdout stderr
  case unheard =>
    rintro rfl
    simp [watch, gathered, outcome]
  case taken =>
    rintro takes ⟨⟩ accepts
    simp [watch, gathered, outcome, lines_eq, relay_of_takes takes _ accepts]
  case refused =>
    rintro takes ⟨⟩ before line after parts earlier refuses
    have broke : relay (some takes) [] (heard stdout) = (before.reverse, true) := by
      rw [parts, relay_of_refusal takes before line after earlier refuses]
    simp [watch, gathered, outcome, lines_eq, broke]
  case separate => exact fun other => rfl

theorem openSink_takes (lines : List String) : Takes openSink lines :=
  fun _ _ _ _ => rfl

variable {ω : Type}

/-- A program that starts is judged by its ending and its two outputs alone, whatever its arguments are and
whoever listens. A run for the engine hands on all lines that it is asked for. -/
theorem started_tool_guarded (host : Host ω) (invocation : Invocation) (files left : FileSystem)
    (world after : ω) (child : Child) (stdout stderr : Bytes)
    (started : host invocation files world = (.ok (child, left), after))
    (output : transmitted child.stdout = ⟨stdout, none⟩)
    (errors : transmitted child.stderr = ⟨stderr, none⟩) :
    ∃ lines, (∀ others, Hears stdout others ↔ others = lines) ∧
      (∀ sink, Guarded invocation.program invocation.limits sink child stdout stderr lines) ∧
      Judged invocation.program invocation.limits child.ending stdout stderr
        (runner host invocation files world).1.outcome ∧
      (runner host invocation files world).1.lines = (if invocation.hasSink then lines else []) ∧
      (runner host invocation files world).1.files = left ∧
      (runner host invocation files world).2 = after := by
  have guarded := fun sink =>
    watch_guarded invocation.program invocation.limits sink child stdout stderr output errors
  refine ⟨heard stdout, hears_iff stdout, guarded, ?_, ?_, ?_, ?_⟩
  · simp only [runner, started]
    split
    · exact (guarded (some openSink)).judged (by rintro takes ⟨⟩; exact openSink_takes _)
    · exact (guarded none).judged (by simp)
  · simp only [runner, started]
    split
    · exact (guarded (some openSink)).taken openSink rfl (openSink_takes _)
    · exact (guarded none).unheard rfl
  · simp only [runner, started]
  · simp only [runner, started]

/-- A tool that colours the second line of its output, leaves a byte there that begins no text, and overruns its
time. An interrupted read stands between the pieces. -/
def overrunning : Child where
  stdout := [.chunk [0x31], .failed (.call ⟨4⟩), .chunk [0x0D, 0x0A, 0x1B, 0x5B],
    .chunk [0x33, 0x31, 0x6D, 0x32, 0xFF]]
  stderr := [.chunk [0x33, 0x0A], .chunk []]
  ending := .killed 24

theorem overrunning_tool_reported :
    let host : Host Unit := fun _ files _ => (.ok (overrunning, files), ())
    let invocation : Invocation := ⟨"qemu-img", ["info"], some Limits.untrustedImage, true⟩
    let run := (runner host invocation (FileSystem.empty []) ()).1
    let fussy : Sink := fun _ line => line = "1"
    run.outcome = .error (.limitExceeded "qemu-img" 24 "1\r\n\x1b[31m2\uFFFD" "3\n") ∧
      run.lines = ["1", "2\uFFFD"] ∧
      (watch "qemu-img" invocation.limits (some fussy) overrunning).lines = ["1"] ∧
      (watch "qemu-img" invocation.limits (some fussy) overrunning).outcome =
        .error (.unreadable "qemu-img" breakdown) := by
  intro host invocation run fussy
  let stdout : Bytes := [0x31, 0x0D, 0x0A, 0x1B, 0x5B, 0x33, 0x31, 0x6D, 0x32, 0xFF]
  obtain ⟨lines, hears, guarded, judged, taken, -, -⟩ := started_tool_guarded host invocation
    (FileSystem.empty []) (FileSystem.empty []) () () overrunning stdout [0x33, 0x0A] rfl rfl rfl
  have second : Text.Strips "\x1b[31m2\uFFFD".toList "2\uFFFD".toList :=
    .code "31".toList _ _ (by decide) (Text.strips_self _ (by decide))
  obtain rfl : ["1", "2\uFFFD"] = lines :=
    (hears _).mp (.cons (Text.strips_self _ (by decide)) (.cons second .nil))
  refine ⟨?_, taken, (guarded (some fussy)).refused fussy rfl ["1"] "2\uFFFD" [] rfl ?_ rfl⟩
  · rw [judged.exceeded]
    exact ⟨24, rfl, ⟨Limits.untrustedImage, rfl, .inl ⟨rfl, .inl rfl⟩⟩, rfl, rfl, rfl, rfl⟩
  · intro before line after parts
    cases before with
    | nil => cases parts; rfl
    | cons _ others => cases others <;> cases parts

end VolumeImport.Guard
