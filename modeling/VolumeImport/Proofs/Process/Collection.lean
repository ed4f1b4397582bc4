import Mathlib.Data.List.DropRight
import VolumeImport.Process.Collector

/-!
What a collector leaves of a pipe. After any bytes it stands where the plain rule on those bytes puts it, so
the cuts between reads do not show, and a sink that has broken down keeps it there whatever follows.
-/

namespace VolumeImport

namespace Output

/-- The stretches of an output between line feeds and carriage returns, without the empty ones. -/
def segments (output : Bytes) : List Bytes :=
  (output.splitOnP fun byte => byte = 0x0A || byte = 0x0D).filter (· ≠ [])

/-- An output through its last line end. -/
def ended (output : Bytes) : Bytes :=
  output.rdropWhile (!isLineEnd ·)

def unended (output : Bytes) : Bytes :=
  output.rtakeWhile (!isLineEnd ·)

variable (output : Bytes) (byte : UInt8)

theorem lines_eq_segments : lines output = (segments output).map lineText := by
  have filled : ∀ piece : Bytes, (!piece.isEmpty) = decide (piece ≠ []) := by
    intro piece
    cases piece <;> simp
  have ends : isLineEnd = fun byte => byte = 0x0A || byte = 0x0D := rfl
  simp only [lines, segments, Text.fields, Text.cut_eq_splitOnP, filled, ends]

theorem ended_append_unended : ended output ++ unended output = output :=
  List.rdropWhile_append_rtakeWhile

theorem ended_concat_lineEnd (ends : isLineEnd byte = true) :
    ended (output ++ [byte]) = output ++ [byte] := by
  simp [ended, ends]

theorem unended_concat_lineEnd (ends : isLineEnd byte = true) :
    unended (output ++ [byte]) = [] := by
  simp [unended, ends]

theorem ended_concat_other (plain : isLineEnd byte = false) :
    ended (output ++ [byte]) = ended output := by
  simp [ended, plain]

theorem unended_concat_other (plain : isLineEnd byte = false) :
    unended (output ++ [byte]) = unended output ++ [byte] := by
  simp [unended, plain]

theorem lines_append_lineEnd (left right : Bytes) (ends : isLineEnd byte = true) :
    lines (left ++ byte :: right) = lines left ++ lines right := by
  simp [lines, Text.fields_append_separator left right byte ends]

theorem lines_concat_lineEnd (ends : isLineEnd byte = true) :
    lines (output ++ [byte]) = lines output := by
  simpa [lines, Text.fields, Text.cut] using lines_append_lineEnd byte output [] ends

theorem lines_unended :
    lines (unended output) =
      if unended output = [] then [] else [lineText (unended output)] := by
  have plain : ∀ symbol ∈ unended output, isLineEnd symbol = false := by
    intro symbol member
    simpa using List.mem_rtakeWhile_imp member
  have piece := Text.cut_of_no_separator (unended output) plain
  by_cases empty : unended output = []
  · simp [lines, Text.fields, Text.cut, empty]
  · simp [lines, Text.fields, piece, empty]

theorem lines_eq_ended_append_unended :
    lines output = lines (ended output) ++ lines (unended output) := by
  conv_lhs => rw [← ended_append_unended output]
  rcases List.eq_nil_or_concat' (ended output) with none_ended | ⟨front, last, through⟩
  · simp [none_ended, lines, Text.fields, Text.cut]
  · have ends : isLineEnd last = true := by
      have filled : output.rdropWhile (!isLineEnd ·) ≠ [] := by
        change ended output ≠ []
        simp [through]
      have stop := List.rdropWhile_last_not (!isLineEnd ·) output filled
      have through' : output.rdropWhile (!isLineEnd ·) = front ++ [last] := through
      simpa [through'] using stop
    rw [through, List.append_assoc, List.singleton_append, lines_append_lineEnd last _ _ ends,
      lines_concat_lineEnd front last ends]

end Output

namespace Collector

open Output

/-- Handing lines over in their order: the lines the sink has taken, the latest first, and whether it broke
down at the next one. -/
def relay (sink : Option Sink) : List String → List String → List String × Bool
  | taken, [] => (taken, false)
  | taken, line :: rest =>
      match sink with
      | none => relay sink taken rest
      | some takes => if takes taken line then relay sink (line :: taken) rest else (taken, true)

@[simp] theorem relay_none (taken lines : List String) : relay none taken lines = (taken, false) := by
  induction lines with
  | nil => rfl
  | cons line rest ih => simpa [relay] using ih

theorem relay_append (sink : Option Sink) (taken left right : List String) :
    relay sink taken (left ++ right) =
      if (relay sink taken left).2 then relay sink taken left
      else relay sink (relay sink taken left).1 right := by
  cases sink with
  | none => simp
  | some takes =>
      induction left generalizing taken with
      | nil => simp [relay]
      | cons line rest ih =>
          by_cases fits : takes taken line = true
          · simpa [relay, fits] using ih (line :: taken)
          · simp [relay, fits]

theorem relay_of_broken {sink : Option Sink} {taken left : List String}
    (broke : (relay sink taken left).2 = true) (right : List String) :
    relay sink taken (left ++ right) = relay sink taken left := by
  rw [relay_append, if_pos broke]

def Takes (takes : Sink) (lines : List String) : Prop :=
  ∀ before line after, lines = before ++ line :: after → takes before.reverse line = true

theorem relay_of_takes (takes : Sink) (lines : List String) (every : Takes takes lines) :
    relay (some takes) [] lines = (lines.reverse, false) := by
  induction lines using List.reverseRecOn with
  | nil => rfl
  | append_singleton front last ih =>
      have earlier : Takes takes front := by
        intro before line after inside
        exact every before line (after ++ [last]) (by simp [inside])
      have fits : takes front.reverse last = true := every front last [] rfl
      simp [relay_append, ih earlier, relay, fits]

theorem relay_of_refusal (takes : Sink) (before : List String) (line : String)
    (after : List String) (every : Takes takes before)
    (refuses : takes before.reverse line = false) :
    relay (some takes) [] (before ++ line :: after) = (before.reverse, true) := by
  simp [relay_append, relay_of_takes takes before every, relay, refuses]

theorem relay_taken (sink : Option Sink) (taken lines : List String) :
    ∀ line ∈ (relay sink taken lines).1, line ∈ taken ∨ line ∈ lines := by
  induction lines generalizing taken with
  | nil => exact fun line member => .inl member
  | cons next rest ih =>
      cases sink with
      | none =>
          rw [relay_none]
          exact fun line member => .inl member
      | some takes =>
          intro line member
          by_cases fits : takes taken next = true
          · rw [relay, if_pos fits] at member
            rcases ih (next :: taken) line member with earlier | later
            · rcases List.mem_cons.mp earlier with rfl | before
              · exact .inr List.mem_cons_self
              · exact .inl before
            · exact .inr (List.mem_cons_of_mem next later)
          · rw [relay, if_neg fits] at member
            exact .inl member

theorem relay_congr (takes other : Sink) (taken lines : List String)
    (same : ∀ earlier, ∀ line ∈ lines, other earlier line = takes earlier line) :
    relay (some other) taken lines = relay (some takes) taken lines := by
  induction lines generalizing taken with
  | nil => rfl
  | cons line rest ih =>
      have here := same taken line List.mem_cons_self
      have behind := ih (line :: taken) fun earlier next member =>
        same earlier next (List.mem_cons_of_mem line member)
      rw [relay, relay, here, behind]

theorem endLine_eq (sink : Option Sink) (captured : Bytes) (delivered : List String)
    (output : Bytes) :
    endLine sink ⟨captured, (unended output).reverse, delivered, false⟩ =
      let handed := relay sink delivered (lines (unended output))
      ⟨captured, if handed.2 then (unended output).reverse else [], handed.1, handed.2⟩ := by
  rw [lines_unended]
  by_cases empty : unended output = []
  · simp [endLine, empty, relay]
  · cases sink with
    | none => simp [endLine, empty]
    | some takes =>
        by_cases fits : takes delivered (lineText (unended output)) = true <;>
          simp [endLine, empty, relay, fits]

/-- Where a collector stands after some bytes: the lines that have ended are in the sink's hands and the
rest waits, or the sink broke down on one of them. -/
inductive Reached (sink : Option Sink) (bytes : Bytes) : Collector → Prop
  | working (delivered : List String)
      (relayed : relay sink [] (lines (ended bytes)) = (delivered, false)) :
      Reached sink bytes ⟨bytes.reverse, (unended bytes).reverse, delivered, false⟩
  | broken (collector : Collector) (broke : collector.isBroken = true)
      (relayed : relay sink [] (lines (ended bytes)) = (collector.delivered, true)) :
      Reached sink bytes collector

variable {sink : Option Sink} {bytes : Bytes} {collector : Collector}

theorem reached_empty (sink : Option Sink) : Reached sink [] empty :=
  .working [] rfl

theorem Reached.push (reached : Reached sink bytes collector) (byte : UInt8) :
    Reached sink (bytes ++ [byte]) (push sink collector byte) := by
  cases reached with
  | broken _ broke relayed =>
      have still : Collector.push sink collector byte = collector := by simp [Collector.push, broke]
      rw [still]
      -- a line that ends behind the breakdown is one more that the sink does not get
      refine .broken collector broke ?_
      cases ends : isLineEnd byte with
      | false => rw [ended_concat_other bytes byte ends, relayed]
      | true =>
          rw [ended_concat_lineEnd bytes byte ends, lines_concat_lineEnd bytes byte ends,
            lines_eq_ended_append_unended, relay_of_broken (by rw [relayed]), relayed]
  | working delivered relayed =>
      cases ends : isLineEnd byte with
      | false =>
          have waits : Collector.push sink ⟨bytes.reverse, (unended bytes).reverse, delivered, false⟩
              byte = ⟨(bytes ++ [byte]).reverse, (unended (bytes ++ [byte])).reverse, delivered,
                false⟩ := by
            simp [Collector.push, ends, unended_concat_other bytes byte ends]
          rw [waits]
          refine .working delivered ?_
          rw [ended_concat_other bytes byte ends, relayed]
      | true =>
          have handed : Collector.push sink
              ⟨bytes.reverse, (unended bytes).reverse, delivered, false⟩ byte =
                endLine sink
                  ⟨(bytes ++ [byte]).reverse, (unended bytes).reverse, delivered, false⟩ := by
            simp [Collector.push, ends]
          have all : relay sink [] (lines (ended (bytes ++ [byte]))) =
              relay sink delivered (lines (unended bytes)) := by
            rw [ended_concat_lineEnd bytes byte ends, lines_concat_lineEnd bytes byte ends,
              lines_eq_ended_append_unended, relay_append, relayed]
            simp
          rw [handed, endLine_eq]
          cases last : relay sink delivered (lines (unended bytes)) with
          | mk taken broke =>
              rw [last] at all
              cases broke with
              | true => exact .broken _ rfl all
              | false =>
                  have state := Reached.working taken all
                  rwa [unended_concat_lineEnd bytes byte ends] at state

theorem Reached.foldl (reached : Reached sink bytes collector) (chunk : Bytes) :
    Reached sink (bytes ++ chunk) (chunk.foldl (Collector.push sink) collector) := by
  induction chunk generalizing bytes collector with
  | nil => simpa using reached
  | cons byte rest ih => simpa using ih (reached.push byte)

/-- What a pipe brings: its bytes up to its end, and the error it ended with if it did. -/
structure Transmission where
  bytes : Bytes
  failure : Option SystemError

/-- An interrupted read brings nothing and is made again. -/
def transmitted : List PipeRead → Transmission
  | [] => ⟨[], none⟩
  | .chunk [] :: _ => ⟨[], none⟩
  | .chunk bytes :: rest => ⟨bytes ++ (transmitted rest).bytes, (transmitted rest).failure⟩
  | .failed error :: rest =>
      if error.kind = .interrupted then transmitted rest else ⟨[], some error⟩

/-- What is left of a transmission by the plain rule on all its bytes. The line that has not ended is a
line only if the pipe was closed. -/
def outcome (sink : Option Sink) (transmission : Transmission) : Collected :=
  let heard :=
    match transmission.failure with
    | none => lines transmission.bytes
    | some _ => lines (ended transmission.bytes)
  { lines := (relay sink [] heard).1.reverse
    bytes :=
      if (relay sink [] heard).2 then .error breakdown
      else
        match transmission.failure with
        | none => .ok transmission.bytes
        | some error => .error error }

theorem Reached.stop_of_broken (reached : Reached sink bytes collector)
    (broke : collector.isBroken = true) (failure : Option SystemError) :
    collector.stop breakdown = outcome sink ⟨bytes, failure⟩ := by
  cases reached with
  | working => cases broke
  | broken _ _ relayed =>
      cases failure with
      | some error => simp [outcome, stop, relayed]
      | none =>
          have unheard : relay sink [] (lines bytes) = (collector.delivered, true) := by
            rw [lines_eq_ended_append_unended, relay_of_broken (by rw [relayed]), relayed]
          simp [outcome, stop, unheard]

theorem Reached.finish (reached : Reached sink bytes collector)
    (works : collector.isBroken = false) :
    finish sink collector = outcome sink ⟨bytes, none⟩ := by
  cases reached with
  | broken _ broke => simp [works] at broke
  | working delivered relayed =>
      have all : relay sink [] (lines bytes) = relay sink delivered (lines (unended bytes)) := by
        rw [lines_eq_ended_append_unended, relay_append, relayed]
        simp
      simp only [Collector.finish, endLine_eq, outcome, all, stop, List.reverse_reverse]
      split <;> rfl

theorem Reached.stop (reached : Reached sink bytes collector)
    (works : collector.isBroken = false) (error : SystemError) :
    collector.stop error = outcome sink ⟨bytes, some error⟩ := by
  cases reached with
  | broken _ broke => simp [works] at broke
  | working delivered relayed => simp [Collector.stop, outcome, relayed]

theorem Reached.drain (reached : Reached sink bytes collector) (works : collector.isBroken = false)
    (reads : List PipeRead) :
    drain sink collector reads =
      outcome sink ⟨bytes ++ (transmitted reads).bytes, (transmitted reads).failure⟩ := by
  induction reads generalizing bytes collector with
  | nil => simpa [Collector.drain, transmitted] using reached.finish works
  | cons read rest ih =>
      cases read with
      | failed error =>
          by_cases again : error.kind = .interrupted
          · simpa [Collector.drain, transmitted, again] using ih reached works
          · simpa [Collector.drain, transmitted, again] using reached.stop works error
      | chunk chunk =>
          cases chunk with
          | nil => simpa [Collector.drain, transmitted] using reached.finish works
          | cons byte others =>
              have later := reached.foldl (byte :: others)
              simp only [Collector.drain, transmitted]
              split
              · rename_i broke
                -- the bytes behind the breakdown change nothing any more
                have whole := later.foldl (transmitted rest).bytes
                rw [foldl_push_of_isBroken _ _ _ broke] at whole
                simpa using whole.stop_of_broken broke (transmitted rest).failure
              · rename_i still
                simpa using ih later (by simpa using still)

theorem collect_eq (sink : Option Sink) (reads : List PipeRead) :
    collect sink reads = outcome sink (transmitted reads) :=
  (reached_empty sink).drain rfl reads

end Collector

end VolumeImport
