import VolumeImport.Progress.Token
import VolumeImport.Proofs.Process.Collection
import VolumeImport.Proofs.Text.Colours
import VolumeImport.Proofs.Text.Encoding

/-!
Colour codes on the way from a tool to a sink. A line is stripped as a whole, after it has been read as text, so a
code may stand anywhere in it, inside a progress token too. What a sink is asked to take is stripped in every case.
-/

namespace VolumeImport

open Text (escape)

namespace Output

theorem lineText_of_strips (text bare : List Char) (strips : Text.Strips text bare) :
    lineText (Utf8.encode (String.ofList text)) = String.ofList bare := by
  rw [lineText, Utf8.decodeLossy_encode, String.toList_ofList, (Text.strips_iff text bare).mp strips]

theorem no_escape_of_mem_lines (output : Bytes) (line : String) (member : line ∈ lines output) :
    escape ∉ line.toList := by
  obtain ⟨segment, -, rfl⟩ := List.mem_map.mp member
  rw [lineText, String.toList_ofList]
  exact (Text.strips_stripColour _).no_escape

end Output

namespace Collector

open Output

theorem no_escape_collected (sink : Option Sink) (reads : List PipeRead) :
    ∀ line ∈ (collect sink reads).lines, escape ∉ line.toList := by
  have relayed : ∀ output, ∀ line ∈ (relay sink [] (lines output)).1, escape ∉ line.toList := by
    intro output line member
    rcases relay_taken sink [] (lines output) line member with none_before | handed
    · cases none_before
    · exact no_escape_of_mem_lines output line handed
  intro line member
  rw [collect_eq, outcome, List.mem_reverse] at member
  cases failure : (transmitted reads).failure with
  | none =>
      rw [failure] at member
      exact relayed _ line member
  | some error =>
      rw [failure] at member
      exact relayed _ line member

theorem collect_congr (takes other : Sink)
    (same : ∀ earlier line, escape ∉ line.toList → other earlier line = takes earlier line)
    (reads : List PipeRead) : collect (some other) reads = collect (some takes) reads := by
  have relayed : ∀ output,
      relay (some other) [] (lines output) = relay (some takes) [] (lines output) := fun output =>
    relay_congr takes other [] (lines output) fun earlier line member =>
      same earlier line (no_escape_of_mem_lines output line member)
  rw [collect_eq, collect_eq, outcome, outcome]
  cases (transmitted reads).failure <;> simp only [relayed]

open Text (Coloured stripColour)

/-- Colour codes between stretches of text leave nothing behind, so what they split is read as one, a progress
token included. Stripping any text at all, well formed or not, leaves part of it in the old order, without an escape
character and with nothing more to strip. And no sink is ever asked to take an escape character: it gets none in the
lines that it takes, and it cannot matter what it would say to one. -/
theorem colours_never_show (first : List Char) (stretches : List Coloured)
    (plain : escape ∉ first) :
    (let text := first ++ stretches.flatMap Coloured.written
      let bare := first ++ stretches.flatMap Coloured.text
      let line := lineText (Utf8.encode (String.ofList text))
      stripColour text = bare ∧ line = String.ofList bare ∧
        Progress.parse line = Progress.parse (String.ofList bare)) ∧
    (∀ text, escape ∉ stripColour text ∧ (stripColour text).Sublist text ∧
      stripColour (stripColour text) = stripColour text) ∧
    ∀ (takes : Sink) (reads : List PipeRead),
      (∀ line ∈ (collect (some takes) reads).lines, escape ∉ line.toList) ∧
      ∀ other : Sink,
        (∀ earlier line, escape ∉ line.toList → other earlier line = takes earlier line) →
          collect (some other) reads = collect (some takes) reads := by
  refine ⟨?_, ?_, ?_⟩
  · intro text bare line
    have strips : Text.Strips text bare := (Coloured.strips_written stretches).behind first plain
    have read : line = String.ofList bare := lineText_of_strips text bare strips
    exact ⟨(Text.strips_iff text bare).mp strips, read, congrArg Progress.parse read⟩
  · intro text
    have strips := Text.strips_stripColour text
    exact ⟨strips.no_escape, strips.sublist, Text.stripColour_idem text⟩
  · intro takes reads
    exact ⟨no_escape_collected (some takes) reads, fun other same =>
      collect_congr takes other same reads⟩

/-- A token in three stretches, the last of them behind an empty code, and a sink that breaks down at escape
characters. -/
theorem split_token_seen_whole :
    let stretches : List Coloured := [⟨"1;31".toList, "5.3".toList, by decide, by decide⟩,
      ⟨[], "4/100%)".toList, by decide, by decide⟩]
    let bytes := Utf8.encode (String.ofList ("(4".toList ++ stretches.flatMap Coloured.written))
    let fussy : Sink := fun _ line => !line.toList.contains escape
    escape ∉ "(4".toList ∧ lineText bytes = "(45.34/100%)" ∧
      Progress.parse (lineText bytes) = some 4534 ∧
      collect (some fussy) [.chunk bytes] = collect (some fun _ _ => true) [.chunk bytes] := by
  intro stretches bytes fussy
  have plain : escape ∉ "(4".toList := by decide
  obtain ⟨⟨-, line, parsed⟩, -, sinks⟩ := colours_never_show "(4".toList stretches plain
  refine ⟨plain, line.trans (by decide), parsed.trans (by decide), ?_⟩
  exact (sinks (fun _ _ => true) [.chunk bytes]).2 fussy fun _ line none_inside => by
    simpa [fussy] using none_inside

end Collector

end VolumeImport
