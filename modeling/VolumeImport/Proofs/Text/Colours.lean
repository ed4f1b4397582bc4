import VolumeImport.Text.Colour

/-!
What is left of a text without its colour codes. The rule is told by the ways an escape character can go on,
malformed ones included, and stripping is shown to follow it. All else is read off the rule: nothing that is left
is an escape character, what is left stands in its old order, and a text without escape characters stays as it is.
-/

namespace VolumeImport.Text

def escape : Char := '\x1b'

/-- A text and what stripping leaves of it. -/
inductive Strips : List Char → List Char → Prop
  | nothing : Strips [] []
  | kept (char : Char) (text bare : List Char) (plain : char ≠ escape) (rest : Strips text bare) :
      Strips (char :: text) (char :: bare)
  | code (parameters text bare : List Char) (running : 'm' ∉ parameters) (rest : Strips text bare) :
      Strips (escape :: '[' :: (parameters ++ 'm' :: text)) bare
  /-- A code that never ends takes all that is left. -/
  | endless (parameters : List Char) (running : 'm' ∉ parameters) :
      Strips (escape :: '[' :: parameters) []
  /-- Any other escape character takes the one behind it along, be it another escape. -/
  | foreign (char : Char) (text bare : List Char) (no_code : char ≠ '[') (rest : Strips text bare) :
      Strips (escape :: char :: text) bare
  | last : Strips [escape] []

theorem Strips.longer {text bare : List Char} (inside : Strips (escape :: '[' :: text) bare)
    (char : Char) (runs : char ≠ 'm') : Strips (escape :: '[' :: char :: text) bare := by
  cases inside with
  | kept _ _ _ plain => exact absurd rfl plain
  | code parameters text _ running rest =>
      exact .code (char :: parameters) text bare (by simp [running, runs.symm]) rest
  | endless _ running => exact .endless (char :: text) (by simp [running, runs.symm])
  | foreign _ _ _ no_code => exact absurd rfl no_code

theorem stripColour_plain (char : Char) (rest : List Char) (plain : char ≠ escape) :
    stripColour (char :: rest) = char :: stripColour rest := by
  have other : char ≠ '\x1b' := plain
  simp [stripColour, other]

theorem stripColour_foreign (char : Char) (rest : List Char) (no_code : char ≠ '[') :
    stripColour (escape :: char :: rest) = stripColour rest := by
  simp [escape, stripColour]

theorem stripParameters_running (parameters : List Char) (running : 'm' ∉ parameters) :
    stripParameters parameters = [] ∧
      ∀ text, stripParameters (parameters ++ 'm' :: text) = stripColour text := by
  induction parameters with
  | nil => simp [stripParameters]
  | cons char parameters ih =>
      obtain ⟨runs, running⟩ := List.ne_and_not_mem_of_not_mem_cons running
      obtain ⟨endless, ended⟩ := ih running
      simp [stripParameters, runs.symm, endless, ended]

theorem strips_stripColour (text : List Char) : Strips text (stripColour text) := by
  refine stripColour.induct (fun text => Strips text (stripColour text))
    (fun text => Strips (escape :: '[' :: text) (stripParameters text))
    ?nothing ?code ?foreign ?last ?kept ?endless ?ended ?longer text
  case nothing => exact .nothing
  case code => exact fun rest inside => inside
  case foreign =>
    intro char rest no_code stripped
    rw [← escape, stripColour_foreign char rest no_code]
    exact .foreign char rest _ no_code stripped
  case last => exact .last
  case kept =>
    intro char rest _ not_foreign not_last stripped
    have plain : char ≠ escape := by
      intro same
      cases rest with
      | nil => exact not_last same rfl
      | cons next rest => exact not_foreign next rest same rfl
    rw [stripColour_plain char rest plain]
    exact .kept char rest _ plain stripped
  case endless => exact .endless [] List.not_mem_nil
  case ended => exact fun rest stripped => .code [] rest _ List.not_mem_nil stripped
  case longer =>
    intro char rest runs inside
    have passed : stripParameters (char :: rest) = stripParameters rest := by
      simp [stripParameters]
    rw [passed]
    exact inside.longer char runs

theorem strips_iff (text bare : List Char) : Strips text bare ↔ stripColour text = bare := by
  constructor
  · intro strips
    induction strips with
    | nothing => rfl
    | kept char text bare plain _ ih => rw [stripColour_plain char text plain, ih]
    | code parameters text bare running _ ih =>
        exact ((stripParameters_running parameters running).2 text).trans ih
    | endless parameters running => exact (stripParameters_running parameters running).1
    | foreign char text bare no_code _ ih => rw [stripColour_foreign char text no_code, ih]
    | last => rfl
  · rintro rfl
    exact strips_stripColour text

section Strips

variable {text bare : List Char}

theorem Strips.no_escape (strips : Strips text bare) : escape ∉ bare := by
  induction strips with
  | nothing => exact List.not_mem_nil
  | kept char _ _ plain _ ih => exact List.not_mem_cons_of_ne_of_not_mem plain.symm ih
  | code _ _ _ _ _ ih => exact ih
  | endless => exact List.not_mem_nil
  | foreign _ _ _ _ _ ih => exact ih
  | last => exact List.not_mem_nil

theorem Strips.sublist (strips : Strips text bare) : bare.Sublist text := by
  induction strips with
  | nothing => exact .slnil
  | kept char _ _ _ _ ih => exact ih.cons_cons char
  | code parameters text _ _ _ ih =>
      have behind : text.Sublist (parameters ++ 'm' :: text) :=
        (List.sublist_cons_self 'm' text).trans (List.sublist_append_right parameters _)
      exact ((ih.trans behind).cons '[').cons escape
  | endless => exact List.nil_sublist _
  | foreign char _ _ _ _ ih => exact (ih.cons char).cons escape
  | last => exact List.nil_sublist _

theorem Strips.behind (strips : Strips text bare) (front : List Char) (plain : escape ∉ front) :
    Strips (front ++ text) (front ++ bare) := by
  induction front with
  | nil => exact strips
  | cons char front ih =>
      obtain ⟨first, others⟩ := List.ne_and_not_mem_of_not_mem_cons plain
      exact .kept char _ _ first.symm (ih others)

end Strips

theorem strips_self (text : List Char) (plain : escape ∉ text) : Strips text text := by
  simpa using Strips.nothing.behind text plain

theorem stripColour_eq_self_iff (text : List Char) : stripColour text = text ↔ escape ∉ text := by
  constructor
  · intro same
    have left := (strips_stripColour text).no_escape
    rwa [same] at left
  · intro plain
    exact (strips_iff text text).mp (strips_self text plain)

theorem stripColour_idem (text : List Char) : stripColour (stripColour text) = stripColour text :=
  (stripColour_eq_self_iff _).mpr (strips_stripColour text).no_escape

structure Coloured where
  parameters : List Char
  text : List Char
  running : 'm' ∉ parameters
  plain : escape ∉ text

namespace Coloured

def written (stretch : Coloured) : List Char :=
  escape :: '[' :: (stretch.parameters ++ 'm' :: stretch.text)

theorem strips_written (stretches : List Coloured) :
    Strips (stretches.flatMap written) (stretches.flatMap text) := by
  induction stretches with
  | nil => exact .nothing
  | cons stretch stretches ih =>
      have behind := ih.behind stretch.text stretch.plain
      have stripped := Strips.code stretch.parameters _ _ stretch.running behind
      simpa [written] using stripped

end Coloured

end VolumeImport.Text
