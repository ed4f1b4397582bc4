/-!
Cutting a row of symbols at separators. Cutting on both sides of one separator is the same as cutting the whole
row.
-/

namespace VolumeImport.Text

/-- The pieces between separators, empty ones included. There is always at least one. -/
def cut {α : Type} (isSeparator : α → Bool) : List α → List (List α)
  | [] => [[]]
  | symbol :: rest =>
      if isSeparator symbol then [] :: cut isSeparator rest
      else
        match cut isSeparator rest with
        | [] => [[symbol]]
        | first :: others => (symbol :: first) :: others

def fields {α : Type} (isSeparator : α → Bool) (symbols : List α) : List (List α) :=
  (cut isSeparator symbols).filter (!·.isEmpty)

variable {α : Type} {isSeparator : α → Bool}

theorem cut_ne_nil (symbols : List α) : cut isSeparator symbols ≠ [] := by
  induction symbols with
  | nil => simp [cut]
  | cons symbol rest ih =>
      unfold cut
      split
      · simp
      · split <;> simp

theorem cut_eq_splitOnP (symbols : List α) :
    cut isSeparator symbols = symbols.splitOnP isSeparator := by
  induction symbols with
  | nil => rfl
  | cons symbol rest ih =>
      rw [List.splitOnP_cons_eq_if_modifyHead, ← ih]
      by_cases here : isSeparator symbol = true
      · simp [cut, here]
      · cases pieces : cut isSeparator rest with
        | nil => exact absurd pieces (cut_ne_nil rest)
        | cons first others => simp [cut, here, pieces]

theorem cut_append_separator (left right : List α) (separator : α)
    (ends : isSeparator separator = true) :
    cut isSeparator (left ++ separator :: right) =
      cut isSeparator left ++ cut isSeparator right := by
  induction left with
  | nil => simp [cut, ends]
  | cons symbol rest ih =>
      by_cases here : isSeparator symbol = true
      · simp [cut, here, ih]
      · simp only [List.cons_append, cut, here, Bool.false_eq_true, ↓reduceIte, ih]
        cases pieces : cut isSeparator rest with
        | nil => exact absurd pieces (cut_ne_nil rest)
        | cons first others => simp

theorem fields_append_separator (left right : List α) (separator : α)
    (ends : isSeparator separator = true) :
    fields isSeparator (left ++ separator :: right) =
      fields isSeparator left ++ fields isSeparator right := by
  simp [fields, cut_append_separator left right separator ends]

theorem cut_of_no_separator (symbols : List α)
    (plain : ∀ symbol ∈ symbols, isSeparator symbol = false) :
    cut isSeparator symbols = [symbols] := by
  induction symbols with
  | nil => rfl
  | cons symbol rest ih =>
      have here : isSeparator symbol = false := plain symbol (by simp)
      have behind := ih fun other member => plain other (by simp [member])
      simp [cut, here, behind]

end VolumeImport.Text
