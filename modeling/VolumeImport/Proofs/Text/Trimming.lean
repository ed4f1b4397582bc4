import VolumeImport.Text.Blank

/-!
Trimming takes white space off the two ends and nothing else, and what stands there makes no difference to
the rest.
-/

namespace VolumeImport.Text

def AllBlank (text : List Char) : Prop :=
  ∀ char ∈ text, isBlank char = true

theorem trimEnd_append (text right : List Char) (blank : AllBlank right) :
    trimEnd (text ++ right) = trimEnd text := by
  have reversed : ∀ char ∈ right.reverse, isBlank char = true := by
    intro char member
    exact blank char (List.mem_reverse.mp member)
  simp only [trimEnd, List.reverse_append]
  rw [List.dropWhile_append_of_pos reversed]

theorem trimStart_append (left text : List Char) (blank : AllBlank left) :
    trimStart (left ++ text) = trimStart text :=
  List.dropWhile_append_of_pos blank

theorem trimStart_blank (text : List Char) (blank : AllBlank text) : trimStart text = [] := by
  simpa [trimStart] using trimStart_append text [] blank

theorem trim_around (left text right : List Char) (before : AllBlank left)
    (behind : AllBlank right) : trim (left ++ text ++ right) = trim text := by
  unfold trim
  rw [List.append_assoc, trimStart_append left (text ++ right) before]
  by_cases empty : (trimStart text).isEmpty = true
  · have nothing : trimStart text = [] := by simpa using empty
    have joined : trimStart (text ++ right) = [] := by
      simp only [trimStart] at nothing ⊢
      rw [List.dropWhile_append, nothing]
      exact trimStart_blank right behind
    rw [joined, nothing]
  · have joined : trimStart (text ++ right) = trimStart text ++ right := by
      simp only [trimStart] at empty ⊢
      rw [List.dropWhile_append]
      simp [empty]
    rw [joined, trimEnd_append (trimStart text) right behind]

theorem trim_exists (text : List Char) :
    ∃ left right, text = left ++ trim text ++ right ∧ AllBlank left ∧ AllBlank right := by
  refine ⟨text.takeWhile isBlank, ((trimStart text).reverse.takeWhile isBlank).reverse, ?_, ?_, ?_⟩
  · have behind : trim text ++ ((trimStart text).reverse.takeWhile isBlank).reverse =
        trimStart text := by
      rw [trim, trimEnd, ← List.reverse_append, List.takeWhile_append_dropWhile,
        List.reverse_reverse]
    rw [List.append_assoc, behind, trimStart, List.takeWhile_append_dropWhile]
  · intro char member
    exact List.all_eq_true.mp List.all_takeWhile char member
  · intro char member
    exact List.all_eq_true.mp List.all_takeWhile char (List.mem_reverse.mp member)

theorem trim_trim (text : List Char) : trim (trim text) = trim text := by
  obtain ⟨left, right, around, before, behind⟩ := trim_exists text
  have again := trim_around left (trim text) right before behind
  rw [← around] at again
  exact again.symm

theorem trim_plain (text : List Char) (plain : ∀ char ∈ text, isBlank char = false) :
    trim text = text := by
  have kept : ∀ other : List Char, (∀ char ∈ other, isBlank char = false) →
      other.dropWhile isBlank = other := by
    intro other plain
    cases other with
    | nil => rfl
    | cons first rest => simp [plain first (by simp)]
  have reversed : ∀ char ∈ text.reverse, isBlank char = false := by
    intro char member
    exact plain char (List.mem_reverse.mp member)
  rw [trim, trimEnd, trimStart, kept text plain, kept text.reverse reversed, List.reverse_reverse]

end VolumeImport.Text
