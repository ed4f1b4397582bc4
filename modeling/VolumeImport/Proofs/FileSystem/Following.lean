import VolumeImport.Proofs.FileSystem.Removal

/-!
Looking at a path with and without following the last link. Whoever finds something behind the last link finds
something in front of it: the same entry, or that link.
-/

namespace VolumeImport.FileSystem

theorem advance_unfollowed (files : FileSystem) (asDirectory : Bool) (current : Location)
    (names : List Name) :
    files.advance asDirectory asDirectory current names =
        files.advance true asDirectory current names ∨
      asDirectory = false ∧ ∃ place target,
        files.advance asDirectory asDirectory current names =
          .ok (.arrived (.taken place (.link target))) := by
  cases asDirectory with
  | true => exact .inl rfl
  | false =>
      simp only [true_and]
      induction names generalizing current with
      | nil => exact .inl rfl
      | cons name rest ih =>
          simp only [advance]
          rcases files.node? current with _ | (_ | mode | _ | _ | _)
          · exact .inl rfl
          · exact .inl rfl
          · dsimp only
            split
            · exact .inl rfl
            split
            · exact ih current
            split
            · exact ih current.dropLast
            split
            · exact .inl rfl
            split
            · exact .inl rfl
            · rename_i target _
              -- a link is followed in any case unless it is the last name
              cases rest with
              | nil => exact .inr ⟨current ++ [name], target, rfl⟩
              | cons next others => exact .inl rfl
            · exact ih (current ++ [name])
          · exact .inl rfl
          · exact .inl rfl
          · exact .inl rfl

/-- What a walk finds behind a last link, it finds without following it, or else it finds the link. -/
theorem walk_unfollowed (files : FileSystem) (budget : Nat) (asDirectory : Bool)
    (start : Location) (names : List Name) (place : Location) (node : Node)
    (found : files.walk true budget asDirectory start names = .ok (.taken place node)) :
    ∃ spot entry, files.walk false budget asDirectory start names = .ok (.taken spot entry) ∧
      ((spot = place ∧ entry = node) ∨ entry.isLink = true) := by
  fun_induction walk files true budget asDirectory start names with
  | case3 budget asDirectory start names other entry arrived plain =>
      obtain ⟨rfl, rfl⟩ : other = place ∧ entry = node := by simpa using found
      rcases files.advance_unfollowed asDirectory start names with same | ⟨rfl, spot, target, link⟩
      · rw [Bool.true_or, ← same] at arrived
        exact ⟨other, entry, by simp [walk, arrived, plain], .inl ⟨rfl, rfl⟩⟩
      · exact ⟨spot, .link target, by simp [walk, link], .inr rfl⟩
  | case6 asDirectory start names directory target rest atLink budget ih =>
      rcases files.advance_unfollowed asDirectory start names with same | ⟨rfl, spot, target, link⟩
      · rw [Bool.true_or, ← same] at atLink
        unfold walk
        rw [Bool.false_or, atLink]
        exact ih found
      · exact ⟨spot, .link target, by simp [walk, link], .inr rfl⟩
  | _ => cases found

theorem locate_unfollowed (files : FileSystem) (path : Path) (place : Location) (node : Node)
    (found : files.locate path true = .ok (place, node)) :
    ∃ spot entry, files.locate path false = .ok (spot, entry) ∧
      ((spot = place ∧ entry = node) ∨ entry.isLink = true) := by
  rcases refused_or_walked path with ⟨error, refused⟩ | walks
  · simp [locate, refused] at found
  · unfold locate at found ⊢
    rw [walks] at found ⊢
    generalize walked : files.walk true maxLinks path.endsInSlash
      (if path.isAbsolute then [] else files.workingDirectory) path.names = result at found
    rcases result with errno | ⟨other, entry⟩ | ⟨other, wanted⟩
    · cases found
    · obtain ⟨rfl, rfl⟩ := Prod.mk.inj (Except.ok.inj found)
      obtain ⟨spot, own, unfollowed, same⟩ := walk_unfollowed files _ _ _ _ other entry walked
      exact ⟨spot, own, by rw [unfollowed]; rfl, same⟩
    · cases found

end VolumeImport.FileSystem
