import VolumeImport.FileSystem.Calls

/-!
What removing an entry does to look-ups. Taking an entry that is no directory out of the table can only
cut a look-up short where it meets that entry: every other look-up goes on as before, and whoever found
the entry finds nothing any more.
-/

namespace VolumeImport.FileSystem

theorem advance_taken (files : FileSystem) (followLast asDirectory : Bool) (current : Location)
    (names : List Name) (location : Location) (node : Node)
    (arrived : files.advance followLast asDirectory current names =
      .ok (.arrived (.taken location node))) :
    files.node? location = some node := by
  fun_induction advance files followLast asDirectory current names with
  | case1 current entry here =>
      obtain ⟨rfl, rfl⟩ : current = location ∧ entry = node := by simpa using arrived
      exact here
  | case5 _ _ _ _ _ ih => exact ih arrived
  | case6 _ _ _ _ _ _ ih => exact ih arrived
  | case10 current name rest mode _ _ _ _ _ child target here _ =>
      obtain ⟨rfl, rfl⟩ : child = location ∧ Node.link target = node := by simpa using arrived
      exact here
  | case12 _ _ _ _ _ _ _ _ _ _ _ _ _ ih => exact ih arrived
  | _ => cases arrived

theorem walk_taken (files : FileSystem) (followLast : Bool) (budget : Nat) (asDirectory : Bool)
    (start : Location) (names : List Name) (location : Location) (node : Node)
    (found : files.walk followLast budget asDirectory start names = .ok (.taken location node)) :
    files.node? location = some node := by
  fun_induction walk files followLast budget asDirectory start names with
  | case3 _ _ _ _ place entry arrived _ =>
      obtain ⟨rfl, rfl⟩ : place = location ∧ entry = node := by simpa using found
      exact advance_taken files _ _ _ _ _ _ arrived
  | case6 _ _ _ _ _ _ _ _ ih => exact ih found
  | _ => cases found

theorem refused_or_walked (path : Path) :
    (∃ error, ∀ files followLast asDirectory,
        find files path followLast asDirectory = .error error) ∨
      ∀ files followLast asDirectory, find files path followLast asDirectory =
        (files.walk followLast maxLinks asDirectory
          (if path.isAbsolute then [] else files.workingDirectory) path.names).mapError .call := by
  by_cases nul : path.hasNul
  · exact Or.inl ⟨.nulInPath, fun _ _ _ => by simp [find, nul]⟩
  by_cases empty : path.bytes.isEmpty
  · exact Or.inl ⟨.call .noEntry, fun _ _ _ => by simp [find, nul, empty]⟩
  by_cases long : pathBound ≤ path.bytes.length
  · exact Or.inl ⟨.call .nameTooLong, fun _ _ _ => by simp [find, nul, empty, long]⟩
  right
  intro files followLast asDirectory
  simp only [find, nul, empty, long, Bool.false_eq_true, ↓reduceIte]
  split
  · rename_i walked
    rw [walked]
    rfl
  · rename_i walked
    rw [walked]
    rfl

theorem locate_taken (files : FileSystem) (path : Path) (followLast : Bool) (location : Location)
    (node : Node) (found : files.locate path followLast = .ok (location, node)) :
    files.node? location = some node := by
  rcases refused_or_walked path with ⟨error, refused⟩ | walks
  · simp [locate, refused] at found
  · unfold locate at found
    rw [walks] at found
    generalize walked : files.walk followLast maxLinks path.endsInSlash
      (if path.isAbsolute then [] else files.workingDirectory) path.names = result at found
    rcases result with errno | ⟨place, entry⟩ | ⟨place, wanted⟩
    · cases found
    · obtain ⟨rfl, rfl⟩ := Prod.mk.inj (Except.ok.inj found)
      exact walk_taken files _ _ _ _ _ _ _ walked
    · cases found

/-- `without` is `files` but for one entry, which is no directory. -/
structure Lacks (files without : FileSystem) (location : Location) : Prop where
  start : without.workingDirectory = files.workingDirectory
  apart : ∀ place, place ≠ location → without.node? place = files.node? place
  gone : without.node? location = none
  plain : ∀ mode, files.node? location ≠ some (.directory mode)

theorem advance_lacks (files without : FileSystem) (location : Location)
    (lacks : Lacks files without location) (followLast asDirectory : Bool) (current : Location)
    (names : List Name) :
    without.advance followLast asDirectory current names =
        files.advance followLast asDirectory current names ∨
      without.advance followLast asDirectory current names = .error .noEntry ∨
      without.advance followLast asDirectory current names =
        .ok (.arrived (.vacant location asDirectory)) := by
  -- the tables differ at one place, and a name asks for two: where it stands and where it leads
  induction names generalizing current with
  | nil =>
      by_cases here : current = location
      · subst here
        exact Or.inr (Or.inl (by simp [advance, lacks.gone]))
      · exact Or.inl (by simp [advance, lacks.apart current here])
  | cons name rest ih =>
      by_cases here : current = location
      · subst here
        exact Or.inr (Or.inl (by simp [advance, lacks.gone]))
      · simp only [advance, lacks.apart current here]
        rcases files.node? current with _ | (_ | mode | _ | _ | _)
        · exact Or.inl rfl
        · exact Or.inl rfl
        · dsimp only
          split
          · exact Or.inl rfl
          split
          · exact ih current
          split
          · exact ih current.dropLast
          split
          · exact Or.inl rfl
          by_cases child : current ++ [name] = location
          · rw [child, lacks.gone]
            cases rest.isEmpty
            · exact Or.inr (Or.inl rfl)
            · exact Or.inr (Or.inr rfl)
          · rw [lacks.apart _ child]
            split
            · exact Or.inl rfl
            · exact Or.inl rfl
            · exact ih (current ++ [name])
        · exact Or.inl rfl
        · exact Or.inl rfl
        · exact Or.inl rfl

theorem walk_lacks (files without : FileSystem) (location : Location)
    (lacks : Lacks files without location) (followLast : Bool) (budget : Nat) (asDirectory : Bool)
    (start : Location) (names : List Name) :
    without.walk followLast budget asDirectory start names =
        files.walk followLast budget asDirectory start names ∨
      without.walk followLast budget asDirectory start names = .error .noEntry ∨
      ∃ wanted, without.walk followLast budget asDirectory start names =
        .ok (.vacant location wanted) := by
  induction budget generalizing asDirectory start names with
  | zero =>
      rcases advance_lacks files without location lacks (followLast || asDirectory) asDirectory
        start names with same | missed | vacant
      · exact Or.inl (by simp [walk, same])
      · exact Or.inr (Or.inl (by simp [walk, missed]))
      · exact Or.inr (Or.inr ⟨asDirectory, by simp [walk, vacant]⟩)
  | succ budget ih =>
      rcases advance_lacks files without location lacks (followLast || asDirectory) asDirectory
        start names with same | missed | vacant
      · unfold walk
        rw [same]
        split
        · exact Or.inl rfl
        · exact Or.inl rfl
        · exact Or.inl rfl
        · exact ih _ _ _
      · exact Or.inr (Or.inl (by simp [walk, missed]))
      · exact Or.inr (Or.inr ⟨asDirectory, by simp [walk, vacant]⟩)

/-- Whoever found the entry finds nothing without it. -/
theorem locate_lacks (files without : FileSystem) (location : Location)
    (lacks : Lacks files without location) (path : Path) (followLast : Bool) :
    without.locate path followLast = files.locate path followLast ∨
      without.locate path followLast = .error (.call .noEntry) := by
  rcases refused_or_walked path with ⟨error, refused⟩ | walks
  · exact Or.inl (by simp [locate, refused])
  · unfold locate
    rw [walks, walks, lacks.start]
    rcases walk_lacks files without location lacks followLast maxLinks path.endsInSlash
      (if path.isAbsolute then [] else files.workingDirectory) path.names with
      same | missed | ⟨wanted, vacant⟩
    · exact Or.inl (by rw [same])
    · exact Or.inr (by rw [missed]; rfl)
    · exact Or.inr (by rw [vacant]; rfl)

theorem locate_erase (files : FileSystem) (path : Path) (followLast : Bool) (location : Location)
    (node : Node) (found : files.locate path followLast = .ok (location, node))
    (plain : node.isDirectory = false) :
    (files.erase location).locate path followLast = .error (.call .noEntry) := by
  have here := locate_taken files path followLast location node found
  have lacks : Lacks files (files.erase location) location :=
    { start := rfl
      apart := fun place apart => by simp [apart]
      gone := by simp
      plain := fun mode same => by
        rw [here, Option.some.injEq] at same
        simp [same, Node.isDirectory] at plain }
  rcases locate_lacks files (files.erase location) location lacks path followLast with same | gone
  · have still := locate_taken _ path followLast location node (same.trans found)
    rw [lacks.gone] at still
    cases still
  · exact gone

end VolumeImport.FileSystem
