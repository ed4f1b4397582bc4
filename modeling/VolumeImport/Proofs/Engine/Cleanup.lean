import VolumeImport.Double.Script
import VolumeImport.Proofs.Engine.Courses
import VolumeImport.Proofs.FileSystem.Removal

/-!
What converting and creating leave at their destination. The file system after the operation is compared
with the one that its last tool run left, place by place. A failure takes away the entry at the destination
and nothing else, and leaves block devices and directories alone; a success of converting changes nothing,
and one of creating the permissions of the new image only.
-/

namespace VolumeImport.Engine

variable {α ω : Type}

def IsKept (node : Node) : Prop :=
  node.isBlockDevice = true ∨ node.isDirectory = true

/-- `after` is `before` without the entry at the destination itself, unless that entry is kept. -/
structure Cleared (destination : Path) (before after : FileSystem) : Prop where
  start : after.workingDirectory = before.workingDirectory
  locks : after.modeLocks = before.modeLocks
  gone : ∀ place node, before.locate destination false = .ok (place, node) → ¬ IsKept node →
    after.node? place = none
  kept : ∀ place, (∀ node, before.locate destination false = .ok (place, node) → IsKept node) →
    after.node? place = before.node? place
  left : ∀ node, after.lstat destination = .ok node → IsKept node

/-- `after` is `before` with other permissions on what the destination leads to. -/
structure Permitted (destination : Path) (mode : Nat) (before after : FileSystem) : Prop where
  start : after.workingDirectory = before.workingDirectory
  locks : after.modeLocks = before.modeLocks
  changed : ∃ place node, before.locate destination true = .ok (place, node) ∧
    after.node? place = some (node.withMode mode) ∧
    ∀ other, other ≠ place → after.node? other = before.node? other

theorem clearDestination_absent (files : FileSystem) (destination : Path) (error : SystemError)
    (absent : files.locate destination false = .error error) :
    clearDestination files destination = files := by
  simp [clearDestination, FileSystem.lstat, absent, Except.map]

theorem clearDestination_kept (files : FileSystem) (destination : Path) (location : Location)
    (node : Node) (found : files.locate destination false = .ok (location, node))
    (keep : IsKept node) : clearDestination files destination = files := by
  rcases keep with device | directory
  · cases node <;> simp [Node.isBlockDevice] at device
    simp [clearDestination, FileSystem.lstat, found, Except.map]
  · cases node <;> simp [Node.isDirectory] at directory
    simp [clearDestination, FileSystem.lstat, FileSystem.discard, FileSystem.unlink, found,
      Except.map, Node.isDirectory]

theorem clearDestination_erased (files : FileSystem) (destination : Path) (location : Location)
    (node : Node) (found : files.locate destination false = .ok (location, node))
    (plain : ¬ IsKept node) : clearDestination files destination = files.erase location := by
  cases node <;>
    simp [IsKept, Node.isBlockDevice, Node.isDirectory] at plain <;>
    simp [clearDestination, FileSystem.lstat, FileSystem.discard, FileSystem.unlink, found,
      Except.map, Node.isDirectory]

theorem locate_of_found (files : FileSystem) (path : Path) (follow : Bool) (node : Node)
    (found : (files.locate path follow).map Prod.snd = .ok node) :
    ∃ location, files.locate path follow = .ok (location, node) := by
  rcases located : files.locate path follow with error | ⟨location, other⟩
  · simp [located, Except.map] at found
  · obtain rfl : other = node := by simpa [located, Except.map] using found
    exact ⟨location, rfl⟩

theorem clearDestination_cleared (files : FileSystem) (destination : Path) :
    Cleared destination files (clearDestination files destination) := by
  cases found : files.locate destination false with
  | error error =>
      rw [clearDestination_absent files destination error found]
      refine ⟨rfl, rfl, fun place node here => ?_, fun place _ => rfl, fun node here => ?_⟩
      · rw [found] at here
        cases here
      · obtain ⟨location, here⟩ := locate_of_found files destination false node here
        rw [found] at here
        cases here
  | ok entry =>
      obtain ⟨location, node⟩ := entry
      by_cases keep : IsKept node
      · rw [clearDestination_kept files destination location node found keep]
        refine ⟨rfl, rfl, fun place other here plain => ?_, fun place _ => rfl,
          fun other here => ?_⟩
        · rw [found] at here
          cases here
          exact absurd keep plain
        · obtain ⟨place, here⟩ := locate_of_found files destination false other here
          rw [found] at here
          cases here
          exact keep
      · rw [clearDestination_erased files destination location node found keep]
        refine ⟨rfl, rfl, fun place other here _ => ?_, fun place apart => ?_,
          fun other here => ?_⟩
        · rw [found] at here
          cases here
          simp
        · have different : place ≠ location := by
            rintro rfl
            exact keep (apart node found)
          simp [different]
        · have plain : node.isDirectory = false := by
            simpa using fun directory => keep (Or.inr directory)
          have missing := FileSystem.locate_erase files destination false location node found plain
          obtain ⟨place, still⟩ := locate_of_found _ destination false other here
          rw [missing] at still
          cases still

theorem chmod_permitted (files after : FileSystem) (destination : Path) (mode : Nat)
    (changed : files.chmod destination mode = .ok after) :
    Permitted destination mode files after := by
  unfold FileSystem.chmod at changed
  rcases found : files.locate destination true with error | ⟨location, node⟩
  · simp [found] at changed
  · cases locked : files.modeLocks.lookup location with
    | some errno => simp [found, locked] at changed
    | none =>
        obtain rfl : files.put location (node.withMode mode) = after := by
          simpa [found, locked] using changed
        refine ⟨rfl, rfl, location, node, found, by simp, ?_⟩
        intro other apart
        simp [apart]

theorem convert_clears (engine : Engine ω) (source : Source) (destination : Path)
    (preallocate : Bool) (hint : CacheHint) (session : Session α ω)
    (ended : Except ImportError Unit × Session α ω)
    (course : ConvertCourse engine source destination preallocate hint session ended) :
    ∃ runs, engine.Makes session ended.2 runs ∧
      (ended.1 = .ok () ↔ ∃ last output, runs.getLast? = some last ∧ last.2.outcome = .ok output) ∧
      match ended.1, runs.getLast? with
      | .error _, some last => Cleared destination last.2.files ended.2.files
      | .error _, none => True
      | .ok (), some last => ended.2.files = last.2.files
      | .ok (), none => False := by
  cases course with
  | refused error barred => exact ⟨[], engine.makes_nothing session, by simp, trivial⟩
  | undecided error after admitted unclear =>
      have makes := engine.chooseCacheMode_makes hint destination session
      rw [unclear] at makes
      exact ⟨[], makes, by simp, trivial⟩
  | failed mode middle after cause runs admitted chosen phase =>
      obtain ⟨last, final, outcome, files⟩ := phase.last
      refine ⟨runs, ?_, by simp [final, outcome], ?_⟩
      · exact chosen_makes engine hint destination mode session middle after _ _ runs chosen phase _
      · rw [final]
        dsimp only
        rw [files]
        exact clearDestination_cleared after.files destination
  | done mode middle after output runs admitted chosen phase =>
      obtain ⟨last, final, outcome, files⟩ := phase.last
      refine ⟨runs, ?_, by simp [final, outcome], ?_⟩
      · exact chosen_makes engine hint destination mode session middle after _ _ runs chosen phase _
      · rw [final]
        exact files.symm

theorem create_clears (engine : Engine ω) (destination : Path) (size : Quantity)
    (preallocate : Bool) (session : Session α ω) (ended : Except ImportError Unit × Session α ω)
    (course : CreateCourse engine destination size preallocate session ended) :
    ∃ runs last, engine.Makes session ended.2 runs ∧ runs.getLast? = some last ∧
      (ended.1 = .ok () ↔ (∃ output, last.2.outcome = .ok output) ∧
        ∃ files, last.2.files.chmod destination 0o660 = .ok files) ∧
      match ended.1 with
      | .error _ => Cleared destination last.2.files ended.2.files
      | .ok () => Permitted destination 0o660 last.2.files ended.2.files := by
  cases course with
  | failed after cause runs phase =>
      obtain ⟨last, final, outcome, files⟩ := phase.last
      refine ⟨runs, last, phase.makes _, final, by simp [outcome], ?_⟩
      rw [files]
      exact clearDestination_cleared after.files destination
  | unprotected after output error runs phase refused =>
      obtain ⟨last, final, outcome, files⟩ := phase.last
      have locked : after.files.chmod destination 0o660 = .error error := refused
      refine ⟨runs, last, phase.makes _, final, by simp [files, locked], ?_⟩
      rw [files]
      exact clearDestination_cleared after.files destination
  | done after output files runs phase changed =>
      obtain ⟨last, final, outcome, left⟩ := phase.last
      have unlocked : after.files.chmod destination 0o660 = .ok files := changed
      refine ⟨runs, last, phase.makes _, final, by simp [outcome, left, unlocked], ?_⟩
      rw [left]
      exact chmod_permitted after.files files destination newImageMode changed

variable [Progress.Percentage α]

end VolumeImport.Engine
