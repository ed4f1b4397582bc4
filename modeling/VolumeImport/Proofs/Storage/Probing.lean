import VolumeImport.Engine.Session
import VolumeImport.Proofs.FileSystem.Creation

/-!
What probing leaves behind: nothing. The open creates a file only at a vacant place, which is the place where
the path is looked for again when the file is to go; an open that creates nothing leaves nothing there to
remove. Whatever the storage answers, and whether or not a refused open has left its file, the file system is
the one from before.
-/

namespace VolumeImport.Unbuffered

theorem errno_alreadyExists (errno : Errno)
    (kind : (SystemError.call errno).kind = .alreadyExists) : errno = .alreadyExists := by
  obtain ⟨number⟩ := errno
  simp only [SystemError.kind, Errno.describe] at kind
  split at kind <;> simp_all [Errno.alreadyExists]

theorem answer_alreadyExists (verdict : Verdict) (error : SystemError)
    (answered : answer verdict = .error error) (kind : error.kind = .alreadyExists) :
    verdict.refusal = some .alreadyExists := by
  unfold answer at answered
  split at answered
  · cases answered
  · rename_i errno refused
    split at answered
    · cases answered
    · cases answered
      rw [refused, errno_alreadyExists errno kind]

/-- How a probe of a file goes, with what the opened path held while it was open. -/
inductive Course (storage : Storage) (path : Path) (files : FileSystem) :
    Except SystemError Bool → FileSystem → Prop where
  /-- What lies there is opened as it is; of a dangling link nothing is opened. -/
  | found (node : Node) (seen : files.lstat path = .ok node) (answer : Except SystemError Bool)
      (asked : answer = if node.isLink && !files.isPresent path then .ok false
        else probeExisting storage path files) :
      Course storage path files answer files
  | unclear (error : SystemError) (seen : files.lstat path = .error error)
      (other : error.kind ≠ .notFound) :
      Course storage path files (.error error) files
  /-- Nothing lies there, and the open leaves nothing that could be removed. -/
  | refused (error : SystemError) (seen : files.lstat path = .error error)
      (missing : error.kind = .notFound) (answer : Except SystemError Bool)
      (opened : probeNew storage path files = (answer, files))
      (nothing : ∃ failure, files.unlink path = .error failure) :
      Course storage path files answer files
  /-- The open creates its file at a vacant place of its own, and removing it there succeeds. -/
  | created (location : Location) (place : files.IsVacancy path location)
      (opened : probeNew storage path files =
        (answer (storage location), files.put location (.file probeFileMode [])))
      (removed : (files.put location (.file probeFileMode [])).unlink path = .ok files) :
      Course storage path files (answer (storage location)) files

theorem unlink_unseen (files : FileSystem) (path : Path) (error : SystemError)
    (seen : files.lstat path = .error error) : files.unlink path = .error error := by
  unfold FileSystem.lstat at seen
  unfold FileSystem.unlink
  cases located : files.locate path false with
  | error failure => simpa [located, Except.map] using seen
  | ok found => simp [located, Except.map] at seen

theorem discard_unseen (files : FileSystem) (path : Path) (error : SystemError)
    (seen : files.lstat path = .error error) : files.discard path = files := by
  rw [FileSystem.discard, unlink_unseen files path error seen]

/-- The file is there after the open: it succeeded, or it failed and left its file. -/
def creates (verdict : Verdict) : Prop :=
  verdict.refusal = none ∨ (verdict.leavesFile = true ∧ verdict.refusal ≠ some .alreadyExists)

theorem not_alreadyExists_of_creates (verdict : Verdict) (creating : creates verdict)
    (error : SystemError) (answered : answer verdict = .error error) :
    error.kind ≠ .alreadyExists := by
  intro kind
  have refusal := answer_alreadyExists verdict error answered kind
  rcases creating with none | ⟨-, other⟩
  · rw [refusal] at none
    cases none
  · exact other refusal

theorem probeNew_cases (storage : Storage) (path : Path) (files : FileSystem) :
    (∃ answer, probeNew storage path files = (answer, files)) ∨
      ∃ location, files.IsVacancy path location ∧ creates (storage location) ∧
        probeNew storage path files =
          (answer (storage location), files.put location (.file probeFileMode [])) := by
  unfold probeNew
  cases vacancy : files.fileVacancy path with
  | error error => exact Or.inl ⟨_, rfl⟩
  | ok location =>
      have place := files.fileVacancy_isVacancy path location vacancy
      by_cases creating : creates (storage location)
      · right
        refine ⟨location, place, creating, ?_⟩
        dsimp only
        rw [if_pos (by simpa [creates] using creating)]
      · left
        refine ⟨answer (storage location), ?_⟩
        dsimp only
        rw [if_neg (by simpa [creates] using creating)]

theorem probeFile_course (storage : Storage) (path : Path) (files : FileSystem) :
    Course storage path files (probeFile storage path files).1
      (probeFile storage path files).2 := by
  unfold probeFile
  cases seen : files.lstat path with
  | ok node =>
      by_cases dangling : (node.isLink && !files.isPresent path) = true
      · dsimp only
        rw [if_pos dangling]
        exact Course.found node seen _ (if_pos dangling).symm
      · dsimp only
        rw [if_neg dangling]
        exact Course.found node seen _ (if_neg dangling).symm
  | error error =>
      by_cases missing : error.kind = .notFound
      · dsimp only
        rw [if_pos missing]
        rcases probeNew_cases storage path files with
          ⟨answer, opened⟩ | ⟨location, place, creating, opened⟩
        · have course := Course.refused error seen missing answer opened
            ⟨error, unlink_unseen files path error seen⟩
          rw [opened]
          cases answer <;> simpa [discard_unseen files path error seen] using course
        · have removed := place.unlink probeFileMode []
          have course := Course.created location place opened removed
          rw [opened]
          cases answered : answer (storage location) with
          | ok isDirect => simpa [FileSystem.discard, removed, answered] using course
          | error failure =>
              have other := not_alreadyExists_of_creates _ creating failure answered
              simpa [FileSystem.discard, removed, answered, other] using course
      · dsimp only
        rw [if_neg missing]
        exact Course.unclear error seen missing

theorem Course.untouched {storage : Storage} {path : Path} {files after : FileSystem}
    {answer : Except SystemError Bool} (course : Course storage path files answer after) :
    after = files := by
  cases course <;> rfl

theorem prober_untouched {ω : Type} (storage : Storage) (kind : ProbeKind) (path : Path)
    (files : FileSystem) (world : ω) :
    (prober storage kind path files world).1.2 = files := by
  cases kind with
  | file => exact (probeFile_course storage path files).untouched
  | blockDevice => rfl

theorem askProber_untouched {α ω : Type} (engine : Engine ω) (storage : Storage)
    (probes : engine.probe = prober storage) (kind : ProbeKind) (path : Path)
    (session : Session α ω) :
    (engine.askProber kind path session).2.files = session.files := by
  unfold Engine.askProber
  rw [probes]
  exact prober_untouched storage kind path session.files session.world

theorem chooseCacheMode_untouched {α ω : Type} (engine : Engine ω) (storage : Storage)
    (probes : engine.probe = prober storage) (hint : CacheHint) (path : Path)
    (session : Session α ω) :
    (engine.chooseCacheMode hint path session).2.files = session.files := by
  unfold Engine.chooseCacheMode
  split
  · rfl
  · rfl
  · rename_i kind _
    have untouched := askProber_untouched engine storage probes kind path session
    split <;> simpa [*] using untouched

/-- Probing leaves no trace, and neither does the choice of a cache mode by it. A file is created only where
nothing lies, and is taken away again on every outcome of its open; nothing else is created or removed. -/
theorem probing_leaves_no_trace {α ω : Type} (storage : Storage) (path : Path) :
    (∀ files, Course storage path files (probeFile storage path files).1
        (probeFile storage path files).2) ∧
      (∀ kind files (world : ω), (prober storage kind path files world).1.2 = files) ∧
      ∀ (engine : Engine ω) (hint : CacheHint) (session : Session α ω),
        ({ engine with probe := prober storage }.chooseCacheMode hint path session).2.files =
          session.files := by
  refine ⟨probeFile_course storage path, ?_, ?_⟩
  · intro kind files world
    exact prober_untouched storage kind path files world
  · intro engine hint session
    exact chooseCacheMode_untouched _ storage rfl hint path session

end VolumeImport.Unbuffered
