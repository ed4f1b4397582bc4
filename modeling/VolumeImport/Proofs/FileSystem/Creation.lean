import VolumeImport.Proofs.FileSystem.Removal

/-!
What creating an entry does to look-ups. An entry put at a vacant place changes no look-up that led somewhere,
except those that led to this place: they now find the entry. So whoever creates a file under a path finds it
under the same path, and removing it there restores the file system.
-/

namespace VolumeImport.FileSystem

def Spot.filled (location : Location) (node : Node) : Spot → Spot
  | .taken place entry => .taken place entry
  | .vacant place asDirectory =>
      if place = location then .taken location node else .vacant place asDirectory

def Leg.filled (location : Location) (node : Node) : Leg → Leg
  | .arrived spot => .arrived (spot.filled location node)
  | .atLink directory target rest => .atLink directory target rest

theorem advance_atLink (files : FileSystem) (asDirectory : Bool) (current : Location)
    (names : List Name) (directory : Location) (target : Path) (rest : List Name)
    (stopped : files.advance false asDirectory current names =
      .ok (.atLink directory target rest)) :
    rest ≠ [] := by
  fun_induction advance files false asDirectory current names with
  | case5 _ _ _ _ _ ih => exact ih stopped
  | case6 _ _ _ _ _ _ ih => exact ih stopped
  | case11 current name others mode _ _ _ _ _ child link _ goes =>
      obtain ⟨-, -, rfl⟩ : current = directory ∧ link = target ∧ others = rest := by
        simpa using stopped
      simpa using goes
  | case12 _ _ _ _ _ _ _ _ _ _ _ _ _ ih => exact ih stopped
  | _ => cases stopped

theorem advance_vacant (files : FileSystem) (followLast asDirectory : Bool) (current : Location)
    (names : List Name) (location : Location) (wanted : Bool)
    (ended : files.advance followLast asDirectory current names =
      .ok (.arrived (.vacant location wanted))) :
    files.node? location = none := by
  fun_induction advance files followLast asDirectory current names with
  | case5 _ _ _ _ _ ih => exact ih ended
  | case6 _ _ _ _ _ _ ih => exact ih ended
  | case8 current name rest mode _ _ _ _ _ child missing _ =>
      obtain ⟨rfl, -⟩ : child = location ∧ asDirectory = wanted := by simpa using ended
      exact missing
  | case12 _ _ _ _ _ _ _ _ _ _ _ _ _ ih => exact ih ended
  | _ => cases ended

theorem walk_vacant (files : FileSystem) (followLast : Bool) (budget : Nat) (asDirectory : Bool)
    (start : Location) (names : List Name) (location : Location) (wanted : Bool)
    (ended : files.walk followLast budget asDirectory start names =
      .ok (.vacant location wanted)) :
    files.node? location = none := by
  fun_induction walk files followLast budget asDirectory start names with
  | case4 _ _ _ _ place asked arrived =>
      obtain ⟨rfl, -⟩ : place = location ∧ asked = wanted := by simpa using ended
      exact advance_vacant files _ _ _ _ _ _ arrived
  | case6 _ _ _ _ _ _ _ _ ih => exact ih ended
  | _ => cases ended

section Vacant

variable (files : FileSystem) (location : Location) (node : Node)
  (vacant : files.node? location = none)
include vacant

theorem node?_put_of_some (place : Location) (entry : Node)
    (here : files.node? place = some entry) :
    (files.put location node).node? place = some entry := by
  grind

theorem advance_put (plain : node.isLink = false) (followLast asDirectory : Bool)
    (current : Location) (names : List Name) (leg : Leg)
    (went : files.advance followLast asDirectory current names = .ok leg) :
    (files.put location node).advance followLast asDirectory current names =
      .ok (leg.filled location node) := by
  have stays := files.node?_put_of_some location node vacant
  fun_induction advance files followLast asDirectory current names with
  | case1 current entry here =>
      obtain rfl := Except.ok.inj went
      simp [advance, stays current entry here, Leg.filled, Spot.filled]
  | case5 current rest mode here grants ih =>
      rw [advance, stays current _ here]
      simpa [grants] using ih went
  | case6 current rest mode here grants apart ih =>
      rw [advance, stays current _ here]
      simpa [grants, apart] using ih went
  | case8 current name rest mode here grants notSame notUp short child missing last =>
      obtain rfl := Except.ok.inj went
      obtain rfl : rest = [] := by simpa using last
      rw [advance, stays current _ here]
      -- the only case without an entry at the end, which the filled place may be
      by_cases filled : child = location
      · have found : (files.put location node).node? (current ++ [name]) = some node := by
          rw [node?_put, if_pos filled]
        have arrives : Leg.filled location node (.arrived (.vacant child asDirectory)) =
            .arrived (.taken (current ++ [name]) node) := by
          simp [Leg.filled, Spot.filled, filled, show current ++ [name] = location from filled]
        rw [arrives]
        cases node <;> simp_all [advance, Node.isLink]
      · have still : (files.put location node).node? (current ++ [name]) = none := by
          rw [node?_put, if_neg filled, missing]
        simp [grants, notSame, notUp, short, still, Leg.filled, Spot.filled, filled, child]
  | case10 current name rest mode here grants notSame notUp short child target link stop =>
      obtain rfl := Except.ok.inj went
      rw [advance, stays current _ here]
      simp [grants, notSame, notUp, short, stays child _ link, stop, Leg.filled, Spot.filled, child]
  | case11 current name rest mode here grants notSame notUp short child target link goes =>
      obtain rfl := Except.ok.inj went
      rw [advance, stays current _ here]
      simp [grants, notSame, notUp, short, stays child _ link, goes, Leg.filled, child]
  | case12 current name rest mode here grants notSame notUp short child entry notLink there ih =>
      rw [advance, stays current _ here]
      have still : (files.put location node).node? (current ++ [name]) = some entry :=
        stays child entry there
      have onward := ih went
      cases entry with
      | link target => exact absurd rfl (notLink target)
      | file _ _ => simpa [grants, notSame, notUp, short, still] using onward
      | directory _ => simpa [grants, notSame, notUp, short, still] using onward
      | blockDevice _ => simpa [grants, notSame, notUp, short, still] using onward
      | channel _ _ => simpa [grants, notSame, notUp, short, still] using onward
  | _ => cases went

theorem walk_put (plain : node.isLink = false) (budget : Nat) (asDirectory : Bool)
    (unasked : asDirectory = false) (start : Location) (names : List Name) (spot : Spot)
    (went : files.walk false budget asDirectory start names = .ok spot) :
    (files.put location node).walk false budget asDirectory start names =
      .ok (spot.filled location node) := by
  have advances := files.advance_put location node vacant plain
  fun_induction walk files false budget asDirectory start names with
  | case3 budget asDirectory start names place entry arrived _ =>
      obtain rfl := Except.ok.inj went
      unfold walk
      rw [advances _ _ _ _ _ arrived]
      simp [Leg.filled, Spot.filled, unasked]
  | case4 budget asDirectory start names place wanted arrived =>
      obtain rfl := Except.ok.inj went
      unfold walk
      rw [advances _ _ _ _ _ arrived]
      by_cases here : place = location
      · simp [Leg.filled, Spot.filled, here, unasked]
      · simp [Leg.filled, Spot.filled, here]
  | case6 asDirectory start names directory target rest stopped budget ih =>
      subst unasked
      have more : rest ≠ [] := advance_atLink files _ _ _ _ _ _ stopped
      unfold walk
      rw [advances _ _ _ _ _ stopped]
      exact ih (by simp [more]) went
  | _ => cases went

end Vacant

theorem find_iff_walk (files : FileSystem) (path : Path) (follows asks : Bool) (reached : Spot)
    (found : files.find path follows asks = .ok reached) (others : FileSystem)
    (followLast asDirectory : Bool) (spot : Spot) :
    others.find path followLast asDirectory = .ok spot ↔
      others.walk followLast maxLinks asDirectory
        (if path.isAbsolute then [] else others.workingDirectory) path.names = .ok spot := by
  rcases refused_or_walked path with ⟨error, refused⟩ | walks
  · rw [refused] at found
    cases found
  · rw [walks]
    cases others.walk followLast maxLinks asDirectory
        (if path.isAbsolute then [] else others.workingDirectory) path.names with
    | error errno => exact ⟨nofun, nofun⟩
    | ok other =>
        constructor
        · intro same
          exact congrArg Except.ok (Except.ok.inj same)
        · intro same
          exact congrArg Except.ok (Except.ok.inj same)

theorem find_vacant (files : FileSystem) (path : Path) (followLast asDirectory : Bool)
    (location : Location) (wanted : Bool)
    (found : files.find path followLast asDirectory = .ok (.vacant location wanted)) :
    files.node? location = none := by
  have walked := (find_iff_walk files path _ _ _ found files _ _ _).mp found
  exact walk_vacant files _ _ _ _ _ _ _ walked

/-- An entry put where a look-up without following ended is what the same look-up finds. -/
theorem find_put (files : FileSystem) (path : Path) (location : Location) (wanted : Bool)
    (node : Node) (plain : node.isLink = false)
    (found : files.find path false false = .ok (.vacant location wanted)) :
    (files.put location node).find path false false = .ok (.taken location node) := by
  have vacant := files.find_vacant path false false location wanted found
  have walks := find_iff_walk files path _ _ _ found
  have filled := files.walk_put location node vacant plain maxLinks _ rfl _ _ _
    ((walks files _ _ _).mp found)
  rw [Spot.filled, if_pos rfl] at filled
  exact (walks (files.put location node) _ _ _).mpr filled

/-- A place for a new file: nothing lies there, and a file put there is what its path names. -/
structure IsVacancy (files : FileSystem) (path : Path) (location : Location) : Prop where
  vacant : files.node? location = none
  unseen : files.lstat path = .error (.call .noEntry)
  filled : ∀ mode content, (files.put location (.file mode content)).locate path false =
    .ok (location, .file mode content)

theorem fileVacancy_isVacancy (files : FileSystem) (path : Path) (location : Location)
    (found : files.fileVacancy path = .ok location) : IsVacancy files path location := by
  unfold fileVacancy at found
  cases spot : files.find path false false with
  | error error =>
      rw [spot] at found
      cases found
  | ok reached =>
      rw [spot] at found
      dsimp only at found
      cases slash : path.endsInSlash with
      | true => simp [slash] at found
      | false =>
          rw [slash, if_neg (by simp), vacancy, spot] at found
          cases reached with
          | taken place node => cases found
          | vacant place wanted =>
              obtain rfl := Except.ok.inj found
              exact
                { vacant := files.find_vacant path false false place wanted spot
                  unseen := by simp [lstat, locate, slash, spot, Except.map]
                  filled := fun mode content => by
                    have filled := files.find_put path place wanted (.file mode content) rfl spot
                    simp [locate, slash, filled] }

theorem IsVacancy.unlink {files : FileSystem} {path : Path} {location : Location}
    (place : IsVacancy files path location) (mode : Nat) (content : Bytes) :
    (files.put location (.file mode content)).unlink path = .ok files := by
  simp [FileSystem.unlink, place.filled mode content, Node.isDirectory,
    files.erase_put location _ place.vacant]

end VolumeImport.FileSystem
