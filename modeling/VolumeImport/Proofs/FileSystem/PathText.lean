import VolumeImport.FileSystem.Path
import VolumeImport.Proofs.Text.Encoding

/-!
Paths as texts. A path can be told as text without loss exactly if its bytes are those of a text; every path
made of a text is of this kind.
-/

namespace VolumeImport.Path

def told (path : Path) : Path :=
  .ofText path.text

def IsText (path : Path) : Prop :=
  ∃ text, path.text? = some text

theorem told_iff (path : Path) : path.told = path ↔ path.IsText := by
  have kept := Utf8.encode_decodeLossy_iff path.bytes
  constructor
  · intro same
    exact kept.mp (congrArg Path.bytes same)
  · intro sound
    exact congrArg Path.mk (kept.mpr sound)

theorem ofText_isText (text : String) : (ofText text).IsText :=
  ⟨text, (Utf8.decode?_iff _ text).mpr rfl⟩

theorem IsText.text? {path : Path} (sound : path.IsText) : path.text? = some path.text := by
  obtain ⟨text, decoded⟩ := sound
  have bytes := (Utf8.decode?_iff path.bytes text).mp decoded
  rw [decoded, Path.text, ← bytes, Utf8.decodeLossy_encode]

theorem text_injective (path other : Path) (sound : path.IsText) (also : other.IsText)
    (same : path.text = other.text) : path = other := by
  rw [← path.told_iff.mpr sound, ← other.told_iff.mpr also, told, told, same]

theorem ofText_eq_empty_iff (text : String) : ofText text = ⟨[]⟩ ↔ text = "" := by
  constructor
  · intro empty
    apply Utf8.encode_inj
    exact congrArg Path.bytes empty
  · rintro rfl
    rfl

end VolumeImport.Path
