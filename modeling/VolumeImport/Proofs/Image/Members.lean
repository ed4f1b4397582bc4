import VolumeImport.Proofs.Image.Documents
import VolumeImport.Proofs.Json.Unambiguity

/-!
Which report an object makes. Only the members with a known key count: each of them at most once, two of them
always, and every one with a value of its own type. Other members may hold anything, and no member cares where
it stands.
-/

namespace VolumeImport.ImageReport

open Json

variable {α : Type}

def knownKeys : List String :=
  ["format", "backing-filename", "virtual-size", "actual-size"]

def known (entries : List Entry) : List (String × Bytes) :=
  (entries.map Entry.member).filter (·.1 ∈ knownKeys)

/-- What makes a report possible. Nothing is said of the members that do not count. -/
structure Acceptable (entries : List Entry) : Prop where
  once : ∀ key ∈ knownKeys, (values key entries).length ≤ 1
  format : ∃ text ∈ values "format" entries, ∃ name, IsString text name
  virtualSize : ∃ text ∈ values "virtual-size" entries, ∃ size, IsSigned text size
  actualSize : ∀ text ∈ values "actual-size" entries, ∃ size, IsSigned text size
  backingFile : ∀ text ∈ values "backing-filename" entries, ∃ name, IsOptionalString text name

theorem values_known (key : String) (entries : List Entry) (counts : key ∈ knownKeys) :
    values key entries = ((known entries).filter (·.1 = key)).map Prod.snd := by
  induction entries with
  | nil => rfl
  | cons entry rest ih =>
      rw [values_cons, ih]
      by_cases same : entry.key = key
      · simp [known, Entry.member, same, counts]
      · by_cases listed : entry.key ∈ knownKeys <;> simp [known, Entry.member, same, listed]

theorem values_perm (key : String) (entries others : List Entry) (counts : key ∈ knownKeys)
    (same : (known others).Perm (known entries)) :
    (values key others).Perm (values key entries) := by
  rw [values_known key others counts, values_known key entries counts]
  exact (same.filter _).map _

/-- A report needs each key at most once, so it cannot depend on their order. -/
theorem tells_of_perm (entries others : List Entry) (report : ImageReport)
    (same : (known others).Perm (known entries)) (spelled : ∀ entry ∈ others, IsValue entry.value)
    (tells : Tells entries report) : Tells others report := by
  have only : ∀ key ∈ knownKeys, ∀ text, values key entries = [text] →
      values key others = [text] := fun key counts text found =>
    List.perm_singleton.mp (found ▸ values_perm key entries others counts same)
  have absent : ∀ key ∈ knownKeys, values key entries = [] → values key others = [] :=
    fun key counts missing => List.perm_nil.mp (missing ▸ values_perm key entries others counts same)
  obtain ⟨⟨format, one_format, named⟩, ⟨size, one_size, sized⟩, file, actual, -⟩ := tells
  refine ⟨⟨format, only _ (by decide) format one_format, named⟩,
    ⟨size, only _ (by decide) size one_size, sized⟩, ?_, ?_, fun entry listed _ => spelled entry listed⟩
  · rcases file with ⟨missing, none_told⟩ | ⟨text, one, told⟩
    · exact .inl ⟨absent _ (by decide) missing, none_told⟩
    · exact .inr ⟨text, only _ (by decide) text one, told⟩
  · rcases actual with ⟨missing, zero_told⟩ | ⟨text, one, told⟩
    · exact .inl ⟨absent _ (by decide) missing, zero_told⟩
    · exact .inr ⟨text, only _ (by decide) text one, told⟩

theorem values_of_gap (key : String) (entries others : List Entry) (gap : Bytes)
    (same : others.map Entry.member = entries.map fun entry => (entry.key, gap ++ entry.value)) :
    values key others = (values key entries).map (gap ++ ·) := by
  have member_values : values key others =
      ((others.map Entry.member).filter (·.1 = key)).map Prod.snd := by
    rw [List.filter_map, List.map_map]
    rfl
  rw [member_values, same, List.filter_map, List.map_map, values, List.map_map]
  rfl

section AfterBlanks

variable (gap text : Bytes) (blank : AllBlank gap)
include blank

theorem isFormat_after_blanks (format : DiskFormat) (told : IsFormat text format) :
    IsFormat (gap ++ text) format := by
  have passes := (mapped_regular readString DiskFormat.ofName readString_regular).blanks
  exact format_recognizes.after_blanks passes gap text format blank told

theorem isBackingFile_after_blanks (file : Option Path) (told : IsBackingFile text file) :
    IsBackingFile (gap ++ text) file := by
  have passes := (mapped_regular _ (fun name => (name.filter (· ≠ "")).map Path.ofText)
    readOptionalString_regular).blanks
  exact backingFile_recognizes.after_blanks passes gap text file blank told

theorem isSigned_after_blanks (size : Int) (told : IsSigned text size) :
    IsSigned (gap ++ text) size :=
  readSigned_recognizes.after_blanks readSigned_regular.blanks gap text size blank told

end AfterBlanks

theorem tells_of_gap (entries others : List Entry) (report : ImageReport) (gap : Bytes)
    (blank : AllBlank gap)
    (same : others.map Entry.member = entries.map fun entry => (entry.key, gap ++ entry.value))
    (tells : Tells entries report) : Tells others report := by
  have one : ∀ key text, values key entries = [text] → values key others = [gap ++ text] := by
    intro key text found
    rw [values_of_gap key entries others gap same, found]
    rfl
  have missing : ∀ key, values key entries = [] → values key others = [] := by
    intro key found
    rw [values_of_gap key entries others gap same, found]
    rfl
  obtain ⟨⟨format, one_format, named⟩, ⟨size, one_size, sized⟩, file, actual, values⟩ := tells
  refine ⟨⟨_, one _ format one_format, isFormat_after_blanks gap format blank _ named⟩,
    ⟨_, one _ size one_size, isSigned_after_blanks gap size blank _ sized⟩, ?_, ?_, ?_⟩
  · rcases file with ⟨absent, none_told⟩ | ⟨text, one_file, told⟩
    · exact .inl ⟨missing _ absent, none_told⟩
    · exact .inr ⟨_, one _ text one_file, isBackingFile_after_blanks gap text blank _ told⟩
  · rcases actual with ⟨absent, zero_told⟩ | ⟨text, one_actual, told⟩
    · exact .inl ⟨missing _ absent, zero_told⟩
    · exact .inr ⟨_, one _ text one_actual, isSigned_after_blanks gap text blank _ told⟩
  · intro entry listed unknown
    obtain ⟨other, member, key, value⟩ := Entry.exists_of_gap entries others gap same entry listed
    rw [← key] at unknown
    rw [← value]
    exact (values other member unknown).after_blanks gap blank

theorem needed_iff (Is : Bytes → α → Prop) (texts : List Bytes) :
    (∃ value text, texts = [text] ∧ Is text value) ↔
      texts.length ≤ 1 ∧ ∃ text ∈ texts, ∃ value, Is text value := by
  constructor
  · rintro ⟨value, text, rfl, told⟩
    exact ⟨Nat.le_refl 1, text, by simp, value, told⟩
  · rintro ⟨once, text, listed, value, told⟩
    rcases texts with _ | ⟨first, _ | ⟨second, more⟩⟩
    · cases listed
    · obtain rfl := List.mem_singleton.mp listed
      exact ⟨value, text, rfl, told⟩
    · simp at once

theorem defaulted_iff (Is : Bytes → α → Prop) (texts : List Bytes) (missing : α) :
    (∃ value, texts = [] ∧ value = missing ∨ ∃ text, texts = [text] ∧ Is text value) ↔
      texts.length ≤ 1 ∧ ∀ text ∈ texts, ∃ value, Is text value := by
  constructor
  · rintro ⟨value, ⟨rfl, rfl⟩ | ⟨text, rfl, told⟩⟩
    · simp
    · exact ⟨Nat.le_refl 1, fun other listed => List.mem_singleton.mp listed ▸ ⟨value, told⟩⟩
  · rintro ⟨once, typed⟩
    rcases texts with _ | ⟨text, _ | ⟨second, more⟩⟩
    · exact ⟨missing, .inl ⟨rfl, rfl⟩⟩
    · obtain ⟨value, told⟩ := typed text (by simp)
      exact ⟨value, .inr ⟨text, rfl, told⟩⟩
    · simp at once

theorem tells_acceptable (entries : List Entry) (report : ImageReport)
    (tells : Tells entries report) : Acceptable entries := by
  obtain ⟨one_format, format, listed_format, _, name, named, -⟩ :=
    (needed_iff IsFormat _).mp ⟨_, tells.format⟩
  obtain ⟨one_size, size⟩ := (needed_iff IsSigned _).mp ⟨_, tells.virtualSize⟩
  obtain ⟨one_file, file⟩ := (defaulted_iff IsBackingFile _ _).mp ⟨_, tells.backingFile⟩
  obtain ⟨one_actual, actual⟩ := (defaulted_iff IsSigned _ _).mp ⟨_, tells.actualSize⟩
  refine ⟨?_, ⟨format, listed_format, name, named⟩, size, actual, ?_⟩
  · simp only [knownKeys, List.forall_mem_cons]
    exact ⟨one_format, one_file, one_size, one_actual, by simp⟩
  · intro text listed
    obtain ⟨path, told⟩ := file text listed
    obtain ⟨name, spelled, -⟩ := (isBackingFile_iff text path).mp told
    exact ⟨name, spelled⟩

theorem acceptable_tells (entries : List Entry) (spelled : ∀ entry ∈ entries, IsValue entry.value)
    (acceptable : Acceptable entries) : ∃ report, Tells entries report := by
  obtain ⟨once, ⟨text, listed, name, named⟩, size, actual, file⟩ := acceptable
  simp only [knownKeys, List.forall_mem_cons] at once
  obtain ⟨one_format, one_file, one_size, one_actual, -⟩ := once
  have backed : ∀ text ∈ values "backing-filename" entries, ∃ path, IsBackingFile text path := by
    intro text listed
    obtain ⟨name, told⟩ := file text listed
    exact ⟨_, (isBackingFile_iff text _).mpr ⟨name, told, rfl⟩⟩
  obtain ⟨format, format_told⟩ := (needed_iff IsFormat _).mpr
    ⟨one_format, text, listed, _, name, named, (declares_iff name _).mpr rfl⟩
  obtain ⟨virtual, size_told⟩ := (needed_iff IsSigned _).mpr ⟨one_size, size⟩
  obtain ⟨path, file_told⟩ := (defaulted_iff IsBackingFile _ none).mpr ⟨one_file, backed⟩
  obtain ⟨room, actual_told⟩ := (defaulted_iff IsSigned _ 0).mpr ⟨one_actual, actual⟩
  exact ⟨⟨format, path, virtual, room⟩, format_told, size_told, file_told, actual_told,
    fun entry listed _ => spelled entry listed⟩

theorem tells_values (entries : List Entry) (report : ImageReport) (tells : Tells entries report) :
    ∀ entry ∈ entries, IsValue entry.value := by
  obtain ⟨-, -, -, actual, file⟩ := tells_acceptable entries report tells
  obtain ⟨⟨format, one_format, name, named, -⟩, ⟨size, one_size, sized⟩, -, -, others⟩ := tells
  intro entry listed
  have counted : entry.value ∈ values entry.key entries :=
    List.mem_map.mpr ⟨entry, List.mem_filter.mpr ⟨listed, by simp⟩, rfl⟩
  by_cases counts : entry.key ∈ knownKeys
  · simp only [knownKeys, List.mem_cons, List.not_mem_nil, or_false] at counts
    rcases counts with key | key | key | key <;> rw [key] at counted
    · obtain rfl : entry.value = format := by simpa [one_format] using counted
      exact isString_isValue _ name named
    · obtain ⟨name, told⟩ := file entry.value counted
      exact isOptionalString_isValue _ name told
    · obtain rfl : entry.value = size := by simpa [one_size] using counted
      exact isInteger_isValue _ _ sized.1
    · obtain ⟨room, told⟩ := actual entry.value counted
      exact isInteger_isValue _ room told.1
  · exact others entry listed counts

theorem describes_object (object : WrittenObject) (trailing : Bytes) (report : ImageReport) :
    Describes (object.text ++ trailing) report ↔
      AllBlank trailing ∧ Tells object.entries report := by
  constructor
  · intro described
    generalize same : object.text ++ trailing = output at described
    cases described with
    | object before blanks after entries _ before_blank inside_blank after_blank tells =>
        let other : WrittenObject := ⟨before, blanks, entries, after, before_blank, inside_blank,
          after_blank, tells_values entries report tells⟩
        obtain ⟨members, blank⟩ := object.unique other trailing same
        refine ⟨blank, tells_of_perm entries object.entries report ?_ object.values tells⟩
        rw [known, members, known]
    | array before blanks after elements _ before_blank _ _ _ =>
        have start := object.start trailing
        rw [same, skipBlanks_append before _ before_blank, skipBlanks_cons 0x5B _ rfl] at start
        cases (List.cons.inj start).1
  · rintro ⟨blank, tells⟩
    have whole := Describes.object object.before object.blanks (object.after ++ trailing) object.entries
      report object.before_blank object.blanks_blank
      (object.after_blank.append blank) tells
    simpa [WrittenObject.text] using whole

/-- An object is read for its known members, each by its own type and without a second try, and for nothing
else: where it stands among other members makes no difference, nor what these hold. Without a report all of
the output is handed back. -/
theorem object_read_exactly (object : WrittenObject) (image : String) :
    ((∃ report, parse object.text image = .ok report) ↔ Acceptable object.entries) ∧
    (∀ report, parse object.text image = .ok report ↔ Tells object.entries report) ∧
    (∀ trailing, ¬AllBlank trailing ∨ ¬Acceptable object.entries →
      ∃ fault, parse (object.text ++ trailing) image =
        .error (.invalidImageInfo image (Utf8.decodeLossy (object.text ++ trailing)) fault)) ∧
    ∀ other : WrittenObject, (known other.entries).Perm (known object.entries) →
      ∀ report, parse object.text image = .ok report → parse other.text image = .ok report := by
  have reported : ∀ (object : WrittenObject) report,
      parse object.text image = .ok report ↔ Tells object.entries report := by
    intro object report
    have described := describes_object object [] report
    rw [List.append_nil] at described
    rw [parse_ok_iff, described]
    exact ⟨And.right, fun tells => ⟨by simp [AllBlank], tells⟩⟩
  refine ⟨?_, reported object, ?_, ?_⟩
  · rw [exists_congr (reported object)]
    constructor
    · rintro ⟨report, tells⟩
      exact tells_acceptable object.entries report tells
    · exact acceptable_tells object.entries object.values
  · intro trailing wrong
    apply parse_error
    intro report described
    obtain ⟨blank, tells⟩ := (describes_object object trailing report).mp described
    rcases wrong with not_blank | refused
    · exact not_blank blank
    · exact refused (tells_acceptable object.entries report tells)
  · intro other same report read
    have tells := (reported object report).mp read
    exact (reported other report).mpr
      (tells_of_perm object.entries other.entries report same other.values tells)

/-- A known key with an escape in it, behind a member that counts for nothing, and a name that only its capitals
tell from a known one. -/
def escapedKey : String :=
  "\x7b\"disk\":null, \"\\u0066ormat\" : \"VMDK\",\"virtual-size\":1048576\x7d"

theorem escaped_key_read :
    ∃ object : WrittenObject, object.text = Utf8.encode escapedKey ∧
      parse object.text "disk" = .ok ⟨.other "VMDK", none, 1048576, 0⟩ ∧
      ∃ fault, parse (object.text ++ [0xFF]) "disk" =
        .error (.invalidImageInfo "disk" (escapedKey ++ "\uFFFD") fault) := by
  have quoted : ∀ text value, readString text = .ok (value, []) → IsString text value :=
    fun text value => (recognizes_reads readString IsString readString_recognizes text value).mp
  have size : IsSigned (Utf8.encode "1048576") 1048576 :=
    (recognizes_reads readSigned IsSigned readSigned_recognizes _ _).mp rfl
  have name : IsString (Utf8.encode " \"VMDK\"") "VMDK" := quoted _ _ rfl
  let entries : List Entry :=
    [⟨"disk", Utf8.encode "\"disk\"", [], Utf8.encode "null", [], quoted _ _ rfl, allBlank_nil,
        allBlank_nil⟩,
      ⟨"format", Utf8.encode " \"\\u0066ormat\"", [0x20], Utf8.encode " \"VMDK\"", [],
        quoted _ _ (by decide +kernel), by simp [AllBlank, blankBytes], allBlank_nil⟩,
      ⟨"virtual-size", Utf8.encode "\"virtual-size\"", [], Utf8.encode "1048576", [],
        quoted _ _ rfl, allBlank_nil, allBlank_nil⟩]
  have values : ∀ entry ∈ entries, IsValue entry.value := by
    simp only [entries, List.forall_mem_cons]
    exact ⟨.word [] _ allBlank_nil (by decide), isString_isValue _ _ name,
      isInteger_isValue _ _ size.1, by simp⟩
  let object : WrittenObject :=
    ⟨[], [], entries, [], allBlank_nil, allBlank_nil, allBlank_nil, values⟩
  have tells : Tells object.entries ⟨.other "VMDK", none, 1048576, 0⟩ := {
    format := ⟨_, rfl, "VMDK", name, .foreign "VMDK" (by decide)⟩
    virtualSize := ⟨_, rfl, size⟩
    backingFile := .inl ⟨rfl, rfl⟩
    actualSize := .inl ⟨rfl, rfl⟩
    others := fun entry listed _ => values entry listed }
  obtain ⟨-, reads, refuses, -⟩ := object_read_exactly object "disk"
  obtain ⟨fault, refused⟩ := refuses [0xFF] (.inl (by simp [AllBlank, blankBytes]))
  have written : object.text = Utf8.encode escapedKey := rfl
  have kept : Utf8.decodeLossy (Utf8.encode escapedKey ++ [0xFF]) = escapedKey ++ "\uFFFD" := by
    decide +kernel
  refine ⟨object, written, (reads _).mpr tells, fault, ?_⟩
  rw [refused, written, kept]

end VolumeImport.ImageReport
