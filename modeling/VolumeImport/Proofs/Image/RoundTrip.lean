import VolumeImport.Proofs.FileSystem.PathText
import VolumeImport.Proofs.Image.Members
import VolumeImport.Proofs.Json.Writing

/-!
Reports written and read back. Every report that has a document is read back from it, settled: a format held by
the name of a supported one becomes that one, and an empty backing file becomes none. Whatever is read is
settled already, so nothing changes when it is written and read again.
-/

namespace VolumeImport.ImageReport

open Json

def FitsWord (value : Int) : Prop :=
  -(Word.bound 63 : Nat) ≤ value ∧ value ≤ (Word.bound 63 : Nat) - 1

instance (value : Int) : Decidable (FitsWord value) :=
  inferInstanceAs (Decidable (_ ∧ _))

structure Writable (report : ImageReport) : Prop where
  backingFile : ∀ path, report.backingFile = some path → path.IsText
  virtualSize : FitsWord report.virtualSize
  actualSize : FitsWord report.actualSize

def settled (report : ImageReport) : ImageReport :=
  { report with
    format := .ofName report.format.name
    backingFile := report.backingFile.filter (· ≠ ⟨[]⟩) }

/-- No other way of holding the report is read back in its place. -/
structure Canonical (report : ImageReport) : Prop where
  format : ∀ name, report.format = .other name → name ∉ DiskFormat.supportedNames
  backingFile : report.backingFile ≠ some ⟨[]⟩

theorem ofName_canonical (name other : String) (held : DiskFormat.ofName name = .other other) :
    other ∉ DiskFormat.supportedNames := by
  by_cases known : name ∈ DiskFormat.supportedNames
  · exact absurd held ((ofName_supported name known).2 other)
  · obtain rfl := DiskFormat.other.inj ((ofName_other name known).symm.trans held)
    exact known

theorem ofName_name_iff (format : DiskFormat) :
    DiskFormat.ofName format.name = format ↔
      ∀ name, format = .other name → name ∉ DiskFormat.supportedNames := by
  constructor
  · intro same name held
    exact ofName_canonical format.name name (same.trans held)
  · intro canonical
    cases format with
    | other name => exact ofName_other name (canonical name rfl)
    | _ => rfl

theorem settled_eq_iff (report : ImageReport) : report.settled = report ↔ report.Canonical := by
  obtain ⟨format, backingFile, virtualSize, actualSize⟩ := report
  have file : backingFile.filter (· ≠ ⟨[]⟩) = backingFile ↔ backingFile ≠ some ⟨[]⟩ := by
    cases backingFile <;> simp [Option.filter_eq_some_iff]
  constructor
  · intro same
    obtain ⟨format_same, file_same, -⟩ := ImageReport.mk.inj same
    exact ⟨(ofName_name_iff format).mp format_same, file.mp file_same⟩
  · rintro ⟨format_canonical, file_canonical⟩
    simp only [settled, ImageReport.mk.injEq, and_true]
    exact ⟨(ofName_name_iff format).mpr format_canonical, file.mpr file_canonical⟩

theorem settled_canonical (report : ImageReport) : report.settled.Canonical where
  format := fun name held => ofName_canonical report.format.name name held
  backingFile := by simp [settled, Option.filter_eq_some_iff]

theorem settled_writable (report : ImageReport) (writable : report.Writable) :
    report.settled.Writable where
  backingFile := by
    intro path listed
    exact writable.backingFile path (Option.filter_eq_some_iff.mp listed).1
  virtualSize := writable.virtualSize
  actualSize := writable.actualSize

def writtenMembers (report : ImageReport) : List (String × List Char) :=
  [("format", report.format.write)] ++
    (report.backingFile.map fun path => ("backing-filename", writeText path.text)).toList ++
    [("virtual-size", writeInteger report.virtualSize),
      ("actual-size", writeInteger report.actualSize)]

theorem write?_eq (report : ImageReport) (writable : report.Writable) :
    report.write? = some (String.ofList (writeObject report.writtenMembers)) := by
  unfold write? writtenMembers
  cases backed : report.backingFile with
  | none => rfl
  | some path =>
      have decoded := (writable.backingFile path backed).text?
      simp [decoded]

theorem writtenMembers_values (report : ImageReport) :
    ∀ member ∈ report.writtenMembers, IsValue (bytesOf member.2) := by
  intro member listed
  simp only [writtenMembers, List.mem_append, List.mem_cons, List.not_mem_nil, or_false,
    Option.mem_toList, Option.map_eq_some_iff] at listed
  rcases listed with (rfl | ⟨path, -, rfl⟩) | rfl | rfl
  · exact writeText_isValue report.format.name
  · exact writeText_isValue path.text
  · exact writeInteger_isValue report.virtualSize
  · exact writeInteger_isValue report.actualSize

theorem writeText_isBackingFile (path : Path) (sound : path.IsText) :
    IsBackingFile (bytesOf (writeText path.text)) ((some path).filter (· ≠ ⟨[]⟩)) := by
  rw [isBackingFile_iff]
  refine ⟨some path.text, .string _ _ (writeText_isString path.text), ?_⟩
  have back : Path.ofText path.text = path := path.told_iff.mpr sound
  have empty := Path.ofText_eq_empty_iff path.text
  rw [back] at empty
  have both : decide (path.text ≠ "") = decide (path ≠ ⟨[]⟩) := by simp [empty]
  rw [Option.filter_some, Option.filter_some, both]
  split
  · exact congrArg some back
  · rfl

theorem writtenMembers_once (report : ImageReport) :
    let entries := report.writtenMembers.map writtenEntry
    values "format" entries = [bytesOf report.format.write] ∧
      values "virtual-size" entries = [bytesOf (writeInteger report.virtualSize)] ∧
      values "backing-filename" entries =
        (report.backingFile.map fun path => bytesOf (writeText path.text)).toList ∧
      values "actual-size" entries = [bytesOf (writeInteger report.actualSize)] := by
  cases backed : report.backingFile with
  | none => simp [values, writtenMembers, writtenEntry, backed]
  | some path => simp [values, writtenMembers, writtenEntry, backed]

theorem writtenMembers_tells (report : ImageReport) (writable : report.Writable) :
    Tells (report.writtenMembers.map writtenEntry) report.settled := by
  obtain ⟨format, virtualSize, backingFile, actualSize⟩ := report.writtenMembers_once
  exact {
    format := ⟨_, format, report.format.name, writeText_isString report.format.name,
      (declares_iff _ _).mpr rfl⟩
    virtualSize := ⟨_, virtualSize, writeInteger_isInteger report.virtualSize, writable.virtualSize⟩
    backingFile := by
      cases backed : report.backingFile with
      | none => exact .inl ⟨by simpa [backed] using backingFile, by simp [settled, backed]⟩
      | some path =>
          have file := writeText_isBackingFile path (writable.backingFile path backed)
          rw [← backed] at file
          exact .inr ⟨_, by simpa [backed] using backingFile, file⟩
    actualSize := .inr
      ⟨_, actualSize, writeInteger_isInteger report.actualSize, writable.actualSize⟩
    others := fun entry listed _ =>
      (writtenObject report.writtenMembers report.writtenMembers_values).values entry listed }

theorem parse_write (report : ImageReport) (writable : report.Writable) (image : String) :
    ∃ text, report.write? = some text ∧ parse (Utf8.encode text) image = .ok report.settled := by
  refine ⟨_, report.write?_eq writable, ?_⟩
  have object := writtenObject_text report.writtenMembers report.writtenMembers_values
  rw [parse_ok_iff, ← object, ← List.append_nil (WrittenObject.text _), describes_object]
  exact ⟨by simp [AllBlank], report.writtenMembers_tells writable⟩

theorem isFormat_canonical (text : Bytes) (format : DiskFormat) (told : IsFormat text format) :
    ∀ name, format = .other name → name ∉ DiskFormat.supportedNames := by
  obtain ⟨name, -, declared⟩ := told
  obtain rfl := (declares_iff name format).mp declared
  exact ofName_canonical name

theorem isBackingFile_canonical (text : Bytes) (file : Option Path)
    (told : IsBackingFile text file) :
    (∀ path, file = some path → path.IsText) ∧ file ≠ some ⟨[]⟩ := by
  obtain ⟨name, -, rfl⟩ := (isBackingFile_iff text file).mp told
  constructor
  · intro path listed
    obtain ⟨text, -, rfl⟩ := Option.map_eq_some_iff.mp listed
    exact Path.ofText_isText text
  · intro empty
    obtain ⟨text, kept, same⟩ := Option.map_eq_some_iff.mp empty
    rw [Path.ofText_eq_empty_iff] at same
    simp [Option.filter_eq_some_iff, same] at kept

theorem told_canonical (report : ImageReport) (format : ∃ text, IsFormat text report.format)
    (virtualSize : ∃ text, IsSigned text report.virtualSize)
    (file : report.backingFile = none ∨ ∃ text, IsBackingFile text report.backingFile)
    (actualSize : report.actualSize = 0 ∨ ∃ text, IsSigned text report.actualSize) :
    report.Writable ∧ report.Canonical := by
  obtain ⟨_, named⟩ := format
  obtain ⟨_, -, sized⟩ := virtualSize
  have backed : (∀ path, report.backingFile = some path → path.IsText) ∧
      report.backingFile ≠ some ⟨[]⟩ := by
    rcases file with missing | ⟨text, told⟩
    · simp [missing]
    · exact isBackingFile_canonical text _ told
  have room : FitsWord report.actualSize := by
    rcases actualSize with missing | ⟨_, -, fits⟩
    · have positive := Word.bound_pos 63
      rw [missing, FitsWord]
      omega
    · exact fits
  exact ⟨⟨backed.1, sized, room⟩, isFormat_canonical _ _ named, backed.2⟩

theorem describes_canonical (output : Bytes) (report : ImageReport)
    (described : Describes output report) : report.Writable ∧ report.Canonical := by
  cases described with
  | object before blanks after entries _ _ _ _ tells =>
      apply told_canonical
      · exact tells.format.imp fun _ => And.right
      · exact tells.virtualSize.imp fun _ => And.right
      · exact tells.backingFile.imp And.right fun told => told.imp fun _ => And.right
      · exact tells.actualSize.imp And.right fun told => told.imp fun _ => And.right
  | array before blanks after elements _ _ _ _ tells =>
      obtain ⟨_, _, _, _, -, format, file, virtualSize, actualSize⟩ := tells
      apply told_canonical
      · exact ⟨_, format⟩
      · exact ⟨_, virtualSize⟩
      · exact .inr ⟨_, file⟩
      · exact actualSize.imp And.right fun told => ⟨_, told.choose_spec.2⟩

/-- A report is read back from its document, settled. What was settled stays as it is, what is read from any
document is, and so nothing changes the second time. -/
theorem written_report_read_back (report : ImageReport) (writable : report.Writable)
    (image : String) :
    (∃ text, report.write? = some text ∧
        parse (Utf8.encode text) image = .ok report.settled) ∧
      (report.settled = report ↔ report.Canonical) ∧
      (∃ text, report.settled.write? = some text ∧
        parse (Utf8.encode text) image = .ok report.settled) ∧
      ∀ output other, parse output image = .ok other →
        other.Canonical ∧ ∃ text, other.write? = some text ∧
          parse (Utf8.encode text) image = .ok other := by
  have exactly : ∀ other : ImageReport, other.Writable → other.Canonical →
      ∃ text, other.write? = some text ∧ parse (Utf8.encode text) image = .ok other := by
    intro other writable canonical
    obtain ⟨text, written, read⟩ := other.parse_write writable image
    rw [other.settled_eq_iff.mpr canonical] at read
    exact ⟨text, written, read⟩
  refine ⟨report.parse_write writable image, report.settled_eq_iff,
    exactly _ (report.settled_writable writable) report.settled_canonical, ?_⟩
  intro output other read
  obtain ⟨other_writable, canonical⟩ :=
    describes_canonical output other ((parse_ok_iff output image other).mp read)
  exact ⟨canonical, exactly other other_writable canonical⟩

/-- Quotes, backslashes and control characters in both names, and a size at each end of its range. -/
theorem quoted_names_read_back :
    let report : ImageReport :=
      ⟨.other "raw\"\\\n", some (Path.ofText "\u0001\t/\"€\\"), -9223372036854775808,
        9223372036854775807⟩
    report.Writable ∧ report.settled = report ∧
      ∃ text, report.write? = some text ∧ parse (Utf8.encode text) "image" = .ok report := by
  intro report
  have writable : report.Writable :=
    ⟨fun path listed => Option.some.inj listed ▸ Path.ofText_isText _, by decide, by decide⟩
  have settled : report.settled = report := by decide
  obtain ⟨text, written, read⟩ := (written_report_read_back report writable "image").1
  rw [settled] at read
  exact ⟨writable, settled, text, written, read⟩

end VolumeImport.ImageReport
