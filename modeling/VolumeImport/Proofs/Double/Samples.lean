import VolumeImport.Double.SampleDocument
import VolumeImport.Proofs.Image.RoundTrip

/-!
The sample documents say what they were made for. A sample document is the written report on its image, with the
members in another order, two more among them, and a blank behind every colon and comma; none of this changes what
the document tells. The texts are put in without escaping, which is the same as writing them if they need none.
-/

namespace VolumeImport.Double

open Json ImageReport

def NeedsNoEscape (text : String) : Prop :=
  ∀ char ∈ text.toList, 0x20 ≤ char.toNat ∧ char ≠ '"' ∧ char ≠ '\\'

instance (text : String) : Decidable (NeedsNoEscape text) :=
  List.decidableBAll _ text.toList

def sampleMembers (report : ImageReport) : List (String × List Char) :=
  [("virtual-size", writeInteger report.virtualSize), ("filename", writeText "disk"),
    ("format", report.format.write), ("actual-size", writeInteger report.actualSize),
    ("dirty-flag", "false".toList)] ++
    (report.backingFile.map fun path => ("backing-filename", writeText path.text)).toList

theorem sampleDocument_written (format : String) (virtualSize : Int) (backingFile : Option Path)
    (plain : NeedsNoEscape format) (file : ∀ path ∈ backingFile, NeedsNoEscape path.text) :
    (sampleDocument format virtualSize backingFile).toList =
      writeSpaced [' '] (sampleMembers ⟨.ofName format, backingFile, virtualSize, 4096⟩) := by
  have start : "\x7b\"virtual-size\": ".toList =
      '\x7b' :: (writeText "virtual-size" ++ [':', ' ']) := rfl
  have middle : ", \"filename\": \"disk\", \"format\": \"".toList =
      ',' :: ' ' :: (writeSpacedMember [' '] ("filename", writeText "disk") ++
        ',' :: ' ' :: (writeText "format" ++ [':', ' ', '"'])) := rfl
  have finish : "\", \"actual-size\": 4096, \"dirty-flag\": false".toList =
      '"' :: ',' :: ' ' :: (writeSpacedMember [' '] ("actual-size", writeInteger 4096) ++
        ',' :: ' ' :: writeSpacedMember [' '] ("dirty-flag", "false".toList)) := rfl
  have name := writeText_plain format plain
  unfold sampleDocument
  extract_lets backing
  have tail : backing.toList = (backingFile.map fun path =>
      ("backing-filename", writeText path.text)).toList.flatMap fun member =>
        ',' :: ([' '] ++ writeSpacedMember [' '] member) := by
    cases backingFile with
    | none => rfl
    | some path =>
        have key : ", \"backing-filename\": \"".toList =
            ',' :: ' ' :: (writeText "backing-filename" ++ [':', ' ', '"']) := rfl
        have text := writeText_plain path.text (file path rfl)
        simp [backing, key, text, writeSpacedMember]
  rw [sampleMembers, List.cons_append, writeSpaced_cons, List.flatMap_append, ← tail]
  simp only [String.toList_append, start, middle, finish]
  simp [writeSpacedMember, DiskFormat.write, name, writeInteger]

theorem sampleMembers_values (report : ImageReport) :
    ∀ member ∈ sampleMembers report, IsValue (bytesOf member.2) := by
  intro member listed
  simp only [sampleMembers, List.mem_append, List.mem_cons, List.not_mem_nil, or_false,
    Option.mem_toList, Option.map_eq_some_iff] at listed
  rcases listed with (rfl | rfl | rfl | rfl | rfl) | ⟨path, -, rfl⟩
  · exact writeInteger_isValue report.virtualSize
  · exact writeText_isValue "disk"
  · exact writeText_isValue report.format.name
  · exact writeInteger_isValue report.actualSize
  · exact .word [] _ allBlank_nil (by decide)
  · exact writeText_isValue path.text

theorem sampleMembers_known (report : ImageReport) :
    (known ((sampleMembers report).map writtenEntry)).Perm
      (known (report.writtenMembers.map writtenEntry)) := by
  let size := ("virtual-size", bytesOf (writeInteger report.virtualSize))
  let format := ("format", bytesOf report.format.write)
  let room := ("actual-size", bytesOf (writeInteger report.actualSize))
  let file := (report.backingFile.map fun path =>
    ("backing-filename", bytesOf (writeText path.text))).toList
  have here : known ((sampleMembers report).map writtenEntry) = size :: format :: room :: file := by
    rw [known, writtenEntry_member]
    cases backed : report.backingFile <;>
      simp [inBytes, sampleMembers, knownKeys, size, format, room, file, backed]
  have there : known (report.writtenMembers.map writtenEntry) = format :: (file ++ [size, room]) := by
    rw [known, writtenEntry_member]
    cases backed : report.backingFile <;>
      simp [inBytes, writtenMembers, knownKeys, size, format, room, file, backed]
  rw [here, there]
  have moved : ([size, room] ++ file).Perm (file ++ [size, room]) := List.perm_append_comm
  exact (List.Perm.swap format size (room :: file)).trans (moved.cons format)

theorem gap_blank : AllBlank (bytesOf [' ']) :=
  List.forall_mem_singleton.mpr (by decide)

def sampleObject (report : ImageReport) : WrittenObject :=
  spacedObject [' '] gap_blank (sampleMembers report) (sampleMembers_values report)

theorem sampleObject_tells (report : ImageReport) (writable : report.Writable) :
    Tells (sampleObject report).entries report.settled := by
  have values := (writtenObject (sampleMembers report) (sampleMembers_values report)).values
  have unspaced : Tells ((sampleMembers report).map writtenEntry) report.settled :=
    tells_of_perm _ _ _ (sampleMembers_known report) values (report.writtenMembers_tells writable)
  exact tells_of_gap _ _ _ (bytesOf [' ']) gap_blank
    (spacedEntries_member (bytesOf [' ']) gap_blank (sampleMembers report)) unspaced

/-- A sample document is read as the report that it was made for, under any name of the image: the format that has
the given name, the virtual size, 4096 bytes in use, and the backing file unless it is the empty path. -/
theorem sample_document_read_back (format : String) (virtualSize : Int) (backingFile : Option Path)
    (image : String) (plain : NeedsNoEscape format) (fits : FitsWord virtualSize)
    (file : ∀ path ∈ backingFile, path.IsText ∧ NeedsNoEscape path.text) :
    ImageReport.parse (Utf8.encode (sampleDocument format virtualSize backingFile)) image =
      .ok { format := .ofName format
            backingFile := backingFile.filter (· ≠ ⟨[]⟩)
            virtualSize := virtualSize
            actualSize := 4096 } := by
  let report : ImageReport := ⟨.ofName format, backingFile, virtualSize, 4096⟩
  have room : FitsWord 4096 := by decide
  have writable : report.Writable := ⟨fun path given => (file path given).1, fits, room⟩
  have settled : report.settled =
      ⟨.ofName format, backingFile.filter (· ≠ ⟨[]⟩), virtualSize, 4096⟩ := by
    simp [ImageReport.settled, report]
  have written := sampleDocument_written format virtualSize backingFile plain
    fun path given => (file path given).2
  have object : (sampleObject report).text =
      Utf8.encode (sampleDocument format virtualSize backingFile) := by
    rw [sampleObject, spacedObject_text, ← written, String.ofList_toList]
  rw [← settled, parse_ok_iff, ← object, ← List.append_nil (WrittenObject.text _), describes_object]
  exact ⟨allBlank_nil, sampleObject_tells report writable⟩

/-- A name of no supported format at the least size there is, with a backing file outside ASCII, and one with the
empty path for a backing file. -/
theorem foreign_sample_read_back :
    let file := Path.ofText "/é/\x7b€\x7d"
    NeedsNoEscape "Größe 盤" ∧ FitsWord (-9223372036854775808) ∧
      (file.IsText ∧ NeedsNoEscape file.text) ∧
      ImageReport.parse (Utf8.encode (sampleDocument "Größe 盤" (-9223372036854775808) (some file)))
        "image" = .ok ⟨.other "Größe 盤", some file, -9223372036854775808, 4096⟩ ∧
      ImageReport.parse (Utf8.encode (sampleDocument "qcow2" 0 (some ⟨[]⟩))) "image" =
        .ok ⟨.qcow2, none, 0, 4096⟩ := by
  intro file
  have plain : NeedsNoEscape "Größe 盤" := by decide
  have fits : FitsWord (-9223372036854775808) := by decide
  have text : file.IsText ∧ NeedsNoEscape file.text := ⟨Path.ofText_isText _, by decide⟩
  have empty : (Path.mk []).IsText ∧ NeedsNoEscape (Path.mk []).text :=
    ⟨Path.ofText_isText "", by decide⟩
  refine ⟨plain, fits, text, ?_, ?_⟩
  · exact sample_document_read_back "Größe 盤" _ (some file) "image" plain fits
      fun path given => Option.some.inj given ▸ text
  · exact sample_document_read_back "qcow2" 0 (some ⟨[]⟩) "image" (by decide) (by decide)
      fun path given => Option.some.inj given ▸ empty

end VolumeImport.Double
