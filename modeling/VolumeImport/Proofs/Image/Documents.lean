import VolumeImport.Image.Report
import VolumeImport.Proofs.Json.Records

/-!
The documents that report an image. A document is an object or an array; of an object it is said which
values its known keys must have, and that each of them may have one only.
-/

namespace VolumeImport.ImageReport

open Json

variable {α : Type}

def values (key : String) (entries : List Entry) : List Bytes :=
  (entries.filter (·.key = key)).map (·.value)

/-- A member before and after the values for it: it takes one value and keeps it. -/
inductive Slot (Is : Bytes → α → Prop) : Option α → List Bytes → Option α → Prop
  | kept (before : Option α) : Slot Is before [] before
  | filled (text : Bytes) (value : α) (spelled : Is text value) : Slot Is none [text] (some value)

@[simp] theorem slot_cons (Is : Bytes → α → Prop) (before after : Option α) (text : Bytes)
    (rest : List Bytes) :
    Slot Is before (text :: rest) after ↔
      before = none ∧ ∃ value, Is text value ∧ Slot Is (some value) rest after := by
  constructor
  · intro slot
    cases slot with
    | filled _ value spelled => exact ⟨rfl, value, spelled, .kept _⟩
  · rintro ⟨rfl, value, spelled, slot⟩
    cases slot with
    | kept => exact .filled text value spelled

/-- The formats that go by a name of their own. -/
def namedFormats : List (String × DiskFormat) :=
  [("raw", .raw), ("qcow2", .qcow2), ("vmdk", .vmdk), ("vdi", .vdi), ("vpc", .vpc), ("vhdx", .vhdx)]

/-- The format that a name declares. -/
inductive Declares : String → DiskFormat → Prop
  | named (name : String) (format : DiskFormat) (listed : (name, format) ∈ namedFormats) :
      Declares name format
  | foreign (name : String) (unlisted : name ∉ namedFormats.map Prod.fst) :
      Declares name (.other name)

def IsFormat (text : Bytes) (format : DiskFormat) : Prop :=
  ∃ name, IsString text name ∧ Declares name format

/-- The value is `null` or a string; the empty string names no file. -/
inductive IsBackingFile : Bytes → Option Path → Prop
  | absent (text : Bytes) (null : IsOptionalString text none) : IsBackingFile text none
  | empty (text : Bytes) (told : IsString text "") : IsBackingFile text none
  | file (text : Bytes) (name : String) (path : Path) (told : IsString text name)
      (some_name : name ≠ "") (spelled : path.bytes = Utf8.encode name) :
      IsBackingFile text (some path)

theorem ofName_other (name : String) (unknown : name ∉ DiskFormat.supportedNames) :
    DiskFormat.ofName name = .other name := by
  simp only [DiskFormat.supportedNames, List.mem_cons, List.not_mem_nil, or_false, not_or] at unknown
  obtain ⟨raw, qcow2, vmdk, vdi, vpc, vhdx⟩ := unknown
  simp [DiskFormat.ofName, raw, qcow2, vmdk, vdi, vpc, vhdx]

theorem ofName_supported (name : String) (known : name ∈ DiskFormat.supportedNames) :
    (DiskFormat.ofName name).name = name ∧ ∀ other, DiskFormat.ofName name ≠ .other other := by
  simp only [DiskFormat.supportedNames, List.mem_cons, List.not_mem_nil, or_false] at known
  rcases known with rfl | rfl | rfl | rfl | rfl | rfl <;>
    simp [DiskFormat.ofName, DiskFormat.name]

@[simp] theorem ofName_name (name : String) : (DiskFormat.ofName name).name = name := by
  by_cases known : name ∈ DiskFormat.supportedNames
  · exact (ofName_supported name known).1
  · rw [ofName_other name known]
    rfl

theorem declares_iff (name : String) (format : DiskFormat) :
    Declares name format ↔ DiskFormat.ofName name = format := by
  constructor
  · intro declared
    cases declared with
    | named _ listed =>
        simp only [namedFormats, List.mem_cons, Prod.mk.injEq, List.not_mem_nil, or_false] at listed
        rcases listed with ⟨rfl, rfl⟩ | ⟨rfl, rfl⟩ | ⟨rfl, rfl⟩ | ⟨rfl, rfl⟩ | ⟨rfl, rfl⟩ | ⟨rfl, rfl⟩ <;>
          rfl
    | foreign unlisted => exact ofName_other name unlisted
  · rintro rfl
    by_cases listed : name ∈ namedFormats.map Prod.fst
    · have names : namedFormats.map Prod.fst = ["raw", "qcow2", "vmdk", "vdi", "vpc", "vhdx"] := rfl
      simp only [names, List.mem_cons, List.not_mem_nil, or_false] at listed
      rcases listed with rfl | rfl | rfl | rfl | rfl | rfl <;> exact .named _ _ (by decide)
    · rw [ofName_other name listed]
      exact .foreign name listed

theorem Declares.name {name : String} {format : DiskFormat} (declared : Declares name format) :
    format.name = name := by
  obtain rfl := (declares_iff name format).mp declared
  exact ofName_name name

theorem Declares.only {name : String} {format : DiskFormat} (declared : Declares name format)
    (other : String) : Declares other format ↔ other = name := by
  constructor
  · intro declared_too
    rw [← declared_too.name, declared.name]
  · rintro rfl
    exact declared

theorem isBackingFile_iff (text : Bytes) (file : Option Path) :
    IsBackingFile text file ↔
      ∃ name, IsOptionalString text name ∧ (name.filter (· ≠ "")).map Path.ofText = file := by
  constructor
  · intro told
    cases told with
    | absent null => exact ⟨none, null, rfl⟩
    | empty told => exact ⟨some "", .string text "" told, rfl⟩
    | file name path told some_name spelled =>
        obtain rfl : Path.ofText name = path := congrArg Path.mk spelled.symm
        exact ⟨some name, .string text name told, by simp [some_name]⟩
  · rintro ⟨name, told, rfl⟩
    cases told with
    | null before blank => exact .absent _ (.null before blank)
    | string _ name told =>
        by_cases empty : name = ""
        · subst empty
          exact .empty text told
        · have kept : (some name).filter (· ≠ "") = some name := by simp [empty]
          rw [kept]
          exact .file text name (.ofText name) told empty rfl

theorem format_recognizes : Recognizes (mapped readString DiskFormat.ofName) IsFormat := by
  have kind := mapped_recognizes readString IsString readString_recognizes DiskFormat.ofName
  simp only [← declares_iff] at kind
  exact kind

theorem backingFile_recognizes :
    Recognizes (mapped (readOptional readString)
      (fun name => (name.filter (· ≠ "")).map Path.ofText)) IsBackingFile := by
  have kind := mapped_recognizes (readOptional readString) IsOptionalString
    readOptionalString_recognizes (fun name => (name.filter (· ≠ "")).map Path.ofText)
  simp only [← isBackingFile_iff] at kind
  exact kind

theorem members_regular : ∀ member ∈ record.members, member.Regular := by
  intro member listed draft
  simp only [record, List.mem_cons, List.not_mem_nil, or_false] at listed
  rcases listed with rfl | rfl | rfl | rfl
  · exact mapped_regular (mapped readString DiskFormat.ofName)
      (fun format => { draft with format := some format })
      (mapped_regular _ _ readString_regular)
  · exact mapped_regular (mapped (readOptional readString) _)
      (fun file => { draft with backingFile := some file })
      (mapped_regular _ (fun name => (name.filter (· ≠ "")).map Path.ofText)
        readOptionalString_regular)
  · exact mapped_regular readSigned (fun size => { draft with virtualSize := some size })
      readSigned_regular
  · exact mapped_regular readSigned (fun size => { draft with actualSize := some size })
      readSigned_regular

theorem reads_fills (member : Member Draft) (read : Reader α) (fill : Draft → α → Draft)
    (reads : ∀ draft, member.read draft = mapped read (fill draft)) (Is : Bytes → α → Prop)
    (kind : Recognizes read Is) (draft next : Draft) (text : Bytes) :
    Reads (member.read draft) text next ↔ ∃ value, Is text value ∧ fill draft value = next := by
  rw [reads draft]
  exact recognizes_reads _ _ (mapped_recognizes read Is kind (fill draft)) text next

@[simp] theorem reads_format (draft next : Draft) (text : Bytes) :
    Reads (formatMember.read draft) text next ↔
      ∃ format, IsFormat text format ∧ { draft with format := some format } = next :=
  reads_fills formatMember _ (fun draft format => { draft with format := some format })
    (fun _ => rfl) _ format_recognizes draft next text

@[simp] theorem reads_backingFile (draft next : Draft) (text : Bytes) :
    Reads (backingFileMember.read draft) text next ↔
      ∃ file, IsBackingFile text file ∧ { draft with backingFile := some file } = next :=
  reads_fills backingFileMember _ (fun draft file => { draft with backingFile := some file })
    (fun _ => rfl) _ backingFile_recognizes draft next text

@[simp] theorem reads_virtualSize (draft next : Draft) (text : Bytes) :
    Reads (virtualSizeMember.read draft) text next ↔
      ∃ size, IsSigned text size ∧ { draft with virtualSize := some size } = next :=
  reads_fills virtualSizeMember _ (fun draft size => { draft with virtualSize := some size })
    (fun _ => rfl) _ readSigned_recognizes draft next text

@[simp] theorem reads_actualSize (draft next : Draft) (text : Bytes) :
    Reads (actualSizeMember.read draft) text next ↔
      ∃ size, IsSigned text size ∧ { draft with actualSize := some size } = next :=
  reads_fills actualSizeMember _ (fun draft size => { draft with actualSize := some size })
    (fun _ => rfl) _ readSigned_recognizes draft next text

theorem takesOne_known (member : Member Draft) (key : String)
    (found : record.members.find? (·.name = key) = some member) (field : Draft → Option α)
    (taken : ∀ draft, member.isTaken draft = (field draft).isSome) (draft next : Draft)
    (text : Bytes) :
    TakesOne record.members draft key text next ↔
      field draft = none ∧ Reads (member.read draft) text next := by
  rw [← Option.not_isSome_iff_eq_none, ← taken draft, Bool.not_eq_true]
  constructor
  · rintro (⟨other, found_too, fresh, reads⟩ | ⟨unknown, -⟩)
    · obtain rfl := Option.some.inj (found.symm.trans found_too)
      exact ⟨fresh, reads⟩
    · rw [found] at unknown
      cases unknown
  · rintro ⟨fresh, reads⟩
    exact .inl ⟨member, found, fresh, reads⟩

@[simp] theorem takesOne_format (draft next : Draft) (text : Bytes) :
    TakesOne record.members draft "format" text next ↔
      draft.format = none ∧ Reads (formatMember.read draft) text next :=
  takesOne_known formatMember _ rfl Draft.format (fun _ => rfl) draft next text

@[simp] theorem takesOne_backingFile (draft next : Draft) (text : Bytes) :
    TakesOne record.members draft "backing-filename" text next ↔
      draft.backingFile = none ∧ Reads (backingFileMember.read draft) text next :=
  takesOne_known backingFileMember _ rfl Draft.backingFile (fun _ => rfl) draft next text

@[simp] theorem takesOne_virtualSize (draft next : Draft) (text : Bytes) :
    TakesOne record.members draft "virtual-size" text next ↔
      draft.virtualSize = none ∧ Reads (virtualSizeMember.read draft) text next :=
  takesOne_known virtualSizeMember _ rfl Draft.virtualSize (fun _ => rfl) draft next text

@[simp] theorem takesOne_actualSize (draft next : Draft) (text : Bytes) :
    TakesOne record.members draft "actual-size" text next ↔
      draft.actualSize = none ∧ Reads (actualSizeMember.read draft) text next :=
  takesOne_known actualSizeMember _ rfl Draft.actualSize (fun _ => rfl) draft next text

theorem takesOne_other (draft next : Draft) (key : String) (value : Bytes)
    (other : key ∉ ["format", "backing-filename", "virtual-size", "actual-size"]) :
    TakesOne record.members draft key value next ↔ IsValue value ∧ next = draft := by
  have unknown : record.members.find? (·.name = key) = none := by
    rw [List.find?_eq_none]
    intro member listed named
    obtain rfl := of_decide_eq_true named
    simp only [record, List.mem_cons, List.not_mem_nil, or_false] at listed
    rcases listed with rfl | rfl | rfl | rfl <;> exact other (by decide)
  constructor
  · rintro (⟨member, found, -, -⟩ | ⟨-, taken⟩)
    · rw [unknown] at found
      cases found
    · exact taken
  · intro taken
    exact .inr ⟨unknown, taken⟩

/-- What the entries of an object make of a draft: each known key fills its own field. -/
def Fills (draft : Draft) (entries : List Entry) (final : Draft) : Prop :=
  Slot IsFormat draft.format (values "format" entries) final.format ∧
  Slot IsBackingFile draft.backingFile (values "backing-filename" entries) final.backingFile ∧
  Slot IsSigned draft.virtualSize (values "virtual-size" entries) final.virtualSize ∧
  Slot IsSigned draft.actualSize (values "actual-size" entries) final.actualSize ∧
  ∀ entry ∈ entries,
    entry.key ∉ ["format", "backing-filename", "virtual-size", "actual-size"] → IsValue entry.value

@[simp] theorem values_cons (key : String) (entry : Entry) (rest : List Entry) :
    values key (entry :: rest) =
      if entry.key = key then entry.value :: values key rest else values key rest := by
  by_cases same : entry.key = key <;> simp [values, same]

@[simp] theorem fills_nil (draft final : Draft) : Fills draft [] final ↔ final = draft := by
  constructor
  · rintro ⟨format, backingFile, virtualSize, actualSize, -⟩
    cases draft
    cases final
    cases format
    cases backingFile
    cases virtualSize
    cases actualSize
    rfl
  · rintro rfl
    exact ⟨.kept _, .kept _, .kept _, .kept _, by simp⟩

theorem fills_cons (draft final : Draft) (entry : Entry) (rest : List Entry) :
    Fills draft (entry :: rest) final ↔
      ∃ next, TakesOne record.members draft entry.key entry.value next ∧ Fills next rest final := by
  obtain ⟨key, keyText, middle, value, after, spelled, middle_blank, after_blank⟩ := entry
  simp only [Fills, values_cons, List.forall_mem_cons]
  by_cases known : key ∈ ["format", "backing-filename", "virtual-size", "actual-size"]
  · simp only [known, not_true_eq_false, false_implies, true_and]
    simp only [List.mem_cons, List.not_mem_nil, or_false] at known
    rcases known with rfl | rfl | rfl | rfl
    · simp only [String.reduceEq, ↓reduceIte, slot_cons, takesOne_format, reads_format]
      constructor
      · rintro ⟨⟨empty, format, named, slot⟩, others⟩
        exact ⟨_, ⟨empty, format, named, rfl⟩, slot, others⟩
      · rintro ⟨_, ⟨empty, format, named, rfl⟩, slot, others⟩
        exact ⟨⟨empty, format, named, slot⟩, others⟩
    · simp only [String.reduceEq, ↓reduceIte, slot_cons, takesOne_backingFile, reads_backingFile]
      constructor
      · rintro ⟨format, ⟨empty, file, named, slot⟩, others⟩
        exact ⟨_, ⟨empty, file, named, rfl⟩, format, slot, others⟩
      · rintro ⟨_, ⟨empty, file, named, rfl⟩, format, slot, others⟩
        exact ⟨format, ⟨empty, file, named, slot⟩, others⟩
    · simp only [String.reduceEq, ↓reduceIte, slot_cons, takesOne_virtualSize, reads_virtualSize]
      constructor
      · rintro ⟨format, file, ⟨empty, size, spelled, slot⟩, others⟩
        exact ⟨_, ⟨empty, size, spelled, rfl⟩, format, file, slot, others⟩
      · rintro ⟨_, ⟨empty, size, spelled, rfl⟩, format, file, slot, others⟩
        exact ⟨format, file, ⟨empty, size, spelled, slot⟩, others⟩
    · simp only [String.reduceEq, ↓reduceIte, slot_cons, takesOne_actualSize, reads_actualSize]
      constructor
      · rintro ⟨format, file, virtual, ⟨empty, size, spelled, slot⟩, others⟩
        exact ⟨_, ⟨empty, size, spelled, rfl⟩, format, file, virtual, slot, others⟩
      · rintro ⟨_, ⟨empty, size, spelled, rfl⟩, format, file, virtual, slot, others⟩
        exact ⟨format, file, virtual, ⟨empty, size, spelled, slot⟩, others⟩
  · have apart : key ≠ "format" ∧ key ≠ "backing-filename" ∧ key ≠ "virtual-size" ∧
        key ≠ "actual-size" := by
      simpa only [List.mem_cons, List.not_mem_nil, or_false, not_or] using known
    obtain ⟨no_format, no_file, no_virtual, no_actual⟩ := apart
    simp only [takesOne_other draft _ key value known, if_neg no_format, if_neg no_file,
      if_neg no_virtual, if_neg no_actual]
    constructor
    · rintro ⟨format, file, virtual, actual, is_value, others⟩
      exact ⟨draft, ⟨is_value known, rfl⟩, format, file, virtual, actual, others⟩
    · rintro ⟨_, ⟨is_value, rfl⟩, format, file, virtual, actual, others⟩
      exact ⟨format, file, virtual, actual, fun _ => is_value, others⟩

theorem takes_iff (draft final : Draft) (entries : List Entry) :
    Takes record.members draft entries final ↔ Fills draft entries final := by
  induction entries generalizing draft with
  | nil =>
      rw [fills_nil]
      constructor
      · intro takes
        cases takes
        rfl
      · rintro rfl
        exact .done final
  | cons entry rest ih =>
      rw [fills_cons]
      simp only [← ih]
      constructor
      · intro takes
        cases takes with
        | more _ _ _ next _ one further => exact ⟨next, one, further⟩
      · rintro ⟨next, one, further⟩
        exact .more entry rest draft next final one further

/-- What an object has to hold for a report: a format and a virtual size, perhaps the other two known
members, each of them once, and any other members. -/
structure Tells (entries : List Entry) (report : ImageReport) : Prop where
  format : ∃ text, values "format" entries = [text] ∧ IsFormat text report.format
  virtualSize : ∃ text, values "virtual-size" entries = [text] ∧ IsSigned text report.virtualSize
  backingFile : values "backing-filename" entries = [] ∧ report.backingFile = none ∨
    ∃ text, values "backing-filename" entries = [text] ∧ IsBackingFile text report.backingFile
  actualSize : values "actual-size" entries = [] ∧ report.actualSize = 0 ∨
    ∃ text, values "actual-size" entries = [text] ∧ IsSigned text report.actualSize
  others : ∀ entry ∈ entries,
    entry.key ∉ ["format", "backing-filename", "virtual-size", "actual-size"] → IsValue entry.value

/-- What an array has to hold for a report: the members in order, of which only the last may be missing. -/
def TellsInOrder (elements : List Element) (report : ImageReport) : Prop :=
  ∃ format file size rest, elements = format :: file :: size :: rest ∧
    IsFormat format.value report.format ∧ IsBackingFile file.value report.backingFile ∧
    IsSigned size.value report.virtualSize ∧
    (rest = [] ∧ report.actualSize = 0 ∨
      ∃ actual, rest = [actual] ∧ IsSigned actual.value report.actualSize)

theorem slot_needed (Is : Bytes → α → Prop) (texts : List Bytes) (value : α) :
    Slot Is none texts (some value) ↔ ∃ text, texts = [text] ∧ Is text value := by
  constructor
  · intro slot
    cases slot with
    | filled text _ spelled => exact ⟨text, rfl, spelled⟩
  · rintro ⟨text, rfl, spelled⟩
    exact .filled text value spelled

theorem slot_default (Is : Bytes → α → Prop) (texts : List Bytes) (missing value : α) :
    (∃ after, Slot Is none texts after ∧ after.getD missing = value) ↔
      texts = [] ∧ value = missing ∨ ∃ text, texts = [text] ∧ Is text value := by
  constructor
  · rintro ⟨after, slot, rfl⟩
    cases slot with
    | kept => exact .inl ⟨rfl, rfl⟩
    | filled text value spelled => exact .inr ⟨text, rfl, spelled⟩
  · rintro (⟨rfl, rfl⟩ | ⟨text, rfl, spelled⟩)
    · exact ⟨none, .kept none, rfl⟩
    · exact ⟨some value, .filled text value spelled, rfl⟩

@[simp] theorem finish_iff (draft : Draft) (report : ImageReport) :
    draft.finish = some report ↔ draft.format = some report.format ∧
      draft.backingFile.getD none = report.backingFile ∧
      draft.virtualSize = some report.virtualSize ∧
      draft.actualSize.getD 0 = report.actualSize := by
  obtain ⟨format, backingFile, virtualSize, actualSize⟩ := draft
  obtain ⟨told, file, size, actual⟩ := report
  cases format <;> cases virtualSize <;> simp [Draft.finish]

theorem tells_iff (entries : List Entry) (report : ImageReport) :
    Tells entries report ↔
      ∃ draft, Takes record.members record.blank entries draft ∧ draft.finish = some report := by
  simp only [takes_iff, finish_iff]
  constructor
  · rintro ⟨format, virtualSize, backingFile, actualSize, others⟩
    obtain ⟨file, file_slot, file_told⟩ := (slot_default _ _ _ _).mpr backingFile
    obtain ⟨size, size_slot, size_told⟩ := (slot_default _ _ _ _).mpr actualSize
    exact ⟨⟨some report.format, file, some report.virtualSize, size⟩,
      ⟨(slot_needed _ _ _).mpr format, file_slot, (slot_needed _ _ _).mpr virtualSize, size_slot,
        others⟩, rfl, file_told, rfl, size_told⟩
  · rintro ⟨draft, ⟨format_slot, file_slot, virtual_slot, actual_slot, others⟩, format, file,
      virtualSize, actualSize⟩
    rw [format] at format_slot
    rw [virtualSize] at virtual_slot
    exact {
      format := (slot_needed _ _ _).mp format_slot
      virtualSize := (slot_needed _ _ _).mp virtual_slot
      backingFile := (slot_default _ _ _ _).mp ⟨_, file_slot, file⟩
      actualSize := (slot_default _ _ _ _).mp ⟨_, actual_slot, actualSize⟩
      others := others }

@[simp] theorem inOrder_cons (member : Member Draft) (members : List (Member Draft)) (element : Element)
    (rest : List Element) (draft final : Draft) :
    TakesInOrder (member :: members) draft (element :: rest) final ↔
      ∃ next, Reads (member.read draft) element.value next ∧
        TakesInOrder members next rest final := by
  constructor
  · intro takes
    cases takes with
    | more _ _ _ _ _ next _ read further => exact ⟨next, read, further⟩
  · rintro ⟨next, read, further⟩
    exact .more member members element rest draft next final read further

@[simp] theorem inOrder_nil (members : List (Member Draft)) (draft final : Draft) :
    TakesInOrder members draft [] final ↔ final = draft := by
  constructor
  · intro takes
    cases takes
    rfl
  · rintro rfl
    exact .done members final

theorem tellsInOrder_iff (elements : List Element) (report : ImageReport) :
    TellsInOrder elements report ↔
      ∃ draft, TakesInOrder record.members record.blank elements draft ∧
        draft.finish = some report := by
  simp only [record, finish_iff]
  constructor
  · rintro ⟨format, file, size, rest, rfl, told, backed, sized, ending⟩
    simp only [inOrder_cons, reads_format, reads_backingFile, reads_virtualSize]
    rcases ending with ⟨rfl, missing⟩ | ⟨actual, rfl, sized_too⟩
    · refine ⟨_, ⟨_, ⟨_, told, rfl⟩, _, ⟨_, backed, rfl⟩, _, ⟨_, sized, rfl⟩,
        (inOrder_nil _ _ _).mpr rfl⟩, rfl, rfl, rfl, missing.symm⟩
    · simp only [inOrder_cons, reads_actualSize]
      refine ⟨_, ⟨_, ⟨_, told, rfl⟩, _, ⟨_, backed, rfl⟩, _, ⟨_, sized, rfl⟩,
        _, ⟨_, sized_too, rfl⟩, (inOrder_nil _ _ _).mpr rfl⟩, rfl, rfl, rfl, rfl⟩
  · rintro ⟨draft, takes, format_told, file_told, size_told, actual_told⟩
    -- with fewer than three elements the draft has no virtual size
    rcases elements with _ | ⟨format, _ | ⟨file, _ | ⟨size, rest⟩⟩⟩
    · obtain rfl := (inOrder_nil _ _ _).mp takes
      cases size_told
    · simp only [inOrder_cons, inOrder_nil, reads_format] at takes
      obtain ⟨_, ⟨_, -, rfl⟩, rfl⟩ := takes
      cases size_told
    · simp only [inOrder_cons, inOrder_nil, reads_format, reads_backingFile] at takes
      obtain ⟨_, ⟨_, -, rfl⟩, _, ⟨_, -, rfl⟩, rfl⟩ := takes
      cases size_told
    · simp only [inOrder_cons, reads_format, reads_backingFile, reads_virtualSize] at takes
      obtain ⟨_, ⟨_, told, rfl⟩, _, ⟨_, backed, rfl⟩, _, ⟨_, sized, rfl⟩, takes⟩ := takes
      refine ⟨format, file, size, rest, rfl, ?_⟩
      rcases rest with _ | ⟨actual, _ | ⟨extra, more⟩⟩
      · obtain rfl := (inOrder_nil _ _ _).mp takes
        obtain rfl := Option.some.inj format_told
        obtain rfl : _ = report.backingFile := file_told
        obtain rfl := Option.some.inj size_told
        exact ⟨told, backed, sized, .inl ⟨rfl, actual_told.symm⟩⟩
      · simp only [inOrder_cons, inOrder_nil, reads_actualSize] at takes
        obtain ⟨_, ⟨_, sized_too, rfl⟩, rfl⟩ := takes
        obtain rfl := Option.some.inj format_told
        obtain rfl : _ = report.backingFile := file_told
        obtain rfl := Option.some.inj size_told
        obtain rfl : _ = report.actualSize := actual_told
        exact ⟨told, backed, sized, .inr ⟨actual, rfl, sized_too⟩⟩
      · simp only [inOrder_cons] at takes
        obtain ⟨_, -, further⟩ := takes
        cases further

/-- The output is a document of the image tool, and this is what it reports. -/
inductive Describes : Bytes → ImageReport → Prop
  | object (before blanks after : Bytes) (entries : List Entry) (report : ImageReport)
      (before_blank : AllBlank before) (inside_blank : AllBlank blanks) (after_blank : AllBlank after)
      (tells : Tells entries report) :
      Describes (before ++ 0x7B :: (Entry.inside blanks entries ++ after)) report
  | array (before blanks after : Bytes) (elements : List Element) (report : ImageReport)
      (before_blank : AllBlank before) (inside_blank : AllBlank blanks) (after_blank : AllBlank after)
      (tells : TellsInOrder elements report) :
      Describes (before ++ 0x5B :: (Element.inside blanks elements ++ after)) report

theorem describes_declares (output : Bytes) (report : ImageReport)
    (described : Describes output report) : ∃ name, Declares name report.format := by
  cases described with
  | object before blanks after entries _ _ _ _ tells =>
      obtain ⟨text, -, name, -, declared⟩ := tells.format
      exact ⟨name, declared⟩
  | array before blanks after elements _ _ _ _ tells =>
      obtain ⟨format, file, size, rest, -, ⟨name, -, declared⟩, -⟩ := tells
      exact ⟨name, declared⟩

theorem readDocument_describes (output : Bytes) (report : ImageReport) :
    Json.readDocument record.read output = .ok report ↔ Describes output report := by
  rw [Json.readDocument_iff _ _ (Record.read_recognizes record members_regular)]
  constructor
  · rintro ⟨text, after, rfl, is_record, after_blank⟩
    cases is_record with
    | object before blanks entries draft _ before_blank inside_blank takes finished =>
        rw [List.append_assoc]
        exact .object before blanks after entries report before_blank inside_blank after_blank
          ((tells_iff entries report).mpr ⟨draft, takes, finished⟩)
    | array before blanks elements draft _ before_blank inside_blank takes finished =>
        rw [List.append_assoc]
        exact .array before blanks after elements report before_blank inside_blank after_blank
          ((tellsInOrder_iff elements report).mpr ⟨draft, takes, finished⟩)
  · intro document
    cases document with
    | object before blanks after entries _ before_blank inside_blank after_blank tells =>
        obtain ⟨draft, takes, finished⟩ := (tells_iff entries report).mp tells
        refine ⟨before ++ 0x7B :: Entry.inside blanks entries, after, ?_,
          .object before blanks entries draft report before_blank inside_blank takes finished,
          after_blank⟩
        rw [List.append_assoc, List.cons_append]
    | array before blanks after elements _ before_blank inside_blank after_blank tells =>
        obtain ⟨draft, takes, finished⟩ := (tellsInOrder_iff elements report).mp tells
        refine ⟨before ++ 0x5B :: Element.inside blanks elements, after, ?_,
          .array before blanks elements draft report before_blank inside_blank takes finished,
          after_blank⟩
        rw [List.append_assoc, List.cons_append]

theorem describes_unique (output : Bytes) (report other : ImageReport)
    (described : Describes output report) (described_too : Describes output other) :
    report = other := by
  have read := (readDocument_describes output report).mpr described
  have read_too := (readDocument_describes output other).mpr described_too
  exact Except.ok.inj (read.symm.trans read_too)

theorem parse_ok_iff (output : Bytes) (image : String) (report : ImageReport) :
    parse output image = .ok report ↔ Describes output report := by
  rw [← readDocument_describes, parse]
  cases Json.readDocument record.read output <;> simp

theorem parse_error (output : Bytes) (image : String) (nothing : ∀ report, ¬Describes output report) :
    ∃ fault, parse output image =
      .error (.invalidImageInfo image (Utf8.decodeLossy output) fault) := by
  rw [parse]
  cases read : Json.readDocument record.read output with
  | error fault => exact ⟨fault, rfl⟩
  | ok report => exact absurd ((readDocument_describes output report).mp read) (nothing report)

theorem parse_fails (output : Bytes) (image : String) (error : ImportError)
    (failed : parse output image = .error error) :
    ∃ fault, error = .invalidImageInfo image (Utf8.decodeLossy output) fault := by
  have nothing : ∀ report, ¬Describes output report := by
    intro report described
    cases failed.symm.trans ((parse_ok_iff output image report).mpr described)
  obtain ⟨fault, kept⟩ := parse_error output image nothing
  exact ⟨fault, Except.error.inj (failed.symm.trans kept)⟩

end VolumeImport.ImageReport
