import VolumeImport.Engine.Options
import VolumeImport.Proofs.FileSystem.PathText
import VolumeImport.Proofs.Process.LimitDocuments

/-!
The documents of options. A member that is left out means the default of its field, and so do the members of the
limits one level below, where the default is no bound. The members that are there are read as they were written,
wherever they stand and whatever stands between them.
-/

namespace VolumeImport.Options

open Json

structure Writable (options : Options) : Prop where
  imageTool : options.imageTool.IsText
  zeroTool : options.zeroTool.IsText
  exportLog : options.exportLog.IsText
  inspectionLimits : options.inspectionLimits.Fits

def written (options : Options) (limits : Bytes) : List (String × Bytes) :=
  [("owner_uid", bytesOf (writeOptional writeText options.owner)),
    ("qemu_img", bytesOf (writeText options.imageTool.text)),
    ("dd", bytesOf (writeText options.zeroTool.text)),
    ("nbdkit_log_path", bytesOf (writeText options.exportLog.text)),
    ("info_limits", limits)]

/-- The options with some of the members only, at both levels. -/
def keeping (options : Options) (keep keepLimit : String → Bool) : Options where
  owner := if keep "owner_uid" then options.owner else default.owner
  imageTool := if keep "qemu_img" then options.imageTool else default.imageTool
  zeroTool := if keep "dd" then options.zeroTool else default.zeroTool
  exportLog := if keep "nbdkit_log_path" then options.exportLog else default.exportLog
  inspectionLimits :=
    if keep "info_limits" then options.inspectionLimits.keeping keepLimit
    else default.inspectionLimits

def filled (options : Options) (limits : Limits) (met : String → Bool) : Draft where
  owner := if met "owner_uid" then some options.owner else none
  imageTool := if met "qemu_img" then some options.imageTool else none
  zeroTool := if met "dd" then some options.zeroTool else none
  exportLog := if met "nbdkit_log_path" then some options.exportLog else none
  inspectionLimits := if met "info_limits" then some limits else none

def IsPath (text : Bytes) (path : Path) : Prop :=
  ∃ name, IsString text name ∧ Path.ofText name = path

theorem readPath_recognizes : Recognizes readPath IsPath :=
  mapped_recognizes readString IsString readString_recognizes Path.ofText

theorem readPath_regular : Regular readPath :=
  mapped_regular readString Path.ofText readString_regular

theorem writeText_isPath (path : Path) (sound : path.IsText) :
    IsPath (bytesOf (writeText path.text)) path :=
  ⟨path.text, writeText_isString path.text, path.told_iff.mpr sound⟩

theorem members_regular : ∀ member ∈ record.members, member.Regular := by
  intro member listed draft
  simp only [record, List.mem_cons, List.not_mem_nil, or_false] at listed
  rcases listed with rfl | rfl | rfl | rfl | rfl
  · exact mapped_regular _ (fun owner => { draft with owner := some owner })
      readOptionalString_regular
  · exact mapped_regular _ (fun path => { draft with imageTool := some path }) readPath_regular
  · exact mapped_regular _ (fun path => { draft with zeroTool := some path }) readPath_regular
  · exact mapped_regular _ (fun path => { draft with exportLog := some path }) readPath_regular
  · exact mapped_regular _ (fun limits => { draft with inspectionLimits := some limits })
      (Limits.record.read_regular Limits.members_regular)

theorem takes_path (member : Member Draft) (key : String)
    (found : record.members.find? (·.name = key) = some member)
    (put : Draft → Path → Draft) (reads : ∀ draft, member.read draft = mapped readPath (put draft))
    (path : Path) (sound : path.IsText) (draft : Draft) (fresh : member.isTaken draft = false) :
    TakesOne record.members draft key (bytesOf (writeText path.text)) (put draft path) :=
  takesOne_fresh record.members member key found readPath IsPath readPath_recognizes put reads _ path
    (writeText_isPath path sound) draft fresh

theorem writtenOwner_isOptionalString (owner : Option String) :
    IsOptionalString (bytesOf (writeOptional writeText owner)) owner := by
  rw [← isOptional_string]
  exact writeOptional_isOptional writeText IsString owner fun given _ => writeText_isString given

theorem written_fills (options : Options) (writable : options.Writable) (text : Bytes)
    (limits : Limits) (told : Limits.record.Is text limits) :
    record.FilledBy (options.written text) (options.filled limits) where
  names := rfl
  distinct := by simp [written]
  blank := rfl
  known_only := by
    intro met other same
    simp only [written, List.map_cons, List.map_nil, List.forall_mem_cons] at same
    obtain ⟨owner, imageTool, zeroTool, exportLog, limits, -⟩ := same
    simp [filled, owner, imageTool, zeroTool, exportLog, limits]
  takes := by
    intro met member listed fresh
    simp only [written, List.mem_cons, List.not_mem_nil, or_false] at listed
    rcases listed with rfl | rfl | rfl | rfl | rfl
    · have takes := takesOne_fresh record.members ownerMember "owner_uid" rfl _ _
        readOptionalString_recognizes (fun draft owner => { draft with owner := some owner })
        (fun _ => rfl) _ _ (writtenOwner_isOptionalString options.owner)
        (options.filled limits met) (by simp [ownerMember, filled, fresh])
      simpa [filled, meet] using takes
    · have takes := takes_path imageToolMember "qemu_img" rfl
        (fun draft path => { draft with imageTool := some path }) (fun _ => rfl) _
        writable.imageTool (options.filled limits met) (by simp [imageToolMember, filled, fresh])
      simpa [filled, meet] using takes
    · have takes := takes_path zeroToolMember "dd" rfl
        (fun draft path => { draft with zeroTool := some path }) (fun _ => rfl) _
        writable.zeroTool (options.filled limits met) (by simp [zeroToolMember, filled, fresh])
      simpa [filled, meet] using takes
    · have takes := takes_path exportLogMember "nbdkit_log_path" rfl
        (fun draft path => { draft with exportLog := some path }) (fun _ => rfl) _
        writable.exportLog (options.filled limits met) (by simp [exportLogMember, filled, fresh])
      simpa [filled, meet] using takes
    · have takes := takesOne_fresh record.members inspectionLimitsMember "info_limits" rfl _ _
        (Limits.record.read_recognizes Limits.members_regular)
        (fun draft limits => { draft with inspectionLimits := some limits })
        (fun _ => rfl) _ _ told (options.filled limits met)
        (by simp [inspectionLimitsMember, filled, fresh])
      simpa [filled, meet] using takes

@[simp] theorem getD_met {α : Type} (met : Bool) (value missing : α) :
    (if met then some value else none).getD missing = if met then value else missing := by
  cases met <;> rfl

theorem finish_filled (options : Options) (keep keepLimit : String → Bool) :
    record.finish (options.filled (options.inspectionLimits.keeping keepLimit) keep) =
      some (options.keeping keep keepLimit) := by
  simp only [record, Draft.finish, filled, getD_met]
  rfl

theorem keeping_all (options : Options) :
    options.keeping (fun _ => true) (fun _ => true) = options :=
  rfl

/-- Whatever members are kept at both levels, the document is read for these and the defaults of the others. -/
theorem parse_selected (options : Options) (writable : options.Writable)
    (keep keepLimit : String → Bool) (limits object : WrittenObject) (ended : limits.after = [])
    (selects_limits : Selects (inBytes options.inspectionLimits.written) keepLimit limits.entries)
    (selects : Selects (options.written limits.text) keep object.entries) :
    parse object.text = .ok (options.keeping keep keepLimit) := by
  have told := Limits.is_selected _ writable.inspectionLimits limits keepLimit selects_limits
  have text : limits.text = limits.before ++ 0x7B :: Entry.inside limits.blanks limits.entries := by
    rw [WrittenObject.text, ended, List.append_nil]
  rw [← text] at told
  exact (options.written_fills writable limits.text _ told).read_selected members_regular object keep
    selects _ (options.finish_filled keep keepLimit)

def members (options : Options) : List (String × List Char) :=
  [("owner_uid", writeOptional writeText options.owner),
    ("qemu_img", writeText options.imageTool.text),
    ("dd", writeText options.zeroTool.text),
    ("nbdkit_log_path", writeText options.exportLog.text),
    ("info_limits", options.inspectionLimits.write)]

theorem write?_eq (options : Options) (writable : options.Writable) :
    options.write? = some (String.ofList (writeObject options.members)) := by
  simp [write?, members, writable.imageTool.text?, writable.zeroTool.text?,
    writable.exportLog.text?]

/-- The text is the document of the options: an object of their members, one of which is an object of the
members of the limits. -/
structure IsDocument (options : Options) (text : String) (limits whole : WrittenObject) : Prop where
  written : options.write? = some text
  encoded : whole.text = Utf8.encode text
  members : whole.entries.map Entry.member = options.written limits.text
  limits_members : limits.entries.map Entry.member = inBytes options.inspectionLimits.written
  limits_ended : limits.after = []

theorem members_values (options : Options) (writable : options.Writable) :
    ∀ member ∈ options.members, IsValue (bytesOf member.2) := by
  have path : ∀ text, IsValue (bytesOf (writeText text)) := fun text =>
    isString_isValue _ text (writeText_isString text)
  intro member listed
  simp only [members, List.mem_cons, List.not_mem_nil, or_false] at listed
  rcases listed with rfl | rfl | rfl | rfl | rfl
  · exact isOptionalString_isValue _ _ (writtenOwner_isOptionalString options.owner)
  · exact path options.imageTool.text
  · exact path options.zeroTool.text
  · exact path options.exportLog.text
  · rw [← options.inspectionLimits.document_text writable.inspectionLimits]
    exact (options.inspectionLimits.document writable.inspectionLimits).isValue rfl

theorem document_exists (options : Options) (writable : options.Writable) :
    ∃ text limits whole, options.IsDocument text limits whole := by
  have text := options.inspectionLimits.document_text writable.inspectionLimits
  exact ⟨_, options.inspectionLimits.document writable.inspectionLimits,
    writtenObject options.members (options.members_values writable), {
      written := options.write?_eq writable
      encoded := writtenObject_text options.members (options.members_values writable)
      members := by
        rw [text]
        exact writtenEntry_member options.members
      limits_members := writtenEntry_member options.inspectionLimits.written
      limits_ended := rfl }⟩

/-- The document of the options is read back, and so is any object with a selection of its members, for the
values that these have and the defaults of the others. The limits are such an object themselves. -/
theorem selected_options_read_back (options : Options) (writable : options.Writable) :
    (∃ text limits whole, options.IsDocument text limits whole ∧
        parse (Utf8.encode text) = .ok options) ∧
      ∀ (keep keepLimit : String → Bool) (limits object : WrittenObject), limits.after = [] →
        Selects (inBytes options.inspectionLimits.written) keepLimit limits.entries →
        Selects (options.written limits.text) keep object.entries →
          parse object.text = .ok (options.keeping keep keepLimit) := by
  refine ⟨?_, options.parse_selected writable⟩
  obtain ⟨text, limits, whole, document⟩ := options.document_exists writable
  have read := options.parse_selected writable (fun _ => true) (fun _ => true) limits whole
    document.limits_ended (selects_all _ _ document.limits_members)
    (selects_all _ _ document.members)
  rw [document.encoded, options.keeping_all] at read
  exact ⟨text, limits, whole, document, read⟩

/-- Two members of five, out of order and after an unknown one, with one of the limits. -/
theorem two_members_read_back :
    let options : Options :=
      ⟨some "job \"1\"\\", Path.ofText "/opt/qemu-img", default.zeroTool, Path.ofText "/\u0001\té€",
        ⟨some 18446744073709551615, none⟩⟩
    let limits := [("max_cpu_time", Limits.writeBound none)]
    let members := [("extra", writeInteger 0), ("info_limits", writeObject limits),
      ("owner_uid", writeOptional writeText options.owner)]
    options.Writable ∧
      (∃ text limits whole, options.IsDocument text limits whole ∧
        parse (Utf8.encode text) = .ok options) ∧
      parse (Utf8.encode (String.ofList (writeObject members))) =
        .ok { default with owner := options.owner, inspectionLimits := .none } := by
  intro options limits members
  have writable : options.Writable :=
    ⟨Path.ofText_isText _, Path.ofText_isText _, Path.ofText_isText _, by decide, by decide⟩
  obtain ⟨whole, selected⟩ := selected_options_read_back options writable
  have limit_values : ∀ member ∈ limits, IsValue (bytesOf member.2) := by
    intro member listed
    obtain rfl := List.mem_singleton.mp listed
    exact Limits.isBound_isValue _ _ (Limits.writeBound_isBound none (by simp))
  have values : ∀ member ∈ members, IsValue (bytesOf member.2) := by
    have inner := (writtenObject limits limit_values).isValue rfl
    rw [writtenObject_text, encode_ofList] at inner
    intro member listed
    simp only [members, List.mem_cons, List.not_mem_nil, or_false] at listed
    rcases listed with rfl | rfl | rfl
    · exact isInteger_isValue _ 0 (writeInteger_isInteger 0)
    · exact inner
    · exact isOptionalString_isValue _ _ (writtenOwner_isOptionalString options.owner)
  have chosen_limits : Selects (inBytes options.inspectionLimits.written) (· = "max_cpu_time")
      (limits.map writtenEntry) := by
    rw [Selects, writtenEntry_member]
    simp [limits, options, inBytes, Limits.written]
  have chosen : Selects (options.written (writtenObject limits limit_values).text)
      (· ∈ ["owner_uid", "info_limits"]) (members.map writtenEntry) := by
    rw [Selects, writtenEntry_member, writtenObject_text, encode_ofList]
    simpa [members, inBytes, written] using List.Perm.swap _ _ []
  have read := selected (· ∈ ["owner_uid", "info_limits"]) (· = "max_cpu_time")
    (writtenObject limits limit_values) (writtenObject members values) rfl chosen_limits chosen
  rw [writtenObject_text] at read
  exact ⟨writable, whole, read⟩

end VolumeImport.Options
