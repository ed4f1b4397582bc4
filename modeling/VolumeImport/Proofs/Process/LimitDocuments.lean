import VolumeImport.Process.Limits
import VolumeImport.Proofs.Json.Selection

/-!
The documents of limits. A bound that is left out of the document is not set; the others are read as they were
written, `null` included.
-/

namespace VolumeImport.Limits

open Json

structure Fits (limits : Limits) : Prop where
  maxMemory : ∀ bound, limits.maxMemory = some bound → bound < Word.bound 64
  maxCpuTime : ∀ bound, limits.maxCpuTime = some bound → bound < Word.bound 64

def written (limits : Limits) : List (String × List Char) :=
  [("max_memory", writeBound limits.maxMemory), ("max_cpu_time", writeBound limits.maxCpuTime)]

def keeping (limits : Limits) (keep : String → Bool) : Limits where
  maxMemory := if keep "max_memory" then limits.maxMemory else .none
  maxCpuTime := if keep "max_cpu_time" then limits.maxCpuTime else .none

def filled (limits : Limits) (met : String → Bool) : Draft where
  maxMemory := if met "max_memory" then some limits.maxMemory else .none
  maxCpuTime := if met "max_cpu_time" then some limits.maxCpuTime else .none

abbrev IsBound : Bytes → Option Nat → Prop :=
  IsOptional IsUnsigned

theorem readBound_recognizes : Recognizes (readOptional readUnsigned) IsBound :=
  readOptional_recognizes readUnsigned IsUnsigned readUnsigned_recognizes readUnsigned_regular.blanks
    readUnsigned_not_null

theorem readBound_regular : Regular (readOptional readUnsigned) :=
  readOptional_regular readUnsigned readUnsigned_regular readUnsigned_not_null

theorem members_regular : ∀ member ∈ record.members, member.Regular := by
  intro member listed draft
  simp only [record, List.mem_cons, List.not_mem_nil, or_false] at listed
  rcases listed with rfl | rfl
  · exact mapped_regular _ (fun bound => { draft with maxMemory := some bound }) readBound_regular
  · exact mapped_regular _ (fun bound => { draft with maxCpuTime := some bound }) readBound_regular

theorem writeBound_isBound (bound : Option Nat)
    (fits : ∀ value, bound = some value → value < Word.bound 64) :
    IsBound (bytesOf (writeBound bound)) bound :=
  writeOptional_isOptional _ IsUnsigned bound fun value given =>
    ⟨writeInteger_isInteger value, fits value given⟩

theorem written_fills (limits : Limits) (fits : limits.Fits) :
    record.FilledBy (inBytes limits.written) limits.filled where
  names := rfl
  distinct := by simp [inBytes, written]
  blank := rfl
  known_only := by
    intro met other same
    simp only [inBytes, written, List.map_cons, List.map_nil, List.forall_mem_cons] at same
    simp [filled, same.1, same.2.1]
  takes := by
    intro met member listed fresh
    simp only [inBytes, written, List.map_cons, List.map_nil, List.mem_cons, List.not_mem_nil,
      or_false] at listed
    rcases listed with rfl | rfl
    · have takes := takesOne_fresh record.members maxMemoryMember "max_memory" rfl _ _
        readBound_recognizes (fun draft bound => { draft with maxMemory := some bound })
        (fun _ => rfl) _ _ (writeBound_isBound limits.maxMemory fits.maxMemory) (limits.filled met)
        (by simp [maxMemoryMember, filled, fresh])
      simpa [filled, meet] using takes
    · have takes := takesOne_fresh record.members maxCpuTimeMember "max_cpu_time" rfl _ _
        readBound_recognizes (fun draft bound => { draft with maxCpuTime := some bound })
        (fun _ => rfl) _ _ (writeBound_isBound limits.maxCpuTime fits.maxCpuTime)
        (limits.filled met) (by simp [maxCpuTimeMember, filled, fresh])
      simpa [filled, meet] using takes

theorem finish_filled (limits : Limits) (keep : String → Bool) :
    record.finish (limits.filled keep) = some (limits.keeping keep) := by
  cases memory : keep "max_memory" <;> cases cpuTime : keep "max_cpu_time" <;>
    simp [record, filled, keeping, memory, cpuTime]

theorem keeping_all (limits : Limits) : limits.keeping (fun _ => true) = limits :=
  rfl

theorem is_selected (limits : Limits) (fits : limits.Fits) (object : WrittenObject)
    (keep : String → Bool) (selects : Selects (inBytes limits.written) keep object.entries) :
    record.Is (object.before ++ 0x7B :: Entry.inside object.blanks object.entries)
      (limits.keeping keep) :=
  (limits.written_fills fits).is_selected object keep selects _ (limits.finish_filled keep)

theorem isBound_isValue (text : Bytes) (bound : Option Nat) (told : IsBound text bound) :
    IsValue text :=
  isOptional_isValue IsUnsigned (fun text value spelled => isInteger_isValue text value spelled.1)
    text bound told

theorem written_values (limits : Limits) (fits : limits.Fits) :
    ∀ member ∈ limits.written, IsValue (bytesOf member.2) := by
  intro member listed
  simp only [written, List.mem_cons, List.not_mem_nil, or_false] at listed
  rcases listed with rfl | rfl
  · exact isBound_isValue _ _ (writeBound_isBound limits.maxMemory fits.maxMemory)
  · exact isBound_isValue _ _ (writeBound_isBound limits.maxCpuTime fits.maxCpuTime)

def document (limits : Limits) (fits : limits.Fits) : WrittenObject :=
  writtenObject limits.written (limits.written_values fits)

theorem document_text (limits : Limits) (fits : limits.Fits) :
    (limits.document fits).text = bytesOf limits.write := by
  rw [document, writtenObject_text, encode_ofList]
  rfl

end VolumeImport.Limits
