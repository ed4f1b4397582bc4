import VolumeImport.Proofs.Json.Records
import VolumeImport.Proofs.Json.Writing

/-!
Objects that hold a selection of some members. The members may stand in any order, and others may stand
between them under keys of their own. A record reads such an object into the draft that the selected members
fill, if each member fills a place of its own; that is all that has to be said of a record here.
-/

namespace VolumeImport.Json

variable {α δ : Type}

/-- Of the entries under the keys of the members, there are those of the selected members and no others. -/
def Selects (members : List (String × Bytes)) (keep : String → Bool) (entries : List Entry) : Prop :=
  ((entries.map Entry.member).filter (·.1 ∈ members.map Prod.fst)).Perm (members.filter (keep ·.1))

section

variable {members : List (String × Bytes)} {keep : String → Bool} {entries : List Entry}

theorem Selects.listed (selects : Selects members keep entries) (entry : Entry)
    (member : entry ∈ entries) (known : entry.key ∈ members.map Prod.fst) :
    entry.member ∈ members := by
  have here : entry.member ∈ (entries.map Entry.member).filter (·.1 ∈ members.map Prod.fst) := by
    simp only [List.mem_filter, decide_eq_true_eq]
    exact ⟨List.mem_map_of_mem member, known⟩
  exact (List.mem_filter.mp (selects.mem_iff.mp here)).1

theorem Selects.keys (selects : Selects members keep entries) :
    ((entries.map Entry.key).filter (· ∈ members.map Prod.fst)).Perm
      ((members.map Prod.fst).filter keep) := by
  have keys := selects.map Prod.fst
  have left : ((entries.map Entry.member).filter (·.1 ∈ members.map Prod.fst)).map Prod.fst =
      (entries.map Entry.key).filter (· ∈ members.map Prod.fst) := by
    simp only [List.filter_map, List.map_map]
    rfl
  have right : (members.filter (keep ·.1)).map Prod.fst = (members.map Prod.fst).filter keep := by
    rw [List.filter_map]
    rfl
  rwa [left, right] at keys

theorem Selects.keeps (selects : Selects members keep entries) (key : String)
    (known : key ∈ members.map Prod.fst) :
    decide (key ∈ entries.map Entry.key) = keep key := by
  have same := selects.keys.mem_iff (a := key)
  simp only [List.mem_filter, known, decide_true, and_true, true_and] at same
  rw [Bool.eq_iff_iff, decide_eq_true_iff]
  exact same

theorem Selects.once (selects : Selects members keep entries)
    (distinct : (members.map Prod.fst).Nodup) :
    ((entries.map Entry.key).filter (· ∈ members.map Prod.fst)).Nodup :=
  selects.keys.nodup_iff.mpr (distinct.filter keep)

end

theorem selects_all (members : List (String × Bytes)) (entries : List Entry)
    (same : entries.map Entry.member = members) : Selects members (fun _ => true) entries := by
  have all : members.filter (·.1 ∈ members.map Prod.fst) = members := by
    rw [List.filter_eq_self]
    intro member listed
    simpa using List.mem_map_of_mem (f := Prod.fst) listed
  have kept : members.filter (fun _ => true) = members := List.filter_eq_self.mpr fun _ _ => rfl
  rw [Selects, same, all, kept]

def meet (met : String → Bool) (key : String) : String → Bool :=
  fun other => met other || other = key

theorem takesOne_fresh {β : Type} (members : List (Member δ)) (member : Member δ) (key : String)
    (found : members.find? (·.name = key) = some member) (read : Reader β)
    (Is : Bytes → β → Prop) (kind : Recognizes read Is) (put : δ → β → δ)
    (reads : ∀ draft, member.read draft = mapped read (put draft)) (text : Bytes) (value : β)
    (spelled : Is text value) (draft : δ) (fresh : member.isTaken draft = false) :
    TakesOne members draft key text (put draft value) := by
  refine .inl ⟨member, found, fresh, ?_⟩
  rw [reads draft]
  exact reads_mapped read Is kind (put draft) text value spelled

/-- What the members make of a record's draft: `fill` is the draft once some of the keys have been met. -/
structure Record.FilledBy (record : Record δ α) (written : List (String × Bytes))
    (fill : (String → Bool) → δ) : Prop where
  names : record.members.map (·.name) = written.map Prod.fst
  distinct : (written.map Prod.fst).Nodup
  blank : fill (fun _ => false) = record.blank
  known_only : ∀ met other, (∀ key ∈ written.map Prod.fst, met key = other key) →
    fill met = fill other
  takes : ∀ met, ∀ member ∈ written, met member.1 = false →
    TakesOne record.members (fill met) member.1 member.2 (fill (meet met member.1))

section

variable {record : Record δ α} {written : List (String × Bytes)} {fill : (String → Bool) → δ}

theorem Record.FilledBy.takes_entries (fills : record.FilledBy written fill) (entries : List Entry)
    (met : String → Bool) (values : ∀ entry ∈ entries, IsValue entry.value)
    (listed : ∀ entry ∈ entries, entry.key ∈ written.map Prod.fst → entry.member ∈ written)
    (fresh : ∀ entry ∈ entries, entry.key ∈ written.map Prod.fst → met entry.key = false)
    (once : ((entries.map Entry.key).filter (· ∈ written.map Prod.fst)).Nodup) :
    Takes record.members (fill met) entries
      (fill fun key => met key || decide (key ∈ entries.map Entry.key)) := by
  induction entries generalizing met with
  | nil => simpa using Takes.done (fill met)
  | cons entry entries ih =>
      obtain ⟨value, values⟩ := List.forall_mem_cons.mp values
      obtain ⟨listed_first, listed⟩ := List.forall_mem_cons.mp listed
      obtain ⟨fresh_first, fresh⟩ := List.forall_mem_cons.mp fresh
      rw [List.map_cons, List.filter_cons] at once
      by_cases known : entry.key ∈ written.map Prod.fst
      · have one := fills.takes met entry.member (listed_first known) (fresh_first known)
        rw [if_pos (by simpa using known)] at once
        obtain ⟨single, once⟩ := List.nodup_cons.mp once
        -- no other entry has this key, so their keys stay fresh when it is met
        have still : ∀ other ∈ entries, other.key ∈ written.map Prod.fst →
            meet met entry.key other.key = false := by
          intro other member counts
          have apart : other.key ≠ entry.key := by
            intro same
            apply single
            rw [← same, List.mem_filter]
            exact ⟨List.mem_map_of_mem member, by simpa using counts⟩
          simp [meet, fresh other member counts, apart]
        have further := ih (meet met entry.key) values listed still once
        have all : (fun key => met key || decide (key ∈ (entry :: entries).map Entry.key)) =
            fun key => meet met entry.key key || decide (key ∈ entries.map Entry.key) := by
          funext key
          simp [meet, Bool.or_assoc]
        rw [all]
        exact .more entry entries _ _ _ one further
      · rw [if_neg (by simpa using known)] at once
        have further := ih met values listed fresh once
        have unknown : record.members.find? (·.name = entry.key) = none := by
          rw [← fills.names] at known
          simpa [List.find?_eq_none] using known
        have same := fills.known_only
          (fun key => met key || decide (key ∈ (entry :: entries).map Entry.key))
          (fun key => met key || decide (key ∈ entries.map Entry.key)) (by
            intro key counts
            have apart : key ≠ entry.key := fun same => known (same ▸ counts)
            simp [apart])
        rw [same]
        exact .more entry entries _ _ _ (.inr ⟨unknown, value, rfl⟩) further

theorem Record.FilledBy.takes_selected (fills : record.FilledBy written fill) (object : WrittenObject)
    (keep : String → Bool) (selects : Selects written keep object.entries) :
    Takes record.members record.blank object.entries (fill keep) := by
  have takes := fills.takes_entries object.entries (fun _ => false) object.values selects.listed
    (fun _ _ _ => rfl) (selects.once fills.distinct)
  have same := fills.known_only
    (fun key => false || decide (key ∈ object.entries.map Entry.key)) keep (by
      intro key known
      simpa using selects.keeps key known)
  rwa [fills.blank, same] at takes

theorem Record.FilledBy.is_selected (fills : record.FilledBy written fill) (object : WrittenObject)
    (keep : String → Bool) (selects : Selects written keep object.entries) (value : α)
    (finished : record.finish (fill keep) = some value) :
    record.Is (object.before ++ 0x7B :: Entry.inside object.blanks object.entries) value :=
  .object object.before object.blanks object.entries (fill keep) value object.before_blank
    object.blanks_blank (fills.takes_selected object keep selects) finished

theorem Record.FilledBy.read_selected (fills : record.FilledBy written fill)
    (regular : ∀ member ∈ record.members, member.Regular) (object : WrittenObject)
    (keep : String → Bool) (selects : Selects written keep object.entries) (value : α)
    (finished : record.finish (fill keep) = some value) :
    readDocument record.read object.text = .ok value := by
  rw [readDocument_iff _ _ (Record.read_recognizes record regular)]
  refine ⟨_, object.after, ?_, fills.is_selected object keep selects value finished,
    object.after_blank⟩
  simp [WrittenObject.text]

end

theorem Record.read_regular (record : Record δ α)
    (regular : ∀ member ∈ record.members, member.Regular) : Regular record.read := by
  refine regular_of _ _ (Record.read_recognizes record regular) ?_ ?_
  · intro bytes
    have same : record.readDraft (skipBlanks bytes) = record.readDraft bytes := by
      rw [Record.readDraft, skipBlanks_idem]
      rfl
    rw [Record.read, same]
    rfl
  · intro bytes result read
    obtain ⟨found, draft_read, -⟩ := bind_ok _ _ _ read
    unfold Record.readDraft at draft_read
    split at draft_read
    · next rest start => exact ⟨0x7B, rest, start, by decide⟩
    · next rest start => exact ⟨0x5B, rest, start, by decide⟩
    · cases draft_read

end VolumeImport.Json
