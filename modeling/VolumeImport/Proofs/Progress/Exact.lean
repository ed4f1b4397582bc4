import Mathlib.Algebra.Order.Field.Rat
import Mathlib.Algebra.Order.Group.Int
import VolumeImport.Progress.Publication

/-!
Counters in exact arithmetic. What a line adds to a counter is what is missing to its value, so the counter
behind it is the greater of the two; without rounding that makes the counter of the owner the maximum of all
that was reported to it.
-/

namespace VolumeImport.Progress

/-- Arithmetic on percentages without any rounding. -/
class Exact (α : Type) [AddCommGroup α] [LinearOrder α] [Percentage α] : Prop where
  zero_eq : (Percentage.zero : α) = 0
  add_eq : ∀ left right : α, Percentage.add left right = left + right
  sub_eq : ∀ left right : α, Percentage.sub left right = left - right
  exceeds_iff : ∀ left right : α, Percentage.exceeds left right = true ↔ right < left

instance : Exact Int where
  zero_eq := rfl
  add_eq _ _ := rfl
  sub_eq _ _ := rfl
  exceeds_iff _ _ := decide_eq_true_iff

instance : Percentage ℚ where
  zero := 0
  add := (· + ·)
  sub := (· - ·)
  exceeds left right := right < left
  ofHundredths hundredths := hundredths / 100

instance : Exact ℚ where
  zero_eq := rfl
  add_eq _ _ := rfl
  sub_eq _ _ := rfl
  exceeds_iff _ _ := decide_eq_true_iff

def values {α : Type} [Percentage α] (lines : List String) : List α :=
  lines.filterMap fun line => (parse line).map Percentage.ofHundredths

theorem le_foldl_max {α : Type} [LinearOrder α] (list : List α) (start : α) :
    start ≤ list.foldl max start := by
  induction list generalizing start with
  | nil => exact le_rfl
  | cons value rest ih => exact (le_max_left start value).trans (ih (max start value))

@[simp] theorem publicOwner_eq_some (owner : Option String) (name : String) :
    publicOwner owner = some name ↔ owner = some name ∧ name ≠ "" := by
  simp [publicOwner, Option.filter_eq_some_iff]

section Owners

variable {α : Type} [Percentage α] (owner : Option String) (gauge : Gauge α)

theorem report_unowned (line : String) (unowned : publicOwner owner = none) :
    report owner gauge line = gauge := by
  simp [report, publication, unowned]

theorem report_lookup_other (line name : String) (other : publicOwner owner ≠ some name) :
    (report owner gauge line).lookup name = gauge.lookup name := by
  unfold report publication
  cases found : publicOwner owner with
  | none => rfl
  | some own =>
      have apart : name ≠ own := by
        rintro rfl
        exact other found
      cases rise : increase (gauge.get own) line with
      | none => simp [rise]
      | some delta => simp [rise, apart]

theorem reportAll_unowned (lines : List String) (unowned : publicOwner owner = none) :
    reportAll owner gauge lines = gauge := by
  induction lines with
  | nil => rfl
  | cons line rest ih => exact (congrArg (reportAll owner · rest)
      (report_unowned owner gauge line unowned)).trans ih

theorem reportAll_lookup_other (lines : List String) (name : String)
    (other : publicOwner owner ≠ some name) :
    (reportAll owner gauge lines).lookup name = gauge.lookup name := by
  induction lines generalizing gauge with
  | nil => rfl
  | cons line rest ih =>
      exact (ih (report owner gauge line)).trans (report_lookup_other owner gauge line name other)

theorem reportAll_append (first rest : List String) :
    reportAll owner gauge (first ++ rest) = reportAll owner (reportAll owner gauge first) rest :=
  List.foldl_append

end Owners

section Exact

variable {α : Type} [AddCommGroup α] [LinearOrder α] [Percentage α] [Exact α]

theorem increase_eq (published : α) (line : String) (hundredths : Nat)
    (read : parse line = some hundredths) (counted : 0 ≤ published) :
    increase published line =
      if published < Percentage.ofHundredths hundredths then
        some (Percentage.ofHundredths hundredths - published)
      else none := by
  simp only [increase, read, Option.bind_eq_bind, Option.bind_some, Bool.and_eq_true,
    Exact.exceeds_iff, Exact.zero_eq, Exact.sub_eq]
  by_cases above : published < Percentage.ofHundredths hundredths
  · rw [if_pos ⟨counted.trans_lt above, above⟩, if_pos above]
  · rw [if_neg (fun both => above both.2), if_neg above]

theorem report_get (owner : Option String) (gauge : Gauge α) (line name : String)
    (own : publicOwner owner = some name) (counted : 0 ≤ gauge.get name) :
    (report owner gauge line).get name = (values [line]).foldl max (gauge.get name) := by
  unfold report publication
  rw [own]
  cases read : parse line with
  | none => simp [values, increase, read]
  | some hundredths =>
      have value : (values [line] : List α) = [Percentage.ofHundredths hundredths] := by
        simp [values, read]
      simp only [Option.bind_eq_bind, Option.bind_some,
        increase_eq (gauge.get name) line hundredths read counted, value, List.foldl_cons,
        List.foldl_nil]
      by_cases above : gauge.get name < Percentage.ofHundredths hundredths
      · have raised : gauge.get name + (Percentage.ofHundredths hundredths - gauge.get name) =
            Percentage.ofHundredths hundredths := add_sub_cancel _ _
        rw [if_pos above, max_eq_right above.le]
        show ((gauge.add name _).lookup name).getD _ = _
        rw [Gauge.lookup_add, if_pos rfl, Option.getD_some, Exact.add_eq, raised]
      · rw [if_neg above, max_eq_left (not_lt.mp above)]
        rfl

theorem reportAll_get (owner : Option String) (gauge : Gauge α) (lines : List String)
    (name : String) (own : publicOwner owner = some name) (counted : 0 ≤ gauge.get name) :
    (reportAll owner gauge lines).get name = (values lines).foldl max (gauge.get name) := by
  induction lines generalizing gauge with
  | nil => rfl
  | cons line rest ih =>
      have once := report_get owner gauge line name own counted
      have later := ih (report owner gauge line) (by
        rw [once]
        exact counted.trans (le_foldl_max _ _))
      have parts : (values (line :: rest) : List α) = values [line] ++ values rest := by
        simp only [values, ← List.filterMap_append, List.singleton_append]
      rw [parts, List.foldl_append, ← once, ← later]
      rfl

theorem reportAll_rises (owner : Option String) (gauge : Gauge α) (lines : List String)
    (name : String) (counted : 0 ≤ gauge.get name) :
    gauge.get name ≤ (reportAll owner gauge lines).get name := by
  by_cases own : publicOwner owner = some name
  · rw [reportAll_get owner gauge lines name own counted]
    exact le_foldl_max _ _
  · have same := reportAll_lookup_other owner gauge lines name own
    exact (congrArg (·.getD Percentage.zero) same).ge

/-- What reporting does to a gauge: it lowers no counter, and touches none but that of an owner with a name. -/
structure Climbs (owner : Option String) (before after : Gauge α) : Prop where
  rises : ∀ name, before.get name ≤ after.get name
  others : ∀ name, owner ≠ some name → after.lookup name = before.lookup name
  unowned : owner = none ∨ owner = some "" → after = before

theorem reportAll_climbs (owner : Option String) (gauge : Gauge α) (lines : List String)
    (counted : ∀ name, 0 ≤ gauge.get name) : Climbs owner gauge (reportAll owner gauge lines) where
  rises name := reportAll_rises owner gauge lines name (counted name)
  others name other := reportAll_lookup_other owner gauge lines name fun own =>
    other ((publicOwner_eq_some owner name).mp own).1
  unowned := by
    rintro (rfl | rfl) <;> exact reportAll_unowned _ gauge lines rfl

theorem counted_of_entries (gauge : Gauge α) (entries : ∀ entry ∈ gauge, 0 ≤ entry.2) :
    ∀ name, 0 ≤ gauge.get name := by
  intro name
  cases found : gauge.lookup name with
  | none => simp [Gauge.get, found, Exact.zero_eq]
  | some value =>
      obtain ⟨before, behind, rfl, -⟩ := List.lookup_eq_some_iff.mp found
      simpa [Gauge.get, found] using entries (name, value) (by simp)

theorem reportAll_counted (owner : Option String) (gauge : Gauge α) (lines : List String)
    (counted : ∀ name, 0 ≤ gauge.get name) : ∀ name, 0 ≤ (reportAll owner gauge lines).get name :=
  fun name => (counted name).trans (reportAll_rises owner gauge lines name (counted name))

end Exact

end VolumeImport.Progress
