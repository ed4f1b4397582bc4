import Mathlib.Data.List.Destutter
import VolumeImport.Proofs.Progress.Exact
import VolumeImport.Proofs.Progress.Tokens

/-!
The counter of an owner as a high-water mark, with percentages in whole hundredths. Any number of reporters
feed lines into one gauge. Seen from one owner, only the values of its own lines count: the counter is the
greatest of them, and what is published are the steps from each mark to the next.
-/

namespace VolumeImport.Progress

structure Call where
  owner : Option String
  line : String

section Feeding

variable {α : Type} [Percentage α]

def feed (gauge : Gauge α) (calls : List Call) : Gauge α :=
  calls.foldl (fun gauge call => report call.owner gauge call.line) gauge

/-- What the calls publish one after the other, each with the owner it is published for. -/
def published (gauge : Gauge α) : List Call → List (String × α)
  | [] => []
  | call :: rest =>
      (publication gauge call.owner call.line).toList
        ++ published (report call.owner gauge call.line) rest

end Feeding

/-- The calls that are fed under a name. The empty name is nobody's. -/
def ownCalls (name : String) (calls : List Call) : List Call :=
  calls.filter fun call => call.owner = some name ∧ name ≠ ""

def readings (name : String) (calls : List Call) : List Int :=
  (ownCalls name calls).filterMap fun call => (parse call.line).map Int.ofNat

def deltas (name : String) (entries : List (String × Int)) : List Int :=
  (entries.filter (·.1 = name)).map Prod.snd

/-- The strict running maxima of some values, behind the mark that they start from. -/
def marks (mark : Int) (values : List Int) : List Int :=
  values.destutter' (· < ·) mark

def differences (numbers : List Int) : List Int :=
  List.zipWith (· - ·) numbers.tail numbers

theorem readings_cons (name : String) (call : Call) (rest : List Call) :
    readings name (call :: rest) = readings name [call] ++ readings name rest := by
  unfold readings ownCalls
  rw [← List.filterMap_append, ← List.filter_append, List.singleton_append]

@[simp] theorem deltas_nil (name : String) : deltas name [] = [] :=
  rfl

@[simp] theorem deltas_single (name : String) (entry : String × Int) :
    deltas name [entry] = if entry.1 = name then [entry.2] else [] := by
  by_cases own : entry.1 = name <;> simp [deltas, own]

theorem deltas_append (name : String) (left right : List (String × Int)) :
    deltas name (left ++ right) = deltas name left ++ deltas name right := by
  simp [deltas]

theorem readings_single (name : String) (call : Call) :
    readings name [call] =
      if publicOwner call.owner = some name then ((parse call.line).map Int.ofNat).toList else [] := by
  simp only [publicOwner_eq_some]
  by_cases own : call.owner = some name ∧ name ≠ ""
  · cases read : parse call.line <;> simp [readings, ownCalls, own, read]
  · simp [readings, ownCalls, own]

@[simp] theorem differences_marks_nil (mark : Int) : differences (marks mark []) = [] :=
  rfl

theorem marks_head (mark : Int) (values : List Int) :
    ∃ behind, marks mark values = mark :: behind := by
  induction values with
  | nil => exact ⟨[], rfl⟩
  | cons value rest ih =>
      by_cases above : mark < value
      · exact ⟨marks value rest, by simp [marks, List.destutter', above]⟩
      · obtain ⟨behind, kept⟩ := ih
        exact ⟨behind, by simpa [marks, List.destutter', above] using kept⟩

@[simp] theorem differences_marks_cons (mark value : Int) (rest : List Int) :
    differences (marks mark (value :: rest)) =
      if mark < value then (value - mark) :: differences (marks value rest)
      else differences (marks mark rest) := by
  by_cases above : mark < value
  · obtain ⟨behind, kept⟩ := marks_head value rest
    have more : marks mark (value :: rest) = mark :: marks value rest := by
      simp [marks, List.destutter', above]
    simp [more, kept, differences, above]
  · have same : marks mark (value :: rest) = marks mark rest := by
      simp [marks, List.destutter', above]
    rw [if_neg above, same]

theorem differences_marks_append (mark : Int) (left right : List Int) :
    differences (marks mark (left ++ right)) =
      differences (marks mark left) ++ differences (marks (left.foldl max mark) right) := by
  induction left generalizing mark with
  | nil => rfl
  | cons value rest ih =>
      rw [List.cons_append, differences_marks_cons, differences_marks_cons, List.foldl_cons, ih, ih]
      by_cases above : mark < value
      · have greater : max mark value = value := by omega
        rw [if_pos above, if_pos above, greater, List.cons_append]
      · have greater : max mark value = mark := by omega
        rw [if_neg above, if_neg above, greater]

def raise (stored : Option Int) (value : Int) : Option Int :=
  if stored.getD 0 < value then some value else stored

theorem foldl_raise_getD (values : List Int) (stored : Option Int) :
    (values.foldl raise stored).getD 0 = values.foldl max (stored.getD 0) := by
  induction values generalizing stored with
  | nil => rfl
  | cons value rest ih =>
      have raised : (raise stored value).getD 0 = max (stored.getD 0) value := by
        unfold raise
        split
        · simp only [Option.getD_some]
          omega
        · omega
      rw [List.foldl_cons, List.foldl_cons, ih, raised]

theorem foldl_raise (values : List Int) (stored : Option Int)
    (positive : ∀ value ∈ stored, 0 < value) :
    values.foldl raise stored = (stored.toList ++ values.filter (0 < ·)).max? := by
  induction values generalizing stored with
  | nil => cases stored <;> rfl
  | cons value rest ih =>
      rw [List.foldl_cons]
      cases stored with
      | none =>
          by_cases counts : 0 < value
          · rw [ih (raise none value) (by simp [raise, counts])]
            simp [raise, counts]
          · rw [ih (raise none value) (by simp [raise, counts])]
            simp [raise, counts]
      | some mark =>
          have known : 0 < mark := positive mark rfl
          by_cases above : mark < value
          · have counts : 0 < value := by omega
            have greater : max mark value = value := by omega
            rw [ih (raise (some mark) value) (by simp [raise, above, counts])]
            simp only [raise, Option.getD_some, above, if_true, Option.toList_some,
              List.singleton_append, List.filter_cons, counts, decide_true, List.max?_cons',
              List.foldl_cons, greater]
          · rw [ih (raise (some mark) value) (by simp [raise, above, known])]
            by_cases counts : 0 < value
            · have greater : max mark value = mark := by omega
              simp only [raise, Option.getD_some, above, if_false, Option.toList_some,
                List.singleton_append, List.filter_cons, counts, decide_true, if_true,
                List.max?_cons', List.foldl_cons, greater]
            · simp [raise, above, counts]

theorem publication_eq (gauge : Gauge Int) (call : Call) (counted : ∀ owner, 0 ≤ gauge.get owner) :
    publication gauge call.owner call.line =
      match publicOwner call.owner, parse call.line with
      | some owner, some hundredths =>
          if gauge.get owner < hundredths then some (owner, hundredths - gauge.get owner) else none
      | _, _ => none := by
  unfold publication
  cases publicOwner call.owner with
  | none => rfl
  | some owner =>
      cases read : parse call.line with
      | none => simp [increase, read]
      | some hundredths =>
          have value : (Percentage.ofHundredths hundredths : Int) = hundredths := rfl
          simp only [Option.bind_eq_bind, Option.bind_some,
            increase_eq _ call.line hundredths read (counted owner), value]
          split <;> rfl

/-- One call, as an owner sees it: a value above its mark is added and becomes the next mark. -/
theorem report_step (gauge : Gauge Int) (call : Call) (name : String)
    (counted : ∀ owner, 0 ≤ gauge.get owner) :
    (report call.owner gauge call.line).lookup name =
        (readings name [call]).foldl raise (gauge.lookup name) ∧
      deltas name (publication gauge call.owner call.line).toList =
        differences (marks (gauge.get name) (readings name [call])) := by
  unfold report
  rw [readings_single, publication_eq gauge call counted]
  cases publicOwner call.owner with
  | none => simp
  | some owner =>
      cases parse call.line with
      | none => simp
      | some hundredths =>
          have stored : gauge.get owner = (gauge.lookup owner).getD 0 := rfl
          by_cases above : gauge.get owner < hundredths
          · have raised : Percentage.add (gauge.get owner) (hundredths - gauge.get owner) =
                (hundredths : Int) := by
              show gauge.get owner + (hundredths - gauge.get owner) = (hundredths : Int)
              omega
            by_cases own : owner = name
            · subst own
              have marked : (gauge.lookup owner).getD 0 < hundredths := above
              simp [raised, raise, marked, above]
            · simp [above, own, Ne.symm own]
          · by_cases own : owner = name
            · subst own
              have unmarked : ¬(gauge.lookup owner).getD 0 < hundredths := above
              simp [above, raise, unmarked]
            · simp [above, own]

theorem report_counted (gauge : Gauge Int) (call : Call) (counted : ∀ owner, 0 ≤ gauge.get owner) :
    ∀ owner, 0 ≤ (report call.owner gauge call.line).get owner := by
  intro owner
  have start : 0 ≤ (gauge.lookup owner).getD 0 := counted owner
  show 0 ≤ ((report call.owner gauge call.line).lookup owner).getD 0
  rw [(report_step gauge call owner counted).1, readings_single]
  split
  · cases parse call.line with
    | none => exact start
    | some hundredths =>
        simp only [Option.map_some, Option.toList_some, List.foldl_cons, List.foldl_nil, raise]
        split
        · exact Int.natCast_nonneg hundredths
        · exact start
  · exact start

/-- Any calls, as an owner sees them: its counter follows its own values, and so do its deltas. -/
theorem feed_owner (gauge : Gauge Int) (calls : List Call) (name : String)
    (counted : ∀ owner, 0 ≤ gauge.get owner) :
    (feed gauge calls).lookup name = (readings name calls).foldl raise (gauge.lookup name) ∧
      deltas name (published gauge calls) =
        differences (marks (gauge.get name) (readings name calls)) := by
  induction calls generalizing gauge with
  | nil => exact ⟨rfl, rfl⟩
  | cons call rest ih =>
      obtain ⟨stored, added⟩ := report_step gauge call name counted
      obtain ⟨later, laterAdded⟩ := ih _ (report_counted gauge call counted)
      rw [readings_cons, List.foldl_append, ← stored]
      refine ⟨later, ?_⟩
      -- the counter behind the first call is the mark that the deltas of the others start from
      have mark : (report call.owner gauge call.line).get name =
          (readings name [call]).foldl max (gauge.get name) := by
        show ((report call.owner gauge call.line).lookup name).getD 0 = _
        rw [stored, foldl_raise_getD]
        rfl
      rw [published, deltas_append, added, laterAdded, mark, differences_marks_append]

theorem parse_le (line : String) (hundredths : Nat) (read : parse line = some hundredths) :
    hundredths ≤ 9999 := by
  obtain ⟨_, whole, fraction, leads, ascii, rfl⟩ := (parse_iff line hundredths).mp read
  obtain ⟨_, -, opens⟩ := leads.stands
  have units := Text.decimalValue_lt whole fun char member => ascii char (by simp [member])
  have parts := Text.decimalValue_lt fraction fun char member => ascii char (by simp [member])
  have room : 10 ^ whole.length ≤ 10 ^ 2 :=
    Nat.pow_le_pow_right (by decide) (by rcases opens.places with one | two <;> omega)
  rw [opens.hundredths] at parts
  omega

theorem published_positive (gauge : Gauge Int) (calls : List Call)
    (counted : ∀ owner, 0 ≤ gauge.get owner) :
    ∀ entry ∈ published gauge calls, 0 < entry.2 := by
  induction calls generalizing gauge with
  | nil => simp [published]
  | cons call rest ih =>
      intro entry member
      rcases List.mem_append.mp member with here | later
      · rw [publication_eq gauge call counted] at here
        split at here
        · split at here
          · rename_i owner hundredths _ _ above
            obtain rfl : entry = (owner, hundredths - gauge.get owner) := by simpa using here
            exact Int.sub_pos_of_lt above
          · simp at here
        · simp at here
      · exact ih _ (report_counted gauge call counted) entry later

theorem feed_published {α : Type} [Percentage α] (gauge : Gauge α) (calls : List Call) :
    feed gauge calls =
      (published gauge calls).foldl (fun gauge entry => gauge.add entry.1 entry.2) gauge := by
  induction calls generalizing gauge with
  | nil => rfl
  | cons call rest ih =>
      have once : report call.owner gauge call.line =
          (publication gauge call.owner call.line).toList.foldl
            (fun gauge entry => gauge.add entry.1 entry.2) gauge := by
        unfold report
        cases publication gauge call.owner call.line <;> rfl
      rw [published, List.foldl_append, ← once]
      exact ih _

theorem readings_ownCalls (name : String) (calls : List Call) :
    readings name (ownCalls name calls) = readings name calls := by
  simp [readings, ownCalls]

theorem readings_le (name : String) (calls : List Call) :
    ∀ value ∈ readings name calls, value ≤ 9999 := by
  intro value member
  obtain ⟨call, -, read⟩ := List.mem_filterMap.mp member
  obtain ⟨hundredths, found, rfl⟩ := Option.map_eq_some_iff.mp read
  exact Int.ofNat_le.mpr (parse_le call.line hundredths found)

/-- The counter of an owner is the greatest positive value of its own lines, and absent without one. What is
published for it are the steps between the running maxima of these values, so every delta is positive, and
neither other owners nor lines without an owner have a share in it. -/
theorem counter_high_water (calls : List Call) (name : String) :
    (feed Gauge.empty calls).lookup name = ((readings name calls).filter (0 < ·)).max? ∧
    (∀ value : Int, (feed Gauge.empty calls).lookup name = some value →
      0 < value ∧ value ≤ 9999) ∧
    deltas name (published Gauge.empty calls) = differences (marks 0 (readings name calls)) ∧
    (∀ entry ∈ published (Gauge.empty : Gauge Int) calls, 0 < entry.2) ∧
    feed (Gauge.empty : Gauge Int) calls = (published Gauge.empty calls).foldl
      (fun gauge entry => gauge.add entry.1 entry.2) Gauge.empty ∧
    deltas name (published Gauge.empty (ownCalls name calls)) =
      deltas name (published Gauge.empty calls) ∧
    ∀ (gauge : Gauge Int) line,
      report none gauge line = gauge ∧ report (some "") gauge line = gauge := by
  have counted : ∀ owner, 0 ≤ (Gauge.empty : Gauge Int).get owner := fun _ => Int.le_refl 0
  have own := feed_owner Gauge.empty calls name counted
  have alone := feed_owner Gauge.empty (ownCalls name calls) name counted
  have highest : (feed Gauge.empty calls).lookup name =
      ((readings name calls).filter (0 < ·)).max? := by
    rw [own.1]
    exact foldl_raise (readings name calls) none (by simp)
  refine ⟨highest, ?_, own.2, published_positive _ calls counted, feed_published _ calls, ?_,
    fun gauge line => ⟨rfl, rfl⟩⟩
  · intro value stored
    rw [highest] at stored
    obtain ⟨member, positive⟩ := List.mem_filter.mp (List.max?_mem stored)
    exact ⟨by simpa using positive, readings_le name calls value member⟩
  · rw [alone.2, own.2, readings_ownCalls]

/-- Two tools take turns. One of them starts over, and two lines in between belong to nobody. -/
def turns : List Call :=
  [⟨some "job-1", "    (10.00/100%)"⟩, ⟨some "job-2", "    (62.50/100%)"⟩, ⟨none, "    (99.00/100%)"⟩,
    ⟨some "job-1", "    (0.00/100%)"⟩, ⟨some "", "    (99.00/100%)"⟩, ⟨some "job-1", "    (45.34/100%)"⟩,
    ⟨some "job-2", "    (62.50/100%)"⟩, ⟨some "job-2", "    (75.00/100%)"⟩]

theorem turns_counted_apart :
    let gauge : Gauge Int := feed Gauge.empty turns
    let entries : List (String × Int) := published Gauge.empty turns
    gauge.lookup "job-1" = some 4534 ∧ deltas "job-1" entries = [1000, 3534] ∧
      gauge.lookup "job-2" = some 7500 ∧ deltas "job-2" entries = [6250, 1250] ∧
      gauge.lookup "" = none := by
  obtain ⟨first, -, firstDeltas, -⟩ := counter_high_water turns "job-1"
  obtain ⟨second, -, secondDeltas, -⟩ := counter_high_water turns "job-2"
  obtain ⟨nobody, -⟩ := counter_high_water turns ""
  have firstReadings : readings "job-1" turns = [1000, 0, 4534] := by decide +kernel
  have secondReadings : readings "job-2" turns = [6250, 6250, 7500] := by decide +kernel
  rw [firstReadings] at first firstDeltas
  rw [secondReadings] at second secondDeltas
  exact ⟨first, firstDeltas, second, secondDeltas, nobody⟩

end VolumeImport.Progress
