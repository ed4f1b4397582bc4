import VolumeImport.Proofs.Json.Recognition

/-!
Rows of items between brackets, with a comma in front of every item but the first. Objects and arrays are
rows, of entries and of elements.
-/

namespace VolumeImport.Json

def closing (bracket : UInt8) (items : List Bytes) : Bytes :=
  items.flatMap (0x2C :: ·) ++ [bracket]

/-- The inside of a row and its end. A row without items holds nothing but blanks. -/
def inside (bracket : UInt8) (blanks : Bytes) : List Bytes → Bytes
  | [] => blanks ++ [bracket]
  | item :: rest => item ++ closing bracket rest

structure Element where
  value : Bytes
  after : Bytes
  after_blank : AllBlank after

namespace Element

def text (element : Element) : Bytes :=
  element.value ++ element.after

def closing (elements : List Element) : Bytes :=
  Json.closing 0x5D (elements.map text)

def inside (blanks : Bytes) (elements : List Element) : Bytes :=
  Json.inside 0x5D blanks (elements.map text)

end Element

theorem closing_cons (bracket : UInt8) (item rest : Bytes) (items : List Bytes) :
    closing bracket (item :: items) ++ rest = 0x2C :: (item ++ (closing bracket items ++ rest)) := by
  simp [closing]

theorem inside_nil (bracket : UInt8) (blanks rest : Bytes) :
    inside bracket blanks [] ++ rest = blanks ++ bracket :: rest :=
  List.append_assoc ..

theorem inside_cons (bracket : UInt8) (blanks item rest : Bytes) (items : List Bytes) :
    inside bracket blanks (item :: items) ++ rest = item ++ (closing bracket items ++ rest) :=
  List.append_assoc ..

theorem skipBlanks_closing_nil (bracket : UInt8) (solid : isBlank bracket = false)
    (before rest : Bytes) (blank : AllBlank before) :
    skipBlanks (before ++ (closing bracket [] ++ rest)) = bracket :: rest := by
  rw [skipBlanks_append before _ blank]
  exact skipBlanks_cons bracket rest solid

theorem skipBlanks_closing_cons (bracket : UInt8) (before item rest : Bytes) (items : List Bytes)
    (blank : AllBlank before) :
    skipBlanks (before ++ (closing bracket (item :: items) ++ rest)) =
      0x2C :: (item ++ (closing bracket items ++ rest)) := by
  rw [skipBlanks_append before _ blank, closing_cons]
  exact skipBlanks_cons 0x2C _ rfl

theorem skipBlanks_inside_nil (bracket : UInt8) (solid : isBlank bracket = false)
    (blanks rest : Bytes) (blank : AllBlank blanks) :
    skipBlanks (inside bracket blanks [] ++ rest) = bracket :: rest := by
  rw [inside_nil, skipBlanks_append blanks _ blank]
  exact skipBlanks_cons bracket rest solid

theorem delimited_closing (bracket : UInt8) (ends : bracket = 0x5D ∨ bracket = 0x7D)
    (after rest : Bytes) (items : List Bytes) (blank : AllBlank after) :
    Delimited (after ++ (closing bracket items ++ rest)) := by
  intro byte first
  cases after with
  | nil =>
      cases items with
      | nil =>
          obtain rfl : bracket = byte := by simpa [closing] using first
          exact .inr (.inr ends)
      | cons item more =>
          obtain rfl : 0x2C = byte := by simpa [closing] using first
          exact .inr (.inl rfl)
  | cons head tail =>
      obtain rfl : head = byte := by simpa using first
      exact .inl (blank.isBlank head List.mem_cons_self)

theorem length_closing (bracket : UInt8) (items : List Bytes) :
    items.length < (closing bracket items).length := by
  induction items with
  | nil => exact Nat.zero_lt_one
  | cons item rest ih =>
      have commas := congrArg List.length (closing_cons bracket item [] rest)
      simp only [List.append_nil, List.length_cons, List.length_append] at commas ⊢
      omega

/-- The commas alone are enough text for a bound on the items, once the first item has some text. -/
theorem length_inside (bracket : UInt8) (blanks rest : Bytes) (items : List Bytes)
    (solid : ∀ item ∈ items, item ≠ []) :
    items.length < (inside bracket blanks items ++ rest).length := by
  cases items with
  | nil =>
      rw [inside_nil, List.length_append, List.length_cons, List.length_nil]
      omega
  | cons item items =>
      have further := length_closing bracket items
      have some_text := List.length_pos_iff.mpr (solid item List.mem_cons_self)
      rw [inside_cons, List.length_append, List.length_append, List.length_cons]
      omega

end VolumeImport.Json
