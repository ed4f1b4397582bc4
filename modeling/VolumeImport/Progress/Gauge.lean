/-!
Progress counters, one per owner.

Percentages are added and compared in some arithmetic: binary floating point numbers of 64 bits where the
counters are read by others, whole hundredths where they are reasoned about.
-/

namespace VolumeImport.Progress

class Percentage (α : Type) where
  zero : α
  add : α → α → α
  sub : α → α → α
  exceeds : α → α → Bool
  /-- The nearest percentage to so many hundredths of a percent. -/
  ofHundredths : Nat → α

instance : Percentage Float where
  zero := 0.0
  add := (· + ·)
  sub := (· - ·)
  exceeds left right := left > right
  ofHundredths hundredths := Float.ofScientific hundredths true 2

instance : Percentage Int where
  zero := 0
  add := (· + ·)
  sub := (· - ·)
  exceeds left right := right < left
  ofHundredths hundredths := hundredths

abbrev Gauge (α : Type) := List (String × α)

namespace Gauge

variable {α : Type} [Percentage α]

def empty : Gauge α := []

def get (gauge : Gauge α) (owner : String) : α :=
  (gauge.lookup owner).getD Percentage.zero

def add (gauge : Gauge α) (owner : String) (delta : α) : Gauge α :=
  match gauge with
  | [] => [(owner, Percentage.add Percentage.zero delta)]
  | (name, value) :: rest =>
      if name = owner then (name, Percentage.add value delta) :: rest
      else (name, value) :: Gauge.add rest owner delta

@[simp, grind =] theorem lookup_add (gauge : Gauge α) (owner name : String) (delta : α) :
    (gauge.add owner delta).lookup name =
      if name = owner then some (Percentage.add (gauge.get owner) delta)
      else gauge.lookup name := by
  induction gauge with
  | nil =>
      by_cases same : name = owner
      · simp [Gauge.add, Gauge.get, same]
      · have apart : (name == owner) = false := beq_false_of_ne same
        simp [Gauge.add, List.lookup_cons, same, apart]
  | cons entry rest ih =>
      obtain ⟨first, value⟩ := entry
      simp only [Gauge.get] at ih
      by_cases hit : first = owner
      · by_cases same : name = owner
        · simp [Gauge.add, Gauge.get, hit, same]
        · have apart : (name == owner) = false := beq_false_of_ne same
          simp [Gauge.add, List.lookup_cons, hit, same, apart]
      · have other : (owner == first) = false := beq_false_of_ne (Ne.symm hit)
        by_cases here : name = first
        · simp [Gauge.add, hit, here]
        · have apart : (name == first) = false := beq_false_of_ne here
          simpa [Gauge.add, Gauge.get, List.lookup_cons, hit, apart, other] using ih

end Gauge

end VolumeImport.Progress
