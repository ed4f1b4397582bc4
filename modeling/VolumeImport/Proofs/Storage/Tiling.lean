import Mathlib.Algebra.Order.Ring.Int
import Mathlib.Data.List.Forall2
import VolumeImport.Storage.Zeroing

/-!
The sweeps of the zero tool as a tiling. They cover the bytes from the start of the volume up to its size,
each byte once and nothing behind it. The same sweeps come out in signed words of 64 bits, because no
product and no sum on the way leaves such a word.
-/

namespace VolumeImport.Zeroing

def Sweep.Writes (sweep : Sweep) (position : Nat) : Prop :=
  sweep.offset ≤ position ∧ position < sweep.offset + sweep.blockSize * sweep.count

theorem Sweep.writes_iff (sweep : Sweep) (position : Nat) :
    sweep.Writes position ↔ sweep.offset ≤ position ∧ position < sweep.offset + sweep.length :=
  Iff.rfl

/-- The sweeps follow one another without a gap, from one position up to the other, and none is empty. -/
def Tiles : Nat → List Sweep → Nat → Prop
  | start, [], stop => start = stop
  | start, sweep :: rest, stop =>
      sweep.offset = start ∧ 0 < sweep.length ∧ Tiles (start + sweep.length) rest stop

theorem tiles_le {row : List Sweep} {start stop : Nat} (tiled : Tiles start row stop) :
    start ≤ stop := by
  induction row generalizing start with
  | nil => exact Nat.le_of_eq tiled
  | cons sweep rest ih =>
      have behind := ih tiled.2.2
      omega

theorem tiles_within {row : List Sweep} {start stop : Nat} (tiled : Tiles start row stop) :
    ∀ sweep ∈ row, 0 < sweep.length ∧ sweep.offset + sweep.length ≤ stop := by
  induction row generalizing start with
  | nil => simp
  | cons first rest ih =>
      obtain ⟨at_start, some_bytes, onward⟩ := tiled
      have behind := tiles_le onward
      intro sweep member
      cases member with
      | head => exact ⟨some_bytes, by omega⟩
      | tail _ later => exact ih onward sweep later

theorem tiles_offset {row : List Sweep} {start stop : Nat} (tiled : Tiles start row stop)
    (index : Nat) (sweep : Sweep) (found : row[index]? = some sweep) :
    sweep.offset = start + ((row.take index).map Sweep.length).sum := by
  induction row generalizing start index with
  | nil => simp at found
  | cons first rest ih =>
      cases index with
      | zero =>
          obtain rfl : first = sweep := by simpa using found
          simpa using tiled.1
      | succ index =>
          rw [ih tiled.2.2 index (by simpa using found)]
          simp [Nat.add_assoc]

theorem tiles_writes {row : List Sweep} {start stop : Nat} (tiled : Tiles start row stop)
    (position : Nat) :
    (∃ sweep ∈ row, sweep.Writes position) ↔ start ≤ position ∧ position < stop := by
  induction row generalizing start with
  | nil =>
      obtain rfl : start = stop := tiled
      simp
  | cons first rest ih =>
      obtain ⟨at_start, -, onward⟩ := tiled
      have behind := tiles_le onward
      have later := ih onward
      simp only [List.mem_cons, exists_eq_or_imp, later]
      simp only [Sweep.writes_iff, at_start]
      omega

theorem tiles_apart {row : List Sweep} {start stop : Nat} (tiled : Tiles start row stop) :
    row.Pairwise fun left right => ∀ position, left.Writes position → ¬ right.Writes position := by
  induction row generalizing start with
  | nil => exact List.Pairwise.nil
  | cons first rest ih =>
      obtain ⟨at_start, -, onward⟩ := tiled
      refine List.Pairwise.cons ?_ (ih onward)
      intro later member position here there
      have beyond := ((tiles_writes onward position).mp ⟨later, member, there⟩).1
      have before := ((first.writes_iff position).mp here).2
      omega

theorem sweeps_tile (size : Int) : Tiles 0 (sweeps size) size.toNat := by
  simp only [sweeps, chunk]
  by_cases chunks : 0 < size.toNat / 1048576 <;> by_cases rest : 0 < size.toNat % 1048576 <;>
    simp only [chunks, rest, if_true, if_false, List.cons_append, List.nil_append, Tiles,
      Sweep.length, true_and] <;>
    omega

@[simp] theorem sweeps_eq_nil_iff (size : Int) : sweeps size = [] ↔ size ≤ 0 := by
  have tiled := sweeps_tile size
  constructor
  · intro empty
    rw [empty] at tiled
    have : 0 = size.toNat := tiled
    omega
  · intro none_needed
    have nothing : size.toNat = 0 := by omega
    simp [sweeps, nothing]

/-! ## Signed words -/

structure WordSweep where
  blockSize : Int64
  count : Int64
  offset : Int64

def wordChunk : Int64 := 1048576

/-- The sweeps as signed words give them: a quotient is rounded toward zero, a remainder has the sign of
the size, and a product that is too large wraps around. -/
def wordSweeps (size : Int64) : List WordSweep :=
  let count := size / wordChunk
  let remainder := size % wordChunk
  (if 0 < count then [⟨wordChunk, count, 0⟩] else [])
    ++ (if 0 < remainder then [⟨remainder, 1, count * wordChunk⟩] else [])

/-- The words hold the sweep, and so they do with its length and with its end. -/
structure Holds (words : WordSweep) (sweep : Sweep) : Prop where
  blockSize : words.blockSize.toInt = sweep.blockSize
  count : words.count.toInt = sweep.count
  offset : words.offset.toInt = sweep.offset
  length : (words.blockSize * words.count).toInt = sweep.length
  stop : (words.offset + words.blockSize * words.count).toInt = sweep.offset + sweep.length

theorem toInt_wordChunk : wordChunk.toInt = 1048576 := by
  decide

theorem toInt_mul_of_fits (left right : Int64) (low : -2 ^ 63 ≤ left.toInt * right.toInt)
    (high : left.toInt * right.toInt < 2 ^ 63) :
    (left * right).toInt = left.toInt * right.toInt := by
  rw [Int64.toInt_mul]
  apply Int.bmod_eq_of_le <;> omega

theorem toInt_add_of_fits (left right : Int64) (low : -2 ^ 63 ≤ left.toInt + right.toInt)
    (high : left.toInt + right.toInt < 2 ^ 63) :
    (left + right).toInt = left.toInt + right.toInt := by
  rw [Int64.toInt_add]
  apply Int.bmod_eq_of_le <;> omega

theorem toInt_quotient (size : Int64) :
    (size / wordChunk).toInt =
      if 0 ≤ size.toInt then size.toInt / 1048576 else -(-size.toInt / 1048576) := by
  rw [Int64.toInt_div_of_ne_right _ _ (by decide), toInt_wordChunk]
  split
  · next counts => exact Int.tdiv_eq_ediv_of_nonneg counts
  · next below =>
      have turned : size.toInt.tdiv 1048576 = -((-size.toInt).tdiv 1048576) := by simp
      rw [turned, Int.tdiv_eq_ediv_of_nonneg (by omega)]

theorem toInt_remainder (size : Int64) :
    (size % wordChunk).toInt = size.toInt - (size / wordChunk).toInt * 1048576 := by
  have parts := Int.tdiv_mul_add_tmod size.toInt 1048576
  rw [Int64.toInt_mod, Int64.toInt_div_of_ne_right _ _ (by decide), toInt_wordChunk]
  omega

theorem toNat_quotient (size : Int64) :
    (size / wordChunk).toInt.toNat = size.toInt.toNat / chunk := by
  simp only [toInt_quotient, chunk]
  split <;> omega

theorem toNat_remainder (size : Int64) :
    (size % wordChunk).toInt.toNat = size.toInt.toNat % chunk := by
  simp only [toInt_remainder, toInt_quotient, chunk]
  split <;> omega

theorem toInt_covered (size : Int64) :
    (size / wordChunk * wordChunk).toInt = (size / wordChunk).toInt * wordChunk.toInt := by
  have low := size.le_toInt
  have high := size.toInt_lt
  apply toInt_mul_of_fits <;>
    (rw [toInt_quotient, toInt_wordChunk]; split <;> omega)

theorem pos_iff_toNat (word : Int64) : 0 < word ↔ 0 < word.toInt.toNat := by
  rw [Int64.lt_iff_toInt_lt, Int64.toInt_zero]
  omega

theorem holds_of_fields (words : WordSweep) (sweep : Sweep)
    (blockSize : words.blockSize.toInt = sweep.blockSize) (count : words.count.toInt = sweep.count)
    (offset : words.offset.toInt = sweep.offset) (fits : sweep.offset + sweep.length < 2 ^ 63) :
    Holds words sweep := by
  have length : (words.blockSize * words.count).toInt = sweep.length := by
    have product : words.blockSize.toInt * words.count.toInt = sweep.length := by
      rw [blockSize, count]
      exact (Int.natCast_mul _ _).symm
    rw [toInt_mul_of_fits _ _ (by omega) (by omega), product]
  refine ⟨blockSize, count, offset, length, ?_⟩
  rw [toInt_add_of_fits _ _ (by omega) (by omega), offset, length]

theorem words_hold (size : Int64) : List.Forall₂ Holds (wordSweeps size) (sweeps size.toInt) := by
  have high := size.toInt_lt
  have whole := toNat_quotient size
  have left := toNat_remainder size
  have within : ∀ sweep ∈ sweeps size.toInt, sweep.offset + sweep.length < 2 ^ 63 := by
    intro sweep member
    have bounded := (tiles_within (sweeps_tile size.toInt) sweep member).2
    omega
  simp only [sweeps, List.mem_append] at within
  simp only [wordSweeps, sweeps, pos_iff_toNat, whole, left]
  -- whether there are chunks, and whether something is left, is the same question in words
  apply List.rel_append
  · by_cases chunks : 0 < size.toInt.toNat / chunk
    · have count : (size / wordChunk).toInt = (size.toInt.toNat / chunk : Nat) := by omega
      rw [if_pos chunks] at within ⊢
      rw [if_pos chunks]
      exact .cons (holds_of_fields _ _ toInt_wordChunk count rfl
        (within _ (Or.inl (List.mem_singleton_self _)))) .nil
    · rw [if_neg chunks, if_neg chunks]
      exact .nil
  · by_cases rest : 0 < size.toInt.toNat % chunk
    · have blockSize : (size % wordChunk).toInt = (size.toInt.toNat % chunk : Nat) := by omega
      have counts : 0 ≤ size.toInt := by
        by_contra below
        rw [Int.toNat_of_nonpos (by omega)] at rest
        simp at rest
      have offset : (size / wordChunk * wordChunk).toInt =
          (size.toInt.toNat / chunk * chunk : Nat) := by
        rw [toInt_covered, toInt_wordChunk, toInt_quotient, if_pos counts]
        simp only [chunk]
        omega
      rw [if_pos rest] at within ⊢
      rw [if_pos rest]
      exact .cons (holds_of_fields _ _ blockSize rfl offset
        (within _ (Or.inr (List.mem_singleton_self _)))) .nil
    · rw [if_neg rest, if_neg rest]
      exact .nil

/-- The sweeps write the bytes below a number, each of them once, from the first on and without a gap. -/
structure Fills (row : List Sweep) (bytes : Nat) : Prop where
  nonempty : ∀ sweep ∈ row, 0 < sweep.blockSize * sweep.count
  contiguous : ∀ (index : Nat) sweep, row[index]? = some sweep →
    sweep.offset = ((row.take index).map fun earlier => earlier.blockSize * earlier.count).sum
  disjoint : row.Pairwise fun left right => ∀ position, left.Writes position → ¬ right.Writes position
  covered : ∀ position, (∃ sweep ∈ row, sweep.Writes position) ↔ position < bytes

theorem sweeps_fill (size : Int) : Fills (sweeps size) size.toNat := by
  have tiled := sweeps_tile size
  refine ⟨fun sweep member => (tiles_within tiled sweep member).1, ?_, tiles_apart tiled, ?_⟩
  · intro index sweep found
    exact (tiles_offset tiled index sweep found).trans (Nat.zero_add _)
  · intro position
    simpa using tiles_writes tiled position

end VolumeImport.Zeroing
