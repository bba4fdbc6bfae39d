import BulkTransfer.Proofs.Parts.Spans
import Mathlib.Algebra.Group.Nat.Defs
import Mathlib.Logic.ExistsUnique

/-!
# Cutting in words

The span of a part is computed from words of 32 and 64 bits. Each step of that computation fits its
word, so that nothing is lost on the way (`PartSpan.inWords?_ofIndex`), although the end of the last
part may be beyond the largest word before it is cut at the size.

The spans are a partition of the bytes (`PartSpan.partition_of_count`): the first one begins at
zero, each other one after the byte at which the one before it ends, and the last one ends at the
last byte. Both headers of a span are read back as the bytes of the span when the object has the
size that was cut.
-/

namespace BulkTransfer

namespace Word

/-- The result of a step of arithmetic that has to stay below a bound. -/
def fit? (bound n : Nat) : Option Nat :=
  if n < bound then some n else none

/-- A difference that must not go below zero. -/
def less? (n m : Nat) : Option Nat :=
  if m ≤ n then some (n - m) else none

lemma fit?_of_lt {bound n : Nat} (fits : n < bound) : fit? bound n = some n :=
  if_pos fits

lemma less?_of_le {n m : Nat} (below : m ≤ n) : less? n m = some (n - m) :=
  if_pos below

end Word

namespace PartSpan

variable {size chunksize index : Nat}

/-- The span of a part as it is computed in words, if each step fits its word. Only the end of the
part is kept at the largest word when it would be beyond. -/
def inWords? (size chunksize index : Nat) : Option PartSpan := do
  let first ← Word.fit? Word.bound64 (index * chunksize)
  let last ← Word.less? (min (min (first + chunksize) Word.largest64) size) 1
  let number ← Word.fit? Word.bound32 (index + 1)
  let stop ← Word.fit? Word.bound64 (last + 1)
  return ⟨number, first, last, stop = size⟩

/-- The number of bytes in a span as it is computed in words, if each step fits its word. -/
def lengthInWords? (span : PartSpan) : Option Nat := do
  let distance ← Word.less? span.last span.first
  Word.fit? Word.bound64 (distance + 1)

section

variable (cut : 0 < chunksize) (bounded : size < Word.bound64)
  (inside : index < partsNeeded size chunksize)

include cut bounded inside

/-- A part has at least one byte, and no more than the chunks. -/
lemma length_ofIndex_within :
    (ofIndex size chunksize index).first ≤ (ofIndex size chunksize index).last ∧
      (ofIndex size chunksize index).last < size ∧
      1 ≤ (ofIndex size chunksize index).length ∧
      (ofIndex size chunksize index).length ≤ chunksize := by
  have begins := (lt_partsNeeded_iff cut).1 inside
  have ends := end_ofIndex cut bounded inside
  have next : (index + 1) * chunksize = index * chunksize + chunksize := Nat.add_one_mul ..
  rw [length, first_ofIndex]
  omega

/-- No step of the computation of a span is lost when the parts can be numbered. -/
theorem inWords?_ofIndex (countable : partsNeeded size chunksize < Word.bound32) :
    inWords? size chunksize index = some (ofIndex size chunksize index) := by
  have begins := (lt_partsNeeded_iff cut).1 inside
  obtain ⟨-, ends, -, -⟩ := length_ofIndex_within cut bounded inside
  have first := Word.fit?_of_lt (Nat.lt_trans begins bounded)
  -- Before the last byte is taken from it, the end is above the first byte and so above zero.
  have above : 1 ≤ min (min (index * chunksize + chunksize) Word.largest64) size := by
    have largest : size ≤ Word.largest64 := Nat.le_sub_one_of_lt bounded
    omega
  have last := Word.less?_of_le above
  have number := Word.fit?_of_lt (Nat.lt_of_le_of_lt (Nat.succ_le_of_lt inside) countable)
  have stop : Word.fit? Word.bound64
      (min (min (index * chunksize + chunksize) Word.largest64) size - 1 + 1) = some _ :=
    Word.fit?_of_lt (Nat.lt_of_le_of_lt (Nat.succ_le_of_lt ends) bounded)
  simp only [inWords?, first, last, number, stop, bind, Option.bind_some]
  rfl

/-- Nor is a step of the computation of its length. -/
lemma lengthInWords?_ofIndex :
    (ofIndex size chunksize index).lengthInWords? =
      some (ofIndex size chunksize index).length := by
  obtain ⟨order, ends, -, -⟩ := length_ofIndex_within cut bounded inside
  have distance := Word.less?_of_le order
  have number : (ofIndex size chunksize index).last - (ofIndex size chunksize index).first + 1 <
      Word.bound64 := by omega
  simp only [lengthInWords?, distance, bind, Option.bind_some]
  exact Word.fit?_of_lt number

/-- Both headers of a span ask for its bytes in an object of the size that was cut. -/
lemma readHeader?_ofIndex_self :
    readHeader? (ofIndex size chunksize index).boundedHeader size =
        some ((ofIndex size chunksize index).first, (ofIndex size chunksize index).last + 1) ∧
      readHeader? (ofIndex size chunksize index).openHeader size =
        some ((ofIndex size chunksize index).first, (ofIndex size chunksize index).last + 1) := by
  obtain ⟨order, ends, -, -⟩ := length_ofIndex_within cut bounded inside
  have bounded_first : (ofIndex size chunksize index).first < Word.bound64 := by omega
  have below : (ofIndex size chunksize index).last + 1 < Word.bound64 := by omega
  have stops : (ofIndex size chunksize index).stopIn size =
      (ofIndex size chunksize index).last + 1 := by
    unfold stopIn
    by_cases final : (ofIndex size chunksize index).isFinal
    · -- the final span is the one that ends with the size
      rw [if_pos final]
      exact (of_decide_eq_true final).symm
    · rw [if_neg final]
      omega
  constructor
  · rw [readHeader?_boundedHeader bounded_first below, Nat.min_eq_left ends]
    exact if_pos (by omega)
  · rw [readHeader?_openHeader bounded_first below, stops]
    exact if_pos (by omega)

end

section

variable (cut : 0 < chunksize) (bounded : size < Word.bound64)

include cut bounded

/-- Each part but the first begins after the byte at which the one before it ends. -/
lemma first_ofIndex_succ (more : index + 1 < partsNeeded size chunksize) :
    (ofIndex size chunksize (index + 1)).first = (ofIndex size chunksize index).last + 1 := by
  have begins := (lt_partsNeeded_iff cut).1 more
  rw [end_ofIndex cut bounded (Nat.lt_of_succ_lt more), first_ofIndex]
  omega

/-- The last part ends at the last byte. -/
lemma last_ofIndex_final (inside : index < partsNeeded size chunksize)
    (final : index + 1 = partsNeeded size chunksize) :
    (ofIndex size chunksize index).last = size - 1 := by
  have ends : (ofIndex size chunksize index).last + 1 = size :=
    of_decide_eq_true ((isFinal_ofIndex_iff cut bounded inside).2 final)
  omega

/-- Every byte is in exactly one span. -/
lemma exists_unique_span {place : Nat} (within : place < size) :
    ∃! index, index < partsNeeded size chunksize ∧
      (ofIndex size chunksize index).first ≤ place ∧
        place ≤ (ofIndex size chunksize index).last := by
  have before := Nat.div_mul_le_self place chunksize
  have after := Nat.lt_div_mul_add cut (a := place)
  have inside : place / chunksize < partsNeeded size chunksize :=
    (lt_partsNeeded_iff cut).2 (Nat.lt_of_le_of_lt before within)
  have ends := end_ofIndex cut bounded inside
  have next : (place / chunksize + 1) * chunksize = place / chunksize * chunksize + chunksize :=
    Nat.add_one_mul ..
  refine ⟨place / chunksize, ⟨inside, before, by omega⟩, ?_⟩
  rintro index ⟨also_inside, begins, holds⟩
  have also_ends := end_ofIndex cut bounded also_inside
  have below : place < (index + 1) * chunksize := by omega
  exact (Nat.div_eq_of_lt_le begins below).symm

end

/-- A size that is cut into parts that can be numbered is partitioned by their spans. Each span is
computed without a step that does not fit its word, and so is its length. The parts are numbered
from one on, and exactly the last of them is marked as the final one; each other one is as long as
the chunks, and the final one has between one byte and as many as they have. Both headers of a span
are read back as its first byte and the byte after its last one. -/
theorem partition_of_count (sized : 1 ≤ size) (bounded : size < Word.bound64)
    (cut : 1 ≤ chunksize) (countable : partsNeeded size chunksize < Word.bound32) :
    (∀ index < partsNeeded size chunksize,
      let span := ofIndex size chunksize index
      inWords? size chunksize index = some span ∧
        span.lengthInWords? = some span.length ∧
        span.number = index + 1 ∧
        (span.isFinal = true ↔ index + 1 = partsNeeded size chunksize) ∧
        (span.isFinal = false → span.length = chunksize) ∧
        1 ≤ span.length ∧ span.length ≤ chunksize ∧
        readHeader? span.boundedHeader size = some (span.first, span.last + 1) ∧
        readHeader? span.openHeader size = some (span.first, span.last + 1)) ∧
      0 < partsNeeded size chunksize ∧
      (ofIndex size chunksize 0).first = 0 ∧
      (∀ index, index + 1 < partsNeeded size chunksize →
        (ofIndex size chunksize (index + 1)).first = (ofIndex size chunksize index).last + 1) ∧
      (ofIndex size chunksize (partsNeeded size chunksize - 1)).last = size - 1 ∧
      ∀ place < size, ∃! index, index < partsNeeded size chunksize ∧
        (ofIndex size chunksize index).first ≤ place ∧
          place ≤ (ofIndex size chunksize index).last := by
  have several := Limits.partsNeeded_pos sized cut
  refine ⟨?_, several, Nat.zero_mul chunksize, ?_, ?_, ?_⟩
  · intro index inside span
    obtain ⟨-, -, filled, short⟩ := length_ofIndex_within cut bounded inside
    obtain ⟨closed, opened⟩ := readHeader?_ofIndex_self cut bounded inside
    refine ⟨inWords?_ofIndex cut bounded inside countable,
      lengthInWords?_ofIndex cut bounded inside, rfl, isFinal_ofIndex_iff cut bounded inside, ?_,
      filled, short, closed, opened⟩
    intro another
    exact (length_of_not_isFinal cut bounded inside another).2
  · intro index more
    exact first_ofIndex_succ cut bounded more
  · apply last_ofIndex_final cut bounded
    · omega
    · omega
  · intro place within
    exact exists_unique_span cut bounded within

/-- The largest size in chunks of eight gibibytes: the end of the last part is beyond the largest
word before it is cut at the size. -/
theorem partition_of_largest :
    partsNeeded Word.largest64 (2 ^ 33) = 2 ^ 31 ∧
      Word.largest64 < (2 ^ 31 - 1) * 2 ^ 33 + 2 ^ 33 ∧
      inWords? Word.largest64 (2 ^ 33) (2 ^ 31 - 1) =
        some ⟨2 ^ 31, (2 ^ 31 - 1) * 2 ^ 33, Word.largest64 - 1, true⟩ := by
  have count : partsNeeded Word.largest64 (2 ^ 33) = 2 ^ 31 := by decide
  have countable : partsNeeded Word.largest64 (2 ^ 33) < Word.bound32 := by rw [count]; decide
  have parts := (partition_of_count (by decide) (by decide) (by decide) countable).1
  obtain ⟨computed, -⟩ := parts (2 ^ 31 - 1) (by rw [count]; decide)
  exact ⟨count, by decide, computed.trans (by decide)⟩

end PartSpan
end BulkTransfer
