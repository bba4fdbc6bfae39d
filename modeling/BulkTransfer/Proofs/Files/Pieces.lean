import BulkTransfer.Bytes
import Mathlib.Tactic.Lemma

/-!
# Files put together from pieces

A file comes to be a whole from pieces of it that are written in any order, each where it belongs.
What the file has of the whole it keeps (`Bytes.Covers.placed`), it never gets longer than the whole
(`Bytes.length_placed_slice`), and once it has every byte it is the whole (`Bytes.eq_of_covers`).
-/

namespace BulkTransfer.Bytes

variable {whole file : Bytes} {first stop offset length : Nat}

/-- Whether a file has the bytes of a whole from `first` up to `stop`. -/
def Covers (whole file : Bytes) (first stop : Nat) : Prop :=
  ∀ i, first ≤ i → i < stop → ∃ byte, file[i]? = some byte ∧ whole[i]? = some byte

lemma covers_empty (whole file : Bytes) (first : Nat) : Covers whole file first first :=
  fun _ from_ upTo => absurd upTo (Nat.not_lt.2 from_)

lemma getElem?_slice {i : Nat} (within : i < length) (bytes : Bytes) (offset : Nat) :
    (bytes.slice offset length)[i]? = bytes[offset + i]? := by
  rw [slice, List.getElem?_take, if_pos within, List.getElem?_drop]

lemma length_slice (inside : offset + length ≤ whole.length) :
    (whole.slice offset length).length = length := by
  rw [slice, List.length_take, List.length_drop]
  omega

lemma slice_eq_nil_iff (inside : offset + length ≤ whole.length) :
    whole.slice offset length = [] ↔ length = 0 := by
  rw [← List.length_eq_zero_iff, length_slice inside]

lemma take_slice (bytes : Bytes) (offset length count : Nat) :
    (bytes.slice offset length).take count = bytes.slice offset (min count length) :=
  List.take_take

lemma extract_toList (content : Array UInt8) (first stop : Nat) :
    (content.extract first stop).toList = slice content.toList first (stop - first) := by
  rw [Array.toList_extract, List.extract_eq_take_drop, slice]

/-- What stands at a place that a piece was written to. -/
lemma getElem?_placed_inside {bytes piece : Bytes} {i : Nat} (from_ : offset ≤ i)
    (upTo : i < offset + piece.length) : (bytes.placed offset piece)[i]? = piece[i - offset]? := by
  have filled : piece ≠ [] := by
    rintro rfl
    rw [List.length_nil] at upTo
    omega
  have read := getD_placed bytes offset piece i
  have longEnough : i < (bytes.placed offset piece).length := by
    rw [length_placed bytes offset piece filled]
    omega
  rw [if_pos ⟨from_, upTo⟩] at read
  rw [List.getElem?_eq_getElem longEnough, List.getElem?_eq_getElem (by omega)] at read ⊢
  exact congrArg some read

/-- What stands at a place beside a piece that was written. -/
lemma getElem?_placed_outside {bytes piece : Bytes} {i : Nat} (held : i < bytes.length)
    (beside : ¬(offset ≤ i ∧ i < offset + piece.length)) :
    (bytes.placed offset piece)[i]? = bytes[i]? := by
  by_cases filled : piece = []
  · rw [filled, placed_nil]
  have read := getD_placed bytes offset piece i
  have longEnough : i < (bytes.placed offset piece).length := by
    rw [length_placed bytes offset piece filled]
    omega
  rw [if_neg beside] at read
  rw [List.getElem?_eq_getElem longEnough, List.getElem?_eq_getElem held] at read ⊢
  exact congrArg some read

section

variable (inside : offset + length ≤ whole.length)
include inside

/-- The bytes of a piece are those of the whole. -/
lemma covers_placed_slice (file : Bytes) :
    Covers whole (file.placed offset (whole.slice offset length)) offset (offset + length) := by
  intro i from_ upTo
  have read : (file.placed offset (whole.slice offset length))[i]? =
      (whole.slice offset length)[i - offset]? :=
    getElem?_placed_inside from_ (by rw [length_slice inside]; exact upTo)
  have present : i < whole.length := by omega
  rw [getElem?_slice (by omega), Nat.add_sub_cancel' from_] at read
  exact ⟨whole[i], by rw [read, List.getElem?_eq_getElem], List.getElem?_eq_getElem present⟩

/-- A file keeps what it has of the whole when a piece of the whole is written to it. -/
theorem Covers.placed (covers : Covers whole file first stop) :
    Covers whole (file.placed offset (whole.slice offset length)) first stop := by
  intro i from_ upTo
  by_cases within : offset ≤ i ∧ i < offset + length
  · exact covers_placed_slice inside file i within.1 within.2
  · obtain ⟨byte, held, same⟩ := covers i from_ upTo
    have longEnough : i < file.length := (List.getElem?_eq_some_iff.1 held).1
    refine ⟨byte, ?_, same⟩
    rw [getElem?_placed_outside longEnough (by rw [length_slice inside]; exact within), held]

/-- A piece goes on from what the file has of the whole. -/
lemma Covers.extended (covers : Covers whole file first offset) :
    Covers whole (file.placed offset (whole.slice offset length)) first (offset + length) := by
  intro i from_ upTo
  by_cases before : i < offset
  · exact covers.placed inside i from_ before
  · exact covers_placed_slice inside file i (Nat.le_of_not_lt before) upTo

theorem length_placed_slice (short : file.length ≤ whole.length) :
    (file.placed offset (whole.slice offset length)).length ≤ whole.length := by
  by_cases filled : whole.slice offset length = []
  · rw [filled, placed_nil]
    exact short
  · rw [length_placed _ _ _ filled, length_slice inside]
    omega

end

/-- A file that has every byte of a whole, and is not longer, is the whole. -/
theorem eq_of_covers (short : file.length ≤ whole.length)
    (all : ∀ i, i < whole.length → ∃ first stop, first ≤ i ∧ i < stop ∧
      Covers whole file first stop) : file = whole := by
  apply List.ext_getElem?
  intro i
  by_cases held : i < whole.length
  · obtain ⟨first, stop, from_, upTo, covers⟩ := all i held
    obtain ⟨byte, has, same⟩ := covers i from_ upTo
    rw [has, same]
  · rw [List.getElem?_eq_none (by omega), List.getElem?_eq_none (by omega)]

end BulkTransfer.Bytes
