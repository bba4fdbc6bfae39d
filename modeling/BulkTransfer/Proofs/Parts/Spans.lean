import BulkTransfer.Proofs.Planning

/-!
# Spans of the parts

The parts that a size is cut into follow one another without a gap, and the last of them ends where
the size does (`PartSpan.end_ofIndex`). A store that is asked for the range of a part reads the
header back (`PartSpan.readHeader?_openHeader`); as the range of the last part has no end, every
byte of an object is in the range of some part, whatever the size was thought to be
(`PartSpan.exists_inRange`).
-/

namespace BulkTransfer

/-- A part is one of those needed when it begins before the end. -/
lemma lt_partsNeeded_iff {size chunksize index : Nat} (cut : 0 < chunksize) :
    index < partsNeeded size chunksize ↔ index * chunksize < size := by
  rw [partsNeeded, if_neg (Nat.ne_of_gt cut), Nat.lt_iff_add_one_le, Nat.le_div_iff_mul_le cut,
    Nat.add_mul]
  omega

namespace PartSpan

variable {size chunksize index : Nat}

lemma first_ofIndex (size chunksize index : Nat) :
    (ofIndex size chunksize index).first = index * chunksize := rfl

/-- A part ends where the next one begins, and the last one where the size ends. -/
theorem end_ofIndex (cut : 0 < chunksize) (bounded : size < Word.bound64)
    (inside : index < partsNeeded size chunksize) :
    (ofIndex size chunksize index).last + 1 = min ((index + 1) * chunksize) size := by
  have begins := (lt_partsNeeded_iff cut).1 inside
  have largest : size ≤ Word.largest64 := Nat.le_sub_one_of_lt bounded
  have next : (index + 1) * chunksize = index * chunksize + chunksize := Nat.add_one_mul ..
  have last : (ofIndex size chunksize index).last =
      min (min (index * chunksize + chunksize) Word.largest64) size - 1 := rfl
  rw [last, next]
  omega

/-- The part that ends where the size does is the last one. -/
lemma isFinal_ofIndex_iff (cut : 0 < chunksize) (bounded : size < Word.bound64)
    (inside : index < partsNeeded size chunksize) :
    (ofIndex size chunksize index).isFinal = true ↔ index + 1 = partsNeeded size chunksize := by
  have ends := end_ofIndex cut bounded inside
  have another : index + 1 < partsNeeded size chunksize ↔ (index + 1) * chunksize < size :=
    lt_partsNeeded_iff cut
  have final : (ofIndex size chunksize index).isFinal =
      decide ((ofIndex size chunksize index).last + 1 = size) := rfl
  rw [final, decide_eq_true_iff, ends]
  omega

/-- Every part but the last one has as many bytes as the chunks. -/
lemma length_of_not_isFinal (cut : 0 < chunksize) (bounded : size < Word.bound64)
    (inside : index < partsNeeded size chunksize)
    (another : (ofIndex size chunksize index).isFinal = false) :
    index + 1 < partsNeeded size chunksize ∧ (ofIndex size chunksize index).length = chunksize := by
  have ends := end_ofIndex cut bounded inside
  have more : index + 1 < partsNeeded size chunksize := by
    refine Nat.lt_of_le_of_ne inside fun last => ?_
    rw [(isFinal_ofIndex_iff cut bounded inside).2 last] at another
    cases another
  have next := (lt_partsNeeded_iff cut).1 more
  have step : (index + 1) * chunksize = index * chunksize + chunksize := Nat.add_one_mul ..
  refine ⟨more, ?_⟩
  rw [length, first_ofIndex]
  omega

/-- Where the range of a part ends in an object with the given length. -/
def stopIn (range : PartSpan) (length : Nat) : Nat :=
  if range.isFinal then length else min (range.last + 1) length

lemma stopIn_le (range : PartSpan) (length : Nat) : range.stopIn length ≤ length := by
  unfold stopIn
  split
  · exact Nat.le_refl length
  · exact Nat.min_le_right ..

lemma dash_notMem_digits (n : Nat) : '-' ∉ Decimal.digits n := by
  intro present
  have digit : ('-' : Char).isDigit = true :=
    Nat.isDigit_of_mem_toDigits (by decide) (by decide) present
  exact absurd digit (by decide)

/-- What is asked for between the numbers of a header. -/
lemma readHeader?_eq {header : String} {first : Nat} {rest : List Char}
    (text : header.toList = "bytes=".toList ++ (Decimal.digits first ++ '-' :: rest))
    (bounded : first < Word.bound64) (length : Nat) :
    readHeader? header length =
      (if rest.isEmpty then some length else
        (Decimal.read64? rest).map fun last => min (min (last + 1) Word.largest64) length).bind
          fun stop => if first ≤ stop then some (first, stop) else none := by
  have body := Text.after?_eq_some.2 text
  have parts := Text.cut?_append rest (dash_notMem_digits first)
  simp only [readHeader?, body, parts, Decimal.read64?_digits bounded, bind, Option.bind_some]
  split <;> rfl

lemma toList_boundedHeader (range : PartSpan) :
    range.boundedHeader.toList =
      "bytes=".toList ++ (Decimal.digits range.first ++ '-' :: Decimal.digits range.last) := by
  simp [boundedHeader, Decimal.digits]

lemma isEmpty_digits (n : Nat) : (Decimal.digits n).isEmpty = false :=
  List.isEmpty_eq_false_iff.2 Nat.toDigits_ne_nil

/-- The header with both ends asks for the range as far as the object goes. -/
lemma readHeader?_boundedHeader {range : PartSpan} (bounded : range.first < Word.bound64)
    (below : range.last + 1 < Word.bound64) (length : Nat) :
    readHeader? range.boundedHeader length =
      if range.first ≤ min (range.last + 1) length then
        some (range.first, min (range.last + 1) length)
      else none := by
  have largest : min (range.last + 1) Word.largest64 = range.last + 1 :=
    Nat.min_eq_left (Nat.le_sub_one_of_lt below)
  rw [readHeader?_eq range.toList_boundedHeader bounded, isEmpty_digits,
    Decimal.read64?_digits (by omega), Option.map_some, largest]
  rfl

/-- The header of a part asks for its range as far as the object goes. -/
theorem readHeader?_openHeader {range : PartSpan} (bounded : range.first < Word.bound64)
    (below : range.last + 1 < Word.bound64) (length : Nat) :
    readHeader? range.openHeader length =
      if range.first ≤ range.stopIn length then some (range.first, range.stopIn length)
      else none := by
  unfold openHeader stopIn
  by_cases final : range.isFinal
  · rw [if_pos final, if_pos final]
    rw [@readHeader?_eq _ range.first [] (by simp [Decimal.digits]) bounded]
    rfl
  · rw [if_neg final, if_neg final]
    exact readHeader?_boundedHeader bounded below length

lemma readHeader?_ofIndex (cut : 0 < chunksize) (bounded : size < Word.bound64)
    (inside : index < partsNeeded size chunksize) (length : Nat) :
    readHeader? (ofIndex size chunksize index).openHeader length =
      if index * chunksize ≤ (ofIndex size chunksize index).stopIn length then
        some (index * chunksize, (ofIndex size chunksize index).stopIn length)
      else none := by
  have begins := (lt_partsNeeded_iff cut).1 inside
  have ends := end_ofIndex cut bounded inside
  exact readHeader?_openHeader (by rw [first_ofIndex]; omega) (by omega) length

/-- Every byte of an object is in the range of a part. -/
theorem exists_inRange {length i : Nat} (cut : 0 < chunksize) (bounded : size < Word.bound64)
    (sized : 0 < size) (held : i < length) :
    ∃ index, index < partsNeeded size chunksize ∧
      (ofIndex size chunksize index).first ≤ i ∧
        i < (ofIndex size chunksize index).stopIn length := by
  have several := Limits.partsNeeded_pos sized cut
  by_cases within : i / chunksize < partsNeeded size chunksize
  · refine ⟨i / chunksize, within, Nat.div_mul_le_self i chunksize, ?_⟩
    have ends := end_ofIndex cut bounded within
    have before := Nat.lt_div_mul_add cut (a := i)
    have next : (i / chunksize + 1) * chunksize = i / chunksize * chunksize + chunksize :=
      Nat.add_one_mul ..
    unfold stopIn
    split
    · exact held
    · next unfinished =>
        have final : (ofIndex size chunksize (i / chunksize)).isFinal =
            decide ((ofIndex size chunksize (i / chunksize)).last + 1 = size) := rfl
        rw [final, decide_eq_true_iff] at unfinished
        omega
  · refine ⟨partsNeeded size chunksize - 1, by omega, ?_, ?_⟩
    · rw [first_ofIndex]
      have few : partsNeeded size chunksize - 1 ≤ i / chunksize := by omega
      exact Nat.le_trans (Nat.mul_le_mul_right chunksize few) (Nat.div_mul_le_self i chunksize)
    · have final : (ofIndex size chunksize (partsNeeded size chunksize - 1)).isFinal = true :=
        (isFinal_ofIndex_iff cut bounded (by omega)).2 (by omega)
      rw [stopIn, if_pos final]
      exact held

/-- Whether spans follow each other without a gap or an overlap, from a first byte to the one before
`stop`, and none of them is empty. -/
inductive Tiles : Nat → List PartSpan → Nat → Prop where
  | nil (stop : Nat) : Tiles stop [] stop
  | cons {span : PartSpan} {rest : List PartSpan} {stop : Nat} (filled : span.first ≤ span.last)
      (others : Tiles (span.last + 1) rest stop) : Tiles span.first (span :: rest) stop

/-- The parts from one index on cover what is left of the size. -/
lemma tiles_of_range' (cut : 0 < chunksize) (bounded : size < Word.bound64) (index count : Nat)
    (all : index + count = partsNeeded size chunksize) :
    Tiles (min (index * chunksize) size)
      ((List.range' index count).map (ofIndex size chunksize)) size := by
  induction count generalizing index with
  | zero =>
      have last : ¬index < partsNeeded size chunksize := by omega
      rw [lt_partsNeeded_iff cut] at last
      rw [Nat.min_eq_right (Nat.le_of_not_lt last)]
      exact .nil size
  | succ count ih =>
      have inside : index < partsNeeded size chunksize := by omega
      have begins := (lt_partsNeeded_iff cut).1 inside
      have ends := end_ofIndex cut bounded inside
      have next : (index + 1) * chunksize = index * chunksize + chunksize := Nat.add_one_mul ..
      have others := ih (index + 1) (by omega)
      rw [← ends] at others
      rw [Nat.min_eq_left (Nat.le_of_lt begins)]
      exact .cons (by rw [first_ofIndex]; omega) others

/-- The parts cover the size. -/
lemma tiles_all (cut : 0 < chunksize) (bounded : size < Word.bound64) :
    Tiles 0 ((List.range' 0 (partsNeeded size chunksize)).map (ofIndex size chunksize)) size := by
  have all := tiles_of_range' cut bounded 0 (partsNeeded size chunksize) (Nat.zero_add _)
  rwa [Nat.zero_mul, Nat.zero_min] at all

/-- Spans that follow each other cut out of a content, put together: what the content has from the
first byte on, of full length if the cut-out pieces are. -/
lemma Tiles.assembled {content : Bytes} {start stop : Nat} {spans : List PartSpan}
    (tiles : Tiles start spans stop)
    (full : ∀ span ∈ spans, (content.slice span.first span.length).length = span.length) :
    start ≤ stop ∧ (content.slice start (stop - start)).length = stop - start ∧
      (spans.map fun span => content.slice span.first span.length).flatten =
        content.slice start (stop - start) := by
  induction tiles with
  | nil stop => simp [Bytes.slice]
  | @cons span rest stop filled others ih =>
      obtain ⟨order, length, rest⟩ := ih fun other present => full other (.tail span present)
      have first := full span List.mem_cons_self
      have whole : stop - span.first = span.length + (stop - (span.last + 1)) := by
        rw [PartSpan.length]
        omega
      have after : span.first + span.length = span.last + 1 := by
        rw [PartSpan.length]
        omega
      have joined : content.slice span.first (stop - span.first) =
          content.slice span.first span.length ++
            content.slice (span.last + 1) (stop - (span.last + 1)) := by
        rw [whole, Bytes.slice, List.take_add, List.drop_drop, after]
        rfl
      refine ⟨by omega, ?_, ?_⟩
      · rw [joined, List.length_append, first, length, whole]
      · rw [List.map_cons, List.flatten_cons, rest, joined]

end PartSpan
end BulkTransfer
