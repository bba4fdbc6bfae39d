/-!
# Byte strings

Contents of files and bodies of requests are lists of bytes. Placing a piece at an offset
overwrites what is there, fills a gap before it with zeros, and leaves everything else as it is.
-/

namespace BulkTransfer

/-- A byte string. -/
abbrev Bytes := List UInt8

namespace Bytes

/-- The UTF-8 form of a text. -/
def ofText (text : String) : Bytes :=
  text.toList.flatMap String.utf8EncodeChar

/-- Different texts have different UTF-8 forms. -/
theorem ofText_injective {text other : String} (same : ofText text = ofText other) :
    text = other := by
  have encoded (text : String) : (ofText text).toByteArray = text.toByteArray := by
    rw [← String.utf8Encode_toList, List.utf8Encode, ofText]
  rw [← String.toByteArray_inj, ← encoded, ← encoded, same]

/-- The text with the given UTF-8 form, if there is one. -/
def toText? (bytes : Bytes) : Option String :=
  String.fromUTF8? (ByteArray.mk bytes.toArray)

/-- `bytes` with `piece` placed at `offset`. An empty piece changes nothing; a piece beyond the
end is preceded by zeros. -/
def placed (bytes : Bytes) (offset : Nat) (piece : Bytes) : Bytes :=
  if piece.isEmpty then bytes
  else
    bytes.take offset ++ List.replicate (offset - bytes.length) 0 ++ piece ++
      bytes.drop (offset + piece.length)

@[simp]
theorem placed_nil (bytes : Bytes) (offset : Nat) : bytes.placed offset [] = bytes := rfl

@[simp]
theorem nil_placed_zero (piece : Bytes) : placed [] 0 piece = piece := by
  cases piece <;> simp [placed]

/-- The pieces of `size` bytes that a byte string is cut into, the last one perhaps shorter.
Pieces of no bytes are taken as pieces of one. -/
def chunks (size : Nat) (bytes : Bytes) : List Bytes :=
  if _ : bytes = [] then []
  else bytes.take (max size 1) :: chunks size (bytes.drop (max size 1))
termination_by bytes.length
decreasing_by
  have : 0 < bytes.length := List.length_pos_iff.2 ‹_›
  simp only [List.length_drop]
  omega

/-- `window` with bytes written one after the other from a position on, as far as they fit. -/
def overwrite (window : Array UInt8) (position : Nat) : Bytes → Array UInt8
  | [] => window
  | byte :: rest =>
      if position < window.size then
        overwrite (window.setIfInBounds position byte) (position + 1) rest
      else window

/-- `window`, which shows a byte string from `start` on, after `piece` was placed at `offset` of
that byte string. -/
def placedIn (window : Array UInt8) (start offset : Nat) (piece : Bytes) : Array UInt8 :=
  overwrite window (offset - start) (piece.drop (start - offset))

/-- The bytes that a window shows. -/
def ofWindow (window : Array UInt8) : Bytes :=
  window.foldr (fun byte bytes => byte :: bytes) []

/-- The `length` bytes of `bytes` from `offset` on, or as many as there are. -/
def slice (bytes : Bytes) (offset length : Nat) : Bytes :=
  (bytes.drop offset).take length

@[simp]
theorem size_overwrite (window : Array UInt8) (position : Nat) (piece : Bytes) :
    (overwrite window position piece).size = window.size := by
  induction piece generalizing window position with
  | nil => rfl
  | cons byte rest ih =>
      rw [overwrite]
      split
      · rw [ih, Array.size_setIfInBounds]
      · rfl

@[simp]
theorem size_placedIn (window : Array UInt8) (start offset : Nat) (piece : Bytes) :
    (placedIn window start offset piece).size = window.size :=
  size_overwrite ..

theorem getD_overwrite {window : Array UInt8} {i : Nat} (h : i < window.size) (position : Nat)
    (piece : Bytes) :
    (overwrite window position piece)[i]?.getD 0 =
      if position ≤ i ∧ i < position + piece.length then piece[i - position]?.getD 0
      else window[i]?.getD 0 := by
  induction piece generalizing window position with
  | nil =>
      have outside : ¬(position ≤ i ∧ i < position + ([] : Bytes).length) := by
        rw [List.length_nil]
        omega
      rw [overwrite, if_neg outside]
  | cons byte rest ih =>
      rw [overwrite, List.length_cons]
      by_cases inside : position < window.size
      · rw [if_pos inside, ih (by rw [Array.size_setIfInBounds]; exact h),
          Array.getElem?_setIfInBounds]
        by_cases here : position = i
        · subst here
          rw [if_neg (by omega), if_pos rfl, if_pos inside, if_pos (by omega), Nat.sub_self]
          rfl
        · rw [if_neg here]
          by_cases later : position + 1 ≤ i ∧ i < position + 1 + rest.length
          · have next : i - position = i - (position + 1) + 1 := by omega
            rw [if_pos later, if_pos (by omega), next, List.getElem?_cons_succ]
          · rw [if_neg later, if_neg (by omega)]
      · rw [if_neg inside, if_neg (by omega)]

theorem getD_placedIn {window : Array UInt8} {i : Nat} (h : i < window.size)
    (start offset : Nat) (piece : Bytes) :
    (placedIn window start offset piece)[i]?.getD 0 =
      if offset ≤ start + i ∧ start + i < offset + piece.length then
        piece[start + i - offset]?.getD 0
      else window[i]?.getD 0 := by
  rw [placedIn, getD_overwrite h, List.length_drop, List.getElem?_drop]
  by_cases inside : offset ≤ start + i ∧ start + i < offset + piece.length
  · have same : start - offset + (i - (offset - start)) = start + i - offset := by omega
    rw [if_pos inside, if_pos (by omega), same]
  · rw [if_neg inside, if_neg (by omega)]

theorem getD_placed (bytes : Bytes) (offset : Nat) (piece : Bytes) (i : Nat) :
    (bytes.placed offset piece)[i]?.getD 0 =
      if offset ≤ i ∧ i < offset + piece.length then piece[i - offset]?.getD 0
      else bytes[i]?.getD 0 := by
  by_cases none : piece = []
  · subst none
    rw [placed_nil, if_neg (by rw [List.length_nil]; omega)]
  · have front : (bytes.take offset ++ List.replicate (offset - bytes.length) 0).length =
        offset := by
      rw [List.length_append, List.length_take, List.length_replicate]
      omega
    rw [placed, if_neg (by rw [List.isEmpty_iff]; exact none), List.getElem?_append,
      List.length_append, front, List.getElem?_append, front]
    by_cases before : i < offset
    · rw [if_pos (by omega), if_pos before, if_neg (by omega), List.getElem?_append,
        List.length_take]
      by_cases inside : i < bytes.length
      · rw [if_pos (by omega), List.getElem?_take, if_pos before]
      · rw [if_neg (by omega), List.getElem?_replicate, if_pos (by omega),
          List.getElem?_eq_none (by omega)]
        rfl
    · by_cases within : i < offset + piece.length
      · rw [if_pos within, if_neg before, if_pos (by omega)]
      · have same : offset + piece.length + (i - (offset + piece.length)) = i := by omega
        rw [if_neg within, if_neg (by omega), List.getElem?_drop, same]

theorem toList_window (window : Array UInt8) : ofWindow window = window.toList := by
  rw [ofWindow, Array.foldr_cons_eq_append' rfl, List.append_nil]

theorem length_placed (bytes : Bytes) (offset : Nat) (piece : Bytes) (h : piece ≠ []) :
    (bytes.placed offset piece).length = max bytes.length (offset + piece.length) := by
  simp only [placed, List.isEmpty_iff, h, if_false, List.length_append, List.length_take,
    List.length_replicate, List.length_drop]
  omega

end Bytes
end BulkTransfer
