import BulkTransfer.Bytes
import BulkTransfer.Time

/-!
# Files

A file is kept as the writes that it was made by, so that a write far beyond the end of a file
costs no more than one at its beginning. What is read of a file is what its content holds there
(`FileData.slice_eq`), and a write places its piece in the content (`FileData.content_write`).
-/

namespace BulkTransfer

/-- A file: what was written to it since it was created or emptied, latest first, and its time
of modification if one was set after the last write. -/
structure FileData where
  writes : List (Nat × Bytes) := []
  modified : Option Time := none
  deriving DecidableEq, Repr

/-- The length of a file's content. -/
def FileData.size (file : FileData) : Nat :=
  file.writes.foldr
    (fun write size => if write.2.isEmpty then size else max size (write.1 + write.2.length)) 0

/-- `length` bytes of a file from `offset` on, or as many as there are. -/
def FileData.slice (file : FileData) (offset length : Nat) : Bytes :=
  match file.writes with
  | [(0, piece)] => piece.slice offset length
  | writes =>
      Bytes.ofWindow
        (writes.foldr (fun write window => Bytes.placedIn window offset write.1 write.2)
          (Array.replicate (min length (file.size - offset)) 0))

/-- The content of a file: its writes placed one over the other. -/
def FileData.content (file : FileData) : Bytes :=
  match file.writes with
  | [(0, piece)] => piece
  | _ => file.slice 0 file.size

/-- A file with one more piece written to it. -/
def FileData.write (file : FileData) (offset : Nat) (piece : Bytes) : FileData :=
  if piece.isEmpty then file else ⟨(offset, piece) :: file.writes, none⟩

theorem FileData.length_foldr (file : FileData) :
    (file.writes.foldr (fun write bytes => Bytes.placed bytes write.1 write.2) []).length =
      file.size := by
  rw [size]
  induction file.writes with
  | nil => rfl
  | cons write writes ih =>
      by_cases h : write.2 = []
      · simp [h, ih]
      · simp [h, ih, Bytes.length_placed]

theorem FileData.size_window (offset reach : Nat) (writes : List (Nat × Bytes)) :
    (writes.foldr (fun write window => Bytes.placedIn window offset write.1 write.2)
      (Array.replicate reach 0)).size = reach := by
  induction writes with
  | nil => exact Array.size_replicate
  | cons write writes ih => rw [List.foldr_cons, Bytes.size_placedIn, ih]

theorem FileData.getD_window {reach i : Nat} (h : i < reach) (offset : Nat)
    (writes : List (Nat × Bytes)) :
    (writes.foldr (fun write window => Bytes.placedIn window offset write.1 write.2)
      (Array.replicate reach 0))[i]?.getD 0 =
    (writes.foldr (fun write bytes => Bytes.placed bytes write.1 write.2) [])[offset + i]?.getD
      0 := by
  induction writes with
  | nil =>
      rw [List.foldr_nil, List.foldr_nil, Array.getElem?_replicate, if_pos h]
      rfl
  | cons write writes ih =>
      rw [List.foldr_cons, List.foldr_cons,
        Bytes.getD_placedIn (by rw [size_window]; exact h), Bytes.getD_placed, ih]

theorem FileData.slice_eq_foldr (file : FileData) (offset length : Nat) :
    file.slice offset length =
      Bytes.slice (file.writes.foldr (fun write bytes => Bytes.placed bytes write.1 write.2) [])
        offset length := by
  have total := file.length_foldr
  unfold slice
  split
  · next piece h => simp [h]
  · have size := size_window offset (min length (file.size - offset)) file.writes
    rw [Bytes.toList_window, Bytes.slice]
    apply List.ext_getElem?
    intro i
    rw [Array.getElem?_toList, List.getElem?_take, List.getElem?_drop]
    by_cases h : i < min length (file.size - offset)
    · have held := getD_window h offset file.writes
      rw [if_pos (by omega)]
      rw [Array.getElem?_eq_getElem (by omega), List.getElem?_eq_getElem (by omega)] at held ⊢
      exact congrArg some held
    · rw [Array.getElem?_eq_none (by omega)]
      split
      · rw [List.getElem?_eq_none (by omega)]
      · rfl

theorem FileData.content_eq_foldr (file : FileData) :
    file.content =
      file.writes.foldr (fun write bytes => Bytes.placed bytes write.1 write.2) [] := by
  unfold content
  split
  · next piece h => simp [h]
  · rw [slice_eq_foldr, Bytes.slice, List.drop_zero, ← length_foldr, List.take_length]

theorem FileData.length_content (file : FileData) : file.content.length = file.size := by
  rw [content_eq_foldr, length_foldr]

/-- What is read of a file is what its content holds there. -/
theorem FileData.slice_eq (file : FileData) (offset length : Nat) :
    file.slice offset length = file.content.slice offset length := by
  rw [slice_eq_foldr, content_eq_foldr]

@[simp]
theorem FileData.content_write (file : FileData) (offset : Nat) (piece : Bytes) :
    (file.write offset piece).content = file.content.placed offset piece := by
  by_cases h : piece = [] <;> simp [write, content_eq_foldr, h]

end BulkTransfer
