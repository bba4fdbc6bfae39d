import BulkTransfer.Proofs.Files.Names
import BulkTransfer.Proofs.Files.Pieces

/-!
# What a reader delivers is written at its place

Whatever pieces a reader delivers its bytes in, and whatever interrupts it, the file comes out as if
all its bytes had been placed in it at once (`Disk.content?_writeOn`): they overlay what is there, a
gap before them is filled with zeros, and every other byte stays (`Bytes.Overlaid`). So writes that
do not overlap can be made in either order (`Bytes.placed_comm`). The format of the disk bounds how
long a file can get; of a delivery that goes beyond, the bytes up to the bound are written
(`DiskFormat.Takes`), and the write fails (`Disk.writeAt_overlays`). Where the bound is depends on
the format, but no file reaches the offset 2 ^ 63 (`Disk.farWrite_refused`).
-/

namespace BulkTransfer

/-! ## Bytes placed over bytes -/

namespace Bytes

variable {bytes first second piece : Bytes} {offset other : Nat}

lemma ext_getD {bytes other : Bytes} (length : bytes.length = other.length)
    (same : ∀ i : Nat, bytes[i]?.getD 0 = other[i]?.getD 0) : bytes = other := by
  apply List.ext_getElem length
  intro i inside inside'
  have at_ := same i
  rwa [List.getElem?_eq_getElem inside, List.getElem?_eq_getElem inside'] at at_

/-- Two pieces written one after the other are one piece. -/
lemma placed_append (bytes first second : Bytes) (offset : Nat) :
    (bytes.placed offset first).placed (offset + first.length) second =
      bytes.placed offset (first ++ second) := by
  by_cases noFirst : first = []
  · simp [noFirst]
  by_cases noSecond : second = []
  · simp [noSecond]
  apply ext_getD
  · rw [length_placed _ _ _ noSecond, length_placed _ _ _ noFirst,
      length_placed _ _ _ (by simp [noFirst]), List.length_append]
    omega
  · intro i
    rw [getD_placed, getD_placed, getD_placed, List.length_append]
    by_cases inFirst : offset ≤ i ∧ i < offset + first.length
    · rw [if_neg (by omega), if_pos inFirst, if_pos (by omega),
        List.getElem?_append_left (by omega)]
    · by_cases inSecond : offset + first.length ≤ i ∧ i < offset + first.length + second.length
      · rw [if_pos inSecond, if_pos (by omega), List.getElem?_append_right (by omega),
          Nat.sub_add_eq]
      · rw [if_neg inSecond, if_neg inFirst, if_neg (by omega)]

/-- Pieces that do not overlap can be written in either order. -/
theorem placed_comm (bytes : Bytes)
    (apart : offset + first.length ≤ other ∨ other + second.length ≤ offset) :
    (bytes.placed offset first).placed other second =
      (bytes.placed other second).placed offset first := by
  by_cases noFirst : first = []
  · simp [noFirst]
  by_cases noSecond : second = []
  · simp [noSecond]
  apply ext_getD
  · rw [length_placed _ _ _ noSecond, length_placed _ _ _ noFirst, length_placed _ _ _ noFirst,
      length_placed _ _ _ noSecond]
    omega
  · intro i
    rw [getD_placed, getD_placed, getD_placed, getD_placed]
    by_cases inFirst : offset ≤ i ∧ i < offset + first.length
    · rw [if_pos inFirst, if_neg (by omega), if_pos inFirst]
    · rw [if_neg inFirst, if_neg inFirst]

/-- What a file is after a piece was written to it at an offset: the piece stands there, a gap
before it is filled with zeros, and all else is as before. -/
structure Overlaid (before : Bytes) (offset : Nat) (piece after : Bytes) : Prop where
  untouched : piece = [] → after = before
  length : piece ≠ [] → after.length = max before.length (offset + piece.length)
  inside : ∀ i, i < piece.length → after[offset + i]? = piece[i]?
  outside : ∀ i, i < before.length → i < offset ∨ offset + piece.length ≤ i → after[i]? = before[i]?
  gap : piece ≠ [] → ∀ i, before.length ≤ i → i < offset → after[i]? = some 0

lemma overlaid_placed (before : Bytes) (offset : Nat) (piece : Bytes) :
    Overlaid before offset piece (before.placed offset piece) where
  untouched none := by rw [none, placed_nil]
  length some := length_placed _ _ _ some
  inside i within := by
    rw [getElem?_placed_inside (by omega) (by omega), Nat.add_sub_cancel_left]
  outside i held beside := getElem?_placed_outside held (by omega)
  gap some i beyond gap := by
    have length := length_placed before offset piece some
    have read := getD_placed before offset piece i
    rw [if_neg (by omega), List.getElem?_eq_none beyond] at read
    rw [List.getElem?_eq_getElem (by omega)] at read ⊢
    exact congrArg Option.some read

end Bytes

/-! ## What a file takes -/

namespace DiskFormat

variable {format : DiskFormat} {offset length : Nat} {piece delivered taken : Bytes}

/-- How much of a delivery a file takes from an offset on: what comes to stand before the end of the
longest file. If the delivery goes so far that its bytes have no offsets any more, less than is
written at once may be lacking of that. -/
structure Takes (format : DiskFormat) (offset : Nat) (delivered taken : Bytes) : Prop where
  within : taken <+: delivered.take (format.longestFile - offset)
  nearly : (delivered.take (format.longestFile - offset)).length < taken.length + writtenAtOnce
  fully : offset + delivered.length < offsetBound →
    taken = delivered.take (format.longestFile - offset)

lemma Takes.length_le (takes : format.Takes offset delivered taken) :
    taken.length ≤ delivered.length :=
  Nat.le_trans takes.within.length_le (List.length_take_le' ..)

/-- All of a delivery is taken if the file does not get too long, or if it is empty. -/
lemma Takes.eq_iff (takes : format.Takes offset delivered taken) :
    taken = delivered ↔ delivered = [] ∨ offset + delivered.length ≤ format.longestFile := by
  constructor
  · rintro rfl
    have short := takes.within.length_le
    rw [List.length_take] at short
    by_cases none : taken = []
    · exact .inl none
    · have some : 0 < taken.length := List.length_pos_iff.2 none
      exact .inr (by omega)
  · rintro (rfl | fits)
    · exact List.length_eq_zero_iff.1 (Nat.le_zero.1 takes.length_le)
    · have reached := format.reached
      rw [takes.fully (by omega)]
      exact List.take_of_length_le (by omega)

lemma takes_nil (format : DiskFormat) (offset : Nat) : format.Takes offset [] [] where
  within := List.nil_prefix
  nearly := by
    rw [List.take_nil]
    decide
  fully _ := List.take_nil.symm

lemma inFull_le (format : DiskFormat) (offset : Nat) :
    format.inFull offset ≤ format.longestFile - offset :=
  Nat.div_mul_le_self ..

/-- Of a piece that makes the file too long, what fits is taken; of what follows it, nothing. -/
lemma takes_fitting (beyond : ¬offset + piece.length ≤ format.longestFile) (filled : piece ≠ [])
    (rest : Bytes) : format.Takes offset (piece ++ rest) (format.fitting offset piece) := by
  have some : 0 < piece.length := List.length_pos_iff.2 filled
  have inside := format.inFull_le offset
  have cut : (piece ++ rest).take (format.longestFile - offset) =
      piece.take (format.longestFile - offset) :=
    List.take_append_of_le_length (by omega)
  by_cases far : format.Overreaches offset piece.length
  · have fits : format.fitting offset piece = piece.take (format.inFull offset) := by
      rw [fitting, if_neg beyond, if_pos far]
    refine ⟨?_, ?_, fun near => ?_⟩
    · rw [cut, fits, ← Nat.min_eq_left inside, ← List.take_take]
      exact List.take_prefix ..
    · have last := Nat.lt_div_mul_add (a := format.longestFile - offset)
        (show 0 < writtenAtOnce by decide)
      rw [cut, fits, List.length_take, List.length_take]
      unfold inFull at inside ⊢
      omega
    · unfold Overreaches at far
      rw [List.length_append] at near
      omega
  · have fits : format.fitting offset piece = piece.take (format.longestFile - offset) := by
      rw [fitting, if_neg beyond, if_neg far]
    rw [fits, ← cut]
    exact ⟨List.prefix_refl _, Nat.lt_add_of_pos_right (by decide), fun _ => rfl⟩

/-- Of a piece that fits and of what follows it, what is taken of the latter follows. -/
lemma Takes.append (fits : offset + piece.length ≤ format.longestFile)
    (takes : format.Takes (offset + piece.length) delivered taken) :
    format.Takes offset (piece ++ delivered) (piece ++ taken) := by
  have cut : (piece ++ delivered).take (format.longestFile - offset) =
      piece ++ delivered.take (format.longestFile - (offset + piece.length)) := by
    rw [List.take_append, List.take_of_length_le (by omega), Nat.sub_add_eq]
  refine ⟨?_, ?_, fun near => ?_⟩
  · rw [cut, List.prefix_append_right_inj]
    exact takes.within
  · have nearly := takes.nearly
    rw [cut, List.length_append, List.length_append]
    omega
  · rw [List.length_append] at near
    rw [cut, takes.fully (by omega)]

lemma not_le_of_refused {cause : IoCause}
    (refused : format.writeRefusal? offset length = some cause) :
    ¬offset + length ≤ format.longestFile := by
  rw [← writeRefusal?_eq_none_iff, refused]
  exact Option.some_ne_none cause

/-- What a file takes of what a reader delivers: the pieces that fit, and of the first that does not
what fits. -/
def takenOf (format : DiskFormat) (offset : Nat) : Reader → Bytes
  | .piece bytes :: rest =>
      if bytes.isEmpty then []
      else if offset + bytes.length ≤ format.longestFile then
        bytes ++ takenOf format (offset + bytes.length) rest
      else format.fitting offset bytes
  | .interrupted :: rest => takenOf format offset rest
  | .failure _ :: _ | [] => []

lemma takes_takenOf (format : DiskFormat) (offset : Nat) (reader : Reader) :
    format.Takes offset reader.delivered (format.takenOf offset reader) := by
  fun_induction takenOf format offset reader with
  | case1 offset bytes rest empty =>
      rw [Reader.delivered, if_pos empty]
      exact format.takes_nil offset
  | case2 offset bytes rest filled fits takes =>
      rw [Reader.delivered, if_neg filled]
      exact takes.append fits
  | case3 offset bytes rest filled beyond =>
      rw [Reader.delivered, if_neg filled]
      exact takes_fitting beyond (fun none => filled (List.isEmpty_iff.2 none)) _
  | case4 offset rest takes => exact takes
  | case5 | case6 => exact format.takes_nil _

end DiskFormat

/-! ## A reader's bytes -/

namespace Disk

variable {disk : Disk} {file : FileId} {path : LocalPath} {offset written : Nat} {reader : Reader}

/-- The content of a file. -/
def content? (disk : Disk) (file : FileId) : Option Bytes :=
  (disk.file? file).map FileData.content

@[simp]
lemma content?_write (disk : Disk) (file : FileId) (offset : Nat) (piece : Bytes) :
    (disk.write file offset piece).content? file =
      (disk.content? file).map (·.placed offset (disk.format.fitting offset piece)) := by
  rw [content?, content?, write, file?_update]
  cases disk.file? file with
  | none => rfl
  | some data => exact congrArg some ((congrArg _ (if_pos rfl)).trans (data.content_write ..))

/-- What can become of a file system when one file is written to: nothing else of it changes. -/
structure Only (file : FileId) (disk after : Disk) : Prop where
  home : after.home = disk.home
  nodes : after.nodes = disk.nodes
  format : after.format = disk.format
  others : ∀ other, other ≠ file → after.file? other = disk.file? other

lemma Only.refl (file : FileId) (disk : Disk) : disk.Only file disk :=
  ⟨rfl, rfl, rfl, fun _ _ => rfl⟩

lemma Only.trans {between after : Disk} (first : disk.Only file between)
    (second : between.Only file after) : disk.Only file after :=
  ⟨second.home.trans first.home, second.nodes.trans first.nodes,
    second.format.trans first.format,
    fun other apart => (second.others other apart).trans (first.others other apart)⟩

lemma only_write (disk : Disk) (file : FileId) (offset : Nat) (piece : Bytes) :
    disk.Only file (disk.write file offset piece) where
  home := rfl
  nodes := rfl
  format := rfl
  others other apart := by
    rw [write, file?_update]
    cases disk.file? other with
    | none => rfl
    | some data => exact congrArg some (if_neg (Ne.symm apart))

/-- Only the file that is written to changes. -/
lemma only_writeOn : disk.Only file (disk.writeOn file path offset written reader).2 := by
  fun_induction writeOn disk file path offset written reader with
  | case1 => exact .refl file _
  | case2 _ _ _ ih => exact ih
  | case3 => exact .refl file _
  | case4 => exact .refl file _
  | case5 => exact only_write ..
  | case6 _ _ _ _ _ _ _ ih => exact (only_write ..).trans ih

/-- The bytes of a reader come to stand where the first of them belongs, as far as the file takes
them. -/
theorem content?_writeOn :
    (disk.writeOn file path offset written reader).2.content? file =
      (disk.content? file).map
        (·.placed (offset + written) (disk.format.takenOf (offset + written) reader)) := by
  have nothing (content : Option Bytes) (offset : Nat) :
      content = content.map (·.placed offset []) := by
    simp
  fun_induction writeOn disk file path offset written reader with
  | case1 disk written => exact nothing ..
  | case2 disk written rest ih => exact ih
  | case3 disk written => exact nothing ..
  | case4 disk written bytes rest empty =>
      rw [DiskFormat.takenOf, if_pos empty]
      exact nothing ..
  | case5 disk written bytes rest filled later cause refused =>
      -- the piece makes the file too long, so nothing of what follows it is written
      rw [DiskFormat.takenOf, if_neg filled, if_neg (DiskFormat.not_le_of_refused refused)]
      exact content?_write ..
  | case6 disk written bytes rest filled later taken ih =>
      have within := (DiskFormat.writeRefusal?_eq_none_iff ..).1 taken
      have written? : later.content? file =
          (disk.content? file).map (·.placed (offset + written) bytes) := by
        rw [show later = disk.write file (offset + written) bytes from rfl, content?_write,
          DiskFormat.fitting_eq_self _ _ _ taken]
      rw [ih, written?, Option.map_map, DiskFormat.takenOf, if_neg filled, if_pos within]
      refine congrArg (Option.map · _) (funext fun content => ?_)
      rw [← Bytes.placed_append, Nat.add_assoc]
      rfl

/-- Writing ends well when the reader does not fail and the file takes all that it delivers, and
then all of it was written. -/
lemma writeOn_eq_ok_iff {count : Nat} :
    (disk.writeOn file path offset written reader).1 = .ok count ↔
      reader.failure? = none ∧
        disk.format.takenOf (offset + written) reader = reader.delivered ∧
          count = written + reader.delivered.length := by
  fun_induction writeOn disk file path offset written reader with
  | case1 disk written => simp [Reader.failure?, Reader.delivered, DiskFormat.takenOf, eq_comm]
  | case2 disk written rest ih => exact ih
  | case3 => simp [Reader.failure?]
  | case4 disk written bytes rest empty =>
      simp [Reader.failure?, Reader.delivered, empty, DiskFormat.takenOf, eq_comm]
  | case5 disk written bytes rest filled later cause refused =>
      have beyond := DiskFormat.not_le_of_refused refused
      have takes := disk.format.takes_takenOf (offset + written) (.piece bytes :: rest)
      refine iff_of_false (fun succeeded => ?_) fun ended => ?_
      · cases succeeded
      · rcases takes.eq_iff.1 ended.2.1 with none | fits
        · rw [Reader.delivered, if_neg filled] at none
          exact filled (List.isEmpty_iff.2 (List.append_eq_nil_iff.1 none).1)
        · rw [Reader.delivered, if_neg filled, List.length_append] at fits
          omega
  | case6 disk written bytes rest filled later taken ih =>
      have within := (DiskFormat.writeRefusal?_eq_none_iff ..).1 taken
      rw [ih, Reader.failure?, if_neg filled, Reader.delivered, if_neg filled,
        DiskFormat.takenOf, if_neg filled, if_pos within, List.append_cancel_left_eq,
        List.length_append, Nat.add_assoc, Nat.add_assoc]
      rfl

lemma writeOn_eq_of_nothing (none : reader.delivered = []) :
    (disk.writeOn file path offset written reader).2 = disk := by
  fun_induction writeOn disk file path offset written reader with
  | case1 => rfl
  | case2 _ _ _ ih => exact ih none
  | case3 => rfl
  | case4 => rfl
  | case5 disk written bytes rest filled | case6 disk written bytes rest filled =>
      rw [Reader.delivered, if_neg filled] at none
      exact absurd (List.isEmpty_iff.2 (List.append_eq_nil_iff.1 none).1) filled

/-- Two readers whose bytes do not overlap leave the same content in either order. -/
lemma content?_writeAt_comm {second : Reader} {other : Nat} {path' : LocalPath}
    (apart : offset + reader.delivered.length ≤ other ∨
      other + second.delivered.length ≤ offset) :
    ((disk.writeAt file path offset reader).2.writeAt file path' other second).2.content? file =
      ((disk.writeAt file path' other second).2.writeAt file path offset reader).2.content?
        file := by
  have shortOne := (disk.format.takes_takenOf offset reader).length_le
  have shortTwo := (disk.format.takes_takenOf other second).length_le
  simp only [writeAt, content?_writeOn, only_writeOn.format, Nat.add_zero, Option.map_map]
  exact congrArg (Option.map · _) (funext fun bytes => Bytes.placed_comm bytes (by omega))

/-- **Writing what a reader delivers.** The bytes of a reader, whatever pieces they come in, overlay
the file where the first of them belongs, as far as the file takes them, and nothing else changes;
where nothing is delivered, nothing changes at all. The number of bytes is returned exactly if the
reader did not fail and the file does not get longer than the longest that the disk can hold. Two
readers whose bytes do not overlap can be written in either order. -/
theorem writeAt_overlays {before : Bytes} (there : disk.content? file = some before)
    (path : LocalPath) (offset : Nat) (reader : Reader) :
    let written := disk.writeAt file path offset reader
    (∃ taken after, written.2.content? file = some after ∧
      disk.format.Takes offset reader.delivered taken ∧
        Bytes.Overlaid before offset taken after) ∧
    disk.Only file written.2 ∧
    (reader.delivered = [] → written.2 = disk) ∧
    (∀ count, written.1 = .ok count ↔
      reader.failure? = none ∧
        (reader.delivered = [] ∨ offset + reader.delivered.length ≤ disk.format.longestFile) ∧
          count = reader.delivered.length) ∧
    ∀ (path' : LocalPath) (other : Nat) (second : Reader),
      offset + reader.delivered.length ≤ other ∨ other + second.delivered.length ≤ offset →
        (written.2.writeAt file path' other second).2.content? file =
          ((disk.writeAt file path' other second).2.writeAt file path offset reader).2.content?
            file := by
  intro written
  have takes := disk.format.takes_takenOf offset reader
  refine ⟨⟨_, _, ?_, takes, Bytes.overlaid_placed before ..⟩, only_writeOn,
    writeOn_eq_of_nothing, fun count => ?_, fun _ _ _ => content?_writeAt_comm⟩
  · have content : written.2.content? file = (disk.content? file).map
        (·.placed (offset + 0) (disk.format.takenOf (offset + 0) reader)) := content?_writeOn
    rwa [there] at content
  · have ended : written.1 = .ok count ↔ reader.failure? = none ∧
        disk.format.takenOf (offset + 0) reader = reader.delivered ∧
          count = 0 + reader.delivered.length := writeOn_eq_ok_iff
    rwa [Nat.add_zero, Nat.zero_add, takes.eq_iff] at ended

/-- A file that holds two bytes, and a reader that is interrupted between two pieces: its bytes
come to stand beyond a gap of one byte. -/
theorem writeAt_overlays_interrupted :
    let disk : Disk := ⟨.root, [], [⟨[(0, [48, 49])], none⟩], .ext4⟩
    let reader : Reader := [.piece [120], .interrupted, .piece [121]]
    disk.content? 0 = some [48, 49] ∧
      (disk.writeAt 0 ⟨"o"⟩ 3 reader).2.content? 0 = some [48, 49, 0, 120, 121] ∧
      Bytes.Overlaid [48, 49] 3 [120, 121] [48, 49, 0, 120, 121] ∧
      (disk.writeAt 0 ⟨"o"⟩ 3 reader).1 = .ok 2 := by
  intro disk reader
  have there : disk.content? 0 = some [48, 49] := by decide +kernel
  have after : (disk.writeAt 0 ⟨"o"⟩ 3 reader).2.content? 0 = some [48, 49, 0, 120, 121] := by
    decide +kernel
  obtain ⟨⟨taken, bytes, held, takes, overlaid⟩, -, -, ended, -⟩ :=
    writeAt_overlays there ⟨"o"⟩ 3 reader
  obtain rfl := Option.some.inj (held.symm.trans after)
  obtain rfl : taken = [120, 121] := takes.eq_iff.2 (.inr (by decide))
  exact ⟨there, after, overlaid, (ended 2).2 ⟨rfl, .inr (by decide), rfl⟩⟩

/-- A byte that is to stand where no offset is, is not written, however long a file can get: the
file stays empty, and writing fails although the reader does not. -/
theorem farWrite_refused :
    let disk : Disk := ⟨.root, [], [{}], { DiskFormat.ext4 with
      longestFile := offsetBound - 1, reached := by decide }⟩
    let reader : Reader := [.piece [120]]
    disk.content? 0 = some [] ∧ reader.failure? = none ∧ reader.delivered = [120] ∧
      offsetBound + reader.delivered.length < Word.bound64 ∧
      (disk.writeAt 0 ⟨"o"⟩ offsetBound reader).1 = .error (.io ⟨"o"⟩ .invalidArgument) ∧
      (disk.writeAt 0 ⟨"o"⟩ offsetBound reader).2.content? 0 = some [] := by
  decide +kernel

end Disk
end BulkTransfer
