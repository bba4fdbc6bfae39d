import BulkTransfer.Proofs.Download.Filled
import BulkTransfer.Proofs.Parts.Spans
import Mathlib.Algebra.GroupWithZero.Nat

/-!
# What a download in parts has written when it succeeds

A part succeeds when the whole body that it was answered with has been written from the first byte
of its range on, however long the body is. So when a download in parts is taken to have succeeded,
each part has written as many bytes as its body had (`Run.parts_filled_of_passed`), and if these are
as many as its range has, every byte before the last part was written by exactly one part
(`Run.covered_of_passed`). Nothing compares the two lengths: a body that is too short leaves a hole
in a file that is said to have been downloaded (`Run.emptyBodies_hole`).
-/

namespace BulkTransfer

open Pool Multipart

namespace PartSpan

variable {size chunksize index : Nat}

/-- When the parts but the last one have the lengths that they should have, each place before the
last one is in exactly one of them. -/
lemma exists_unique_within {lengths : Nat → Nat} {place : Nat} (cut : 0 < chunksize)
    (bounded : size < Word.bound64)
    (filled : ∀ index < partsNeeded size chunksize,
      (ofIndex size chunksize index).isFinal = false →
        lengths index = (ofIndex size chunksize index).length)
    (before : place < (ofIndex size chunksize (partsNeeded size chunksize - 1)).first) :
    ∃! index, index < partsNeeded size chunksize ∧
      (ofIndex size chunksize index).first ≤ place ∧
        place < (ofIndex size chunksize index).first + lengths index := by
  have chunk (index : Nat) (more : index + 1 < partsNeeded size chunksize) :
      lengths index = chunksize := by
    have inside : index < partsNeeded size chunksize := Nat.lt_of_succ_lt more
    have another : (ofIndex size chunksize index).isFinal = false := by
      rw [Bool.eq_false_iff, Ne, isFinal_ofIndex_iff cut bounded inside]
      exact Nat.ne_of_lt more
    rw [filled index inside another, (length_of_not_isFinal cut bounded inside another).2]
  rw [first_ofIndex] at before
  have few : place / chunksize < partsNeeded size chunksize - 1 :=
    (Nat.div_lt_iff_lt_mul cut).2 before
  have from_ := Nat.div_mul_le_self place chunksize
  have up := @Nat.lt_div_mul_add place chunksize cut
  refine ⟨place / chunksize, ⟨few.trans_le (Nat.sub_le ..), from_, ?_⟩, ?_⟩
  · rw [first_ofIndex, chunk _ (Nat.add_lt_of_lt_sub few)]
    exact up
  · rintro index ⟨inside, begins, ends⟩
    rw [first_ofIndex] at begins ends
    have more : index + 1 < partsNeeded size chunksize := by
      refine Nat.lt_of_le_of_ne inside fun last => ?_
      have same : partsNeeded size chunksize - 1 = index := by omega
      rw [same] at before
      exact absurd begins (Nat.not_le_of_lt before)
    rw [chunk index more] at ends
    exact (Nat.div_eq_of_lt_le begins (by rw [Nat.add_one_mul]; exact ends)).symm

end PartSpan

namespace Pool

/-- How many bytes were written of a part. -/
def bytesWritten (range : PartSpan) (history : List Event) : Nat :=
  ((piecesOf range history).map fun piece => piece.2.2.length).sum

/-- Whether a byte of the file, by its place in it, was written with some pieces. -/
def Covers (pieces : List (FileId × Nat × Bytes)) (place : Nat) : Prop :=
  ∃ file offset bytes, (file, offset, bytes) ∈ pieces ∧ offset ≤ place ∧
    place < offset + bytes.length

namespace Laid

variable {file : FileId} {first : Nat} {pieces : List (FileId × Nat × Bytes)} {bytes : Bytes}

/-- Pieces that follow one another have as many bytes as they are together. -/
lemma sum_length (laid : Laid file first pieces bytes) :
    (pieces.map fun piece => piece.2.2.length).sum = bytes.length := by
  induction laid with
  | nothing => rfl
  | more laid piece ih =>
      rw [List.map_cons, List.sum_cons, ih, List.length_append, Nat.add_comm]

/-- Pieces that follow one another cover what is between their first byte and their last one. -/
lemma covers_iff (laid : Laid file first pieces bytes) (place : Nat) :
    Covers pieces place ↔ first ≤ place ∧ place < first + bytes.length := by
  induction laid with
  | nothing => simp [Covers]
  | @more pieces bytes laid piece ih =>
      have either : Covers ((file, first + bytes.length, piece) :: pieces) place ↔
          (first + bytes.length ≤ place ∧ place < first + bytes.length + piece.length) ∨
            Covers pieces place := by
        constructor
        · rintro ⟨own, offset, written, present, from_, before⟩
          rcases List.mem_cons.1 present with same | old
          · cases same
            exact .inl ⟨from_, before⟩
          · exact .inr ⟨own, offset, written, old, from_, before⟩
        · rintro (⟨from_, before⟩ | ⟨own, offset, written, present, within⟩)
          · exact ⟨file, _, piece, List.mem_cons_self, from_, before⟩
          · exact ⟨own, offset, written, List.mem_cons_of_mem _ present, within⟩
      rw [either, ih, List.length_append]
      omega

end Laid

/-- Whether the whole body of a part was written to a file that was opened for it, from the first
byte of the part on. -/
def WrittenWhole (operation : Operation) (id : OperationId) (file : FileId) (range : PartSpan)
    (history : List Event) : Prop :=
  (∃ path, .opened id path file ∈ history) ∧
    ∃ body, Fetched operation id range body history ∧ body.failure? = none ∧
      Laid file range.first (piecesOf range history) body.delivered

/-- What has been filled was written as a whole. -/
lemma Filled.whole {operation : Operation} {id : OperationId} {file : FileId} {range : PartSpan}
    {history : List Event} (filled : Filled operation id file range history) :
    WrittenWhole operation id file range history := by
  obtain ⟨bytes, opened, laid, body, fetched, delivers, fails⟩ := filled
  refine ⟨opened, body, fetched, fails, ?_⟩
  have all : body.delivered = bytes := delivers.trans (List.append_nil bytes)
  rwa [all]

end Pool

namespace Run

variable {batch : Batch} {disk : Disk} {records : List Record} {moves more : List Move}
  {run last : Run} {id : OperationId} {record : Record} {operation : Operation} {chore : Chore}
  {download : Download}

/-- Whether a transfer is taken to have succeeded: its success was told of, or the deletion of its
source is in the queue. -/
def HasPassed (run : Run) (id : OperationId) : Prop :=
  Succeeded id (run.shared.history id) ∨ .run ⟨id, .delete⟩ ∈ run.shared.queue.items

lemma mem_hands_of_queued {chore : Chore} (queued : .run ⟨id, chore⟩ ∈ run.shared.queue.items) :
    .starting id chore ∈ run.hands id := by
  refine Multiset.mem_filter.2 ⟨Multiset.mem_coe.2 (List.mem_append_left _ ?_), rfl⟩
  exact List.mem_filterMap.2 ⟨_, queued, rfl⟩

/-- A download in parts that is taken to have succeeded has filled all of them. -/
lemma brought_of_passed (valid : batch.plan.Valid) (listed : records[id]? = some record)
    (planned : batch.plan.resolve record = .ok (operation, chore))
    (split : operation.download = some download)
    (reached : (batch.start disk records).steps moves = some run) (passed : run.HasPassed id) :
    id < run.shared.operations.length ∧
      Brought operation (operation.span .download) download.progress.total id (run.view id) := by
  have inside : id < run.shared.operations.length := by
    rcases passed with ⟨name, description, told⟩ | queued
    · exact inside_of_history reached told
    · refine Nat.lt_of_not_le fun absent => ?_
      have none := ((sound_of_steps reached).1.known id absent).1
      exact absurd (none ▸ mem_hands_of_queued queued) (Multiset.notMem_zero _)
  refine ⟨inside, ?_⟩
  cases coming valid listed planned split reached inside with
  | brought brought => exact brought
  | underway underway =>
      rcases passed with told | queued
      · exact absurd told underway.untold
      · rcases underway.hands _ (mem_hands_of_queued queued) with loads | framing
        · exact absurd loads (by simp [Activity.isLoading])
        · cases framing

/-- A download in parts that was taken to have succeeded at some time has written to one file, of
every part, the whole body that it was answered with. -/
theorem parts_filled_of_passed (valid : batch.plan.Valid) (listed : records[id]? = some record)
    (planned : batch.plan.resolve record = .ok (operation, chore))
    (split : operation.download = some download)
    (reached : (batch.start disk records).steps moves = some run) (passed : run.HasPassed id)
    (onwards : run.steps more = some last) :
    ∃ file, ∀ index < download.progress.total,
      WrittenWhole operation id file (operation.span .download index) (last.shared.history id) := by
  obtain ⟨inside, brought⟩ :=
    brought_of_passed valid listed planned split reached passed
  have still := brought_of_steps (sound_of_steps reached).1 inside brought onwards
  obtain ⟨file, filled⟩ := still.filled
  exact ⟨file, fun index below => (filled index below).whole⟩

/-- The parts of a download are those that its size is cut into. -/
lemma cut_of_resolve (valid : batch.plan.Valid)
    (planned : batch.plan.resolve record = .ok (operation, chore))
    (split : operation.download = some download) :
    download.progress.total = partsNeeded record.size download.chunksize ∧
      0 < download.chunksize ∧
        ∀ index, operation.span .download index =
          .ofIndex record.size download.chunksize index := by
  cases planned_of_resolve planned with
  | whole => cases split
  | upload => cases split
  | download source destination sizes sized =>
      obtain rfl := Option.some.inj split
      obtain ⟨total, positive, -⟩ := Limits.of_split valid.limits sized sizes
      exact ⟨total, positive, fun _ => rfl⟩

/-- What a download in parts has written that was taken to have succeeded at some time: of every
part the whole body that it was answered with. So if the bodies of all parts but the last one are as
long as their ranges, each of these parts has written as many bytes as its range has, and every byte
before the last part was written by exactly one part. -/
theorem covered_of_passed (valid : batch.plan.Valid) (listed : records[id]? = some record)
    (planned : batch.plan.resolve record = .ok (operation, chore))
    (split : operation.download = some download) (bounded : record.size < Word.bound64)
    (reached : (batch.start disk records).steps moves = some run) (passed : run.HasPassed id)
    (onwards : run.steps more = some last) :
    (∃ file, ∀ index < download.progress.total,
      WrittenWhole operation id file (operation.span .download index) (last.shared.history id)) ∧
    ((∀ index < download.progress.total, (operation.span .download index).isFinal = false →
        ∀ body, Fetched operation id (operation.span .download index) body
            (last.shared.history id) →
          body.delivered.length = (operation.span .download index).length) →
      (∀ index < download.progress.total, (operation.span .download index).isFinal = false →
        bytesWritten (operation.span .download index) (last.shared.history id) =
          (operation.span .download index).length) ∧
      ∀ place < (operation.span .download (download.progress.total - 1)).first,
        ∃! index, index < download.progress.total ∧
          Covers (piecesOf (operation.span .download index) (last.shared.history id)) place) := by
  obtain ⟨file, whole⟩ :=
    parts_filled_of_passed valid listed planned split reached passed onwards
  refine ⟨⟨file, whole⟩, fun served => ?_⟩
  obtain ⟨total, cut, spans⟩ := cut_of_resolve valid planned split
  simp only [total, spans] at whole served ⊢
  have lengths (index : Nat) (inside : index < partsNeeded record.size download.chunksize)
      (another : (PartSpan.ofIndex record.size download.chunksize index).isFinal = false) :
      bytesWritten (.ofIndex record.size download.chunksize index) (last.shared.history id) =
        (PartSpan.ofIndex record.size download.chunksize index).length := by
    obtain ⟨-, body, fetched, -, laid⟩ := whole index inside
    exact laid.sum_length.trans (served index inside another body fetched)
  refine ⟨lengths, fun place before => ?_⟩
  have within := PartSpan.exists_unique_within cut bounded lengths before
  refine (existsUnique_congr fun index => and_congr_right fun inside => ?_).1 within
  obtain ⟨-, body, -, -, laid⟩ := whole index inside
  rw [bytesWritten, laid.sum_length]
  exact (laid.covers_iff place).symm

end Run

namespace Pool

/-- The body that an event answers a request for an object with. -/
def Event.body? : Event → Option Reader
  | .answered _ _ _ (.reply (.object body)) => body
  | _ => none

lemma Fetched.mem_bodies {operation : Operation} {id : OperationId} {range : PartSpan}
    {body : Reader} {history : List Event} (fetched : Fetched operation id range body history) :
    body ∈ history.filterMap Event.body? := by
  obtain ⟨store, call, -, answered⟩ := fetched
  exact List.mem_filterMap.2 ⟨_, answered, rfl⟩

end Pool

namespace Run

lemma smallDownload_planned :
    Batch.small.plan.resolve (Batch.smallDownload 3) =
      .ok ({ Batch.small.plan.operationFor (Batch.smallDownload 3) with
        download := some (.ofParts 3 1) }, .createLocalFile) := rfl

/-- A download in three parts of a byte each, of an object of three bytes: each byte before the last
one was written by one part. -/
theorem smallDownload_covered :
    (Batch.smallRun Batch.smallObject Disk.empty (Batch.smallDownload 3)).HasPassed 0 ∧
      ∀ place < 2, ∃! index, index < 3 ∧
        Covers (piecesOf (.ofIndex 3 1 index) ((Batch.smallRun Batch.smallObject Disk.empty
          (Batch.smallDownload 3)).shared.history 0)) place := by
  have listed : [Batch.smallDownload 3][0]? = some (Batch.smallDownload 3) := rfl
  have passed : (Batch.smallRun Batch.smallObject Disk.empty
      (Batch.smallDownload 3)).HasPassed 0 := by
    refine .inl ⟨"download", "s3://bucket/source to file", ?_⟩
    decide +kernel
  have onwards : (Batch.smallRun Batch.smallObject Disk.empty (Batch.smallDownload 3)).steps [] =
      some _ := rfl
  obtain ⟨-, covered⟩ := covered_of_passed Batch.small_valid listed smallDownload_planned rfl
    (by decide) (Batch.steps_smallMoves Batch.smallObject Disk.empty (Batch.smallDownload 3)) passed
    onwards
  refine ⟨passed, (covered ?_).2⟩
  intro index inside another body fetched
  have single : ∀ body ∈ ((Batch.smallRun Batch.smallObject Disk.empty
      (Batch.smallDownload 3)).shared.history 0).filterMap Event.body?,
      body.delivered.length = 1 := by
    decide +kernel
  have length := (PartSpan.length_of_not_isFinal (by decide : 0 < 1) (by decide) inside another).2
  exact (single body fetched.mem_bodies).trans length.symm

/-- A download whose bodies are empty, instead of one byte each. It is said to have succeeded, and
its first part, which is not the last one, has written nothing. -/
theorem emptyBodies_hole :
    (Batch.smallRun { answersAll := true } Disk.empty (Batch.smallDownload 2)).HasPassed 0 ∧
      (PartSpan.ofIndex 2 1 0).isFinal = false ∧
      bytesWritten (.ofIndex 2 1 0) ((Batch.smallRun { answersAll := true } Disk.empty
        (Batch.smallDownload 2)).shared.history 0) ≠ (PartSpan.ofIndex 2 1 0).length := by
  refine ⟨.inl ⟨"download", "s3://bucket/source to file", ?_⟩, rfl, ?_⟩ <;> decide +kernel

end Run
end BulkTransfer
