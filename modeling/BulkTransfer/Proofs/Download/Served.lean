import BulkTransfer.Proofs.Download.Arrival
import BulkTransfer.Proofs.Download.Whole
import BulkTransfer.Proofs.Run.Batches
import BulkTransfer.Proofs.Run.ScheduledMoves

/-!
# Downloads of objects that are served

What a download leaves at its destination when its store serves the object as it is and nobody else
touches the destination (`Run.download_of_served`): the whole object if it has succeeded, whatever
its size was thought to be, and no file if its file was opened for parts and it has failed. It
succeeds if nothing stands in its way and the object is no smaller than it was thought to be.
-/

namespace BulkTransfer

open Pool Multipart

namespace Retrieval

variable {retrieval : Retrieval} {batch : Batch} {disk : Disk} {records : List Record}
  {moves : List Move} {run : Run}

lemma describes_operationFor {plan : Plan}
    (store : retrieval.store = (plan.operationFor retrieval.record).sourceStore) :
    retrieval.Describes (plan.operationFor retrieval.record) :=
  ⟨Run.operationFor_record plan retrieval.record, store.symm⟩

/-- What the record of a retrieval is planned as. -/
lemma planned_of_resolve {plan : Plan} {planned : Operation × Chore}
    (resolved : plan.resolve retrieval.record = .ok planned) :
    (if plan.isMultipart .download retrieval.record.size then
      (plan.limits.split plan.config.multipartChunksize retrieval.record.size).map fun split =>
        ({ plan.operationFor retrieval.record with
            download := some (.ofParts split.1 split.2) }, .createLocalFile)
      else .ok (plan.operationFor retrieval.record, .download)) = Except.ok planned := by
  obtain ⟨action, isAction⟩ := action_of_resolve resolved
  obtain rfl := action_of_download retrieval.kind isAction
  rw [← resolve_of_download isAction]
  exact resolved

section

variable (listed : records[retrieval.id]? = some retrieval.record)
  (store : retrieval.store = (batch.plan.operationFor retrieval.record).sourceStore)
  (accepted : retrieval.secured → ∃ planned, batch.plan.resolve retrieval.record = .ok planned)
  (reached : (batch.start disk records).steps moves = some run)
  (meets : (batch.start disk records).Throughout retrieval.Meets moves)
  (inside : retrieval.id < run.shared.operations.length)
include listed store accepted reached meets inside

/-- A download in one piece runs the course of a retrieval in one piece. -/
lemma whole_arrival
    (small : batch.plan.isMultipart .download retrieval.record.size = false) :
    retrieval.WholeArrival (run.view retrieval.id) (run.shared.disk.shown retrieval.path) := by
  have begun (run : Run)
      (begins : Begins batch.plan retrieval.record retrieval.id (run.view retrieval.id)) :
      retrieval.WholeArrival (run.view retrieval.id) (run.shared.disk.shown retrieval.path) := by
    cases begins with
    | refused error tally resolved begun =>
        rw [begun]
        refine .fetching (describes_operationFor store) (.failing (fun secured => ?_)
          (.ended (isError_refusal ..) rfl))
        obtain ⟨planned, resolves⟩ := accepted secured
        rw [resolved] at resolves
        cases resolves
    | proposed operation chore resolved begun =>
        have planned := planned_of_resolve resolved
        rw [small, if_neg Bool.false_ne_true] at planned
        obtain ⟨rfl, rfl⟩ := Prod.mk.inj (Except.ok.inj planned)
        rw [begun]
        exact .proposed (describes_operationFor store)
  have kept (run : Run) (move : Move) (next : Run) (sound : run.Sound records)
      (inside : retrieval.id < run.shared.operations.length)
      (course : retrieval.WholeArrival (run.view retrieval.id)
        (run.shared.disk.shown retrieval.path)) (meets : retrieval.Meets run move)
      (step : run.step move = some next) (seen : Run.Seen run next move retrieval.id) :
      retrieval.WholeArrival (next.view retrieval.id) (next.shared.disk.shown retrieval.path) :=
    course.step sound inside meets step seen
  exact Run.each_step listed begun kept reached meets inside

omit store accepted in
/-- A retrieval in parts that begins so runs its course. -/
lemma parts_arrival_of_begun {chunksize : Nat} (cut : 0 < chunksize)
    (sized : 0 < retrieval.record.size)
    (begun : ∀ run, Begins batch.plan retrieval.record retrieval.id (Run.view run retrieval.id) →
      retrieval.PartsArrival chunksize (run.view retrieval.id)
        (run.shared.disk.shown retrieval.path)) :
    retrieval.PartsArrival chunksize (run.view retrieval.id)
      (run.shared.disk.shown retrieval.path) := by
  have kept (run : Run) (move : Move) (next : Run) (sound : run.Sound records)
      (inside : retrieval.id < run.shared.operations.length)
      (course : retrieval.PartsArrival chunksize (run.view retrieval.id)
        (run.shared.disk.shown retrieval.path)) (meets : retrieval.Meets run move)
      (step : run.step move = some next) (seen : Run.Seen run next move retrieval.id) :
      retrieval.PartsArrival chunksize (next.view retrieval.id)
        (next.shared.disk.shown retrieval.path) :=
    course.step cut sized sound inside meets step seen
  exact Run.each_step listed begun kept reached meets inside

/-- A download in parts runs the course of a retrieval in parts. -/
lemma parts_arrival (valid : batch.plan.Valid)
    (large : batch.plan.isMultipart .download retrieval.record.size = true) :
    ∃ chunksize, retrieval.PartsArrival chunksize (run.view retrieval.id)
      (run.shared.disk.shown retrieval.path) := by
  have sized : 0 < retrieval.record.size := by
    simp only [Plan.isMultipart, Bool.and_eq_true, decide_eq_true_eq] at large
    exact large.1.2
  cases resolved : batch.plan.resolve retrieval.record with
  | error error =>
      refine ⟨1, parts_arrival_of_begun listed reached meets inside Nat.one_pos sized
        fun run begins => ?_⟩
      cases begins with
      | refused error tally _ begun =>
          rw [begun]
          refine .unopened (fun secured => ?_) (.ended (isError_refusal ..) rfl) (by simp)
          obtain ⟨planned, resolves⟩ := accepted secured
          rw [resolved] at resolves
          cases resolves
      | proposed operation chore resolves begun =>
          rw [resolved] at resolves
          cases resolves
  | ok planned =>
      have shape := planned_of_resolve resolved
      rw [if_pos large] at shape
      cases split : batch.plan.limits.split batch.plan.config.multipartChunksize
          retrieval.record.size with
      | error error =>
          rw [split] at shape
          cases shape
      | ok result =>
          obtain ⟨parts, chunksize⟩ := result
          rw [split] at shape
          obtain ⟨rfl, cut, -⟩ := Limits.of_split valid.limits sized split
          refine ⟨chunksize, parts_arrival_of_begun listed reached meets inside cut sized
            fun run begins => ?_⟩
          cases begins with
          | refused error tally resolves begun =>
              rw [resolved] at resolves
              cases resolves
          | proposed operation chore resolves begun =>
              rw [resolved, ← shape] at resolves
              obtain ⟨rfl, rfl⟩ := Prod.mk.inj (Except.ok.inj resolves)
              have describes := describes_operationFor store
              rw [begun]
              exact .opening ⟨describes.record, describes.store⟩ rfl (.inl ⟨rfl, rfl⟩)

/-- A retrieval that has succeeded has the whole content in its file. -/
lemma content_of_meets (valid : batch.plan.Valid)
    (succeeded : retrieval.HasSucceeded (run.shared.history retrieval.id)) :
    (run.shared.disk.shown retrieval.path).content = .ok retrieval.whole := by
  cases large : batch.plan.isMultipart .download retrieval.record.size with
  | false =>
      exact (whole_arrival listed store accepted reached meets inside large).content succeeded
  | true =>
      obtain ⟨chunksize, course⟩ :=
        parts_arrival listed store accepted reached meets inside valid large
      exact course.content succeeded

/-- A secured retrieval without hands has succeeded. -/
lemma hasSucceeded_of_meets (valid : batch.plan.Valid) (secured : retrieval.secured)
    (admitted : run.proposed retrieval.id = none) (gone : run.hands retrieval.id = 0) :
    retrieval.HasSucceeded (run.shared.history retrieval.id) := by
  cases large : batch.plan.isMultipart .download retrieval.record.size with
  | false =>
      exact (whole_arrival listed store accepted reached meets inside large).hasSucceeded secured
        admitted gone
  | true =>
      obtain ⟨chunksize, course⟩ :=
        parts_arrival listed store accepted reached meets inside valid large
      exact course.hasSucceeded secured admitted gone

end

end Retrieval

namespace Run

variable {batch : Batch} {disk : Disk} {records : List Record} {moves : List Move} {run : Run}
  {id : OperationId} {record : Record} {object : ObjectName} {path : LocalPath}
  {content : Array UInt8}

/-- What is known of a download whose object is served and whose destination nobody else touches:
once it has succeeded, its destination has the whole object; it succeeds if the object is in a
bucket, the split of the recorded size is accepted, its tasks are admitted, its file can be created
and be as long as the object, and the object is no smaller than recorded; and if it is done in parts
and fails after its file was opened, there is no file at its destination, and nothing has been
written since it was removed. -/
theorem download_of_served (valid : batch.plan.Valid) (listed : records[id]? = some record)
    (kind : record.kind = .download) (source : record.source = .object object)
    (destination : record.destination = some (.file path)) (bounded : record.size < Word.bound64)
    (sound : disk.Sound) (reached : (batch.start disk records).steps moves = some run)
    (serves : (batch.start disk records).Throughout
      (Serves (batch.plan.operationFor record).sourceStore object content) moves)
    (spares : (batch.start disk records).Throughout (Spares id path) moves) :
    ((∃ name description, .settled id (.success name description) ∈ run.shared.events) →
        run.shared.disk.readWhole path = .ok content.toList) ∧
      (run.hasEnded = true → object.bucket ≠ "" →
        (batch.plan.isMultipart .download record.size = true →
          ∃ cut, batch.plan.limits.split batch.plan.config.multipartChunksize record.size =
            .ok cut) →
        (batch.start disk records).Throughout (Admits id) moves →
        (batch.start disk records).Throughout (Creates path) moves →
        content.size ≤ disk.format.longestFile → record.size ≤ content.size →
          ∃ name description, .settled id (.success name description) ∈ run.shared.events) ∧
      (batch.plan.isMultipart .download record.size = true → ∀ file message,
        .opened id path file ∈ run.shared.events → .settled id message ∈ run.shared.events →
        message.isError = true →
          run.shared.disk.look path = .error .notFound ∧
            .discarded id path ∈ run.shared.history id ∧
              ∀ since before, run.shared.history id = since ++ .discarded id path :: before →
                ∀ event ∈ since, event.isWrite = false) := by
  have meets (secured : Prop) (room : secured → content.size ≤ disk.format.longestFile)
      (sized : secured → record.size ≤ content.size)
      (admits : secured → (batch.start disk records).Throughout (Admits id) moves)
      (creates : secured → (batch.start disk records).Throughout (Creates path) moves) :
      (batch.start disk records).Throughout
        (Retrieval.Meets ⟨id, record, (batch.plan.operationFor record).sourceStore, object, path,
          content, secured, kind, source, destination, bounded, sized⟩) moves := by
    intro before move after split state arrived
    exact ⟨diskSound_of_steps sound arrived, serves before move after split state arrived,
      spares before move after split state arrived,
      fun holds => admits holds before move after split state arrived,
      fun holds => creates holds before move after split state arrived,
      fun holds => (format_of_steps arrived).symm ▸ room holds⟩
  have unsecured := meets False False.elim False.elim False.elim False.elim
  refine ⟨?_, ?_, ?_⟩
  · rintro ⟨name, description, settled⟩
    have present := (mem_history rfl).2 settled
    have shows := Retrieval.content_of_meets listed rfl False.elim reached unsecured
      (inside_of_history reached present) valid ⟨name, description, present⟩
    exact shows
  · intro ended bucket split admits creates room sized
    have secured := meets True (fun _ => room) (fun _ => sized) (fun _ => admits) fun _ => creates
    obtain ⟨all, idle⟩ := at_end valid reached ended
    obtain ⟨gone, admitted⟩ := idle id
    have accepted : ∃ planned, batch.plan.resolve record = .ok planned := by
      rw [resolve_of_download (isDownload_of_bucket kind source destination bucket)]
      by_cases large : batch.plan.isMultipart .download record.size = true
      · obtain ⟨cut, splits⟩ := split large
        rw [if_pos large, splits]
        exact ⟨_, rfl⟩
      · rw [if_neg large]
        exact ⟨_, rfl⟩
    obtain ⟨name, description, present⟩ := Retrieval.hasSucceeded_of_meets listed rfl
      (fun _ => accepted) reached secured (inside_at_end all listed) valid trivial admitted gone
    exact ⟨name, description, (mem_history rfl).1 present⟩
  · intro large file message opened settled isError
    have opened := (mem_history rfl).2 opened
    obtain ⟨chunksize, course⟩ := Retrieval.parts_arrival listed rfl False.elim reached unsecured
      (inside_of_history reached opened) valid large
    obtain ⟨shows, discarded, last⟩ := course.removed opened ((mem_history rfl).2 settled) isError
    exact ⟨congrArg Shown.node shows, discarded, last⟩

/-- A download in two parts of an object that has grown to three bytes has the whole object, and one
in three parts of an object that has shrunk to three bytes has left no file. -/
theorem smallDownload_served :
    (Batch.smallRun Batch.smallObject .empty (Batch.smallDownload 2)).shared.disk.readWhole
        ⟨"file"⟩ = .ok [1, 2, 3] ∧
      (Batch.smallRun Batch.smallObject .empty (Batch.smallDownload 5)).shared.disk.look
        ⟨"file"⟩ = .error .notFound := by
  have served (size : Nat) (bounded : size < Word.bound64)
      (serves : (Batch.small.start .empty [Batch.smallDownload size]).checks
        (fun state move => decide (Serves "store" ⟨"bucket", "source"⟩ #[1, 2, 3] state move))
          (Batch.smallMoves Batch.smallObject .empty (Batch.smallDownload size)) = true)
      (spares : (Batch.small.start .empty [Batch.smallDownload size]).checks
        (fun state move => decide (Spares 0 ⟨"file"⟩ state move))
          (Batch.smallMoves Batch.smallObject .empty (Batch.smallDownload size)) = true) :=
    have listed : [Batch.smallDownload size][0]? = some (Batch.smallDownload size) := rfl
    download_of_served Batch.small_valid listed rfl rfl rfl bounded Disk.sound_empty
      (Batch.steps_smallMoves Batch.smallObject .empty (Batch.smallDownload size))
      (throughout_of_decide serves) (throughout_of_decide spares)
  constructor
  · obtain ⟨whole, succeeds, -⟩ := served 2 (by decide) (by decide +kernel) (by decide +kernel)
    refine whole (succeeds (by decide +kernel) (by decide) (fun _ => ⟨(2, 1), by decide⟩)
      (throughout_of_decide ?_) (throughout_of_decide ?_) (by decide) (by decide))
    · decide +kernel
    · decide +kernel
  · obtain ⟨-, -, removed⟩ := served 5 (by decide) (by decide +kernel) (by decide +kernel)
    have opened : .opened 0 ⟨"file"⟩ 0 ∈
        (Batch.smallRun Batch.smallObject .empty (Batch.smallDownload 5)).shared.events := by
      decide +kernel
    have failed : ∃ message, .settled 0 message ∈
          (Batch.smallRun Batch.smallObject .empty (Batch.smallDownload 5)).shared.events ∧
        message.isError = true := by
      refine ⟨.failure "download" "s3://bucket/source to file" "GetObject failed: InvalidRange",
        ?_, rfl⟩
      decide +kernel
    obtain ⟨message, settled, isError⟩ := failed
    exact (removed rfl 0 message opened settled isError).1

end Run
end BulkTransfer
