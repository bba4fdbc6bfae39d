import BulkTransfer.Proofs.Run.Batches
import BulkTransfer.Proofs.Run.ScheduledMoves
import BulkTransfer.Proofs.Upload.Course

/-!
# The calls of an upload in a run

In every state of every run the calls that were made for a multipart upload were permitted when
they were made, and an upload that has been completed is not aborted as well.
-/

namespace BulkTransfer

open Pool Multipart

namespace Pool

/-- Whether the upload of an operation has been completed. -/
def Completed (id : OperationId) (history : List Event) : Prop :=
  ∃ store object uploadId parts reply,
    .answered store id (.completeUpload object uploadId parts) (.reply reply) ∈ history

/-- Whether the abort of the upload of an operation has been called. -/
def Aborted (id : OperationId) (history : List Event) : Prop :=
  ∃ store object uploadId, .called store id (.abortUpload object uploadId) ∈ history

/-- A hand that is alone neither completes nor aborts an upload. -/
lemma SoleCourse.not_ended {id : OperationId} {hands : Multiset Activity} {since : List Event}
    (course : SoleCourse id hands since) : ¬Completed id since ∧ ¬Aborted id since := by
  constructor
  · rintro ⟨store, object, uploadId, parts, reply, present⟩
    rcases course.isPlain_or_settled present with plain | ⟨message, settled⟩
    · cases plain
    · cases settled
  · rintro ⟨store, object, uploadId, present⟩
    rcases course.isPlain_or_settled present with plain | ⟨message, settled⟩
    · cases plain
    · cases settled

lemma completed_append {id : OperationId} {notes history : List Event} :
    Completed id (notes ++ history) ↔ Completed id notes ∨ Completed id history := by
  simp only [Completed, List.mem_append, exists_or]

lemma aborted_append {id : OperationId} {notes history : List Event} :
    Aborted id (notes ++ history) ↔ Aborted id notes ∨ Aborted id history := by
  simp only [Aborted, List.mem_append, exists_or]

lemma Uncompleted.not_ended {id : OperationId} {object : ObjectName} {uploadId : String}
    {parts : List FinishedPart} {since : List Event}
    (uncompleted : Uncompleted id object uploadId parts since) :
    ¬Completed id since ∧ ¬Aborted id since := by
  cases uncompleted <;> simp [Completed, Aborted]

/-- An upload is steered to its completion or to its abort. -/
lemma Steering.not_both {record : Record} {id : OperationId} {object : ObjectName}
    {uploadId : String} {phase : Phase} {failure : Option String} {finished : List FinishedPart}
    {leads : Multiset Activity} {since : List Event}
    (steering : Steering record id object uploadId phase failure finished leads since) :
    ¬(Completed id since ∧ Aborted id since) := by
  rintro ⟨completed, aborted⟩
  cases steering with
  | parts | completing | completeCalled | completeAnswered => simp [Aborted] at aborted
  | completed _ _ alone | completeCrashed _ _ alone =>
      rcases aborted_append.1 aborted with late | early
      · exact alone.not_ended.2 late
      · simp [Aborted] at early
  | incomplete _ uncompleted | aborting uncompleted => exact uncompleted.not_ended.1 completed
  | abortCalled uncompleted | abortAnswered uncompleted | undone uncompleted
  | settled uncompleted =>
      exact uncompleted.not_ended.1 (by simpa [Completed] using completed)
  | abortCrashed uncompleted _ _ alone =>
      rcases completed_append.1 completed with late | early
      · exact alone.not_ended.1 late
      · exact uncompleted.not_ended.1 (by simpa [Completed] using early)

/-- What ends an upload has happened since its creation. -/
lemma Going.ended_since {parts : Nat} {record : Record} {id : OperationId} {object : ObjectName}
    {uploadId : String} {upload : Upload} {hands : Multiset Activity} {history since : List Event}
    (going : Going parts record id object uploadId upload hands history since) :
    (Completed id history → Completed id since) ∧ (Aborted id history → Aborted id since) := by
  obtain ⟨created, attributes, answer, -, steered⟩ := going.steered
  constructor
  · rintro ⟨store, object, uploadId, parts, reply, present⟩
    have kept : .answered store id (.completeUpload object uploadId parts) (.reply reply) ∈
        history.filter (!·.isPart) := List.mem_filter.2 ⟨present, rfl⟩
    rw [steered] at kept
    exact ⟨store, object, uploadId, parts, reply, by simpa using kept⟩
  · rintro ⟨store, object, uploadId, present⟩
    have kept : .called store id (.abortUpload object uploadId) ∈ history.filter (!·.isPart) :=
      List.mem_filter.2 ⟨present, rfl⟩
    rw [steered] at kept
    exact ⟨store, object, uploadId, by simpa using kept⟩

lemma UploadCourse.not_both {parts : Nat} {record : Record} {id : OperationId}
    {object : ObjectName} {view : View} (course : UploadCourse parts record id object view) :
    ¬(Completed id view.history ∧ Aborted id view.history) := by
  obtain ⟨operation, proposed, hands, history⟩ := view
  rintro ⟨completed, aborted⟩
  cases course.stage with
  | opening set opening =>
      cases opening <;> simp [Aborted] at aborted
  | uncreated set total admitted alone nameless split =>
      rw [show history = _ from split] at aborted
      rcases aborted_append.1 aborted with late | early
      · exact alone.not_ended.2 late
      · cases nameless <;> simp [Aborted] at early
  | going set admitted going =>
      exact going.steering.not_both ⟨going.ended_since.1 completed, going.ended_since.2 aborted⟩

end Pool

namespace Run

variable {batch : Batch} {disk : Disk} {records : List Record} {moves : List Move} {run : Run}
  {id : OperationId} {record : Record} {operation : Operation} {chore : Chore}
  {upload : Multipart.Upload}

/-- What is planned as a multipart upload runs the course of one. -/
lemma upload_course (valid : batch.plan.Valid) (listed : records[id]? = some record)
    (planned : batch.plan.resolve record = .ok (operation, chore))
    (split : operation.upload = some upload)
    (reached : (batch.start disk records).steps moves = some run)
    (inside : id < run.shared.operations.length) :
    ∃ object, record.destination.bind Location.object? = some object ∧
      0 < upload.progress.total ∧
        UploadCourse upload.progress.total record id object (run.view id) := by
  cases planned_of_resolve planned with
  | whole => cases split
  | download => cases split
  | @upload object parts chunksize remote cut sized =>
      obtain rfl := Option.some.inj split
      obtain ⟨-, -, several⟩ := Limits.of_split valid.limits sized cut
      refine ⟨object, remote, several, ?_⟩
      refine each_course listed (fun view begins => ?_) (fun run move next inside course seen =>
        (course.step inside several remote seen).1) reached inside
      cases begins with
      | refused error tally resolved =>
          rw [planned] at resolved
          cases resolved
      | proposed operation chore resolved begun =>
          rw [planned] at resolved
          obtain ⟨rfl, rfl⟩ := Prod.mk.inj (Except.ok.inj resolved)
          rw [begun]
          exact ⟨rfl, inOrder_nil id _, .opening rfl .proposed⟩

/-- Every call that a run makes for a multipart upload in `n` parts is permitted when it is made,
and no upload is both completed and aborted. -/
theorem upload_calls_inOrder (valid : batch.plan.Valid) (listed : records[id]? = some record)
    (planned : batch.plan.resolve record = .ok (operation, chore))
    (split : operation.upload = some upload)
    (reached : (batch.start disk records).steps moves = some run) :
    InOrder id upload.progress.total (run.shared.history id) ∧
      ¬(Completed id (run.shared.history id) ∧ Aborted id (run.shared.history id)) := by
  by_cases inside : id < run.shared.operations.length
  · obtain ⟨object, -, -, course⟩ := upload_course valid listed planned split reached inside
    exact ⟨course.order, course.not_both⟩
  · rw [history_of_absent reached (not_lt.1 inside)]
    exact ⟨inOrder_nil id _, by simp [Completed]⟩

/-- The calls for a copy in two parts are in order, and it is not completed and aborted. -/
theorem smallCopy_inOrder :
    InOrder 0 2 ((Batch.smallRun { answersAll := true } .empty Batch.smallCopy).shared.history 0) ∧
      ¬(Completed 0
          ((Batch.smallRun { answersAll := true } .empty Batch.smallCopy).shared.history 0) ∧
        Aborted 0
          ((Batch.smallRun { answersAll := true } .empty Batch.smallCopy).shared.history 0)) :=
  upload_calls_inOrder Batch.small_valid rfl Batch.smallCopy_planned rfl
    (Batch.steps_smallMoves ..)

end Run
end BulkTransfer
