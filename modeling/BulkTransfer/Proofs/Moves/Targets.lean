import BulkTransfer.Proofs.Moves.Transferring
import BulkTransfer.Proofs.Run.ScheduledMoves
import BulkTransfer.Proofs.Run.HandSuccession

/-!
# What a deletion names

An object is deleted for an operation only as the source of its record, in the store of the source
(`Run.deletesOnly_of_steps`). So a move from one object to another spares what it has written,
whatever happens in the run, unless both are the same object (`Run.deletion_names_source`). Nothing
keeps a record from asking for that, and such a move deletes its target
(`Run.selfMove_deletes_target`).
-/

namespace BulkTransfer

open Pool

/-- Whether a call, if it deletes an object, is one to delete the source of an operation. -/
def Pool.Operation.DeletesOnly (operation : Operation) (store : StoreName) (call : Call) : Prop :=
  ∀ object, call = .deleteObject object →
    operation.record.source = .object object ∧ store = operation.sourceStore

namespace Pool

/-- Whether a hand is at no call to delete another object than the source of an operation. -/
def Activity.DeletesOnly (operation : Operation) : Activity → Prop
  | .sending _ _ store call | .awaiting _ _ store call => operation.DeletesOnly store call
  | _ => True

/-- Whether an event is no call to delete another object than the source of an operation. -/
def Event.DeletesOnly (operation : Operation) : Event → Prop
  | .called store _ call => operation.DeletesOnly store call
  | _ => True

/-- What holds at any time of an operation that deletes no object but its source, `planned` being
what it was planned as. -/
structure View.DeletesOnly (planned : Operation) (view : View) : Prop where
  record : view.operation.record = planned.record
  owner : view.operation.sourceStore = planned.sourceStore
  hands : ∀ hand ∈ view.hands, hand.DeletesOnly planned
  history : ∀ event ∈ view.history, event.DeletesOnly planned

variable {shared : Shared} {id : OperationId}

/-- A task that comes to the deletion of an object comes to that of the source. -/
lemma deletesOnly_start {chore : Chore} {errand : Errand} {store : StoreName} {call : Call}
    (goes : (shared.start id chore).2 = .sending id errand store call) :
    (shared.operation id).DeletesOnly store call := by
  rintro object rfl
  have follows := @Shared.follows_start shared id chore
  rw [goes] at follows
  cases follows with
  | calls store calls =>
      obtain ⟨made, way⟩ := calls.makes
      obtain rfl := Errand.eq_delete_of_makes made
      cases calls
      simp only [Shared.start, Shared.startDelete] at goes
      cases source : (shared.operation id).record.source with
      | file path =>
          simp only [source, Location.path?] at goes
          split at goes <;> cases goes
      | object other =>
          simp only [source, Location.path?, Operation.deleteCall, Operation.objectRead,
            Location.object?, bind, Except.bind] at goes
          obtain ⟨-, -, rfl, same⟩ := Activity.sending.inj goes
          obtain rfl := Call.deleteObject.inj same
          exact ⟨rfl, rfl⟩

lemma deletesOnly_afterTransfer (operation planned : Operation) :
    (Activity.afterTransfer operation id).DeletesOnly planned := by
  unfold Activity.afterTransfer
  split <;> exact trivial

/-- A hand that deletes no object but the source goes on so. -/
lemma Activity.DeletesOnly.turn {planned : Operation} {surroundings : Surroundings}
    {activity later : Activity} {after : Shared} (own : activity.operation? = some id)
    (record : (shared.operation id).record = planned.record)
    (owner : (shared.operation id).sourceStore = planned.sourceStore)
    (only : activity.DeletesOnly planned)
    (work : shared.work surroundings activity = some (after, later)) :
    later.DeletesOnly planned := by
  cases Shared.follows_of_work own work
  case calls =>
    have starts := deletesOnly_start (congrArg Prod.snd (Option.some.inj work))
    rwa [Operation.DeletesOnly, record, owner] at starts
  case waits => exact only
  case hasRead =>
    intro object same
    cases same
  case stored | transferred | stamped => exact deletesOnly_afterTransfer ..
  case notFollowed followUp error => cases followUp <;> exact trivial
  case written extent path file offset body spent => cases extent <;> exact trivial
  case unwritten extent path file offset body cause => cases extent <;> exact trivial
  all_goals exact trivial

/-- What such a hand notes is no other deletion either. -/
lemma Activity.DeletesOnly.notes {operation : Operation} {activity : Activity} {event : Event}
    (only : activity.DeletesOnly operation) (notes : activity.Notes event) :
    event.DeletesOnly operation := by
  cases event
  case called store own call =>
    obtain ⟨errand, rfl⟩ := notes
    exact only
  all_goals exact trivial

end Pool

namespace Run

variable {batch : Batch} {disk : Disk} {records : List Record} {moves : List Move} {run : Run}
  {id : OperationId} {record : Record}

/-- Every step of a run goes on with an operation that deletes no object but its source. -/
lemma deletesOnly_step {planned : Operation} {next : Run} {move : Move}
    (inside : id < run.shared.operations.length) (before : (run.view id).DeletesOnly planned)
    (seen : run.Seen next move id) : (next.view id).DeletesOnly planned := by
  have same := seen.operation_eq inside
  obtain ⟨hands, history⟩ := @Seen.each run next move id (·.DeletesOnly planned)
    (·.DeletesOnly planned) seen inside (fun _ _ => trivial) before.hands before.history
    (fun _ => trivial)
    (fun hand later only _ own work => only.turn own before.record before.owner work)
    (fun _ _ _ _ => trivial) (fun hand event only notes => only.notes notes)
  refine ⟨?_, ?_, hands, history⟩
  · rw [same]
    exact before.record
  · rw [same]
    exact before.owner

/-- Whatever happens in a run, no object but the source is deleted for an operation. -/
theorem deletesOnly_of_steps (listed : records[id]? = some record)
    (reached : (batch.start disk records).steps moves = some run)
    (inside : id < run.shared.operations.length) :
    (run.view id).DeletesOnly (batch.plan.operationFor record) := by
  have begun (view : View) (begins : Begins batch.plan record id view) :
      view.DeletesOnly (batch.plan.operationFor record) := by
    cases begins with
    | proposed operation chore resolved begun =>
        have same : operation.record = (batch.plan.operationFor record).record ∧
            operation.sourceStore = (batch.plan.operationFor record).sourceStore := by
          cases planned_of_resolve resolved <;> exact ⟨rfl, rfl⟩
        rw [begun]
        exact ⟨same.1, same.2, no_hand, List.forall_mem_nil _⟩
    | refused error tally resolved begun =>
        rw [begun]
        exact ⟨rfl, rfl, no_hand, List.forall_mem_singleton.2 trivial⟩
  exact each_course listed begun (fun run move next inside before seen =>
    deletesOnly_step inside before seen) reached inside

/-- What a deletion names, whatever happens in the run: the source of the record, in the store of
the source. So it names the destination of a move exactly if that is the source as well. -/
theorem deletion_names_source {store : StoreName} {object : ObjectName}
    (listed : records[id]? = some record)
    (reached : (batch.start disk records).steps moves = some run)
    (called : .called store id (.deleteObject object) ∈ run.shared.history id) :
    record.source = .object object ∧ store = (batch.plan.operationFor record).sourceStore ∧
      (record.destination = some (.object object) ↔ record.destination = some record.source) := by
  have inside := inside_of_history reached called
  have only := deletesOnly_of_steps listed reached inside
  obtain ⟨named, owned⟩ := only.history _ called object rfl
  have named : record.source = .object object := named
  exact ⟨named, owned, by rw [named]⟩

end Run

namespace Batch

/-- A record that moves an object of one byte. -/
def smallRename (target : ObjectName) : Record :=
  { Record.move (.object ⟨"bucket", "source"⟩) (.object target) with size := 1 }

end Batch

namespace Run

theorem smallRename_deletion :
    .called "store" 0 (.deleteObject ⟨"bucket", "source"⟩) ∈
        (Batch.smallRun { answersAll := true } Disk.empty
          (Batch.smallRename ⟨"bucket", "target"⟩)).shared.history 0 ∧
      ((Batch.smallRename ⟨"bucket", "target"⟩).destination =
          some (.object ⟨"bucket", "source"⟩) ↔
        (Batch.smallRename ⟨"bucket", "target"⟩).destination =
          some (Batch.smallRename ⟨"bucket", "target"⟩).source) := by
  have listed : [Batch.smallRename ⟨"bucket", "target"⟩][0]? =
      some (Batch.smallRename ⟨"bucket", "target"⟩) := rfl
  have reached := Batch.steps_smallMoves { answersAll := true } Disk.empty
    (Batch.smallRename ⟨"bucket", "target"⟩)
  have called : .called "store" 0 (.deleteObject ⟨"bucket", "source"⟩) ∈
      (Batch.smallRun { answersAll := true } Disk.empty
        (Batch.smallRename ⟨"bucket", "target"⟩)).shared.history 0 := by
    decide +kernel
  exact ⟨called, (deletion_names_source listed reached called).2.2⟩

/-- A move of an object onto itself. It is accepted and said to have succeeded, and the last of its
calls deletes what the ones before have written. -/
theorem selfMove_deletes_target :
    (Batch.smallRename ⟨"bucket", "source"⟩).action = .ok .copy ∧
      (Batch.smallRun { answersAll := true } Disk.empty
        (Batch.smallRename ⟨"bucket", "source"⟩)).shared.tally = { succeeded := 1 } ∧
      (Batch.smallRun { answersAll := true } Disk.empty
        (Batch.smallRename ⟨"bucket", "source"⟩)).shared.calls.reverse.take 2 =
          [("store", .deleteObject ⟨"bucket", "source"⟩),
            ("store", .completeUpload ⟨"bucket", "source"⟩ "upload-id" [⟨1, "etag-1"⟩])] := by
  refine ⟨rfl, ?_, ?_⟩ <;> decide +kernel

end Run
end BulkTransfer
