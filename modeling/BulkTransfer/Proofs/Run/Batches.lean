import BulkTransfer.Proofs.Planning
import BulkTransfer.Proofs.Run.HeardEvents

/-!
# Runs of batches

What is known of a run of a batch before anything is said of its operations: an operation that is
not there yet has nothing happening to it, and at the end of the run every record has its operation
and nobody works on any (`Run.at_end`).
-/

namespace BulkTransfer

open Pool

namespace Run

variable {batch : Batch} {disk : Disk} {records : List Record} {moves : List Move} {run : Run}

/-- Nothing happens to an operation that is not there yet. -/
lemma history_of_absent {id : OperationId}
    (reached : (batch.start disk records).steps moves = some run)
    (absent : run.shared.operations.length ≤ id) : run.shared.history id = [] :=
  ((sound_of_steps reached).1.known id absent).2

lemma mem_history {id : OperationId} {event : Event} (about : event.operation? = some id) :
    event ∈ run.shared.history id ↔ event ∈ run.shared.events := by
  rw [Shared.history, List.mem_filter]
  exact and_iff_left (decide_eq_true about)

/-- An operation to which something has happened is there. -/
lemma inside_of_history {id : OperationId} {event : Event}
    (reached : (batch.start disk records).steps moves = some run)
    (present : event ∈ run.shared.history id) : id < run.shared.operations.length := by
  refine Nat.lt_of_not_le fun absent => ?_
  rw [history_of_absent reached absent] at present
  cases present

/-- At the end of a run every record has its operation, and no operation has a hand. -/
theorem at_end (valid : batch.plan.Valid)
    (reached : (batch.start disk records).steps moves = some run) (ended : run.hasEnded = true) :
    run.shared.operations.map (·.record) = records ∧
      ∀ id, run.hands id = 0 ∧ run.proposed id = none := by
  obtain ⟨sound, -, workers⟩ := sound_of_steps reached
  have concluded : run.planner = .ended := of_decide_eq_true ended
  have some : 0 < run.workers.length := by
    rw [workers]
    exact Config.workers_of_validate valid.config
  refine ⟨?_, sound.hands_of_ended (List.ne_nil_of_length_pos some) concluded⟩
  have planned := sound.planned
  rw [concluded] at planned
  exact (List.append_nil _).symm.trans planned

/-- The record that an operation was planned from is its own at the end. -/
lemma inside_at_end {id : OperationId} {record : Record}
    (all : run.shared.operations.map (·.record) = records) (listed : records[id]? = some record) :
    id < run.shared.operations.length := by
  obtain ⟨inside, -⟩ := List.getElem?_eq_some_iff.1 listed
  rw [← all, List.length_map] at inside
  exact inside

/-- What holds of the operation of a record when it begins, and is kept by every step of a run,
holds whenever the operation is there. -/
lemma each_course {holds : View → Prop} {id : OperationId} {record : Record}
    (listed : records[id]? = some record)
    (begun : ∀ view, Begins batch.plan record id view → holds view)
    (kept : ∀ (run : Run) (move : Move) (next : Run), id < run.shared.operations.length →
      holds (run.view id) → Seen run next move id → holds (next.view id))
    (reached : (batch.start disk records).steps moves = some run)
    (inside : id < run.shared.operations.length) : holds (run.view id) := by
  have goes (run : Run) (move : Move) (next : Run) (_ : run.Sound records)
      (inside : id < run.shared.operations.length) (before : holds (run.view id)) (_ : True)
      (_ : run.step move = some next) (seen : Seen run next move id) : holds (next.view id) :=
    kept run move next inside before seen
  have always : (batch.start disk records).Throughout (fun _ _ => True) moves :=
    fun _ _ _ _ _ _ => trivial
  exact each_step listed (fun run => begun (run.view id)) goes reached always inside

end Run
end BulkTransfer
