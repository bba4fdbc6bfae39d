import BulkTransfer.Proofs.Run.TurnEvents
import BulkTransfer.Proofs.Run.Turns

/-!
# What hands pass on

What holds of a hand and is passed on to whatever follows it, to the worker's next activity and to
the tasks that it brings into the queue, holds of all hands of an operation that begins with it; and
so what such hands note holds of all that happens to the operation (`Run.Seen.each`).
-/

namespace BulkTransfer

open Pool

namespace Run

variable {run next : Run} {move : Move} {id : OperationId}

/-- A step leaves what an operation is, but for the state of its parts. -/
lemma Seen.operation_eq (seen : run.Seen next move id)
    (inside : id < run.shared.operations.length) :
    (next.view id).operation = { run.shared.operation id with
      upload := (next.view id).operation.upload
      download := (next.view id).operation.download } := by
  cases seen with
  | same view => rw [view]; rfl
  | admitted chore proposed disk view => rw [view]
  | refused chore error proposed shared view => rw [view]
  | turned activity later rest index actor working own hands work view =>
      obtain ⟨operation, notes, queued, changed⟩ := (Shared.stays_of_work inside own work).1
      rw [view operation notes queued changed]
      exact changed.same

/-- A step proposes nothing for an operation that is there. -/
lemma Seen.proposed_of {chore : Chore} (seen : run.Seen next move id)
    (inside : id < run.shared.operations.length) (first : (next.view id).proposed = some chore) :
    run.proposed id = some chore := by
  cases seen with
  | same view => rwa [view] at first
  | admitted _ _ _ view | refused _ _ _ _ view =>
      rw [view] at first
      cases first
  | turned activity later rest index actor working own hands work view =>
      obtain ⟨operation, notes, queued, changed⟩ := (Shared.stays_of_work inside own work).1
      rwa [view operation notes queued changed] at first

/-- What hands pass on, and what holds of the events that such hands note, holds of all hands and of
all events after a step if it did so before. -/
theorem Seen.each {holds : Activity → Prop} {tells : Event → Prop} (seen : run.Seen next move id)
    (inside : id < run.shared.operations.length)
    (proposed : ∀ chore, run.proposed id = some chore → holds (.starting id chore))
    (hands : ∀ hand ∈ run.hands id, holds hand)
    (history : ∀ event ∈ run.shared.history id, tells event)
    (settled : ∀ message, tells (.settled id message))
    (turns : ∀ hand later, holds hand → run.activityOf? move.actor = some hand →
      hand.operation? = some id →
      run.shared.work move.surroundings hand = some (next.shared, later) → holds later)
    (queues : ∀ hand chore, holds hand →
      hand.queues? (run.shared.operation id) = some chore → holds (.starting id chore))
    (notes : ∀ hand event, holds hand → hand.Notes event → tells event) :
    (∀ hand ∈ (next.view id).hands, holds hand) ∧
      ∀ event ∈ (next.view id).history, tells event := by
  cases seen with
  | same view =>
      rw [view]
      exact ⟨hands, history⟩
  | admitted chore given disk view =>
      rw [view]
      refine ⟨?_, history⟩
      intro hand (present : hand ∈ Activity.starting id chore ::ₘ run.hands id)
      rcases Multiset.mem_cons.1 present with rfl | old
      · exact proposed chore given
      · exact hands hand old
  | refused chore error given shared view =>
      rw [view]
      exact ⟨hands, List.forall_mem_cons.2 ⟨settled _, history⟩⟩
  | turned hand later rest index actor working own split work view =>
      obtain ⟨operation, noted, queued, changed⟩ := (Shared.stays_of_work inside own work).1
      obtain ⟨brought, told⟩ := (Shared.noted_of_work own work).of_changed changed
      have mine := hands hand (split ▸ Multiset.mem_cons_self hand rest)
      rw [view operation noted queued changed]
      refine ⟨fun other present => ?_, ?_⟩
      · rcases Multiset.mem_add.1 present with new | old
        · rcases Activity.mem_leaves new with ⟨rfl, -⟩ | ⟨chore, rfl, rfl⟩
          · refine turns hand _ mine ?_ own work
            rw [actor]
            exact working
          · exact queues hand chore mine (brought chore rfl).1
        · exact hands other (split ▸ Multiset.mem_cons_of_mem old)
      · refine List.forall_mem_append.2 ⟨fun event present => ?_, history⟩
        exact notes hand event mine (told event present)

end Run
end BulkTransfer
