import BulkTransfer.Proofs.Run.Batches
import BulkTransfer.Proofs.Run.HandSuccession

/-!
# What messages tell

A message about an operation tells of its record (`Pool.Tells`). A record whose object is too large
is skipped with a warning when it is planned, and nothing becomes of it afterwards; a warning comes
from nothing else. Whatever a worker says at the end of an operation, and whatever the planner says
of a first task that is not admitted, is a success or a failure (`Run.tells_of_steps`).
-/

namespace BulkTransfer

open Pool

namespace Pool

/-- Whether the object of a record is larger than an object may be. -/
def Plan.Exceeds (plan : Plan) (record : Record) : Prop :=
  ∃ action, record.action = .ok action ∧ (action = .upload ∨ action = .copy) ∧
    plan.limits.maxObjectSize < record.size

/-- What a message may tell of a record: a warning that its object is too large, if it is so, and
otherwise that its operation succeeded, or why it failed. -/
inductive Tells (plan : Plan) (record : Record) : Notice → Prop where
  | succeeded (allowed : ¬plan.Exceeds record) :
      Tells plan record (.success record.kind.name record.describe)
  | failed (allowed : ¬plan.Exceeds record) (reason : String) :
      Tells plan record (.failure record.kind.name record.describe reason)
  | skipped (exceeds : plan.Exceeds record) :
      Tells plan record
        (.warning
          (Failure.tooLarge record.source.shown record.size plan.limits.maxObjectSize).message)

variable {plan : Plan} {record : Record} {id : OperationId}

lemma Plan.resolve_of_exceeds (exceeds : plan.Exceeds record) :
    plan.resolve record =
      .error (.tooLarge record.source.shown record.size plan.limits.maxObjectSize) := by
  obtain ⟨action, fits, moves, larger⟩ := exceeds
  rw [resolve, fits]
  exact if_pos ⟨moves, larger⟩

/-- A size that cannot be split is no reason for a warning. -/
lemma isWarning_of_split {limits : Limits} {wanted size : Nat} {error : Failure}
    (refused : limits.split wanted size = .error error) : error.isWarning = false := by
  unfold Limits.split at refused
  dsimp only at refused
  split at refused
  · cases refused
  · obtain rfl := Except.error.inj refused
    rfl

/-- Nothing but the size of its object makes the refusal of a record a warning. -/
lemma Plan.isWarning_of_resolve {error : Failure} (refused : plan.resolve record = .error error)
    (allowed : ¬plan.Exceeds record) : error.isWarning = false := by
  unfold resolve at refused
  dsimp only at refused
  split at refused
  · obtain rfl := Except.error.inj refused
    rfl
  · next action fits =>
      split at refused
      · next larger => exact absurd ⟨action, fits, larger.1, larger.2⟩ allowed
      · split at refused
        · cases cut : plan.limits.split plan.config.multipartChunksize record.size with
          | error reason =>
              rw [cut] at refused
              obtain rfl := Except.error.inj refused
              exact isWarning_of_split cut
          | ok split =>
              rw [cut] at refused
              cases refused
        · cases refused

/-- What the end of an operation tells of its record, if the object is not too large. -/
lemma tells_verdict {operation : Operation} (own : operation.record = record)
    (allowed : ¬plan.Exceeds record) (tally : Tally) (outcome : Outcome) :
    Tells plan record (Shared.verdict operation tally outcome).1 := by
  subst own
  cases outcome with
  | succeeded => exact .succeeded allowed
  | failed error => exact .failed allowed error.message
  | undone reason => exact .failed allowed reason

/-- A refusal for something else than a warning is a failure. -/
lemma refusal_of_severe {error : Failure} (severe : error.isWarning = false)
    (operation : Operation) (tally : Tally) :
    Shared.refusal operation tally error = Shared.verdict operation tally (.failed error) := by
  rw [Shared.refusal, severe]
  rfl

/-- What the refusal of a record that cannot be done tells of it. -/
lemma tells_refusal {operation : Operation} {error : Failure} (own : operation.record = record)
    (refused : plan.resolve record = .error error) (tally : Tally) :
    Tells plan record (Shared.refusal operation tally error).1 := by
  by_cases exceeds : plan.Exceeds record
  · rw [Plan.resolve_of_exceeds exceeds] at refused
    obtain rfl := Except.error.inj refused
    exact .skipped exceeds
  · rw [refusal_of_severe (Plan.isWarning_of_resolve refused exceeds)]
    exact tells_verdict own exceeds tally _

/-- A message that a worker adds in its turn is about the end of the operation that it works on. -/
lemma Shared.verdict_of_work {shared after : Shared} {surroundings : Surroundings}
    {activity later : Activity} {notice : Notice}
    (work : shared.work surroundings activity = some (after, later))
    (settled : .settled id notice ∈ after.events) :
    .settled id notice ∈ shared.events ∨
      ∃ outcome, notice = (verdict (shared.operation id) shared.tally outcome).1 := by
  have old (present : .settled id notice ∈ shared.heard) : .settled id notice ∈ shared.events :=
    (List.mem_filter.1 present).1
  have heard : .settled id notice ∈ after.heard := List.mem_filter.2 ⟨settled, rfl⟩
  rcases heard_of_work work with
    same | ⟨own, outcome, -, same⟩ | ⟨own, errand, store, call, -, same⟩
  · rw [same] at heard
    exact .inl (old heard)
  · rw [same] at heard
    rcases List.mem_cons.1 heard with new | before
    · obtain ⟨rfl, rfl⟩ := Event.settled.inj new
      exact .inr ⟨outcome, rfl⟩
    · exact .inl (old before)
  · rw [same] at heard
    exact .inl (old ((List.mem_cons.1 heard).resolve_left nofun))

/-- What is known of the messages about the operation of a record. Of one that is refused when it is
planned nothing becomes afterwards. -/
inductive Told (plan : Plan) (record : Record) (id : OperationId) : View → Prop where
  | planned {view : View} (allowed : ¬plan.Exceeds record) (own : view.operation.record = record)
      (tells : ∀ notice, .settled id notice ∈ view.history → Tells plan record notice) :
      Told plan record id view
  | refused (operation : Operation) {notice : Notice} (tells : Tells plan record notice) :
      Told plan record id ⟨operation, none, 0, [.settled id notice]⟩

lemma Told.tells {view : View} (told : Told plan record id view) {notice : Notice}
    (settled : .settled id notice ∈ view.history) : Tells plan record notice := by
  cases told with
  | planned allowed own tells => exact tells notice settled
  | refused operation tells =>
      obtain ⟨-, rfl⟩ := Event.settled.inj (List.mem_singleton.1 settled)
      exact tells

lemma told_of_begins {view : View} (begins : Begins plan record id view) :
    Told plan record id view := by
  cases begins with
  | proposed operation chore resolved begun =>
      subst begun
      refine .planned (fun exceeds => ?_) (Run.record_of_resolve resolved) nofun
      cases (Plan.resolve_of_exceeds exceeds).symm.trans resolved
  | refused error tally resolved begun =>
      subst begun
      exact .refused _ (tells_refusal (Run.operationFor_record plan record) resolved tally)

end Pool

namespace Run

variable {run next : Run} {move : Move} {plan : Plan} {record : Record} {id : OperationId}

/-- A step adds no message about an operation but one that tells of its record. -/
lemma told_of_seen (told : Told plan record id (run.view id)) (seen : Seen run next move id)
    (inside : id < run.shared.operations.length) : Told plan record id (next.view id) := by
  generalize same : run.view id = before at told
  cases told with
  | refused operation tells =>
      have idle : run.proposed id = none := congrArg View.proposed same
      have nobody : run.hands id = 0 := congrArg View.hands same
      cases seen with
      | same view =>
          rw [view, same]
          exact .refused operation tells
      | admitted chore proposed | refused chore error proposed => cases idle.symm.trans proposed
      | turned activity later rest index actor working own hands =>
          exact absurd (hands.symm.trans nobody) (Multiset.cons_ne_zero)
  | planned allowed own tells =>
      subst same
      have own : (run.shared.operation id).record = record := own
      have still : (next.view id).operation.record = record := by
        rw [seen.operation_eq inside]
        exact own
      refine .planned allowed still fun notice settled => ?_
      cases seen with
      | same view => exact tells notice (view ▸ settled)
      | admitted chore proposed disk view => exact tells notice (by rwa [view] at settled)
      | refused chore error proposed shared view other barred severe =>
          rw [view] at settled
          rcases List.mem_cons.1 settled with new | old
          · obtain ⟨-, rfl⟩ := Event.settled.inj new
            rw [refusal_of_severe severe]
            exact tells_verdict own allowed _ _
          · exact tells notice old
      | turned activity later rest index actor working owns hands work view =>
          rcases Shared.verdict_of_work work ((mem_history rfl).1 settled) with old | ⟨outcome, rfl⟩
          · exact tells notice ((mem_history rfl).2 old)
          · exact tells_verdict own allowed _ outcome

variable {batch : Batch} {disk : Disk} {records : List Record} {moves : List Move}

/-- Every message tells of the record of its operation. -/
theorem tells_of_steps (reached : (batch.start disk records).steps moves = some run)
    {notice : Notice} (settled : .settled id notice ∈ run.shared.events) :
    ∃ record, records[id]? = some record ∧ Tells batch.plan record notice := by
  have present : .settled id notice ∈ run.shared.history id := (mem_history rfl).2 settled
  have inside := inside_of_history reached present
  have listed := (sound_of_steps reached).1.record_of inside
  have told := each_course listed (fun view => told_of_begins)
    (fun run move next inside told seen => told_of_seen told seen inside) reached inside
  exact ⟨_, listed, told.tells present⟩

end Run
end BulkTransfer
