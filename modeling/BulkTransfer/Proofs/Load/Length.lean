import BulkTransfer.Proofs.Run.ScheduledMoves
import BulkTransfer.Proofs.Run.TurnEvents
import BulkTransfer.Proofs.Run.OperationSteps

/-!
# The length of the queue

A follow-up comes into the queue whether or not there is room, but the worker that brings it is idle
then, so that the queue and the workers that are at work hold no more together than before. A worker
that goes on after it has queued a part has found room for it, as the planner does. So the queue is
never longer than its capacity and the number of workers (`Run.length_within`).
-/

namespace BulkTransfer

open Pool

namespace Pool

/-- How many of the workers work on an operation. -/
def busyAmong (workers : List Activity) : Nat :=
  workers.countP (·.operation?.isSome)

/-- What changes when one worker changes over to another activity. -/
lemma busyAmong_set {workers : List Activity} {index : Nat} {activity : Activity}
    (working : workers[index]? = some activity) (later : Activity) :
    busyAmong (workers.set index later) + busyAmong [activity] =
      busyAmong workers + busyAmong [later] := by
  obtain ⟨inside, rfl⟩ := List.getElem?_eq_some_iff.1 working
  have before := (List.getElem_cons_eraseIdx_perm inside).countP_eq (·.operation?.isSome)
  have after := (List.set_perm_cons_eraseIdx inside later).countP_eq (·.operation?.isSome)
  simp only [busyAmong, List.countP_cons, List.countP_nil] at before after ⊢
  omega

/-- The turn of a worker adds at most one job to the queue, for which there was room unless the
worker is idle then. -/
lemma Shared.length_of_work {shared after : Shared} {surroundings : Surroundings}
    {activity later : Activity} {id : OperationId} (own : activity.operation? = some id)
    (work : shared.work surroundings activity = some (after, later)) :
    after.queue.capacity = shared.queue.capacity ∧
      (after.queue.length = shared.queue.length ∨
        after.queue.length = shared.queue.length + 1 ∧
          (shared.queue.length < shared.queue.capacity ∨ later = .idle)) := by
  cases noted_of_work own work with
  | nothing queue | noted _ _ queue => exact ⟨by rw [queue], .inl (by rw [queue])⟩
  | queued chore queues goes queue =>
      dsimp only at queue goes
      refine ⟨by rw [queue, Queue.capacity_push], .inr ⟨by rw [queue, Queue.length_push], ?_⟩⟩
      cases activity
      case forcing | following => exact .inr goes
      case offering own side index =>
        left
        simp only [Shared.work, offer, Option.some.injEq] at work
        split at work
        · next filled accepted => exact Queue.length_lt_of_insert accepted
        · cases goes.symm.trans (congrArg Prod.snd work).symm
        · cases goes.symm.trans (congrArg Prod.snd work).symm
      all_goals cases queues

end Pool

namespace Run

/-- The queue and the busy workers hold no more than there is room for in a queue of the capacity
and in the hands of the workers. -/
structure Within (run : Run) (capacity : Nat) : Prop where
  same : run.shared.queue.capacity = capacity
  length : run.shared.queue.length + busyAmong run.workers ≤ capacity + run.workers.length

variable {records : List Record} {run next : Run} {move : Move} {capacity : Nat}

lemma Within.start (plan : Plan) (wanted workers : Nat) (disk : Disk) (records : List Record) :
    (Run.start plan { queue := Queue.ofCapacity wanted, operations := [], disk := disk } workers
      records).Within (max wanted 1) where
  same := rfl
  length := by
    have idle : busyAmong (List.replicate workers .idle) = 0 := by
      simp [busyAmong, List.countP_replicate, Activity.operation?]
    simp [Run.start, Queue.ofCapacity, idle]

/-- An insertion of the planner is one that needs room. -/
lemma Within.insert (within : run.Within capacity) {entry : Entry Job} {filled : Queue Job}
    (accepted : run.shared.queue.insert entry none = .accepted filled) :
    filled.capacity = capacity ∧
      filled.length + busyAmong run.workers ≤ capacity + run.workers.length := by
  have room := Queue.length_lt_of_insert accepted
  have busy : busyAmong run.workers ≤ run.workers.length := List.countP_le_length
  have own := within.same
  rw [Queue.eq_push_of_insert accepted, Queue.capacity_push, Queue.length_push]
  omega

/-- Every step keeps within the bound. -/
lemma Within.step (within : run.Within capacity) (step : run.step move = some next) :
    next.Within capacity := by
  obtain ⟨actor, surroundings⟩ := move
  cases actor with
  | planner =>
      obtain ⟨shared, stage, advances, rfl⟩ := step_planner step
      generalize run.planner = before at advances
      cases advances with
      | admitted accepted | dismissed accepted =>
          obtain ⟨capacity, length⟩ := within.insert accepted
          exact ⟨capacity, length⟩
      | turnedAway refused ends =>
          rcases ends with rfl | ⟨task, rfl⟩ <;> exact ⟨within.same, within.length⟩
      | unplannable | planned | barred | passed | waned | joined =>
          exact ⟨within.same, within.length⟩
  | worker index =>
      obtain ⟨own, length⟩ := within
      cases works_of_step step with
      | @turn activity later id shared working owns work =>
          obtain ⟨capacity, grows⟩ := Shared.length_of_work owns work
          have changed := busyAmong_set working later
          have one : busyAmong [activity] = 1 := by simp [busyAmong, owns]
          have most : busyAmong [later] ≤ 1 := List.countP_le_length
          have all : busyAmong (run.workers.set index later) ≤
              (run.workers.set index later).length := List.countP_le_length
          refine ⟨capacity.trans own, ?_⟩
          rw [List.length_set] at all ⊢
          dsimp only
          rcases grows with same | ⟨longer, room | rfl⟩
          · omega
          · omega
          · have none : busyAmong [.idle] = 0 := rfl
            omega
      | @take job rest working taken =>
          have changed := busyAmong_set working (job.hand?.getD .dismissed)
          have most : busyAmong [job.hand?.getD .dismissed] ≤ 1 := List.countP_le_length
          have shorter := Queue.length_of_take? taken
          refine ⟨(Queue.capacity_of_take? taken).trans own, ?_⟩
          simp only [Shared.note, List.length_set]
          omega
      | leave working closed =>
          have changed := busyAmong_set working .dismissed
          have none : busyAmong [.dismissed] = 0 := rfl
          refine ⟨own, ?_⟩
          simp only [List.length_set]
          omega

variable {batch : Batch} {disk : Disk} {moves : List Move}

/-- In every state of a run the jobs in the queue and the workers that work on an operation are
together no more than the capacity of the queue and the workers. So the queue of a configuration
that can be used is at most longer by the number of the workers than it should be. -/
theorem length_within (reached : (batch.start disk records).steps moves = some run) :
    run.shared.queue.length + busyAmong run.workers ≤
        max batch.config.maxQueueSize 1 + batch.config.maxConcurrentRequests ∧
      (batch.config.validate = .ok () →
        run.shared.queue.length ≤
          batch.config.maxQueueSize + batch.config.maxConcurrentRequests) := by
  have kept (run : Run) (move : Move) (next : Run)
      (within : run.Within (max batch.config.maxQueueSize 1)) (_ : True)
      (step : run.step move = some next) : next.Within (max batch.config.maxQueueSize 1) :=
    within.step step
  have within := steps_induction kept (Within.start ..) (fun _ _ _ _ _ _ => trivial) reached
  obtain ⟨-, -, workers⟩ := sound_of_steps reached
  have length := within.length
  rw [workers] at length
  refine ⟨length, fun usable => ?_⟩
  have some : batch.config.maxQueueSize ≠ 0 := by
    intro none
    simp only [Config.validate, none] at usable
    split at usable <;> cases usable
  omega

/-- While a copy in two parts waits for its first, the queue has one job more than its capacity, and
the worker is idle. -/
theorem smallCopy_length_within :
    ∃ run, (Batch.small.start .empty [Batch.smallCopy]).steps
        ((Batch.smallMoves { answersAll := true } .empty Batch.smallCopy).take 16) = some run ∧
      run.shared.queue.length = 2 ∧ busyAmong run.workers = 0 ∧
        run.shared.queue.length ≤ 1 + 1 := by
  have filled : ((Batch.small.start .empty [Batch.smallCopy]).steps
      ((Batch.smallMoves { answersAll := true } .empty Batch.smallCopy).take 16)).map
        (·.shared.queue.length) = some 2 := by decide +kernel
  obtain ⟨run, reached, length⟩ := Option.map_eq_some_iff.1 filled
  obtain ⟨together, alone⟩ := length_within reached
  have idle : busyAmong run.workers = 0 := by
    rw [length] at together
    exact Nat.le_zero.1 (Nat.le_of_add_le_add_left together)
  exact ⟨run, reached, length, idle, alone rfl⟩

end Run
end BulkTransfer
