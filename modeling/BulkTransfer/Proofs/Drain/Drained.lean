import BulkTransfer.Proofs.Drain.Effort
import BulkTransfer.Proofs.Drain.Roster
import BulkTransfer.Proofs.Run.ScheduledMoves
import BulkTransfer.Proofs.Run.Turns

/-!
# Runs that are drained

Every job that comes into the queue is taken from it once, and the worker that takes a task carries
it out in its next move; a worker takes nothing after a dismissal. So a run, which always comes to
an end and never waits for itself, ends with an empty queue, one dismissal for each worker, and
every accepted task carried out (`Run.ends_drained`).
-/

namespace BulkTransfer

open Pool

/-- The jobs that have come into the queue, latest first. -/
def Pool.Shared.accepted (shared : Shared) : List Job :=
  shared.events.filterMap fun
    | .accepted job => some job
    | _ => none

namespace Run

/-- The job that a move takes from the queue, with the worker who takes it. -/
def take? (run : Run) (move : Move) : Option (Nat × Job) :=
  match move.actor with
  | .planner => none
  | .worker index =>
      match run.workers[index]? with
      | some .idle => run.shared.queue.take?.map fun taken => (index, taken.1)
      | _ => none

/-- The jobs that are taken in a run, first to last, each with the worker who takes it. -/
def takes (run : Run) (moves : List Move) : List (Nat × Job) :=
  run.along take? moves

/-- What a worker does in the next of its moves. -/
def next? (run : Run) (index : Nat) : List Move → Option Activity
  | [] => none
  | move :: moves =>
      if move.actor = .worker index then run.workers[index]?
      else (run.step move).bind fun next => next.next? index moves

variable {records : List Record} {run next last : Run} {move : Move} {moves : List Move}
  {index : Nat}

lemma take?_of_turn {surroundings : Surroundings} {activity : Activity} {id : OperationId}
    (working : run.workers[index]? = some activity) (owns : activity.operation? = some id) :
    run.take? ⟨.worker index, surroundings⟩ = none := by
  simp only [take?, working]
  cases activity
  case idle => cases owns
  all_goals rfl

lemma take?_of_taken {surroundings : Surroundings} {job : Job} {rest : Queue Job}
    (working : run.workers[index]? = some .idle)
    (taken : run.shared.queue.take? = some (job, rest)) :
    run.take? ⟨.worker index, surroundings⟩ = some (index, job) := by
  simp [take?, working, taken]

/-- A step takes at most one job from the queue, and brings at most one into it. -/
lemma accepted_of_step (sound : run.Sound records) (step : run.step move = some next) :
    ∃ new : List Job, next.shared.accepted = new ++ run.shared.accepted ∧
      ((run.take? move).toList.map (·.2) ++ next.shared.queue.items).Perm
        (new ++ run.shared.queue.items) := by
  obtain ⟨actor, surroundings⟩ := move
  cases actor with
  | planner =>
      obtain ⟨shared, stage, advances, rfl⟩ := step_planner step
      generalize run.planner = before at advances
      cases advances with
      | @admitted entry rest queue accepted =>
          obtain rfl := Queue.eq_push_of_insert accepted
          exact ⟨[entry.item], rfl, Queue.items_push_perm ..⟩
      | dismissed accepted =>
          obtain rfl := Queue.eq_push_of_insert accepted
          exact ⟨[.dismissal], rfl, Queue.items_push_perm ..⟩
      | turnedAway refused ends =>
          rcases ends with rfl | ⟨task, rfl⟩ <;> exact ⟨[], rfl, .refl _⟩
      | unplannable | planned | barred | passed | waned | joined => exact ⟨[], rfl, .refl _⟩
  | worker index =>
      cases works_of_step step with
      | @turn activity later own shared working owns work =>
          rw [take?_of_turn working owns]
          have noted : run.shared.Noted shared own activity later := Shared.noted_of_work owns work
          cases noted with
          | nothing queue events =>
              refine ⟨[], ?_, ?_⟩
              · simp only [Shared.accepted, events, List.nil_append]
              · simp [queue]
          | noted event noted queue events =>
              refine ⟨[], ?_, ?_⟩
              · cases event
                case accepted => cases noted
                all_goals simp [Shared.accepted, events]
              · simp [queue]
          | queued chore queues goes queue events =>
              refine ⟨[.run ⟨own, chore⟩], ?_, ?_⟩
              · simp [Shared.accepted, events]
              · simpa [queue] using Queue.items_push_perm ..
      | @take job rest working taken =>
          rw [take?_of_taken working taken, Queue.items_of_take? taken]
          exact ⟨[], rfl, .refl _⟩
      | leave working closed => exact absurd (sound.closed closed) (sound.early working (by simp))

/-- A step dismisses the worker that takes a dismissal, and nobody else. -/
lemma dismissed_of_step (sound : run.Sound records) (step : run.step move = some next)
    (index : Nat) :
    next.workers[index]?.toList.count .dismissed =
      run.workers[index]?.toList.count .dismissed +
        (run.take? move).toList.count (index, .dismissal) := by
  obtain ⟨actor, surroundings⟩ := move
  cases actor with
  | planner =>
      obtain ⟨shared, stage, advances, rfl⟩ := step_planner step
      rfl
  | worker mover =>
      -- Another worker stays as it is; the mover takes up what it goes on with.
      have others {later : Activity} (apart : mover ≠ index) :
          (run.workers.set mover later)[index]? = run.workers[index]? :=
        List.getElem?_set_ne apart
      have own {activity later : Activity} (working : run.workers[mover]? = some activity) :
          (run.workers.set mover later)[mover]? = some later :=
        List.getElem?_set_self (List.getElem?_eq_some_iff.1 working).1
      cases works_of_step step with
      | @turn activity later id shared working owns work =>
          rw [take?_of_turn working owns]
          by_cases same : mover = index
          · subst same
            have stays := Shared.stays_of_work (sound.own_lt working owns) owns work
            have undismissed : later ≠ .dismissed := stays.ne_dismissed
            have busy := Activity.ne_dismissed owns
            simp [own working, working, undismissed, busy]
          · simp [others same]
      | @take job rest working taken =>
          rw [take?_of_taken working taken]
          by_cases same : mover = index
          · subst same
            cases job <;> simp [own working, working, Job.hand?]
          · simp [others same, same]
      | leave working closed => exact absurd (sound.closed closed) (sound.early working (by simp))

/-- A worker stays as it is while others move. -/
lemma worker_of_other (step : run.step move = some next) (other : move.actor ≠ .worker index) :
    next.workers[index]? = run.workers[index]? := by
  obtain ⟨actor, surroundings⟩ := move
  cases actor with
  | planner =>
      obtain ⟨shared, stage, advances, rfl⟩ := step_planner step
      rfl
  | worker mover =>
      obtain ⟨activity, shared, later, working, work, rfl⟩ := step_worker step
      refine List.getElem?_set_ne ?_
      rintro rfl
      exact other rfl

/-- A worker whose activity changes moves, and goes on with that activity. -/
lemma next?_of_changed {activity : Activity} (working : run.workers[index]? = some activity)
    (reached : run.steps moves = some last) (changed : last.workers[index]? ≠ some activity) :
    run.next? index moves = some activity := by
  induction moves generalizing run with
  | nil =>
      obtain rfl := Option.some.inj reached
      exact absurd working changed
  | cons move moves ih =>
      obtain ⟨next, step, rest⟩ := Option.bind_eq_some_iff.1 reached
      by_cases own : move.actor = .worker index
      · rw [next?, if_pos own]
        exact working
      · rw [next?, if_neg own, step, Option.bind_some]
        exact ih ((worker_of_other step own).trans working) rest

variable {batch : Batch} {disk : Disk}

/-- What has come into the queue was taken from it, or is there. -/
lemma accepted_of_steps (reached : (batch.start disk records).steps moves = some run) :
    run.shared.accepted.Perm
      (((batch.start disk records).takes moves).map (·.2) ++ run.shared.queue.items) := by
  induction moves using List.reverseRecOn generalizing run with
  | nil =>
      obtain rfl := Option.some.inj reached
      exact .refl _
  | append_singleton moves move ih =>
      rw [steps_concat] at reached
      obtain ⟨mid, before, step⟩ := Option.bind_eq_some_iff.1 reached
      obtain ⟨new, accepted, moved⟩ := accepted_of_step (sound_of_steps before).1 step
      rw [accepted, takes, along_concat _ before, List.map_append, List.append_assoc]
      have earlier := ((ih before).append_left new).trans (List.perm_append_comm_assoc ..)
      exact earlier.trans (moved.symm.append_left _)

/-- The workers that have taken a dismissal are those that were dismissed. -/
lemma dismissed_of_steps (reached : (batch.start disk records).steps moves = some run)
    (index : Nat) :
    ((batch.start disk records).takes moves).count (index, .dismissal) =
      run.workers[index]?.toList.count .dismissed := by
  induction moves using List.reverseRecOn generalizing run with
  | nil =>
      obtain rfl := Option.some.inj reached
      refine (List.count_eq_zero.2 fun present => ?_).symm
      have idle := List.mem_of_getElem? (Option.mem_toList.1 present)
      cases (List.mem_replicate.1 idle).2
  | append_singleton moves move ih =>
      rw [steps_concat] at reached
      obtain ⟨mid, before, step⟩ := Option.bind_eq_some_iff.1 reached
      have dismissed := dismissed_of_step (sound_of_steps before).1 step index
      rw [takes, along_concat _ before, List.count_append, dismissed, ← ih before]
      rfl

/-- While dismissals are admitted, every state of a run has its roster. -/
lemma roster_of_steps (reached : (batch.start disk records).steps moves = some run)
    (admits : (batch.start disk records).Throughout AdmitsDismissals moves) : run.Roster := by
  have kept (run : Run) (move : Move) (next : Run) (holds : run.Sound records ∧ run.Roster)
      (admits : run.AdmitsDismissals move) (step : run.step move = some next) :
      next.Sound records ∧ next.Roster :=
    ⟨holds.1.step step, holds.2.step holds.1 admits step⟩
  exact (steps_induction kept ⟨Sound.start .., Roster.start ..⟩ admits reached).2

/-- A run that has ended has dismissed everybody, and its queue is empty. -/
lemma Roster.empty_at_end (roster : run.Roster) (sound : run.Sound records)
    (workers : 0 < run.workers.length) (ended : run.planner = .ended) :
    run.shared.queue.items = [] := by
  have dismissed := sound.ended ended
  have everybody : run.workers.count .dismissed = run.workers.length :=
    List.count_eq_length.2 fun worker present => (dismissed worker present).symm
  have dismissals := roster.dismissals
  rw [ended, PlannerStage.unsent] at dismissals
  have none : run.shared.queue.items.count .dismissal = 0 := by omega
  obtain ⟨immediate, normal⟩ := sound.drained (List.ne_nil_of_length_pos workers) dismissed
  have only : ∀ job ∈ run.shared.queue.items, job = .dismissal := by
    rw [Queue.items, immediate, normal]
    exact sound.dismissals
  refine List.eq_nil_iff_forall_not_mem.2 fun job present => ?_
  rw [only job present] at present
  exact List.count_eq_zero.1 none present

/-- A worker that has taken a task carries it out in its next move, if it is dismissed at last. -/
lemma next?_of_take? {state : Run} {task : Task} (sound : state.Sound records)
    (step : state.step move = some next) (took : state.take? move = some (index, .run task))
    (reached : next.steps moves = some last)
    (dismissed : ∀ worker ∈ last.workers, worker = .dismissed) :
    next.next? index moves = some (.starting task.operation task.chore) := by
  obtain ⟨actor, surroundings⟩ := move
  cases actor with
  | planner => cases took
  | worker mover =>
      cases works_of_step step with
      | turn working owns work =>
          rw [take?_of_turn working owns] at took
          cases took
      | take working taken =>
          rw [take?_of_taken working taken] at took
          obtain ⟨rfl, rfl⟩ := Prod.mk.inj (Option.some.inj took)
          refine next?_of_changed ?_ reached fun same => ?_
          · exact List.getElem?_set_self (List.getElem?_eq_some_iff.1 working).1
          · cases dismissed _ (List.mem_of_getElem? same)
      | leave working closed => exact absurd (sound.closed closed) (sound.early working (by simp))

/-- Every run comes to an end: no moves can go on for ever. While dismissals are admitted, somebody
can move in every state of a run that has not ended, whatever comes from outside; and when it has
ended, the queue is empty, every worker has taken one dismissal, and the jobs that have come into
the queue are those that were taken from it, each of which was carried out by its worker in its
next move. -/
theorem ends_drained (workers : 0 < batch.config.maxConcurrentRequests) :
    (∀ endless : Nat → Move, ∃ count,
      (batch.start disk records).steps ((List.range count).map endless) = none) ∧
    ∀ moves run, (batch.start disk records).steps moves = some run →
      (batch.start disk records).Throughout AdmitsDismissals moves →
        (run.hasEnded = false →
          ∃ actor, ∀ surroundings, (run.step ⟨actor, surroundings⟩).isSome = true) ∧
        (run.hasEnded = true →
          run.shared.queue.items = [] ∧
          (∀ index < batch.config.maxConcurrentRequests,
            ((batch.start disk records).takes moves).count (index, .dismissal) = 1) ∧
          run.shared.accepted.Perm (((batch.start disk records).takes moves).map (·.2)) ∧
          ∀ before move after state next index task, moves = before ++ move :: after →
            (batch.start disk records).steps before = some state →
            state.take? move = some (index, .run task) → state.step move = some next →
              next.next? index after = some (.starting task.operation task.chore)) := by
  refine ⟨stuck_of_endless (Sound.start ..), ?_⟩
  intro moves run reached admits
  obtain ⟨sound, -, length⟩ := sound_of_steps reached
  have roster := roster_of_steps reached admits
  have some : 0 < run.workers.length := length.symm ▸ workers
  refine ⟨roster.goes_on sound some, fun ended => ?_⟩
  have stage : run.planner = .ended := of_decide_eq_true ended
  have dismissed := sound.ended stage
  have empty := roster.empty_at_end sound some stage
  have accepted := accepted_of_steps reached
  rw [empty, List.append_nil] at accepted
  refine ⟨empty, ?_, accepted, ?_⟩
  · intro index inside
    have there : index < run.workers.length := length.symm ▸ inside
    rw [dismissed_of_steps reached, List.getElem?_eq_getElem there,
      dismissed _ (List.getElem_mem there)]
    rfl
  · intro before move after state next index task split arrived taken step
    rw [split, steps_append, arrived, Option.bind_some, steps, step] at reached
    exact next?_of_take? (sound_of_steps arrived).1 step taken reached dismissed

/-- The planner cannot go on for ever with a move of a file, somebody can move before anything has
happened, and at the end of the run the queue is empty and the worker has taken one dismissal. -/
theorem smallMove_drained :
    (∃ count, (Batch.small.start Batch.smallDisk [Batch.smallMove]).steps
      ((List.range count).map fun _ => ⟨.planner, ⟨fun _ => none, .reply .done⟩⟩) = none) ∧
    (∃ actor, ∀ surroundings, ((Batch.small.start Batch.smallDisk [Batch.smallMove]).step
      ⟨actor, surroundings⟩).isSome = true) ∧
    (Batch.smallRun { answersAll := true } Batch.smallDisk
      Batch.smallMove).shared.queue.items = [] ∧
    ((Batch.small.start Batch.smallDisk [Batch.smallMove]).takes
      (Batch.smallMoves { answersAll := true } Batch.smallDisk Batch.smallMove)).count
        (0, .dismissal) = 1 := by
  have workers : 0 < Batch.small.config.maxConcurrentRequests := by decide
  obtain ⟨stuck, drains⟩ := @ends_drained [Batch.smallMove] Batch.small Batch.smallDisk workers
  have admits : (Batch.small.start Batch.smallDisk [Batch.smallMove]).Throughout AdmitsDismissals
      (Batch.smallMoves { answersAll := true } Batch.smallDisk Batch.smallMove) :=
    throughout_of_decide (by decide +kernel)
  have waits := (drains [] _ rfl fun before move after split => by simp at split).1 rfl
  have reached := Batch.steps_smallMoves { answersAll := true } Batch.smallDisk Batch.smallMove
  obtain ⟨empty, dismissed, -⟩ := (drains _ _ reached admits).2 (by decide +kernel)
  exact ⟨stuck _, waits, empty, dismissed 0 (by decide)⟩

end Run
end BulkTransfer
