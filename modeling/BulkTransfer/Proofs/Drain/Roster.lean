import BulkTransfer.Proofs.Run.OperationSteps

/-!
# Dismissals and waiting

The planner sends a dismissal to every worker, so the workers that were dismissed, the dismissals in
the queue and those that have yet to be sent are as many as there are workers (`Run.Roster`). While
dismissals are admitted this stays so, and nobody waits for ever: a worker that has not been
dismissed finds a job whenever the planner cannot go on (`Run.Roster.goes_on`).
-/

namespace BulkTransfer

open Pool

namespace Pool

/-- How many dismissals the planner has yet to send to so many workers. -/
def PlannerStage.unsent (workers : Nat) : PlannerStage → Nat
  | .planning _ | .proposing .. | .entering .. => workers
  | .dismissing left => left
  | .enteringDismissal left => left + 1
  | .joining | .ended => 0

lemma count_dismissal_push (queue : Queue Job) (priority : Priority) (job : Job) :
    (queue.push priority job).items.count .dismissal =
      queue.items.count .dismissal + if job = .dismissal then 1 else 0 := by
  rw [(queue.items_push_perm priority job).count_eq, List.count_cons]
  simp

end Pool

namespace Run

/-- Whether a dismissal that is proposed in a move is admitted. -/
def AdmitsDismissals (run : Run) (move : Move) : Prop :=
  run.asks? move.actor = some dismissal → move.surroundings.policy dismissal = none

instance (run : Run) (move : Move) : Decidable (run.AdmitsDismissals move) :=
  inferInstanceAs (Decidable (_ → _))

/-- The dismissals of a run: every worker was dismissed, or is to be by one that is in the queue or
has yet to be sent. -/
structure Roster (run : Run) : Prop where
  room : 0 < run.shared.queue.capacity
  dismissals : run.workers.count .dismissed + run.shared.queue.items.count .dismissal +
    run.planner.unsent run.workers.length = run.workers.length

variable {records : List Record} {run next : Run} {move : Move}

lemma Roster.start (plan : Plan) (capacity workers : Nat) (disk : Disk) (records : List Record) :
    (Run.start plan { queue := Queue.ofCapacity capacity, operations := [], disk := disk } workers
      records).Roster where
  room := Nat.le_max_right capacity 1
  dismissals := by
    simp [Run.start, Queue.ofCapacity, Queue.items, PlannerStage.unsent, List.count_replicate]

/-- A step of the planner. -/
lemma Roster.advance (roster : run.Roster) (sound : run.Sound records)
    {surroundings : Surroundings} {shared : Shared} {stage : PlannerStage}
    (admits : run.AdmitsDismissals ⟨.planner, surroundings⟩)
    (advances : run.shared.Advances run.plan run.workers surroundings run.planner shared stage) :
    Run.Roster { run with shared := shared, planner := stage } := by
  obtain ⟨room, dismissals⟩ := roster
  generalize planning : run.planner = before at advances
  rw [planning] at dismissals
  cases advances with
  | unplannable | planned | barred | passed => exact ⟨room, dismissals⟩
  | @admitted entry rest queue accepted =>
      obtain ⟨-, task, item, -⟩ := sound.entry entry (by rw [planning]; rfl)
      obtain rfl := Queue.eq_push_of_insert accepted
      refine ⟨?_, ?_⟩
      · exact (Queue.capacity_push ..).symm ▸ room
      · simp only [Shared.accept, Shared.note, count_dismissal_push, item]
        exact dismissals
  | @turnedAway entry rest error after refused ends =>
      have isOpen := sound.isOpen (by simp [planning])
      exact absurd refused (insert_of_isOpen isOpen entry error)
  | @dismissed left queue accepted =>
      obtain rfl := Queue.eq_push_of_insert accepted
      refine ⟨?_, ?_⟩
      · exact (Queue.capacity_push ..).symm ▸ room
      · simp only [Shared.accept, Shared.note, count_dismissal_push, dismissal, if_true]
        simp only [PlannerStage.unsent] at dismissals ⊢
        omega
  | joined all => exact ⟨room, dismissals⟩
  | waned wanes =>
      cases wanes with
      | planned | sent | passed => exact ⟨room, dismissals⟩
      | @barred left reason bar =>
          have admitted := admits (by rw [asks?, planning])
          rw [bar] at admitted
          cases admitted
      | turnedAway refused =>
          have isOpen := sound.isOpen (by simp [planning])
          exact absurd refused (insert_of_isOpen isOpen dismissal _)

/-- Every step keeps the roster while dismissals are admitted. -/
lemma Roster.step (roster : run.Roster) (sound : run.Sound records)
    (admits : run.AdmitsDismissals move) (step : run.step move = some next) : next.Roster := by
  obtain ⟨actor, surroundings⟩ := move
  cases actor with
  | planner =>
      obtain ⟨shared, stage, advances, rfl⟩ := step_planner step
      exact roster.advance sound admits advances
  | worker index =>
      obtain ⟨room, dismissals⟩ := roster
      cases works_of_step step with
      | @turn activity later own shared working owns work =>
          have stays := Shared.stays_of_work (sound.own_lt working owns) owns work
          have undismissed : later ≠ .dismissed := stays.ne_dismissed
          obtain ⟨operation, notes, queued, changed⟩ := stays.1
          obtain ⟨inside, rfl⟩ := List.getElem?_eq_some_iff.1 working
          have busy := Activity.ne_dismissed owns
          have same : (run.workers.set index later).count .dismissed =
              run.workers.count .dismissed := by
            rw [List.count_set inside]
            simp [busy, undismissed]
          have queue := changed.queue
          refine ⟨?_, ?_⟩
          · cases queued with
            | none => exact queue ▸ room
            | some chore =>
                dsimp only
                rw [queue, Queue.capacity_push]
                exact room
          · dsimp only
            rw [same, List.length_set]
            cases queued with
            | none => exact queue ▸ dismissals
            | some chore =>
                rw [queue, count_dismissal_push, if_neg (by simp)]
                exact dismissals
      | @take job rest working taken =>
          obtain ⟨inside, idle⟩ := List.getElem?_eq_some_iff.1 working
          have items := Queue.items_of_take? taken
          refine ⟨?_, ?_⟩
          · exact (Queue.capacity_of_take? taken).symm ▸ room
          · rw [items, List.count_cons] at dismissals
            simp only [Shared.note, List.length_set]
            rw [List.count_set inside, idle]
            cases job with
            | run task => simpa [Job.hand?] using dismissals
            | dismissal =>
                simp [Job.hand?] at dismissals ⊢
                omega
      | leave working closed => exact absurd (sound.closed closed) (sound.early working (by simp))

/-! ## Who can move -/

/-- A worker that has not been dismissed can move, unless it waits for a job. -/
lemma worker_goes_on {index : Nat} {activity : Activity}
    (working : run.workers[index]? = some activity) (undismissed : activity ≠ .dismissed)
    (supplied : activity = .idle → run.shared.queue.items ≠ []) (surroundings : Surroundings) :
    (run.step ⟨.worker index, surroundings⟩).isSome = true := by
  simp only [step, working, Option.isSome_map]
  cases activity
  case dismissed => exact absurd rfl undismissed
  case idle =>
    obtain ⟨⟨job, rest⟩, taken⟩ := Option.isSome_iff_exists.1 (Queue.take?_isSome (supplied rfl))
    simp [Shared.work, taken]
  all_goals rfl

/-- While dismissals are in the queue or have yet to be sent, somebody has not been dismissed. -/
lemma Roster.exists_undismissed (roster : run.Roster)
    (due : 0 < run.shared.queue.items.count .dismissal + run.planner.unsent run.workers.length) :
    ∃ (index : Nat) (activity : Activity),
      run.workers[index]? = some activity ∧ activity ≠ .dismissed := by
  by_contra all
  have gone : ∀ worker ∈ run.workers, .dismissed = worker := by
    intro worker present
    obtain ⟨index, there⟩ := List.mem_iff_getElem?.1 present
    by_contra undismissed
    exact all ⟨index, worker, there, fun same => undismissed same.symm⟩
  have everybody := List.count_eq_length.2 gone
  have dismissals := roster.dismissals
  omega

/-- When there is no room in the queue, a worker can move. -/
lemma Roster.worker_goes_on_of_full (roster : run.Roster)
    (due : 0 < run.planner.unsent run.workers.length) (full : run.shared.queue.isFull = true) :
    ∃ actor, ∀ surroundings, (run.step ⟨actor, surroundings⟩).isSome = true := by
  obtain ⟨index, activity, working, undismissed⟩ :=
    roster.exists_undismissed (Nat.add_pos_right _ due)
  refine ⟨.worker index, worker_goes_on working undismissed fun _ none => ?_⟩
  have length := run.shared.queue.length_items
  have filled : run.shared.queue.capacity ≤ run.shared.queue.length := of_decide_eq_true full
  have room := roster.room
  rw [none, List.length_nil] at length
  omega

/-- An insertion into an open queue is accepted if there is room. -/
lemma insert_of_room {queue : Queue Job} (isOpen : queue.closed = false)
    (room : queue.isFull = false) (entry : Entry Job) :
    queue.insert entry none = .accepted (queue.push entry.priority entry.item) := by
  simp [Queue.insert, Queue.insertAnyway, isOpen, room]

/-- Somebody can move in every run that has not ended, whatever comes from outside. -/
theorem Roster.goes_on (roster : run.Roster) (sound : run.Sound records)
    (workers : 0 < run.workers.length) (unended : run.hasEnded = false) :
    ∃ actor, ∀ surroundings, (run.step ⟨actor, surroundings⟩).isSome = true := by
  have early : run.planner ≠ .ended := of_decide_eq_false unended
  have isOpen := sound.isOpen early
  have inserts (full : run.shared.queue.isFull = false) (entry : Entry Job) :=
    insert_of_room isOpen full entry
  have planner (moves : ∀ surroundings, (run.shared.advance run.plan run.workers surroundings
      run.planner).isSome = true) :
      ∃ actor, ∀ surroundings, (run.step ⟨actor, surroundings⟩).isSome = true :=
    ⟨.planner, fun surroundings => by
      simpa only [Run.step, Option.isSome_map] using moves surroundings⟩
  cases stage : run.planner with
  | planning rest =>
      refine planner fun surroundings => ?_
      rw [stage]
      cases rest <;> rfl
  | proposing id entry rest =>
      refine planner fun surroundings => ?_
      rw [stage]
      simp only [Shared.advance]
      split <;> rfl
  | entering entry rest =>
      cases full : run.shared.queue.isFull with
      | true => exact roster.worker_goes_on_of_full (by rw [stage]; exact workers) full
      | false =>
          refine planner fun surroundings => ?_
          rw [stage, Shared.advance, inserts full]
          rfl
  | dismissing left =>
      refine planner fun surroundings => ?_
      rw [stage]
      cases left with
      | zero => rfl
      | succ left =>
          simp only [Shared.advance]
          split <;> rfl
  | enteringDismissal left =>
      cases full : run.shared.queue.isFull with
      | true => exact roster.worker_goes_on_of_full (by rw [stage]; exact left.succ_pos) full
      | false =>
          refine planner fun surroundings => ?_
          rw [stage, Shared.advance, inserts full]
          rfl
  | joining =>
      by_cases all : run.workers.all (· = .dismissed) = true
      · refine planner fun surroundings => ?_
        rw [stage, Shared.advance, if_pos all]
        rfl
      · have somebody : ∃ worker ∈ run.workers, worker ≠ .dismissed := by
          simpa using all
        obtain ⟨worker, present, undismissed⟩ := somebody
        obtain ⟨index, working⟩ := List.mem_iff_getElem?.1 present
        refine ⟨.worker index, worker_goes_on working undismissed fun _ none => ?_⟩
        have fewer : run.workers.count .dismissed < run.workers.length := by
          refine lt_of_le_of_ne List.count_le_length fun everybody => undismissed ?_
          exact (List.count_eq_length.1 everybody worker present).symm
        have dismissals := roster.dismissals
        rw [none, stage, List.count_nil, PlannerStage.unsent] at dismissals
        omega
  | ended => exact absurd stage early

end Run
end BulkTransfer
