import BulkTransfer.Proofs.Load.Grouped

/-!
# One operation in a run by one worker

What a run by one worker has of an operation, in order (`Pool.Row`): its first task until that is
taken, its follow-ups in the queue, what the worker does for it, and the calls that were made for
its parts. With every step of the run the row stays, or its first task or the first of its
follow-ups is taken, or the worker has its turn, whose follow-up comes last into the queue
(`Run.shifts_of_step`).
-/

namespace BulkTransfer

open Pool

/-- Whether a call is made for a part. -/
def Call.isPart : Call → Bool
  | .uploadPart .. | .copyPart .. | .getObject _ (some _) => true
  | _ => false

namespace Pool

/-- What a task does, if it is one of the given operation. -/
def Task.choreOf? (id : OperationId) (task : Task) : Option Chore :=
  if task.operation = id then some task.chore else none

/-- What a job does, if it is a task of the given operation. -/
def Job.choreOf? (id : OperationId) : Job → Option Chore
  | .run task => task.choreOf? id
  | .dismissal => none

/-- The calls made for the parts of an operation, first to last. -/
def Shared.partCalls (shared : Shared) (id : OperationId) : List Call :=
  shared.issued.filterMap fun (own, call) => if own = id ∧ call.isPart then some call else none

/-- What there is of one operation in a run by one worker: the state of the operation, the first
tasks that wait to be taken, the follow-ups in the queue, what the worker does for it, and the calls
made for its parts. -/
@[ext]
structure Row where
  operation : Operation
  first : List Chore
  lane : List Chore
  place : Activity
  calls : List Call

/-- Whether a turn brings these tasks of an operation into the queue, behind all follow-ups. -/
def Shared.Queues (before after : Shared) (id : OperationId) (queued : List Chore) : Prop :=
  after.queue.immediate = before.queue.immediate ++ queued.map fun chore => .run ⟨id, chore⟩

/-- How a row may be changed by a step. -/
inductive Row.Shifts (id : OperationId) (row : Row) : Row → Prop where
  | waits {first : List Chore} (fewer : first.Sublist row.first) :
      Shifts id row { row with first := first }
  | begins {chore : Chore} {rest : List Chore} (first : row.first = chore :: rest)
      (nothing : row.lane = []) (idle : row.place = .idle) :
      Shifts id row { row with first := rest, place := .starting id chore }
  | takes {chore : Chore} {rest : List Chore} (queued : row.lane = chore :: rest)
      (idle : row.place = .idle) :
      Shifts id row { row with lane := rest, place := .starting id chore }
  | turns {shared after : Shared} {surroundings : Surroundings} {later : Activity}
      {queued : List Chore} (inside : id < shared.operations.length)
      (same : shared.operation id = row.operation) (own : row.place.operation? = some id)
      (work : shared.work surroundings row.place = some (after, later))
      (queues : shared.Queues after id queued) :
      Shifts id row ⟨after.operation id, row.first, row.lane ++ queued, later,
        row.calls ++ (row.place.issue?.filter Call.isPart).toList⟩

namespace Shared

variable {before after : Shared} {id own : OperationId} {queued other : List Chore}

lemma Queues.unique (queues : before.Queues after id queued)
    (again : before.Queues after id other) : queued = other := by
  have same := List.append_cancel_left (queues.symm.trans again)
  exact (List.map_inj_right fun first second same => by cases same; rfl).1 same

/-- What a turn brings into the queue. -/
lemma queues_of_work {surroundings : Surroundings} {activity later : Activity}
    (owns : activity.operation? = some own)
    (work : before.work surroundings activity = some (after, later)) :
    ∃ queued, before.Queues after own queued := by
  have noted : before.Noted after own activity later := noted_of_work owns work
  cases noted with
  | nothing queue events => exact ⟨[], by simp [Queues, queue]⟩
  | noted event notes queue events => exact ⟨[], by simp [Queues, queue]⟩
  | queued chore queues goes queue events => exact ⟨[chore], by simp [Queues, queue, Queue.push]⟩

/-- The tasks of each operation among the follow-ups after a turn. -/
lemma Queues.lane (queues : before.Queues after own queued) (id : OperationId) :
    after.queue.immediate.filterMap (Job.choreOf? id) =
      before.queue.immediate.filterMap (Job.choreOf? id) ++ if own = id then queued else [] := by
  rw [queues, List.filterMap_append, List.filterMap_map]
  congr 1
  by_cases same : own = id
  · have all : Job.choreOf? id ∘ (fun chore => Job.run ⟨own, chore⟩) = some := by
      funext chore
      simp [Job.choreOf?, Task.choreOf?, same]
    rw [all, if_pos same, List.filterMap_some]
  · have none : Job.choreOf? id ∘ (fun chore => Job.run ⟨own, chore⟩) = fun _ => none := by
      funext chore
      simp [Job.choreOf?, Task.choreOf?, same]
    rw [none, if_neg same]
    simp

/-- The calls for the parts of each operation after a turn. -/
lemma partCalls_of_work {surroundings : Surroundings} {activity later : Activity}
    (owns : activity.operation? = some own)
    (work : before.work surroundings activity = some (after, later)) (id : OperationId) :
    after.partCalls id = before.partCalls id ++
      if own = id then (activity.issue?.filter Call.isPart).toList else [] := by
  rw [partCalls, issued_of_work owns work, List.filterMap_append, partCalls]
  congr 1
  cases activity.issue? with
  | none => simp
  | some call =>
      by_cases same : own = id <;> by_cases part : call.isPart <;>
        simp [same, part, Option.filter]

end Shared
end Pool

namespace Run

/-- What there is of an operation in a run by one worker. -/
def row (run : Run) (id : OperationId) : Row where
  operation := run.shared.operation id
  first := run.shared.queue.normal.filterMap (Job.choreOf? id) ++
    (run.planner.proposed?.bind (Task.choreOf? id)).toList
  lane := run.shared.queue.immediate.filterMap (Job.choreOf? id)
  place := (run.workers.find? (·.operation? = some id)).getD .idle
  calls := run.shared.partCalls id

variable {records : List Record} {run next : Run} {move : Move} {id : OperationId}

/-- The planner brings no first task of an operation that is there already. -/
lemma first_of_advances (sound : run.Sound records) {surroundings : Surroundings}
    {shared : Shared} {stage : PlannerStage}
    (advances : run.shared.Advances run.plan run.workers surroundings run.planner shared stage)
    (inside : id < run.shared.operations.length) :
    (row { run with shared := shared, planner := stage } id).first.Sublist (run.row id).first := by
  simp only [row]
  generalize planning : run.planner = before at advances
  cases advances with
  | unplannable | joined => exact List.Sublist.refl _
  | planned resolved =>
      have apart : run.shared.operations.length ≠ id := Nat.ne_of_gt inside
      simp [PlannerStage.proposed?, Operation.firstEntry, Operation.entry, Task.choreOf?, apart,
        Shared.addOperation]
  | barred bar => simp [PlannerStage.proposed?, Shared.refuse, Shared.conclude, Shared.note]
  | passed => exact List.Sublist.refl _
  | @admitted entry rest queue accepted =>
      obtain ⟨normal, task, item, -⟩ := sound.entry entry (by rw [planning]; rfl)
      obtain rfl := Queue.eq_push_of_insert accepted
      -- The task that was proposed is the last one in the queue now.
      have brought : (run.shared.queue.normal ++ [Job.run task]).filterMap (Job.choreOf? id) =
          run.shared.queue.normal.filterMap (Job.choreOf? id) ++ (task.choreOf? id).toList := by
        rw [List.filterMap_append, List.filterMap_cons]
        cases chore : task.choreOf? id <;> simp [Job.choreOf?, chore]
      simp [PlannerStage.proposed?, Shared.accept, Shared.note, normal, item, Queue.push, brought]
  | @turnedAway entry rest error after refused ends =>
      have isOpen := sound.isOpen (by simp [planning])
      exact absurd refused (insert_of_isOpen isOpen entry error)
  | dismissed accepted =>
      obtain rfl := Queue.eq_push_of_insert accepted
      exact List.Sublist.refl _
  | waned wanes =>
      obtain ⟨-, -, -, late, -⟩ := wanes.late
      have unproposed := PlannerStage.proposed?_of_entry? (PlannerStage.nothing_left _ late).2
      rw [unproposed]
      simp

lemma Seen.operation_of_planner {surroundings : Surroundings}
    (seen : run.Seen next ⟨.planner, surroundings⟩ id) :
    next.shared.operation id = run.shared.operation id := by
  cases seen with
  | same view => exact congrArg View.operation view
  | admitted _ _ _ view => exact congrArg View.operation view
  | refused _ _ _ _ view => exact congrArg View.operation view
  | turned _ _ _ _ actor => cases actor

/-- What the only worker does, if it is for the operation. -/
lemma place_of_only {worker : Activity} (only : run.workers = [worker]) :
    (run.row id).place = if worker.operation? = some id then worker else .idle := by
  rw [row, only, List.find?_singleton]
  by_cases own : worker.operation? = some id <;> simp [own]

/-- The turn of the worker is one of the row of its operation, and leaves the others. -/
lemma shifts_of_turn (sound : run.Sound records) {surroundings : Surroundings}
    {activity later : Activity} {own : OperationId} {shared : Shared}
    (only : run.workers = [activity]) (owns : activity.operation? = some own)
    (work : run.shared.work surroundings activity = some (shared, later)) :
    (run.row id).Shifts id
      (row { run with shared := shared, workers := [later] } id) := by
  have working : run.workers[0]? = some activity := by rw [only]; rfl
  have inside := sound.own_lt working owns
  obtain ⟨⟨operation, notes, brought, changed⟩, goes⟩ := Shared.stays_of_work inside owns work
  obtain ⟨queued, queues⟩ := Shared.queues_of_work owns work
  have normal : shared.queue.normal = run.shared.queue.normal := changed.lanes.1
  have place : (row { run with shared := shared, workers := [later] } id).place =
      if later.operation? = some id then later else .idle := place_of_only rfl
  have lane := queues.lane id
  have calls := Shared.partCalls_of_work owns work id
  by_cases same : own = id
  · subst same
    have there : (run.row own).place = activity := by rw [place_of_only only, if_pos owns]
    have after : (row { run with shared := shared, workers := [later] } own).place = later := by
      rcases goes with goesOn | rests
      · rw [place, if_pos goesOn]
      · rw [place, show later = .idle from rests]
        exact if_neg nofun
    rw [if_pos rfl] at lane calls
    have shifted : row { run with shared := shared, workers := [later] } own =
        ⟨shared.operation own, (run.row own).first, (run.row own).lane ++ queued, later,
          (run.row own).calls ++ ((run.row own).place.issue?.filter Call.isPart).toList⟩ := by
      refine Row.ext rfl ?_ lane after (there.symm ▸ calls)
      simp only [row, normal]
    rw [shifted]
    exact .turns inside rfl (there.symm ▸ owns) (there.symm ▸ work) queues
  · have there : (run.row id).place = .idle := by
      rw [place_of_only only, owns, if_neg fun other => same (Option.some.inj other)]
    have after : (row { run with shared := shared, workers := [later] } id).place = .idle := by
      rw [place, if_neg fun other => ?_]
      rcases goes with goesOn | rests
      · exact same (Option.some.inj (goesOn.symm.trans other))
      · rw [show later = .idle from rests] at other
        cases other
    rw [if_neg same, List.append_nil] at lane calls
    have still : row { run with shared := shared, workers := [later] } id = run.row id := by
      refine Row.ext ?_ ?_ lane (after.trans there.symm) calls
      · change shared.operation id = run.shared.operation id
        rw [Shared.operation, Shared.operation, changed.operations]
        simp [List.getD_eq_getElem?_getD, List.getElem?_set_ne same]
      · simp only [row, normal]
    rw [still]
    exact .waits (List.Sublist.refl _)

/-- When the worker takes a job, that was the first one in the row of its operation. -/
lemma shifts_of_take (sound : run.Sound records) {job : Job} {rest : Queue Job}
    (only : run.workers = [.idle]) (taken : run.shared.queue.take? = some (job, rest)) :
    (run.row id).Shifts id
      (row { run with
        shared := { run.shared with queue := rest }.note (.taken job)
        workers := [job.hand?.getD .dismissed] } id) := by
  have idle : (run.row id).place = .idle := by
    rw [place_of_only only]
    exact if_neg nofun
  have place := @place_of_only { run with
    shared := { run.shared with queue := rest }.note (.taken job)
    workers := [job.hand?.getD .dismissed] } id _ rfl
  have calls : ({ run.shared with queue := rest }.note (.taken job)).partCalls id =
      run.shared.partCalls id := by
    have made := @Shared.issued_of_events run.shared
      ({ run.shared with queue := rest }.note (.taken job)) (.taken job) rfl
    rw [Shared.partCalls, made, Shared.partCalls]
    exact congrArg (List.filterMap _) (List.append_nil _)
  -- The job is a task of the operation, or the row stays.
  cases own : job.choreOf? id with
  | none =>
      have skip (lane : List Job) : (job :: lane).filterMap (Job.choreOf? id) =
          lane.filterMap (Job.choreOf? id) := by rw [List.filterMap_cons, own]
      have away : (job.hand?.getD .dismissed).operation? ≠ some id := by
        cases job with
        | dismissal => exact nofun
        | run task =>
            simpa [Job.choreOf?, Task.choreOf?, Job.hand?, Activity.operation?] using own
      rw [if_neg away] at place
      have lanes : rest.immediate.filterMap (Job.choreOf? id) =
            run.shared.queue.immediate.filterMap (Job.choreOf? id) ∧
          rest.normal.filterMap (Job.choreOf? id) =
            run.shared.queue.normal.filterMap (Job.choreOf? id) := by
        rcases Queue.lane_of_take? taken with
          ⟨immediate, normal⟩ | ⟨empty, none, normal | ⟨normal, -⟩⟩
        · rw [immediate, skip, normal]
          exact ⟨rfl, rfl⟩
        · rw [empty, none, normal, skip]
          exact ⟨rfl, rfl⟩
        · rw [empty, none, normal]
          exact ⟨rfl, rfl⟩
      have still : row { run with
          shared := { run.shared with queue := rest }.note (.taken job)
          workers := [job.hand?.getD .dismissed] } id = run.row id := by
        refine Row.ext rfl ?_ lanes.1 (place.trans idle.symm) calls
        simp only [row, Shared.note, lanes.2]
      rw [still]
      exact .waits (List.Sublist.refl _)
  | some chore =>
      obtain ⟨task, rfl⟩ : ∃ task, job = .run task := by
        cases job with
        | run task => exact ⟨task, rfl⟩
        | dismissal => cases own
      obtain ⟨rfl, rfl⟩ : task.operation = id ∧ task.chore = chore := by
        simpa [Job.choreOf?, Task.choreOf?] using own
      have head (lane : List Job) : (Job.run task :: lane).filterMap (Job.choreOf? task.operation) =
          task.chore :: lane.filterMap (Job.choreOf? task.operation) := by
        rw [List.filterMap_cons, own]
      have place := place.trans (if_pos rfl)
      rcases Queue.lane_of_take? taken with
        ⟨immediate, normal⟩ | ⟨empty, none, normal | ⟨-, shutdown, -⟩⟩
      · have queued : (run.row task.operation).lane =
            task.chore :: rest.immediate.filterMap (Job.choreOf? task.operation) := by
          rw [row, immediate, head]
        convert @Row.Shifts.takes task.operation _ _ _ queued idle using 1
        refine Row.ext rfl ?_ rfl place calls
        simp only [row, Shared.note, normal]
      · have first : (run.row task.operation).first =
            task.chore :: (rest.normal.filterMap (Job.choreOf? task.operation) ++
              (run.planner.proposed?.bind (Task.choreOf? task.operation)).toList) := by
          rw [row, normal, head]
          rfl
        have nothing : (run.row task.operation).lane = [] := by rw [row, empty]; rfl
        convert @Row.Shifts.begins task.operation _ _ _ first nothing idle using 1
        refine Row.ext rfl rfl ?_ place calls
        simp only [row, Shared.note, none, empty]
      · cases sound.dismissals (.run task) (shutdown ▸ List.mem_cons_self)

/-- With every step of a run by one worker the row of an operation shifts. -/
theorem shifts_of_step (sound : run.Sound records) (single : run.workers.length = 1)
    (step : run.step move = some next) (inside : id < run.shared.operations.length) :
    (run.row id).Shifts id (next.row id) := by
  obtain ⟨worker, workers⟩ := List.length_eq_one_iff.1 single
  have seen := seen_of_step sound step inside
  obtain ⟨actor, surroundings⟩ := move
  cases actor with
  | planner =>
      obtain ⟨shared, stage, advances, rfl⟩ := step_planner step
      have operation : shared.operation id = run.shared.operation id := seen.operation_of_planner
      have same : row { run with shared := shared, planner := stage } id = { run.row id with
          first := (row { run with shared := shared, planner := stage } id).first } := by
        simp only [row, operation, immediate_of_advances sound advances, Shared.partCalls,
          advances.issued_eq]
      rw [same]
      exact .waits (first_of_advances sound advances inside)
  | worker index =>
      cases works_of_step step with
      | leave working closed => exact absurd (sound.closed closed) (sound.early working nofun)
      | @turn activity later own shared working owns work =>
          rw [workers] at working
          obtain ⟨rfl, rfl⟩ : index = 0 ∧ worker = activity := by
            simpa [List.getElem?_singleton] using working
          have set : run.workers.set 0 later = [later] := by rw [workers]; rfl
          rw [set]
          exact shifts_of_turn sound workers owns work
      | @take job rest working taken =>
          rw [workers] at working
          obtain ⟨rfl, rfl⟩ : index = 0 ∧ worker = .idle := by
            simpa [List.getElem?_singleton] using working
          have set : run.workers.set 0 (job.hand?.getD .dismissed) =
              [job.hand?.getD .dismissed] := by rw [workers]; rfl
          rw [set]
          exact shifts_of_take sound workers taken

end Run
end BulkTransfer
