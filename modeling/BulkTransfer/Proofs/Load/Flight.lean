import BulkTransfer.Proofs.Outcome
import BulkTransfer.Proofs.Run.ScheduledMoves
import BulkTransfer.Proofs.Run.TurnEvents

/-!
# Operations in flight

An operation is in flight once its first task has been taken from the queue and until its outcome is
recorded. First tasks are queued behind all follow-ups, so a worker that takes one finds no
follow-up there. An operation that has begun has a follow-up in the queue or a worker until it has
ended, whatever parts of it are put back, and no other operation has either (`Run.Lined`). When a
first task is taken, the operations in flight are therefore those of the workers, and they become no
more until the next is: there are at most as many as there are workers (`Run.flight_within`).
-/

namespace BulkTransfer

open Pool

namespace Pool

/-- The operation of a job, unless the job is a dismissal. -/
def Job.operation? : Job → Option OperationId
  | .run task => some task.operation
  | .dismissal => none

/-- Whether an event is that a task of an operation is taken from the queue. -/
def Event.takes (id : OperationId) : Event → Bool
  | .taken (.run task) => task.operation = id
  | _ => false

/-- Whether a task of an operation has been taken. The first of them is the one that the planner has
brought. -/
def Shared.hasBegun (shared : Shared) (id : OperationId) : Bool :=
  shared.events.any (Event.takes id)

/-- Whether the outcome of an operation has been recorded. -/
def Shared.hasEnded (shared : Shared) (id : OperationId) : Bool :=
  (shared.history id).any Event.isSettled

/-- The operations that have not begun and those that are attended to, where `planned` is the number
of all: nothing is taken twice from the first, and the second have begun. -/
structure Lined (begun : OperationId → Bool) (waiting attended : List OperationId)
    (planned : Nat) : Prop where
  apart : waiting.Nodup
  known : ∀ id ∈ waiting, id < planned
  unbegun : ∀ id ∈ waiting, begun id = false
  past : ∀ id, begun id = true → id < planned
  begun : ∀ id ∈ attended, begun id = true

namespace Lined

variable {begun : OperationId → Bool} {waiting attended fewer others : List OperationId}
  {planned : Nat} {id : OperationId}

/-- Some no longer wait, or are no longer attended to. -/
lemma leave (lined : Lined begun waiting attended planned) (still : fewer.Sublist waiting)
    (kept : others ⊆ attended) : Lined begun fewer others planned where
  apart := lined.apart.sublist still
  known id present := lined.known id (still.mem present)
  unbegun id present := lined.unbegun id (still.mem present)
  past := lined.past
  begun id present := lined.begun id (kept present)

/-- One more is planned. -/
lemma grow (lined : Lined begun waiting attended planned) :
    Lined begun waiting attended (planned + 1) where
  apart := lined.apart
  known id present := Nat.lt_succ_of_lt (lined.known id present)
  unbegun := lined.unbegun
  past id has := Nat.lt_succ_of_lt (lined.past id has)
  begun := lined.begun

/-- One more is planned and waits. -/
lemma plan (lined : Lined begun waiting attended planned) :
    Lined begun (waiting ++ [planned]) attended (planned + 1) := by
  have new : begun planned = false := by
    by_contra has
    exact absurd (lined.past planned (Bool.eq_true_of_not_eq_false has)) (Nat.lt_irrefl planned)
  have grown := lined.grow
  refine { grown with apart := ?_, known := ?_, unbegun := ?_ }
  · refine List.nodup_append.2 ⟨lined.apart, List.nodup_singleton planned, ?_⟩
    intro id present other only same
    have inside := lined.known id present
    rw [same, List.mem_singleton.1 only] at inside
    exact absurd inside (Nat.lt_irrefl planned)
  · intro id present
    rcases List.mem_append.1 present with old | only
    · exact grown.known id old
    · rw [List.mem_singleton.1 only]
      exact Nat.lt_succ_self planned
  · intro id present
    rcases List.mem_append.1 present with old | only
    · exact lined.unbegun id old
    · rw [List.mem_singleton.1 only]
      exact new

/-- The first that waits begins. -/
lemma start {rest : List OperationId} (lined : Lined begun (id :: rest) attended planned)
    (kept : others ⊆ id :: attended) :
    Lined (fun other => decide (id = other) || begun other) rest others planned := by
  obtain ⟨new, apart⟩ := List.nodup_cons.1 lined.apart
  refine ⟨apart, fun other present => lined.known other (.tail _ present), ?_, ?_, ?_⟩
  · intro other present
    have distinct : id ≠ other := by
      rintro rfl
      exact new present
    rw [decide_eq_false distinct, Bool.false_or]
    exact lined.unbegun other (.tail _ present)
  · intro other has
    rcases Bool.or_eq_true_iff.1 has with same | old
    · rw [← of_decide_eq_true same]
      exact lined.known id List.mem_cons_self
    · exact lined.past other old
  · intro other present
    rcases List.mem_cons.1 (kept present) with rfl | old
    · rw [decide_eq_true rfl, Bool.true_or]
    · rw [lined.begun other old, Bool.or_true]

end Lined

namespace Shared

variable {shared : Shared} {id : OperationId}

/-- Only the taking of a task begins an operation. -/
lemma hasBegun_of_events {before after : Shared} {event : Event}
    (events : after.events = event :: before.events)
    (other : ∀ task, event ≠ .taken (.run task)) : after.hasBegun = before.hasBegun := by
  funext id
  have silent : event.takes id = false := by
    unfold Event.takes
    split
    · next task => exact absurd rfl (other task)
    · rfl
  rw [hasBegun, events, List.any_cons, silent, Bool.false_or, hasBegun]

/-- An operation that has begun is not begun again. -/
lemma hasBegun_again {task : Task} (has : shared.hasBegun task.operation = true) :
    (shared.note (.taken (.run task))).hasBegun = shared.hasBegun := by
  funext id
  change (decide (task.operation = id) || shared.hasBegun id) = shared.hasBegun id
  by_cases own : task.operation = id
  · rw [← own, has, Bool.or_true]
  · rw [decide_eq_false own, Bool.false_or]

lemma Noted.hasBegun_eq {before after : Shared} {activity later : Activity}
    (noted : before.Noted after id activity later) : after.hasBegun = before.hasBegun := by
  cases noted with
  | nothing queue events =>
      funext other
      rw [hasBegun, events, hasBegun]
  | noted event own queue events =>
      refine hasBegun_of_events events fun job same => ?_
      rw [same] at own
      exact own
  | queued chore queues goes queue events => exact hasBegun_of_events events nofun

lemma Advances.hasBegun_eq {after : Shared} {plan : Plan} {workers : List Activity}
    {surroundings : Surroundings} {stage later : PlannerStage}
    (advances : shared.Advances plan workers surroundings stage after later) :
    after.hasBegun = shared.hasBegun := by
  cases advances with
  | planned | passed | waned | joined => rfl
  | unplannable | barred | admitted | dismissed => exact hasBegun_of_events rfl nofun
  | turnedAway refused ends =>
      rcases ends with rfl | ⟨task, rfl⟩
      · rfl
      · exact hasBegun_of_events rfl nofun

end Shared
end Pool

namespace Run

/-- The operations whose first task has not been taken: it is in the queue, or the planner has yet
to bring it there. -/
def waiting (run : Run) : List OperationId :=
  run.shared.queue.normal.filterMap Job.operation? ++
    (run.planner.proposed?.map (·.operation)).toList

/-- The operations that have a follow-up in the queue or a worker. -/
def attended (run : Run) : List OperationId :=
  run.shared.queue.immediate.filterMap Job.operation? ++ run.workers.filterMap Activity.operation?

/-- The operations whose first task has been taken and whose outcome is not yet recorded. -/
def inFlight (run : Run) : List OperationId :=
  (List.range run.shared.operations.length).filter fun id =>
    run.shared.hasBegun id && !run.shared.hasEnded id

/-- Whether the operations of a run wait and are attended to in line. -/
def Lined (run : Run) : Prop :=
  Pool.Lined run.shared.hasBegun run.waiting run.attended run.shared.operations.length

variable {records : List Record} {run next : Run} {move : Move}

lemma Lined.start (plan : Plan) (capacity workers : Nat) (disk : Disk) (records : List Record) :
    (Run.start plan { queue := Queue.ofCapacity capacity, operations := [], disk := disk } workers
      records).Lined where
  apart := List.nodup_nil
  known id present := absurd present List.not_mem_nil
  unbegun id present := absurd present List.not_mem_nil
  past id has := absurd has Bool.false_ne_true
  begun id present := by
    have none : (List.replicate workers Activity.idle).filterMap Activity.operation? = [] :=
      List.filterMap_eq_nil_iff.2 fun worker idle => by rw [(List.mem_replicate.1 idle).2]; rfl
    rw [attended, Run.start, none] at present
    cases present

/-- A step of the planner. -/
lemma Lined.advance (lined : run.Lined) (sound : run.Sound records)
    {surroundings : Surroundings} {shared : Shared} {stage : PlannerStage}
    (advances : run.shared.Advances run.plan run.workers surroundings run.planner shared stage) :
    Run.Lined { run with shared := shared, planner := stage } := by
  have queued : Pool.Lined run.shared.hasBegun
      (run.shared.queue.normal.filterMap Job.operation?) run.attended
        run.shared.operations.length :=
    Pool.Lined.leave lined (List.sublist_append_left ..) (List.Subset.refl _)
  -- When nothing is proposed, only what is in the queue waits.
  have dropped := queued
  rw [← List.append_nil (run.shared.queue.normal.filterMap Job.operation?)] at dropped
  have length (operation : Operation) :
      (run.shared.addOperation operation).operations.length = run.shared.operations.length + 1 :=
    List.length_append
  rw [Run.Lined, advances.hasBegun_eq]
  generalize planning : run.planner = before at advances
  cases advances with
  | @unplannable record rest error resolved =>
      change Pool.Lined _ _ _ (run.shared.addOperation _).operations.length
      rw [length]
      exact dropped.grow
  | planned resolved =>
      rw [length]
      exact queued.plan
  | barred bar => exact dropped
  | @passed id entry rest =>
      have same : run.waiting = waiting { run with planner := .entering entry rest } := by
        rw [waiting, planning]
        rfl
      exact same ▸ lined
  | @admitted entry rest queue accepted =>
      obtain ⟨normal, task, item, -⟩ := sound.entry entry (by rw [planning]; rfl)
      have own : run.waiting = run.shared.queue.normal.filterMap Job.operation? ++
          [task.operation] := by
        rw [waiting, planning]
        simp [PlannerStage.proposed?, item]
      obtain rfl := Queue.eq_push_of_insert accepted
      have still : waiting { run with
          shared := run.shared.accept entry (run.shared.queue.push entry.priority entry.item)
          planner := .planning rest } = run.waiting := by
        rw [own, normal, item]
        simp [waiting, Shared.accept, Shared.note, Queue.push, PlannerStage.proposed?,
          Job.operation?]
      rw [still]
      rw [normal]
      exact lined
  | @turnedAway entry rest error after refused ends =>
      have isOpen := sound.isOpen (by simp [planning])
      exact absurd refused (insert_of_isOpen isOpen entry error)
  | dismissed accepted =>
      obtain rfl := Queue.eq_push_of_insert accepted
      exact dropped
  | waned wanes =>
      obtain ⟨-, -, -, late, -⟩ := wanes.late
      have unproposed := PlannerStage.proposed?_of_entry? (PlannerStage.nothing_left _ late).2
      rw [waiting, unproposed]
      exact dropped
  | joined all => exact dropped

/-- The operations of a run's follow-ups and workers. -/
lemma mem_attended {id : OperationId} :
    id ∈ run.attended ↔ (∃ chore, .run ⟨id, chore⟩ ∈ run.shared.queue.immediate) ∨
      ∃ worker ∈ run.workers, worker.operation? = some id := by
  rw [attended, List.mem_append, List.mem_filterMap, List.mem_filterMap]
  refine or_congr_left ⟨?_, ?_⟩
  · rintro ⟨job, present, own⟩
    cases job with
    | dismissal => cases own
    | run task =>
        obtain rfl := Option.some.inj own
        exact ⟨task.chore, present⟩
  · rintro ⟨chore, present⟩
    exact ⟨_, present, rfl⟩

/-- When a worker changes over, the workers attend to its operation and to those of before. -/
lemma attends_of_set {workers : List Activity} {index : Nat} {worker later : Activity}
    {id : OperationId} (there : worker ∈ workers.set index later)
    (owns : worker.operation? = some id) :
    later.operation? = some id ∨ ∃ worker ∈ workers, worker.operation? = some id := by
  rcases List.mem_or_eq_of_mem_set there with old | rfl
  · exact .inr ⟨worker, old, owns⟩
  · exact .inl owns

/-- What is attended to after a job was taken was so before, or is the operation of the job. -/
lemma attended_of_take {index : Nat} {job : Job} {rest : Queue Job} {id : OperationId}
    (taken : run.shared.queue.take? = some (job, rest))
    (present : id ∈ attended { run with
      shared := { run.shared with queue := rest }.note (.taken job)
      workers := run.workers.set index (job.hand?.getD .dismissed) }) :
    job.operation? = some id ∨ id ∈ run.attended := by
  obtain ⟨lane, -⟩ := Queue.lanes_of_take? taken
  rcases mem_attended.1 present with ⟨chore, there⟩ | ⟨worker, there, owner⟩
  · exact .inr (mem_attended.2 (.inl ⟨chore, lane.mem there⟩))
  · rcases attends_of_set there owner with same | old
    · cases job with
      | run task => exact .inl same
      | dismissal => cases same
    · exact .inr (mem_attended.2 (.inr old))

/-- A worker that takes a follow-up goes on with its operation, and one that takes a first task
begins an operation; there is no follow-up in the queue then. -/
lemma Lined.take (lined : run.Lined) (sound : run.Sound records) {index : Nat} {job : Job}
    {rest : Queue Job} (taken : run.shared.queue.take? = some (job, rest)) :
    Run.Lined { run with
        shared := { run.shared with queue := rest }.note (.taken job)
        workers := run.workers.set index (job.hand?.getD .dismissed) } ∧
      (({ run.shared with queue := rest }.note (.taken job)).hasBegun = run.shared.hasBegun ∨
        rest.immediate = []) := by
  have kept (id : OperationId) := @attended_of_take run index job rest id taken
  rcases Queue.lane_of_take? taken with
    ⟨immediate, normal⟩ | ⟨-, none, normal | ⟨normal, shutdown, -⟩⟩
  · have first : job ∈ run.shared.queue.immediate := immediate ▸ List.mem_cons_self
    cases job with
    | dismissal => exact absurd rfl (sound.tasks _ (List.mem_append_left _ first))
    | run task =>
        have here : task.operation ∈ run.attended := mem_attended.2 (.inl ⟨task.chore, first⟩)
        have again : ({ run.shared with queue := rest }.note (.taken (.run task))).hasBegun =
            run.shared.hasBegun := Shared.hasBegun_again (lined.begun _ here)
        refine ⟨?_, .inl again⟩
        rw [Run.Lined, again]
        refine Pool.Lined.leave lined ?_ fun id present => ?_
        · simp only [waiting, Shared.note, normal]
          exact List.Sublist.refl _
        · rcases kept id present with own | old
          · rwa [← Option.some.inj own]
          · exact old
  · have first : job ∈ run.shared.queue.normal := normal ▸ List.mem_cons_self
    cases job with
    | dismissal => exact absurd rfl (sound.tasks _ (List.mem_append_right _ first))
    | run task =>
        have line : run.waiting = task.operation :: (rest.normal.filterMap Job.operation? ++
            (run.planner.proposed?.map (·.operation)).toList) := by
          rw [waiting, normal]
          rfl
        have waited := lined
        rw [Run.Lined, line] at waited
        refine ⟨waited.start fun id present => ?_, .inr none⟩
        rcases kept id present with own | old
        · rw [← Option.some.inj own]
          exact List.mem_cons_self
        · exact .tail _ old
  · have first : job ∈ run.shared.queue.shutdown := shutdown ▸ List.mem_cons_self
    obtain rfl := sound.dismissals _ first
    have begun : ({ run.shared with queue := rest }.note (.taken .dismissal)).hasBegun =
        run.shared.hasBegun := Shared.hasBegun_of_events rfl fun _ same => by cases same
    refine ⟨?_, .inl begun⟩
    rw [Run.Lined, begun]
    refine Pool.Lined.leave lined ?_ fun id present => ?_
    · simp only [waiting, Shared.note, normal]
      exact List.Sublist.refl _
    · rcases kept id present with own | old
      · cases own
      · exact old

/-- A worker that goes on with an operation, and what it brings into the queue, attend to the
operation to which the worker attended before. -/
lemma attended_of_turn (sound : run.Sound records) {surroundings : Surroundings} {index : Nat}
    {activity later : Activity} {own : OperationId} {shared : Shared}
    (working : run.workers[index]? = some activity) (owns : activity.operation? = some own)
    (work : run.shared.work surroundings activity = some (shared, later)) :
    attended { run with shared := shared, workers := run.workers.set index later } ⊆
      run.attended := by
  obtain ⟨⟨operation, notes, queued, changed⟩, goes⟩ :=
    Shared.stays_of_work (sound.own_lt working owns) owns work
  have here : own ∈ run.attended :=
    mem_attended.2 (.inr ⟨activity, List.mem_of_getElem? working, owns⟩)
  intro id present
  rcases mem_attended.1 present with ⟨chore, there⟩ | ⟨worker, there, owner⟩
  · have queue := changed.queue
    cases queued with
    | none =>
        dsimp only at there queue
        rw [queue] at there
        exact mem_attended.2 (.inl ⟨chore, there⟩)
    | some followUp =>
        dsimp only at there queue
        rw [queue] at there
        rcases List.mem_append.1 there with old | new
        · exact mem_attended.2 (.inl ⟨chore, old⟩)
        · cases List.mem_singleton.1 new
          exact here
  · rcases attends_of_set there owner with same | old
    · rcases goes with goesOn | rests
      · obtain rfl := Option.some.inj (same.symm.trans goesOn)
        exact here
      · obtain rfl : later = .idle := rests
        cases same
    · exact mem_attended.2 (.inr old)

/-- The turn of a worker keeps the operations in line and begins none. -/
lemma Lined.turn (lined : run.Lined) (sound : run.Sound records) {surroundings : Surroundings}
    {index : Nat} {activity later : Activity} {own : OperationId} {shared : Shared}
    (working : run.workers[index]? = some activity) (owns : activity.operation? = some own)
    (work : run.shared.work surroundings activity = some (shared, later)) :
    Run.Lined { run with shared := shared, workers := run.workers.set index later } ∧
      shared.hasBegun = run.shared.hasBegun := by
  have begun := (Shared.noted_of_work owns work).hasBegun_eq
  obtain ⟨⟨operation, notes, queued, changed⟩, -⟩ :=
    Shared.stays_of_work (sound.own_lt working owns) owns work
  have length : shared.operations.length = run.shared.operations.length := by
    rw [changed.operations, List.length_set]
  have normal : shared.queue.normal = run.shared.queue.normal := changed.lanes.1
  refine ⟨?_, begun⟩
  rw [Run.Lined, begun, length, waiting, normal]
  exact Pool.Lined.leave lined (List.Sublist.refl _) (attended_of_turn sound working owns work)

/-- A step keeps the operations in line. It begins one only when no follow-up is left in the
queue. -/
lemma Lined.step (lined : run.Lined) (sound : run.Sound records)
    (step : run.step move = some next) :
    next.Lined ∧
      (next.shared.hasBegun = run.shared.hasBegun ∨ next.shared.queue.immediate = []) := by
  obtain ⟨actor, surroundings⟩ := move
  cases actor with
  | planner =>
      obtain ⟨shared, stage, advances, rfl⟩ := step_planner step
      exact ⟨lined.advance sound advances, .inl advances.hasBegun_eq⟩
  | worker index =>
      cases works_of_step step with
      | turn working owns work =>
          obtain ⟨after, begun⟩ := lined.turn sound working owns work
          exact ⟨after, .inl begun⟩
      | take working taken => exact lined.take sound taken
      | leave working closed => exact absurd (sound.closed closed) (sound.early working nofun)

variable {batch : Batch} {disk : Disk} {moves : List Move} {id : OperationId}

/-- In every state of a run the operations are in line. -/
lemma lined_of_steps (reached : (batch.start disk records).steps moves = some run) :
    run.Lined := by
  have kept (run : Run) (move : Move) (next : Run) (holds : run.Sound records ∧ run.Lined)
      (_ : True) (step : run.step move = some next) : next.Sound records ∧ next.Lined :=
    ⟨holds.1.step step, (holds.2.step holds.1 step).1⟩
  exact (steps_induction kept ⟨Sound.start .., Lined.start ..⟩ (fun _ _ _ _ _ _ => trivial)
    reached).2

/-- An operation that neither waits nor is attended to is in nobody's hands. -/
lemma hands_of_unattended (sound : run.Sound records) (unwaiting : id ∉ run.waiting)
    (unattended : id ∉ run.attended) : run.hands id = 0 := by
  rw [hands, Multiset.filter_eq_nil]
  intro activity present owns
  rcases List.mem_append.1 present with queued | working
  · obtain ⟨job, there, hand⟩ := List.mem_filterMap.1 queued
    cases job with
    | dismissal => cases hand
    | run task =>
        obtain rfl := Option.some.inj hand
        obtain rfl := Option.some.inj owns
        rcases List.mem_append.1 there with inLane | shutdown
        · rcases List.mem_append.1 inLane with immediate | normal
          · exact unattended (mem_attended.2 (.inl ⟨task.chore, immediate⟩))
          · exact unwaiting (List.mem_append_left _ (List.mem_filterMap.2 ⟨_, normal, rfl⟩))
        · cases sound.dismissals _ shutdown
  · exact unattended (mem_attended.2 (.inr ⟨activity, working, owns⟩))

lemma proposed_of_unwaiting (unwaiting : id ∉ run.waiting) : run.proposed id = none := by
  rw [proposed, Option.map_eq_none_iff, Option.filter_eq_none_iff]
  intro task proposes own
  refine unwaiting (List.mem_append_right _ ?_)
  rw [proposes, ← of_decide_eq_true own]
  exact List.mem_singleton_self _

/-- An operation in flight is attended to. -/
lemma attended_of_inFlight (valid : batch.plan.Valid)
    (reached : (batch.start disk records).steps moves = some run) (flying : id ∈ run.inFlight) :
    id ∈ run.attended := by
  obtain ⟨inRange, state⟩ := List.mem_filter.1 flying
  have inside := List.mem_range.1 inRange
  obtain ⟨begun, unended⟩ := Bool.and_eq_true_iff.1 state
  have sound := (sound_of_steps reached).1
  have unwaiting : id ∉ run.waiting := by
    intro waits
    rw [(lined_of_steps reached).unbegun id waits] at begun
    cases begun
  by_contra unattended
  -- Whatever is in nobody's hands has its outcome.
  obtain ⟨message, once⟩ := settledOnce_of_gone valid reached (sound.record_of inside) inside
    (hands_of_unattended sound unwaiting unattended) (proposed_of_unwaiting unwaiting)
  have ended : run.shared.hasEnded id = true := by
    refine List.any_eq_true.2 ⟨.settled id message, ?_, rfl⟩
    have present : .settled id message ∈ (run.shared.history id).filter Event.isSettled := by
      rw [once]
      exact List.mem_singleton_self _
    exact (List.mem_filter.1 present).1
  rw [ended] at unended
  cases unended

/-- A step takes nothing back of what has happened. -/
lemma events_of_step (step : run.step move = some next) :
    run.shared.events ⊆ next.shared.events := by
  obtain ⟨actor, surroundings⟩ := move
  cases actor with
  | planner =>
      obtain ⟨shared, stage, advances, rfl⟩ := step_planner step
      generalize run.planner = before at advances
      cases advances with
      | planned | passed | waned | joined => exact List.Subset.refl _
      | unplannable | barred | admitted | dismissed => exact List.subset_cons_self ..
      | turnedAway refused ends =>
          rcases ends with rfl | ⟨task, rfl⟩
          · exact List.Subset.refl _
          · exact List.subset_cons_self ..
  | worker index =>
      cases works_of_step step with
      | @turn activity later own shared working owns work =>
          have noted : run.shared.Noted shared own activity later := Shared.noted_of_work owns work
          cases noted with
          | nothing queue events => exact events ▸ List.Subset.refl _
          | noted event own queue events => exact events ▸ List.subset_cons_self ..
          | queued chore queues goes queue events => exact events ▸ List.subset_cons_self ..
      | take working taken => exact List.subset_cons_self ..
      | leave working closed => exact List.Subset.refl _

/-- Unless a step begins an operation, it puts none in flight. -/
lemma inFlight_of_step (lined : run.Lined)
    (step : run.step move = some next) (begun : next.shared.hasBegun = run.shared.hasBegun) :
    next.inFlight ⊆ run.inFlight := by
  intro id flying
  obtain ⟨-, state⟩ := List.mem_filter.1 flying
  obtain ⟨has, unended⟩ := Bool.and_eq_true_iff.1 state
  rw [begun] at has
  refine List.mem_filter.2 ⟨List.mem_range.2 (lined.past id has), Bool.and_eq_true_iff.2 ⟨has, ?_⟩⟩
  rw [Bool.not_eq_true'] at unended ⊢
  by_contra passed
  obtain ⟨event, present, settles⟩ := List.any_eq_true.1 (Bool.eq_true_of_not_eq_false passed)
  obtain ⟨there, own⟩ := List.mem_filter.1 present
  have still : event ∈ next.shared.history id :=
    List.mem_filter.2 ⟨events_of_step step there, own⟩
  rw [Shared.hasEnded, List.any_eq_true.2 ⟨event, still, settles⟩] at unended
  cases unended

/-- In every state of a run the operations in flight, whose first task has been taken from the queue
and whose outcome is not yet recorded, are at most as many as the workers, and each of them has a
follow-up at the head of the queue or a worker. -/
theorem flight_within (valid : batch.plan.Valid)
    (reached : (batch.start disk records).steps moves = some run) :
    run.inFlight.length ≤ batch.config.maxConcurrentRequests ∧
      ∀ id ∈ run.inFlight, (∃ chore, .run ⟨id, chore⟩ ∈ run.shared.queue.immediate) ∨
        ∃ worker ∈ run.workers, worker.operation? = some id := by
  refine ⟨?_, fun id flying => mem_attended.1 (attended_of_inFlight valid reached flying)⟩
  have distinct (run : Run) : run.inFlight.Nodup := List.nodup_range.filter _
  induction moves using List.reverseRecOn generalizing run with
  | nil =>
      obtain rfl := Option.some.inj reached
      exact Nat.zero_le _
  | append_singleton moves move ih =>
      have arrived := reached
      rw [steps_concat] at reached
      obtain ⟨mid, before, step⟩ := Option.bind_eq_some_iff.1 reached
      have sound := (sound_of_steps before).1
      have lined := lined_of_steps before
      rcases (lined.step sound step).2 with begun | unfollowed
      · have fewer := inFlight_of_step lined step begun
        exact ((distinct run).subperm fewer).length_le.trans (ih before)
      · -- Without a follow-up in the queue, whatever is in flight has a worker of its own.
        have employed : run.inFlight ⊆ run.workers.filterMap Activity.operation? := by
          intro id flying
          have there := attended_of_inFlight valid arrived flying
          rwa [attended, unfollowed] at there
        calc run.inFlight.length
            ≤ (run.workers.filterMap Activity.operation?).length :=
              ((distinct run).subperm employed).length_le
          _ ≤ run.workers.length := List.length_filterMap_le ..
          _ = batch.config.maxConcurrentRequests := (sound_of_steps arrived).2.2

/-- While the worker is idle and the parts of a copy wait, the copy is in flight. -/
theorem smallCopy_flight_within :
    ∃ run, (Batch.small.start .empty [Batch.smallCopy]).steps
        ((Batch.smallMoves { answersAll := true } .empty Batch.smallCopy).take 16) = some run ∧
      run.inFlight = [0] ∧ run.inFlight.length ≤ 1 ∧ run.workers = [.idle] ∧
        ∃ chore, .run ⟨0, chore⟩ ∈ run.shared.queue.immediate := by
  have stage : ((Batch.small.start .empty [Batch.smallCopy]).steps
      ((Batch.smallMoves { answersAll := true } .empty Batch.smallCopy).take 16)).map
        (fun run => (run.inFlight, run.workers)) = some ([0], [.idle]) := by decide +kernel
  obtain ⟨run, reached, both⟩ := Option.map_eq_some_iff.1 stage
  obtain ⟨flying, idle⟩ := Prod.mk.inj both
  obtain ⟨within, attended⟩ := flight_within Batch.small_valid reached
  refine ⟨run, reached, flying, within, idle, ?_⟩
  rcases attended 0 (flying ▸ List.mem_singleton_self 0) with queued | ⟨worker, there, owns⟩
  · exact queued
  · rw [idle] at there
    rw [List.mem_singleton.1 there] at owns
    cases owns

end Run
end BulkTransfer
