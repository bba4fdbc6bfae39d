import BulkTransfer.Proofs.Load.Flight

/-!
# The calls of one operation together

A single worker goes on with its operation as long as that has follow-ups, for these are taken
before any first task. So it attends to one operation at a time (`Run.attended_of_step`), and what
it has attended to before it does not take up again: whatever it calls for an operation it calls
before it calls anything for the next (`Run.Undivided`).
-/

namespace BulkTransfer

open Pool

/-- Whether between any two occurrences of a member of a list there is no other member. -/
def Grouped {α : Type} (members : List α) : Prop :=
  ∀ before one between after, members = before ++ one :: between ++ one :: after →
    ∀ other ∈ between, other = one

namespace Grouped

variable {α : Type} {members : List α} {one : α}

lemma nil : Grouped ([] : List α) := by
  intro before one between after split
  simp at split

/-- The last member may be repeated, and any that is new may follow. -/
lemma concat (grouped : Grouped members) (recent : one ∈ members → members.getLast? = some one) :
    Grouped (members ++ [one]) := by
  intro before same between after split
  rcases List.eq_nil_or_concat' after with rfl | ⟨start, last, rfl⟩
  · obtain ⟨rfl, repeated⟩ := List.append_inj' split rfl
    obtain rfl := List.singleton_inj.1 repeated
    have latest := recent (by simp)
    rcases List.eq_nil_or_concat' between with rfl | ⟨inner, last, rfl⟩
    · exact List.forall_mem_nil _
    -- The last one before is the same, and so is what stands between it and the first.
    · rw [← List.cons_append, ← List.append_assoc, List.getLast?_concat] at latest
      obtain rfl := Option.some.inj latest
      have inside := grouped before last inner [] (by simp)
      intro other present
      rcases List.mem_append.1 present with within | only
      · exact inside other within
      · exact List.mem_singleton.1 only
  · have earlier : members ++ [one] = (before ++ same :: between ++ same :: start) ++ [last] := by
      simpa using split
    exact grouped before same between start (List.append_inj' earlier rfl).1

end Grouped

namespace Pool

/-- The call that an event is, with the operation that it is made for. -/
def Event.issue? : Event → Option (OperationId × Call)
  | .called _ id call => some (id, call)
  | _ => none

/-- The call that a worker makes in its next turn. -/
def Activity.issue? : Activity → Option Call
  | .sending _ _ _ call => some call
  | _ => none

namespace Shared

/-- The calls made in a run, each with the operation that it was made for, first to last. -/
def issued (shared : Shared) : List (OperationId × Call) :=
  shared.events.reverse.filterMap Event.issue?

/-- The operations for which calls were made in a run, each as often, first to last. -/
def callers (shared : Shared) : List OperationId :=
  shared.issued.map (·.1)

variable {before after : Shared} {id : OperationId}

lemma issued_of_events {event : Event} (events : after.events = event :: before.events) :
    after.issued = before.issued ++ event.issue?.toList := by
  rw [issued, events, List.reverse_cons, List.filterMap_append, issued, List.filterMap_cons]
  cases event.issue? <;> rfl

/-- A worker makes the call that it is at. -/
lemma issued_of_work {surroundings : Surroundings} {activity later : Activity}
    (own : activity.operation? = some id)
    (work : before.work surroundings activity = some (after, later)) :
    after.issued = before.issued ++ (activity.issue?.map fun call => (id, call)).toList := by
  cases calls : activity.issue? with
  | some call =>
      cases activity
      case sending own' errand store made =>
        obtain rfl := Option.some.inj own
        obtain rfl := Option.some.inj calls
        obtain ⟨rfl, -⟩ := Prod.mk.inj (Option.some.inj work)
        exact @issued_of_events before _ (.called store own' made) rfl
      all_goals cases calls
  | none =>
      have noted : before.Noted after id activity later := noted_of_work own work
      cases noted with
      | nothing queue events => simp [issued, events]
      | queued chore queues goes queue events => exact issued_of_events events
      | noted event notes queue events =>
          rw [issued_of_events events]
          cases event
          case called =>
            obtain ⟨errand, rfl⟩ := notes
            cases calls
          all_goals rfl

lemma Advances.issued_eq {plan : Plan} {workers : List Activity} {surroundings : Surroundings}
    {stage later : PlannerStage}
    (advances : before.Advances plan workers surroundings stage after later) :
    after.issued = before.issued := by
  have silent {event : Event} (events : after.events = event :: before.events)
      (quiet : event.issue? = none) : after.issued = before.issued := by
    rw [issued_of_events events, quiet]
    exact List.append_nil _
  cases advances with
  | planned | passed | waned | joined => rfl
  | unplannable | barred | admitted | dismissed => exact silent rfl rfl
  | turnedAway refused ends =>
      rcases ends with rfl | ⟨task, rfl⟩
      · rfl
      · exact silent rfl rfl

end Shared
end Pool

namespace Run

variable {records : List Record} {run next : Run} {move : Move}

/-- The planner leaves the follow-ups in the queue. -/
lemma immediate_of_advances (sound : run.Sound records) {surroundings : Surroundings}
    {shared : Shared} {stage : PlannerStage}
    (advances : run.shared.Advances run.plan run.workers surroundings run.planner shared stage) :
    shared.queue.immediate = run.shared.queue.immediate := by
  generalize planning : run.planner = before at advances
  cases advances with
  | unplannable | planned | barred | passed | waned | joined => rfl
  | @admitted entry rest queue accepted =>
      obtain ⟨normal, -⟩ := sound.entry entry (by rw [planning]; rfl)
      obtain rfl := Queue.eq_push_of_insert accepted
      rw [Shared.accept, Shared.note, normal]
      rfl
  | turnedAway refused ends => rcases ends with rfl | ⟨task, rfl⟩ <;> rfl
  | dismissed accepted =>
      obtain rfl := Queue.eq_push_of_insert accepted
      rfl

/-- A step of one worker leaves it with the operation that it attends to, or comes to one that has
not begun before. -/
theorem attended_of_step (sound : run.Sound records) (lined : run.Lined)
    (single : run.workers.length = 1) (step : run.step move = some next) :
    next.attended ⊆ run.attended ∨
      ∃ id, next.attended = [id] ∧ run.shared.hasBegun id = false := by
  obtain ⟨worker, workers⟩ := List.length_eq_one_iff.1 single
  obtain ⟨actor, surroundings⟩ := move
  cases actor with
  | planner =>
      obtain ⟨shared, stage, advances, rfl⟩ := step_planner step
      refine .inl ?_
      rw [attended, immediate_of_advances sound advances]
      exact List.Subset.refl _
  | worker index =>
      cases works_of_step step with
      | turn working owns work => exact .inl (attended_of_turn sound working owns work)
      | leave working closed => exact absurd (sound.closed closed) (sound.early working (by simp))
      | @take job rest working taken =>
          have kept (within : ∀ id, job.operation? = some id → id ∈ run.attended) :
              attended { run with
                shared := { run.shared with queue := rest }.note (.taken job)
                workers := run.workers.set index (job.hand?.getD .dismissed) } ⊆ run.attended :=
            fun id present => (attended_of_take taken present).elim (within id) fun old => old
          have tasks := sound.tasks job
          rcases Queue.lane_of_take? taken with
            ⟨immediate, -⟩ | ⟨-, none, normal | ⟨-, shutdown, -⟩⟩
          · refine .inl (kept fun id own => List.mem_append_left _ ?_)
            exact List.mem_filterMap.2 ⟨job, immediate ▸ List.mem_cons_self, own⟩
          · cases job with
            | dismissal => exact absurd rfl (tasks (by simp [normal]))
            | run task =>
                refine .inr ⟨task.operation, ?_, lined.unbegun task.operation ?_⟩
                · obtain rfl : index = 0 :=
                    Nat.lt_one_iff.1 (single ▸ (List.getElem?_eq_some_iff.1 working).1)
                  simp [attended, workers, Shared.note, none, Job.hand?, Activity.operation?]
                · exact List.mem_append_left _
                    (List.mem_filterMap.2 ⟨_, normal ▸ List.mem_cons_self, rfl⟩)
          · obtain rfl := sound.dismissals job (shutdown ▸ List.mem_cons_self)
            exact .inl (kept fun id dismisses => absurd dismisses (Option.some_ne_none id).symm)

/-- A step of one worker makes no call, or one for an operation that the worker attends to and goes
on attending to. -/
lemma issued_of_step (sound : run.Sound records) (step : run.step move = some next) :
    next.shared.issued = run.shared.issued ∨
      next.attended ⊆ run.attended ∧ ∃ id ∈ run.attended, ∃ call,
        next.shared.issued = run.shared.issued ++ [(id, call)] := by
  obtain ⟨actor, surroundings⟩ := move
  cases actor with
  | planner =>
      obtain ⟨shared, stage, advances, rfl⟩ := step_planner step
      exact .inl advances.issued_eq
  | worker index =>
      cases works_of_step step with
      | leave working closed => exact .inl rfl
      | take working taken =>
          refine .inl ?_
          exact (Shared.issued_of_events rfl).trans (List.append_nil _)
      | @turn activity later own shared working owns work =>
          have made := Shared.issued_of_work owns work
          cases calls : activity.issue? with
          | none =>
              rw [calls] at made
              exact .inl (made.trans (List.append_nil _))
          | some call =>
              rw [calls] at made
              refine .inr ⟨attended_of_turn sound working owns work, own, ?_, call, made⟩
              exact mem_attended.2 (.inr ⟨activity, List.mem_of_getElem? working, owns⟩)

/-- What holds of the calls of a run by one worker: those of one operation stand together, an
operation for which calls were made has begun, the latest of them is the only one among these that
is attended to, and no two operations are attended to at a time. -/
structure Undivided (run : Run) : Prop where
  grouped : Grouped run.shared.callers
  begun : ∀ id ∈ run.shared.callers, run.shared.hasBegun id = true
  latest : ∀ id ∈ run.shared.callers, id ∈ run.attended →
    run.shared.callers.getLast? = some id
  alone : ∀ id ∈ run.attended, ∀ other ∈ run.attended, other = id

lemma Undivided.start (plan : Plan) (capacity : Nat) (disk : Disk) (records : List Record) :
    (Run.start plan { queue := Queue.ofCapacity capacity, operations := [], disk := disk } 1
      records).Undivided where
  grouped := .nil
  begun := List.forall_mem_nil _
  latest := List.forall_mem_nil _
  alone := List.forall_mem_nil _

/-- An operation that has begun stays so. -/
lemma hasBegun_of_step {id : OperationId} (step : run.step move = some next)
    (begun : run.shared.hasBegun id = true) : next.shared.hasBegun id = true := by
  obtain ⟨event, present, takes⟩ := List.any_eq_true.1 begun
  exact List.any_eq_true.2 ⟨event, events_of_step step present, takes⟩

/-- A step of one worker keeps the calls of each operation together. -/
lemma Undivided.step (undivided : run.Undivided) (sound : run.Sound records)
    (lined : run.Lined) (single : run.workers.length = 1) (step : run.step move = some next) :
    next.Undivided := by
  obtain ⟨grouped, begun, latest, alone⟩ := undivided
  rcases issued_of_step sound step with same | ⟨fewer, id, here, call, made⟩
  · have same : next.shared.callers = run.shared.callers := by
      rw [Shared.callers, same, Shared.callers]
    have still (id : OperationId) (called : id ∈ run.shared.callers) :
        next.shared.hasBegun id = true := hasBegun_of_step step (begun id called)
    rcases attended_of_step sound lined single step with fewer | ⟨new, only, unbegun⟩
    · refine ⟨same ▸ grouped, same ▸ still, ?_, fun id first other second =>
        alone id (fewer first) other (fewer second)⟩
      rw [same]
      exact fun id called present => latest id called (fewer present)
    -- For an operation that only begins now no call was made before.
    · refine ⟨same ▸ grouped, same ▸ still, ?_, ?_⟩
      · rw [same, only]
        intro id called present
        obtain rfl := List.mem_singleton.1 present
        rw [begun id called] at unbegun
        cases unbegun
      · rw [only]
        intro id first other second
        rw [List.mem_singleton.1 first, List.mem_singleton.1 second]
  · have more : next.shared.callers = run.shared.callers ++ [id] := by
      rw [Shared.callers, made, List.map_append]
      rfl
    have same {other : OperationId} (present : other ∈ next.attended) : other = id :=
      alone id here other (fewer present)
    refine ⟨?_, ?_, ?_, fun first one second another => ?_⟩
    · rw [more]
      exact grouped.concat fun called => latest id called here
    · rw [more]
      intro other called
      refine hasBegun_of_step step ?_
      rcases List.mem_append.1 called with old | new
      · exact begun other old
      · rw [List.mem_singleton.1 new]
        exact lined.begun id here
    · rw [more]
      intro other called present
      rw [same present]
      exact List.getLast?_concat
    · rw [same one, same another]

variable {batch : Batch} {disk : Disk} {moves : List Move}

/-- In every state of a run by one worker the calls of each operation stand together. -/
lemma undivided_of_steps (single : batch.config.maxConcurrentRequests = 1)
    (reached : (batch.start disk records).steps moves = some run) : run.Undivided := by
  have kept (run : Run) (move : Move) (next : Run)
      (holds : run.Sound records ∧ run.workers.length = 1 ∧ run.Lined ∧ run.Undivided)
      (_ : True) (step : run.step move = some next) :
      next.Sound records ∧ next.workers.length = 1 ∧ next.Lined ∧ next.Undivided := by
    obtain ⟨sound, workers, lined, undivided⟩ := holds
    exact ⟨sound.step step, (kept_of_step step).2.trans workers, (lined.step sound step).1,
      undivided.step sound lined workers step⟩
  refine (steps_induction kept ⟨Sound.start .., ?_, Lined.start .., ?_⟩
    (fun _ _ _ _ _ _ => trivial) reached).2.2.2
  · exact List.length_replicate.trans single
  · have begins := Undivided.start batch.plan batch.config.maxQueueSize disk records
    rwa [← single] at begins

end Run
end BulkTransfer
