import BulkTransfer.Proofs.Run.Hands
import BulkTransfer.Proofs.Run.Steps

/-!
# Runs as they are

What holds of every state of a run whatever its records, stores and policies are: tasks and
dismissals stand in their own lanes, the planner proposes first tasks of operations that it has
planned, and no worker is dismissed before the planner has admitted all records. A worker takes a
dismissal only when the other lanes are empty, so once all workers have been dismissed no task is
left: a run that has ended has no hands (`Run.Sound.hands_of_ended`).
-/

namespace BulkTransfer

open Pool

/-- What holds of every state of a run of the given records. -/
structure Run.Sound (records : List Record) (run : Run) : Prop where
  planned : run.shared.operations.map (·.record) ++ run.planner.records = records
  entry : ∀ entry, run.planner.entry? = some entry →
    entry.priority = .normal ∧ ∃ task, entry.item = .run task ∧
      task.operation < run.shared.operations.length
  proposing : ∀ id entry rest, run.planner = .proposing id entry rest →
    ∃ chore, entry.item = .run ⟨id, chore⟩
  known : ∀ id, run.shared.operations.length ≤ id → run.hands id = 0 ∧ run.shared.history id = []
  tasks : ∀ job ∈ run.shared.queue.immediate ++ run.shared.queue.normal, job ≠ .dismissal
  dismissals : ∀ job ∈ run.shared.queue.shutdown, job = .dismissal
  closed : run.shared.queue.closed = true → run.planner = .ended
  ended : run.planner = .ended → ∀ worker ∈ run.workers, worker = .dismissed
  late : .dismissed ∈ run.workers ∨ run.shared.queue.shutdown ≠ [] → run.planner.isLate = true
  drained : run.workers ≠ [] → (∀ worker ∈ run.workers, worker = .dismissed) →
    run.shared.queue.immediate = [] ∧ run.shared.queue.normal = []
  balanced : run.shared.Balanced

namespace Run

variable {records : List Record} {run next : Run} {move : Move}

lemma Sound.start (plan : Plan) (capacity workers : Nat) (disk : Disk) (records : List Record) :
    (Run.start plan { queue := Queue.ofCapacity capacity, operations := [], disk := disk } workers
      records).Sound records where
  planned := rfl
  entry _ proposed := by cases proposed
  proposing _ _ _ stage := by cases stage
  known id _ := by
    refine ⟨?_, rfl⟩
    rw [hands, Multiset.filter_eq_nil]
    intro activity idle
    obtain ⟨-, rfl⟩ := List.mem_replicate.1 (show activity ∈ List.replicate workers .idle from idle)
    exact (Option.some_ne_none id).symm
  tasks := by simp [Run.start, Queue.ofCapacity]
  dismissals := by simp [Run.start, Queue.ofCapacity]
  closed isClosed := by cases isClosed
  ended stage := by cases stage
  late := by simp [Run.start, Queue.ofCapacity]
  drained := by simp [Run.start, Queue.ofCapacity]
  balanced := rfl

/-- The operation of a hand has been planned. -/
lemma Sound.own_lt (sound : run.Sound records) {index : Nat} {activity : Activity}
    {own : OperationId} (working : run.workers[index]? = some activity)
    (owns : activity.operation? = some own) : own < run.shared.operations.length := by
  by_contra outside
  have none := (sound.known own (not_lt.1 outside)).1
  have hand := mem_hands_of_worker working owns
  rw [none] at hand
  exact absurd hand (Multiset.notMem_zero _)

/-- Nobody works on an operation that is not there. -/
lemma Sound.operationOf?_of_absent (sound : run.Sound records) {id : OperationId}
    (absent : run.shared.operations.length ≤ id) (actor : Actor) :
    run.operationOf? actor ≠ some id := by
  intro owns
  cases actor with
  | planner => cases owns
  | worker index =>
      obtain ⟨activity, working, own⟩ := Option.bind_eq_some_iff.1 owns
      exact absurd (sound.own_lt working own) (not_lt.2 absent)

/-- The planner does not end while somebody has not been dismissed. -/
lemma Sound.early (sound : run.Sound records) {index : Nat} {activity : Activity}
    (working : run.workers[index]? = some activity) (undismissed : activity ≠ .dismissed) :
    run.planner ≠ .ended :=
  fun ended => undismissed (sound.ended ended activity (List.mem_of_getElem? working))

/-- A turn of a worker, which dismisses nobody and queues at most a follow-up. -/
lemma Sound.turn (sound : run.Sound records) {index : Nat} {activity later : Activity}
    {own : OperationId} {shared : Shared} {surroundings : Surroundings}
    (working : run.workers[index]? = some activity) (owns : activity.operation? = some own)
    (work : run.shared.work surroundings activity = some (shared, later)) :
    Run.Sound records { run with shared := shared, workers := run.workers.set index later } := by
  have inside := sound.own_lt working owns
  have stays := Shared.stays_of_work inside owns work
  have undismissed : later ≠ .dismissed := stays.ne_dismissed
  have busy := Activity.ne_dismissed owns
  obtain ⟨⟨operation, notes, queued, changed⟩, continues⟩ := stays
  have present : later ∈ run.workers.set index later :=
    List.mem_set (List.getElem?_eq_some_iff.1 working).1 later
  have hands := (hands_of_turn working owns continues changed.queue).2
  have length : shared.operations.length = run.shared.operations.length := by
    rw [changed.operations, List.length_set]
  obtain ⟨normal, shutdown, closed, tasks⟩ := changed.lanes
  constructor
  case planned =>
    have record : operation.record = (run.shared.operation own).record := by rw [changed.same]
    have recorded : shared.operations.map (·.record) = run.shared.operations.map (·.record) := by
      rw [changed.operations, List.map_set, record, ← List.map_set,
        Shared.set_operation inside]
    rw [recorded]
    exact sound.planned
  case entry =>
    intro entry proposed
    rw [length]
    exact sound.entry entry proposed
  case proposing => exact sound.proposing
  case known =>
    intro id unknown
    rw [length] at unknown
    have apart : id ≠ own := fun same => absurd inside (not_lt.2 (same ▸ unknown))
    rw [hands_eq, hands id apart, changed.history, if_neg apart]
    exact sound.known id unknown
  case tasks =>
    intro job inLanes
    rcases List.mem_append.1 inLanes with inLane | inLane
    · rcases tasks job inLane with old | task
      · exact sound.tasks job (List.mem_append_left _ old)
      · exact task
    · rw [normal] at inLane
      exact sound.tasks job (List.mem_append_right _ inLane)
  case dismissals =>
    rw [shutdown]
    exact sound.dismissals
  case closed =>
    rw [closed]
    exact sound.closed
  case ended => exact fun ended => absurd ended (sound.early working busy)
  case late =>
    rw [shutdown]
    rintro (dismissed | sentinels)
    · rcases List.mem_or_eq_of_mem_set dismissed with old | same
      · exact sound.late (.inl old)
      · exact absurd same.symm undismissed
    · exact sound.late (.inr sentinels)
  case drained =>
    intro _ dismissed
    exact absurd (dismissed later present) undismissed
  case balanced => exact changed.balanced sound.balanced

/-- A worker that takes a job, and is dismissed if there is no task any more. -/
lemma Sound.take (sound : run.Sound records) {index : Nat} {job : Job} {rest : Queue Job}
    (working : run.workers[index]? = some .idle)
    (taken : run.shared.queue.take? = some (job, rest)) :
    Run.Sound records
      { run with
        shared := { run.shared with queue := rest }.note (.taken job)
        workers := run.workers.set index (job.hand?.getD .dismissed) } := by
  have hands := hands_of_take working taken
  have present : job.hand?.getD .dismissed ∈ run.workers.set index (job.hand?.getD .dismissed) :=
    List.mem_set (List.getElem?_eq_some_iff.1 working).1 _
  have member : job ∈ run.shared.queue.items := by
    rw [Queue.items_of_take? taken]
    exact List.mem_cons_self
  obtain ⟨immediate, normal, shutdown, closed, last⟩ := Queue.lanes_of_take? taken
  constructor
  case planned => exact sound.planned
  case entry => exact sound.entry
  case proposing => exact sound.proposing
  case known =>
    intro id unknown
    rw [hands_eq]
    refine ⟨(hands id).trans (sound.known id unknown).1, ?_⟩
    rw [Shared.history_note]
    exact (sound.known id unknown).2
  case tasks =>
    intro other inLanes
    refine sound.tasks other (List.mem_append.2 ?_)
    exact (List.mem_append.1 inLanes).imp (fun h => immediate.subset h) fun h => normal.subset h
  case dismissals => exact fun other inLane => sound.dismissals other (shutdown.subset inLane)
  case closed => exact fun isClosed => sound.closed (closed ▸ isClosed)
  case ended => exact fun ended => absurd ended (sound.early working nofun)
  case late =>
    rintro (dismissed | sentinels)
    · rcases List.mem_or_eq_of_mem_set dismissed with old | same
      · exact sound.late (.inl old)
      · cases job with
        | run task => cases same
        | dismissal =>
            refine sound.late (.inr fun none => ?_)
            rw [Queue.items, none, List.append_nil] at member
            exact sound.tasks _ member rfl
    · refine sound.late (.inr fun none => sentinels ?_)
      exact List.eq_nil_of_subset_nil (none ▸ shutdown.subset)
  case drained =>
    intro _ dismissed
    cases job with
    | run task => cases dismissed _ present
    | dismissal => exact last sound.tasks
  case balanced =>
    rw [Shared.Balanced, Shared.messages_note (by simp)]
    exact sound.balanced

/-- The queue is open while the planner has not ended. -/
lemma Sound.isOpen (sound : run.Sound records) (early : run.planner ≠ .ended) :
    run.shared.queue.closed = false :=
  Bool.eq_false_iff.2 fun closed => early (sound.closed closed)

/-- Nobody is dismissed before the planner has admitted all records. -/
lemma Sound.undismissed (sound : run.Sound records) (early : run.planner.isLate = false) :
    ¬(.dismissed ∈ run.workers ∨ run.shared.queue.shutdown ≠ []) := by
  intro late
  rw [sound.late late] at early
  cases early

/-- The run after the planner has refused an operation. -/
lemma Sound.refuse (sound : run.Sound records) {id : OperationId} (error : Failure)
    (inside : id < run.shared.operations.length) {rest : List Record}
    (left : run.planner.records = rest) (early : run.planner.isLate = false) :
    Run.Sound records
      { run with shared := run.shared.refuse id error, planner := .planning rest } := by
  have changed := Shared.Changed.ofRefuse inside error
  exact {
    planned := left ▸ sound.planned
    entry := fun _ proposed => by cases proposed
    proposing := fun _ _ _ stage => by cases stage
    known := fun other unknown => by
      have apart : other ≠ id := fun same => absurd inside (not_lt.2 (same ▸ unknown))
      refine ⟨(sound.known other unknown).1, ?_⟩
      rw [changed.history, if_neg apart]
      exact (sound.known other unknown).2
    tasks := sound.tasks
    dismissals := sound.dismissals
    closed := fun closed => by
      rw [sound.closed closed] at early
      cases early
    ended := fun stage => by cases stage
    late := fun late => absurd late (sound.undismissed early)
    drained := sound.drained
    balanced := changed.balanced sound.balanced }

lemma operationFor_record (plan : Plan) (record : Record) :
    (plan.operationFor record).record = record := rfl

lemma record_of_resolve {plan : Plan} {record : Record} {operation : Operation} {chore : Chore}
    (h : plan.resolve record = .ok (operation, chore)) : operation.record = record := by
  unfold Plan.resolve at h
  dsimp only at h
  split at h
  · cases h
  · split at h
    · cases h
    · split at h
      · cases split : plan.limits.split plan.config.multipartChunksize record.size with
        | error error => rw [split] at h; cases h
        | ok parts =>
            rw [split] at h
            obtain ⟨rfl, -⟩ := Prod.mk.inj (Except.ok.inj h)
            split <;> rfl
      · obtain ⟨rfl, -⟩ := Prod.mk.inj (Except.ok.inj h)
        rfl

/-- The run with one more operation, of which nothing has happened yet. -/
lemma Sound.addOperation (sound : run.Sound records) {operation : Operation} {record : Record}
    {rest : List Record} (planning : run.planner = .planning (record :: rest))
    (own : operation.record = record) :
    Run.Sound records
      { run with shared := run.shared.addOperation operation, planner := .planning rest } where
  planned := by
    have planned := sound.planned
    rw [planning] at planned
    simp only [Shared.addOperation, List.map_append, List.map_cons, List.map_nil, own,
      List.append_assoc]
    exact planned
  entry _ proposed := by cases proposed
  proposing _ _ _ stage := by cases stage
  known id unknown := by
    rw [Shared.addOperation, List.length_append] at unknown
    exact sound.known id (by omega)
  tasks := sound.tasks
  dismissals := sound.dismissals
  closed closed := by
    have ended := sound.closed closed
    rw [planning] at ended
    cases ended
  ended stage := by cases stage
  late late := absurd late (sound.undismissed (by rw [planning]; rfl))
  drained := sound.drained
  balanced := sound.balanced

/-- The run with the first task of a new operation proposed. -/
lemma Sound.propose (sound : run.Sound records) {operation : Operation} {record : Record}
    {chore : Chore} {rest : List Record} (planning : run.planner = .planning (record :: rest))
    (own : operation.record = record) :
    Run.Sound records
      { run with
        shared := run.shared.addOperation operation
        planner := .proposing run.shared.operations.length
          (operation.firstEntry run.shared.operations.length chore) rest } := by
  have added := sound.addOperation planning own
  exact {
    planned := added.planned
    entry := fun entry proposed => by
      obtain rfl := Option.some.inj proposed
      exact ⟨rfl, ⟨run.shared.operations.length, chore⟩, rfl, by simp [Shared.addOperation]⟩
    proposing := fun id entry rest proposed => by
      cases proposed
      exact ⟨chore, rfl⟩
    known := added.known
    tasks := added.tasks
    dismissals := added.dismissals
    closed := fun closed => by cases added.closed closed
    ended := fun stage => by cases stage
    late := fun late => by cases added.late late
    drained := added.drained
    balanced := added.balanced }

/-- The run with the proposed entry past the admission policy. -/
lemma Sound.passed (sound : run.Sound records) {id : OperationId} {entry : Entry Job}
    {rest : List Record} (proposing : run.planner = .proposing id entry rest) :
    Run.Sound records { run with planner := .entering entry rest } where
  planned := by
    have planned := sound.planned
    rw [proposing] at planned
    exact planned
  entry other proposed := by
    obtain rfl := Option.some.inj proposed
    exact sound.entry entry (by rw [proposing]; rfl)
  proposing _ _ _ stage := by cases stage
  known := sound.known
  tasks := sound.tasks
  dismissals := sound.dismissals
  closed closed := by
    have ended := sound.closed closed
    rw [proposing] at ended
    cases ended
  ended stage := by cases stage
  late late := absurd late (sound.undismissed (by rw [proposing]; rfl))
  drained := sound.drained
  balanced := sound.balanced

/-- The run with the proposed entry in the queue. -/
lemma Sound.admit (sound : run.Sound records) {entry : Entry Job} {rest : List Record}
    (entering : run.planner = .entering entry rest) :
    Run.Sound records
      { run with
        shared := run.shared.accept entry (run.shared.queue.push entry.priority entry.item)
        planner := .planning rest } := by
  obtain ⟨normal, task, item, inside⟩ := sound.entry entry (by rw [entering]; rfl)
  have early := sound.undismissed (by rw [entering]; rfl)
  rw [normal, item]
  constructor
  case planned =>
    have planned := sound.planned
    rw [entering] at planned
    exact planned
  case entry =>
    intro _ proposed
    cases proposed
  case proposing =>
    intro _ _ _ stage
    cases stage
  case known =>
    intro id unknown
    have apart : task.operation ≠ id := fun same => absurd inside (not_lt.2 (same ▸ unknown))
    rw [hands_eq]
    simp only [Shared.accept, Shared.note]
    rw [handsAmong_push, ← hands_eq, (sound.known id unknown).1]
    refine ⟨?_, ?_⟩
    · simp [Job.hand?, Activity.operation?, apart]
    · simpa [Shared.history, Event.operation?] using (sound.known id unknown).2
  case tasks =>
    intro job inLanes
    rcases List.mem_append.1 inLanes with old | inLane
    · exact sound.tasks job (List.mem_append_left _ old)
    · rcases List.mem_append.1 inLane with old | new
      · exact sound.tasks job (List.mem_append_right _ old)
      · rw [List.mem_singleton.1 new]
        intro same
        cases same
  case dismissals => exact sound.dismissals
  case closed =>
    intro closed
    have ended := sound.closed closed
    rw [entering] at ended
    cases ended
  case ended =>
    intro stage
    cases stage
  case late => exact fun late => absurd late early
  case drained =>
    intro some dismissed
    obtain ⟨worker, present⟩ := List.exists_mem_of_ne_nil _ some
    exact absurd (.inl (dismissed worker present ▸ present)) early
  case balanced =>
    rw [Shared.accept, Shared.Balanced, Shared.messages_note (by simp)]
    exact sound.balanced

/-- The run with one more dismissal in the queue. -/
lemma Sound.dismiss (sound : run.Sound records) {left : Nat}
    (entering : run.planner = .enteringDismissal left) :
    Run.Sound records
      { run with
        shared := run.shared.accept dismissal (run.shared.queue.push .shutdown .dismissal)
        planner := .dismissing left } := by
  have planned := sound.planned
  rw [entering] at planned
  constructor
  case planned => exact planned
  case entry =>
    intro _ proposed
    cases proposed
  case proposing =>
    intro _ _ _ stage
    cases stage
  case known =>
    intro id unknown
    rw [hands_eq]
    simp only [Shared.accept, Shared.note]
    rw [handsAmong_push, ← hands_eq, (sound.known id unknown).1]
    refine ⟨by simp [Job.hand?], ?_⟩
    simpa [Shared.history, Event.operation?, dismissal] using (sound.known id unknown).2
  case tasks => exact sound.tasks
  case dismissals =>
    intro job inLane
    rcases List.mem_append.1 inLane with old | new
    · exact sound.dismissals job old
    · exact List.mem_singleton.1 new
  case closed =>
    intro closed
    have ended := sound.closed closed
    rw [entering] at ended
    cases ended
  case ended =>
    intro stage
    cases stage
  case late => exact fun _ => rfl
  case drained => exact sound.drained
  case balanced =>
    rw [Shared.accept, Shared.Balanced, Shared.messages_note (by simp [dismissal])]
    exact sound.balanced

/-- The run with the planner at another late stage. -/
lemma Sound.wait (sound : run.Sound records) {stage : PlannerStage}
    (none : run.planner.records = []) (open_ : run.shared.queue.closed = false)
    (late : stage.isLate = true) (unended : stage ≠ .ended) :
    Run.Sound records { run with planner := stage } where
  planned := by
    have planned := sound.planned
    rw [none] at planned
    rw [← stage.nothing_left late |>.1] at planned
    exact planned
  entry entry proposed := by
    rw [stage.nothing_left late |>.2] at proposed
    cases proposed
  proposing id entry rest proposed := by
    rw [show stage = _ from proposed] at late
    cases late
  known := sound.known
  tasks := sound.tasks
  dismissals := sound.dismissals
  closed closed := by
    rw [open_] at closed
    cases closed
  ended ended := absurd ended unended
  late _ := late
  drained := sound.drained
  balanced := sound.balanced

/-- The run at its end. -/
lemma Sound.finish (sound : run.Sound records) (joining : run.planner = .joining)
    (dismissed : ∀ worker ∈ run.workers, worker = .dismissed) :
    Run.Sound records
      { run with shared := { run.shared with queue := run.shared.queue.close }, planner := .ended }
      where
  planned := by
    have planned := sound.planned
    rw [joining] at planned
    exact planned
  entry _ proposed := by cases proposed
  proposing _ _ _ stage := by cases stage
  known := sound.known
  tasks := sound.tasks
  dismissals := sound.dismissals
  closed _ := rfl
  ended _ := dismissed
  late _ := rfl
  drained := sound.drained
  balanced := sound.balanced

/-- An open queue refuses nothing that the policy has admitted. -/
lemma insert_of_isOpen {queue : Queue Job} (isOpen : queue.closed = false) (entry : Entry Job)
    (error : Failure) : queue.insert entry none ≠ .refused error := by
  rw [Queue.insert, Queue.insertAnyway, isOpen]
  simp only [Bool.false_eq_true, if_false]
  split <;> simp

/-- A step of the planner. -/
lemma Sound.advance (sound : run.Sound records) {surroundings : Surroundings} {shared : Shared}
    {stage : PlannerStage}
    (advances : run.shared.Advances run.plan run.workers surroundings run.planner shared stage) :
    Run.Sound records { run with shared := shared, planner := stage } := by
  generalize planning : run.planner = before at advances
  cases advances with
  | @unplannable record rest error resolved =>
      have added := sound.addOperation planning (operationFor_record run.plan record)
      have inside : run.shared.operations.length <
          (run.shared.addOperation (run.plan.operationFor record)).operations.length := by
        simp [Shared.addOperation]
      exact added.refuse error inside rfl rfl
  | planned resolved => exact sound.propose planning (record_of_resolve resolved)
  | @barred id entry rest reason bar =>
      obtain ⟨chore, item⟩ := sound.proposing id entry rest planning
      obtain ⟨-, task, same, inside⟩ := sound.entry entry (by rw [planning]; rfl)
      rw [item] at same
      obtain rfl := Job.run.inj same
      exact sound.refuse _ inside (by rw [planning]; rfl) (by rw [planning]; rfl)
  | passed => exact sound.passed planning
  | admitted accepted =>
      rw [Queue.eq_push_of_insert accepted]
      exact sound.admit planning
  | @turnedAway entry rest error after refused ends =>
      have isOpen := sound.isOpen (by simp [planning])
      exact absurd refused (insert_of_isOpen isOpen entry error)
  | dismissed accepted =>
      rw [Queue.eq_push_of_insert accepted]
      exact sound.dismiss planning
  | waned wanes =>
      obtain ⟨nothing, -, early, late, unended⟩ := wanes.late
      subst planning
      exact sound.wait nothing (sound.isOpen early) late unended
  | joined all => exact sound.finish planning all

/-- Every step keeps a run sound. -/
lemma Sound.step (sound : run.Sound records) (step : run.step move = some next) :
    next.Sound records := by
  obtain ⟨actor, surroundings⟩ := move
  cases actor with
  | planner =>
      obtain ⟨shared, stage, advances, rfl⟩ := step_planner step
      exact sound.advance advances
  | worker index =>
      cases works_of_step step with
      | turn working owns work => exact sound.turn working owns work
      | take working taken => exact sound.take working taken
      | leave working closed => exact absurd (sound.closed closed) (sound.early working nofun)

/-- A run that has ended has nothing left to do for any operation. -/
theorem Sound.hands_of_ended (sound : run.Sound records) (workers : run.workers ≠ [])
    (ended : run.planner = .ended) (id : OperationId) :
    run.hands id = 0 ∧ run.proposed id = none := by
  have dismissed := sound.ended ended
  obtain ⟨immediate, normal⟩ := sound.drained workers dismissed
  refine ⟨?_, by rw [proposed, ended]; rfl⟩
  rw [hands, Multiset.filter_eq_nil]
  intro activity present
  rcases List.mem_append.1 (show activity ∈ _ ++ run.workers from present) with queued | working
  · obtain ⟨job, inQueue, hand⟩ := List.mem_filterMap.1 queued
    rw [Queue.items, immediate, normal] at inQueue
    rw [sound.dismissals job inQueue] at hand
    cases hand
  · rw [dismissed activity working]
    exact (Option.some_ne_none id).symm

end Run
end BulkTransfer
