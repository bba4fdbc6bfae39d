import BulkTransfer.Proofs.Run.Sound

/-!
# Steps as one operation sees them

A step of a run is one of four things to an operation: nothing, the admission of its first task,
the refusal of it, or a turn of one of its hands (`Run.Seen`). An operation begins when its record
is planned (`Pool.Begins`), so what holds of an operation at its beginning and is kept by the four
holds of it whenever it is there (`Run.each_step`).
-/

namespace BulkTransfer

open Pool

/-- How there comes to be an operation of a record: its first task is proposed, or the record
cannot be done and the operation has ended. -/
inductive Pool.Begins (plan : Plan) (record : Record) (id : OperationId) (view : View) : Prop where
  | proposed (operation : Operation) (chore : Chore)
      (resolved : plan.resolve record = .ok (operation, chore))
      (begun : view = ⟨operation, some chore, 0, []⟩)
  | refused (error : Failure) (tally : Tally) (resolved : plan.resolve record = .error error)
      (begun : view = ⟨plan.operationFor record, none, 0,
        [.settled id (Shared.refusal (plan.operationFor record) tally error).1]⟩)

namespace Run

/-- What a step of a run is to one of its operations. -/
inductive Seen (run next : Run) (move : Move) (id : OperationId) : Prop where
  | same (view : next.view id = run.view id) (other : run.operationOf? move.actor ≠ some id)
  | admitted (chore : Chore) (proposed : run.proposed id = some chore)
      (disk : next.shared.disk = run.shared.disk)
      (view : next.view id = ⟨run.shared.operation id, none,
        .starting id chore ::ₘ run.hands id, run.shared.history id⟩)
      (other : run.operationOf? move.actor ≠ some id)
  | refused (chore : Chore) (error : Failure) (proposed : run.proposed id = some chore)
      (shared : next.shared = run.shared.refuse id error)
      (view : next.view id = ⟨run.shared.operation id, none, run.hands id,
        .settled id (Shared.refusal (run.shared.operation id) run.shared.tally error).1 ::
          run.shared.history id⟩)
      (other : run.operationOf? move.actor ≠ some id)
      (barred : ∃ entry, run.asks? move.actor = some entry ∧ entry.item = .run ⟨id, chore⟩ ∧
        move.surroundings.policy entry ≠ none)
      (severe : error.isWarning = false)
  | turned (activity later : Activity) (rest : Multiset Activity) (index : Nat)
      (actor : move.actor = .worker index) (working : run.workers[index]? = some activity)
      (own : activity.operation? = some id) (hands : run.hands id = activity ::ₘ rest)
      (work : run.shared.work move.surroundings activity = some (next.shared, later))
      (view : ∀ operation notes queued,
        run.shared.Changed next.shared id operation notes queued →
          next.view id = ⟨operation, run.proposed id, later.leaves id queued + rest,
            notes ++ run.shared.history id⟩)

variable {records : List Record} {run next : Run} {id : OperationId}

/-- The planner works on no operation. -/
lemma operationOf?_planner (run : Run) (id : OperationId) :
    run.operationOf? .planner ≠ some id :=
  (Option.some_ne_none id).symm

/-- A turn of a worker is a turn of its operation, and nothing to the others. -/
lemma seen_of_turn (sound : run.Sound records) {index : Nat} {activity later : Activity}
    {own : OperationId} {shared : Shared} {surroundings : Surroundings}
    (working : run.workers[index]? = some activity) (owns : activity.operation? = some own)
    (work : run.shared.work surroundings activity = some (shared, later)) (id : OperationId) :
    Seen run { run with shared := shared, workers := run.workers.set index later }
      ⟨.worker index, surroundings⟩ id := by
  have inside := sound.own_lt working owns
  obtain ⟨⟨operation, notes, queued, changed⟩, continues⟩ := Shared.stays_of_work inside owns work
  by_cases apart : id = own
  · subst apart
    obtain ⟨rest, hands, -⟩ := (hands_of_turn working owns continues changed.queue).1
    refine .turned activity later rest index rfl working owns hands work ?_
    intro operation notes queued changed
    obtain ⟨others, before, after⟩ := (hands_of_turn working owns continues changed.queue).1
    obtain rfl : others = rest := (Multiset.cons_inj_right activity).1 (before.symm.trans hands)
    simp only [view]
    congr 1
    · exact changed.operation_eq inside
    · rw [hands_eq]
      exact after
    · rw [changed.history, if_pos rfl]
  · refine .same ?_ ?_
    · simp only [view]
      congr 1
      · rw [Shared.operation, Shared.operation, changed.operations]
        simp [List.getD_eq_getElem?_getD, List.getElem?_set_ne (Ne.symm apart)]
      · rw [hands_eq]
        exact (hands_of_turn working owns continues changed.queue).2 id apart
      · rw [changed.history, if_neg apart, List.nil_append]
    · simp [operationOf?, working, owns, Ne.symm apart]

/-- Taking a job from the queue is nothing to any operation. -/
lemma seen_of_take {index : Nat} {job : Job} {rest : Queue Job} {surroundings : Surroundings}
    (working : run.workers[index]? = some .idle)
    (taken : run.shared.queue.take? = some (job, rest)) (id : OperationId) :
    Seen run
      { run with
        shared := { run.shared with queue := rest }.note (.taken job)
        workers := run.workers.set index (job.hand?.getD .dismissed) }
      ⟨.worker index, surroundings⟩ id := by
  refine .same ?_ ?_
  · have hands := hands_of_take working taken id
    simp only [view]
    congr 1
    rw [hands_eq]
    exact hands
  · simp [operationOf?, working, Activity.operation?]

/-- What the planner refuses was proposed before. -/
lemma seen_of_refuse {own : OperationId} {chore : Chore} {error : Failure} {rest : List Record}
    {surroundings : Surroundings} (severe : error.isWarning = false)
    (proposed : run.planner.proposed? = some ⟨own, chore⟩)
    (barred : ∃ entry, run.asks? .planner = some entry ∧ entry.item = .run ⟨own, chore⟩ ∧
      surroundings.policy entry ≠ none) (id : OperationId)
    (inside : own < run.shared.operations.length) :
    Seen run
      { run with shared := run.shared.refuse own error, planner := .planning rest }
      ⟨.planner, surroundings⟩ id := by
  have changed := Shared.Changed.ofRefuse inside error
  by_cases apart : id = own
  · subst apart
    have mine : run.proposed id = some chore := by simp [Run.proposed, proposed]
    refine .refused chore error mine rfl ?_ (operationOf?_planner run _) barred severe
    simp only [view]
    congr 1
    rw [changed.history, if_pos rfl]
    rfl
  · have others : run.proposed id = none := by
      simp [Run.proposed, proposed, Ne.symm apart]
    refine .same ?_ (operationOf?_planner run _)
    simp only [view]
    congr 1
    · rw [others]
      rfl
    · rw [changed.history, if_neg apart, List.nil_append]

/-- A proposed entry that comes into the queue becomes a hand. -/
lemma seen_of_admit {entry : Entry Job} {chore : Chore} {own : OperationId}
    {rest : List Record} {surroundings : Surroundings}
    (entering : run.planner = .entering entry rest) (item : entry.item = .run ⟨own, chore⟩)
    (id : OperationId) :
    Seen run
      { run with
        shared := run.shared.accept entry (run.shared.queue.push entry.priority entry.item)
        planner := .planning rest }
      ⟨.planner, surroundings⟩ id := by
  have proposed : run.planner.proposed? = some ⟨own, chore⟩ := by
    rw [entering]
    simp [PlannerStage.proposed?, item]
  have history : (run.shared.accept entry
      (run.shared.queue.push entry.priority entry.item)).history id = run.shared.history id := by
    simp [Shared.history, Shared.accept, Shared.note, Event.operation?]
  have hands : (Run.mk run.plan (run.shared.accept entry
        (run.shared.queue.push entry.priority entry.item)) run.workers (.planning rest)).hands id =
      (if own = id then {Activity.starting own chore} else 0) + run.hands id := by
    rw [hands_eq, hands_eq]
    simp only [Shared.accept, Shared.note]
    rw [handsAmong_push, item]
    simp [Job.hand?, Activity.operation?]
  by_cases apart : own = id
  · subst apart
    refine .admitted chore (by simp [Run.proposed, proposed]) rfl ?_ (operationOf?_planner run _)
    rw [if_pos rfl, Multiset.singleton_add] at hands
    simp only [view]
    rw [hands, history]
    rfl
  · refine .same ?_ (operationOf?_planner run _)
    rw [if_neg apart, zero_add] at hands
    have others : run.proposed id = none := by simp [Run.proposed, proposed, apart]
    simp only [view]
    rw [hands, history, others]
    rfl

/-- A change of the planner's stage that leaves the proposed task is nothing to any operation. -/
lemma seen_of_wait {stage : PlannerStage} {surroundings : Surroundings} {shared : Shared}
    (proposed : stage.proposed? = run.planner.proposed?)
    (operations : shared.operations = run.shared.operations)
    (queue : handsAmong shared.queue.items run.workers id = run.hands id)
    (history : shared.history id = run.shared.history id) :
    Seen run { run with shared := shared, planner := stage } ⟨.planner, surroundings⟩ id := by
  refine .same ?_ (operationOf?_planner run _)
  simp only [view]
  congr 1
  · rw [Shared.operation, operations]
    rfl
  · rw [Run.proposed, proposed]
    rfl
  · rw [hands_eq]
    exact queue

lemma operation_addOperation {shared : Shared} (operation : Operation)
    (inside : id < shared.operations.length) :
    (shared.addOperation operation).operation id = shared.operation id := by
  simp [Shared.operation, Shared.addOperation, List.getD_eq_getElem?_getD,
    List.getElem?_append_left inside]

lemma operation_added (shared : Shared) (operation : Operation) :
    (shared.addOperation operation).operation shared.operations.length = operation := by
  simp [Shared.operation, Shared.addOperation]

/-- Planning a record is nothing to the operations that are there. -/
lemma seen_of_add {operation : Operation} {record : Record} {rest : List Record}
    {surroundings : Surroundings} {stage : PlannerStage}
    (planning : run.planner = .planning (record :: rest))
    (apart : ∀ task, stage.proposed? = some task → task.operation = run.shared.operations.length)
    (inside : id < run.shared.operations.length) :
    Seen run { run with shared := run.shared.addOperation operation, planner := stage }
      ⟨.planner, surroundings⟩ id := by
  have idle : run.proposed id = none := by rw [Run.proposed, planning]; rfl
  have others : stage.proposed?.filter (·.operation = id) = none := by
    rw [Option.filter_eq_none_iff]
    intro task proposed
    rw [apart task proposed, decide_eq_true_eq]
    exact Nat.ne_of_gt inside
  refine .same ?_ (operationOf?_planner run _)
  simp only [view]
  congr 1
  · exact operation_addOperation _ inside
  · rw [idle, Run.proposed, others]
    rfl

/-- A record that cannot be planned is nothing to the operations that are there. -/
lemma seen_of_addRefused {operation : Operation} {record : Record} {error : Failure}
    {rest : List Record} {surroundings : Surroundings}
    (planning : run.planner = .planning (record :: rest))
    (inside : id < run.shared.operations.length) :
    Seen run
      { run with
        shared := (run.shared.addOperation operation).refuse run.shared.operations.length error
        planner := .planning rest }
      ⟨.planner, surroundings⟩ id := by
  have apart : run.shared.operations.length ≠ id := Nat.ne_of_gt inside
  have idle : run.proposed id = none := by rw [Run.proposed, planning]; rfl
  refine .same ?_ (operationOf?_planner run _)
  simp only [view]
  congr 1
  · exact operation_addOperation _ inside
  · rw [idle]
    rfl
  · rw [Shared.refuse, Shared.conclude, Shared.history_note,
      if_neg (by simpa [Event.operation?] using apart)]
    rfl

/-- Every step of the planner is one of the four to an operation that is there. -/
lemma seen_of_advance (sound : run.Sound records) {surroundings : Surroundings}
    {shared : Shared} {stage : PlannerStage}
    (advances : run.shared.Advances run.plan run.workers surroundings run.planner shared stage)
    (inside : id < run.shared.operations.length) :
    Seen run { run with shared := shared, planner := stage } ⟨.planner, surroundings⟩ id := by
  have hands := (hands_eq run id).symm
  generalize planning : run.planner = before at advances
  cases advances with
  | unplannable resolved => exact seen_of_addRefused planning inside
  | planned resolved =>
      refine seen_of_add planning (fun task proposed => ?_) inside
      obtain rfl := Option.some.inj proposed
      rfl
  | @barred own entry rest reason bar =>
      obtain ⟨chore, item⟩ := sound.proposing own entry rest planning
      obtain ⟨-, task, same, known⟩ := sound.entry entry (by rw [planning]; rfl)
      rw [item] at same
      obtain rfl := Job.run.inj same
      have proposed : run.planner.proposed? = some ⟨own, chore⟩ := by
        rw [planning]
        simp only [PlannerStage.proposed?, item]
      have barred : surroundings.policy entry ≠ none := by
        rw [bar]
        exact Option.some_ne_none reason
      exact seen_of_refuse rfl proposed ⟨entry, by rw [asks?, planning], item, barred⟩ id known
  | passed => exact seen_of_wait (by rw [planning]; rfl) rfl hands rfl
  | @admitted entry rest queue accepted =>
      obtain ⟨-, task, item, -⟩ := sound.entry entry (by rw [planning]; rfl)
      rw [Queue.eq_push_of_insert accepted]
      exact seen_of_admit planning item id
  | @turnedAway entry rest error after refused ends =>
      have isOpen := sound.isOpen (by simp [planning])
      exact absurd refused (insert_of_isOpen isOpen entry error)
  | dismissed accepted =>
      rw [Queue.eq_push_of_insert accepted]
      refine seen_of_wait (by rw [planning]; rfl) rfl ?_ ?_
      · simp only [Shared.accept, Shared.note]
        rw [handsAmong_push, hands_eq]
        simp [Job.hand?, dismissal]
      · simp [Shared.history, Shared.accept, Shared.note, Event.operation?]
  | waned wanes =>
      obtain ⟨-, idle, -, late, -⟩ := wanes.late
      have before := PlannerStage.proposed?_of_entry? idle
      have after := PlannerStage.proposed?_of_entry? (PlannerStage.nothing_left _ late).2
      exact seen_of_wait (by rw [planning, before, after]) rfl hands rfl
  | joined all => exact seen_of_wait (by rw [planning]; rfl) rfl hands rfl

/-- Every step is one of the four to an operation that is there. -/
lemma seen_of_step (sound : run.Sound records) {move : Move} (step : run.step move = some next)
    (inside : id < run.shared.operations.length) : Seen run next move id := by
  obtain ⟨actor, surroundings⟩ := move
  cases actor with
  | planner =>
      obtain ⟨shared, stage, advances, rfl⟩ := step_planner step
      exact seen_of_advance sound advances inside
  | worker index =>
      cases works_of_step step with
      | turn working owns work => exact seen_of_turn sound working owns work id
      | take working taken => exact seen_of_take working taken id
      | leave working closed => exact absurd (sound.closed closed) (sound.early working nofun)

/-! ## Operations that are added -/

/-- What is there of an operation once its record has been planned. -/
lemma begins_of_planned (sound : run.Sound records) {operation : Operation} {record : Record}
    {chore : Chore} {rest : List Record}
    (resolved : run.plan.resolve record = .ok (operation, chore)) :
    Begins run.plan record run.shared.operations.length
      (Run.view
        { run with
          shared := run.shared.addOperation operation
          planner := .proposing run.shared.operations.length
            (operation.firstEntry run.shared.operations.length chore) rest }
        run.shared.operations.length) := by
  obtain ⟨hands, history⟩ := sound.known run.shared.operations.length le_rfl
  refine .proposed operation chore resolved ?_
  simp only [view]
  congr 1
  · exact operation_added ..
  · simp [Run.proposed, PlannerStage.proposed?, Operation.firstEntry, Operation.entry]

/-- What is there of an operation whose record could not be planned. -/
lemma begins_of_unplannable (sound : run.Sound records) {record : Record} {error : Failure}
    {rest : List Record} (resolved : run.plan.resolve record = .error error) :
    Begins run.plan record run.shared.operations.length
      (Run.view
        { run with
          shared := (run.shared.addOperation (run.plan.operationFor record)).refuse
            run.shared.operations.length error
          planner := .planning rest }
        run.shared.operations.length) := by
  obtain ⟨hands, history⟩ := sound.known run.shared.operations.length le_rfl
  refine .refused error run.shared.tally resolved ?_
  simp only [view]
  congr 1
  · exact operation_added ..
  · rw [Shared.refuse, Shared.conclude, Shared.history_note, operation_added]
    simp only [Event.operation?, if_true]
    exact congrArg (_ :: ·) history

/-- A step adds an operation only by planning a record. -/
lemma length_of_step (sound : run.Sound records) {move : Move}
    (step : run.step move = some next) :
    next.shared.operations.length = run.shared.operations.length ∨
      next.shared.operations.length = run.shared.operations.length + 1 ∧
        ∃ record, records[run.shared.operations.length]? = some record ∧
          Begins run.plan record run.shared.operations.length
            (next.view run.shared.operations.length) := by
  have listed {record : Record} {rest : List Record}
      (planning : run.planner = .planning (record :: rest)) :
      records[run.shared.operations.length]? = some record := by
    have all := sound.planned
    rw [planning] at all
    rw [← all, List.getElem?_append_right (by simp)]
    simp [PlannerStage.records]
  obtain ⟨actor, surroundings⟩ := move
  cases actor with
  | worker index =>
      refine .inl ?_
      cases works_of_step step with
      | turn working owns work =>
          obtain ⟨⟨operation, notes, queued, changed⟩, -⟩ :=
            Shared.stays_of_work (sound.own_lt working owns) owns work
          rw [changed.operations, List.length_set]
      | take => rfl
      | leave => rfl
  | planner =>
      obtain ⟨shared, stage, advances, rfl⟩ := step_planner step
      generalize planning : run.planner = before at advances
      cases advances with
      | @unplannable record rest error resolved =>
          refine .inr ⟨?_, record, listed planning, begins_of_unplannable sound resolved⟩
          simp [Shared.addOperation, Shared.refuse, Shared.conclude, Shared.note]
      | @planned record rest operation chore resolved =>
          refine .inr ⟨?_, record, listed planning, begins_of_planned sound resolved⟩
          simp [Shared.addOperation]
      | turnedAway refused ends =>
          rcases ends with rfl | ⟨task, rfl⟩ <;> exact .inl rfl
      | barred | passed | admitted | dismissed | waned | joined => exact .inl rfl

/-- A step leaves the plan and the number of workers. -/
lemma kept_of_step {move : Move} (step : run.step move = some next) :
    next.plan = run.plan ∧ next.workers.length = run.workers.length := by
  obtain ⟨actor, surroundings⟩ := move
  cases actor with
  | planner =>
      obtain ⟨shared, stage, moved, rfl⟩ := step_planner step
      exact ⟨rfl, rfl⟩
  | worker index =>
      obtain ⟨activity, shared, later, working, work, rfl⟩ := step_worker step
      exact ⟨rfl, List.length_set⟩

/-- Every state of a run is sound. -/
lemma sound_of_steps {plan : Plan} {capacity workers : Nat} {disk : Disk} {moves : List Move}
    {last : Run}
    (reached : (Run.start plan
      { queue := Queue.ofCapacity capacity, operations := [], disk := disk } workers
        records).steps moves = some last) :
    last.Sound records ∧ last.plan = plan ∧ last.workers.length = workers := by
  have kept (run : Run) (move : Move) (next : Run)
      (holds : run.Sound records ∧ run.plan = plan ∧ run.workers.length = workers)
      (_ : True) (step : run.step move = some next) :
      next.Sound records ∧ next.plan = plan ∧ next.workers.length = workers := by
    obtain ⟨sound, samePlan, sameLength⟩ := holds
    obtain ⟨stillPlan, stillLength⟩ := kept_of_step step
    exact ⟨sound.step step, stillPlan.trans samePlan, stillLength.trans sameLength⟩
  refine steps_induction kept ⟨Sound.start .., rfl, List.length_replicate⟩ ?_ reached
  exact fun _ _ _ _ _ _ => trivial

/-- What holds of the operation of a record once it has been planned, and is kept by each step of a
run as the operation sees it, holds in every state in which the operation is there. -/
theorem each_step {plan : Plan} {capacity workers : Nat} {disk : Disk} {moves : List Move}
    {last : Run} {condition : Run → Move → Prop} {holds : Run → Prop} {id : OperationId}
    {record : Record} (listed : records[id]? = some record)
    (begun : ∀ run, Begins plan record id (run.view id) → holds run)
    (kept : ∀ run move next, run.Sound records → id < run.shared.operations.length → holds run →
      condition run move → run.step move = some next → Seen run next move id → holds next)
    (reached : (Run.start plan
      { queue := Queue.ofCapacity capacity, operations := [], disk := disk } workers
        records).steps moves = some last)
    (throughout : (Run.start plan
      { queue := Queue.ofCapacity capacity, operations := [], disk := disk } workers
        records).Throughout condition moves)
    (inside : id < last.shared.operations.length) : holds last := by
  have always (run : Run) (move : Move) (next : Run)
      (before : run.Sound records ∧ run.plan = plan ∧
        (id < run.shared.operations.length → holds run))
      (allowed : condition run move) (step : run.step move = some next) :
      next.Sound records ∧ next.plan = plan ∧
        (id < next.shared.operations.length → holds next) := by
    obtain ⟨sound, samePlan, known⟩ := before
    refine ⟨sound.step step, (kept_of_step step).1.trans samePlan, fun there => ?_⟩
    by_cases old : id < run.shared.operations.length
    · exact kept run move next sound old (known old) allowed step (seen_of_step sound step old)
    · rcases length_of_step sound step with same | ⟨longer, other, planned, begins⟩
      · exact absurd (same ▸ there) old
      · rw [longer] at there
        obtain rfl := Nat.eq_of_lt_succ_of_not_lt there old
        obtain rfl := Option.some.inj (listed.symm.trans planned)
        exact begun next (samePlan ▸ begins)
  have start : (Run.start plan
      { queue := Queue.ofCapacity capacity, operations := [], disk := disk } workers
        records).Sound records := Sound.start ..
  exact (steps_induction always ⟨start, rfl, fun there => absurd there (Nat.not_lt_zero id)⟩
    throughout reached).2.2 inside

end Run
end BulkTransfer
