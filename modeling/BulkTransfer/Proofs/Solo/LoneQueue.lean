import BulkTransfer.Proofs.Drain.Effort
import BulkTransfer.Proofs.Drain.Roster
import BulkTransfer.Proofs.Planning
import BulkTransfer.Proofs.Run.TurnEvents
import BulkTransfer.Proofs.Run.OperationSteps
import BulkTransfer.Proofs.Solo.Leading
import BulkTransfer.Transfer.Batch

/-!
# The queue of a lone operation

In a run of one record by one worker every step of the planner or of the worker keeps the essence
of the run, or is the next step of it (`Run.Stands.step`): what is brought into the queue is taken
from it in the same order, whenever the planner moves and whatever the queue has room for. So all
such runs that have ended have the essence that the record leads to (`Run.goes_of_reaches`).
-/

namespace BulkTransfer

open Pool Multipart

namespace Pool

/-- A task of the lone operation in the queue. -/
def Job.lone (chore : Chore) : Job := .run ⟨0, chore⟩

section

variable {shared after : Shared} {surroundings : Surroundings} {answer : Answer}
  {worker later : Activity} {queued : List Chore} {hand : Option Activity}

@[simp]
lemma Shared.gist_accept (entry : Entry Job) (queue : Queue Job) :
    (shared.accept entry queue).gist = shared.gist := by
  rw [Shared.accept, Shared.gist_note]
  rfl

@[simp]
lemma Shared.operation_accept (entry : Entry Job) (queue : Queue Job) (id : OperationId) :
    (shared.accept entry queue).operation id = shared.operation id := rfl

/-- What a turn at the queue keeps: the essence, and the place of the lone operation. -/
def Shared.Keeps (shared after : Shared) (later : Activity) (hand : Option Activity) : Prop :=
  ∃ queued, after.queue.immediate = queued.map Job.lone ∧ after.gist = shared.gist ∧
    Stance (after.operation 0) queued later hand

variable {side : Side} {progress : Progress} {indexes : List Nat} {index : Nat}
  (inside : 0 < shared.operations.length) (isOpen : shared.queue.closed = false)

include isOpen in
lemma insertAnyway_of_isOpen (entry : Entry Job) :
    shared.queue.insertAnyway entry none =
      .accepted (shared.queue.push entry.priority entry.item) := by
  rw [Queue.insertAnyway, isOpen]
  rfl

/-- With other progress of the same gist, the parts of an operation are the same and in the same
place. -/
lemma Operation.Flows.kept {operation : Operation} {other : Progress}
    (flows : operation.Flows progress side) (same : other.gist = progress.gist) :
    (operation.withProgress other side).Flows other side ∧
      (operation.withProgress other side).moving side = operation.moving side ∧
      (operation.withProgress other side).following side = operation.following side := by
  refine ⟨flows.withProgress, Operation.moving_withProgress, ?_⟩
  rw [← Operation.following_gist, Operation.gist_withProgress flows same,
    Operation.following_gist]

section

variable (flows : (shared.operation 0).Flows progress side)
  (lane : shared.queue.immediate =
    (indexes.map ((shared.operation 0).moving side)).map Job.lone)
include flows lane

include inside in
lemma keeps_of_feeding (orderly : progress.Orderly 0 indexes [])
    (work : shared.work surroundings (.feeding 0 side) = some (after, later)) :
    shared.Keeps after later (some (.starting 0 ((shared.operation 0).following side))) := by
  have fed := Option.some.inj work
  rw [Shared.feed_of_flows flows] at fed
  split at fed
  · next index other handed =>
      obtain ⟨rfl, rfl⟩ := Prod.mk.inj fed
      obtain ⟨orderly, same⟩ := orderly.handOut handed
      obtain ⟨flowing, moving, following⟩ := flows.kept same
      refine ⟨_, lane, Shared.gist_setProgress flows same, ?_⟩
      rw [Shared.operation_setProgress inside, ← moving, ← following]
      exact .holding flowing orderly (.inl rfl)
  · next empty =>
      obtain ⟨rfl, rfl⟩ := Prod.mk.inj fed
      exact ⟨_, lane, rfl, .resting flows orderly (orderly.queued_ne_nil empty)⟩

include inside in
lemma keeps_of_deferring (orderly : progress.Orderly 0 indexes [index])
    (work : shared.work surroundings (.deferring 0 side index) = some (after, later)) :
    shared.Keeps after later (some (.starting 0 ((shared.operation 0).following side))) := by
  have deferred := Option.some.inj work
  rw [Shared.defer_of_flows flows] at deferred
  split at deferred
  · next other back =>
      obtain ⟨rfl, rfl⟩ := Prod.mk.inj deferred
      obtain ⟨orderly, waiting, same⟩ := orderly.putBack back
      obtain ⟨flowing, moving, following⟩ := flows.kept same
      refine ⟨_, lane, Shared.gist_setProgress flows same, ?_⟩
      rw [Shared.operation_setProgress inside, ← moving, ← following]
      exact .resting flowing orderly waiting
  · obtain ⟨rfl, rfl⟩ := Prod.mk.inj deferred
    exact ⟨_, lane, rfl, .holding flows orderly (.inr (.inr rfl))⟩

omit flows in
lemma lane_of_push (index : Nat) :
    (shared.queue.push .immediate
        (Job.lone ((shared.operation 0).moving side index))).immediate =
      ((indexes ++ [index]).map ((shared.operation 0).moving side)).map Job.lone := by
  simp [Queue.push, lane]

include isOpen in
lemma keeps_of_offering (orderly : progress.Orderly 0 indexes [index])
    (work : shared.work ⟨admittingAll [], answer⟩ (.offering 0 side index) =
      some (after, later)) :
    shared.Keeps after later (some (.starting 0 ((shared.operation 0).following side))) := by
  have offered := Option.some.inj work
  simp only [Shared.offer, Queue.insert, admittingAll, insertAnyway_of_isOpen isOpen] at offered
  by_cases isFull : shared.queue.isFull = true
  · rw [if_pos isFull] at offered
    obtain ⟨rfl, rfl⟩ := Prod.mk.inj offered
    exact ⟨_, lane, rfl, .holding flows orderly (.inr (.inl rfl))⟩
  · rw [if_neg isFull] at offered
    obtain ⟨rfl, rfl⟩ := Prod.mk.inj offered
    exact ⟨_, lane_of_push lane index, Shared.gist_accept .., .feeding flows orderly.enqueue⟩

include isOpen in
lemma keeps_of_forcing (orderly : progress.Orderly 0 indexes [index])
    (work : shared.work ⟨admittingAll [], answer⟩ (.forcing 0 side index) =
      some (after, later)) :
    shared.Keeps after later (some (.starting 0 ((shared.operation 0).following side))) := by
  have forced := Option.some.inj work
  simp only [Shared.force, admittingAll, insertAnyway_of_isOpen isOpen] at forced
  obtain ⟨rfl, rfl⟩ := Prod.mk.inj forced
  exact ⟨_, lane_of_push lane index, Shared.gist_accept ..,
    .resting flows orderly.enqueue (by simp)⟩

end

include isOpen in
lemma keeps_of_following {followUp : FollowUp}
    (skips : ∀ chore ∈ queued, (shared.operation 0).Skips chore)
    (lane : shared.queue.immediate = queued.map Job.lone)
    (work : shared.work ⟨admittingAll [], answer⟩ (.following 0 followUp) =
      some (after, later)) :
    shared.Keeps after later (some (.starting 0 followUp.chore)) := by
  have followed := Option.some.inj work
  simp only [Shared.follow, admittingAll, insertAnyway_of_isOpen isOpen] at followed
  obtain ⟨rfl, rfl⟩ := Prod.mk.inj followed
  refine ⟨queued ++ [followUp.chore], ?_, Shared.gist_accept .., .draining skips⟩
  simp only [Shared.accept, Shared.note, Operation.followUpEntry, Operation.entry, Queue.push, lane]
  simp [Job.lone]

lemma keeps_of_skipping {followUp : FollowUp} {chore : Chore}
    (skip : (shared.operation 0).Skips chore)
    (skips : ∀ chore ∈ queued, (shared.operation 0).Skips chore)
    (lane : shared.queue.immediate = (queued ++ [followUp.chore]).map Job.lone)
    (work : shared.work surroundings (.starting 0 chore) = some (after, later)) :
    shared.Keeps after later (some (.starting 0 followUp.chore)) := by
  have started := Option.some.inj work
  rw [skip shared 0 rfl] at started
  obtain ⟨rfl, rfl⟩ := Prod.mk.inj started
  exact ⟨_, lane, rfl, .draining skips⟩

include inside in
/-- The part that the worker has taken is entered. -/
lemma leads_of_entering (flows : (shared.operation 0).Flows progress side)
    (orderly : progress.Orderly 0 (index :: indexes) [])
    (work : shared.work surroundings (.starting 0 ((shared.operation 0).moving side index)) =
      some (after, later)) :
    after.LeadsTo (indexes.map ((shared.operation 0).moving side)) later := by
  obtain ⟨enters, orderly⟩ := orderly.enter
  obtain ⟨next, started, moves, -⟩ := Shared.start_of_flows flows enters index
  obtain ⟨rfl, rfl⟩ := Prod.mk.inj (started.symm.trans (Option.some.inj work))
  have flowing := @Operation.Flows.withProgress _ _
    { progress with running := progress.running + 1 } _ flows
  rw [Shared.LeadsTo, next.onward_of_isEffective _ (Activity.isEffective_of_moves? moves),
    Shared.operation_setProgress inside, ← Operation.moving_withProgress]
  exact .moving moves flowing orderly

include inside isOpen in
/-- A turn of the worker keeps the essence, or is the next step of it. -/
lemma Stance.turn (stance : Stance (shared.operation 0) queued worker hand)
    (lane : shared.queue.immediate = queued.map Job.lone) (own : worker.operation? = some 0)
    (work : shared.work ⟨admittingAll [], answer⟩ worker = some (after, later)) :
    worker.call? = none ∧ shared.Keeps after later hand ∨
      worker.isEffective = true ∧ hand = some worker.gist ∧
        ∃ queued, after.queue.immediate = queued.map Job.lone ∧ after.LeadsTo queued later := by
  -- At the operation the queue is left alone, and at the queue the gist of the operation is.
  cases stance with
  | alone effective lead opens =>
      refine .inr ⟨effective, rfl, [], ?_, leads_of_alone inside own effective lead opens work⟩
      rw [queue_of_effective own effective work, lane]
  | moving moves flows orderly =>
      have effective := Activity.isEffective_of_moves? moves
      refine .inr ⟨effective, rfl, _, ?_, leads_of_moving inside own moves flows orderly work⟩
      rw [queue_of_effective own effective work, lane]
  | entering flows orderly =>
      have first : (shared.operation 0).following _ = _ := flows.following
      refine .inr ⟨rfl, ?_, _, ?_, leads_of_entering inside flows orderly work⟩
      · rw [first, ← orderly.head]
        rfl
      · rw [queue_of_effective own rfl work, lane]
  | feeding flows orderly => exact .inl ⟨rfl, keeps_of_feeding inside flows lane orderly work⟩
  | holding flows orderly holds =>
      refine .inl ?_
      rcases holds with rfl | rfl | rfl
      · exact ⟨rfl, keeps_of_offering isOpen flows lane orderly work⟩
      · exact ⟨rfl, keeps_of_deferring inside flows lane orderly work⟩
      · exact ⟨rfl, keeps_of_forcing isOpen flows lane orderly work⟩
  | leaving skips => exact .inl ⟨rfl, keeps_of_following isOpen skips lane work⟩
  | skipping skip skips => exact .inl ⟨rfl, keeps_of_skipping skip skips lane work⟩
  | resting | draining => cases own
  | ended left => rcases left with rfl | rfl <;> cases own

/-- The worker takes the first of the tasks in the queue. -/
lemma Stance.take {operation : Operation} {chore : Chore}
    (stance : Stance operation (chore :: queued) .idle hand) :
    Stance operation queued (.starting 0 chore) hand := by
  generalize tasks : chore :: queued = lane at stance
  cases stance with
  | alone effective => cases effective
  | moving moves => cases moves
  | holding flows orderly holds => rcases holds with holds | holds | holds <;> cases holds
  | ended left => cases tasks
  | @resting side progress indexes flows orderly waiting =>
      cases indexes with
      | nil => cases tasks
      | cons index indexes =>
          obtain ⟨rfl, rfl⟩ := List.cons.inj tasks
          exact .entering flows orderly
  | @draining followUp skipped skips =>
      cases skipped with
      | nil =>
          obtain ⟨rfl, rfl⟩ := List.cons.inj tasks
          refine .alone rfl ?_ fun side opened => ?_
          · cases followUp <;> rfl
          · cases followUp <;> cases opened
      | cons skip skipped =>
          obtain ⟨rfl, rfl⟩ := List.cons.inj tasks
          obtain ⟨first, rest⟩ := List.forall_mem_cons.1 skips
          exact .skipping first rest

/-- A worker that has nothing to take rests for good. -/
lemma Stance.none_of_idle {operation : Operation} (stance : Stance operation [] .idle hand) :
    hand = none := by
  generalize tasks : ([] : List Chore) = lane at stance
  cases stance with
  | alone effective => cases effective
  | moving moves => cases moves
  | holding flows orderly holds => rcases holds with holds | holds | holds <;> cases holds
  | ended left => rfl
  | resting flows orderly waiting => exact absurd (List.map_eq_nil_iff.1 tasks.symm) waiting
  | draining skips => simp at tasks

end
end Pool

/-- How a run of one record by one worker stands against its essence: the record has yet to be
planned, or its first task has yet to come into the queue or to be taken, or the operation has its
stance. -/
inductive Run.Stands {σ : Type} (record : Record) (stores : List (StoreName × σ)) (run : Run) :
    Solo σ → Prop where
  | unplanned {capacity : Nat} {disk : Disk} (workers : run.workers = [.idle])
      (planning : run.planner = .planning [record])
      (new : run.shared =
        { queue := Queue.ofCapacity capacity, operations := [], disk := disk }) :
      Stands record stores run (.begin run.plan disk record stores)
  | proposed {operation : Operation} {chore : Chore} {entry : Entry Job}
      (workers : run.workers = [.idle]) (proposes : run.planner.entry? = some entry)
      (task : entry.item = .lone chore) (first : entry.priority = .normal)
      (only : run.shared.operations = [operation]) (immediate : run.shared.queue.immediate = [])
      (normal : run.shared.queue.normal = [])
      (stance : Stance operation [] (.starting 0 chore) (some (.starting 0 chore))) :
      Stands record stores run ⟨run.shared.gist, some (.starting 0 chore), stores⟩
  | queued {operation : Operation} {chore : Chore}
      (workers : run.workers = [.idle]) (admitted : run.planner.entry? = none)
      (only : run.shared.operations = [operation]) (immediate : run.shared.queue.immediate = [])
      (normal : run.shared.queue.normal = [.lone chore])
      (stance : Stance operation [] (.starting 0 chore) (some (.starting 0 chore))) :
      Stands record stores run ⟨run.shared.gist, some (.starting 0 chore), stores⟩
  | placed {worker : Activity} {hand : Option Activity} {queued : List Chore}
      (workers : run.workers = [worker]) (admitted : run.planner.entry? = none)
      (only : run.shared.operations.length = 1)
      (lane : run.shared.queue.immediate = queued.map Job.lone)
      (normal : run.shared.queue.normal = [])
      (stance : Stance (run.shared.operation 0) queued worker hand) :
      Stands record stores run ⟨run.shared.gist, hand, stores⟩

namespace Run

section

variable {σ : Type} {service : Service σ} {run next : Run} {world after : World σ}

lemma stepIn_eq (service : Service σ) (admission : Admission) (run : Run) (world : World σ)
    (actor : Actor) :
    stepIn service admission run world actor =
      (run.step ⟨actor, admission world.admitted,
          (answerTo service world.stores (run.awaits? actor)).1⟩).map fun next =>
        (next, ⟨(answerTo service world.stores (run.awaits? actor)).2,
          match run.asks? actor with
          | some entry => admittedWith admission world.admitted entry
          | none => world.admitted⟩) := by
  unfold stepIn
  cases run.awaits? actor <;> rfl

lemma stepIn_planner
    (step : stepIn service admittingAll run world .planner = some (next, after)) :
    after.stores = world.stores ∧ ∃ shared stage surroundings,
      (∀ entry, surroundings.policy entry = none) ∧
      run.shared.Advances run.plan run.workers surroundings run.planner shared stage ∧
        next = { run with shared := shared, planner := stage } := by
  rw [stepIn_eq] at step
  obtain ⟨last, moved, same⟩ := Option.map_eq_some_iff.1 step
  obtain ⟨rfl, rfl⟩ := Prod.mk.inj same
  obtain ⟨shared, stage, advances, rfl⟩ := step_planner moved
  exact ⟨rfl, shared, stage, _, fun _ => rfl, advances, rfl⟩

lemma stepIn_worker {worker : Activity} {index : Nat} (workers : run.workers = [worker])
    (step : stepIn service admittingAll run world (.worker index) = some (next, after)) :
    after.stores = (answerTo service world.stores worker.call?).2 ∧ ∃ shared later,
      run.shared.work ⟨admittingAll [], (answerTo service world.stores worker.call?).1⟩ worker =
          some (shared, later) ∧
        next = { run with shared := shared, workers := [later] } := by
  rw [stepIn_eq] at step
  obtain ⟨last, moved, same⟩ := Option.map_eq_some_iff.1 step
  obtain ⟨activity, shared, later, working, work, rfl⟩ := step_worker moved
  obtain ⟨rfl, rfl⟩ : index = 0 ∧ worker = activity := by
    rw [workers] at working
    cases index with
    | zero => exact ⟨rfl, Option.some.inj working⟩
    | succ index => cases working
  have asked : run.awaits? (.worker 0) = worker.call? := by
    rw [awaits?, working]
    cases worker <;> rfl
  rw [asked] at work same
  obtain ⟨rfl, rfl⟩ := Prod.mk.inj same
  exact ⟨rfl, shared, later, work, by rw [workers]; rfl⟩

end

/-- The first task of a record goes on alone. -/
lemma stance_of_resolve {plan : Plan} {record : Record} {operation : Operation} {chore : Chore}
    (valid : plan.Valid) (resolved : plan.resolve record = .ok (operation, chore)) :
    Stance operation [] (.starting 0 chore) (some (.starting 0 chore)) := by
  cases planned_of_resolve resolved with
  | @whole action isAction small =>
      refine .alone rfl ?_ fun side opened => ?_
      · cases action <;> rfl
      · cases action <;> cases opened
  | upload remote split sized =>
      obtain ⟨-, -, several⟩ := Limits.of_split valid.limits sized split
      refine .alone rfl rfl fun side opened => ?_
      obtain rfl := Option.some.inj opened
      exact ⟨_, several, rfl⟩
  | download source destination split sized =>
      obtain ⟨-, -, several⟩ := Limits.of_split valid.limits sized split
      refine .alone rfl rfl fun side opened => ?_
      obtain rfl := Option.some.inj opened
      exact ⟨_, several, rfl⟩

section

variable {σ : Type} {service : Service σ} {run next : Run} {world after : World σ}
  {record : Record} {solo : Solo σ}

lemma records_of_only (sound : run.Sound [record]) (only : run.shared.operations.length = 1) :
    run.planner.records = [] := by
  have length := congrArg List.length sound.planned
  simp [only] at length
  exact length

/-- What a step of the planner does once everything is planned and admitted. -/
lemma waits_of_advances {shared : Shared} {stage : PlannerStage} {surroundings : Surroundings}
    (admitted : run.planner.entry? = none) (planned : run.planner.records = [])
    (advances : run.shared.Advances run.plan run.workers surroundings run.planner shared stage) :
    stage.entry? = none ∧ shared.gist = run.shared.gist ∧
      shared.operations = run.shared.operations ∧
        shared.queue.immediate = run.shared.queue.immediate ∧
          shared.queue.normal = run.shared.queue.normal := by
  generalize planning : run.planner = before at advances
  rw [planning] at admitted planned
  cases advances with
  | unplannable resolved => cases planned
  | planned resolved => cases planned
  | barred bar => cases admitted
  | passed => cases admitted
  | admitted accepted => cases admitted
  | turnedAway refused ends => cases admitted
  | dismissed accepted =>
      rw [Queue.eq_push_of_insert accepted]
      exact ⟨rfl, Shared.gist_accept .., rfl, rfl, rfl⟩
  | waned wanes =>
      obtain ⟨-, -, -, late, -⟩ := wanes.late
      exact ⟨(PlannerStage.nothing_left stage late).2, rfl, rfl, rfl, rfl⟩
  | joined all => exact ⟨rfl, rfl, rfl, rfl, rfl⟩

/-- Planning the record is what the essence begins with. -/
lemma stands_of_planning {capacity : Nat} {disk : Disk} {shared : Shared} {stage : PlannerStage}
    {surroundings : Surroundings} (valid : run.plan.Valid) (workers : run.workers = [.idle])
    (planning : run.planner = .planning [record])
    (new : run.shared = { queue := Queue.ofCapacity capacity, operations := [], disk := disk })
    (advances : run.shared.Advances run.plan run.workers surroundings run.planner shared stage) :
    Stands record world.stores { run with shared := shared, planner := stage }
      (.begin run.plan disk record world.stores) := by
  rw [planning] at advances
  cases advances with
  | unplannable resolved =>
      rw [Solo.begin, resolved, new]
      exact .placed workers rfl rfl rfl rfl (.ended (.inl rfl))
  | planned resolved =>
      have stance := stance_of_resolve valid resolved
      rw [Solo.begin, resolved, new]
      exact .proposed workers rfl rfl rfl rfl rfl rfl stance
  | waned wanes => cases wanes

/-- A step of the planner does not touch the essence. -/
lemma Stands.advance (stands : run.Stands record world.stores solo)
    (sound : run.Sound [record]) (valid : run.plan.Valid)
    (step : stepIn service admittingAll run world .planner = some (next, after)) :
    next.Stands record after.stores solo := by
  obtain ⟨stores, shared, stage, surroundings, admits, advances, rfl⟩ := stepIn_planner step
  rw [stores]
  cases stands with
  | unplanned workers planning new => exact stands_of_planning valid workers planning new advances
  | @proposed operation chore entry workers proposes task first only immediate normal stance =>
      generalize planning : run.planner = before at advances
      rw [planning] at proposes
      cases advances with
      | unplannable resolved => cases proposes
      | planned resolved => cases proposes
      | barred bar =>
          rw [admits] at bar
          cases bar
      | passed => exact .proposed workers proposes task first only immediate normal stance
      | admitted accepted =>
          obtain rfl := Option.some.inj proposes
          rw [Queue.eq_push_of_insert accepted, first, task, ← Shared.gist_accept]
          refine .queued workers rfl only immediate ?_ stance
          exact congrArg (· ++ [Job.lone chore]) normal
      | turnedAway refused ends =>
          have isOpen := sound.isOpen (by simp [planning])
          exact absurd refused (insert_of_isOpen isOpen _ _)
      | dismissed accepted => cases proposes
      | waned wanes =>
          rw [wanes.late.2.1] at proposes
          cases proposes
      | joined all => cases proposes
  | queued workers admitted only immediate normal stance =>
      obtain ⟨stillAdmitted, gist, operations, sameImmediate, sameNormal⟩ :=
        waits_of_advances admitted (records_of_only sound (by rw [only]; rfl)) advances
      rw [← gist]
      exact .queued workers stillAdmitted (operations.trans only)
        (sameImmediate.trans immediate) (sameNormal.trans normal) stance
  | placed workers admitted only lane normal stance =>
      obtain ⟨stillAdmitted, gist, operations, sameImmediate, sameNormal⟩ :=
        waits_of_advances admitted (records_of_only sound only) advances
      rw [← gist]
      refine .placed workers stillAdmitted (by rw [operations]; exact only)
        (sameImmediate.trans lane) (sameNormal.trans normal) ?_
      rw [Shared.operation, operations]
      exact stance

lemma gist_take (shared : Shared) (rest : Queue Job) (job : Job) :
    ({ shared with queue := rest }.note (.taken job)).gist = shared.gist := by
  rw [Shared.gist_note]
  rfl

/-- What an idle worker does. -/
lemma stands_of_idle {shared : Shared} {later : Activity} {surroundings : Surroundings}
    (sound : run.Sound [record]) (stands : run.Stands record world.stores solo)
    (workers : run.workers = [.idle])
    (work : run.shared.work surroundings .idle = some (shared, later)) :
    Stands record world.stores { run with shared := shared, workers := [later] } solo := by
  have turn := Shared.of_work_idle work
  cases stands with
  | unplanned same planning new =>
      rw [new] at turn
      obtain ⟨job, rest, taken, -⟩ | ⟨-, closed, -⟩ := turn
      · cases taken
      · cases closed
  | proposed same proposes task first only immediate normal stance =>
      have early : run.planner.isLate = false := by
        refine Bool.eq_false_iff.2 fun late => ?_
        rw [(PlannerStage.nothing_left _ late).2] at proposes
        cases proposes
      have shutdown : run.shared.queue.shutdown = [] := by
        by_contra sentinels
        exact sound.undismissed early (.inr sentinels)
      have unended : run.planner ≠ .ended := by
        intro ended
        rw [ended] at early
        cases early
      have nothing : run.shared.queue.items = [] := by
        rw [Queue.items, immediate, normal, shutdown]
        rfl
      obtain ⟨job, rest, taken, -⟩ | ⟨-, closed, -⟩ := turn
      · cases (Queue.take?_eq_none_iff.2 nothing).symm.trans taken
      · cases (sound.isOpen unended).symm.trans closed
  | @queued operation chore same admitted only immediate normal stance =>
      have own : run.shared.operation 0 = operation := by rw [Shared.operation, only]; rfl
      rw [← own] at stance
      obtain ⟨job, rest, taken, rfl, rfl⟩ | ⟨nothing, -⟩ := turn
      · obtain ⟨first, -⟩ | ⟨-, lane, first | ⟨-, -, empty⟩⟩ := Queue.lane_of_take? taken
        · cases immediate.symm.trans first
        · obtain ⟨rfl, others⟩ := List.cons.inj (normal.symm.trans first)
          rw [← gist_take run.shared]
          have lane : rest.immediate = List.map Job.lone [] := lane
          exact .placed rfl admitted (by rw [only]; rfl) lane others.symm stance
        · cases normal.symm.trans empty
      · have empty := Queue.take?_eq_none_iff.1 nothing
        rw [Queue.items, immediate, normal] at empty
        cases empty
  | @placed worker hand queued same admitted only lane normal stance =>
      obtain rfl := List.singleton_inj.1 (workers.symm.trans same)
      cases queued with
      | cons chore queued =>
          obtain ⟨job, rest, taken, rfl, rfl⟩ | ⟨nothing, -⟩ := turn
          · obtain ⟨first, same⟩ | ⟨empty, -⟩ := Queue.lane_of_take? taken
            · obtain ⟨rfl, others⟩ := List.cons.inj (lane.symm.trans first)
              rw [← gist_take run.shared]
              exact .placed rfl admitted only others.symm (same.trans normal) stance.take
            · cases lane.symm.trans empty
          · have empty := Queue.take?_eq_none_iff.1 nothing
            rw [Queue.items, lane] at empty
            cases empty
      | nil =>
          obtain rfl := stance.none_of_idle
          obtain ⟨job, rest, taken, rfl, rfl⟩ | ⟨-, -, rfl, rfl⟩ := turn
          · obtain ⟨first, -⟩ | ⟨-, left, first | ⟨same, first, -⟩⟩ := Queue.lane_of_take? taken
            · cases lane.symm.trans first
            · cases normal.symm.trans first
            · obtain rfl := sound.dismissals job (first ▸ List.mem_cons_self)
              rw [← gist_take run.shared]
              have left : rest.immediate = List.map Job.lone [] := left
              exact .placed rfl admitted only left (same.trans normal) (.ended (.inr rfl))
          · exact .placed rfl admitted only lane normal (.ended (.inr rfl))

/-- A step of the worker keeps the essence, or is the next step of it. -/
lemma Stands.work {index : Nat} (stands : run.Stands record world.stores solo)
    (sound : run.Sound [record])
    (step : stepIn service admittingAll run world (.worker index) = some (next, after)) :
    ∃ later, (later = solo ∨ solo.next? service = some later) ∧
      next.Stands record after.stores later := by
  obtain ⟨worker, workers⟩ : ∃ worker, run.workers = [worker] := by
    cases stands with
    | unplanned workers | proposed workers | queued workers | placed workers => exact ⟨_, workers⟩
  obtain ⟨stores, shared, later, work, rfl⟩ := stepIn_worker workers step
  cases owner : worker.operation? with
  | none =>
      cases worker
      case dismissed => cases work
      case idle =>
        refine ⟨solo, .inl rfl, ?_⟩
        rw [stores]
        exact stands_of_idle sound stands workers work
      all_goals cases owner
  | some own =>
      have busy : worker ≠ .idle := by
        rintro rfl
        cases owner
      cases stands with
      | unplanned idle | proposed idle | queued idle =>
          rw [workers] at idle
          exact absurd (List.singleton_inj.1 idle) busy
      | @placed placed hand queued same admitted only lane normal stance =>
          obtain rfl := List.singleton_inj.1 (workers.symm.trans same)
          have working : run.workers[0]? = some worker := by rw [workers]; rfl
          have inside := sound.own_lt working owner
          obtain rfl : own = 0 := Nat.lt_one_iff.1 (only ▸ inside)
          have isOpen := sound.isOpen (sound.early working (Activity.ne_dismissed owner))
          obtain ⟨⟨operation, notes, pushed, changed⟩, -⟩ := Shared.stays_of_work inside owner work
          have sameNormal := changed.lanes.1.trans normal
          have length : shared.operations.length = 1 := by
            rw [changed.operations, List.length_set, only]
          -- What was done next in the essence was this very turn, unless it was at the queue.
          rcases stance.turn inside isOpen lane owner work with
            ⟨uncalled, queued, lane, gist, stance⟩ | ⟨effective, rfl, queued, lane, leads⟩
          · refine ⟨_, .inl rfl, ?_⟩
            rw [stores, uncalled, ← gist]
            exact .placed rfl admitted length lane sameNormal stance
          · refine ⟨_, .inr (Solo.next?_of_work effective work), ?_⟩
            rw [stores]
            exact .placed rfl admitted length lane sameNormal leads

/-- Every step of a run of one record by one worker keeps the essence, or is the next step of it. -/
theorem Stands.step {actor : Actor} (stands : run.Stands record world.stores solo)
    (sound : run.Sound [record]) (valid : run.plan.Valid)
    (step : stepIn service admittingAll run world actor = some (next, after)) :
    ∃ later, (later = solo ∨ solo.next? service = some later) ∧
      next.Stands record after.stores later := by
  cases actor with
  | planner => exact ⟨solo, .inl rfl, stands.advance sound valid step⟩
  | worker index => exact stands.work sound step

/-- When the run has ended, so has its essence. -/
lemma Stands.of_ended (stands : run.Stands record world.stores solo)
    (sound : run.Sound [record]) (ended : run.hasEnded = true) :
    solo.hand = none ∧ solo.shared = run.shared.gist := by
  have concluded : run.planner = .ended := of_decide_eq_true ended
  have dismissed := sound.ended concluded
  cases stands with
  | unplanned workers planning new =>
      rw [concluded] at planning
      cases planning
  | proposed workers | queued workers =>
      rw [workers] at dismissed
      cases dismissed _ (List.mem_singleton_self _)
  | @placed worker hand queued workers admitted only lane normal stance =>
      rw [workers] at dismissed
      obtain rfl := dismissed _ (List.mem_singleton_self _)
      refine ⟨?_, rfl⟩
      cases stance with
      | alone effective => cases effective
      | moving moves => cases moves
      | holding flows orderly holds => rcases holds with holds | holds | holds <;> cases holds
      | ended left => rfl

end

end Run

namespace Pool

variable {σ : Type} (service : Service σ) (admission : Admission)

/-- Whether some actor can take a step from one state of a run and its world to another. -/
def Passes (before after : Run × World σ) : Prop :=
  ∃ actor, stepIn service admission before.1 before.2 actor = some after

/-- Whether the actors can take a run and its world from one state to another, in any order. -/
def Reaches : Run × World σ → Run × World σ → Prop :=
  Relation.ReflTransGen (Passes service admission)

/-- What the schedule carries out is reached. -/
lemma reaches_carry (run : Run) (world : World σ) (fuel : Nat) :
    Reaches service admission (run, world) (carry service admission run world fuel) := by
  induction fuel generalizing run world with
  | zero => exact .refl
  | succ fuel ih =>
      rw [carry]
      split
      · next next after found =>
          obtain ⟨actor, -, step⟩ := List.exists_of_findSome?_eq_some found
          exact .head ⟨actor, step⟩ (ih next after)
      · exact .refl

end Pool

/-- Whether a batch that admits all tasks comes to an end in the given state, in whichever order its
actors move. -/
def Batch.EndsIn {σ : Type} (batch : Batch) (service : Service σ) (disk : Disk)
    (records : List Record) (stores : List (StoreName × σ)) (ran : Run × World σ) : Prop :=
  Reaches service admittingAll (batch.start disk records, ⟨stores, []⟩) ran ∧
    ran.1.hasEnded = true

/-- What has begun can be carried on to its end, whatever the stores answer. -/
lemma Run.exists_ended {σ : Type} (service : Service σ) {records : List Record} {run : Run}
    (world : World σ) (sound : run.Sound records) (roster : run.Roster)
    (workers : 0 < run.workers.length) :
    ∃ ran, Reaches service admittingAll (run, world) ran ∧ ran.1.hasEnded = true := by
  -- What is left goes down with every step, in the lexicographic order of turns and pieces.
  generalize left : toLex (run.effort, run.pieces) = measure
  induction measure using WellFoundedLT.induction generalizing run world with
  | ind measure ih =>
      subst left
      cases unended : run.hasEnded with
      | true => exact ⟨_, .refl, unended⟩
      | false =>
          obtain ⟨actor, moves⟩ := roster.goes_on sound workers unended
          obtain ⟨next, step⟩ := Option.isSome_iff_exists.1 (moves
            ⟨admittingAll world.admitted, (answerTo service world.stores (run.awaits? actor)).1⟩)
          have falls : toLex (next.effort, next.pieces) < toLex (run.effort, run.pieces) :=
            Prod.Lex.toLex_lt_toLex.2 (effort_of_step sound step)
          have passes := stepIn_eq service admittingAll run world actor
          rw [step] at passes
          obtain ⟨ran, reaches, ended⟩ := ih _ falls _ (sound.step step)
            (roster.step sound (fun _ => rfl) step) ((kept_of_step step).2 ▸ workers) rfl
          exact ⟨ran, .head ⟨actor, passes⟩ reaches, ended⟩

/-- Every batch that has a worker comes to an end. -/
lemma Batch.exists_endsIn {σ : Type} (service : Service σ) (batch : Batch)
    (workers : 0 < batch.config.maxConcurrentRequests) (disk : Disk) (records : List Record)
    (stores : List (StoreName × σ)) : ∃ ran, batch.EndsIn service disk records stores ran := by
  refine Run.exists_ended service ⟨stores, []⟩ (Run.Sound.start ..) (Run.Roster.start ..) ?_
  simpa [Batch.start, Run.start] using workers

/-- Every run of one record by one worker follows the essence of the record. -/
theorem Run.goes_of_reaches {σ : Type} {service : Service σ} {batch : Batch} {disk : Disk}
    {record : Record} {stores : List (StoreName × σ)} {reached : Run × World σ}
    (valid : batch.plan.Valid) (single : batch.config.maxConcurrentRequests = 1)
    (reaches : Reaches service admittingAll (batch.start disk [record], ⟨stores, []⟩) reached) :
    reached.1.Sound [record] ∧ ∃ solo,
      (Solo.begin batch.plan disk record stores).Goes service solo ∧
        reached.1.Stands record reached.2.stores solo := by
  -- The plan is part of the invariant: `Stands.step` needs one that can be carried out.
  suffices kept : reached.1.Sound [record] ∧ reached.1.plan = batch.plan ∧ ∃ solo,
      (Solo.begin batch.plan disk record stores).Goes service solo ∧
        reached.1.Stands record reached.2.stores solo from ⟨kept.1, kept.2.2⟩
  induction reaches with
  | refl =>
      refine ⟨Sound.start .., rfl, _, .refl, .unplanned ?_ rfl rfl⟩
      rw [Batch.start, Run.start, single]
      rfl
  | @tail before after reaches passes ih =>
      obtain ⟨sound, plan, solo, goes, stands⟩ := ih
      obtain ⟨actor, step⟩ := passes
      obtain ⟨later, leads, stands⟩ := stands.step sound (plan ▸ valid) step
      rw [stepIn_eq] at step
      obtain ⟨next, moved, rfl⟩ := Option.map_eq_some_iff.1 step
      refine ⟨sound.step moved, (kept_of_step moved).1.trans plan, later, ?_, stands⟩
      rcases leads with rfl | next
      · exact goes
      · exact goes.tail next

end BulkTransfer
