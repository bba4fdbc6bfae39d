import BulkTransfer.Proofs.Drain.Unissued
import BulkTransfer.Proofs.Run.TurnEvents
import BulkTransfer.Proofs.Run.OperationSteps
import Mathlib.Algebra.GroupWithZero.Nat
import Mathlib.Data.Prod.Lex

/-!
# What is left to be done

Every state of a run has only so much left to be done, and every step does some of it. What is left
is counted in turns (`Run.effort`): of the workers, of the jobs in the queue, of the parts that are
not handed out, and of the records that are not planned. The only turns that do not lower this
number write a piece of a body, and there are only so many pieces (`Run.pieces`). So a run comes to
an end, whoever moves (`Run.stuck_of_endless`).
-/

namespace BulkTransfer

open Pool Multipart

namespace Pool

/-! ## The turns of a worker -/

/-- How many turns a task can take, with those of the tasks that it brings into the queue. -/
def Chore.effort : Chore → Nat
  | .delete | .removeBucket => 5
  | .abortUpload | .createLocalFile => 6
  | .createUpload => 8
  | .completeDownload => 9
  | .singleUpload | .copy => 10
  | .completeUpload => 12
  | .download => 13
  | .uploadPart _ | .copyPart _ | .downloadPart _ => 20

/-- How many turns are left when a call is awaited. -/
def Errand.effort : Errand → Nat
  | .delete | .removeBucket => 3
  | .abort _ => 4
  | .create => 6
  | .put | .copy => 8
  | .complete => 10
  | .fetch => 11
  | .part _ | .fetchPart .. => 17

/-- How many turns are left when a report is made. -/
def Report.effort : Report → Nat
  | .creationFailed _ | .abortEnded .. => 3
  | .created _ | .opened _ => 5
  | .completed => 8
  | .completionFailed _ => 9
  | .partDone .. | .partWritten _ | .partLost .. => 15

/-- How many turns the parts of an operation can take that have not been handed out. -/
def Operation.effort (operation : Operation) : Nat :=
  22 * operation.unissued

/-- How many turns an activity can take, with those of the tasks that it brings into the queue, but
without those of the parts that it hands out and without those that write a piece. Handing out a
part is paid for by the part, and putting it back pays for that. -/
def Activity.effort : Activity → Nat
  | .dismissed => 0
  | .idle => 1
  | .settling .. => 2
  | .discarding .. => 3
  | .feeding .. => 4
  | .stamping .. => 8
  | .writing _ .whole .. => 9
  | .saving .. => 10
  | .writing _ (.part _) .. => 16
  | .reading .. => 19
  | .forcing .. => 22
  | .deferring .. => 24
  | .offering .. => 25
  | .starting _ chore => chore.effort
  | .sending _ errand .. => errand.effort + 1
  | .awaiting _ errand .. => errand.effort
  | .reporting _ report => report.effort
  | .following _ followUp => followUp.chore.effort + 2

/-- How many pieces an activity still writes. -/
def Activity.pieces : Activity → Nat
  | .writing _ _ _ _ _ body => body.length
  | _ => 0

attribute [local simp] Chore.effort Errand.effort Report.effort Activity.effort FollowUp.chore

lemma Chore.Calls.effort_lt {operation : Operation} {chore : Chore} {errand : Errand}
    {call : Call} (calls : chore.Calls operation errand call) :
    errand.effort + 1 < chore.effort := by
  cases calls <;> simp

lemma Chore.settles_lt (chore : Chore) : 2 < chore.effort := by
  cases chore <;> simp

lemma Errand.settles_lt (errand : Errand) : 2 < errand.effort := by
  cases errand <;> simp

lemma Report.rests_lt (report : Report) : 1 < report.effort := by
  cases report <;> simp

lemma Activity.effort_afterTransfer_lt (operation : Operation) (id : OperationId) :
    (Activity.afterTransfer operation id).effort < 8 := by
  unfold Activity.afterTransfer
  split <;> simp

lemma Activity.effort_afterRefusal_lt (id : OperationId) (error : Failure)
    (followUp : FollowUp) :
    (Shared.afterRefusal id error followUp).effort < followUp.chore.effort + 2 := by
  cases followUp <;> simp [Shared.afterRefusal]

lemma Chore.effort_of_side? {chore : Chore} {side : Side} (part : chore.side? = some side) :
    chore.effort = 20 := by
  cases chore <;> cases part <;> rfl

lemma Errand.effort_of_partSide? {errand : Errand} {side : Side}
    (part : errand.partSide? = some side) : errand.effort = 17 := by
  cases errand <;> cases part <;> rfl

lemma Report.effort_of_isPart {report : Report} (part : report.isPart = true) :
    report.effort = 15 := by
  cases report <;> first | rfl | cases part

lemma FollowUp.effort_of_side? {followUp : FollowUp} {side : Side}
    (parts : followUp.side? = some side) : followUp.chore.effort + 2 < 15 := by
  cases followUp <;> simp [side?] at parts ⊢

/-- Every activity but handing out a part is followed by one with fewer turns left, or writes the
next piece. -/
lemma Follows.effort_lt {shared : Shared} {id : OperationId} {activity later : Activity}
    (follows : Follows shared id activity later)
    (unissued : ∀ side index, later ≠ .offering id side index) :
    later.effort < activity.effort ∨
      later.effort = activity.effort ∧ later.pieces < activity.pieces := by
  have transferred := Activity.effort_afterTransfer_lt (shared.operation id) id
  cases follows
  case writes extent path file offset after delivery rest =>
    refine .inr ⟨?_, Nat.lt_succ_self rest.length⟩
    cases extent <;> rfl
  case handsOut side index => exact absurd rfl (unissued side index)
  all_goals refine .inl ?_
  case skips chore _ | misfits chore _ =>
    have := chore.settles_lt
    simp only [Activity.effort]
    omega
  case calls makes => exact makes.effort_lt
  case unmoved part _ =>
    simp only [Activity.effort, Report.effort, Chore.effort_of_side? part]
    omega
  case stored errand whole _ _ => rcases whole with rfl | rfl <;> exact transferred
  case lost part _ _ _ =>
    simp only [Activity.effort, Report.effort, Errand.effort_of_partSide? part]
    omega
  case removed errand removes _ _ => rcases removes with rfl | rfl <;> simp
  case failed errand _ _ _ _ => exact errand.settles_lt
  case rests report => exact report.rests_lt
  case refills part =>
    simp only [Activity.effort, Report.effort_of_isPart part]
    omega
  case closes part _ parts =>
    simp only [Activity.effort, Report.effort_of_isPart part]
    exact FollowUp.effort_of_side? parts
  case transferred => exact transferred
  case notFollowed followUp error => exact Activity.effort_afterRefusal_lt id error followUp
  case followed followUp => exact Nat.succ_lt_succ (Nat.succ_pos _)
  case written extent _ _ _ _ _ => cases extent <;> simp [Shared.afterWrite]
  case unwritten extent _ _ _ _ _ => cases extent <;> simp [Shared.afterWriteFailure]
  case stamped => exact transferred
  all_goals simp

/-- What a hand does once it has queued a task leaves room for the turns of that task. -/
lemma Activity.effort_onceQueued_lt {operation : Operation} {activity : Activity} {chore : Chore}
    (queues : activity.queues? operation = some chore) :
    activity.onceQueued.effort + chore.effort < activity.effort := by
  cases activity
  case offering id side index | forcing id side index =>
    obtain rfl := Option.some.inj queues
    rw [Chore.effort_of_side? (Chore.side?_partChore operation side _)]
    simp [onceQueued]
  case following id followUp =>
    obtain rfl := Option.some.inj queues
    simp only [onceQueued, effort]
    omega
  all_goals cases queues

/-! ## The turns of a run -/

/-- How many turns a job can take, but for the turn in which it is taken. -/
def Job.effort : Job → Nat
  | .run task => task.chore.effort
  | .dismissal => 0

/-- How many turns the jobs in the queue and the parts that are not handed out can take. -/
def Shared.effort (shared : Shared) : Nat :=
  (shared.queue.items.map Job.effort).sum +
    (shared.operations.map Operation.effort).sum

/-- How many turns a record can take that has not been planned. -/
def Plan.effort (plan : Plan) (record : Record) : Nat :=
  match plan.resolve record with
  | .ok (operation, chore) => operation.effort + chore.effort + 3
  | .error _ => 1

/-- How many turns the planner can take, with those of what it has yet to plan and to queue. -/
def PlannerStage.effort (plan : Plan) (workers : Nat) : PlannerStage → Nat
  | .planning records => (records.map plan.effort).sum + (2 * workers + 3)
  | .proposing _ entry records =>
      entry.item.effort + 2 + (records.map plan.effort).sum + (2 * workers + 3)
  | .entering entry records =>
      entry.item.effort + 1 + (records.map plan.effort).sum + (2 * workers + 3)
  | .dismissing left => 2 * left + 2
  | .enteringDismissal left => 2 * left + 3
  | .joining => 1
  | .ended => 0

end Pool

namespace Run

/-- How many turns a run can still take, but for those that write a piece. -/
def effort (run : Run) : Nat :=
  run.shared.effort + (run.workers.map Activity.effort).sum +
    run.planner.effort run.plan run.workers.length

/-- How many pieces of bodies are still to be written. -/
def pieces (run : Run) : Nat :=
  (run.workers.map Activity.pieces).sum

end Run

/-- A sum over a list, before and after one of its items is set to another. -/
lemma sum_map_set {α : Type} (weight : α → Nat) {items : List α} {index : Nat} {item : α}
    (there : items[index]? = some item) :
    ∃ rest, (items.map weight).sum = weight item + rest ∧
      ∀ other, ((items.set index other).map weight).sum = weight other + rest := by
  obtain ⟨inside, rfl⟩ := List.getElem?_eq_some_iff.1 there
  refine ⟨((items.eraseIdx index).map weight).sum, ?_, fun other => ?_⟩
  · rw [← ((List.getElem_cons_eraseIdx_perm inside).map weight).sum_nat]
    exact List.sum_cons
  · rw [((List.set_perm_cons_eraseIdx inside other).map weight).sum_nat]
    exact List.sum_cons

namespace Pool.Shared

variable {shared after : Shared} {id : OperationId} {surroundings : Surroundings}

lemma effort_push {queue : Queue Job} (priority : Priority) (job : Job) :
    ((queue.push priority job).items.map Job.effort).sum =
      job.effort + (queue.items.map Job.effort).sum := by
  rw [((queue.items_push_perm priority job).map Job.effort).sum_nat]
  exact List.sum_cons

/-- Every turn of a worker leaves fewer turns to be taken, or writes the next piece. -/
lemma effort_of_work {activity later : Activity} (inside : id < shared.operations.length)
    (own : activity.operation? = some id)
    (work : shared.work surroundings activity = some (after, later)) :
    after.effort + later.effort < shared.effort + activity.effort ∨
      after.effort + later.effort = shared.effort + activity.effort ∧
        later.pieces < activity.pieces := by
  obtain ⟨⟨operation, notes, queued, changed⟩, -⟩ := stays_of_work inside own work
  have there : shared.operations[id]? = some (shared.operation id) := by
    simp [Shared.operation, List.getD_eq_getElem?_getD, inside]
  obtain ⟨others, before, set⟩ := sum_map_set Operation.effort there
  have changes := set operation
  rw [← changed.operations] at changes
  have issues := issues_of_work inside own work
  rw [changed.operation_eq inside] at issues
  have follows : Follows shared id activity later := follows_of_work own work
  simp only [Operation.effort] at before changes
  have keeps (queue : after.queue = shared.queue) :
      after.effort + later.effort < shared.effort + activity.effort ∨
        after.effort + later.effort = shared.effort + activity.effort ∧
          later.pieces < activity.pieces := by
    rw [Shared.effort, Shared.effort, queue]
    cases issues with
    | handedOut side index fewer =>
        simp only [Activity.effort]
        omega
    | putBack side index more =>
        simp only [Activity.effort]
        omega
    | same unissued same =>
        have falls := follows.effort_lt unissued
        omega
  cases noted_of_work own work with
  | nothing queue => exact keeps queue
  | noted event own queue => exact keeps queue
  | queued chore queues goes queue =>
      have falls := Activity.effort_onceQueued_lt queues
      cases issues with
      | handedOut => cases queues
      | putBack => cases queues
      | same unissued same =>
          obtain rfl : later = activity.onceQueued := goes
          rw [Shared.effort, Shared.effort, queue, effort_push]
          dsimp only [Job.effort]
          omega

lemma effort_refuse (error : Failure) : (shared.refuse id error).effort = shared.effort := rfl

lemma effort_addOperation (operation : Operation) :
    (shared.addOperation operation).effort = shared.effort + operation.effort := by
  simp [Shared.effort, addOperation, Nat.add_assoc]

/-- Every step of the planner leaves fewer turns to be taken. -/
lemma effort_of_advances {plan : Plan} {workers : List Activity} {stage later : PlannerStage}
    (advances : shared.Advances plan workers surroundings stage after later) :
    after.effort + later.effort plan workers.length <
      shared.effort + stage.effort plan workers.length := by
  cases advances with
  | @unplannable record rest error resolved =>
      have nothing : (plan.operationFor record).effort = 0 := rfl
      have cost : plan.effort record = 1 := by rw [Plan.effort, resolved]
      rw [effort_refuse, effort_addOperation, nothing]
      simp only [PlannerStage.effort, List.map_cons, List.sum_cons, cost]
      omega
  | @planned record rest operation chore resolved =>
      have cost : plan.effort record = operation.effort + chore.effort + 3 := by
        rw [Plan.effort, resolved]
      have first : (operation.firstEntry shared.operations.length chore).item.effort =
          chore.effort := rfl
      rw [effort_addOperation]
      simp only [PlannerStage.effort, List.map_cons, List.sum_cons, cost, first]
      omega
  | barred bar =>
      rw [effort_refuse]
      simp only [PlannerStage.effort]
      omega
  | passed =>
      simp only [PlannerStage.effort]
      omega
  | @admitted entry rest queue accepted =>
      have filled := Queue.eq_push_of_insert accepted
      have pushed : (shared.accept entry queue).effort = entry.item.effort + shared.effort := by
        rw [Shared.effort, Shared.effort, accept, note, filled, effort_push, Nat.add_assoc]
      rw [pushed]
      simp only [PlannerStage.effort]
      omega
  | turnedAway refused ends =>
      have same : after.effort = shared.effort := by
        rcases ends with rfl | ⟨task, rfl⟩ <;> rfl
      rw [same]
      simp only [PlannerStage.effort]
      omega
  | @dismissed left queue accepted =>
      have filled := Queue.eq_push_of_insert accepted
      have pushed : (shared.accept dismissal queue).effort = 0 + shared.effort := by
        rw [Shared.effort, Shared.effort, accept, note, filled, effort_push, Nat.add_assoc]
        rfl
      rw [pushed]
      simp only [PlannerStage.effort]
      omega
  | waned wanes =>
      cases wanes
      all_goals
        simp only [PlannerStage.effort, List.map_nil, List.sum_nil]
        omega
  | joined all => exact Nat.lt_succ_self _

end Pool.Shared

namespace Run

variable {records : List Record} {run next : Run} {move : Move}

/-- Every step of a run leaves fewer turns to be taken, or writes the next piece of a body. -/
lemma effort_of_step (sound : run.Sound records) (step : run.step move = some next) :
    next.effort < run.effort ∨ next.effort = run.effort ∧ next.pieces < run.pieces := by
  obtain ⟨actor, surroundings⟩ := move
  cases actor with
  | planner =>
      obtain ⟨shared, stage, advances, rfl⟩ := step_planner step
      have falls := Shared.effort_of_advances advances
      refine .inl ?_
      simp only [effort]
      omega
  | worker index =>
      cases works_of_step step with
      | @turn activity later own shared working owns work =>
          obtain ⟨others, before, after⟩ := sum_map_set Activity.effort working
          obtain ⟨more, had, has⟩ := sum_map_set Activity.pieces working
          have falls := Shared.effort_of_work (sound.own_lt working owns) owns work
          have left := after later
          have writes := has later
          simp only [effort, pieces, List.length_set]
          omega
      | @take job rest working taken =>
          obtain ⟨others, before, after⟩ := sum_map_set Activity.effort working
          have left := after (job.hand?.getD .dismissed)
          have queue := congrArg (fun items => (items.map Job.effort).sum)
            (Queue.items_of_take? taken)
          have begins : (job.hand?.getD .dismissed).effort = job.effort := by
            cases job <;> rfl
          refine .inl ?_
          simp only [effort, Shared.effort, Shared.note, List.length_set, List.map_cons,
            List.sum_cons, Activity.effort] at *
          omega
      | leave working closed => exact absurd (sound.closed closed) (sound.early working (by simp))

/-- No run goes on for ever: whatever moves are to be made one after the other, one of them cannot
be made. -/
theorem stuck_of_endless (sound : run.Sound records) (moves : Nat → Move) :
    ∃ count, run.steps ((List.range count).map moves) = none := by
  -- What is left goes down with every step, in the lexicographic order of turns and pieces.
  generalize left : toLex (run.effort, run.pieces) = measure
  induction measure using WellFoundedLT.induction generalizing run moves with
  | ind measure ih =>
      subst left
      cases step : run.step (moves 0) with
      | none => exact ⟨1, by simp [steps, step]⟩
      | some next =>
          have falls : toLex (next.effort, next.pieces) < toLex (run.effort, run.pieces) :=
            Prod.Lex.toLex_lt_toLex.2 (effort_of_step sound step)
          obtain ⟨count, stuck⟩ := ih _ falls (sound.step step) (fun index => moves (index + 1)) rfl
          refine ⟨count + 1, ?_⟩
          rw [List.range_succ_eq_map, List.map_cons, List.map_map, steps, step]
          exact stuck

end Run
end BulkTransfer
