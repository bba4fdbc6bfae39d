import BulkTransfer.Proofs.Run.OperationSteps

/-!
# What is heard in a run

Answers of stores, and messages about operations. Nothing but the step of a worker that waits for an
answer adds an answer, and it is the one that comes from outside; a message is added when a worker
ends an operation, or the planner refuses one (`Run.heard_of_step`). So what holds of every answer
that is given in a run holds of those in its history (`Run.answered_of_steps`).
-/

namespace BulkTransfer

open Pool

namespace Pool

/-- Whether an event is an answer or a message. -/
def Event.isHeard : Event → Bool
  | .answered .. | .settled .. => true
  | _ => false

/-- The answers and messages so far, latest first. -/
def Shared.heard (shared : Shared) : List Event :=
  shared.events.filter Event.isHeard

namespace Shared

variable {shared : Shared} {id : OperationId}

@[simp]
lemma heard_note (event : Event) :
    (shared.note event).heard =
      if event.isHeard then event :: shared.heard else shared.heard := by
  simp only [heard, note, List.filter_cons]

@[simp]
lemma heard_setUpload (upload : Multipart.Upload) :
    (shared.setUpload id upload).heard = shared.heard := rfl

@[simp]
lemma heard_setDownload (download : Multipart.Download) :
    (shared.setDownload id download).heard = shared.heard := rfl

@[simp]
lemma heard_onDisk (disk : Disk) :
    ({ shared with disk := disk } : Shared).heard = shared.heard := rfl

@[simp]
lemma heard_accept (entry : Entry Job) (queue : Queue Job) :
    (shared.accept entry queue).heard = shared.heard :=
  (heard_note _).trans rfl

lemma heard_settle (outcome : Outcome) :
    (shared.settle id outcome).heard =
      .settled id (verdict (shared.operation id) shared.tally outcome).1 :: shared.heard :=
  (heard_note _).trans rfl

lemma heard_start (chore : Chore) : (shared.start id chore).1.heard = shared.heard := by
  cases chore
  all_goals
    simp only [start, startCreate, startPart, startLocalFile, startDownloadPart, startFinish,
      startDelete]
    repeat' split
  all_goals simp [Event.isHeard]

lemma heard_report (given : Report) : (shared.report id given).1.heard = shared.heard := by
  unfold report
  dsimp only
  split
  · cases given <;> simp [reportUpload]
  · cases given <;> simp [reportDownload]
  · rfl

lemma heard_feed (side : Side) : (shared.feed id side).1.heard = shared.heard := by
  cases side <;> simp only [feed] <;> split <;> simp

lemma heard_defer (side : Side) (index : Nat) :
    (shared.defer id side index).1.heard = shared.heard := by
  cases side <;> simp only [defer] <;> split <;> simp

lemma heard_write (extent : Extent) (path : LocalPath) (file : FileId) (offset : Nat)
    (body : Reader) : (shared.write id extent path file offset body).1.heard = shared.heard := by
  unfold write
  repeat' split
  all_goals simp [Event.isHeard]

lemma heard_refuse (error : Failure) :
    (shared.refuse id error).heard =
      .settled id (refusal (shared.operation id) shared.tally error).1 :: shared.heard :=
  (heard_note _).trans rfl

/-- Whether a step adds nothing to what is heard, or a message about an operation. -/
def Adds (before after : Shared) : Prop :=
  after.heard = before.heard ∨ ∃ id notice, after.heard = .settled id notice :: before.heard

/-- The step of a worker that waits for an answer adds it, and one that ends its operation adds the
message about that. -/
lemma heard_of_work {surroundings : Surroundings} {activity later : Activity} {after : Shared}
    (work : shared.work surroundings activity = some (after, later)) :
    after.heard = shared.heard ∨
    (∃ id outcome, activity = .settling id outcome ∧
      after.heard =
        .settled id (verdict (shared.operation id) shared.tally outcome).1 :: shared.heard) ∨
    ∃ id errand store call, activity = .awaiting id errand store call ∧
      after.heard = .answered store id call (seen call surroundings.answer) :: shared.heard := by
  cases activity
  case awaiting id errand store call =>
    obtain ⟨rfl, rfl⟩ := Prod.mk.inj (Option.some.inj work)
    exact .inr (.inr ⟨id, errand, store, call, rfl, heard_note _⟩)
  case settling id outcome =>
    obtain ⟨rfl, rfl⟩ := Prod.mk.inj (Option.some.inj work)
    exact .inr (.inl ⟨id, outcome, rfl, heard_settle outcome⟩)
  case dismissed => cases work
  case idle =>
    simp only [Shared.work] at work
    repeat' split at work
    all_goals cases work
    all_goals exact .inl rfl
  all_goals
    refine .inl ?_
    obtain rfl := congrArg Prod.fst (Option.some.inj work)
  case starting => exact heard_start _
  case reporting => exact heard_report _
  case feeding => exact heard_feed _
  case deferring => exact heard_defer ..
  case writing => exact heard_write ..
  case offering =>
    unfold offer
    dsimp only
    split <;> simp
  case forcing =>
    unfold force
    dsimp only
    split <;> simp
  case following =>
    unfold follow
    dsimp only
    split <;> simp
  case saving =>
    unfold save
    split <;> simp [Event.isHeard]
  case stamping =>
    unfold stamp
    dsimp only
    repeat' split
    all_goals rfl
  all_goals rfl

/-- The planner adds nothing but the refusal of an operation. -/
lemma heard_of_advances {plan : Plan} {workers : List Activity} {surroundings : Surroundings}
    {stage later : PlannerStage} {after : Shared}
    (advances : shared.Advances plan workers surroundings stage after later) :
    shared.Adds after := by
  cases advances with
  | unplannable resolved | barred bar => exact .inr ⟨_, _, heard_refuse _⟩
  | admitted accepted | dismissed accepted => exact .inl (heard_accept ..)
  | turnedAway refused ends =>
      rcases ends with rfl | ⟨task, rfl⟩
      · exact .inl rfl
      · exact .inr ⟨_, _, heard_refuse _⟩
  | planned | passed | waned | joined => exact .inl rfl

end Shared
end Pool

namespace Run

variable {run next : Run} {move : Move}

/-- A step adds an answer only if its worker waits for that, and a message only about the end of an
operation. -/
theorem heard_of_step (step : run.step move = some next) :
    run.shared.Adds next.shared ∨
      ∃ id store call, run.awaits? move.actor = some (store, call) ∧
        next.shared.heard =
          .answered store id call (Shared.seen call move.surroundings.answer) ::
            run.shared.heard := by
  obtain ⟨actor, surroundings⟩ := move
  cases actor with
  | planner =>
      obtain ⟨shared, stage, advances, rfl⟩ := step_planner step
      exact .inl (Shared.heard_of_advances advances)
  | worker index =>
      obtain ⟨activity, shared, later, working, work, rfl⟩ := step_worker step
      rcases Shared.heard_of_work work with
        same | ⟨id, outcome, -, heard⟩ | ⟨id, errand, store, call, rfl, heard⟩
      · exact .inl (.inl same)
      · exact .inl (.inr ⟨id, _, heard⟩)
      · exact .inr ⟨id, store, call, by simp [awaits?, working], heard⟩

/-- What holds of every answer that is given in a run holds of the answers that have come. -/
theorem answered_of_steps {holds : Call → Answer → Prop} {moves : List Move} {last : Run}
    (started : run.shared.heard = []) (reached : run.steps moves = some last)
    (throughout : run.Throughout (fun state move => ∀ store call,
      state.awaits? move.actor = some (store, call) →
        holds call (Shared.seen call move.surroundings.answer)) moves)
    {store : StoreName} {id : OperationId} {call : Call} {answer : Answer}
    (answered : .answered store id call answer ∈ last.shared.events) : holds call answer := by
  have kept (run : Run) (move : Move) (next : Run)
      (before : ∀ store id call answer, .answered store id call answer ∈ run.shared.heard →
        holds call answer)
      (given : ∀ store call, run.awaits? move.actor = some (store, call) →
        holds call (Shared.seen call move.surroundings.answer))
      (step : run.step move = some next) (store : StoreName) (id : OperationId) (call : Call)
      (answer : Answer) (present : .answered store id call answer ∈ next.shared.heard) :
      holds call answer := by
    rcases heard_of_step step with (same | ⟨own, notice, heard⟩) |
      ⟨own, at_, made, awaits, heard⟩
    · rw [same] at present
      exact before store id call answer present
    · rw [heard] at present
      exact before store id call answer ((List.mem_cons.1 present).resolve_left (by simp))
    · rw [heard] at present
      rcases List.mem_cons.1 present with new | old
      · obtain ⟨rfl, rfl, rfl, rfl⟩ := Event.answered.inj new
        exact given _ _ awaits
      · exact before store id call answer old
  refine steps_induction kept ?_ throughout reached store id call answer ?_
  · rw [started]
    exact fun _ _ _ _ => (by simp)
  · exact List.mem_filter.2 ⟨answered, rfl⟩

/-- An operation is of the record that stands in its place. -/
lemma Sound.record_of {records : List Record} {id : OperationId} (sound : run.Sound records)
    (inside : id < run.shared.operations.length) :
    records[id]? = some (run.shared.operation id).record := by
  rw [← sound.planned, List.getElem?_append_left (by rwa [List.length_map]), List.getElem?_map,
    Shared.operation, List.getD_eq_getElem?_getD, List.getElem?_eq_getElem inside]
  rfl

end Run
end BulkTransfer
