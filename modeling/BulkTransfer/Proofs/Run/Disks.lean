import BulkTransfer.Proofs.Files.Names
import BulkTransfer.Proofs.Run.OperationSteps

/-!
# The file system of a run

What a step of a run can do to the file system (`Pool.Shared.altered_of_work`); a file system that
is sound when a run begins is sound throughout it (`Run.diskSound_of_steps`), and has the same
format (`Run.format_of_steps`).
-/

namespace BulkTransfer

open Pool

namespace Pool.Shared

variable {shared : Shared} {id : OperationId}

lemma altered_start (chore : Chore) : shared.disk.Altered (shared.start id chore).1.disk := by
  cases chore
  case createLocalFile =>
    simp only [start, startLocalFile]
    split
    · exact .same
    · exact .same
    · next path _ _ =>
        have opened : Disk.Altered shared.disk (shared.disk.openNew path).2 := .opened path
        split
        · next created =>
            rw [created] at opened
            exact opened
        · next refused =>
            rw [refused] at opened
            exact opened
  case delete =>
    simp only [start, startDelete]
    split
    · split
      · next gone => exact .removed gone
      · exact .same
    · exact .same
  all_goals
    simp only [start, startCreate, startPart, startDownloadPart, startFinish]
    repeat' split
  all_goals exact .same

lemma altered_report (given : Report) : shared.disk.Altered (shared.report id given).1.disk := by
  unfold report
  dsimp only
  split
  · cases given <;> exact .same
  · cases given <;> exact .same
  · exact .same

lemma altered_write (extent : Extent) (path : LocalPath) (file : FileId) (offset : Nat)
    (body : Reader) :
    shared.disk.Altered (shared.write id extent path file offset body).1.disk := by
  unfold write
  split
  · exact .same
  · exact .same
  · exact .same
  · split
    · exact .same
    · exact .written file offset _

lemma altered_stamp (path : LocalPath) : shared.disk.Altered (shared.stamp id path).1.disk := by
  unfold stamp
  dsimp only
  split
  · exact .same
  · split
    · next set => exact .stamped set
    · exact .same

lemma altered_discard (disk : Disk) (path : LocalPath) : disk.Altered (disk.discard path) := by
  unfold Disk.discard
  split
  · next gone => exact .removed gone
  · exact .same

/-- What the step of a worker does to the file system. -/
theorem altered_of_work {surroundings : Surroundings} {activity later : Activity} {after : Shared}
    (work : shared.work surroundings activity = some (after, later)) :
    shared.disk.Altered after.disk := by
  cases activity
  case idle =>
    simp only [Shared.work] at work
    repeat' split at work
    all_goals cases work
    all_goals exact .same
  case dismissed => cases work
  all_goals obtain rfl := congrArg Prod.fst (Option.some.inj work)
  case starting id chore => exact altered_start chore
  case reporting id report => exact altered_report report
  case feeding id side =>
    cases side <;> simp only [feed] <;> split <;> exact .same
  case deferring id side index =>
    cases side <;> simp only [defer] <;> split <;> exact .same
  case offering | forcing | following =>
    simp only [offer, force, follow]
    split <;> exact .same
  case saving id path body =>
    have opened : Disk.Altered shared.disk (shared.disk.openNew path).2 := .opened path
    simp only [save]
    split
    · next created =>
        rw [created] at opened
        exact opened
    · next refused =>
        rw [refused] at opened
        exact opened
  case writing id extent path file offset body => exact altered_write ..
  case stamping id path => exact altered_stamp path
  case discarding id path outcome => exact altered_discard shared.disk path
  all_goals exact .same

/-- The planner leaves the file system. -/
lemma disk_of_advances {plan : Plan} {workers : List Activity} {surroundings : Surroundings}
    {stage later : PlannerStage} {after : Shared}
    (advances : shared.Advances plan workers surroundings stage after later) :
    after.disk = shared.disk := by
  cases advances with
  | turnedAway refused ends => rcases ends with rfl | ⟨task, rfl⟩ <;> rfl
  | _ => rfl

end Pool.Shared

namespace Run

variable {run next : Run} {move : Move}

/-- What a step does to the file system. -/
lemma altered_of_step (step : run.step move = some next) :
    run.shared.disk.Altered next.shared.disk := by
  obtain ⟨actor, surroundings⟩ := move
  cases actor with
  | planner =>
      obtain ⟨shared, stage, advances, rfl⟩ := step_planner step
      rw [show shared.disk = run.shared.disk from Shared.disk_of_advances advances]
      exact .same
  | worker index =>
      obtain ⟨activity, shared, later, -, work, rfl⟩ := step_worker step
      exact Shared.altered_of_work work

/-- A file system that is sound at the start of a run is so in every state of it. -/
theorem diskSound_of_steps {moves : List Move} (sound : run.shared.disk.Sound)
    (reached : run.steps moves = some next) : next.shared.disk.Sound := by
  have kept (before : Run) (move : Move) (after : Run) (holds : before.shared.disk.Sound)
      (_ : True) (step : before.step move = some after) : after.shared.disk.Sound :=
    (altered_of_step step).edited.sound holds
  exact steps_induction kept sound (fun _ _ _ _ _ _ => trivial) reached

/-- The file system has the format that it had at the start. -/
theorem format_of_steps {moves : List Move} (reached : run.steps moves = some next) :
    next.shared.disk.format = run.shared.disk.format := by
  have kept (before : Run) (move : Move) (after : Run)
      (same : before.shared.disk.format = run.shared.disk.format) (_ : True)
      (step : before.step move = some after) :
      after.shared.disk.format = run.shared.disk.format :=
    (altered_of_step step).edited.format.trans same
  exact steps_induction kept rfl (fun _ _ _ _ _ _ => trivial) reached

end Run
end BulkTransfer
