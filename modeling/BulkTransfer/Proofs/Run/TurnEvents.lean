import BulkTransfer.Proofs.Parts.Queueing

/-!
# What a turn notes

Every event of a run was noted by somebody who was at the point of doing what it tells of. Each turn
of a worker notes at most one event, which is one that its activity may note (`Activity.Notes`), or
brings a follow-up into the queue and notes that (`Shared.noted_of_work`).
-/

namespace BulkTransfer

open Pool

namespace Pool

/-- Whether a worker may note an event in its turn. -/
def Activity.Notes (activity : Activity) : Event → Prop
  | .called store id call => ∃ errand, activity = .sending id errand store call
  | .answered store id call _ => ∃ errand, activity = .awaiting id errand store call
  | .opened id path _ =>
      activity = .starting id .createLocalFile ∨ ∃ body, activity = .saving id path body
  | .wrote id extent file offset _ =>
      ∃ path body, activity = .writing id extent path file offset body
  | .discarded id path => ∃ outcome, activity = .discarding id path outcome
  | .removedSource id _ => activity = .starting id .delete
  | .settled id message => ∃ outcome operation tally, activity = .settling id outcome ∧
      message = (Shared.verdict operation tally outcome).1
  | .accepted _ | .taken _ => False

/-- The task that a worker is about to bring into the queue. -/
def Activity.queues? (operation : Operation) : Activity → Option Chore
  | .offering _ side index | .forcing _ side index =>
      some (partChore operation side (operation.span side index))
  | .following _ followUp => some followUp.chore
  | _ => none

/-- What a worker does once it has brought that task into the queue. -/
def Activity.onceQueued : Activity → Activity
  | .offering id side _ => .feeding id side
  | _ => .idle

/-- What becomes of the queue and the events in the turn of a worker of an operation. -/
inductive Shared.Noted (before after : Shared) (id : OperationId) (activity later : Activity) :
    Prop where
  | nothing (queue : after.queue = before.queue) (events : after.events = before.events)
  | noted (event : Event) (own : activity.Notes event) (queue : after.queue = before.queue)
      (events : after.events = event :: before.events)
  | queued (chore : Chore) (queues : activity.queues? (before.operation id) = some chore)
      (goes : later = activity.onceQueued)
      (queue : after.queue = before.queue.push .immediate (.run ⟨id, chore⟩))
      (events : after.events = .accepted (.run ⟨id, chore⟩) :: before.events)

namespace Shared

variable {shared : Shared} {id : OperationId}

/-- Whether nothing is queued and nothing noted. -/
def Silent (before after : Shared) : Prop :=
  after.queue = before.queue ∧ after.events = before.events

@[simp]
lemma silent_refl (shared : Shared) : shared.Silent shared := ⟨rfl, rfl⟩

@[simp]
lemma silent_onDisk (disk : Disk) : shared.Silent { shared with disk := disk } := ⟨rfl, rfl⟩

@[simp]
lemma silent_setUpload (upload : Multipart.Upload) :
    shared.Silent (shared.setUpload id upload) := ⟨rfl, rfl⟩

@[simp]
lemma silent_setDownload (download : Multipart.Download) :
    shared.Silent (shared.setDownload id download) := ⟨rfl, rfl⟩

lemma silent_report (given : Report) : shared.Silent (shared.report id given).1 := by
  unfold report
  dsimp only
  split
  · cases given <;> simp [reportUpload]
  · cases given <;> simp [reportDownload]
  · simp

lemma silent_feed (side : Side) : shared.Silent (shared.feed id side).1 := by
  cases side <;> simp only [feed] <;> split <;> simp

lemma silent_defer (side : Side) (index : Nat) :
    shared.Silent (shared.defer id side index).1 := by
  cases side <;> simp only [defer] <;> split <;> simp

lemma silent_stamp (path : LocalPath) : shared.Silent (shared.stamp id path).1 := by
  unfold stamp
  dsimp only
  repeat' split
  all_goals simp

lemma Silent.noted {after : Shared} (silent : shared.Silent after) (activity later : Activity) :
    shared.Noted after id activity later :=
  .nothing silent.1 silent.2

lemma noted_start (chore : Chore) :
    shared.Noted (shared.start id chore).1 id (.starting id chore) (shared.start id chore).2 := by
  cases chore
  case createLocalFile =>
    simp only [start, startLocalFile]
    split
    · exact .nothing rfl rfl
    · exact .nothing rfl rfl
    · next path _ _ =>
        split
        · next file disk opened => exact .noted (.opened id path file) (.inl rfl) rfl rfl
        · exact .nothing rfl rfl
  case delete =>
    simp only [start, startDelete]
    split
    · next path source =>
        split
        · exact .noted (.removedSource id path) rfl rfl rfl
        · exact .nothing rfl rfl
    · exact .nothing rfl rfl
  all_goals
    refine Silent.noted ?_ _ _
    simp only [start, startCreate, startPart, startDownloadPart, startFinish]
    repeat' split
  all_goals simp

lemma noted_write (extent : Extent) (path : LocalPath) (file : FileId) (offset : Nat)
    (body : Reader) :
    shared.Noted (shared.write id extent path file offset body).1 id
      (.writing id extent path file offset body)
      (shared.write id extent path file offset body).2 := by
  unfold write
  split
  · exact .nothing rfl rfl
  · exact .nothing rfl rfl
  · exact .nothing rfl rfl
  · next bytes rest =>
      split
      · exact .nothing rfl rfl
      · exact .noted (.wrote id extent file offset (shared.disk.format.fitting offset bytes))
          ⟨path, _, rfl⟩ rfl rfl

/-- What a worker queues and notes in its turn. -/
theorem noted_of_work {surroundings : Surroundings} {activity : Activity}
    {result : Shared × Activity} (own : activity.operation? = some id)
    (work : shared.work surroundings activity = some result) :
    shared.Noted result.1 id activity result.2 := by
  cases activity
  case idle | dismissed => cases own
  all_goals
    obtain rfl := Option.some.inj own
    obtain rfl := Option.some.inj work
  case starting => exact noted_start _
  case reading => exact .nothing rfl rfl
  case sending id errand store call =>
    exact .noted (.called store id call) ⟨errand, rfl⟩ rfl rfl
  case awaiting id errand store call =>
    exact .noted (.answered store id call _) ⟨errand, rfl⟩ rfl rfl
  case reporting => exact (silent_report _).noted ..
  case feeding => exact (silent_feed _).noted ..
  case deferring => exact (silent_defer ..).noted ..
  case offering id side index =>
    unfold offer
    dsimp only
    split
    · next queue accepted =>
        exact .queued _ rfl rfl (Queue.eq_push_of_insert accepted) rfl
    · exact .nothing rfl rfl
    · exact .nothing rfl rfl
  case forcing id side index =>
    unfold force
    dsimp only
    split
    · next queue accepted =>
        exact .queued _ rfl rfl (Queue.eq_push_of_insertAnyway accepted) rfl
    · exact .nothing rfl rfl
    · exact .nothing rfl rfl
  case following id followUp =>
    unfold follow
    dsimp only
    split
    · next queue accepted =>
        exact .queued _ rfl rfl (Queue.eq_push_of_insertAnyway accepted) rfl
    · exact .nothing rfl rfl
    · exact .nothing rfl rfl
  case saving id path body =>
    unfold save
    split
    · next file disk opened => exact .noted (.opened id path file) (.inr ⟨body, rfl⟩) rfl rfl
    · exact .nothing rfl rfl
  case writing => exact noted_write ..
  case stamping => exact (silent_stamp _).noted ..
  case discarding id path outcome => exact .noted (.discarded id path) ⟨outcome, rfl⟩ rfl rfl
  case settling id outcome =>
    exact .noted (.settled id (verdict (shared.operation id) shared.tally outcome).1)
      ⟨outcome, _, _, rfl, rfl⟩ rfl rfl

/-- What is queued and noted is what the operation sees of it. -/
lemma Noted.of_changed {before after : Shared} {activity later : Activity}
    {operation : Operation} {notes : List Event} {queued : Option Chore}
    (noted : before.Noted after id activity later)
    (changed : before.Changed after id operation notes queued) :
    (∀ chore, queued = some chore →
        activity.queues? (before.operation id) = some chore ∧ later = activity.onceQueued) ∧
      ∀ event ∈ notes, activity.Notes event := by
  have history := changed.history id
  rw [if_pos rfl, Shared.history, Shared.history] at history
  have unnoted (event : Event) (about : event.operation? ≠ some id)
      (events : after.events = event :: before.events) : notes = [] := by
    rw [events, List.filter_cons_of_neg (by simpa using about)] at history
    exact List.self_eq_append_left.1 history
  have unqueued (queue : after.queue = before.queue) (chore : Chore) : queued ≠ some chore := by
    rintro rfl
    have pushed := queue.symm.trans changed.queue
    have length := congrArg (fun queue => queue.immediate.length) pushed
    simp [Queue.push] at length
  cases noted with
  | nothing queue events =>
      rw [events] at history
      obtain rfl := List.self_eq_append_left.1 history
      exact ⟨fun chore same => absurd same (unqueued queue chore), List.forall_mem_nil _⟩
  | noted event own queue events =>
      refine ⟨fun chore same => absurd same (unqueued queue chore), fun other present => ?_⟩
      by_cases about : event.operation? = some id
      · rw [events, List.filter_cons_of_pos (by simpa using about)] at history
        have only : [event] = notes := List.append_cancel_right history
        rw [← only] at present
        rwa [List.mem_singleton.1 present]
      · rw [unnoted event about events] at present
        cases present
  | queued chore queues goes queue events =>
      refine ⟨fun other same => ?_, fun event present => ?_⟩
      · have pushed := changed.queue
        rw [same, queue] at pushed
        have lanes := congrArg Queue.immediate pushed
        have same := List.append_cancel_left lanes
        obtain rfl : chore = other := by simpa using same
        exact ⟨queues, goes⟩
      · rw [unnoted _ (by simp [Event.operation?]) events] at present
        cases present

end Shared
end Pool
end BulkTransfer
