import BulkTransfer.Proofs.Run.Views

/-!
# What a step of a worker leaves alone

A worker changes nothing but the operation that it works on: the other operations and what has
happened to them stay as they are, the queue gets at most one follow-up of the same operation, and
the tally stays the account of the messages sent (`Shared.stays_of_work`).
-/

namespace BulkTransfer

/-- What a notice counts for: one operation in exactly one of the three columns. -/
def Notice.counted : Notice → Tally
  | .success _ _ => { succeeded := 1 }
  | .failure _ _ _ => { failed := 1 }
  | .warning _ => { warned := 1 }

namespace Tally

/-- The tally of a list of notices. -/
def ofNotices (notices : List Notice) : Tally :=
  notices.foldr (fun notice tally => tally.add notice.counted) {}

lemma ofNotices_perm {notices others : List Notice} (h : notices.Perm others) :
    ofNotices notices = ofNotices others := by
  have : LeftCommutative fun (notice : Notice) (tally : Tally) => tally.add notice.counted :=
    ⟨fun a b tally => by simp [add, Nat.add_right_comm]⟩
  exact h.foldr_eq ({} : Tally)

lemma ofNotices_cons (notice : Notice) (notices : List Notice) :
    ofNotices (notice :: notices) = (ofNotices notices).add notice.counted := rfl

lemma ofNotices_concat (notices : List Notice) (notice : Notice) :
    ofNotices (notices ++ [notice]) = (ofNotices notices).add notice.counted := by
  rw [ofNotices_perm (List.perm_append_singleton notice notices), ofNotices_cons]

lemma total_ofNotices (notices : List Notice) : (ofNotices notices).total = notices.length := by
  induction notices with
  | nil => rfl
  | cons notice notices ih =>
      rw [ofNotices_cons, List.length_cons, ← ih]
      cases notice <;> simp [add, total, Notice.counted] <;> omega

end Tally

namespace Pool

/-- Whether the tally is the account of the messages sent. -/
def Shared.Balanced (shared : Shared) : Prop :=
  shared.tally = Tally.ofNotices shared.messages

/-- How the shared state changes with a step of a worker of operation `id`: the operation becomes
`operation`, `notes` is what happens to it, and a task that does `queued` comes into the queue. -/
structure Shared.Changed (before after : Shared) (id : OperationId) (operation : Operation)
    (notes : List Event) (queued : Option Chore) : Prop where
  operations : after.operations = before.operations.set id operation
  same : operation = { before.operation id with
    upload := operation.upload, download := operation.download }
  history : ∀ other,
    after.history other = (if other = id then notes else []) ++ before.history other
  queue : after.queue = match queued with
    | none => before.queue
    | some chore => before.queue.push .immediate (.run ⟨id, chore⟩)
  balanced : before.Balanced → after.Balanced

namespace Shared

variable {shared : Shared} {id : OperationId}

lemma Changed.operation_eq {before after : Shared} {operation : Operation} {notes : List Event}
    {queued : Option Chore} (changed : before.Changed after id operation notes queued)
    (inside : id < before.operations.length) : after.operation id = operation := by
  rw [Shared.operation, changed.operations]
  simp [inside]

/-- Only the first lane of the queue changes, and only by a task. -/
lemma Changed.lanes {before after : Shared} {operation : Operation} {notes : List Event}
    {queued : Option Chore} (changed : before.Changed after id operation notes queued) :
    after.queue.normal = before.queue.normal ∧ after.queue.shutdown = before.queue.shutdown ∧
      after.queue.closed = before.queue.closed ∧
        ∀ job ∈ after.queue.immediate, job ∈ before.queue.immediate ∨ job ≠ .dismissal := by
  have queue := changed.queue
  cases queued with
  | none =>
      rw [queue]
      exact ⟨rfl, rfl, rfl, fun _ old => .inl old⟩
  | some chore =>
      rw [queue]
      refine ⟨rfl, rfl, rfl, fun job inLane => ?_⟩
      rcases List.mem_append.1 inLane with old | new
      · exact .inl old
      · rw [List.mem_singleton.1 new]
        exact .inr nofun

lemma verdict_counted (operation : Operation) (tally : Tally) (outcome : Outcome) :
    (verdict operation tally outcome).2 =
      tally.add (verdict operation tally outcome).1.counted := by
  cases outcome <;> rfl

lemma refusal_counted (operation : Operation) (tally : Tally) (error : Failure) :
    (refusal operation tally error).2 =
      tally.add (refusal operation tally error).1.counted := by
  unfold refusal
  split <;> rfl

lemma history_note (event : Event) (other : OperationId) :
    (shared.note event).history other =
      (if event.operation? = some other then [event] else []) ++ shared.history other := by
  simp only [history, note, List.filter_cons, decide_eq_true_eq]
  split <;> rfl

lemma set_operation (h : id < shared.operations.length) :
    shared.operations.set id (shared.operation id) = shared.operations := by
  simp [operation, h]

lemma operation_setUpload (inside : id < shared.operations.length) (upload : Multipart.Upload) :
    (shared.setUpload id upload).operation id =
      { shared.operation id with upload := some upload } := by
  simp [setUpload, operation, List.getD_eq_getElem?_getD, inside]

lemma operation_setDownload (inside : id < shared.operations.length)
    (download : Multipart.Download) :
    (shared.setDownload id download).operation id =
      { shared.operation id with download := some download } := by
  simp [setDownload, operation, List.getD_eq_getElem?_getD, inside]

lemma Changed.refl (h : id < shared.operations.length) :
    shared.Changed shared id (shared.operation id) [] none where
  operations := (set_operation h).symm
  same := rfl
  history other := by simp
  queue := rfl
  balanced balanced := balanced

lemma Changed.onDisk (h : id < shared.operations.length) (disk : Disk) :
    shared.Changed { shared with disk := disk } id (shared.operation id) [] none where
  operations := (set_operation h).symm
  same := rfl
  history other := by simp [Shared.history]
  queue := rfl
  balanced balanced := balanced

lemma Changed.ofUpload (upload : Multipart.Upload) :
    shared.Changed (shared.setUpload id upload) id
      { shared.operation id with upload := some upload } [] none where
  operations := by simp [setUpload, operation, List.modify_eq_set, List.getD_eq_getElem?_getD]
  same := rfl
  history other := by simp [setUpload, Shared.history]
  queue := rfl
  balanced balanced := balanced

lemma Changed.ofDownload (download : Multipart.Download) :
    shared.Changed (shared.setDownload id download) id
      { shared.operation id with download := some download } [] none where
  operations := by simp [setDownload, operation, List.modify_eq_set, List.getD_eq_getElem?_getD]
  same := rfl
  history other := by simp [setDownload, Shared.history]
  queue := rfl
  balanced balanced := balanced

lemma messages_note {event : Event}
    (quiet : ∀ operation message, event ≠ .settled operation message) :
    (shared.note event).messages = shared.messages := by
  cases event <;> simp_all [messages, note]

/-- An event other than the end of the operation, noted while the disk may change. -/
lemma Changed.ofNote (h : id < shared.operations.length) (disk : Disk) {event : Event}
    (own : event.operation? = some id)
    (quiet : ∀ operation message, event ≠ .settled operation message) :
    shared.Changed ({ shared with disk := disk }.note event) id (shared.operation id) [event]
      none where
  operations := (set_operation h).symm
  same := rfl
  history other := by
    rw [history_note, own]
    simp [Shared.history, eq_comm]
  queue := rfl
  balanced balanced := by
    rw [Balanced, messages_note quiet]
    exact balanced

/-- A message about the operation, with the tally that counts it. -/
lemma Changed.ofConclude (h : id < shared.operations.length) {result : Notice × Tally}
    (counted : result.2 = shared.tally.add result.1.counted) :
    shared.Changed (shared.conclude id result) id (shared.operation id)
      [.settled id result.1] none where
  operations := (set_operation h).symm
  same := rfl
  history other := by
    rw [conclude, history_note]
    simp [Shared.history, Event.operation?, eq_comm]
  queue := rfl
  balanced balanced := by
    rw [Balanced] at balanced ⊢
    simp only [conclude, note, messages, List.reverse_cons, List.filterMap_append,
      List.filterMap_cons, List.filterMap_nil]
    rw [Tally.ofNotices_concat, counted]
    exact congrArg₂ Tally.add balanced rfl

lemma Changed.ofSettle (h : id < shared.operations.length) (outcome : Outcome) :
    shared.Changed (shared.settle id outcome) id (shared.operation id)
      [.settled id (verdict (shared.operation id) shared.tally outcome).1] none :=
  .ofConclude h (verdict_counted ..)

lemma Changed.ofRefuse (h : id < shared.operations.length) (error : Failure) :
    shared.Changed (shared.refuse id error) id (shared.operation id)
      [.settled id (refusal (shared.operation id) shared.tally error).1] none :=
  .ofConclude h (refusal_counted ..)

lemma Changed.ofAccept (h : id < shared.operations.length) {chore : Chore} {label : String}
    {queue : Queue Job} (pushed : queue = shared.queue.push .immediate (.run ⟨id, chore⟩)) :
    shared.Changed (shared.accept ⟨.run ⟨id, chore⟩, .immediate, label⟩ queue) id
      (shared.operation id) [] (some chore) where
  operations := (set_operation h).symm
  same := rfl
  history other := by
    rw [accept, history_note]
    simp [Shared.history, Event.operation?]
  queue := pushed
  balanced balanced := by
    rw [accept, Balanced, messages_note (by simp)]
    exact balanced

/-! ## Every step of a worker -/

/-- What a step of a worker of operation `id` has to come to: it changes only that operation, and
the worker goes on with it or is idle. -/
def Stays (shared : Shared) (id : OperationId) (result : Shared × Activity) : Prop :=
  (∃ operation notes queued, shared.Changed result.1 id operation notes queued) ∧
    (result.2.operation? = some id ∨ result.2 = .idle)

lemma Stays.ne_dismissed {result : Shared × Activity} (stays : Stays shared id result) :
    result.2 ≠ .dismissed := by
  intro dismissed
  rcases stays.2 with goesOn | rests
  · rw [dismissed] at goesOn
    cases goesOn
  · rw [dismissed] at rests
    cases rests

section

variable (h : id < shared.operations.length)
include h

@[simp]
lemma stays_same (activity : Activity) :
    Stays shared id (shared, activity) ↔ activity.operation? = some id ∨ activity = .idle :=
  and_iff_right ⟨_, _, _, .refl h⟩

@[simp]
lemma stays_onDisk (disk : Disk) (activity : Activity) :
    Stays shared id ({ shared with disk := disk }, activity) ↔
      activity.operation? = some id ∨ activity = .idle :=
  and_iff_right ⟨_, _, _, .onDisk h disk⟩

omit h in
@[simp]
lemma stays_setUpload (upload : Multipart.Upload) (activity : Activity) :
    Stays shared id (shared.setUpload id upload, activity) ↔
      activity.operation? = some id ∨ activity = .idle :=
  and_iff_right ⟨_, _, _, .ofUpload upload⟩

omit h in
@[simp]
lemma stays_setDownload (download : Multipart.Download) (activity : Activity) :
    Stays shared id (shared.setDownload id download, activity) ↔
      activity.operation? = some id ∨ activity = .idle :=
  and_iff_right ⟨_, _, _, .ofDownload download⟩

lemma stays_note {event : Event} (activity : Activity) (own : event.operation? = some id)
    (quiet : ∀ operation message, event ≠ .settled operation message) :
    Stays shared id (shared.note event, activity) ↔
      activity.operation? = some id ∨ activity = .idle :=
  and_iff_right ⟨_, _, _, .ofNote h shared.disk own quiet⟩

lemma stays_note_onDisk (disk : Disk) {event : Event} (activity : Activity)
    (own : event.operation? = some id)
    (quiet : ∀ operation message, event ≠ .settled operation message) :
    Stays shared id ({ shared with disk := disk }.note event, activity) ↔
      activity.operation? = some id ∨ activity = .idle :=
  and_iff_right ⟨_, _, _, .ofNote h disk own quiet⟩

end

end Shared

open Activity

namespace Activity

lemma ne_dismissed {activity : Activity} {id : OperationId}
    (owns : activity.operation? = some id) : activity ≠ .dismissed := by
  rintro rfl
  cases owns

/-- Whether a worker may change the state of its operation in its turn. -/
def revises : Activity → Bool
  | .starting .. | .reporting .. | .feeding .. | .deferring .. => true
  | _ => false

/-- Whether an activity is of the given operation, or the worker is idle after it. -/
lemma operation?_call (id : OperationId) (errand : Errand) (store : StoreName)
    (made : Except Failure Call) : (call id errand store made).operation? = some id := by
  cases made <;> rfl

lemma operation?_afterTransfer (operation : Operation) (id : OperationId) :
    (afterTransfer operation id).operation? = some id := by
  unfold afterTransfer
  split <;> rfl

lemma afterReport_operation? (id : OperationId) (step : Multipart.NextStep) :
    (afterReport id step).operation? = some id ∨ afterReport id step = .idle := by
  cases step <;> simp [afterReport, operation?]

end Activity

namespace Shared

variable {shared : Shared} {id : OperationId}

lemma operation?_afterReply (operation : Operation) (errand : Errand) (reply : Reply) :
    (afterReply operation id errand reply).operation? = some id := by
  unfold afterReply
  split <;> try rfl
  · exact operation?_afterTransfer ..
  · exact operation?_afterTransfer ..
  · split <;> rfl
  · split <;> rfl

lemma operation?_afterFailure (errand : Errand) (error : Failure) :
    (afterFailure id errand error).operation? = some id := by
  cases errand <;> rfl

lemma operation?_afterPanic (errand : Errand) (message : String) :
    (afterPanic id errand message).operation? = some id := by
  cases errand <;> rfl

section

variable (h : id < shared.operations.length)
include h

attribute [local simp] Activity.operation? Event.operation? withoutState stays_note
  stays_note_onDisk

lemma stays_start (chore : Chore) : Stays shared id (shared.start id chore) := by
  cases chore with
  | singleUpload =>
      simp only [start, startSingleUpload, stays_same h]
      repeat' split
      all_goals simp
  | createUpload =>
      simp only [start, startCreate]
      split
      · simp [h]
      · split
        · simp [h]
        · split <;> simp
  | uploadPart range | copyPart range =>
      simp only [start, startPart]
      split
      · simp [h]
      · split
        · simp [h]
        · simp
        · simp only [stays_setUpload]
          repeat' split
          all_goals simp
  | completeUpload =>
      simp only [start, startComplete, stays_same h]
      repeat' split
      all_goals simp
  | abortUpload =>
      simp only [start, startAbort, stays_same h]
      repeat' split
      all_goals simp
  | createLocalFile =>
      simp only [start, startLocalFile]
      split
      · simp [h]
      · simp [h]
      · split
        · exact (stays_note_onDisk h _ _ rfl (by simp)).2 (.inl rfl)
        · simp [h]
  | downloadPart range =>
      simp only [start, startDownloadPart]
      split
      · simp [h]
      · split
        · simp [h]
        · split <;> simp
  | completeDownload =>
      simp only [start, startFinish]
      split
      · simp [h]
      · simp [h]
      · split <;> simp
  | delete =>
      simp only [start, startDelete]
      split
      · split
        · exact (stays_note_onDisk h _ _ rfl (by simp)).2 (.inl rfl)
        · simp [h]
      · exact (stays_same h _).2 (.inl (operation?_call ..))
  | copy | download | removeBucket => exact (stays_same h _).2 (.inl (operation?_call ..))

lemma stays_report (given : Report) : Stays shared id (shared.report id given) := by
  unfold report
  dsimp only
  split
  · cases given with
    | partDone range tag =>
        simp only [reportUpload, stays_setUpload]
        split
        · simp
        · exact afterReport_operation? ..
    | completed => exact (stays_setUpload ..).2 (.inl (operation?_afterTransfer ..))
    | partLost | completionFailed => exact (stays_setUpload ..).2 (afterReport_operation? ..)
    | opened | partWritten => exact (stays_same h _).2 (.inr rfl)
    | _ => simp [reportUpload]
  · cases given with
    | partWritten range =>
        simp only [reportDownload, stays_setDownload]
        split <;> simp
    | partLost side error began =>
        simp only [reportDownload, stays_setDownload]
        split <;> simp
    | opened => simp [reportDownload]
    | _ => exact (stays_same h _).2 (.inr rfl)
  · simp [h]

lemma stays_feed (side : Side) : Stays shared id (shared.feed id side) := by
  cases side
  all_goals
    unfold feed
    dsimp only
    split <;> simp [h]

lemma stays_defer (side : Side) (index : Nat) : Stays shared id (shared.defer id side index) := by
  cases side
  all_goals
    unfold defer
    dsimp only
    split <;> simp [h]

lemma stays_accept {chore : Chore} {label : String} {queue : Queue Job}
    (pushed : queue = shared.queue.push .immediate (.run ⟨id, chore⟩)) (activity : Activity) :
    Stays shared id (shared.accept ⟨.run ⟨id, chore⟩, .immediate, label⟩ queue, activity) ↔
      activity.operation? = some id ∨ activity = .idle :=
  and_iff_right ⟨_, _, _, .ofAccept h pushed⟩

lemma stays_offer (side : Side) (index : Nat) (policy : Policy) :
    Stays shared id (shared.offer id side index policy) := by
  unfold offer
  dsimp only
  split
  · next queue accepted =>
      exact (stays_accept h (Queue.eq_push_of_insert accepted) _).2 (.inl rfl)
  · simp [h]
  · simp [h]

lemma stays_force (side : Side) (index : Nat) (policy : Policy) :
    Stays shared id (shared.force id side index policy) := by
  unfold force
  dsimp only
  split
  · next queue accepted =>
      exact (stays_accept h (Queue.eq_push_of_insertAnyway accepted) _).2 (.inr rfl)
  · simp [h]
  · simp [h]

lemma stays_follow (followUp : FollowUp) (policy : Policy) :
    Stays shared id (shared.follow id followUp policy) := by
  unfold follow
  dsimp only
  split
  · next queue accepted =>
      exact (stays_accept h (Queue.eq_push_of_insertAnyway accepted) _).2 (.inr rfl)
  · simp [h]
  · cases followUp <;> simp [afterRefusal, h]

lemma stays_save (path : LocalPath) (body : Reader) :
    Stays shared id (shared.save id path body) := by
  unfold save
  split
  · exact (stays_note_onDisk h _ _ rfl (by simp)).2 (.inl rfl)
  · simp [h]

lemma stays_write (extent : Extent) (path : LocalPath) (file : FileId) (offset : Nat)
    (body : Reader) : Stays shared id (shared.write id extent path file offset body) := by
  have written : (afterWrite id extent path).operation? = some id := by cases extent <;> rfl
  have unwritten (cause : IoCause) :
      (afterWriteFailure id extent path cause).operation? = some id := by
    cases extent <;> rfl
  unfold write
  split
  · exact (stays_same h _).2 (.inl written)
  · simp [h]
  · exact (stays_same h _).2 (.inl (unwritten _))
  · split
    · exact (stays_same h _).2 (.inl written)
    · refine (stays_note_onDisk h _ _ rfl (by simp)).2 ?_
      split
      · exact .inl (unwritten _)
      · simp

lemma stays_readPart (range : PartSpan) (uploadId : String) :
    Stays shared id (shared, shared.readPart id range uploadId) := by
  rw [stays_same h]
  unfold readPart
  dsimp only
  split
  · split <;> simp
  · simp
  · simp

lemma stays_receive (errand : Errand) (store : StoreName) (made : Call) (answer : Answer) :
    Stays shared id (shared.receive id errand store made answer) := by
  refine (stays_note h _ rfl (by simp)).2 ?_
  split
  · exact .inl (operation?_afterReply ..)
  · exact .inl (operation?_afterFailure ..)
  · exact .inl (operation?_afterPanic ..)

lemma stays_stamp (path : LocalPath) : Stays shared id (shared.stamp id path) := by
  unfold stamp
  dsimp only
  have own := operation?_afterTransfer (shared.operation id) id
  split
  · exact (stays_same h _).2 (.inl own)
  · split
    · exact (stays_onDisk h _ _).2 (.inl own)
    · exact (stays_same h _).2 (.inl own)

/-- A step of a worker changes nothing but the operation that it works on. -/
theorem stays_of_work {surroundings : Surroundings} {activity : Activity}
    {result : Shared × Activity} (own : activity.operation? = some id)
    (work : shared.work surroundings activity = some result) : Stays shared id result := by
  cases activity
  case idle => cases own
  case dismissed => cases own
  all_goals
    obtain rfl := Option.some.inj own
    obtain rfl := Option.some.inj work
  case starting => exact stays_start h _
  case reading => exact stays_readPart h ..
  case sending => exact (stays_note h _ rfl (by simp)).2 (.inl rfl)
  case awaiting => exact stays_receive h ..
  case reporting => exact stays_report h _
  case feeding => exact stays_feed h _
  case offering => exact stays_offer h ..
  case deferring => exact stays_defer h ..
  case forcing => exact stays_force h ..
  case following => exact stays_follow h ..
  case saving => exact stays_save h ..
  case writing => exact stays_write h ..
  case stamping => exact stays_stamp h _
  case discarding => exact (stays_note_onDisk h _ _ rfl (by simp)).2 (.inl rfl)
  case settling => exact ⟨⟨_, _, _, .ofSettle h _⟩, .inr rfl⟩

end

/-- A worker leaves all operations as they are, unless it is at one of the few activities that
change them. -/
lemma operations_of_work {surroundings : Surroundings} {activity : Activity}
    {result : Shared × Activity} (frame : activity.revises = false)
    (work : shared.work surroundings activity = some result) :
    result.1.operations = shared.operations := by
  cases activity
  case starting | reporting | feeding | deferring => cases frame
  case dismissed => cases work
  case idle =>
    simp only [Shared.work] at work
    split at work
    · obtain rfl := Option.some.inj work
      rfl
    · split at work
      · obtain rfl := Option.some.inj work
        rfl
      · cases work
  all_goals obtain rfl := Option.some.inj work
  case offering | forcing | following =>
    simp only [offer, force, follow]
    split <;> rfl
  case saving =>
    simp only [save]
    split <;> rfl
  case writing =>
    simp only [write]
    repeat' split
    all_goals rfl
  case stamping =>
    simp only [stamp]
    repeat' split
    all_goals rfl
  all_goals rfl

end Shared
end Pool
end BulkTransfer
