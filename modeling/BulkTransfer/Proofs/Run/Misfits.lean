import BulkTransfer.Proofs.Run.ScheduledMoves
import BulkTransfer.Proofs.Run.Fitting

/-!
# No misfits

A task that fits its operation does not end in a misfit (`Pool.Activity.Fits.misfits`). As a record
that is accepted gets only tasks that fit, a misfit is reported of it only if a store has answered
with one (`Run.tasks_fit`).
-/

namespace BulkTransfer

open Pool

namespace Disk

variable {disk after : Disk} {path : LocalPath} {error : Failure} {text : String}

/-- The file system has its own failures. -/
lemma openNew_ne_misfit (failed : disk.openNew path = (.error error, after)) :
    error ≠ .invalidRecord text := by
  unfold openNew makeParent at failed
  rintro rfl
  split at failed
  · next made =>
      cases failed
      split at made
      · cases made
      · next parent given =>
          cases result : (disk.makeDirectories parent).1 <;>
            simp [result, Except.mapError] at made
  · split at failed <;> cases failed

lemma readSlice_ne_misfit {offset length : Nat}
    (failed : disk.readSlice path offset length = .error error) : error ≠ .invalidRecord text := by
  unfold readSlice at failed
  rintro rfl
  dsimp only at failed
  repeat' split at failed
  all_goals cases failed

end Disk

lemma Queue.insertAnyway_ne_misfit {α : Type} {queue : Queue α} {entry : Entry α}
    {verdict : Option String} {error : Failure} {text : String}
    (refused : queue.insertAnyway entry verdict = .refused error) :
    error ≠ .invalidRecord text := by
  unfold insertAnyway at refused
  rintro rfl
  repeat' split at refused
  all_goals cases refused

lemma Queue.insert_ne_misfit {α : Type} {queue : Queue α} {entry : Entry α}
    {verdict : Option String} {error : Failure} {text : String}
    (refused : queue.insert entry verdict = .refused error) : error ≠ .invalidRecord text := by
  unfold insert at refused
  split at refused
  · split at refused <;> cases refused
  · exact insertAnyway_ne_misfit refused

namespace Pool

variable {planned operation : Operation} {shared : Shared} {id : OperationId}

lemma Operation.Keeps.moves (keeps : planned.Keeps operation) {side : Side}
    (moves : planned.MovesParts side) : operation.MovesParts side := by
  cases side <;>
    simp only [Operation.MovesParts, Operation.isOk_objectRead, Operation.isOk_objectWritten,
      Operation.isOk_fileWritten, keeps.record] at moves ⊢ <;>
    exact ⟨keeps.parts _ moves.1, moves.2⟩

/-- What fits an operation as it was planned fits it at any time. -/
lemma Chore.Fits.keep {chore : Chore} (fits : chore.Fits planned)
    (keeps : planned.Keeps operation) : chore.Fits operation := by
  cases chore
  case uploadPart | copyPart =>
    refine ⟨keeps.moves fits.1, ?_⟩
    simpa [keeps.record] using fits.2
  case createUpload | completeUpload | abortUpload =>
    exact keeps.moves (show planned.MovesParts .upload from fits)
  case createLocalFile | downloadPart | completeDownload =>
    exact keeps.moves (show planned.MovesParts .download from fits)
  all_goals simpa [Chore.Fits, keeps.record] using fits

lemma Errand.Fits.keep {errand : Errand} (fits : errand.Fits planned)
    (keeps : planned.Keeps operation) : errand.Fits operation := by
  cases errand
  case create | part | complete | abort =>
    exact keeps.moves (show planned.MovesParts .upload from fits)
  case fetchPart => exact keeps.moves (show planned.MovesParts .download from fits)
  case fetch => simpa [Errand.Fits, keeps.record] using fits
  all_goals exact trivial

lemma Activity.Fits.keep {activity : Activity} (fits : activity.Fits planned)
    (keeps : planned.Keeps operation) : activity.Fits operation := by
  cases activity
  case starting | following => exact Chore.Fits.keep fits keeps
  case reading =>
    refine ⟨keeps.moves fits.1, ?_⟩
    simpa [keeps.record] using fits.2
  case sending =>
    refine ⟨Errand.Fits.keep fits.1 keeps, ?_⟩
    have placed := fits.2
    unfold Call.Placed at placed ⊢
    rwa [keeps.record, keeps.store, keeps.sourceStore]
  case awaiting => exact Errand.Fits.keep fits keeps
  case reporting report =>
    exact keeps.moves (show planned.MovesParts (Shared.sideOf report) from fits)
  case feeding side | offering side _ | deferring side _ | forcing side _ =>
    exact keeps.moves (show planned.MovesParts side from fits)
  case writing extent _ _ _ _ =>
    cases extent with
    | whole => exact trivial
    | part => exact keeps.moves (show planned.MovesParts .download from fits)
  all_goals exact trivial

/-- The failure that a hand is about to report. -/
def Activity.failure? : Activity → Option Failure
  | .settling _ (.failed error) | .discarding _ _ (.failed error) => some error
  | .reporting _ (.creationFailed error) | .reporting _ (.partLost _ error _) => some error
  | .reporting _ (.completionFailed error) => some error
  | _ => none

lemma failure?_afterTransfer (operation : Operation) :
    (Activity.afterTransfer operation id).failure? = none := by
  unfold Activity.afterTransfer
  split <;> rfl

/-- Whether a hand is about to report a misfit. -/
def Activity.Misfits (activity : Activity) (text : String) : Prop :=
  activity.failure? = some (.invalidRecord text)

instance (activity : Activity) (text : String) : Decidable (activity.Misfits text) :=
  inferInstanceAs (Decidable (_ = _))

variable {text : String}

/-- The text of a failure that is a misfit. -/
def Failure.misfit? : Failure → Option String
  | .invalidRecord text => some text
  | _ => none

lemma Activity.not_misfits {activity : Activity}
    (other : activity.failure?.bind Failure.misfit? = none) : ¬activity.Misfits text := by
  intro misfits
  rw [show activity.failure? = _ from misfits] at other
  cases other

lemma ok_of_isOk {ε α : Type} {result : Except ε α} (good : result.isOk = true) :
    ∃ value, result = .ok value := by
  cases result with
  | ok value => exact ⟨value, rfl⟩
  | error error => cases good

lemma Shared.not_misfits_startLocalFile (fits : (shared.operation id).MovesParts .download) :
    ¬(shared.startLocalFile id).2.Misfits text := by
  obtain ⟨has, -, written⟩ := fits
  obtain ⟨download, set⟩ := Option.isSome_iff_exists.1 has
  obtain ⟨path, written⟩ := ok_of_isOk written
  simp only [startLocalFile, set, written]
  split
  · exact Activity.not_misfits rfl
  · next error disk failed =>
      exact fun misfits => Disk.openNew_ne_misfit failed (Option.some.inj misfits)

/-- No task ends in a misfit that fits its operation. -/
lemma Shared.not_misfits_start {chore : Chore} (fits : chore.Fits (shared.operation id)) :
    ¬(shared.start id chore).2.Misfits text := by
  cases chore with
  | singleUpload =>
      obtain ⟨path, read⟩ := ok_of_isOk fits.1
      obtain ⟨object, written⟩ := ok_of_isOk fits.2
      simp only [start, startSingleUpload, read, written]
      split <;> exact Activity.not_misfits rfl
  | createUpload =>
      obtain ⟨upload, set⟩ := Option.isSome_iff_exists.1 fits.1
      obtain ⟨object, written⟩ := ok_of_isOk fits.2
      simp only [start, startCreate, set, Operation.createCall, written]
      split <;> exact Activity.not_misfits rfl
  | uploadPart range =>
      obtain ⟨upload, set⟩ := Option.isSome_iff_exists.1 fits.1.1
      obtain ⟨object, written⟩ := ok_of_isOk fits.1.2
      obtain ⟨path, read⟩ := ok_of_isOk fits.2
      simp only [start, startPart, set, read, written]
      split <;> exact Activity.not_misfits rfl
  | copyPart range =>
      obtain ⟨upload, set⟩ := Option.isSome_iff_exists.1 fits.1.1
      obtain ⟨object, written⟩ := ok_of_isOk fits.1.2
      obtain ⟨source, read⟩ := ok_of_isOk fits.2
      simp only [start, startPart, set, Operation.copyPartCall, read, written]
      split <;> exact Activity.not_misfits rfl
  | completeUpload =>
      obtain ⟨upload, set⟩ := Option.isSome_iff_exists.1 fits.1
      obtain ⟨object, written⟩ := ok_of_isOk fits.2
      simp only [start, startComplete, set, Operation.completeCall, written]
      split <;> exact Activity.not_misfits rfl
  | abortUpload =>
      obtain ⟨upload, set⟩ := Option.isSome_iff_exists.1 fits.1
      obtain ⟨object, written⟩ := ok_of_isOk fits.2
      simp only [start, startAbort, set, Operation.abortCall, written]
      split <;> exact Activity.not_misfits rfl
  | copy =>
      obtain ⟨source, read⟩ := ok_of_isOk fits.1
      obtain ⟨object, written⟩ := ok_of_isOk fits.2
      simp only [start, Operation.copyCall, read, written]
      exact Activity.not_misfits rfl
  | download =>
      obtain ⟨source, read⟩ := ok_of_isOk fits.1
      obtain ⟨path, written⟩ := ok_of_isOk fits.2
      simp only [start, Operation.fetchCall, read, written]
      exact Activity.not_misfits rfl
  | createLocalFile => exact not_misfits_startLocalFile fits
  | downloadPart range =>
      obtain ⟨download, set⟩ := Option.isSome_iff_exists.1 fits.1
      obtain ⟨source, read⟩ := ok_of_isOk fits.2.1
      simp only [start, startDownloadPart, set, Operation.fetchPartCall, read]
      split <;> exact Activity.not_misfits rfl
  | completeDownload =>
      obtain ⟨download, set⟩ := Option.isSome_iff_exists.1 fits.1
      obtain ⟨path, written⟩ := ok_of_isOk fits.2.2
      simp only [start, startFinish, set, written]
      split <;> exact Activity.not_misfits rfl
  | delete =>
      simp only [start, startDelete]
      split
      · split <;> exact Activity.not_misfits rfl
      · next absent =>
          have read : (shared.operation id).objectRead.isOk = true := by
            cases source : (shared.operation id).record.source <;>
              simp [source, Location.path?, Location.object?] at absent ⊢
          obtain ⟨source, read⟩ := ok_of_isOk read
          simp only [Operation.deleteCall, read]
          exact Activity.not_misfits rfl
  | removeBucket =>
      obtain ⟨source, read⟩ := ok_of_isOk fits
      simp only [start, Operation.removeBucketCall, read]
      exact Activity.not_misfits rfl

lemma Shared.not_misfits_readPart {range : PartSpan} {uploadId : String}
    (moves : (shared.operation id).MovesParts .upload)
    (reads : (shared.operation id).fileRead.isOk) :
    ¬(shared.readPart id range uploadId).Misfits text := by
  obtain ⟨object, written⟩ := ok_of_isOk moves.2
  obtain ⟨path, read⟩ := ok_of_isOk reads
  simp only [readPart, written, read]
  split
  · exact Activity.not_misfits rfl
  · next error failed =>
      exact fun misfits => Disk.readSlice_ne_misfit failed (Option.some.inj misfits)

lemma Shared.not_misfits_afterReply {errand : Errand} (fits : errand.Fits operation)
    (reply : Reply) : ¬(afterReply operation id errand reply).Misfits text := by
  unfold afterReply
  split
  case h_1 | h_2 =>
    refine Activity.not_misfits ?_
    rw [failure?_afterTransfer]
    rfl
  case h_3 =>
    obtain ⟨path, written⟩ := ok_of_isOk fits
    rw [written]
    exact Activity.not_misfits rfl
  case h_13 =>
    obtain ⟨path, written⟩ := ok_of_isOk fits.2.2
    rw [written]
    exact Activity.not_misfits rfl
  all_goals exact Activity.not_misfits rfl

/-- Whether a store has answered for an operation with the text of a misfit. -/
def Answered (id : OperationId) (text : String) (history : List Event) : Prop :=
  ∃ store call, .answered store id call (.failed (.invalidRecord text)) ∈ history

/-- Who waits for an answer reports a misfit only if the store does. -/
lemma Shared.answered_of_misfits {errand : Errand} {store : StoreName} {call : Call}
    {answer : Answer} (fits : errand.Fits (shared.operation id))
    (misfits : (shared.receive id errand store call answer).2.Misfits text) :
    Answered id text ((shared.receive id errand store call answer).1.history id) := by
  have same : Shared.seen call answer = .failed (.invalidRecord text) := by
    unfold receive at misfits
    dsimp only at misfits
    split at misfits
    · exact absurd misfits (not_misfits_afterReply fits _)
    · next error failed =>
        rw [failed]
        cases errand
        case abort => cases misfits
        all_goals exact congrArg Answer.failed (Option.some.inj misfits)
    · unfold afterPanic at misfits
      split at misfits <;> cases misfits
  refine ⟨store, call, ?_⟩
  simp only [receive, history_note, same, Event.operation?, if_true]
  exact List.mem_cons_self

/-- The turn of a hand that fits its operation ends in no misfit, but for one that the hand was to
report already or that a store has answered with. -/
theorem Activity.Fits.misfits {surroundings : Surroundings} {activity : Activity}
    {result : Shared × Activity} (own : activity.operation? = some id)
    (fits : activity.Fits (shared.operation id))
    (work : shared.work surroundings activity = some result) (misfits : result.2.Misfits text) :
    activity.Misfits text ∨ Answered id text (result.1.history id) := by
  have follows := Shared.follows_of_work own work
  cases activity
  case idle | dismissed => cases own
  all_goals
    obtain rfl := Option.some.inj own
    obtain rfl := Option.some.inj work
  case starting => exact absurd misfits (Shared.not_misfits_start fits)
  case reading => exact absurd misfits (Shared.not_misfits_readPart fits.1 fits.2)
  case awaiting errand store call =>
    exact .inr (Shared.answered_of_misfits fits misfits)
  case offering =>
    unfold Shared.offer at misfits
    dsimp only at misfits
    split at misfits
    · cases misfits
    · cases misfits
    · next refused => exact absurd (Option.some.inj misfits) (Queue.insert_ne_misfit refused)
  case forcing =>
    unfold Shared.force at misfits
    dsimp only at misfits
    split at misfits
    · cases misfits
    · cases misfits
    · next refused => exact absurd (Option.some.inj misfits) (Queue.insertAnyway_ne_misfit refused)
  case following followUp =>
    unfold Shared.follow at misfits
    dsimp only at misfits
    split at misfits
    · cases misfits
    · cases misfits
    · next refused =>
        cases followUp
        case complete | delete =>
          exact absurd (Option.some.inj misfits) (Queue.insertAnyway_ne_misfit refused)
        all_goals cases misfits
  case saving =>
    unfold Shared.save at misfits
    split at misfits
    · cases misfits
    · next failed => exact absurd (Option.some.inj misfits) (Disk.openNew_ne_misfit failed)
  case reporting report =>
    generalize (shared.report _ report).2 = later at follows misfits
    cases follows
    case settlesUncreated => exact .inl misfits
    case transferred =>
      rw [Activity.Misfits, failure?_afterTransfer] at misfits
      cases misfits
    all_goals cases misfits
  case stamping path =>
    generalize (shared.stamp _ path).2 = later at follows misfits
    cases follows
    rw [Activity.Misfits, failure?_afterTransfer] at misfits
    cases misfits
  case discarding outcome => cases outcome <;> exact .inl misfits
  case writing extent path file offset body =>
    generalize (shared.write _ extent path file offset body).2 = later at follows misfits
    cases follows <;> cases extent <;> cases misfits
  case feeding side | deferring side index =>
    generalize later : Prod.snd _ = activity at follows misfits
    cases follows <;> cases misfits
  case sending | settling => cases misfits

/-! ## In every run -/

namespace Shared

/-- Whether an operation has the state of its parts after a turn if it had it before. -/
def KeepsParts (before after : Shared) (id : OperationId) : Prop :=
  ∀ side, (before.operation id).HasParts side → (after.operation id).HasParts side

lemma keepsParts_of_operations {after : Shared} (same : after.operations = shared.operations) :
    shared.KeepsParts after id := by
  intro side has
  rwa [operation, same]

section

variable (inside : id < shared.operations.length)
include inside

lemma keepsParts_setUpload (upload : Multipart.Upload) :
    shared.KeepsParts (shared.setUpload id upload) id := by
  intro side has
  rw [operation_setUpload inside]
  cases side with
  | upload => rfl
  | download => exact has

lemma keepsParts_setDownload (download : Multipart.Download) :
    shared.KeepsParts (shared.setDownload id download) id := by
  intro side has
  rw [operation_setDownload inside]
  cases side with
  | upload => exact has
  | download => rfl

lemma keepsParts_of_work {surroundings : Surroundings} {activity : Activity}
    {result : Shared × Activity} (own : activity.operation? = some id)
    (work : shared.work surroundings activity = some result) :
    shared.KeepsParts result.1 id := by
  cases activity
  case starting chore =>
    obtain rfl := Option.some.inj own
    obtain rfl := Option.some.inj work
    cases chore <;> simp only [start, startCreate, startPart, startLocalFile, startDownloadPart,
      startFinish, startDelete]
    all_goals
      repeat' split
      all_goals
        first
        | exact keepsParts_of_operations rfl
        | exact keepsParts_setUpload inside _
        | exact keepsParts_setDownload inside _
  case reporting given =>
    obtain rfl := Option.some.inj own
    obtain rfl := Option.some.inj work
    unfold report
    dsimp only
    split
    · cases given <;>
        first
        | exact keepsParts_of_operations rfl
        | exact keepsParts_setUpload inside _
    · cases given <;>
        first
        | exact keepsParts_of_operations rfl
        | exact keepsParts_setDownload inside _
    · exact keepsParts_of_operations rfl
  case feeding side | deferring side _ =>
    obtain rfl := Option.some.inj own
    obtain rfl := Option.some.inj work
    cases side <;> simp only [feed, defer] <;> split <;>
      first
      | exact keepsParts_of_operations rfl
      | exact keepsParts_setUpload inside _
      | exact keepsParts_setDownload inside _
  all_goals exact keepsParts_of_operations (operations_of_work rfl work)

end
end Shared

/-- What holds at any time of an operation whose tasks fit it, `planned` being what it was planned
as. -/
structure View.Fits (planned : Operation) (id : OperationId) (view : View) : Prop where
  keeps : planned.Keeps view.operation
  proposed : ∀ chore, view.proposed = some chore → chore.Fits planned
  hands : ∀ hand ∈ view.hands, hand.Fits planned
  history : ∀ event ∈ view.history, event.Fits planned
  sound : ∀ hand ∈ view.hands, ∀ text, hand.Misfits text → Answered id text view.history

/-- Whether the tasks of an operation fit it, as far as it was planned with a given record and
stores. -/
def View.Fitting (given : Operation) (id : OperationId) (view : View) : Prop :=
  ∃ planned : Operation, planned.record = given.record ∧ planned.store = given.store ∧
    planned.sourceStore = given.sourceStore ∧ view.Fits planned id

end Pool

namespace Run

variable {batch : Batch} {disk : Disk} {records : List Record} {moves : List Move} {run next : Run}
  {move : Move} {id : OperationId} {record : Record} {planned : Operation}

/-- A step leaves an operation what it was planned as. -/
lemma Seen.keeps (seen : run.Seen next move id) (inside : id < run.shared.operations.length)
    (keeps : planned.Keeps (run.shared.operation id)) :
    planned.Keeps (next.view id).operation := by
  have same := seen.operation_eq inside
  refine ⟨?_, ?_, ?_, fun side has => ?_⟩
  · rw [same]
    exact keeps.record
  · rw [same]
    exact keeps.store
  · rw [same]
    exact keeps.sourceStore
  · cases seen with
    | same view => rw [view]; exact keeps.parts side has
    | admitted _ _ _ view | refused _ _ _ _ view => rw [view]; exact keeps.parts side has
    | turned activity later rest index actor working own hands work view =>
        exact Shared.keepsParts_of_work inside own work side (keeps.parts side has)

/-- Every step goes on with hands that report no misfit but of a store. -/
lemma sound_step (inside : id < run.shared.operations.length)
    (before : (run.view id).Fits planned id) (seen : run.Seen next move id) :
    ∀ hand ∈ (next.view id).hands, ∀ text, hand.Misfits text →
      Answered id text (next.view id).history := by
  have sound : ∀ hand ∈ run.hands id, ∀ text, hand.Misfits text →
      Answered id text (run.shared.history id) := before.sound
  cases seen with
  | same view => rwa [view]
  | admitted chore given disk view =>
      rw [view]
      intro hand (present : hand ∈ Activity.starting id chore ::ₘ run.hands id) text misfits
      rcases Multiset.mem_cons.1 present with rfl | old
      · cases misfits
      · exact sound hand old text misfits
  | refused chore error given shared view =>
      rw [view]
      intro hand present text misfits
      obtain ⟨store, call, answered⟩ := sound hand present text misfits
      exact ⟨store, call, .tail _ answered⟩
  | turned hand later rest index actor working own split work view =>
      obtain ⟨operation, noted, queued, changed⟩ := (Shared.stays_of_work inside own work).1
      have mine : hand ∈ run.hands id := split ▸ Multiset.mem_cons_self hand rest
      have history : next.shared.history id = noted ++ run.shared.history id := by
        rw [changed.history, if_pos rfl]
      have grown {text : String} (old : Answered id text (run.shared.history id)) :
          Answered id text (noted ++ run.shared.history id) := by
        obtain ⟨store, call, answered⟩ := old
        exact ⟨store, call, List.mem_append_right _ answered⟩
      rw [view operation noted queued changed]
      intro other present text misfits
      rcases Multiset.mem_add.1 present with new | old
      · rcases Activity.mem_leaves new with ⟨rfl, -⟩ | ⟨chore, rfl, rfl⟩
        · have fits := (before.hands hand mine).keep before.keeps
          rcases fits.misfits own work misfits with again | answered
          · exact grown (sound hand mine text again)
          · rwa [history] at answered
        · cases misfits
      · exact grown (sound other (split ▸ Multiset.mem_cons_of_mem old) text misfits)

/-- Every step of a run goes on with an operation that its tasks fit. -/
lemma fits_step (inside : id < run.shared.operations.length)
    (buckets : planned.record.HasBuckets) (before : (run.view id).Fits planned id)
    (seen : run.Seen next move id) : (next.view id).Fits planned id := by
  obtain ⟨hands, history⟩ := @Seen.each run next move id (·.Fits planned) (·.Fits planned) seen
    inside before.proposed before.hands before.history (fun _ => trivial)
    (fun hand later fits _ own work => fits.turn own before.keeps buckets work)
    (fun hand chore fits queues => fits.queues before.keeps queues)
    (fun hand event fits notes => fits.notes notes)
  exact ⟨seen.keeps inside before.keeps,
    fun chore first => before.proposed chore (seen.proposed_of inside first), hands, history,
    sound_step inside before seen⟩

/-- In every run the tasks of a record that is accepted fit its operation. -/
lemma fitting_of_steps {action : Action} (listed : records[id]? = some record)
    (accepted : record.action = .ok action)
    (reached : (batch.start disk records).steps moves = some run)
    (inside : id < run.shared.operations.length) :
    (run.view id).Fitting (batch.plan.operationFor record) id := by
  have begun (view : View) (begins : Begins batch.plan record id view) :
      view.Fitting (batch.plan.operationFor record) id := by
    cases begins with
    | proposed operation chore resolved begun =>
        rw [begun]
        have fits : View.Fits operation id ⟨operation, some chore, 0, []⟩ :=
          ⟨⟨rfl, rfl, rfl, fun _ has => has⟩,
            fun other first => Option.some.inj first ▸ fits_of_resolve resolved, no_hand,
            List.forall_mem_nil _, no_hand⟩
        have same : operation.record = record ∧
            operation.store = (batch.plan.operationFor record).store ∧
            operation.sourceStore = (batch.plan.operationFor record).sourceStore := by
          cases planned_of_resolve resolved <;> exact ⟨rfl, rfl, rfl⟩
        exact ⟨operation, same.1, same.2.1, same.2.2, fits⟩
    | refused error tally resolved begun =>
        rw [begun]
        exact ⟨batch.plan.operationFor record, rfl, rfl, rfl, ⟨rfl, rfl, rfl, fun _ has => has⟩,
          nofun, no_hand, List.forall_mem_singleton.2 trivial, no_hand⟩
  refine each_course listed begun (fun run move next inside before seen => ?_) reached inside
  obtain ⟨planned, same, store, sourceStore, fits⟩ := before
  have accepts : (batch.plan.operationFor record).record.HasBuckets :=
    Record.hasBuckets_of_action accepted
  exact ⟨planned, same, store, sourceStore, fits_step inside (same ▸ accepts) fits seen⟩

/-- Nothing is proposed for an operation that is not there yet. -/
lemma Sound.proposed_of_absent (sound : run.Sound records)
    (absent : run.shared.operations.length ≤ id) : run.proposed id = none := by
  rw [Run.proposed, Option.map_eq_none_iff, Option.filter_eq_none_iff]
  intro task proposed about
  have known := sound.entry
  cases stage : run.planner <;> rw [stage] at proposed known
  case proposing own entry rest | entering entry rest =>
    obtain ⟨-, other, item, inside⟩ := known entry rfl
    simp only [PlannerStage.proposed?, item, Option.some.injEq] at proposed
    subst proposed
    have same : other.operation = id := of_decide_eq_true about
    exact absurd (same ▸ inside) (Nat.not_lt.2 absent)
  all_goals cases proposed

/-- Whatever happens in a run, a record that is accepted gets only tasks that find what they need:
what is about to be queued, what waits in the queue, and what a worker is at. So none of them
reports a misfit, unless a store has answered with one. Each call names the source or the
destination of the record, in a bucket; one to the destination goes to the store of the operation,
and one to fetch or to delete the source to the store of its side. -/
theorem tasks_fit {action : Action} (listed : records[id]? = some record)
    (accepted : record.action = .ok action)
    (reached : (batch.start disk records).steps moves = some run) :
    (∀ chore, run.proposed id = some chore → chore.Fits (run.shared.operation id)) ∧
      (∀ hand ∈ run.hands id, hand.Fits (run.shared.operation id)) ∧
      (∀ hand ∈ run.hands id, ∀ text, hand.Misfits text →
        Answered id text (run.shared.history id)) ∧
      ∀ store call, .called store id call ∈ run.shared.history id →
        call.Placed (batch.plan.operationFor record) store := by
  by_cases inside : id < run.shared.operations.length
  · obtain ⟨planned, same, store, sourceStore, fits⟩ :=
      fitting_of_steps listed accepted reached inside
    have keeps : planned.Keeps (run.shared.operation id) := fits.keeps
    have back : (batch.plan.operationFor record).Keeps planned :=
      ⟨same, store, sourceStore, fun side has => by cases side <;> cases has⟩
    exact ⟨fun chore first => (fits.proposed chore first).keep keeps,
      fun hand present => (fits.hands hand present).keep keeps, fits.sound,
      fun store call called => back.placed (fits.history _ called)⟩
  · obtain ⟨idle, silent⟩ := (sound_of_steps reached).1.known id (Nat.le_of_not_lt inside)
    rw [idle, silent, (sound_of_steps reached).1.proposed_of_absent (Nat.le_of_not_lt inside)]
    exact ⟨nofun, no_hand, no_hand, nofun⟩

/-- The small batch copies the second of two bytes by a call in its place. -/
theorem smallCopy_tasks_fit :
    Batch.smallCopy.action = .ok .copy ∧
      .called "store" 0
          (.copyPart ⟨"bucket", "target"⟩ "upload-id" 2 "bucket/source" "bytes=1-1") ∈
        (Batch.smallRun { answersAll := true } Disk.empty Batch.smallCopy).shared.history 0 ∧
      (Call.copyPart ⟨"bucket", "target"⟩ "upload-id" 2 "bucket/source" "bytes=1-1").Placed
        (Batch.small.plan.operationFor Batch.smallCopy) "store" := by
  have listed : [Batch.smallCopy][0]? = some Batch.smallCopy := rfl
  have accepted : Batch.smallCopy.action = .ok .copy := rfl
  have reached := Batch.steps_smallMoves { answersAll := true } Disk.empty Batch.smallCopy
  have called : .called "store" 0
      (.copyPart ⟨"bucket", "target"⟩ "upload-id" 2 "bucket/source" "bytes=1-1") ∈
        (Batch.smallRun { answersAll := true } Disk.empty Batch.smallCopy).shared.history 0 := by
    decide +kernel
  exact ⟨accepted, called, (tasks_fit listed accepted reached).2.2.2 _ _ called⟩

end Run
end BulkTransfer
