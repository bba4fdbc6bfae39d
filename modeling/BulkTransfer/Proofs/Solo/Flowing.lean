import BulkTransfer.Proofs.Download.Turn
import BulkTransfer.Proofs.Run.Follows
import BulkTransfer.Proofs.Run.TurnEvents
import BulkTransfer.Proofs.Solo.Orderly
import BulkTransfer.Proofs.Upload.Course

/-!
# The parts of an operation, from their opening to their end

What a turn does to the parts of an operation on which no other hand is at work: the hand that opens
them goes on, fails, or comes to feed them (`Pool.opened_of_work`); one that reports a part that has
succeeded goes on to feed them, or has closed them (`Pool.finished_of_work`); and one that reports a
part that was lost has closed them (`Pool.lost_of_work`). Once they are closed, the parts that are
left in the queue are skipped (`Pool.Operation.skips_of_endClaimed`).
-/

namespace BulkTransfer

open Pool Multipart

namespace Pool

/-- The side whose parts are being opened in an activity. -/
def Activity.opens? : Activity → Option Side
  | .starting _ .createUpload | .sending _ .create .. | .awaiting _ .create .. => some .upload
  | .reporting _ (.created _) => some .upload
  | .starting _ .createLocalFile | .reporting _ (.opened _) => some .download
  | _ => none

/-- Whether an activity is the rest after an operation, or leads one on or to a follow-up, other
than by opening its parts. -/
inductive Activity.Ends (id : OperationId) : Activity → Prop where
  | rests : Ends id .idle
  | follows (followUp : FollowUp) : Ends id (.following id followUp)
  | leads {activity : Activity} (effective : activity.isEffective = true)
      (lead : activity.role? = none) (opens : activity.opens? = none) : Ends id activity

lemma Activity.ends_afterTransfer (operation : Operation) (id : OperationId) :
    (afterTransfer operation id).Ends id := by
  unfold afterTransfer
  split
  · exact .follows _
  · exact .leads rfl rfl rfl

/-- What a hand that goes on alone leads to, unless it opens the parts. -/
lemma Follows.ends {shared : Shared} {id : OperationId} {activity later : Activity}
    (follows : Follows shared id activity later) (effective : activity.isEffective = true)
    (lead : activity.role? = none) (plain : activity.opens? = none) : later.Ends id := by
  cases follows
  case calls chore errand call store makes =>
    cases makes
    case create => exact absurd plain (Option.some_ne_none _)
    case copyPart | fetchPart => exact absurd lead (Option.some_ne_none _)
    all_goals exact .leads rfl rfl rfl
  case unmoved chore side part error =>
    cases chore
    case uploadPart | copyPart | downloadPart => exact absurd lead (Option.some_ne_none _)
    all_goals cases part
  case waits errand store call =>
    cases errand
    case create => exact absurd plain (Option.some_ne_none _)
    case part | fetchPart => exact absurd lead (Option.some_ne_none _)
    all_goals exact .leads rfl rfl rfl
  case lost errand side part store call error =>
    cases errand
    case part | fetchPart => exact absurd lead (Option.some_ne_none _)
    all_goals cases part
  case refills report part =>
    cases report
    case partDone | partWritten | partLost => exact absurd lead (Option.some_ne_none _)
    all_goals cases part
  case writes extent path file offset later delivery rest =>
    cases extent with
    | whole => exact .leads rfl rfl rfl
    | part range => exact absurd lead (Option.some_ne_none _)
  case written extent path file offset body spent =>
    cases extent with
    | whole => exact .leads rfl rfl rfl
    | part range => exact absurd lead (Option.some_ne_none _)
  case unwritten extent path file offset body cause =>
    cases extent with
    | whole => exact .leads rfl rfl rfl
    | part range => exact absurd lead (Option.some_ne_none _)
  all_goals first
    | exact .rests
    | exact .follows _
    | exact .leads rfl rfl rfl
    | exact Activity.ends_afterTransfer ..
    | exact absurd effective Bool.false_ne_true
    | exact absurd lead (Option.some_ne_none _)
    | exact absurd plain (Option.some_ne_none _)

/-- A part goes on being moved until that is reported. -/
lemma Follows.moves {shared : Shared} {id : OperationId} {activity later : Activity}
    {side : Side} (follows : Follows shared id activity later)
    (moves : activity.moves? = some side)
    (unreported : ∀ report, activity ≠ .reporting id report) : later.moves? = some side := by
  have none (noPart : activity.moves? = none) : later.moves? = some side := by
    rw [noPart] at moves
    cases moves
  cases follows
  case stored errand whole store call => rcases whole with rfl | rfl <;> exact none rfl
  case removed errand removes store call => rcases removes with rfl | rfl <;> exact none rfl
  case failed errand noPart store call error => exact none noPart
  case lost errand at_ part store call error => exact part.symm.trans moves
  case writes extent path file offset later delivery rest =>
    cases extent with
    | whole => exact none rfl
    | part range => exact moves
  case written extent path file offset body spent =>
    cases extent with
    | whole => exact none rfl
    | part range => exact moves
  case unwritten extent path file offset body cause =>
    cases extent with
    | whole => exact none rfl
    | part range => exact moves
  all_goals first
    | exact moves
    | exact none rfl
    | exact absurd rfl (unreported _)

/-- An activity at the operation leaves the queue as it is. -/
lemma queue_of_effective {shared after : Shared} {id : OperationId} {surroundings : Surroundings}
    {activity later : Activity} (own : activity.operation? = some id)
    (effective : activity.isEffective = true)
    (work : shared.work surroundings activity = some (after, later)) :
    after.queue = shared.queue := by
  cases Shared.noted_of_work own work with
  | nothing queue events => exact queue
  | noted event own queue events => exact queue
  | queued chore queues =>
      cases activity <;> first | exact absurd effective Bool.false_ne_true | cases queues

lemma Activity.lead_of_opens? {activity : Activity} {side : Side}
    (opens : activity.opens? = some side) :
    activity.isEffective = true ∧ activity.role? = none := by
  cases activity
  case starting chore => cases chore <;> first | exact ⟨rfl, rfl⟩ | cases opens
  case sending errand _ _ => cases errand <;> first | exact ⟨rfl, rfl⟩ | cases opens
  case awaiting errand _ _ => cases errand <;> first | exact ⟨rfl, rfl⟩ | cases opens
  case reporting report => cases report <;> first | exact ⟨rfl, rfl⟩ | cases opens
  all_goals cases opens

lemma Operation.moving_upload {operation : Operation} {upload next : Upload}
    (set : operation.upload = some upload) (same : next.chunksize = upload.chunksize) :
    { operation with upload := some next }.moving .upload = operation.moving .upload := by
  funext index
  simp [moving, Activity.partChore, span, chunksize, set, same]

lemma Operation.moving_download {operation : Operation} {download next : Download}
    (set : operation.download = some download) (same : next.chunksize = download.chunksize) :
    { operation with download := some next }.moving .download = operation.moving .download := by
  funext index
  simp [moving, Activity.partChore, span, chunksize, set, same]

/-! ## From the opening of the parts to their end -/

/-- What a turn leads to by which parts are opened that `total` of are to be moved to one side: it
goes on, or it has failed, or the parts are fed. -/
inductive Shared.Opened (shared after : Shared) (id : OperationId) (side : Side) (total : Nat)
    (later : Activity) : Prop where
  | opens (goes : later.opens? = some side)
      (fresh : (after.operation id).progress? side = some { total := total })
      (same : (after.operation id).moving side = (shared.operation id).moving side)
  | fails (ends : later.Ends id)
  | feeds (goes : later = .feeding id side)
      (flows : (after.operation id).Flows { total := total } side)
      (same : (after.operation id).moving side = (shared.operation id).moving side)

section

variable {shared after : Shared} {surroundings : Surroundings} {activity later : Activity}
  {id : OperationId} {total : Nat} (inside : id < shared.operations.length)

include inside in
lemma opened_of_createUpload
    (fresh : (shared.operation id).progress? .upload = some { total := total })
    (work : shared.work surroundings (.starting id .createUpload) = some (after, later)) :
    shared.Opened after id .upload total later := by
  obtain ⟨upload, set, progress⟩ := Option.map_eq_some_iff.1 fresh
  have started := Option.some.inj work
  simp only [Shared.start, Shared.startCreate, set, Upload.claimCreation?] at started
  by_cases first : upload.phase = .notStarted
  · rw [if_pos first] at started
    obtain ⟨rfl, rfl⟩ := Prod.mk.inj started
    split
    · refine .opens rfl ?_ ?_
      · rw [Shared.operation_setUpload inside]
        exact congrArg some progress
      · rw [Shared.operation_setUpload inside]
        exact Operation.moving_upload set rfl
    · exact .fails (.leads rfl rfl rfl)
  · rw [if_neg first] at started
    obtain ⟨rfl, rfl⟩ := Prod.mk.inj started
    exact .fails .rests

lemma opened_of_called {store : StoreName} {call : Call}
    (fresh : (shared.operation id).progress? .upload = some { total := total })
    (work : shared.work surroundings (.awaiting id .create store call) = some (after, later)) :
    shared.Opened after id .upload total later := by
  obtain ⟨rfl, next⟩ := Prod.mk.inj (Option.some.inj work)
  have next : Shared.afterAnswer (shared.operation id) id .create
      (Shared.seen call surroundings.answer) = later := next
  rcases @afterCreation id (shared.operation id) (Shared.seen call surroundings.answer) with
    ⟨uploadId, -, goes⟩ | ⟨-, ⟨error, goes⟩ | ⟨message, goes⟩⟩
  · obtain rfl := goes.symm.trans next
    exact .opens rfl fresh rfl
  · obtain rfl := goes.symm.trans next
    exact .fails (.leads rfl rfl rfl)
  · obtain rfl := goes.symm.trans next
    exact .fails (.leads rfl rfl rfl)

include inside in
lemma opened_of_created {uploadId : String}
    (fresh : (shared.operation id).progress? .upload = some { total := total })
    (work : shared.work surroundings (.reporting id (.created uploadId)) = some (after, later)) :
    shared.Opened after id .upload total later := by
  obtain ⟨upload, set, progress⟩ := Option.map_eq_some_iff.1 fresh
  have reported := Option.some.inj work
  rw [report_of_upload set rfl] at reported
  obtain ⟨rfl, rfl⟩ := Prod.mk.inj reported
  refine .feeds rfl ?_ ?_
  · rw [Shared.operation_setUpload inside]
    exact ⟨_, uploadId, rfl, rfl, rfl, progress⟩
  · rw [Shared.operation_setUpload inside]
    exact Operation.moving_upload set rfl

lemma opened_of_createLocalFile
    (fresh : (shared.operation id).progress? .download = some { total := total })
    (work : shared.work surroundings (.starting id .createLocalFile) = some (after, later)) :
    shared.Opened after id .download total later := by
  have started := Option.some.inj work
  simp only [Shared.start, Shared.startLocalFile] at started
  split at started
  · obtain ⟨rfl, rfl⟩ := Prod.mk.inj started
    exact .fails (.leads rfl rfl rfl)
  · obtain ⟨rfl, rfl⟩ := Prod.mk.inj started
    exact .fails (.leads rfl rfl rfl)
  · split at started
    · obtain ⟨rfl, rfl⟩ := Prod.mk.inj started
      exact .opens rfl fresh rfl
    · obtain ⟨rfl, rfl⟩ := Prod.mk.inj started
      exact .fails (.leads rfl rfl rfl)

include inside in
lemma opened_of_opened {file : FileId}
    (fresh : (shared.operation id).progress? .download = some { total := total })
    (work : shared.work surroundings (.reporting id (.opened file)) = some (after, later)) :
    shared.Opened after id .download total later := by
  obtain ⟨download, set, progress⟩ := Option.map_eq_some_iff.1 fresh
  have reported := Option.some.inj work
  rw [report_of_download set rfl] at reported
  obtain ⟨rfl, rfl⟩ := Prod.mk.inj reported
  refine .feeds rfl ?_ ?_
  · rw [Shared.operation_setDownload inside]
    exact ⟨_, file, rfl, rfl, progress⟩
  · rw [Shared.operation_setDownload inside]
    exact Operation.moving_download set rfl

include inside in
/-- A turn of the hand that opens the parts. -/
theorem opened_of_work {side : Side} (own : activity.operation? = some id)
    (opens : activity.opens? = some side)
    (fresh : (shared.operation id).progress? side = some { total := total })
    (work : shared.work surroundings activity = some (after, later)) :
    shared.Opened after id side total later := by
  cases activity
  case starting own' chore =>
    obtain rfl := Option.some.inj own
    cases chore
    case createUpload =>
      obtain rfl := Option.some.inj opens
      exact opened_of_createUpload inside fresh work
    case createLocalFile =>
      obtain rfl := Option.some.inj opens
      exact opened_of_createLocalFile fresh work
    all_goals cases opens
  case sending own' errand store call =>
    obtain rfl := Option.some.inj own
    obtain ⟨rfl, rfl⟩ := Prod.mk.inj (Option.some.inj work)
    cases errand
    case create => exact .opens opens fresh rfl
    all_goals cases opens
  case awaiting own' errand store call =>
    obtain rfl := Option.some.inj own
    cases errand
    case create =>
      obtain rfl := Option.some.inj opens
      exact opened_of_called fresh work
    all_goals cases opens
  case reporting own' report =>
    obtain rfl := Option.some.inj own
    cases report
    case created =>
      obtain rfl := Option.some.inj opens
      exact opened_of_created inside fresh work
    case opened =>
      obtain rfl := Option.some.inj opens
      exact opened_of_opened inside fresh work
    all_goals cases opens
  all_goals cases opens

/-- The side to which a part has been moved, as a report says. -/
def Report.moved? : Report → Option Side
  | .partDone .. => some .upload
  | .partWritten _ => some .download
  | _ => none

variable {side : Side} {progress closed : Progress}
  (flows : (shared.operation id).Flows progress side)

include inside flows in
/-- A part has succeeded: the others follow, or it was the last and the parts are closed. -/
theorem finished_of_work {report : Report} (moved : report.moved? = some side)
    (work : shared.work surroundings (.reporting id report) = some (after, later)) :
    progress.partFinished.claimEnd? = none ∧ later = .feeding id side ∧
        (after.operation id).Flows progress.partFinished side ∧
          (after.operation id).moving side = (shared.operation id).moving side ∨
      ∃ closed followUp, progress.partFinished.claimEnd? = some closed ∧
        (after.operation id).progress? side = some closed ∧ later = .following id followUp := by
  have reported := Option.some.inj work
  cases report
  case partDone range tag =>
    obtain rfl := Option.some.inj moved
    obtain ⟨upload, uploadId, set, phase, known, rfl⟩ := flows
    have finished : upload.partFinished range.number tag =
        (upload.withPart ⟨range.number, tag⟩).advance := rfl
    rw [report_of_upload set rfl] at reported
    simp only [Shared.reportUpload, finished] at reported
    cases last : upload.progress.partFinished.claimEnd? with
    | none =>
        rw [Upload.advance_of_none last] at reported
        obtain ⟨rfl, rfl⟩ := Prod.mk.inj reported
        rw [Shared.operation_setUpload inside]
        exact .inl ⟨rfl, rfl, ⟨_, uploadId, rfl, phase, known, rfl⟩,
          Operation.moving_upload set rfl⟩
    | some closed =>
        rw [Upload.advance_of_some last] at reported
        obtain ⟨rfl, rfl⟩ := Prod.mk.inj reported
        refine .inr ⟨closed, if closed.failure = none then .complete else .abort, rfl, ?_, ?_⟩
        · rw [Shared.operation_setUpload inside]
          rfl
        · by_cases sound : closed.failure = none <;> simp [sound, Activity.afterReport]
  case partWritten range =>
    obtain rfl := Option.some.inj moved
    obtain ⟨download, file, set, opened, rfl⟩ := flows
    rw [report_of_download set rfl] at reported
    simp only [Shared.reportDownload] at reported
    cases last : download.progress.partFinished.claimEnd? with
    | none =>
        have finished : download.partFinished = (false, _) := Download.advance_of_none last
        rw [finished] at reported
        obtain ⟨rfl, rfl⟩ := Prod.mk.inj reported
        rw [Shared.operation_setDownload inside]
        exact .inl ⟨rfl, rfl, ⟨_, file, rfl, opened, rfl⟩, Operation.moving_download set rfl⟩
    | some closed =>
        have finished : download.partFinished = (true, _) := Download.advance_of_some last
        rw [finished] at reported
        obtain ⟨rfl, rfl⟩ := Prod.mk.inj reported
        refine .inr ⟨closed, .finish, rfl, ?_, rfl⟩
        rw [Shared.operation_setDownload inside]
        rfl
  all_goals cases moved

include inside flows in
/-- A part is lost after which there is nothing to wait for: the parts are closed. -/
theorem lost_of_work {error : Failure} {began : Bool}
    (last : (progress.partLost error.message began).claimEnd? = some closed)
    (work : shared.work surroundings (.reporting id (.partLost side error began)) =
      some (after, later)) :
    (after.operation id).progress? side = some closed ∧
      ∃ followUp, later = .following id followUp := by
  have reported := Option.some.inj work
  cases side with
  | upload =>
      obtain ⟨upload, uploadId, set, phase, known, rfl⟩ := flows
      have lost : (if began then upload.partLost error.message
          else upload.partRefused error.message) =
          Upload.advance { upload with
            progress := upload.progress.partLost error.message began } := by
        cases began <;> rfl
      rw [report_of_upload set rfl] at reported
      simp only [Shared.reportUpload, lost] at reported
      rw [Upload.advance_of_some last] at reported
      obtain ⟨rfl, rfl⟩ := Prod.mk.inj reported
      refine ⟨?_, if closed.failure = none then .complete else .abort, ?_⟩
      · rw [Shared.operation_setUpload inside]
        rfl
      · by_cases sound : closed.failure = none <;> simp [sound, Activity.afterReport]
  | download =>
      obtain ⟨download, file, set, opened, rfl⟩ := flows
      have lost : download.partLost error.message began = (true, _) :=
        Download.advance_of_some last
      rw [report_of_download set rfl] at reported
      simp only [Shared.reportDownload] at reported
      rw [lost] at reported
      obtain ⟨rfl, rfl⟩ := Prod.mk.inj reported
      refine ⟨?_, .finish, rfl⟩
      rw [Shared.operation_setDownload inside]
      rfl

end

/-- Whether a task of an operation does nothing. -/
def Operation.Skips (operation : Operation) (chore : Chore) : Prop :=
  ∀ (shared : Shared) (id : OperationId), shared.operation id = operation →
    shared.start id chore = (shared, .idle)

/-- A part is skipped once the end of the operation has been claimed. -/
theorem Operation.skips_of_endClaimed {operation : Operation} {side : Side} {progress : Progress}
    {chore : Chore} (found : operation.progress? side = some progress)
    (claimed : progress.endClaimed = true) (part : chore.side? = some side) :
    operation.Skips chore := by
  rintro shared id rfl
  have skips (upload : Upload) (set : (shared.operation id).upload = some upload)
      (closed : upload.progress.endClaimed = true) (range : PartSpan) (fromObject : Bool) :
      shared.startPart id range fromObject = (shared, .idle) := by
    have skipped : upload.enterPart? = none := by
      rw [Upload.enterPart?, Progress.enter?_eq_none_of_endClaimed closed]
      split <;> rfl
    simp only [Shared.startPart, set, skipped]
  cases side with
  | upload =>
      obtain ⟨upload, set, rfl⟩ := Option.map_eq_some_iff.1 found
      cases chore
      case uploadPart range => exact skips upload set claimed range false
      case copyPart range => exact skips upload set claimed range true
      all_goals cases part
  | download =>
      obtain ⟨download, set, rfl⟩ := Option.map_eq_some_iff.1 found
      cases chore
      case downloadPart range =>
        have skipped : download.enterPart? = none :=
          Download.enterPart?_of_none (Progress.enter?_eq_none_of_endClaimed claimed)
        simp only [Shared.start, Shared.startDownloadPart, set, skipped]
      all_goals cases part

end Pool
end BulkTransfer
