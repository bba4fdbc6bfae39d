import BulkTransfer.Pool.Work
import Mathlib.Tactic.Lemma

/-!
# The gist of a run

What of the state of a run decides how it goes on and what comes of it, without what only the queue
and the messages are concerned with. The gist of an outcome is whether it is a failure, and the gist
of the progress of parts is how many of them have succeeded and run, whatever is queued. Work at an
operation does not look at the rest: its gist follows from the gist of what was there
(`Pool.Shared.gist_work`).
-/

namespace BulkTransfer

open Pool Multipart

/-- Whether an answer is a panic. -/
def Answer.isPanic : Answer → Bool
  | .reply _ | .failed _ => false
  | .panicked _ => true

namespace Multipart

/-- The progress without the reason of a failure, and without how parts stand in the queue. -/
def Progress.gist (progress : Progress) : Progress :=
  { progress with
    failure := progress.failure.map fun _ => ""
    next := 0
    deferred := []
    outstanding := 0 }

/-- The upload with the gist of its progress. -/
def Upload.gist (upload : Upload) : Upload :=
  { upload with progress := upload.progress.gist }

/-- The download with the gist of its progress. -/
def Download.gist (download : Download) : Download :=
  { download with progress := download.progress.gist }

namespace Progress

variable (progress : Progress)

@[simp]
lemma gist_gist : progress.gist.gist = progress.gist := by
  simp [gist, Function.comp_def]

@[simp]
lemma isSome_failure_gist : progress.gist.failure.isSome = progress.failure.isSome :=
  Option.isSome_map

@[simp]
lemma isClosed_gist : progress.gist.isClosed = progress.isClosed := by
  simp [isClosed, gist]

lemma gist_markFailed (reason other : String) :
    (progress.gist.markFailed reason).gist = (progress.markFailed other).gist := by
  simp [markFailed, gist]

lemma gist_partLost (reason other : String) (began : Bool) :
    (progress.gist.partLost reason began).gist = (progress.partLost other began).gist := by
  simp [partLost, markFailed, gist]

lemma gist_partFinished : progress.gist.partFinished.gist = progress.partFinished.gist := by
  simp [partFinished, gist, Function.comp_def]

lemma gist_enter? : progress.gist.enter? = progress.enter?.map gist := by
  simp only [enter?, isClosed_gist]
  split <;> rfl

lemma gist_claimEnd? : progress.gist.claimEnd? = progress.claimEnd?.map gist := by
  have done : progress.gist.isDone = progress.isDone := by
    rw [isDone, isSome_failure_gist]
    rfl
  simp only [claimEnd?, done, show progress.gist.endClaimed = progress.endClaimed from rfl]
  split
  · rfl
  · split <;> rfl

end Progress

namespace Upload

variable (upload : Upload)

@[simp]
lemma gist_gist : upload.gist.gist = upload.gist := by
  simp [gist]

lemma gist_claimCreation? : upload.gist.claimCreation? = upload.claimCreation?.map gist := by
  simp only [claimCreation?, show upload.gist.phase = upload.phase from rfl]
  split <;> rfl

lemma gist_enterPart? :
    upload.gist.enterPart? = upload.enterPart?.map fun entered => (entered.1, entered.2.gist) := by
  simp only [enterPart?, show upload.gist.phase = upload.phase from rfl]
  split
  · simp only [gist, Progress.gist_enter?, Option.map_map]
    rfl
  · rfl

lemma gist_advance : upload.gist.advance = (upload.advance.1, upload.advance.2.gist) := by
  simp only [advance, gist, Progress.gist_claimEnd?]
  cases upload.progress.claimEnd? with
  | none => rfl
  | some progress =>
      simp only [Option.map_some, Progress.isSome_failure_gist]
      split <;> rfl

/-- Uploads of one gist go on alike. -/
lemma advance_congr {other : Upload} (same : upload.gist = other.gist) :
    upload.advance.1 = other.advance.1 ∧ upload.advance.2.gist = other.advance.2.gist := by
  have left := upload.gist_advance
  rw [same, other.gist_advance] at left
  exact ⟨(Prod.mk.inj left).1.symm, (Prod.mk.inj left).2.symm⟩

lemma gist_partFinished (number : Nat) (tag : String) :
    (upload.gist.partFinished number tag).1 = (upload.partFinished number tag).1 ∧
      (upload.gist.partFinished number tag).2.gist = (upload.partFinished number tag).2.gist := by
  refine advance_congr _ ?_
  simp only [gist, Progress.gist_partFinished]

lemma gist_partLost (reason other : String) :
    (upload.gist.partLost reason).1 = (upload.partLost other).1 ∧
      (upload.gist.partLost reason).2.gist = (upload.partLost other).2.gist := by
  refine advance_congr _ ?_
  simp only [gist, upload.progress.gist_partLost reason other]

lemma gist_partRefused (reason other : String) :
    (upload.gist.partRefused reason).1 = (upload.partRefused other).1 ∧
      (upload.gist.partRefused reason).2.gist = (upload.partRefused other).2.gist := by
  refine advance_congr _ ?_
  simp only [gist, upload.progress.gist_partLost reason other]

lemma gist_creationFailed (reason other : String) :
    (upload.gist.creationFailed reason).gist = (upload.creationFailed other).gist := by
  have lost := upload.progress.gist_partLost reason other false
  have claim (progress : Progress) :
      ({ progress with endClaimed := true } : Progress).gist =
        { progress.gist with endClaimed := true } := rfl
  simp only [gist, creationFailed, claim, lost]

lemma gist_completionFailed (reason other : String) :
    (upload.gist.completionFailed reason).1 = (upload.completionFailed other).1 ∧
      (upload.gist.completionFailed reason).2.gist = (upload.completionFailed other).2.gist := by
  simp only [completionFailed, show upload.gist.phase = upload.phase from rfl]
  split
  · refine ⟨rfl, ?_⟩
    simp only [gist, upload.progress.gist_markFailed reason other]
  · exact ⟨rfl, upload.gist_gist⟩

lemma gist_toComplete? : upload.gist.toComplete? = upload.toComplete? := rfl

lemma gist_toAbort? :
    upload.gist.toAbort?.map (·.1) = upload.toAbort?.map (·.1) := by
  simp only [toAbort?, show upload.gist.phase = upload.phase from rfl]
  split
  · simp only [Option.map_map]
    rfl
  · rfl

end Upload

namespace Download

variable (download : Download)

@[simp]
lemma gist_gist : download.gist.gist = download.gist := by
  simp [gist]

lemma gist_enterPart? :
    download.gist.enterPart? =
      download.enterPart?.map fun entered => (entered.1, entered.2.gist) := by
  simp only [enterPart?, gist, Progress.gist_enter?]
  cases download.file with
  | none => rfl
  | some file =>
      simp only [Option.bind_some, Option.map_map]
      rfl

lemma gist_advance :
    download.gist.advance = (download.advance.1, download.advance.2.gist) := by
  simp only [advance, gist, Progress.gist_claimEnd?]
  cases download.progress.claimEnd? <;> rfl

/-- Downloads of one gist go on alike. -/
lemma advance_congr {other : Download} (same : download.gist = other.gist) :
    download.advance.1 = other.advance.1 ∧ download.advance.2.gist = other.advance.2.gist := by
  have left := download.gist_advance
  rw [same, other.gist_advance] at left
  exact ⟨(Prod.mk.inj left).1.symm, (Prod.mk.inj left).2.symm⟩

lemma gist_partFinished :
    download.gist.partFinished.1 = download.partFinished.1 ∧
      download.gist.partFinished.2.gist = download.partFinished.2.gist := by
  refine advance_congr _ ?_
  simp only [gist, Progress.gist_partFinished]

lemma gist_partLost (reason other : String) (began : Bool) :
    (download.gist.partLost reason began).1 = (download.partLost other began).1 ∧
      (download.gist.partLost reason began).2.gist = (download.partLost other began).2.gist := by
  refine advance_congr _ ?_
  simp only [gist, download.progress.gist_partLost reason other]

end Download
end Multipart

namespace Pool

/-- The operation with the gist of its parts. -/
def Operation.gist (operation : Operation) : Operation :=
  { operation with
    upload := operation.upload.map Upload.gist
    download := operation.download.map Download.gist }

/-- An outcome without its reason. -/
def Outcome.gist : Outcome → Outcome
  | .succeeded => .succeeded
  | .failed _ | .undone _ => .failed .queueClosed

/-- An errand without the reason for it. -/
def Errand.gist : Errand → Errand
  | .abort _ => .abort ""
  | errand => errand

/-- A report without the reasons in it. -/
def Report.gist : Report → Report
  | .creationFailed _ => .creationFailed .queueClosed
  | .partLost side _ began => .partLost side .queueClosed began
  | .completionFailed _ => .completionFailed .queueClosed
  | .abortEnded aborted _ => .abortEnded aborted ""
  | report => report

/-- An activity without the reasons that it carries along. -/
def Activity.gist : Activity → Activity
  | .sending id errand store call => .sending id errand.gist store call
  | .awaiting id errand store call => .awaiting id errand.gist store call
  | .reporting id report => .reporting id report.gist
  | .discarding id path outcome => .discarding id path outcome.gist
  | .settling id outcome => .settling id outcome.gist
  | activity => activity

/-- Whether an activity is at the operation itself, and not at bringing tasks into the queue or
taking them out. -/
def Activity.isEffective : Activity → Bool
  | .idle | .dismissed | .feeding .. | .offering .. | .deferring .. | .forcing .. => false
  | .following .. => false
  | _ => true

/-- Whether an event is a call, or the panic of one that was to complete an upload. -/
def Event.isCall : Event → Bool
  | .called .. => true
  | .answered _ _ (.completeUpload ..) answer => answer.isPanic
  | _ => false

namespace Shared

/-- The shared state without the queue, without the reasons for failures, and without the events
that are not calls. -/
def gist (shared : Shared) : Shared where
  queue := .ofCapacity 0
  operations := shared.operations.map Operation.gist
  disk := shared.disk
  tally := shared.tally
  events := shared.events.filter Event.isCall

/-- What a turn comes to, without the rest. -/
def gistOf (result : Shared × Activity) : Shared × Activity :=
  (result.1.gist, result.2.gist)

end Shared

@[simp]
lemma Outcome.gist_gist (outcome : Outcome) : outcome.gist.gist = outcome.gist := by
  cases outcome <;> rfl

@[simp]
lemma Errand.gist_gist (errand : Errand) : errand.gist.gist = errand.gist := by
  cases errand <;> rfl

@[simp]
lemma Report.gist_gist (report : Report) : report.gist.gist = report.gist := by
  cases report <;> simp [gist]

@[simp]
lemma Activity.gist_gist (activity : Activity) : activity.gist.gist = activity.gist := by
  cases activity <;> simp [gist]

@[simp]
lemma Operation.gist_gist (operation : Operation) : operation.gist.gist = operation.gist := by
  simp only [gist, Option.map_map]
  congr 2
  · funext upload
    exact upload.gist_gist
  · funext download
    exact download.gist_gist

namespace Shared

variable (shared : Shared) (id : OperationId)

@[simp]
lemma gist_gist : shared.gist.gist = shared.gist := by
  simp only [gist, List.map_map, List.filter_filter, Bool.and_self]
  congr 2
  funext operation
  exact operation.gist_gist

@[simp]
lemma operation_gist : shared.gist.operation id = (shared.operation id).gist := by
  simp only [operation, gist, List.getD_eq_getElem?_getD, List.getElem?_map]
  cases shared.operations[id]? <;> rfl

lemma gist_setUpload (upload : Upload) :
    (shared.setUpload id upload).gist = shared.gist.setUpload id upload.gist := by
  simp only [gist, setUpload]
  congr 1
  refine List.ext_getElem? fun index => ?_
  simp only [List.getElem?_map, List.getElem?_modify]
  cases shared.operations[index]? with
  | none => rfl
  | some operation =>
      simp only [Option.map_some]
      split <;> rfl

lemma gist_setDownload (download : Download) :
    (shared.setDownload id download).gist = shared.gist.setDownload id download.gist := by
  simp only [gist, setDownload]
  congr 1
  refine List.ext_getElem? fun index => ?_
  simp only [List.getElem?_map, List.getElem?_modify]
  cases shared.operations[index]? with
  | none => rfl
  | some operation =>
      simp only [Option.map_some]
      split <;> rfl

/-- What is set is alike when its gist is. -/
lemma gist_setUpload_congr {upload other : Upload} (same : upload.gist = other.gist) :
    (shared.gist.setUpload id upload).gist = (shared.setUpload id other).gist := by
  rw [gist_setUpload, gist_setUpload, shared.gist_gist, same]

lemma gist_setDownload_congr {download other : Download}
    (same : download.gist = other.gist) :
    (shared.gist.setDownload id download).gist = (shared.setDownload id other).gist := by
  rw [gist_setDownload, gist_setDownload, shared.gist_gist, same]

lemma gist_note (event : Event) :
    (shared.note event).gist = if event.isCall then shared.gist.note event else shared.gist := by
  simp only [gist, note, List.filter_cons]
  split <;> rfl

lemma gist_note_congr {other : Shared} (same : shared.gist = other.gist) (event : Event) :
    (shared.note event).gist = (other.note event).gist := by
  rw [gist_note, gist_note, same]

lemma gist_onDisk (disk : Disk) :
    ({ shared.gist with disk := disk } : Shared).gist = { shared with disk := disk }.gist := by
  have same := shared.gist_gist
  simp only [gist, mk.injEq] at same ⊢
  exact ⟨trivial, same.2.1, trivial, trivial, same.2.2.2.2⟩

/-- An outcome is counted by its gist. -/
lemma tally_verdict (operation other : Operation) (tally : Tally) (outcome : Outcome) :
    (verdict operation tally outcome).2 = (verdict other tally outcome.gist).2 := by
  cases outcome <;> rfl

lemma gist_settle {outcome other : Outcome} (same : outcome.gist = other.gist) :
    (shared.gist.settle id outcome).gist = (shared.settle id other).gist := by
  have counted : (verdict (shared.gist.operation id) shared.tally outcome).2 =
      (verdict (shared.operation id) shared.tally other).2 := by
    rw [tally_verdict _ default, same, ← tally_verdict (shared.operation id)]
  have kept := shared.gist_gist
  simp only [settle, conclude, gist_note, Event.isCall, Bool.false_eq_true, if_false]
  simp only [gist, mk.injEq] at kept ⊢
  exact ⟨trivial, kept.2.1, trivial, counted, kept.2.2.2.2⟩

end Shared

namespace Operation

variable (operation : Operation)

@[simp]
lemma upload_gist : operation.gist.upload = operation.upload.map Upload.gist := rfl

@[simp]
lemma download_gist : operation.gist.download = operation.download.map Download.gist := rfl

@[simp]
lemma record_gist : operation.gist.record = operation.record := rfl

@[simp]
lemma fileWritten_gist : operation.gist.fileWritten = operation.fileWritten := rfl

@[simp]
lemma abortCall_gist (uploadId : String) :
    operation.gist.abortCall uploadId = operation.abortCall uploadId := rfl

end Operation

namespace Shared

variable (shared : Shared) (id : OperationId)

@[simp]
lemma disk_gist : shared.gist.disk = shared.disk := rfl

lemma gistOf_startPart (range : PartSpan) (fromObject : Bool) :
    gistOf (shared.gist.startPart id range fromObject) =
      gistOf (shared.startPart id range fromObject) := by
  simp only [startPart, operation_gist, Operation.upload_gist]
  cases (shared.operation id).upload with
  | none => exact Prod.ext shared.gist_gist rfl
  | some upload =>
      simp only [Option.map_some, upload.gist_enterPart?]
      cases upload.enterPart? with
      | none => exact Prod.ext shared.gist_gist rfl
      | some entered =>
          obtain ⟨known, entered⟩ := entered
          have set := @gist_setUpload_congr shared id _ _ entered.gist_gist
          cases known <;> exact Prod.ext set rfl

lemma gistOf_startCreate :
    gistOf (shared.gist.startCreate id) = gistOf (shared.startCreate id) := by
  simp only [startCreate, operation_gist, Operation.upload_gist]
  cases (shared.operation id).upload with
  | none => exact Prod.ext shared.gist_gist rfl
  | some upload =>
      simp only [Option.map_some, upload.gist_claimCreation?]
      cases upload.claimCreation? with
      | none => exact Prod.ext shared.gist_gist rfl
      | some claimed => exact Prod.ext (shared.gist_setUpload_congr id claimed.gist_gist) rfl

lemma gist_startComplete :
    (shared.gist.startComplete id).gist = (shared.startComplete id).gist := by
  simp only [startComplete, operation_gist, Operation.upload_gist]
  cases (shared.operation id).upload with
  | none => rfl
  | some upload =>
      simp only [Option.map_some, upload.gist_toComplete?]
      rfl

lemma gist_startAbort : (shared.gist.startAbort id).gist = (shared.startAbort id).gist := by
  simp only [startAbort, operation_gist, Operation.upload_gist]
  cases (shared.operation id).upload with
  | none => rfl
  | some upload =>
      have same := upload.gist_toAbort?
      simp only [Option.map_some]
      -- The reason of the abort is not in the gist, but the call that is made does not give it.
      generalize upload.gist.toAbort? = left, upload.toAbort? = right at same ⊢
      rcases left with _ | ⟨uploadId, reason⟩ <;> rcases right with _ | ⟨other, otherReason⟩
      · rfl
      · cases same
      · cases same
      · obtain rfl : uploadId = other := Option.some.inj same
        simp only [Operation.abortCall_gist]
        cases (shared.operation id).abortCall uploadId <;> rfl

lemma gistOf_startLocalFile :
    gistOf (shared.gist.startLocalFile id) = gistOf (shared.startLocalFile id) := by
  simp only [startLocalFile, operation_gist, Operation.download_gist, Operation.fileWritten_gist]
  cases (shared.operation id).download with
  | none => exact Prod.ext shared.gist_gist rfl
  | some download =>
      cases (shared.operation id).fileWritten with
      | error error => exact Prod.ext shared.gist_gist rfl
      | ok path =>
          simp only [Option.map_some, disk_gist]
          split
          · exact Prod.ext (gist_note_congr _ (shared.gist_onDisk _) _) rfl
          · exact Prod.ext (shared.gist_onDisk _) rfl

lemma gistOf_startDownloadPart (range : PartSpan) :
    gistOf (shared.gist.startDownloadPart id range) =
      gistOf (shared.startDownloadPart id range) := by
  simp only [startDownloadPart, operation_gist, Operation.download_gist]
  cases (shared.operation id).download with
  | none => exact Prod.ext shared.gist_gist rfl
  | some download =>
      simp only [Option.map_some, download.gist_enterPart?]
      cases download.enterPart? with
      | none => exact Prod.ext shared.gist_gist rfl
      | some entered =>
          exact Prod.ext (shared.gist_setDownload_congr id entered.2.gist_gist) rfl

lemma gistOf_startFinish :
    gistOf (shared.gist.startFinish id) = gistOf (shared.startFinish id) := by
  simp only [startFinish, operation_gist, Operation.download_gist, Operation.fileWritten_gist]
  cases (shared.operation id).download with
  | none => exact Prod.ext shared.gist_gist rfl
  | some download =>
      cases (shared.operation id).fileWritten with
      | error error => exact Prod.ext shared.gist_gist rfl
      | ok path =>
          have closed : download.gist.finish.2.gist = download.finish.2.gist := by
            simp [Download.finish, Download.gist]
          refine Prod.ext (shared.gist_setDownload_congr id closed) ?_
          simp only [gistOf, Option.map_some, Download.finish, Download.gist, Progress.gist]
          cases download.progress.failure <;> rfl

lemma gistOf_startDelete :
    gistOf (shared.gist.startDelete id) = gistOf (shared.startDelete id) := by
  simp only [startDelete, operation_gist, Operation.record_gist, disk_gist]
  split
  · split
    · exact Prod.ext (gist_note_congr _ (shared.gist_onDisk _) _) rfl
    · exact Prod.ext shared.gist_gist rfl
  · exact Prod.ext shared.gist_gist rfl

lemma gistOf_start (chore : Chore) :
    gistOf (shared.gist.start id chore) = gistOf (shared.start id chore) := by
  cases chore with
  | singleUpload =>
      refine Prod.ext shared.gist_gist ?_
      simp only [gistOf, start, startSingleUpload, operation_gist]
      rfl
  | createUpload => exact shared.gistOf_startCreate id
  | uploadPart range => exact shared.gistOf_startPart id range false
  | copyPart range => exact shared.gistOf_startPart id range true
  | completeUpload => exact Prod.ext shared.gist_gist (shared.gist_startComplete id)
  | abortUpload => exact Prod.ext shared.gist_gist (shared.gist_startAbort id)
  | createLocalFile => exact shared.gistOf_startLocalFile id
  | downloadPart range => exact shared.gistOf_startDownloadPart id range
  | completeDownload => exact shared.gistOf_startFinish id
  | delete => exact shared.gistOf_startDelete id
  | copy | download | removeBucket =>
      refine Prod.ext shared.gist_gist ?_
      simp only [gistOf, start, operation_gist]
      rfl

lemma gist_readPart (range : PartSpan) (uploadId : String) :
    (shared.gist.readPart id range uploadId).gist = (shared.readPart id range uploadId).gist := by
  simp only [readPart, operation_gist]
  rfl

lemma gist_afterFailure (errand : Errand) (error : Failure) :
    (afterFailure id errand.gist error).gist = (afterFailure id errand error).gist := by
  cases errand <;> rfl

lemma gist_afterPanic (errand : Errand) (message : String) :
    (afterPanic id errand.gist message).gist = (afterPanic id errand message).gist := by
  cases errand <;> rfl

lemma gist_afterReply (operation : Operation) (errand : Errand) (reply : Reply) :
    (afterReply operation.gist id errand.gist reply).gist =
      (afterReply operation id errand reply).gist := by
  cases errand <;> rfl

lemma gistOf_receive (errand : Errand) (store : StoreName) (call : Call) (answer : Answer) :
    gistOf (shared.gist.receive id errand.gist store call answer) =
      gistOf (shared.receive id errand store call answer) := by
  refine Prod.ext (gist_note_congr _ shared.gist_gist _) ?_
  simp only [gistOf, receive, operation_gist]
  cases seen call answer with
  | reply reply => exact gist_afterReply id _ errand reply
  | failed error => exact gist_afterFailure id errand error
  | panicked message => exact gist_afterPanic id errand message

lemma gistOf_reportUpload (upload : Upload) (report : Report) :
    gistOf (shared.gist.reportUpload id upload.gist report.gist) =
      gistOf (shared.reportUpload id upload report) := by
  cases report with
  | created uploadId =>
      refine Prod.ext (shared.gist_setUpload_congr id ?_) rfl
      simp [Upload.created, Upload.gist]
  | creationFailed error =>
      refine Prod.ext (shared.gist_setUpload_congr id (upload.gist_creationFailed _ _)) ?_
      simp [gistOf, reportUpload, Report.gist, Activity.gist, Outcome.gist]
  | partDone range tag =>
      obtain ⟨step, state⟩ := upload.gist_partFinished range.number tag
      refine Prod.ext (shared.gist_setUpload_congr id state) ?_
      simp only [gistOf, reportUpload, Report.gist, step]
  | partLost side error began =>
      cases began with
      | false =>
          obtain ⟨step, state⟩ := upload.gist_partRefused Failure.queueClosed.message error.message
          refine Prod.ext (shared.gist_setUpload_congr id state) ?_
          simp [gistOf, reportUpload, Report.gist, step]
      | true =>
          obtain ⟨step, state⟩ := upload.gist_partLost Failure.queueClosed.message error.message
          refine Prod.ext (shared.gist_setUpload_congr id state) ?_
          simp [gistOf, reportUpload, Report.gist, step]
  | completed =>
      refine Prod.ext (shared.gist_setUpload_congr id ?_) ?_
      · simp [Upload.completed, Upload.gist]
      · simp only [gistOf, reportUpload, Report.gist, operation_gist]
        rfl
  | completionFailed error =>
      obtain ⟨step, state⟩ := upload.gist_completionFailed Failure.queueClosed.message error.message
      refine Prod.ext (shared.gist_setUpload_congr id state) ?_
      simp only [gistOf, reportUpload, Report.gist, step]
  | abortEnded aborted reason =>
      refine Prod.ext (shared.gist_setUpload_congr id ?_) rfl
      simp [Upload.abortEnded, Upload.gist]
  | opened file => exact Prod.ext shared.gist_gist rfl
  | partWritten range => exact Prod.ext shared.gist_gist rfl

lemma gistOf_reportDownload (download : Download) (report : Report) :
    gistOf (shared.gist.reportDownload id download.gist report.gist) =
      gistOf (shared.reportDownload id download report) := by
  cases report with
  | opened file =>
      refine Prod.ext (shared.gist_setDownload_congr id ?_) rfl
      simp [Download.opened, Download.gist]
  | partWritten range =>
      obtain ⟨step, state⟩ := download.gist_partFinished
      refine Prod.ext (shared.gist_setDownload_congr id state) ?_
      simp only [gistOf, reportDownload, Report.gist, step]
  | partLost side error began =>
      obtain ⟨step, state⟩ := download.gist_partLost Failure.queueClosed.message error.message began
      refine Prod.ext (shared.gist_setDownload_congr id state) ?_
      simp only [gistOf, reportDownload, Report.gist, step]
  | _ => exact Prod.ext shared.gist_gist rfl

lemma gistOf_report (report : Report) :
    gistOf (shared.gist.report id report.gist) = gistOf (shared.report id report) := by
  have side : sideOf report.gist = sideOf report := by cases report <;> rfl
  simp only [Shared.report, side, operation_gist, Operation.upload_gist, Operation.download_gist]
  cases sideOf report <;> cases (shared.operation id).upload <;>
    cases (shared.operation id).download
  all_goals first
    | exact Prod.ext shared.gist_gist rfl
    | exact shared.gistOf_reportUpload id _ report
    | exact shared.gistOf_reportDownload id _ report

lemma gistOf_save (path : LocalPath) (body : Reader) :
    gistOf (shared.gist.save id path body) = gistOf (shared.save id path body) := by
  simp only [save, disk_gist]
  split
  · exact Prod.ext (gist_note_congr _ (shared.gist_onDisk _) _) rfl
  · exact Prod.ext (shared.gist_onDisk _) rfl

lemma gistOf_write (extent : Extent) (path : LocalPath) (file : FileId) (offset : Nat)
    (body : Reader) :
    gistOf (shared.gist.write id extent path file offset body) =
      gistOf (shared.write id extent path file offset body) := by
  unfold write
  split
  · exact Prod.ext shared.gist_gist rfl
  · exact Prod.ext shared.gist_gist rfl
  · exact Prod.ext shared.gist_gist rfl
  · split
    · exact Prod.ext shared.gist_gist rfl
    · exact Prod.ext (gist_note_congr _ (shared.gist_onDisk _) _) rfl

lemma gistOf_stamp (path : LocalPath) :
    gistOf (shared.gist.stamp id path) = gistOf (shared.stamp id path) := by
  simp only [stamp, operation_gist, Operation.record_gist, disk_gist]
  split
  · exact Prod.ext shared.gist_gist rfl
  · split
    · exact Prod.ext (shared.gist_onDisk _) rfl
    · exact Prod.ext shared.gist_gist rfl

/-- What an activity at the operation comes to follows from the gist of what was there. -/
theorem gist_work {activity : Activity} (effective : activity.isEffective = true)
    (surroundings : Surroundings) :
    (shared.gist.work surroundings activity.gist).map gistOf =
      (shared.work surroundings activity).map gistOf := by
  -- Each activity at the operation reads only what has a gist; the others look at the queue.
  cases activity
  case idle | dismissed | feeding | offering | deferring | forcing | following => cases effective
  all_goals refine congrArg some ?_
  case starting id chore => exact shared.gistOf_start id chore
  case reading id range uploadId =>
    exact Prod.ext shared.gist_gist (shared.gist_readPart id range uploadId)
  case sending id errand store call =>
    refine Prod.ext (gist_note_congr _ shared.gist_gist _) ?_
    simp [gistOf, Activity.gist]
  case awaiting id errand store call => exact shared.gistOf_receive id errand store call _
  case reporting id report => exact shared.gistOf_report id report
  case saving id path body => exact shared.gistOf_save id path body
  case writing id extent path file offset body =>
    exact shared.gistOf_write id extent path file offset body
  case stamping id path => exact shared.gistOf_stamp id path
  case discarding id path outcome =>
    refine Prod.ext (gist_note_congr _ (shared.gist_onDisk _) _) ?_
    simp [gistOf, Activity.gist]
  case settling id outcome => exact Prod.ext (shared.gist_settle id outcome.gist_gist) rfl

end Shared
end Pool
end BulkTransfer
