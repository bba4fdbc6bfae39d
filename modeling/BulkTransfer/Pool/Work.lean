import BulkTransfer.Pool.Shared

/-!
# The work of a worker

One step of a worker makes at most one access to what the workers share, and says what the
worker does next. What comes from outside (the answer to a call, the verdict of the admission
policy) is given with the step.
-/

namespace BulkTransfer.Pool

/-- What comes from outside in a step. -/
structure Surroundings where
  policy : Policy
  answer : Answer

namespace Activity

/-- What follows a transfer that has succeeded: a move still deletes its source. -/
def afterTransfer (operation : Operation) (id : OperationId) : Activity :=
  if operation.record.kind = .move then .following id .delete else .settling id .succeeded

/-- What follows a report to the state of an upload that was not the success of a part. -/
def afterReport (id : OperationId) : Multipart.NextStep → Activity
  | .wait => .idle
  | .complete => .following id .complete
  | .abort => .following id .abort

/-- A call that is about to be made, or the end of the operation if there is none. -/
def call (id : OperationId) (errand : Errand) (store : StoreName)
    (call : Except Failure Call) : Activity :=
  match call with
  | .ok call => .sending id errand store call
  | .error error => .settling id (.failed error)

/-- The end of an operation whose task needs multipart state that it does not have. -/
def withoutState (operation : Operation) (id : OperationId) (chore : Chore) : Activity :=
  .settling id (.failed (operation.misfit (.noMultipartState chore.name)))

/-- The chore that moves a part of an operation. -/
def partChore (operation : Operation) (side : Side) (range : PartSpan) : Chore :=
  match side with
  | .download => .downloadPart range
  | .upload => if operation.record.source.isRemote then .copyPart range else .uploadPart range

/-- The follow-up entry for the part with the given index. -/
def partEntry (operation : Operation) (id : OperationId) (side : Side) (index : Nat) :
    Entry Job :=
  let chunksize := match side with
    | .upload => (operation.upload.map (·.chunksize)).getD 0
    | .download => (operation.download.map (·.chunksize)).getD 0
  operation.followUpEntry id
    (partChore operation side (PartSpan.ofIndex operation.record.size chunksize index))

end Activity

namespace Shared

open Activity

/-- Starts the upload of a whole file: reads it. -/
def startSingleUpload (shared : Shared) (id : OperationId) : Activity :=
  let operation := shared.operation id
  match operation.fileRead, operation.objectWritten with
  | .error error, _ => .settling id (.failed error)
  | .ok _, .error error => .settling id (.failed error)
  | .ok path, .ok object =>
      match shared.disk.readWhole path with
      | .error cause => .settling id (.failed (.io path cause))
      | .ok body =>
          .sending id .put operation.store (.putObject object body operation.attributes)

/-- Starts a multipart upload, unless it has been started. -/
def startCreate (shared : Shared) (id : OperationId) : Shared × Activity :=
  let operation := shared.operation id
  match operation.upload with
  | none => (shared, withoutState operation id .createUpload)
  | some upload =>
      match upload.claimCreation? with
      | none => (shared, .idle)
      | some upload =>
          (shared.setUpload id upload,
            match operation.createCall with
            | .ok call => .sending id .create operation.store call
            | .error error => .reporting id (.creationFailed error))

/-- Starts a part of an upload or a copy, unless parts are no longer begun. -/
def startPart (shared : Shared) (id : OperationId) (range : PartSpan) (fromObject : Bool) :
    Shared × Activity :=
  let operation := shared.operation id
  match operation.upload with
  | none => (shared, withoutState operation id (.uploadPart range))
  | some upload =>
      match upload.enterPart? with
      | none => (shared, .idle)
      | some (none, upload) => (shared.setUpload id upload, .idle)
      | some (some uploadId, upload) =>
          (shared.setUpload id upload,
            if fromObject then
              match operation.copyPartCall uploadId range with
              | .ok call => .sending id (.part range) operation.store call
              | .error error => .reporting id (.partLost .upload error true)
            else
              match operation.fileRead, operation.objectWritten with
              | .error error, _ => .reporting id (.partLost .upload error true)
              | .ok _, .error error => .reporting id (.partLost .upload error true)
              | .ok _, .ok _ => .reading id range uploadId)

/-- Completes a multipart upload, if that is to be done. -/
def startComplete (shared : Shared) (id : OperationId) : Activity :=
  let operation := shared.operation id
  match operation.upload with
  | none => withoutState operation id .completeUpload
  | some upload =>
      match upload.toComplete? with
      | none => .idle
      | some (uploadId, parts) =>
          match operation.completeCall uploadId parts with
          | .ok call => .sending id .complete operation.store call
          | .error error => .reporting id (.completionFailed error)

/-- Aborts a multipart upload, if that is to be done. -/
def startAbort (shared : Shared) (id : OperationId) : Activity :=
  let operation := shared.operation id
  match operation.upload with
  | none => withoutState operation id .abortUpload
  | some upload =>
      match upload.toAbort? with
      | none => .idle
      | some (uploadId, reason) =>
          match operation.abortCall uploadId with
          | .ok call => .sending id (.abort reason) operation.store call
          | .error _ => .reporting id (.abortEnded false reason)

/-- Opens the file of a multipart download. -/
def startLocalFile (shared : Shared) (id : OperationId) : Shared × Activity :=
  let operation := shared.operation id
  match operation.download, operation.fileWritten with
  | none, _ => (shared, withoutState operation id .createLocalFile)
  | some _, .error error => (shared, .settling id (.failed error))
  | some _, .ok path =>
      match shared.disk.openNew path with
      | (.ok file, disk) =>
          ({ shared with disk := disk }.note (.opened id path file), .reporting id (.opened file))
      | (.error error, disk) =>
          ({ shared with disk := disk }, .discarding id path (.failed error))

/-- Starts a part of a download, unless parts are not begun. -/
def startDownloadPart (shared : Shared) (id : OperationId) (range : PartSpan) :
    Shared × Activity :=
  let operation := shared.operation id
  match operation.download with
  | none => (shared, withoutState operation id (.downloadPart range))
  | some download =>
      match download.enterPart? with
      | none => (shared, .idle)
      | some (file, download) =>
          (shared.setDownload id download,
            match operation.fetchPartCall range with
            | .ok call => .sending id (.fetchPart range file) operation.sourceStore call
            | .error error => .reporting id (.partLost .download error true))

/-- Closes the file of a multipart download: the download has succeeded, or is undone. -/
def startFinish (shared : Shared) (id : OperationId) : Shared × Activity :=
  let operation := shared.operation id
  match operation.download, operation.fileWritten with
  | none, _ => (shared, withoutState operation id .completeDownload)
  | some _, .error error => (shared, .settling id (.failed error))
  | some download, .ok path =>
      let result := download.finish
      (shared.setDownload id result.2,
        match result.1 with
        | none => .stamping id path
        | some reason => .discarding id path (.undone reason))

/-- Deletes the source: a file here, an object by a call. -/
def startDelete (shared : Shared) (id : OperationId) : Shared × Activity :=
  let operation := shared.operation id
  match operation.record.source.path? with
  | some path =>
      match shared.disk.unlink path with
      | .ok disk =>
          ({ shared with disk := disk }.note (.removedSource id path), .settling id .succeeded)
      | .error cause => (shared, .settling id (.failed (.io path cause)))
  | none => (shared, call id .delete operation.sourceStore operation.deleteCall)

/-- Starts a task. -/
def start (shared : Shared) (id : OperationId) : Chore → Shared × Activity
  | .singleUpload => (shared, shared.startSingleUpload id)
  | .createUpload => shared.startCreate id
  | .uploadPart range => shared.startPart id range false
  | .copyPart range => shared.startPart id range true
  | .completeUpload => (shared, shared.startComplete id)
  | .abortUpload => (shared, shared.startAbort id)
  | .copy =>
      let operation := shared.operation id
      (shared, call id .copy operation.store operation.copyCall)
  | .download =>
      let operation := shared.operation id
      (shared, call id .fetch operation.sourceStore operation.fetchCall)
  | .createLocalFile => shared.startLocalFile id
  | .downloadPart range => shared.startDownloadPart id range
  | .completeDownload => shared.startFinish id
  | .delete => shared.startDelete id
  | .removeBucket =>
      let operation := shared.operation id
      (shared, call id .removeBucket operation.store operation.removeBucketCall)

/-- Reads the range of a part from its file. -/
def readPart (shared : Shared) (id : OperationId) (range : PartSpan) (uploadId : String) :
    Activity :=
  let operation := shared.operation id
  match operation.fileRead, operation.objectWritten with
  | .ok path, .ok object =>
      match shared.disk.readSlice path range.first range.length with
      | .ok body =>
          .sending id (.part range) operation.store
            (.uploadPart object uploadId range.number body)
      | .error error => .reporting id (.partLost .upload error true)
  | .error error, _ => .reporting id (.partLost .upload error true)
  | .ok _, .error error => .reporting id (.partLost .upload error true)

/-- What follows a call that failed. -/
def afterFailure (id : OperationId) (errand : Errand) (error : Failure) : Activity :=
  match errand with
  | .create => .reporting id (.creationFailed error)
  | .part _ => .reporting id (.partLost .upload error true)
  | .fetchPart _ _ => .reporting id (.partLost .download error true)
  | .complete => .reporting id (.completionFailed error)
  | .abort reason => .reporting id (.abortEnded false reason)
  | _ => .settling id (.failed error)

/-- What follows a call that panicked: a part has failed like after an error, and any other task
ends its operation. -/
def afterPanic (id : OperationId) (errand : Errand) (message : String) : Activity :=
  match errand.partSide? with
  | some side => .reporting id (.partLost side (.panicked message) true)
  | none => .settling id (.failed (.panicked message))

/-- What follows a call that succeeded, by its errand and the reply. A reply without a field
that the errand needs is a failure. -/
def afterReply (operation : Operation) (id : OperationId) (errand : Errand) (reply : Reply) :
    Activity :=
  match errand, reply with
  | .put, _ => afterTransfer operation id
  | .copy, _ => afterTransfer operation id
  | .fetch, .object (some body) =>
      match operation.fileWritten with
      | .ok path => .saving id path body
      | .error error => .settling id (.failed error)
  | .fetch, _ => .settling id (.failed (.missingField "GetObject" "Body"))
  | .create, .created (some uploadId) => .reporting id (.created uploadId)
  | .create, _ =>
      .reporting id (.creationFailed (.missingField "CreateMultipartUpload" "UploadId"))
  | .part range, .part (some tag) => .reporting id (.partDone range tag)
  | .part range, .copiedPart (some (some tag)) => .reporting id (.partDone range tag)
  | .part _, .copiedPart _ =>
      .reporting id
        (.partLost .upload (.missingField "UploadPartCopy" "CopyPartResult.ETag") true)
  | .part _, _ =>
      .reporting id (.partLost .upload (.missingField "UploadPart" "ETag") true)
  | .complete, _ => .reporting id .completed
  | .abort reason, _ => .reporting id (.abortEnded true reason)
  | .fetchPart range file, .object (some body) =>
      match operation.fileWritten with
      | .ok path => .writing id (.part range) path file range.first body
      | .error error => .reporting id (.partLost .download error true)
  | .fetchPart _ _, _ =>
      .reporting id (.partLost .download (.missingField "GetObject" "Body") true)
  | .delete, _ => .settling id .succeeded
  | .removeBucket, _ => .settling id .succeeded

/-- An answer as the caller sees it: a reply that does not fit the call is a failure. -/
def seen (call : Call) : Answer → Answer
  | .reply reply => reply.fitted call
  | other => other

/-- The answer to a call has come. -/
def receive (shared : Shared) (id : OperationId) (errand : Errand) (store : StoreName)
    (call : Call) (answer : Answer) : Shared × Activity :=
  let answer := seen call answer
  (shared.note (.answered store id call answer),
    match answer with
    | .reply reply => afterReply (shared.operation id) id errand reply
    | .failed error => afterFailure id errand error
    | .panicked message => afterPanic id errand message)

/-- A report to the state of an upload or a copy. -/
def reportUpload (shared : Shared) (id : OperationId) (upload : Multipart.Upload) :
    Report → Shared × Activity
  | .created uploadId => (shared.setUpload id (upload.created uploadId), .feeding id .upload)
  | .creationFailed error =>
      (shared.setUpload id (upload.creationFailed error.message), .settling id (.failed error))
  | .partDone range tag =>
      let result := upload.partFinished range.number tag
      (shared.setUpload id result.2,
        match result.1 with
        | .wait => .feeding id .upload
        | step => afterReport id step)
  | .partLost _ error began =>
      let result :=
        if began then upload.partLost error.message else upload.partRefused error.message
      (shared.setUpload id result.2, afterReport id result.1)
  | .completed =>
      (shared.setUpload id upload.completed, afterTransfer (shared.operation id) id)
  | .completionFailed error =>
      let result := upload.completionFailed error.message
      (shared.setUpload id result.2, afterReport id result.1)
  | .abortEnded aborted reason =>
      (shared.setUpload id (upload.abortEnded aborted), .settling id (.undone reason))
  | .opened _ | .partWritten _ => (shared, .idle)

/-- A report to the state of a download. -/
def reportDownload (shared : Shared) (id : OperationId) (download : Multipart.Download) :
    Report → Shared × Activity
  | .opened file => (shared.setDownload id (download.opened file), .feeding id .download)
  | .partWritten _ =>
      let result := download.partFinished
      (shared.setDownload id result.2,
        if result.1 then .following id .finish else .feeding id .download)
  | .partLost _ error began =>
      let result := download.partLost error.message began
      (shared.setDownload id result.2, if result.1 then .following id .finish else .idle)
  | _ => (shared, .idle)

/-- The side that a report is for. -/
def sideOf : Report → Side
  | .opened _ | .partWritten _ => .download
  | .partLost side _ _ => side
  | _ => .upload

/-- A report to the state of the operation. -/
def report (shared : Shared) (id : OperationId) (report : Report) : Shared × Activity :=
  let operation := shared.operation id
  match sideOf report, operation.upload, operation.download with
  | .upload, some upload, _ => shared.reportUpload id upload report
  | .download, _, some download => shared.reportDownload id download report
  | _, _, _ => (shared, .idle)

/-- Claims the next part to be queued. -/
def feed (shared : Shared) (id : OperationId) (side : Side) : Shared × Activity :=
  let operation := shared.operation id
  match side with
  | .upload =>
      match operation.upload.bind (·.handOutPart?) with
      | some (index, upload) => (shared.setUpload id upload, .offering id .upload index)
      | none => (shared, .idle)
  | .download =>
      match operation.download.bind (·.handOutPart?) with
      | some (index, download) => (shared.setDownload id download, .offering id .download index)
      | none => (shared, .idle)

/-- Offers a claimed part to the queue. -/
def offer (shared : Shared) (id : OperationId) (side : Side) (index : Nat) (policy : Policy) :
    Shared × Activity :=
  let entry := partEntry (shared.operation id) id side index
  match shared.queue.insert entry (policy entry) with
  | .accepted queue => (shared.accept entry queue, .feeding id side)
  | .full => (shared, .deferring id side index)
  | .refused error => (shared, .reporting id (.partLost side error false))

/-- Gives back a claimed part that the queue had no room for, if it is not the only one. -/
def defer (shared : Shared) (id : OperationId) (side : Side) (index : Nat) : Shared × Activity :=
  let operation := shared.operation id
  match side with
  | .upload =>
      match operation.upload.bind (·.putBackPart? index) with
      | some upload => (shared.setUpload id upload, .idle)
      | none => (shared, .forcing id .upload index)
  | .download =>
      match operation.download.bind (·.putBackPart? index) with
      | some download => (shared.setDownload id download, .idle)
      | none => (shared, .forcing id .download index)

/-- Queues the only outstanding part of an operation whether or not there is room. -/
def force (shared : Shared) (id : OperationId) (side : Side) (index : Nat) (policy : Policy) :
    Shared × Activity :=
  let entry := partEntry (shared.operation id) id side index
  match shared.queue.insertAnyway entry (policy entry) with
  | .accepted queue => (shared.accept entry queue, .idle)
  | .full => (shared, .idle)
  | .refused error => (shared, .reporting id (.partLost side error false))

/-- What is done about a follow-up that was refused: an upload that cannot be completed is
aborted, an abort and the finish of a download are done at once, and a move whose source cannot
be deleted has failed. -/
def afterRefusal (id : OperationId) (error : Failure) : FollowUp → Activity
  | .complete => .reporting id (.completionFailed error)
  | .abort => .starting id .abortUpload
  | .finish => .starting id .completeDownload
  | .delete => .settling id (.failed error)

/-- Queues a follow-up. -/
def follow (shared : Shared) (id : OperationId) (followUp : FollowUp) (policy : Policy) :
    Shared × Activity :=
  let entry := (shared.operation id).followUpEntry id followUp.chore
  match shared.queue.insertAnyway entry (policy entry) with
  | .accepted queue => (shared.accept entry queue, .idle)
  | .full => (shared, .idle)
  | .refused error => (shared, afterRefusal id error followUp)

/-- Opens the file that a fetched object is saved to. -/
def save (shared : Shared) (id : OperationId) (path : LocalPath) (body : Reader) :
    Shared × Activity :=
  match shared.disk.openNew path with
  | (.ok file, disk) =>
      ({ shared with disk := disk }.note (.opened id path file),
        .writing id .whole path file 0 body)
  | (.error error, disk) => ({ shared with disk := disk }, .discarding id path (.failed error))

/-- What follows a body that could not be written to its end. -/
def afterWriteFailure (id : OperationId) (extent : Extent) (path : LocalPath) (cause : IoCause) :
    Activity :=
  match extent with
  | .whole => .discarding id path (.failed (.io path cause))
  | .part _ => .reporting id (.partLost .download (.io path cause) true)

/-- What follows a body that was written to its end. -/
def afterWrite (id : OperationId) (extent : Extent) (path : LocalPath) : Activity :=
  match extent with
  | .whole => .stamping id path
  | .part range => .reporting id (.partWritten range)

/-- Writes the next piece of a body. -/
def write (shared : Shared) (id : OperationId) (extent : Extent) (path : LocalPath)
    (file : FileId) (offset : Nat) : Reader → Shared × Activity
  | [] => (shared, afterWrite id extent path)
  | .interrupted :: rest => (shared, .writing id extent path file offset rest)
  | .failure message :: _ => (shared, afterWriteFailure id extent path (.stated message))
  | .piece bytes :: rest =>
      if bytes.isEmpty then (shared, afterWrite id extent path)
      else
        ({ shared with disk := shared.disk.write file offset bytes }.note
            (.wrote id extent file offset (shared.disk.format.fitting offset bytes)),
          match shared.disk.format.writeRefusal? offset bytes.length with
          | some cause => afterWriteFailure id extent path cause
          | none => .writing id extent path file (offset + bytes.length) rest)

/-- Gives a downloaded file the time of its object, as far as that is possible. -/
def stamp (shared : Shared) (id : OperationId) (path : LocalPath) : Shared × Activity :=
  let operation := shared.operation id
  let stamped := match operation.record.modified with
    | none => shared
    | some time =>
        match shared.disk.setModified path time with
        | .ok disk => { shared with disk := disk }
        | .error _ => shared
  (stamped, afterTransfer operation id)

/-- One step of a worker, if it can take one: it waits for a job while the queue is empty and
open, and a dismissed worker does nothing more. -/
def work (shared : Shared) (surroundings : Surroundings) : Activity → Option (Shared × Activity)
  | .idle =>
      match shared.queue.take? with
      | some (job, queue) =>
          some ({ shared with queue := queue }.note (.taken job),
            match job with
            | .run task => .starting task.operation task.chore
            | .dismissal => .dismissed)
      | none => if shared.queue.closed then some (shared, .dismissed) else none
  | .dismissed => none
  | .starting id chore => some (shared.start id chore)
  | .reading id range uploadId => some (shared, shared.readPart id range uploadId)
  | .sending id errand store call =>
      some (shared.note (.called store id call), .awaiting id errand store call)
  | .awaiting id errand store call =>
      some (shared.receive id errand store call surroundings.answer)
  | .reporting id report => some (shared.report id report)
  | .feeding id side => some (shared.feed id side)
  | .offering id side index => some (shared.offer id side index surroundings.policy)
  | .deferring id side index => some (shared.defer id side index)
  | .forcing id side index => some (shared.force id side index surroundings.policy)
  | .following id followUp => some (shared.follow id followUp surroundings.policy)
  | .saving id path body => some (shared.save id path body)
  | .writing id extent path file offset body =>
      some (shared.write id extent path file offset body)
  | .stamping id path => some (shared.stamp id path)
  | .discarding id path outcome =>
      some ({ shared with disk := shared.disk.discard path }.note (.discarded id path),
        .settling id outcome)
  | .settling id outcome => some (shared.settle id outcome, .idle)

end Shared
end BulkTransfer.Pool
