import BulkTransfer.Multipart.Download
import BulkTransfer.Multipart.Upload
import BulkTransfer.Pool.Task
import BulkTransfer.Record
import BulkTransfer.Remote.ContentType
import BulkTransfer.Remote.CopySource
import BulkTransfer.Settings.Params

/-!
# Operations

An operation is a record on its way through a run: the stores that its calls go to, and the
state of its parts if it is done in several. The functions here say which call each of its tasks
makes, and why there is none if the record does not fit the task.
-/

namespace BulkTransfer.Pool

/-- One operation of a run. -/
structure Operation where
  record : Record
  store : StoreName
  sourceStore : StoreName
  params : Params := {}
  upload : Option Multipart.Upload := none
  download : Option Multipart.Download := none
  deriving DecidableEq, Repr

instance : Inhabited Operation where
  default := ⟨.delete (.file ⟨""⟩), "", "", {}, none, none⟩

namespace Operation

/-- The operation of a record. Stores of the record itself count before the given ones, and
without one of its own the source's side uses the destination's store. -/
def ofRecord (record : Record) (store : StoreName) (sourceStore : Option StoreName)
    (params : Params) : Operation :=
  let destinationStore := record.store.getD store
  { record := record
    store := destinationStore
    sourceStore := (record.sourceStore.orElse fun _ => sourceStore).getD destinationStore
    params := params }

/-- The failure of the operation with a misfit. -/
def misfit (operation : Operation) (problem : Misfit) : Failure :=
  operation.record.misfit problem

/-- The object at the source. -/
def objectRead (operation : Operation) : Except Failure ObjectName :=
  match operation.record.source.object? with
  | some object => .ok object
  | none => .error (operation.misfit .sourceNotRemote)

/-- The object at the destination. -/
def objectWritten (operation : Operation) : Except Failure ObjectName :=
  match operation.record.destination.bind Location.object? with
  | some object => .ok object
  | none => .error (operation.misfit .destinationNotRemote)

/-- The path of the source. -/
def fileRead (operation : Operation) : Except Failure LocalPath :=
  match operation.record.source.path? with
  | some path => .ok path
  | none => .error (operation.misfit .sourceNotLocal)

/-- The path of the destination. -/
def fileWritten (operation : Operation) : Except Failure LocalPath :=
  match operation.record.destination.bind Location.path? with
  | some path => .ok path
  | none => .error (operation.misfit .destinationNotLocal)

/-- The content type of the created object: the given one, or one guessed from the source's
name if that is wanted. -/
def contentType (operation : Operation) : Option String :=
  match operation.params.contentType with
  | some contentType => some contentType
  | none =>
      if operation.params.guessContentType then
        operation.record.source.fileName?.bind ContentType.guess?
      else none

/-- What the created object is given. -/
def attributes (operation : Operation) : ObjectAttributes :=
  ⟨operation.contentType, operation.params.acl, operation.params.storageClass⟩

/-- The call that copies the source object as a whole. -/
def copyCall (operation : Operation) : Except Failure Call := do
  let source ← operation.objectRead
  let object ← operation.objectWritten
  .ok (.copyObject object (CopySource.encode source) operation.attributes)

/-- The call that fetches the source object as a whole, to a path. -/
def fetchCall (operation : Operation) : Except Failure Call := do
  let source ← operation.objectRead
  let _ ← operation.fileWritten
  .ok (.getObject source none)

/-- The call that fetches a range of the source object. -/
def fetchPartCall (operation : Operation) (range : PartSpan) : Except Failure Call := do
  let source ← operation.objectRead
  .ok (.getObject source (some range.openHeader))

/-- The call that creates the multipart upload. -/
def createCall (operation : Operation) : Except Failure Call := do
  let object ← operation.objectWritten
  .ok (.createUpload object operation.attributes)

/-- The call that copies a range of the source object as a part. -/
def copyPartCall (operation : Operation) (uploadId : String) (range : PartSpan) :
    Except Failure Call := do
  let source ← operation.objectRead
  let object ← operation.objectWritten
  .ok (.copyPart object uploadId range.number (CopySource.encode source) range.boundedHeader)

/-- The call that completes the multipart upload. -/
def completeCall (operation : Operation) (uploadId : String) (parts : List FinishedPart) :
    Except Failure Call := do
  let object ← operation.objectWritten
  .ok (.completeUpload object uploadId parts)

/-- The call that aborts the multipart upload. -/
def abortCall (operation : Operation) (uploadId : String) : Except Failure Call := do
  let object ← operation.objectWritten
  .ok (.abortUpload object uploadId)

/-- The call that deletes the source object. -/
def deleteCall (operation : Operation) : Except Failure Call := do
  let source ← operation.objectRead
  .ok (.deleteObject source)

/-- The call that removes the bucket. -/
def removeBucketCall (operation : Operation) : Except Failure Call := do
  let source ← operation.objectRead
  .ok (.deleteBucket source.bucket)

/-- The queue entry for a task of the operation. -/
def entry (operation : Operation) (id : OperationId) (chore : Chore) (priority : Priority) :
    Entry Job :=
  ⟨.run ⟨id, chore⟩, priority, chore.name ++ " task for " ++ operation.record.describe⟩

/-- The queue entry for the first task of the operation. -/
def firstEntry (operation : Operation) (id : OperationId) (chore : Chore) : Entry Job :=
  operation.entry id chore .normal

/-- The queue entry for a task that follows from one under way. -/
def followUpEntry (operation : Operation) (id : OperationId) (chore : Chore) : Entry Job :=
  operation.entry id chore .immediate

end Operation
end BulkTransfer.Pool
