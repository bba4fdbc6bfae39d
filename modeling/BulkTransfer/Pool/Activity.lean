import BulkTransfer.Disk
import BulkTransfer.Pool.Operation
import BulkTransfer.Remote.Answer
import BulkTransfer.Status.Notice

/-!
# Activities of workers

What a worker is doing between two accesses to what the workers share. A worker takes a job from
the queue, and the job leads it through calls, file accesses, reports to the state of a
multipart operation and insertions of follow-ups, until it is idle again.
-/

namespace BulkTransfer.Pool

/-- The side to which the parts of an operation are moved. -/
inductive Side where
  | upload
  | download
  deriving DecidableEq, Repr

/-- How an operation ends. An operation is undone when its upload was aborted or its file was
removed for the reason that was recorded first. -/
inductive Outcome where
  | succeeded
  | failed (error : Failure)
  | undone (reason : String)
  deriving DecidableEq, Repr

/-- What a call is made for. -/
inductive Errand where
  | put
  | copy
  | fetch
  | create
  | part (range : PartSpan)
  | complete
  | abort (reason : String)
  | fetchPart (range : PartSpan) (file : FileId)
  | delete
  | removeBucket
  deriving DecidableEq, Repr

/-- The side of the part that a call moves, if it moves one. -/
def Errand.partSide? : Errand → Option Side
  | .part _ => some .upload
  | .fetchPart _ _ => some .download
  | _ => none

/-- What a worker reports to the state of a multipart operation. -/
inductive Report where
  | created (uploadId : String)
  | creationFailed (error : Failure)
  | opened (file : FileId)
  | partDone (range : PartSpan) (tag : String)
  | partWritten (range : PartSpan)
  | partLost (side : Side) (error : Failure) (began : Bool)
  | completed
  | completionFailed (error : Failure)
  | abortEnded (aborted : Bool) (reason : String)
  deriving DecidableEq, Repr

/-- A task that is queued when the one before it has ended. -/
inductive FollowUp where
  | complete
  | abort
  | finish
  | delete
  deriving DecidableEq, Repr

/-- What the task of a follow-up does. -/
def FollowUp.chore : FollowUp → Chore
  | .complete => .completeUpload
  | .abort => .abortUpload
  | .finish => .completeDownload
  | .delete => .delete

/-- What a written body is: a whole object, or a part of one. -/
inductive Extent where
  | whole
  | part (range : PartSpan)
  deriving DecidableEq, Repr

/-- What a worker is doing. -/
inductive Activity where
  | idle
  | dismissed
  | starting (operation : OperationId) (chore : Chore)
  | reading (operation : OperationId) (range : PartSpan) (uploadId : String)
  | sending (operation : OperationId) (errand : Errand) (store : StoreName) (call : Call)
  | awaiting (operation : OperationId) (errand : Errand) (store : StoreName) (call : Call)
  | reporting (operation : OperationId) (report : Report)
  | feeding (operation : OperationId) (side : Side)
  | offering (operation : OperationId) (side : Side) (index : Nat)
  | deferring (operation : OperationId) (side : Side) (index : Nat)
  | forcing (operation : OperationId) (side : Side) (index : Nat)
  | following (operation : OperationId) (followUp : FollowUp)
  | saving (operation : OperationId) (path : LocalPath) (body : Reader)
  | writing (operation : OperationId) (extent : Extent) (path : LocalPath) (file : FileId)
      (offset : Nat) (body : Reader)
  | stamping (operation : OperationId) (path : LocalPath)
  | discarding (operation : OperationId) (path : LocalPath) (outcome : Outcome)
  | settling (operation : OperationId) (outcome : Outcome)
  deriving DecidableEq, Repr

/-- The operation that a worker works on. -/
def Activity.operation? : Activity → Option OperationId
  | .idle | .dismissed => none
  | .starting operation _ => some operation
  | .reading operation _ _ => some operation
  | .sending operation _ _ _ => some operation
  | .awaiting operation _ _ _ => some operation
  | .reporting operation _ => some operation
  | .feeding operation _ => some operation
  | .offering operation _ _ => some operation
  | .deferring operation _ _ => some operation
  | .forcing operation _ _ => some operation
  | .following operation _ => some operation
  | .saving operation _ _ => some operation
  | .writing operation _ _ _ _ _ => some operation
  | .stamping operation _ => some operation
  | .discarding operation _ _ => some operation
  | .settling operation _ => some operation

end BulkTransfer.Pool
