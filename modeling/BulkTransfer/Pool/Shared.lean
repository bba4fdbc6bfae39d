import BulkTransfer.Pool.Activity
import BulkTransfer.Tally

/-!
# What the workers share

The state that the workers and the planner of a run share, and the record of what has happened
in it. Everything that can be seen of a run from outside (calls, writes, outcomes) is an event.
-/

namespace BulkTransfer.Pool

/-- Something that has happened in a run. -/
inductive Event where
  | accepted (job : Job)
  | taken (job : Job)
  | called (store : StoreName) (operation : OperationId) (call : Call)
  | answered (store : StoreName) (operation : OperationId) (call : Call) (answer : Answer)
  | opened (operation : OperationId) (path : LocalPath) (file : FileId)
  | wrote (operation : OperationId) (extent : Extent) (file : FileId) (offset : Nat)
      (piece : Bytes)
  | discarded (operation : OperationId) (path : LocalPath)
  | removedSource (operation : OperationId) (path : LocalPath)
  | settled (operation : OperationId) (message : Notice)
  deriving DecidableEq, Repr

/-- The shared state of a run. Events are kept latest first. -/
structure Shared where
  queue : Queue Job
  operations : List Operation
  disk : Disk
  tally : Tally := {}
  events : List Event := []

namespace Shared

/-- An operation of the run. -/
def operation (shared : Shared) (id : OperationId) : Operation :=
  shared.operations.getD id default

/-- The state after an event. -/
def note (shared : Shared) (event : Event) : Shared :=
  { shared with events := event :: shared.events }

/-- The state with the upload of an operation changed. -/
def setUpload (shared : Shared) (id : OperationId) (upload : Multipart.Upload) : Shared :=
  { shared with
    operations := shared.operations.modify id fun operation =>
      { operation with upload := some upload } }

/-- The state with the download of an operation changed. -/
def setDownload (shared : Shared) (id : OperationId) (download : Multipart.Download) : Shared :=
  { shared with
    operations := shared.operations.modify id fun operation =>
      { operation with download := some download } }

/-- The state with an entry in the queue. -/
def accept (shared : Shared) (entry : Entry Job) (queue : Queue Job) : Shared :=
  { shared with queue := queue }.note (.accepted entry.item)

/-- The message about an operation that has ended, and the tally with it. -/
def verdict (operation : Operation) (tally : Tally) : Outcome → Notice × Tally
  | .succeeded =>
      (.success operation.record.kind.name operation.record.describe,
        { tally with succeeded := tally.succeeded + 1 })
  | .failed error =>
      (.failure operation.record.kind.name operation.record.describe error.message,
        { tally with failed := tally.failed + 1 })
  | .undone reason =>
      (.failure operation.record.kind.name operation.record.describe reason,
        { tally with failed := tally.failed + 1 })

/-- The message about an operation that is refused before its first task is queued, and the tally
with it. An error that only warns skips the operation; any other is its failure. -/
def refusal (operation : Operation) (tally : Tally) (error : Failure) : Notice × Tally :=
  if error.isWarning then (.warning error.message, { tally with warned := tally.warned + 1 })
  else verdict operation tally (.failed error)

/-- The state after a message about an operation, with the tally that counts it. -/
def conclude (shared : Shared) (id : OperationId) (result : Notice × Tally) : Shared :=
  { shared with tally := result.2 }.note (.settled id result.1)

/-- The state after an operation has ended: it is counted once, and one message says so. -/
def settle (shared : Shared) (id : OperationId) (outcome : Outcome) : Shared :=
  shared.conclude id (verdict (shared.operation id) shared.tally outcome)

/-- The state after an operation has been refused: it is counted once, and one message says so. -/
def refuse (shared : Shared) (id : OperationId) (error : Failure) : Shared :=
  shared.conclude id (refusal (shared.operation id) shared.tally error)

/-- The messages about the operations that have ended, first to last. -/
def messages (shared : Shared) : List Notice :=
  shared.events.reverse.filterMap fun
    | .settled _ message => some message
    | _ => none

/-- The calls made in a run, each with its store, first to last. -/
def calls (shared : Shared) : List (StoreName × Call) :=
  shared.events.reverse.filterMap fun
    | .called store _ call => some (store, call)
    | _ => none

end Shared
end BulkTransfer.Pool
