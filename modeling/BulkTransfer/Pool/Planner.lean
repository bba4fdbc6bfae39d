import BulkTransfer.Pool.Work
import BulkTransfer.Settings.Config

/-!
# The planner of a run

The planner turns records into operations, queues the first task of each, and at the end one
dismissal for every worker; it then waits until all workers have left. A record that cannot be
done, or whose first task is not admitted, is refused at once.
-/

namespace BulkTransfer.Pool

/-- How the operations of a run are planned. -/
structure Plan where
  store : StoreName
  sourceStore : Option StoreName := none
  config : Config := {}
  params : Params := {}
  limits : Limits := {}

/-- What the planner is doing. A proposed entry has yet to pass the admission policy; an entry
that has passed it waits for room in the queue. -/
inductive PlannerStage where
  | planning (records : List Record)
  | proposing (operation : OperationId) (entry : Entry Job) (records : List Record)
  | entering (entry : Entry Job) (records : List Record)
  | dismissing (left : Nat)
  | enteringDismissal (left : Nat)
  | joining
  | ended
  deriving DecidableEq, Repr

namespace Plan

/-- Whether an action on so many bytes is done in several parts. -/
def isMultipart (plan : Plan) (action : Action) (size : Nat) : Bool :=
  (action = .upload || action = .copy || action = .download) && 0 < size &&
    plan.config.multipartThreshold ≤ size

/-- The operation of a record with the state of its parts, and what its first task does. -/
def operationFor (plan : Plan) (record : Record) : Operation :=
  Operation.ofRecord record plan.store plan.sourceStore plan.params

/-- The first task of an action that is done as a whole. -/
def wholeTask : Action → Chore
  | .upload => .singleUpload
  | .copy => .copy
  | .download => .download
  | .delete => .delete
  | .removeBucket => .removeBucket

/-- An operation split into parts for an action, and its first task. -/
def splitFor (operation : Operation) (action : Action) (parts chunksize : Nat) :
    Operation × Chore :=
  match action with
  | .download =>
      ({ operation with download := some (Multipart.Download.ofParts parts chunksize) },
        .createLocalFile)
  | _ =>
      ({ operation with upload := some (Multipart.Upload.ofParts parts chunksize) },
        .createUpload)

/-- The operation of a record and its first task, or why there is none. Records that do not fit
are refused first, then objects that would be too large, then sizes that cannot be split. -/
def resolve (plan : Plan) (record : Record) : Except Failure (Operation × Chore) :=
  let operation := plan.operationFor record
  match record.action with
  | .error problem => .error (record.misfit problem)
  | .ok action =>
      if (action = .upload ∨ action = .copy) ∧ plan.limits.maxObjectSize < record.size then
        .error (.tooLarge record.source.shown record.size plan.limits.maxObjectSize)
      else if plan.isMultipart action record.size then
        (plan.limits.split plan.config.multipartChunksize record.size).map fun split =>
          splitFor operation action split.1 split.2
      else .ok (operation, wholeTask action)

end Plan

namespace Shared

/-- The state with one more operation. -/
def addOperation (shared : Shared) (operation : Operation) : Shared :=
  { shared with operations := shared.operations ++ [operation] }

/-- Plans a record: its first task is proposed, or the operation has ended already. -/
def plan (shared : Shared) (plan : Plan) (record : Record) (records : List Record) :
    Shared × PlannerStage :=
  let id := shared.operations.length
  match plan.resolve record with
  | .ok (operation, chore) =>
      (shared.addOperation operation, .proposing id (operation.firstEntry id chore) records)
  | .error error =>
      ((shared.addOperation (plan.operationFor record)).refuse id error, .planning records)

/-- One step of the planner, if it can take one. It waits while there is no room for its entry,
and for the workers at the end. -/
def advance (shared : Shared) (plan : Plan) (workers : List Activity)
    (surroundings : Surroundings) : PlannerStage → Option (Shared × PlannerStage)
  | .planning (record :: records) => some (shared.plan plan record records)
  | .planning [] => some (shared, .dismissing workers.length)
  | .proposing id entry records =>
      match surroundings.policy entry with
      | some reason => some (shared.refuse id (.rejected entry.label reason), .planning records)
      | none => some (shared, .entering entry records)
  | .entering entry records =>
      match shared.queue.insert entry none with
      | .accepted queue => some (shared.accept entry queue, .planning records)
      | .full => none
      | .refused error =>
          match entry.item with
          | .run task => some (shared.refuse task.operation error, .planning records)
          | .dismissal => some (shared, .planning records)
  | .dismissing 0 => some (shared, .joining)
  | .dismissing (left + 1) =>
      match surroundings.policy dismissal with
      | some _ => some (shared, .joining)
      | none => some (shared, .enteringDismissal left)
  | .enteringDismissal left =>
      match shared.queue.insert dismissal none with
      | .accepted queue => some (shared.accept dismissal queue, .dismissing left)
      | .full => none
      | .refused _ => some (shared, .joining)
  | .joining =>
      if workers.all (· = .dismissed) then
        some ({ shared with queue := shared.queue.close }, .ended)
      else none
  | .ended => none

end Shared
end BulkTransfer.Pool
