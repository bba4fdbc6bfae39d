import BulkTransfer.Parts.Span
import BulkTransfer.Queue

/-!
# Tasks

A task is one remote call or one step on the local file system of an operation. The first task
of an operation is admitted at normal priority, all that follow from it at once.
-/

namespace BulkTransfer.Pool

/-- What identifies an operation in a run. -/
abbrev OperationId := Nat

/-- What a task does. -/
inductive Chore where
  | singleUpload
  | createUpload
  | uploadPart (range : PartSpan)
  | copyPart (range : PartSpan)
  | completeUpload
  | abortUpload
  | copy
  | download
  | createLocalFile
  | downloadPart (range : PartSpan)
  | completeDownload
  | delete
  | removeBucket
  deriving DecidableEq, Repr

/-- The name of what a task does. -/
def Chore.name : Chore → String
  | .singleUpload => "SingleUpload"
  | .createUpload => "CreateMultipartUpload"
  | .uploadPart _ => "UploadPart"
  | .copyPart _ => "CopyPart"
  | .completeUpload => "CompleteMultipartUpload"
  | .abortUpload => "AbortMultipartUpload"
  | .copy => "Copy"
  | .download => "Download"
  | .createLocalFile => "CreateLocalFile"
  | .downloadPart _ => "DownloadPart"
  | .completeDownload => "CompleteDownload"
  | .delete => "Delete"
  | .removeBucket => "RemoveBucket"

/-- The chore of the given name; one that moves a part moves `range`. -/
def Chore.ofName? (range : PartSpan) (name : String) : Option Chore :=
  [.singleUpload, .createUpload, .uploadPart range, .copyPart range, .completeUpload,
    .abortUpload, .copy, .download, .createLocalFile, .downloadPart range, .completeDownload,
    .delete, .removeBucket].find? (Chore.name · = name)

/-- A task of an operation. -/
structure Task where
  operation : OperationId
  chore : Chore
  deriving DecidableEq, Repr

/-- What the queue of a run holds: tasks, and sentinels that dismiss one worker each. -/
inductive Job where
  | run (task : Task)
  | dismissal
  deriving DecidableEq, Repr

/-- The queue entry that dismisses a worker, after everything else has been done. -/
def dismissal : Entry Job :=
  ⟨.dismissal, .shutdown, "shutdown sentinel"⟩

/-- An admission policy: why an entry is refused, if it is. -/
abbrev Policy := Entry Job → Option String

/-- An admission policy that knows what it has admitted before, latest first. -/
abbrev Admission := List (Entry Job) → Policy

/-- The name of what an entry's task does, if the entry is a task. -/
def choreName? (entry : Entry Job) : Option String :=
  match entry.item with
  | .run task => some task.chore.name
  | .dismissal => none

/-- A policy that refuses the named chores. -/
def Admission.refusing (names : List String) : Admission := fun _ entry =>
  (choreName? entry).bind fun name =>
    if name ∈ names then some (name ++ " tasks are not allowed") else none

/-- A policy that admits each of the named chores a number of times, and all others always. -/
def Admission.limiting (limits : List (String × Nat)) : Admission := fun admitted entry =>
  (choreName? entry).bind fun name =>
    (limits.lookup name).bind fun limit =>
      if admitted.countP (choreName? · = some name) < limit then none
      else some ("no more " ++ name ++ " for " ++ entry.label)

end BulkTransfer.Pool
