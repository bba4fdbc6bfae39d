import BulkTransfer.Multipart.Progress
import BulkTransfer.Remote.Call

/-!
# Multipart uploads and copies

The state that the tasks of one multipart upload or copy share. An upload is created once, its
parts run in any order, and then it is either completed with the tags of its parts or aborted.
What to do next is told to whoever reports the last event before it, and to nobody else.
-/

namespace BulkTransfer.Multipart

/-- How far a multipart upload is. -/
inductive Phase where
  | notStarted
  | creating
  | creationFailed
  | partsInFlight
  | completing
  | completed
  | aborting
  | aborted
  | abortFailed
  deriving DecidableEq, Repr

/-- The name of a phase. -/
def Phase.name : Phase → String
  | .notStarted => "NotStarted"
  | .creating => "Creating"
  | .creationFailed => "CreateFailed"
  | .partsInFlight => "PartsInFlight"
  | .completing => "Completing"
  | .completed => "Completed"
  | .aborting => "Aborting"
  | .aborted => "Aborted"
  | .abortFailed => "AbortFailed"

/-- Whether a phase is the last one. -/
def Phase.isTerminal : Phase → Bool
  | .creationFailed | .completed | .aborted | .abortFailed => true
  | _ => false

/-- What is to be done after an event. -/
inductive NextStep where
  | wait
  | complete
  | abort
  deriving DecidableEq, Repr

/-- The state of one multipart upload or copy. The finished parts are kept in the order of their
numbers. -/
structure Upload where
  chunksize : Nat
  progress : Progress
  phase : Phase := .notStarted
  uploadId : Option String := none
  parts : List FinishedPart := []
  deriving DecidableEq, Repr

namespace Upload

/-- An upload in the given number of parts that has not started. -/
def ofParts (parts chunksize : Nat) : Upload :=
  { chunksize := chunksize, progress := { total := parts } }

/-- A list of finished parts with one more, which replaces an earlier one of its number. -/
def insertPart (part : FinishedPart) : List FinishedPart → List FinishedPart
  | [] => [part]
  | first :: rest =>
      if part.number < first.number then part :: first :: rest
      else if part.number = first.number then part :: rest
      else first :: insertPart part rest

/-- Claims the creation, once. -/
def claimCreation? (upload : Upload) : Option Upload :=
  if upload.phase = .notStarted then some { upload with phase := .creating } else none

/-- Records the identifier that the store gave to the upload. -/
def created (upload : Upload) (uploadId : String) : Upload :=
  { upload with uploadId := some uploadId, phase := .partsInFlight }

/-- Records that the upload could not be created; nothing is left to be done. -/
def creationFailed (upload : Upload) (reason : String) : Upload :=
  { upload with
    phase := .creationFailed
    progress := { upload.progress.partLost reason false with endClaimed := true } }

/-- Enters a part; the part is skipped (`none`) if parts are no longer entered. -/
def enterPart? (upload : Upload) : Option (Option String × Upload) :=
  if upload.phase = .partsInFlight then
    upload.progress.enter?.map fun progress =>
      (upload.uploadId, { upload with progress := progress })
  else none

/-- The end of the upload, if the event before it was the last one to wait for. -/
def advance (upload : Upload) : NextStep × Upload :=
  match upload.progress.claimEnd? with
  | none => (.wait, upload)
  | some progress =>
      if progress.failure.isSome then
        (.abort, { upload with progress := progress, phase := .aborting })
      else (.complete, { upload with progress := progress, phase := .completing })

/-- Records the tag of a part. -/
def partFinished (upload : Upload) (number : Nat) (tag : String) : NextStep × Upload :=
  { upload with
    parts := insertPart ⟨number, tag⟩ upload.parts
    progress := upload.progress.partFinished }.advance

/-- Records a part that was entered and failed. -/
def partLost (upload : Upload) (reason : String) : NextStep × Upload :=
  { upload with progress := upload.progress.partLost reason true }.advance

/-- Records a part that could not even be queued. -/
def partRefused (upload : Upload) (reason : String) : NextStep × Upload :=
  { upload with progress := upload.progress.partLost reason false }.advance

/-- The identifier and the parts with which to complete the upload, while that is to be done. -/
def toComplete? (upload : Upload) : Option (String × List FinishedPart) :=
  if upload.phase = .completing then upload.uploadId.map fun uploadId => (uploadId, upload.parts)
  else none

/-- Records that the upload is complete. -/
def completed (upload : Upload) : Upload :=
  { upload with phase := .completed }

/-- Records that the upload could not be completed; it is aborted instead. -/
def completionFailed (upload : Upload) (reason : String) : NextStep × Upload :=
  if upload.phase = .completing then
    (.abort, { upload with phase := .aborting, progress := upload.progress.markFailed reason })
  else (.wait, upload)

/-- The identifier of the upload to be aborted and the reason for it, while that is to be
done. -/
def toAbort? (upload : Upload) : Option (String × String) :=
  if upload.phase = .aborting then
    upload.uploadId.map fun uploadId =>
      (uploadId, upload.progress.failure.getD "multipart transfer failed")
  else none

/-- Records whether the upload could be aborted. -/
def abortEnded (upload : Upload) (aborted : Bool) : Upload :=
  { upload with phase := if aborted then .aborted else .abortFailed }

/-- The index of the part to be queued next, if one is left. -/
def handOutPart? (upload : Upload) : Option (Nat × Upload) :=
  if upload.phase = .partsInFlight then
    upload.progress.handOut?.map fun handed => (handed.1, { upload with progress := handed.2 })
  else none

/-- Puts back a part that the queue had no room for, unless it is the only one outstanding. -/
def putBackPart? (upload : Upload) (index : Nat) : Option Upload :=
  (upload.progress.putBack? index).map fun progress => { upload with progress := progress }

end Upload
end BulkTransfer.Multipart
