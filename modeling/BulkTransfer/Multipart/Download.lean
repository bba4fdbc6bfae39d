import BulkTransfer.Multipart.Progress

/-!
# Multipart downloads

The state that the tasks of one multipart download share: the file that the parts are written
to, from when it is opened until the download is finished, and the progress of the parts.
-/

namespace BulkTransfer.Multipart

/-- The state of one multipart download. -/
structure Download where
  chunksize : Nat
  progress : Progress
  file : Option Nat := none
  deriving DecidableEq, Repr

namespace Download

/-- A download in the given number of parts whose file is not open yet. -/
def ofParts (parts chunksize : Nat) : Download :=
  { chunksize := chunksize, progress := { total := parts } }

/-- Hands over the opened file. -/
def opened (download : Download) (file : Nat) : Download :=
  { download with file := some file }

/-- Enters a part and gives the file to write it to; the part is skipped (`none`) if parts are
not entered. -/
def enterPart? (download : Download) : Option (Nat × Download) :=
  download.file.bind fun file =>
    download.progress.enter?.map fun progress => (file, { download with progress := progress })

/-- The end of the download, if the event before it was the last one to wait for. -/
def advance (download : Download) : Bool × Download :=
  match download.progress.claimEnd? with
  | some progress => (true, { download with progress := progress })
  | none => (false, download)

/-- Records a part that was written, and says whether the download is to be finished. -/
def partFinished (download : Download) : Bool × Download :=
  { download with progress := download.progress.partFinished }.advance

/-- Records a part that failed, and says whether the download is to be finished. -/
def partLost (download : Download) (reason : String) (began : Bool) : Bool × Download :=
  { download with progress := download.progress.partLost reason began }.advance

/-- Closes the file, and says why the download failed if it did. -/
def finish (download : Download) : Option String × Download :=
  (download.progress.failure, { download with file := none })

/-- The index of the part to be queued next, if one is left. -/
def handOutPart? (download : Download) : Option (Nat × Download) :=
  if download.file.isSome then
    download.progress.handOut?.map fun handed =>
      (handed.1, { download with progress := handed.2 })
  else none

/-- Puts back a part that the queue had no room for, unless it is the only one outstanding. -/
def putBackPart? (download : Download) (index : Nat) : Option Download :=
  (download.progress.putBack? index).map fun progress => { download with progress := progress }

end Download
end BulkTransfer.Multipart
