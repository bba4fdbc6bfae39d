import BulkTransfer.Error
import BulkTransfer.Location
import BulkTransfer.Time

/-!
# Transfer records

A record describes one operation on whole files or objects: what kind it is, from where to
where, and what is known of the source. Its shape decides what has to be done (`Record.action`);
records whose locations do not fit their kind are refused.
-/

namespace BulkTransfer

/-- What a record asks for. -/
inductive RecordKind where
  | upload
  | download
  | copy
  | move
  | delete
  | removeBucket
  deriving DecidableEq, Repr

/-- The name of a kind in status lines. -/
def RecordKind.name : RecordKind → String
  | .upload => "upload"
  | .download => "download"
  | .copy => "copy"
  | .move => "move"
  | .delete => "delete"
  | .removeBucket => "remove_bucket"

/-- The kind of the given name. -/
def RecordKind.ofName? (name : String) : Option RecordKind :=
  [.upload, .download, .copy, .move, .delete, .removeBucket].find? (RecordKind.name · = name)

/-- What has to be done for a record. A move does one of the first three and then deletes its
source. -/
inductive Action where
  | upload
  | download
  | copy
  | delete
  | removeBucket
  deriving DecidableEq, Repr

/-- The name of an action. -/
def Action.name : Action → String
  | .upload => "Upload"
  | .download => "Download"
  | .copy => "Copy"
  | .delete => "Delete"
  | .removeBucket => "RemoveBucket"

/-- The name by which a client of an object store is known. -/
abbrev StoreName := String

/-- One operation on whole files or objects. The size is zero if it is not known; the stores, if
given, replace the defaults for the destination's and the source's side. -/
structure Record where
  kind : RecordKind
  source : Location
  destination : Option Location
  size : Nat := 0
  modified : Option Time := none
  store : Option StoreName := none
  sourceStore : Option StoreName := none
  deriving DecidableEq, Repr

/-- Why a record, or a task on it, does not fit its locations. -/
inductive Misfit where
  | noSourceBucket
  | noDestinationBucket
  | destinationOfRemoveBucket
  | localBucket
  | destinationOfDelete
  | noDestination
  | bothLocal
  | kindDiffers (kind : RecordKind)
  | sourceNotRemote
  | destinationNotRemote
  | sourceNotLocal
  | destinationNotLocal
  | noMultipartState (task : String)
  | notStreamed
  deriving DecidableEq, Repr

/-- The wording of a misfit. -/
def Misfit.message : Misfit → String
  | .noSourceBucket => "remote source has no bucket"
  | .noDestinationBucket => "remote destination has no bucket"
  | .destinationOfRemoveBucket => "remove_bucket takes no destination"
  | .localBucket => "remove_bucket needs a remote bucket"
  | .destinationOfDelete => "delete takes no destination"
  | .noDestination => "transfer needs a destination"
  | .bothLocal => "local to local transfers are not supported"
  | .kindDiffers kind => "locations do not fit a " ++ kind.name
  | .sourceNotRemote => "source is not remote"
  | .destinationNotRemote => "destination is not remote"
  | .sourceNotLocal => "source is not local"
  | .destinationNotLocal => "destination is not local"
  | .noMultipartState task => task ++ " without multipart state"
  | .notStreamed => "not a stream transfer"

namespace Record

/-- The record as it is shown to people. -/
def describe (record : Record) : String :=
  match record.destination with
  | some destination => record.source.shown ++ " to " ++ destination.shown
  | none => record.source.shown

/-- The failure of a record with a misfit. -/
def misfit (record : Record) (problem : Misfit) : Failure :=
  .invalidRecord (problem.message ++ ": " ++ record.describe)

/-- Whether a location is an object without a bucket. -/
def lacksBucket : Location → Bool
  | .object name => name.bucket.isEmpty
  | .file _ => false

/-- The action that moves bytes between two locations. -/
def actionBetween (source destination : Location) : Option Action :=
  match source.isRemote, destination.isRemote with
  | false, true => some .upload
  | true, false => some .download
  | true, true => some .copy
  | false, false => none

/-- Whether a kind of record may resolve to an action on its locations. -/
def admits (kind : RecordKind) (action : Action) : Bool :=
  match kind with
  | .upload => action = .upload
  | .download => action = .download
  | .copy => action = .copy
  | _ => true

/-- What has to be done for a record, or why it is refused. -/
def action (record : Record) : Except Misfit Action :=
  if lacksBucket record.source then .error .noSourceBucket
  else if record.destination.any lacksBucket then .error .noDestinationBucket
  else match record.kind with
    | .removeBucket =>
        if record.destination.isSome then .error .destinationOfRemoveBucket
        else if record.source.isRemote then .ok .removeBucket
        else .error .localBucket
    | .delete =>
        if record.destination.isSome then .error .destinationOfDelete else .ok .delete
    | kind =>
        match record.destination with
        | none => .error .noDestination
        | some destination =>
            match actionBetween record.source destination with
            | none => .error .bothLocal
            | some action =>
                if admits kind action then .ok action else .error (.kindDiffers kind)

/-- A record that uploads a file. -/
def upload (source : LocalPath) (destination : ObjectName) : Record :=
  { kind := .upload, source := .file source, destination := some (.object destination) }

/-- A record that downloads an object. -/
def download (source : ObjectName) (destination : LocalPath) : Record :=
  { kind := .download, source := .object source, destination := some (.file destination) }

/-- A record that copies an object. -/
def copy (source destination : ObjectName) : Record :=
  { kind := .copy, source := .object source, destination := some (.object destination) }

/-- A record that transfers and then deletes its source. -/
def move (source destination : Location) : Record :=
  { kind := .move, source := source, destination := some destination }

/-- A record that deletes a file or an object. -/
def delete (target : Location) : Record :=
  { kind := .delete, source := target, destination := none }

/-- A record that removes an empty bucket. -/
def removeBucket (bucket : String) : Record :=
  { kind := .removeBucket, source := .object ⟨bucket, ""⟩, destination := none }

end Record
end BulkTransfer
