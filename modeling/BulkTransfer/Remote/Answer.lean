import BulkTransfer.Error
import BulkTransfer.Reader
import BulkTransfer.Remote.Call
import BulkTransfer.Text.Quoted
import BulkTransfer.Time

/-!
# Answers of a store

A call returns a reply, returns an error, or panics. Each kind of reply fits only some calls;
one that does not fit its call is an error that quotes the reply (`Reply.fitted`), so a caller
sees either a reply of the right kind or a failure.
-/

namespace BulkTransfer

/-- What a store says to a successful call. Everything a provider may leave out is optional. -/
inductive Reply where
  | stored (tag : Option String)
  | created (uploadId : Option String)
  | part (tag : Option String)
  | copiedPart (result : Option (Option String))
  | object (body : Option Reader)
  | head (size : Nat) (modified : Option Time)
  | done
  deriving DecidableEq, Repr

/-- The outcome of a call. -/
inductive Answer where
  | reply (reply : Reply)
  | failed (error : Failure)
  | panicked (message : String)
  deriving DecidableEq, Repr

namespace Reply

/-- A value that may be absent, as a quoted reply shows it. -/
def showOption (shown : Option String) : String :=
  match shown with
  | some text => "Some(" ++ text ++ ")"
  | none => "None"

/-- A field of a quoted reply: the name of the record, the name of the field, and its value. -/
def showField (record field value : String) : String :=
  record ++ " \x7b " ++ field ++ ": " ++ value ++ " \x7d"

/-- A byte string in a quoted reply. -/
def showBytes (bytes : Bytes) : String :=
  "[" ++ String.intercalate ", " (bytes.map fun byte => toString byte.toNat) ++ "]"

/-- A moment in a quoted reply. -/
def showTime (time : Time) : String :=
  "SystemTime \x7b tv_sec: " ++ toString time.seconds ++ ", tv_nsec: " ++
    toString time.nanoseconds ++ " \x7d"

/-- A reply as it is quoted. -/
def shown : Reply → String
  | .stored tag =>
      "PutObject(" ++ showField "PutObjectOutput" "e_tag" (showOption (tag.map Text.quoted)) ++ ")"
  | .created uploadId =>
      "CreateMultipartUpload(" ++ showField "CreateMultipartUploadOutput" "upload_id"
        (showOption (uploadId.map Text.quoted)) ++ ")"
  | .part tag =>
      "UploadPart(" ++ showField "UploadPartOutput" "e_tag" (showOption (tag.map Text.quoted)) ++
        ")"
  | .copiedPart result =>
      "UploadPartCopy(" ++ showField "UploadPartCopyOutput" "copy_part_result"
        (showOption (result.map fun tag =>
          showField "CopyPartResult" "e_tag" (showOption (tag.map Text.quoted)))) ++ ")"
  | .object body =>
      "GetObject(" ++ showOption (body.map fun reader =>
        showBytes (Reader.delivered reader)) ++ ")"
  | .head size modified =>
      "HeadObject(HeadObjectOutput \x7b content_length: " ++ toString size ++
        ", last_modified: " ++ showOption (modified.map showTime) ++ " \x7d)"
  | .done => "Empty"

/-- The reply as one to the given call, if it is of a kind that the call can have. A plain
success also answers the upload or the copy of a part, without a tag. -/
def fit? (reply : Reply) (call : Call) : Option Reply :=
  match call, reply with
  | .putObject .., .stored tag => some (.stored tag)
  | .createUpload .., .created uploadId => some (.created uploadId)
  | .uploadPart .., .part tag => some (.part tag)
  | .uploadPart .., .done => some (.part none)
  | .copyPart .., .copiedPart result => some (.copiedPart result)
  | .copyPart .., .done => some (.copiedPart none)
  | .completeUpload .., .done => some .done
  | .abortUpload .., .done => some .done
  | .copyObject .., .done => some .done
  | .getObject .., .object body => some (.object body)
  | .headObject .., .head size modified => some (.head size modified)
  | .deleteObject .., .done => some .done
  | .deleteBucket .., .done => some .done
  | _, _ => none

/-- The reply as an answer to the given call: itself if it fits, else an error that quotes it. -/
def fitted (reply : Reply) (call : Call) : Answer :=
  match reply.fit? call with
  | some reply => .reply reply
  | none => .failed (.remote call.name ("scripted response does not fit: " ++ reply.shown))

end Reply
end BulkTransfer
