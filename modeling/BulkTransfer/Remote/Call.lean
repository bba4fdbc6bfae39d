import BulkTransfer.Bytes
import BulkTransfer.Location

/-!
# Remote calls

The requests that an object store understands, one constructor for each with its parameters.
-/

namespace BulkTransfer

/-- What a created object is given besides its content. -/
structure ObjectAttributes where
  contentType : Option String
  acl : Option String
  storageClass : Option String
  deriving DecidableEq, Repr

/-- One entry of the list that completes a multipart upload. -/
structure FinishedPart where
  number : Nat
  tag : String
  deriving DecidableEq, Repr

/-- A request to an object store. -/
inductive Call where
  | putObject (object : ObjectName) (body : Bytes) (attributes : ObjectAttributes)
  | createUpload (object : ObjectName) (attributes : ObjectAttributes)
  | uploadPart (object : ObjectName) (uploadId : String) (number : Nat) (body : Bytes)
  | copyPart (object : ObjectName) (uploadId : String) (number : Nat) (source range : String)
  | completeUpload (object : ObjectName) (uploadId : String) (parts : List FinishedPart)
  | abortUpload (object : ObjectName) (uploadId : String)
  | copyObject (object : ObjectName) (source : String) (attributes : ObjectAttributes)
  | getObject (object : ObjectName) (range : Option String)
  | headObject (object : ObjectName)
  | deleteObject (object : ObjectName)
  | deleteBucket (bucket : String)
  deriving DecidableEq, Repr

namespace Call

/-- The provider's name for a call. -/
def name : Call → String
  | .putObject .. => "PutObject"
  | .createUpload .. => "CreateMultipartUpload"
  | .uploadPart .. => "UploadPart"
  | .copyPart .. => "UploadPartCopy"
  | .completeUpload .. => "CompleteMultipartUpload"
  | .abortUpload .. => "AbortMultipartUpload"
  | .copyObject .. => "CopyObject"
  | .getObject .. => "GetObject"
  | .headObject .. => "HeadObject"
  | .deleteObject .. => "DeleteObject"
  | .deleteBucket .. => "DeleteBucket"

/-- The multipart upload that a call belongs to. -/
def uploadId? : Call → Option String
  | .uploadPart _ uploadId .. => some uploadId
  | .copyPart _ uploadId .. => some uploadId
  | .completeUpload _ uploadId _ => some uploadId
  | .abortUpload _ uploadId => some uploadId
  | _ => none

/-- The bucket that a call names. -/
def bucket : Call → String
  | .putObject object .. => object.bucket
  | .createUpload object _ => object.bucket
  | .uploadPart object .. => object.bucket
  | .copyPart object .. => object.bucket
  | .completeUpload object .. => object.bucket
  | .abortUpload object _ => object.bucket
  | .copyObject object .. => object.bucket
  | .getObject object _ => object.bucket
  | .headObject object => object.bucket
  | .deleteObject object => object.bucket
  | .deleteBucket bucket => bucket

end Call
end BulkTransfer
