import BulkTransfer.Disk
import BulkTransfer.Settings.Config
import BulkTransfer.Settings.Document
import BulkTransfer.Settings.Params

/-!
# Settings from documents

The fields of configurations and parameters in documents, and the reading of a configuration
file.
-/

namespace BulkTransfer

/-- The fields of a configuration. -/
def Config.fields : List (Document.Field Config) :=
  [.of "multipart_threshold" Document.readSize
      fun config size => { config with multipartThreshold := size },
   .of "multipart_chunksize" Document.readSize
      fun config size => { config with multipartChunksize := size },
   .of "max_concurrent_requests" Document.readCount
      fun config count => { config with maxConcurrentRequests := count },
   .of "max_queue_size" Document.readCount
      fun config count => { config with maxQueueSize := count }]

/-- The configuration in a document. -/
def Config.read (text : String) : Except Failure Config :=
  (Document.read Config.fields {} text).mapError .config

/-- The configuration in a file, if a run can use it. -/
def Config.load (disk : Disk) (path : LocalPath) : Except Failure Config :=
  match disk.readWhole path with
  | .error cause => .error (.io path cause)
  | .ok bytes =>
      match Bytes.toText? bytes with
      | none => .error (.io path .notUtf8)
      | some text => do
          let config ← Config.read text
          config.validate
          .ok config

/-- The fields of parameters. -/
def Params.fields : List (Document.Field Params) :=
  [.of "acl" (Document.readOptional Document.readString)
      fun params value => { params with acl := value },
   .of "content_type" (Document.readOptional Document.readString)
      fun params value => { params with contentType := value },
   .of "storage_class" (Document.readOptional Document.readString)
      fun params value => { params with storageClass := value },
   .of "guess_mime_type" Document.readBool
      fun params value => { params with guessContentType := value },
   .of "quiet" Document.readBool fun params value => { params with quiet := value },
   .of "only_show_errors" Document.readBool
      fun params value => { params with onlyShowErrors := value },
   .of "expected_size" (Document.readOptional Document.readCount)
      fun params value => { params with expectedSize := value },
   .of "is_stream" Document.readBool fun params value => { params with isStream := value }]

/-- The parameters in a document. -/
def Params.read (text : String) : Except Failure Params :=
  (Document.read Params.fields {} text).mapError .config

end BulkTransfer
