import BulkTransfer.LocalPath
import BulkTransfer.Size.Readable
import BulkTransfer.Size.Reading

/-!
# Failures

What can go wrong in a transfer, each cause with the text in which it is reported. A failure is
named by its cause alone; texts are made in one place (`Failure.message`).
-/

namespace BulkTransfer

/-- Why the file system or a reader refused. -/
inductive IoCause where
  | notFound
  | alreadyExists
  | notDirectory
  | isDirectory
  | nameTooLong
  | invalidArgument
  | fileTooLarge
  | nulInPath
  | notUtf8
  | tooShort (expected offset read : Nat)
  | stated (message : String)
  deriving DecidableEq, Repr

/-- The wording of a file system's refusal. -/
def IoCause.message : IoCause → String
  | .notFound => "No such file or directory (os error 2)"
  | .alreadyExists => "File exists (os error 17)"
  | .notDirectory => "Not a directory (os error 20)"
  | .isDirectory => "Is a directory (os error 21)"
  | .nameTooLong => "File name too long (os error 36)"
  | .fileTooLarge => "File too large (os error 27)"
  | .invalidArgument => "Invalid argument (os error 22)"
  | .nulInPath => "file name contained an unexpected NUL byte"
  | .notUtf8 => "stream did not contain valid UTF-8"
  | .tooShort expected offset read =>
      "expected " ++ toString expected ++ " bytes at offset " ++ toString offset ++ ", read " ++
        toString read
  | .stated message => message

/-- Why settings or limits cannot be used. -/
inductive ConfigFault where
  | noWorkers
  | noQueue
  | noChunksize
  | noMinimum
  | minimumAboveMaximum (minimum maximum : Nat)
  | noParts
  | partNumbersTooLarge (parts : Nat)
  | tooManyParts (size chunksize parts : Nat)
  | badSize (fault : Size.ReadError)
  | malformed
  | stated (message : String)
  deriving DecidableEq, Repr

/-- The wording of a fault in settings; a malformed document has no fixed one. -/
def ConfigFault.message? : ConfigFault → Option String
  | .noWorkers => some "max_concurrent_requests must be at least 1"
  | .noQueue => some "max_queue_size must be at least 1"
  | .noChunksize => some "multipart_chunksize must be positive"
  | .noMinimum => some "minimum chunksize must be positive"
  | .minimumAboveMaximum minimum maximum =>
      some ("minimum chunksize " ++ toString minimum ++ " exceeds maximum single object size " ++
        toString maximum)
  | .noParts => some "maximum part count must be positive"
  | .partNumbersTooLarge parts =>
      some ("maximum part count " ++ toString parts ++ " does not fit a part number")
  | .tooManyParts size chunksize parts =>
      some (toString size ++ " bytes in chunks of " ++ toString chunksize ++ " need " ++
        toString parts ++ " parts, more than a part number can hold")
  | .badSize fault => some fault.message
  | .malformed => none
  | .stated message => some message

/-- Why a transfer, or a part of one, failed. -/
inductive Failure where
  | io (path : LocalPath) (cause : IoCause)
  | remote (call message : String)
  | missingField (call field : String)
  | rejected (task reason : String)
  | queueClosed
  | invalidRecord (message : String)
  | tooLarge (name : String) (size limit : Nat)
  | config (fault : ConfigFault)
  | stream (message : String)
  | spawn (thread cause : String)
  | panicked (message : String)
  deriving DecidableEq, Repr

namespace Failure

/-- The wording of a failure. -/
def message : Failure → String
  | .io path cause => "I/O error at '" ++ path.text ++ "': " ++ cause.message
  | .remote call message => call ++ " failed: " ++ message
  | .missingField call field => call ++ " response is missing " ++ field
  | .rejected task reason => "Task queue rejected " ++ task ++ ": " ++ reason
  | .queueClosed => "Task queue is closed"
  | .invalidRecord message => "Invalid transfer record: " ++ message
  | .tooLarge name _ limit =>
      "Skipping file " ++ name ++ ". File exceeds maximum upload size of " ++
        Size.readable limit ++ "."
  | .config fault => "Configuration error: " ++ fault.message?.getD "malformed document"
  | .stream message => "Stream transfer error: " ++ message
  | .spawn thread cause => "Failed to spawn " ++ thread ++ " thread: " ++ cause
  | .panicked message => "Worker panicked: " ++ message

/-- Whether an operation that is refused for it is skipped with a warning: an object that is too
large. -/
def isWarning : Failure → Bool
  | .tooLarge _ _ _ => true
  | _ => false

/-- The causes behind a failure, outermost first. A failure of the file system repeats its cause,
which its own wording already quotes. -/
def causes : Failure → List String
  | .io path cause => [(Failure.io path cause).message, cause.message]
  | .spawn thread cause => [(Failure.spawn thread cause).message, cause]
  | error => [error.message]

end Failure
end BulkTransfer
