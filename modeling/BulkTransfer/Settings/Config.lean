import BulkTransfer.Error
import BulkTransfer.Parts.Limits

/-!
# Runtime configuration

How many workers and queued tasks a run may have, and from which size and in which pieces it
transfers objects in parts.
-/

namespace BulkTransfer

/-- The configuration of a run. -/
structure Config where
  multipartThreshold : Nat := 8 * mebibyte
  multipartChunksize : Nat := 8 * mebibyte
  maxConcurrentRequests : Nat := 10
  maxQueueSize : Nat := 1000
  deriving DecidableEq, Repr

/-- Whether a run can use the configuration. -/
def Config.validate (config : Config) : Except Failure Unit :=
  if config.maxConcurrentRequests = 0 then .error (.config .noWorkers)
  else if config.maxQueueSize = 0 then .error (.config .noQueue)
  else if config.multipartChunksize = 0 then .error (.config .noChunksize)
  else .ok ()

end BulkTransfer
