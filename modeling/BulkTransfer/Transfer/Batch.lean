import BulkTransfer.Pool.Schedule
import BulkTransfer.Status.Printer

/-!
# Batches of records

A batch is a list of records that one run carries out with a configuration, parameters and the
provider's limits, once these have been validated.
-/

namespace BulkTransfer

open Pool

/-- Everything that a run of records is given. -/
structure Batch where
  store : StoreName
  sourceStore : Option StoreName := none
  config : Config := {}
  params : Params := {}
  limits : Limits := {}

namespace Batch

/-- A batch with a configuration that a run can use and the provider's usual limits. -/
def ofConfig (store : StoreName) (sourceStore : Option StoreName) (config : Config)
    (params : Params) : Except Failure Batch :=
  config.validate.map fun _ =>
    { store := store, sourceStore := sourceStore, config := config, params := params }

/-- The batch with other limits, if they describe a usable range. -/
def withLimits (batch : Batch) (limits : Limits) : Except Failure Batch :=
  limits.validate.map fun _ => { batch with limits := limits }

/-- How the batch plans its operations. -/
def plan (batch : Batch) : Plan :=
  ⟨batch.store, batch.sourceStore, batch.config, batch.params, batch.limits⟩

/-- The run of records on a file system before it begins. -/
def start (batch : Batch) (disk : Disk) (records : List Record) : Run :=
  Run.start batch.plan
    { queue := Queue.ofCapacity batch.config.maxQueueSize, operations := [], disk := disk }
    batch.config.maxConcurrentRequests records

/-- The run of records at its end, with the world that surrounded it. -/
def carryOut {σ : Type} (batch : Batch) (service : Service σ) (admission : Admission)
    (world : World σ) (disk : Disk) (records : List Record) : Run × World σ :=
  let run := batch.start disk records
  carry service admission run world (stepBound run records)

/-- The lines of a run, printed as far as the parameters let them through. -/
def printed (params : Params) (shared : Shared) : Printer :=
  Printer.printAll { verbosity := ⟨params.quiet, params.onlyShowErrors⟩ } shared.messages

end Batch
end BulkTransfer
