import BulkTransfer.Record
import BulkTransfer.Settings.Config
import BulkTransfer.Status.Printer
import BulkTransfer.Stream.Engine
import BulkTransfer.Tally

/-!
# Streaming one record

A record whose local side is `-` is transferred between a store and the standard input or output.
Only failures are reported; the outcome is a tally of one.
-/

namespace BulkTransfer.Stream

/-- The path that stands for the standard input or output. -/
def streamPath : LocalPath := ⟨"-"⟩

/-- What streams are transferred with: the parameters, the chunksize, and the printer for
failures. -/
structure Handler where
  params : Params
  chunksize : Nat
  printer : Printer := {}
  deriving DecidableEq, Repr

namespace Handler

variable {τ : Type}

/-- The handler for a configuration. The chunksize is adjusted to the provider's limits for the
expected size. -/
def ofConfig (config : Config) (params : Params) : Except Failure Handler :=
  config.validate.map fun _ =>
    { params := params
      chunksize := Limits.adjust {} config.multipartChunksize params.expectedSize
      printer := { verbosity := ⟨params.quiet, params.onlyShowErrors⟩ } }

/-- The tally of a transfer that has ended, and the handler after it has reported a failure. -/
def finish (handler : Handler) (operation description : String) :
    Except Failure Unit → Tally × Handler
  | .ok () => ({ succeeded := 1 }, handler)
  | .error error =>
      let message := Notice.failure operation description error.message
      ({ failed := 1 }, { handler with printer := (handler.printer.print message).2 })

/-- Uploads what a reader delivers. -/
def upload (engine : Engine τ) (handler : Handler) (state : τ) (source : Reader)
    (object : ObjectName) : Tally × Handler × τ :=
  let result := engine.upload state source object handler.params.expectedSize.toList
  let description := streamPath.text ++ " to " ++ (Location.object object).shown
  let finished := handler.finish RecordKind.upload.name description result.1
  (finished.1, finished.2, result.2)

/-- Downloads an object into a sink. -/
def download (engine : Engine τ) (handler : Handler) (state : τ) (object : ObjectName)
    (sink : ByteSink) : Tally × Handler × ByteSink × τ :=
  let result := engine.download state object sink
  let description := (Location.object object).shown ++ " to " ++ streamPath.text
  let finished := handler.finish RecordKind.download.name description result.1
  (finished.1, finished.2, result.2)

/-- What a record asks a handler to do. -/
inductive Demand where
  | upload (object : ObjectName)
  | download (object : ObjectName)
  | refuse (error : Failure)
  deriving DecidableEq, Repr

/-- Whether a location is the path of the standard input or output. -/
def isStream (location : Location) : Bool :=
  location.path?.any (·.same streamPath)

/-- What a record asks for. Its action has to fit, and its local side has to be a stream. -/
def demand (record : Record) : Demand :=
  match record.action, record.source, record.destination with
  | .error problem, _, _ => .refuse (record.misfit problem)
  | .ok .upload, source, some (.object object) =>
      if isStream source then .upload object else .refuse (record.misfit .notStreamed)
  | .ok .download, .object object, some destination =>
      if isStream destination then .download object else .refuse (record.misfit .notStreamed)
  | _, _, _ => .refuse (record.misfit .notStreamed)

/-- Transfers a record between a store and the standard input or output. -/
def call (engine : Engine τ) (handler : Handler) (state : τ) (record : Record) (input : Reader)
    (output : ByteSink) : Tally × Handler × ByteSink × τ :=
  match demand record with
  | .upload object =>
      let result := upload engine handler state input object
      (result.1, result.2.1, output, result.2.2)
  | .download object => download engine handler state object output
  | .refuse error =>
      let finished := handler.finish record.kind.name record.describe (.error error)
      (finished.1, finished.2, output, state)

end Handler
end BulkTransfer.Stream
