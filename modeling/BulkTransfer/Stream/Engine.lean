import BulkTransfer.Stream.Download
import BulkTransfer.Stream.Upload

/-!
# Engines for streams

An engine runs one streamed transfer in a thread of its own and reports how it ended. The usual
one streams through a store; others can stand in for it.
-/

namespace BulkTransfer.Stream

/-- What an engine does, over a state of its own. An upload may be told the size of its stream
beforehand. -/
structure Engine (τ : Type) where
  upload : τ → Reader → ObjectName → List Nat → Except Failure Unit × τ
  download : τ → ObjectName → ByteSink → Except Failure Unit × ByteSink × τ

/-- The outcome of a thread as it is seen from outside. -/
def outcome : Except Halt Unit → Except Failure Unit
  | .ok () => .ok ()
  | .error (.failed error) => .error error
  | .error .panicked => .error (.stream "transfer thread panicked")

/-- The engine that streams through a store, in chunks of at least one byte. -/
def Engine.ofService {σ : Type} (service : Service σ) (chunksize : Nat) (params : Params) :
    Engine (Session σ) where
  upload session source object _ :=
    let result := Upload.run service { object, chunksize := max chunksize 1, params } source session
    (outcome result.1, result.2)
  download session object sink :=
    let result := Stream.download service object sink session
    (outcome result.1, result.2)

end BulkTransfer.Stream
