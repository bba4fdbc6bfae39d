import BulkTransfer.Stream.Session

/-!
# Streamed downloads

An object is fetched as a whole and written to a sink as far as the sink takes it.
-/

namespace BulkTransfer.Stream

/-- A place for bytes: what it has taken, and how many bytes it takes at most. -/
structure ByteSink where
  taken : Bytes := []
  capacity : Option Nat := none
  deriving DecidableEq, Repr

/-- A sink after it was given bytes, and its failure if it could not take them all. -/
def ByteSink.write (sink : ByteSink) (bytes : Bytes) : Except String Unit × ByteSink :=
  match sink.capacity with
  | none => (.ok (), { sink with taken := sink.taken ++ bytes })
  | some capacity =>
      let room := capacity - sink.taken.length
      let result := { sink with taken := sink.taken ++ bytes.take room }
      (if bytes.length ≤ room then .ok () else .error "write failed", result)

/-- Downloads an object into a sink. -/
def download {σ : Type} (service : Service σ) (object : ObjectName) (sink : ByteSink)
    (session : Session σ) : Except Halt Unit × ByteSink × Session σ :=
  match session.ask service (.getObject object none) with
  | (.error halt, session) => (.error halt, sink, session)
  | (.ok (.object (some body)), session) =>
      let written := sink.write body.delivered
      let failure : Option String := match written.1 with
        | .error message => some message
        | .ok () => body.failure?
      (match failure with
        | some message => .error (.failed (.stream message))
        | none => .ok (),
       written.2, session)
  | (.ok _, session) => (.error (.failed (.missingField "GetObject" "Body")), sink, session)

end BulkTransfer.Stream
