import BulkTransfer.Status.Notice

/-!
# The status printer

One printer owns all output of a run. Successes go to one sink, failures and warnings to the
other; a sink whose writes fail loses its own lines and nothing else. The printer serves a
channel of messages until it is told to stop, and then prints what is left in the channel.
-/

namespace BulkTransfer

/-- A place for lines: what it holds, and whether its writes fail. -/
structure Sink where
  text : String := ""
  broken : Bool := false
  deriving DecidableEq, Repr

/-- Which messages are let through. -/
structure Verbosity where
  quiet : Bool := false
  onlyErrors : Bool := false
  deriving DecidableEq, Repr

/-- A printer with its two sinks. -/
structure Printer where
  verbosity : Verbosity := {}
  out : Sink := {}
  err : Sink := {}
  deriving DecidableEq, Repr

/-- Whether a message is let through. -/
def Verbosity.admits (verbosity : Verbosity) (message : Notice) : Bool :=
  !verbosity.quiet && (!verbosity.onlyErrors || message.isError)

/-- A sink after a line, and whether the line could be written. -/
def Sink.writeLine (sink : Sink) (line : String) : Bool × Sink :=
  if sink.broken then (false, sink) else (true, { sink with text := sink.text ++ line ++ "\n" })

namespace Printer

/-- Prints a message if it is let through, and says whether that could be done. -/
def print (printer : Printer) (message : Notice) : Bool × Printer :=
  if printer.verbosity.admits message then
    if message.isError then
      let result := printer.err.writeLine message.line
      (result.1, { printer with err := result.2 })
    else
      let result := printer.out.writeLine message.line
      (result.1, { printer with out := result.2 })
  else (true, printer)

/-- Prints messages in turn, whatever becomes of each. -/
def printAll (printer : Printer) (messages : List Notice) : Printer :=
  messages.foldl (fun printer message => (printer.print message).2) printer

/-- A printer at its channel: the messages that are waiting, whether it has been told to stop,
whether somebody may still send, and whether it has ended. -/
structure Service where
  printer : Printer
  waiting : List Notice
  stopFired : Bool := false
  senders : Bool := true
  ended : Bool := false
  deriving DecidableEq, Repr

/-- What a printer at its channel turns to next. -/
inductive Turn where
  | message
  | stop
  deriving DecidableEq, Repr

/-- A printer that serves its channel, after one turn. It may turn to a waiting message, or to
the end of the channel once nobody can send any more; and to the stop signal once that has been
given, even while messages are waiting, which it then prints before it ends. -/
def Service.turn (service : Service) (turn : Turn) : Option Service :=
  if service.ended then none
  else match turn with
    | .message =>
        match service.waiting with
        | message :: rest =>
            some { service with printer := (service.printer.print message).2, waiting := rest }
        | [] => if service.senders then none else some { service with ended := true }
    | .stop =>
        if service.stopFired then
          some { service with
            printer := service.printer.printAll service.waiting, waiting := [], ended := true }
        else none

/-- A printer that serves its channel after the given number of turns, of which it takes those to
messages first. -/
def Service.serve (service : Service) : Nat → Service
  | 0 => service
  | turns + 1 =>
      match (service.turn .message).orElse fun _ => service.turn .stop with
      | some next => next.serve turns
      | none => service

/-- A printer that serves its channel until it has nothing more to do. -/
def Service.finish (service : Service) : Service :=
  service.serve (service.waiting.length + 1)

end Printer
end BulkTransfer
