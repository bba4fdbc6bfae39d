import BulkTransfer.Parts.Span
import BulkTransfer.Remote.Answer

/-!
# Stores that follow a script

A store that answers from a script, line by line, and serves some objects from memory with their
ranges. Once the script has run out it either answers every call with a plain success or refuses
it.
-/

namespace BulkTransfer

/-- One line of a script: a reply, a failure of the call, or a panic in it. -/
inductive ScriptLine where
  | reply (reply : Reply)
  | error (message : String)
  | panic (message : String)
  deriving DecidableEq, Repr

/-- The state of a store that follows a script: the lines that are left, the objects in memory (of
two with one name the first counts), and whether it answers calls beyond the script. -/
structure Script where
  lines : List ScriptLine := []
  objects : List (ObjectName × Array UInt8) := []
  answersAll : Bool := false
  deriving DecidableEq, Repr

namespace Script

/-- The answer to a request for `range` of an object with the given content. -/
def serve (content : Array UInt8) (range : Option String) : Answer :=
  match range with
  | none => .reply (.object (some (Reader.ofBytes content.toList)))
  | some header =>
      match PartSpan.readHeader? header content.size with
      | some (first, stop) =>
          .reply (.object (some (Reader.ofBytes (content.extract first stop).toList)))
      | none => .failed (.remote "GetObject" "InvalidRange")

/-- The reply of a plain success. -/
def plainSuccess : Call → Reply
  | .putObject .. => .stored (some "\"120ea8a25e5d487bf68b5f7096440019\"")
  | .createUpload .. => .created (some "upload-id")
  | .uploadPart _ _ number _ => .part (some ("etag-" ++ toString number))
  | .copyPart _ _ number _ _ => .copiedPart (some (some ("etag-" ++ toString number)))
  | .getObject .. => .object (some [])
  | _ => .done

/-- The content of an object in memory that a call asks for. -/
def held? (store : Script) : Call → Option Answer
  | .getObject object range => (store.objects.lookup object).map fun content => serve content range
  | _ => none

/-- A line as the answer to a call. -/
def respond (call : Call) : ScriptLine → Answer
  | .reply reply => reply.fitted call
  | .error message => .failed (.remote call.name message)
  | .panic message => .panicked message

/-- The answer to a call that takes part in the script, and the store afterwards. -/
def answerFromScript (store : Script) (call : Call) : Answer × Script :=
  match store.lines with
  | response :: rest => (respond call response, { store with lines := rest })
  | [] =>
      if store.answersAll then ((plainSuccess call).fitted call, store)
      else (.failed (.remote call.name "unexpected call"), store)

/-- The answer to a call, and the store afterwards. -/
def answer (store : Script) (call : Call) : Answer × Script :=
  match store.held? call with
  | some answer => (answer, store)
  | none => store.answerFromScript call

end Script
end BulkTransfer
