import BulkTransfer.Proofs.Upload.Log

/-!
# The order of the calls of an upload

Which calls may be made for an upload in a number of parts, after what has happened to it before
(`Permitted`), and the histories in which every call was permitted when it was made (`InOrder`).
-/

namespace BulkTransfer

open Pool

/-- The identifier that an answer gives to an upload. -/
def Answer.uploadId? : Answer → Option String
  | .reply (.created uploadId) => uploadId
  | _ => none

namespace Call

/-- Whether a call ends a multipart upload. -/
def isEnd : Call → Bool
  | .completeUpload .. | .abortUpload .. => true
  | _ => false

/-- Whether a call completes a multipart upload. -/
def isCompletion : Call → Bool
  | .completeUpload .. => true
  | _ => false

/-- Whether a call aborts a multipart upload. -/
def isAbort : Call → Bool
  | .abortUpload .. => true
  | _ => false

end Call

namespace Pool

/-- Whether the store has given an identifier to the upload of an operation. -/
def Created (id : OperationId) (uploadId : String) (history : List Event) : Prop :=
  ∃ store object attributes, .called store id (.createUpload object attributes) ∈ history ∧
    ∃ answer, .answered store id (.createUpload object attributes) answer ∈ history ∧
      answer.uploadId? = some uploadId

/-- Whether a call has not been made for an operation, of those for which something holds. -/
def Uncalled (id : OperationId) (kind : Call → Bool) (history : List Event) : Prop :=
  ∀ store call, .called store id call ∈ history → kind call = false

/-- Which call may be made for an upload in `parts` parts, after what has happened before it,
latest first. An upload is created first and once. A part is moved once, with the identifier that
the store has given, and before anything ends the upload. The upload is completed with the tags of
all parts in the order of their numbers, after every move of a part has brought a tag. It is
aborted once, when every move of a part has ended and no completion has succeeded or can succeed
any more. -/
def Permitted (id : OperationId) (parts : Nat) (earlier : List Event) : Call → Prop
  | .createUpload .. => Uncalled id (fun call => !call.isPlain) earlier
  | .uploadPart _ uploadId number _ | .copyPart _ uploadId number _ _ =>
      Created id uploadId earlier ∧ 1 ≤ number ∧ number ≤ parts ∧ number ∉ partsCalled earlier ∧
        Uncalled id Call.isEnd earlier
  | .completeUpload _ uploadId finished =>
      Created id uploadId earlier ∧ finished.map (·.number) = List.range' 1 parts ∧
        (∀ part ∈ finished, (part.number, some part.tag) ∈ partsAnswered earlier) ∧
          (∀ answer ∈ partsAnswered earlier, answer.2 ≠ none) ∧ Uncalled id Call.isEnd earlier
  | .abortUpload _ uploadId =>
      Created id uploadId earlier ∧
        (∀ number ∈ partsCalled earlier, ∃ tag, (number, tag) ∈ partsAnswered earlier) ∧
          Uncalled id Call.isAbort earlier ∧
            ∀ store call, .called store id call ∈ earlier → call.isEnd = true →
              ∃ error, .answered store id call (.failed error) ∈ earlier
  | _ => True

/-- Whether every call that was made for an upload in `parts` parts was permitted then. -/
def InOrder (id : OperationId) (parts : Nat) (history : List Event) : Prop :=
  ∀ later store call earlier, history = later ++ .called store id call :: earlier →
    Permitted id parts earlier call

variable {id : OperationId} {parts : Nat} {history : List Event}

lemma permitted_of_isPlain {call : Call} (plain : call.isPlain = true) (earlier : List Event) :
    Permitted id parts earlier call := by
  cases call <;> trivial

lemma inOrder_nil (id : OperationId) (parts : Nat) : InOrder id parts [] := by
  intro later store call earlier split
  have length := congrArg List.length split
  simp at length

/-- Anything but a call may happen, and a call that is permitted. -/
lemma InOrder.cons {event : Event} (order : InOrder id parts history)
    (permitted : ∀ store call, event = .called store id call → Permitted id parts history call) :
    InOrder id parts (event :: history) := by
  intro later store call earlier split
  cases later with
  | nil =>
      obtain ⟨rfl, rfl⟩ := List.cons.inj split
      exact permitted store call rfl
  | cons first later =>
      obtain ⟨-, rest⟩ := List.cons.inj split
      exact order later store call earlier rest

lemma InOrder.append {notes : List Event} (order : InOrder id parts history)
    (plain : ∀ store call, .called store id call ∈ notes → call.isPlain = true) :
    InOrder id parts (notes ++ history) := by
  induction notes with
  | nil => exact order
  | cons event notes ih =>
      refine (ih fun store call made => plain store call (List.mem_cons_of_mem event made)).cons ?_
      rintro store call rfl
      exact permitted_of_isPlain (plain store call List.mem_cons_self) _

end Pool
end BulkTransfer
