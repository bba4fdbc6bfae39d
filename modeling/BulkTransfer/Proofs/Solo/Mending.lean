import BulkTransfer.Pool.Schedule
import BulkTransfer.Proofs.Solo.QueueIndependence
import BulkTransfer.Proofs.Upload.Order
import BulkTransfer.Remote.Script

/-!
# Errors in place of panics

Stores that follow scripts, with an error in place of every panic (`mendedStores`): they answer as
before, but where they have panicked they fail, and they are left the same (`ask_mended`). What can
be seen of a run from outside follows from its gist (`Shared.shown_gist`), together with the one
trace that a panic leaves: an upload whose completion has panicked is not aborted
(`Shared.unaborted`).
-/

namespace BulkTransfer

open Pool Multipart

/-! ## Stores that fail instead of panicking -/

/-- The line with an error in place of a panic. -/
def ScriptLine.mended : ScriptLine → ScriptLine
  | .panic message => .error message
  | line => line

/-- The script with an error in place of every panic. -/
def Script.mended (script : Script) : Script :=
  { script with lines := script.lines.map ScriptLine.mended }

/-- The answer with an error in place of a panic. -/
def Answer.mended (call : Call) : Answer → Answer
  | .reply given => .reply given
  | .failed error => .failed error
  | .panicked message => .failed (.remote call.name message)

/-- The stores with an error in place of every panic in their scripts. -/
def mendedStores (stores : List (StoreName × Script)) : List (StoreName × Script) :=
  stores.map fun entry => (entry.1, entry.2.mended)

lemma Reply.mended_fitted (reply : Reply) (call : Call) :
    (reply.fitted call).mended call = reply.fitted call := by
  unfold Reply.fitted
  split <;> rfl

namespace Script

variable (script : Script) (call : Call)

lemma respond_mended (line : ScriptLine) :
    respond call line.mended = (respond call line).mended call := by
  cases line with
  | reply reply => exact (reply.mended_fitted call).symm
  | error message => rfl
  | panic message => rfl

lemma mended_serve (content : Array UInt8) (range : Option String) :
    (serve content range).mended call = serve content range := by
  unfold serve
  split
  · rfl
  · split <;> rfl

lemma mended_of_held? {answer : Answer} (held : script.held? call = some answer) :
    answer.mended call = answer := by
  cases call <;> try cases held
  obtain ⟨content, -, rfl⟩ := Option.map_eq_some_iff.1 held
  exact mended_serve ..

lemma answer_mended :
    script.mended.answer call =
      ((script.answer call).1.mended call, (script.answer call).2.mended) := by
  have same : script.mended.held? call = script.held? call := rfl
  simp only [answer, same]
  cases held : script.held? call with
  | some found => rw [script.mended_of_held? call held]
  | none =>
      simp only [answerFromScript, Script.mended]
      cases lines : script.lines with
      | cons line rest =>
          simp only [List.map_cons, respond_mended]
      | nil =>
          simp only [List.map_nil]
          split
          · rw [Reply.mended_fitted]
            simp [lines]
          · simp [lines, Answer.mended]

end Script

theorem ask_mended (stores : List (StoreName × Script)) (store : StoreName) (call : Call) :
    ask ⟨Script.answer⟩ store call (mendedStores stores) =
      ((ask ⟨Script.answer⟩ store call stores).1.mended call,
        mendedStores (ask ⟨Script.answer⟩ store call stores).2) := by
  induction stores with
  | nil => rfl
  | cons entry rest ih =>
      have step : mendedStores (entry :: rest) =
          (entry.1, entry.2.mended) :: mendedStores rest := rfl
      rw [step, ask, ask]
      dsimp only
      split
      · rw [Script.answer_mended]
        rfl
      · rw [ih]
        rfl

/-! ## What can be seen of a run -/

namespace Pool

/-- The abort of an upload that is missing after a call to complete it has panicked. -/
def Event.unaborted? : Event → Option (StoreName × Call)
  | .answered store _ (.completeUpload object uploadId _) answer =>
      if answer.isPanic then some (store, .abortUpload object uploadId) else none
  | _ => none

lemma Event.unaborted?_of_fitted (store : StoreName) (id : OperationId) (call : Call)
    (reply : Reply) : (Event.answered store id call (reply.fitted call)).unaborted? = none := by
  unfold Reply.fitted
  split <;> cases call <;> rfl

/-- The aborts of uploads that are missing after calls to complete them have panicked. -/
def Shared.unaborted (shared : Shared) : List (StoreName × Call) :=
  shared.events.reverse.filterMap Event.unaborted?

/-- What can be seen of a run from outside: how its operations are counted, the files, the calls,
and which aborts are missing. -/
structure Shown where
  tally : Tally
  disk : Disk
  calls : List (StoreName × Call)
  unaborted : List (StoreName × Call)

/-- What can be seen of what is shared. -/
def Shared.shown (shared : Shared) : Shown :=
  ⟨shared.tally, shared.disk, shared.calls, shared.unaborted⟩

/-- What can be seen after more calls and the failure of one operation. -/
def Shown.failed (shown : Shown) (called : List (StoreName × Call)) : Shown :=
  { shown with
    tally := { shown.tally with failed := shown.tally.failed + 1 }
    calls := shown.calls ++ called }

lemma Event.isCall_answered {store : StoreName} {id : OperationId} {call : Call}
    (other : call.isCompletion = false) (answer : Answer) :
    (Event.answered store id call answer).isCall = false := by
  cases call
  case completeUpload => cases other
  all_goals rfl

namespace Shared

variable (shared : Shared) (id : OperationId)

lemma filterMap_gist {α : Type} {look : Event → Option α}
    (dropped : ∀ event : Event, event.isCall = false → look event = none) :
    shared.gist.events.reverse.filterMap look = shared.events.reverse.filterMap look := by
  have kept (event : Event) : (if event.isCall = true then look event else none) = look event := by
    split
    · rfl
    · next other => exact (dropped event (Bool.eq_false_iff.2 other)).symm
  simp only [gist, ← List.filter_reverse, List.filterMap_filter, kept]

@[simp]
lemma calls_gist : shared.gist.calls = shared.calls := by
  refine shared.filterMap_gist fun event other => ?_
  cases event <;> first | rfl | cases other

@[simp]
lemma unaborted_gist : shared.gist.unaborted = shared.unaborted := by
  refine shared.filterMap_gist fun event other => ?_
  cases event
  case answered store id call answer =>
    cases call
    case completeUpload => cases answer <;> first | rfl | cases other
    all_goals rfl
  all_goals rfl

@[simp]
theorem shown_gist : shared.gist.shown = shared.shown := by
  rw [shown, calls_gist, unaborted_gist]
  rfl

lemma shown_note {event : Event} (quiet : event.isCall = false) :
    (shared.note event).shown = shared.shown := by
  rw [← shown_gist, gist_note, quiet, if_neg Bool.false_ne_true, shown_gist]

/-- The answer to a call that completes no upload leaves nothing behind. -/
lemma gist_answered {call : Call} (other : call.isCompletion = false) (store : StoreName)
    (answer : Answer) : (shared.note (.answered store id call answer)).gist = shared.gist := by
  rw [gist_note, Event.isCall_answered other, if_neg Bool.false_ne_true]

lemma shown_answered {call : Call} (other : call.isCompletion = false) (store : StoreName)
    (answer : Answer) :
    (shared.note (.answered store id call answer)).gist.shown = shared.shown := by
  rw [gist_answered shared id other, shown_gist]

lemma upload_gist {upload : Upload} (set : (shared.operation id).upload = some upload) :
    (shared.gist.operation id).upload = some upload.gist := by
  rw [operation_gist, Operation.upload_gist, set]
  rfl

lemma shown_called (store : StoreName) (call : Call) :
    (shared.note (.called store id call)).shown =
      { shared.shown with calls := shared.calls ++ [(store, call)] } := by
  simp [shown, note, calls, unaborted, Event.unaborted?]

lemma shown_settle {outcome : Outcome} (fails : outcome.gist = .failed .queueClosed) :
    (shared.settle id outcome).shown = shared.shown.failed [] := by
  have counted := tally_verdict (shared.operation id) default shared.tally outcome
  rw [fails] at counted
  rw [settle, conclude, shown_note _ rfl, counted]
  simp [shown, Shown.failed, verdict, calls, unaborted]

@[simp]
lemma shown_setUpload (upload : Upload) :
    (shared.setUpload id upload).shown = shared.shown := rfl

end Shared
end Pool

end BulkTransfer
