import BulkTransfer.Proofs.Run.Follows
import BulkTransfer.Proofs.Run.TurnEvents

/-!
# Moves that are being transferred

A move transfers its source in one of five ways, and each hand of it is at work in this way until
the transfer has succeeded (`Activity.Transfers`). Until then nothing is deleted, and the move is
not said to have succeeded (`Transferring`): the only ways out of the transfer are to bring the
deletion into the queue, and to give a file that was written its time (`Follows.transfers`).
-/

namespace BulkTransfer

open Pool

/-- Whether a notice tells of a success. -/
def Notice.isSuccess : Notice → Bool
  | .success _ _ => true
  | _ => false

namespace Pool

/-- The ways in which a source is transferred: as a whole or in parts, to an object or to a
file. -/
inductive Way where
  | put
  | copy
  | fetch
  | partsUp
  | partsDown
  deriving DecidableEq, Repr

/-- The way in which the parts of a side are transferred. -/
def Side.way : Side → Way
  | .upload => .partsUp
  | .download => .partsDown

/-- The way of transferring that a task is part of. -/
def Chore.way? : Chore → Option Way
  | .singleUpload => some .put
  | .copy => some .copy
  | .download => some .fetch
  | .createUpload | .uploadPart _ | .copyPart _ | .completeUpload | .abortUpload => some .partsUp
  | .createLocalFile | .downloadPart _ | .completeDownload => some .partsDown
  | .delete | .removeBucket => none

/-- The way of transferring that a call is made in. -/
def Errand.way? : Errand → Option Way
  | .put => some .put
  | .copy => some .copy
  | .fetch => some .fetch
  | .create | .part _ | .complete | .abort _ => some .partsUp
  | .fetchPart _ _ => some .partsDown
  | .delete | .removeBucket => none

/-- Whether a call is of the kind that is made for an errand. -/
def Errand.Makes : Errand → Call → Prop
  | .put, .putObject .. | .copy, .copyObject .. | .fetch, .getObject .. => True
  | .create, .createUpload .. | .part _, .uploadPart .. | .part _, .copyPart .. => True
  | .complete, .completeUpload .. | .abort _, .abortUpload .. => True
  | .fetchPart .., .getObject .. | .delete, .deleteObject _ => True
  | .removeBucket, .deleteBucket _ => True
  | _, _ => False

/-- Whether a hand is at work on a transfer that is made in a way. -/
def Activity.Transfers (way : Way) : Activity → Prop
  | .starting _ chore => chore.way? = some way
  | .reading .. => way = .partsUp
  | .sending _ errand _ call | .awaiting _ errand _ call =>
      errand.way? = some way ∧ errand.Makes call
  | .reporting _ report => (Shared.sideOf report).way = way
  | .feeding _ side | .offering _ side _ | .deferring _ side _ | .forcing _ side _ =>
      side.way = way
  | .following _ followUp => followUp.side?.map Side.way = some way
  | .saving .. | .writing _ .whole .. => way = .fetch
  | .writing _ (.part _) .. => way = .partsDown
  | .discarding _ _ outcome | .settling _ outcome => outcome ≠ .succeeded
  | .stamping .. | .idle | .dismissed => False

/-- Whether an event is one of a transfer: nothing is deleted in it, and no success is told of. -/
def Event.isTransfer : Event → Bool
  | .removedSource .. => false
  | .called _ _ (.deleteObject _) | .answered _ _ (.deleteObject _) _ => false
  | .settled _ message => !message.isSuccess
  | _ => true

lemma isSuccess_verdict (operation : Operation) (tally : Tally) (outcome : Outcome) :
    (Shared.verdict operation tally outcome).1.isSuccess = true ↔ outcome = .succeeded := by
  cases outcome <;> simp [Shared.verdict, Notice.isSuccess]

lemma isSuccess_refusal (operation : Operation) (tally : Tally) (error : Failure) :
    (Shared.refusal operation tally error).1.isSuccess = false := by
  simp only [Shared.refusal]
  split <;> rfl

lemma Chore.way?_of_side? {chore : Chore} {side : Side} (part : chore.side? = some side) :
    chore.way? = some side.way := by
  cases chore <;> cases part <;> rfl

lemma Errand.way?_of_partSide? {errand : Errand} {side : Side}
    (part : errand.partSide? = some side) : errand.way? = some side.way := by
  cases errand <;> cases part <;> rfl

/-- A task makes a call of the kind of its errand, in the way that the task is part of. -/
lemma Chore.Calls.makes {operation : Operation} {chore : Chore} {errand : Errand} {call : Call}
    (calls : chore.Calls operation errand call) :
    errand.Makes call ∧ errand.way? = chore.way? := by
  cases calls
  case put => exact ⟨trivial, rfl⟩
  case create made | copyPart made | complete made | abort made | copy made | fetch made |
      fetchPart made | delete made | removeBucket made =>
    simp only [Operation.createCall, Operation.copyPartCall, Operation.completeCall,
      Operation.abortCall, Operation.copyCall, Operation.fetchCall, Operation.fetchPartCall,
      Operation.deleteCall, Operation.removeBucketCall, bind, Except.bind] at made
    repeat' split at made
    all_goals cases made
    exact ⟨trivial, rfl⟩

/-- How the transfer of a move may have come to its end in a turn: the deletion is to be queued, or
the file that was written is to be given its time first. -/
inductive Departs (shared : Shared) (id : OperationId) : Activity → Activity → Prop where
  | stored {errand : Errand} (whole : errand = .put ∨ errand = .copy) (store : StoreName)
      (call : Call) :
      Departs shared id (.awaiting id errand store call) (.following id .delete)
  | completed : Departs shared id (.reporting id .completed) (.following id .delete)
  | written (path : LocalPath) (file : FileId) (offset : Nat) {body : Reader}
      (spent : body.isOver = true) :
      Departs shared id (.writing id .whole path file offset body) (.stamping id path)
  | kept {download : Multipart.Download} (path : LocalPath)
      (set : (shared.operation id).download = some download)
      (sound : download.progress.failure = none) :
      Departs shared id (.starting id .completeDownload) (.stamping id path)

variable {shared : Shared} {id : OperationId} {way : Way} {activity later : Activity}

/-- What follows a hand at a transfer is at it too, unless there is nothing left to do for it, or
the transfer has come to its end. -/
theorem Follows.transfers (follows : Follows shared id activity later)
    (moving : (shared.operation id).record.kind = .move) (transfers : activity.Transfers way) :
    later = .idle ∨ later.Transfers way ∨ Departs shared id activity later := by
  have deletes : Activity.afterTransfer (shared.operation id) id = .following id .delete :=
    if_pos moving
  cases follows with
  | calls store calls =>
      obtain ⟨made, sameWay⟩ := calls.makes
      exact .inr (.inl ⟨sameWay.trans transfers, made⟩)
  | stored whole store call =>
      rw [deletes]
      exact .inr (.inr (.stored whole store call))
  | transferred =>
      rw [deletes]
      exact .inr (.inr .completed)
  | keeps path set sound => exact .inr (.inr (.kept path set sound))
  | @written extent path file offset body spent =>
      cases extent with
      | whole => exact .inr (.inr (.written path file offset spent))
      | part range => exact .inr (.inl transfers.symm)
  | skips | rests | emptied | defers | forced | followed | settles => exact .inl rfl
  | removes => cases transfers
  | removed removes =>
      rcases removes with rfl | rfl
      · cases transfers.1
      · cases transfers.1
  | stamped => exact transfers.elim
  -- The others stay within their way: in that of a task, a call, a side, or a body.
  | unmoved part =>
      have same := (Chore.way?_of_side? part).symm.trans transfers
      exact .inr (.inl (Option.some.inj same))
  | lost part =>
      have same := (Errand.way?_of_partSide? part).symm.trans transfers.1
      exact .inr (.inl (Option.some.inj same))
  | opens | uncreated | uncompleted | unaborted => exact .inr (.inl (Option.some.inj transfers))
  | reads => exact .inr (.inl (Option.some.inj transfers).symm)
  | hasRead => exact .inr (.inl ⟨congrArg some transfers.symm, trivial⟩)
  | unread => exact .inr (.inl transfers.symm)
  | created | notCreated | tagged | completed | notCompleted | aborted =>
      exact .inr (.inl (Option.some.inj transfers.1))
  | fetched | loaded => exact .inr (.inl (Option.some.inj transfers.1).symm)
  | closes part parts =>
      refine .inr (.inl ?_)
      rw [Activity.Transfers, parts]
      exact congrArg some transfers
  | aborts => exact .inr (.inl (congrArg some transfers))
  | notFollowed followUp =>
      refine .inr (.inl ?_)
      cases followUp with
      | complete => exact Option.some.inj transfers
      | abort | finish => exact transfers
      | delete => cases transfers
  | writes extent =>
      refine .inr (.inl ?_)
      cases extent <;> exact transfers
  | unwritten extent =>
      refine .inr (.inl ?_)
      cases extent with
      | whole => exact nofun
      | part range => exact transfers.symm
  | misfits | drops | unopened | failed | settlesUncreated | settlesUndone | unsaved =>
      exact .inr (.inl nofun)
  | waits | begins | loads | refills | handsOut | offered | full | refused | insists | notForced |
    saves | discards => exact .inr (.inl transfers)

lemma Errand.eq_delete_of_makes {errand : Errand} {object : ObjectName}
    (makes : errand.Makes (.deleteObject object)) : errand = .delete := by
  cases errand <;> first | rfl | exact makes.elim

/-- What a hand at a transfer notes is no deletion and tells of no success. -/
lemma Activity.isTransfer_of_notes {event : Event} (transfers : activity.Transfers way)
    (notes : activity.Notes event) : event.isTransfer = true := by
  have unmade {errand : Errand} {object : ObjectName} (on : errand.way? = some way)
      (makes : errand.Makes (.deleteObject object)) : False := by
    rw [Errand.eq_delete_of_makes makes] at on
    cases on
  cases event
  case called store own call | answered store own call _ =>
    obtain ⟨errand, rfl⟩ := notes
    obtain ⟨on, makes⟩ := transfers
    cases call
    case deleteObject => exact (unmade on makes).elim
    all_goals rfl
  case removedSource own path =>
    rw [notes] at transfers
    cases transfers
  case settled own message =>
    obtain ⟨outcome, operation, tally, rfl, rfl⟩ := notes
    have unsaid : (Shared.verdict operation tally outcome).1.isSuccess ≠ true :=
      fun said => transfers ((isSuccess_verdict operation tally outcome).1 said)
    simp [Event.isTransfer, unsaid]
  all_goals rfl

/-- A task that a hand at a transfer brings into the queue is part of it. -/
lemma Activity.way?_of_queues? {operation : Operation} {chore : Chore}
    (transfers : activity.Transfers way) (queues : activity.queues? operation = some chore) :
    chore.way? = some way := by
  cases activity
  case offering own side index | forcing own side index =>
    obtain rfl := Option.some.inj queues
    obtain rfl : side.way = way := transfers
    exact Chore.way?_of_side? (Chore.side?_partChore operation side _)
  case following own followUp =>
    obtain rfl := Option.some.inj queues
    cases followUp <;> exact transfers
  all_goals cases queues

/-- What holds of a move whose source is being transferred: its hands are at work on that, and so
far nothing has been deleted and no success told of. -/
structure Transferring (record : Record) (way : Way) (id : OperationId) (view : View) : Prop where
  described : view.operation.record = record
  first : ∀ chore, view.proposed = some chore → chore.way? = some way
  hands : ∀ hand ∈ view.hands, hand.Transfers way
  quiet : ∀ event ∈ view.history, event.isTransfer = true

namespace Transferring

variable {record : Record} {after : Shared} {surroundings : Surroundings} {operation : Operation}
  {proposed : Option Chore} {rest : Multiset Activity} {notes : List Event} {queued : Option Chore}
  (transferring : Transferring record way id
    ⟨shared.operation id, proposed, activity ::ₘ rest, shared.history id⟩)
  (own : activity.operation? = some id)
  (work : shared.work surroundings activity = some (after, later))
  (changed : shared.Changed after id operation notes queued)

include transferring own work changed

/-- A turn of a hand at the transfer notes nothing else. -/
lemma quiet_turn : ∀ event ∈ notes ++ shared.history id, event.isTransfer = true := by
  intro event present
  rcases List.mem_append.1 present with new | old
  · have noted := (Shared.noted_of_work own work).of_changed changed
    have transfers := transferring.hands activity (Multiset.mem_cons_self activity rest)
    exact Activity.isTransfer_of_notes transfers (noted.2 event new)
  · exact transferring.quiet event old

/-- A turn goes on with the transfer, or ends it. -/
lemma turn (moving : record.kind = .move) :
    Transferring record way id
        ⟨operation, proposed, later.leaves id queued + rest, notes ++ shared.history id⟩ ∨
      Departs shared id activity later := by
  have transfers := transferring.hands activity (Multiset.mem_cons_self activity rest)
  have described : (shared.operation id).record = record := transferring.described
  have goes := (Shared.follows_of_work own work).transfers (described ▸ moving) transfers
  by_cases departs : Departs shared id activity later
  · exact .inr departs
  · refine .inl ⟨?_, transferring.first, ?_, transferring.quiet_turn own work changed⟩
    · rw [changed.same]
      exact described
    · have noted := (Shared.noted_of_work own work).of_changed changed
      intro hand present
      rcases Multiset.mem_add.1 present with new | old
      · rcases Activity.mem_leaves new with ⟨rfl, at_⟩ | ⟨chore, queues, rfl⟩
        · rcases goes with rfl | transfers | departs'
          · cases at_
          · exact transfers
          · exact absurd departs' departs
        · exact Activity.way?_of_queues? transfers (noted.1 chore queues).1
      · exact transferring.hands hand (Multiset.mem_cons_of_mem old)

end Transferring

end Pool
end BulkTransfer
