import BulkTransfer.Proofs.Files.Names
import BulkTransfer.Proofs.Solo.Flowing
import BulkTransfer.Proofs.Solo.OneWorker

/-!
# The calls for the parts of an operation

Which hands are about to make the call for a part (`Pool.Activity.Calls`), which have made it
(`Pool.Activity.called?`), and which do neither. The call that a hand makes for a part is one that
moves it (`Pool.Follows.calls_of_start`), and a hand that has nothing to do with parts makes no call
for any (`Pool.Follows.quiet`).
-/

namespace BulkTransfer

open Pool Multipart

/-- The range that a call fetches of an object, unless it fetches the whole. -/
def Call.header? : Call → Option String
  | .getObject _ range => range
  | _ => none

/-- Whether a call is the one for a part on a side: by its number if the part is moved to a store,
and by its range if it is moved from there. -/
def Call.IsFor (side : Side) (range : PartSpan) (call : Call) : Prop :=
  match side with
  | .upload => call.partNumber? = some range.number
  | .download => call.header? = some range.openHeader

lemma Call.IsFor.isPart {side : Side} {range : PartSpan} {call : Call}
    (one : call.IsFor side range) : call.isPart = true := by
  cases side
  all_goals cases call
  case download.getObject object header =>
    obtain rfl : header = some range.openHeader := one
    rfl
  all_goals first | rfl | cases one

namespace Pool

variable {shared : Shared} {id : OperationId} {side : Side} {range : PartSpan}
  {activity later : Activity}

/-- Whether a hand is about to make the call for a part. -/
inductive Activity.Calls (id : OperationId) (side : Side) (range : PartSpan) : Activity → Prop where
  | reads (uploadId : String) (uploads : side = .upload) :
      Calls id side range (.reading id range uploadId)
  | sends {errand : Errand} {store : StoreName} {call : Call}
      (toward : errand.partSide? = some side) (one : call.IsFor side range) :
      Calls id side range (.sending id errand store call)

/-- The side to which a part is moved whose call has been made. -/
def Activity.called? : Activity → Option Side
  | .awaiting _ errand .. => errand.partSide?
  | .writing _ (.part _) .. => some .download
  | .reporting _ report => report.moved?
  | _ => none

/-- Whether a hand makes no call for a part in its next turn. -/
def Activity.IsQuiet (activity : Activity) : Prop :=
  ∀ call, activity.issue? = some call → call.isPart = false

lemma Activity.IsQuiet.of_silent (silent : activity.issue? = none) : activity.IsQuiet := by
  intro call issues
  rw [silent] at issues
  cases issues

/-- Whether a hand is about to report that a part was lost. -/
def Activity.Loses (id : OperationId) (side : Side) (activity : Activity) : Prop :=
  ∃ error, activity = .reporting id (.partLost side error true)

lemma Operation.isFor_of_copyPartCall {operation : Operation} {uploadId : String} {call : Call}
    (made : operation.copyPartCall uploadId range = .ok call) : call.IsFor .upload range :=
  (copyPartCall_spec made).1

lemma Operation.isFor_of_fetchPartCall {operation : Operation} {call : Call}
    (made : operation.fetchPartCall range = .ok call) : call.IsFor .download range := by
  obtain ⟨source, -, ⟨⟩⟩ := of_bind_eq_ok made
  rfl

/-- A task that enters a part goes on to the call for it, unless the part is lost. -/
theorem Follows.calls_of_start {chore : Chore}
    (follows : Follows shared id (.starting id chore) later) (part : chore.part? = some range)
    (moves : later.moves? = some side) :
    later.Calls id side range ∨ later.Loses id side := by
  cases follows
  case calls errand call store makes =>
    cases makes
    case copyPart made =>
      obtain rfl := Option.some.inj part
      obtain rfl := Option.some.inj moves
      exact .inl (.sends rfl (Operation.isFor_of_copyPartCall made))
    case fetchPart made =>
      obtain rfl := Option.some.inj part
      obtain rfl := Option.some.inj moves
      exact .inl (.sends rfl (Operation.isFor_of_fetchPartCall made))
    all_goals cases part
  case reads =>
    obtain rfl := Option.some.inj part
    obtain rfl := Option.some.inj moves
    exact .inl (.reads _ rfl)
  case unmoved error toward =>
    obtain rfl := Option.some.inj moves
    exact .inr ⟨error, rfl⟩
  all_goals cases moves

/-- What was read of a part is sent by the call for it. -/
lemma Follows.calls_of_read {uploadId : String}
    (follows : Follows shared id (.reading id range uploadId) later) :
    later.Calls id .upload range ∨ later.Loses id .upload := by
  cases follows
  case hasRead => exact .inl (.sends rfl rfl)
  case unread error => exact .inr ⟨error, rfl⟩

/-- After its call a part is moved until that is reported, or is lost. -/
lemma Follows.called (follows : Follows shared id activity later)
    (called : activity.called? = some side)
    (unreported : ∀ report, activity ≠ .reporting id report) :
    later.called? = some side ∨ later.Loses id side := by
  have none (noPart : activity.called? = none) :
      later.called? = some side ∨ later.Loses id side := by
    rw [noPart] at called
    cases called
  cases follows
  case tagged | loaded => exact .inl called
  case lost errand at_ part store call error =>
    obtain rfl := Option.some.inj (part.symm.trans called)
    exact .inr ⟨error, rfl⟩
  case stored errand whole store call => rcases whole with rfl | rfl <;> exact none rfl
  case removed errand removes store call => rcases removes with rfl | rfl <;> exact none rfl
  case failed errand noPart store call error => exact none noPart
  case writes extent path file offset later delivery rest =>
    cases extent with
    | whole => exact none rfl
    | part range => exact .inl called
  case written extent path file offset body spent =>
    cases extent with
    | whole => exact none rfl
    | part range => exact .inl called
  case unwritten extent path file offset body cause =>
    cases extent with
    | whole => exact none rfl
    | part range =>
        obtain rfl := Option.some.inj called
        exact .inr ⟨_, rfl⟩
  all_goals first
    | exact none rfl
    | exact absurd rfl (unreported _)

/-- A hand that has nothing to do with parts comes to no call for one. -/
theorem Follows.quiet (follows : Follows shared id activity later) (lead : activity.role? = none) :
    later.IsQuiet := by
  cases follows
  case calls chore errand call store makes =>
    rintro made ⟨⟩
    cases makes
    case put => rfl
    case copyPart | fetchPart => exact absurd lead (Option.some_ne_none _)
    case copy made | fetch made =>
      obtain ⟨source, -, rest⟩ := of_bind_eq_ok made
      obtain ⟨written, -, ⟨⟩⟩ := of_bind_eq_ok rest
      rfl
    case create made | complete made | abort made | delete made | removeBucket made =>
      obtain ⟨object, -, ⟨⟩⟩ := of_bind_eq_ok made
      rfl
  case hasRead => exact absurd lead (Option.some_ne_none _)
  case stored | transferred | stamped =>
    refine .of_silent ?_
    unfold Activity.afterTransfer
    split <;> rfl
  case writes extent path file offset later delivery rest => exact .of_silent rfl
  case written extent path file offset body spent => cases extent <;> exact .of_silent rfl
  case unwritten extent path file offset body cause => cases extent <;> exact .of_silent rfl
  case notFollowed followUp error => cases followUp <;> exact .of_silent rfl
  all_goals exact .of_silent rfl

end Pool
end BulkTransfer
