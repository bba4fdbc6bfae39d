import BulkTransfer.Pool.Schedule
import BulkTransfer.Proofs.Parts.Queueing
import BulkTransfer.Proofs.Solo.QueueIndependence
import Mathlib.Logic.Relation

/-!
# A lone operation without its queue

The essence of a run with one record and one worker: what the operation does next, one thing after
another, whatever the queue has room for and whenever the planner moves (`Solo.next?`). A part that
has succeeded is followed at once by the next one, and a follow-up by its task. A turn at the
operation itself is a step of the essence (`Solo.next?_of_work`).
-/

namespace BulkTransfer

open Pool Multipart

namespace Pool

/-- The progress of the parts on one side. -/
def Operation.progress? (operation : Operation) : Side → Option Progress
  | .upload => operation.upload.map (·.progress)
  | .download => operation.download.map (·.progress)

/-- The chore that moves the part with the given index. -/
def Operation.moving (operation : Operation) (side : Side) (index : Nat) : Chore :=
  Activity.partChore operation side (operation.span side index)

/-- The chore that moves the first part that has not succeeded yet. -/
def Operation.following (operation : Operation) (side : Side) : Chore :=
  operation.moving side (((operation.progress? side).map (·.succeeded)).getD 0)

namespace Activity

/-- What is done next for a lone operation, once the tasks that an activity brings into the queue
have come to their turn. -/
def onward (operation : Operation) : Activity → Option Activity
  | .idle | .dismissed => none
  | .feeding id side => some (.starting id (operation.following side))
  | .following id followUp => some (.starting id followUp.chore)
  | activity => some activity

/-- The call whose answer an activity waits for. -/
def call? : Activity → Option (StoreName × Call)
  | .awaiting _ _ store call => some (store, call)
  | _ => none

@[simp]
lemma call?_gist (activity : Activity) : activity.gist.call? = activity.call? := by
  cases activity <;> rfl

end Activity

@[simp]
lemma Operation.span_gist (operation : Operation) (side : Side) (index : Nat) :
    operation.gist.span side index = operation.span side index := by
  cases side with
  | upload => cases set : operation.upload <;> simp [span, chunksize, set, Upload.gist]
  | download => cases set : operation.download <;> simp [span, chunksize, set, Download.gist]

@[simp]
lemma Operation.following_gist (operation : Operation) (side : Side) :
    operation.gist.following side = operation.following side := by
  have same : ((operation.gist.progress? side).map (·.succeeded)) =
      (operation.progress? side).map (·.succeeded) := by
    cases side <;> simp only [progress?, upload_gist, download_gist, Option.map_map] <;> rfl
  simp only [following, moving, span_gist, same]
  rfl

/-- What is done next follows from the gist of the operation and of what was done. -/
lemma Activity.gist_onward (operation : Operation) (activity : Activity) :
    (activity.gist.onward operation.gist).map gist = (activity.onward operation).map gist := by
  cases activity <;> simp [onward, gist]

/-- The answer to a call, if there is one to be answered, and the stores afterwards. -/
def answerTo {σ : Type} (service : Service σ) (stores : List (StoreName × σ)) :
    Option (StoreName × Call) → Answer × List (StoreName × σ)
  | some (store, call) => ask service store call stores
  | none => (.reply .done, stores)

/-- The policy that admits every task. -/
def admittingAll : Admission := fun _ _ => none

end Pool

/-- The essence of a run with one record and one worker: the gist of what is shared, what is done
for the operation next, and the stores. -/
structure Solo (σ : Type) where
  shared : Shared
  hand : Option Activity
  stores : List (StoreName × σ)

namespace Solo

variable {σ : Type} (service : Service σ)

/-- How the essence goes on, until nothing is left to be done. -/
def next? (solo : Solo σ) : Option (Solo σ) :=
  solo.hand.bind fun activity =>
    let answered := answerTo service solo.stores activity.call?
    (solo.shared.work ⟨admittingAll [], answered.1⟩ activity).map fun result =>
      ⟨result.1.gist, (result.2.onward (result.1.operation 0)).map Activity.gist, answered.2⟩

/-- Whether an essence goes on to another one. -/
def Goes : Solo σ → Solo σ → Prop :=
  Relation.ReflTransGen fun solo next => solo.next? service = some next

/-- The essence before anything has been done for a record. -/
def begin (plan : Plan) (disk : Disk) (record : Record) (stores : List (StoreName × σ)) : Solo σ :=
  let shared : Shared := { queue := .ofCapacity 0, operations := [], disk := disk }
  match plan.resolve record with
  | .ok (operation, chore) =>
      ⟨(shared.addOperation operation).gist, some (.starting 0 chore), stores⟩
  | .error error =>
      ⟨((shared.addOperation (plan.operationFor record)).refuse 0 error).gist, none, stores⟩

variable {service} {solo first last : Solo σ}

/-- Nothing is left to be done at the end, and there is only one end. -/
lemma Goes.unique (left : solo.Goes service first) (right : solo.Goes service last)
    (firstEnds : first.hand = none) (lastEnds : last.hand = none) : first = last := by
  have final {one two : Solo σ} (ends : one.hand = none) (goes : one.Goes service two) :
      one = two := by
    rcases goes.cases_head with same | ⟨next, step, -⟩
    · exact same
    · rw [next?, ends] at step
      cases step
  have deterministic : Relator.RightUnique
      fun one two : Solo σ => one.next? service = some two :=
    fun one two three leads also => Option.some.inj (leads.symm.trans also)
  rcases Relation.ReflTransGen.total_of_right_unique deterministic left right with goes | goes
  · exact final firstEnds goes
  · exact (final lastEnds goes).symm

/-- A turn at the operation itself is a step of the essence. -/
theorem next?_of_work {shared after : Shared} {activity later : Activity}
    {stores : List (StoreName × σ)} (effective : activity.isEffective = true)
    (work : shared.work ⟨admittingAll [], (answerTo service stores activity.call?).1⟩ activity =
      some (after, later)) :
    (⟨shared.gist, some activity.gist, stores⟩ : Solo σ).next? service =
      some ⟨after.gist, (later.onward (after.operation 0)).map Activity.gist,
        (answerTo service stores activity.call?).2⟩ := by
  have gist := shared.gist_work effective
    ⟨admittingAll [], (answerTo service stores activity.call?).1⟩
  rw [work] at gist
  obtain ⟨⟨other, otherLater⟩, works, same⟩ := Option.map_eq_some_iff.1 gist
  obtain ⟨state, goes⟩ := Prod.mk.inj same
  have operation : (other.operation 0).gist = (after.operation 0).gist := by
    rw [← Shared.operation_gist, ← Shared.operation_gist]
    exact congrArg (Shared.operation · 0) state
  have onward : (otherLater.onward (other.operation 0)).map Activity.gist =
      (later.onward (after.operation 0)).map Activity.gist := by
    have goes : otherLater.gist = later.gist := goes
    rw [← Activity.gist_onward (other.operation 0), operation, goes, Activity.gist_onward]
  simp only [next?, Option.bind_some, Activity.call?_gist, works, Option.map_some]
  rw [onward]
  exact congrArg (fun shared => some (Solo.mk shared _ _)) state

end Solo
end BulkTransfer
