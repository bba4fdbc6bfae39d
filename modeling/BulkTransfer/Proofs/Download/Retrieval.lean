import BulkTransfer.Proofs.Alone
import BulkTransfer.Proofs.Run.Disks
import BulkTransfer.Remote.Script

/-!
# Retrievals

A retrieval is a download of an object that its store serves as it is, to a path that no other
operation touches. Nothing stands in the way of a *secured* one: its tasks are admitted, its file
can be created, and the object is no smaller than it was thought to be. Here is what surrounds a
retrieval in a run (`Retrieval.Meets`), and the three ways in which it ends: its file is kept, is
dropped, or could not be written at all.
-/

namespace BulkTransfer

open Pool

namespace Run

/-- Whether a store that is asked for an object in a move serves the given content. -/
def Serves (store : StoreName) (object : ObjectName) (content : Array UInt8) (run : Run)
    (move : Move) : Prop :=
  ∀ range, run.awaits? move.actor = some (store, .getObject object range) →
    move.surroundings.answer = Script.serve content range

/-- Whether a move of anybody but an operation leaves what a path shows. -/
def Spares (id : OperationId) (path : LocalPath) (run : Run) (move : Move) : Prop :=
  run.operationOf? move.actor ≠ some id → ∀ next, run.step move = some next →
    next.shared.disk.shown path = run.shared.disk.shown path

/-- Whether the admission policy refuses no task of an operation in a move. -/
def Admits (id : OperationId) (run : Run) (move : Move) : Prop :=
  ∀ entry chore, run.asks? move.actor = some entry → entry.item = .run ⟨id, chore⟩ →
    move.surroundings.policy entry = none

/-- Whether a file can be created at a path. -/
def Creates (path : LocalPath) (run : Run) (_ : Move) : Prop :=
  ∃ file disk, run.shared.disk.openNew path = (.ok file, disk)

variable (run : Run) (move : Move)

instance (store : StoreName) (object : ObjectName) (content : Array UInt8) :
    Decidable (run.Serves store object content move) :=
  decidable_of_iff
    ((run.awaits? move.actor).all (fun asked => match asked.2 with
      | .getObject named range => decide (asked.1 = store → named = object →
          move.surroundings.answer = Script.serve content range)
      | _ => true) = true) <| by
    unfold Serves
    cases run.awaits? move.actor with
    | none => simp
    | some asked =>
        obtain ⟨other, call⟩ := asked
        cases call
        case getObject named range =>
          simp only [Option.all_some, decide_eq_true_eq, Option.some.injEq, Prod.mk.injEq,
            Call.getObject.injEq]
          constructor
          · rintro served _ ⟨rfl, rfl, rfl⟩
            exact served rfl rfl
          · rintro served rfl rfl
            exact served range ⟨rfl, rfl, rfl⟩
        all_goals simp

instance (id : OperationId) (path : LocalPath) : Decidable (run.Spares id path move) :=
  decidable_of_iff
    (run.operationOf? move.actor ≠ some id → (run.step move).all (fun next =>
      decide (next.shared.disk.shown path = run.shared.disk.shown path)) = true) <| by
    unfold Spares
    cases run.step move <;> simp

instance (id : OperationId) : Decidable (run.Admits id move) :=
  decidable_of_iff
    ((run.asks? move.actor).all (fun entry => match entry.item with
      | .run task => decide (task.operation = id → move.surroundings.policy entry = none)
      | .dismissal => true) = true) <| by
    unfold Admits
    cases run.asks? move.actor with
    | none => simp
    | some entry =>
        obtain ⟨item, priority, label⟩ := entry
        cases item with
        | dismissal => simp +contextual [eq_comm]
        | run task =>
            obtain ⟨own, chore⟩ := task
            simp only [Option.all_some, decide_eq_true_eq]
            constructor
            · intro admitted entry other listed same
              obtain rfl := Option.some.inj listed
              exact admitted (congrArg Task.operation (Job.run.inj same))
            · rintro admitted rfl
              exact admitted _ chore rfl rfl

instance (path : LocalPath) : Decidable (run.Creates path move) :=
  decidable_of_iff ((run.shared.disk.openNew path).1.isOk = true) <| by
    unfold Creates
    cases opened : run.shared.disk.openNew path with
    | mk result disk => cases result <;> simp [Except.isOk, Except.toBool]

end Run

/-- Whether bytes are written in an event. -/
def Pool.Event.isWrite : Event → Bool
  | .wrote .. => true
  | _ => false

/-- A download that is followed through a run. -/
structure Retrieval where
  id : OperationId
  record : Record
  store : StoreName
  object : ObjectName
  path : LocalPath
  content : Array UInt8
  secured : Prop
  kind : record.kind = .download
  source : record.source = .object object
  destination : record.destination = some (.file path)
  bounded : record.size < Word.bound64
  sized : secured → record.size ≤ content.size

namespace Retrieval

variable (retrieval : Retrieval)

/-- The bytes of the object. -/
def whole : Bytes := retrieval.content.toList

/-- What surrounds a retrieval in a move. -/
structure Meets (run : Run) (move : Move) : Prop where
  sound : run.shared.disk.Sound
  serves : run.Serves retrieval.store retrieval.object retrieval.content move
  spares : run.Spares retrieval.id retrieval.path move
  admits : retrieval.secured → run.Admits retrieval.id move
  creates : retrieval.secured → run.Creates retrieval.path move
  room : retrieval.secured → retrieval.content.size ≤ run.shared.disk.format.longestFile

/-- What surrounds the turn of a hand of a retrieval. -/
structure Favours (shared : Shared) (surroundings : Surroundings) (activity : Activity) :
    Prop where
  sound : shared.disk.Sound
  served : ∀ own errand range,
    activity = .awaiting own errand retrieval.store (.getObject retrieval.object range) →
      surroundings.answer = Script.serve retrieval.content range
  unbarred : retrieval.secured → ∀ index,
    activity = .offering retrieval.id .download index ∨
        activity = .forcing retrieval.id .download index →
      ¬shared.Bars surroundings
        (Activity.partEntry (shared.operation retrieval.id) retrieval.id .download index)
  creates : retrieval.secured → ∃ file disk, shared.disk.openNew retrieval.path = (.ok file, disk)
  room : retrieval.secured → retrieval.content.size ≤ shared.disk.format.longestFile

/-- Whether an operation is that of a retrieval. -/
structure Describes (operation : Operation) : Prop where
  record : operation.record = retrieval.record
  store : operation.sourceStore = retrieval.store

variable {retrieval}

lemma Meets.favours {records : List Record} {run : Run} {move : Move} {index : Nat}
    {activity : Activity} (meets : retrieval.Meets run move) (sound : run.Sound records)
    (actor : move.actor = .worker index) (working : run.workers[index]? = some activity)
    (own : activity.operation? = some retrieval.id) :
    retrieval.Favours run.shared move.surroundings activity where
  sound := meets.sound
  served own errand range same := by
    refine meets.serves range ?_
    rw [actor, Run.awaits?, working, same]
  unbarred secured part same := by
    rintro (closed | barred)
    · exact absurd (sound.closed closed) (sound.early working (Activity.ne_dismissed own))
    · refine barred (meets.admits secured _ _ ?_ rfl)
      rw [actor, Run.asks?, working]
      rcases same with rfl | rfl <;> rfl
  creates := meets.creates
  room := meets.room

namespace Describes

variable {operation : Operation} (describes : retrieval.Describes operation)
include describes

lemma fileWritten : operation.fileWritten = .ok retrieval.path := by
  simp [Operation.fileWritten, describes.record, retrieval.destination, Location.path?]

lemma objectRead : operation.objectRead = .ok retrieval.object := by
  simp [Operation.objectRead, describes.record, retrieval.source, Location.object?]

lemma fetchCall : operation.fetchCall = .ok (.getObject retrieval.object none) := by
  rw [Operation.fetchCall, describes.objectRead, describes.fileWritten]
  rfl

lemma fetchPartCall (range : PartSpan) :
    operation.fetchPartCall range = .ok (.getObject retrieval.object (some range.openHeader)) := by
  rw [Operation.fetchPartCall, describes.objectRead]
  rfl

lemma afterTransfer (id : OperationId) :
    Activity.afterTransfer operation id = .settling id .succeeded := by
  refine if_neg ?_
  rw [describes.record, retrieval.kind]
  exact nofun

end Describes

variable (retrieval)

/-! ## Ways to end -/

/-- A retrieval whose file has the whole content and is kept. -/
inductive Kept : Multiset Activity → Shown → List Event → Prop where
  | stamping {file : FileId} {history : List Event}
      (quiet : history.filter Event.isSettled = []) :
      Kept {.stamping retrieval.id retrieval.path} (.file file retrieval.whole) history
  | ending {file : FileId} {history : List Event} (quiet : history.filter Event.isSettled = []) :
      Kept {.settling retrieval.id .succeeded} (.file file retrieval.whole) history
  | ended {file : FileId} {history : List Event} (name description : String)
      (quiet : history.filter Event.isSettled = []) :
      Kept 0 (.file file retrieval.whole)
        (.settled retrieval.id (.success name description) :: history)

/-- A retrieval whose file is removed because of a part that failed. -/
inductive Dropped : Multiset Activity → Shown → List Event → Prop where
  | discarding (reason : String) {file : FileId} {bytes : Bytes} {history : List Event}
      (quiet : history.filter Event.isSettled = [])
      (first : .discarded retrieval.id retrieval.path ∉ history) :
      Dropped {.discarding retrieval.id retrieval.path (.undone reason)} (.file file bytes) history
  | ending (reason : String) {history : List Event}
      (quiet : history.filter Event.isSettled = [])
      (first : .discarded retrieval.id retrieval.path ∉ history) :
      Dropped {.settling retrieval.id (.undone reason)} .nothing
        (.discarded retrieval.id retrieval.path :: history)
  | ended {message : Notice} {history : List Event} (isError : message.isError = true)
      (quiet : history.filter Event.isSettled = [])
      (first : .discarded retrieval.id retrieval.path ∉ history) :
      Dropped 0 .nothing
        (.settled retrieval.id message :: .discarded retrieval.id retrieval.path :: history)

/-- A retrieval that fails as a whole. -/
inductive Failing : Multiset Activity → List Event → Prop where
  | discarding (error : Failure) {history : List Event}
      (quiet : history.filter Event.isSettled = []) :
      Failing {.discarding retrieval.id retrieval.path (.failed error)} history
  | ending (error : Failure) {history : List Event}
      (quiet : history.filter Event.isSettled = []) :
      Failing {.settling retrieval.id (.failed error)} history
  | ended {message : Notice} {history : List Event} (isError : message.isError = true)
      (quiet : history.filter Event.isSettled = []) :
      Failing 0 (.settled retrieval.id message :: history)

/-- Whether a retrieval has succeeded. -/
def HasSucceeded (history : List Event) : Prop :=
  ∃ name description, .settled retrieval.id (.success name description) ∈ history

variable {retrieval}

lemma isError_refusal (operation : Operation) (tally : Tally) (error : Failure) :
    (Shared.refusal operation tally error).1.isError = true := by
  simp only [Shared.refusal]
  split <;> rfl

section

variable {hands : Multiset Activity} {shown : Shown} {history : List Event}

lemma not_settled (quiet : history.filter Event.isSettled = []) (message : Notice) :
    .settled retrieval.id message ∉ history := by
  intro present
  have settled : .settled retrieval.id message ∈ history.filter Event.isSettled :=
    List.mem_filter.2 ⟨present, rfl⟩
  rw [quiet] at settled
  cases settled

lemma not_hasSucceeded (quiet : history.filter Event.isSettled = []) :
    ¬retrieval.HasSucceeded history :=
  fun ⟨_, _, present⟩ => not_settled quiet _ present

/-- The file of a retrieval that is kept has the whole content. -/
lemma Kept.content (kept : retrieval.Kept hands shown history) :
    shown.content = .ok retrieval.whole := by
  cases kept <;> rfl

lemma Kept.hasSucceeded (kept : retrieval.Kept hands shown history) (gone : hands = 0) :
    retrieval.HasSucceeded history := by
  cases kept with
  | ended name description quiet => exact ⟨name, description, List.mem_cons_self⟩
  | _ => exact absurd gone (Multiset.singleton_ne_zero _)

/-- A retrieval that is kept has not failed. -/
lemma Kept.not_isError (kept : retrieval.Kept hands shown history) {message : Notice}
    (present : .settled retrieval.id message ∈ history) : message.isError = false := by
  have old {before : List Event} (quiet : before.filter Event.isSettled = [])
      (there : .settled retrieval.id message ∈ before) : message.isError = false :=
    absurd there (not_settled quiet message)
  cases kept with
  | stamping quiet | ending quiet => exact old quiet present
  | ended name description quiet =>
      rcases List.mem_cons.1 present with same | before
      · rw [(Event.settled.inj same).2]
        rfl
      · exact old quiet before

/-- A retrieval whose file has been removed has failed. -/
lemma Dropped.not_hasSucceeded (dropped : retrieval.Dropped hands shown history) :
    ¬retrieval.HasSucceeded history := by
  rintro ⟨name, description, present⟩
  cases dropped with
  | discarding reason quiet first => exact not_settled quiet _ present
  | ending reason quiet first =>
      rcases List.mem_cons.1 present with same | before
      · cases same
      · exact not_settled quiet _ before
  | ended isError quiet first =>
      rcases List.mem_cons.1 present with same | later
      · rw [← (Event.settled.inj same).2] at isError
        cases isError
      · rcases List.mem_cons.1 later with same | before
        · cases same
        · exact not_settled quiet _ before

/-- Whether the file of a retrieval has been removed and nothing has been written since. -/
def Removed (retrieval : Retrieval) (history : List Event) : Prop :=
  .discarded retrieval.id retrieval.path ∈ history ∧
    ∀ since before, history = since ++ .discarded retrieval.id retrieval.path :: before →
      ∀ event ∈ since, event.isWrite = false

/-- When a retrieval has failed that was to be dropped, its path leads nowhere, and nothing has been
written since the file was removed. -/
lemma Dropped.removed (dropped : retrieval.Dropped hands shown history) {message : Notice}
    (present : .settled retrieval.id message ∈ history) :
    shown = .nothing ∧ retrieval.Removed history := by
  cases dropped with
  | discarding reason quiet first => exact absurd present (not_settled quiet message)
  | ending reason quiet first =>
      rcases List.mem_cons.1 present with same | before
      · cases same
      · exact absurd before (not_settled quiet message)
  | @ended last before isError quiet first =>
      refine ⟨rfl, List.mem_cons_of_mem _ List.mem_cons_self, fun since older split => ?_⟩
      -- the removal is the event before the last, and there is no other
      cases since with
      | nil => cases (List.cons.inj split).1
      | cons event since =>
          obtain ⟨rfl, -⟩ := List.cons.inj split
          cases since with
          | nil => exact fun event there => by rw [List.mem_singleton.1 there]; rfl
          | cons other since =>
              have rest : before = since ++ .discarded retrieval.id retrieval.path :: older :=
                (List.cons.inj (List.cons.inj split).2).2
              have again : .discarded retrieval.id retrieval.path ∈ before := by
                rw [rest]
                exact List.mem_append_right since List.mem_cons_self
              exact absurd again first

lemma Failing.card (failing : retrieval.Failing hands history) : hands.card ≤ 1 := by
  cases failing <;> simp

lemma Failing.not_hasSucceeded (failing : retrieval.Failing hands history) :
    ¬retrieval.HasSucceeded history := by
  cases failing with
  | ended isError quiet =>
      rintro ⟨name, description, present⟩
      rcases List.mem_cons.1 present with same | old
      · rw [← (Event.settled.inj same).2] at isError
        cases isError
      · exact Retrieval.not_hasSucceeded quiet ⟨name, description, old⟩
  | discarding error quiet | ending error quiet => exact Retrieval.not_hasSucceeded quiet

end

section

variable {shared after : Shared} {surroundings : Surroundings} {activity later : Activity}
  {hands : Multiset Activity} {shown : Shown} {history : List Event}
  (inside : retrieval.id < shared.operations.length)
  (work : shared.work surroundings activity = some (after, later))
include inside work

lemma Kept.turn (describes : retrieval.Describes (shared.operation retrieval.id))
    (kept : retrieval.Kept hands shown history) (alone : hands = {activity})
    (same : shared.disk.shown retrieval.path = shown) :
    ∃ notes left,
      shared.Turned after retrieval.id later (shared.operation retrieval.id) notes left ∧
        retrieval.Kept left (after.disk.shown retrieval.path) (notes ++ history) := by
  cases kept with
  | stamping quiet =>
      obtain rfl := Multiset.singleton_inj.1 alone
      have goes := describes.afterTransfer retrieval.id
      have worked := Option.some.inj work
      simp only [Shared.stamp, goes] at worked
      split at worked
      · obtain ⟨rfl, rfl⟩ := Prod.mk.inj worked
        refine ⟨_, _, .stay inside rfl, ?_⟩
        rw [same]
        exact .ending quiet
      · next time _ =>
          split at worked
          · next disk set =>
              obtain ⟨rfl, rfl⟩ := Prod.mk.inj worked
              refine ⟨_, _, .of_changed (.onDisk inside disk) rfl, ?_⟩
              rw [Disk.shown_setModified same set]
              exact .ending quiet
          · obtain ⟨rfl, rfl⟩ := Prod.mk.inj worked
            refine ⟨_, _, .stay inside rfl, ?_⟩
            rw [same]
            exact .ending quiet
  | ending quiet =>
      obtain rfl := Multiset.singleton_inj.1 alone
      obtain ⟨rfl, rfl⟩ := Prod.mk.inj (Option.some.inj work)
      refine ⟨_, _, .of_changed_idle (.ofSettle inside _), ?_⟩
      rw [show (shared.settle retrieval.id .succeeded).disk = shared.disk from rfl, same]
      exact .ended _ _ quiet
  | ended => exact absurd alone.symm (Multiset.singleton_ne_zero activity)

lemma Dropped.turn (dropped : retrieval.Dropped hands shown history) (alone : hands = {activity})
    (same : shared.disk.shown retrieval.path = shown) :
    ∃ notes left,
      shared.Turned after retrieval.id later (shared.operation retrieval.id) notes left ∧
        retrieval.Dropped left (after.disk.shown retrieval.path) (notes ++ history) := by
  cases dropped with
  | discarding reason quiet first =>
      obtain rfl := Multiset.singleton_inj.1 alone
      obtain ⟨rfl, rfl⟩ := Prod.mk.inj (Option.some.inj work)
      refine ⟨_, _, .of_changed (.ofNote inside _ rfl (by simp)) rfl, ?_⟩
      have gone : (({ shared with disk := shared.disk.discard retrieval.path } : Shared).note
          (.discarded retrieval.id retrieval.path)).disk.shown retrieval.path = .nothing :=
        Disk.shown_discard same
      rw [gone]
      exact .ending reason quiet first
  | ending reason quiet first =>
      obtain rfl := Multiset.singleton_inj.1 alone
      obtain ⟨rfl, rfl⟩ := Prod.mk.inj (Option.some.inj work)
      refine ⟨_, _, .of_changed_idle (.ofSettle inside _), ?_⟩
      rw [show (shared.settle retrieval.id (.undone reason)).disk = shared.disk from rfl, same]
      exact .ended rfl quiet first
  | ended => exact absurd alone.symm (Multiset.singleton_ne_zero activity)

lemma Failing.turn (failing : retrieval.Failing hands history) (alone : hands = {activity}) :
    ∃ notes left,
      shared.Turned after retrieval.id later (shared.operation retrieval.id) notes left ∧
        retrieval.Failing left (notes ++ history) ∧
          ∀ path file, .opened retrieval.id path file ∉ notes := by
  cases failing with
  | discarding error quiet =>
      obtain rfl := Multiset.singleton_inj.1 alone
      obtain ⟨rfl, rfl⟩ := Prod.mk.inj (Option.some.inj work)
      exact ⟨_, _, .of_changed (.ofNote inside _ rfl (by simp)) rfl, .ending error quiet, by simp⟩
  | ending error quiet =>
      obtain rfl := Multiset.singleton_inj.1 alone
      obtain ⟨rfl, rfl⟩ := Prod.mk.inj (Option.some.inj work)
      exact ⟨_, _, .of_changed_idle (.ofSettle inside _),
        .ended rfl quiet, by simp⟩
  | ended => exact absurd alone.symm (Multiset.singleton_ne_zero activity)

end

end Retrieval
end BulkTransfer
