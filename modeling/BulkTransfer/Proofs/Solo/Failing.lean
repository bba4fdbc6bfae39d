import BulkTransfer.Proofs.Moves.Transferring
import BulkTransfer.Proofs.Solo.LoneQueue
import BulkTransfer.Proofs.Solo.Mending

/-!
# How a lone operation fails

The ways from a call that was answered to the failure of the operation, with the calls that are
made on them (`Solo.Fails`): an upload that was not created fails at once, one that could not be
completed after its abort, and one that is being aborted whatever becomes of that. Each starts from
what is known of the operation when the call is made (`Solo.Fit`).
-/

namespace BulkTransfer

open Pool Multipart

/-! ## Calls and the state of the operation -/

namespace Pool

/-- How a call fits the operation that it is made for: an upload that is being completed has its
identifier, one that is created or aborted is there, and no other call completes an upload. -/
inductive Operation.Makes (operation : Operation) : Errand → StoreName → Call → Prop where
  | completes {upload : Upload} {uploadId : String} {object : ObjectName}
      {parts : List FinishedPart} (set : operation.upload = some upload)
      (phase : upload.phase = .completing) (known : upload.uploadId = some uploadId)
      (remote : operation.objectWritten = .ok object) :
      Makes operation .complete operation.store (.completeUpload object uploadId parts)
  | creates {upload : Upload} {store : StoreName} {call : Call}
      (set : operation.upload = some upload) (other : call.isCompletion = false) :
      Makes operation .create store call
  | aborts {upload : Upload} {reason : String} {store : StoreName} {call : Call}
      (set : operation.upload = some upload) (other : call.isCompletion = false) :
      Makes operation (.abort reason) store call
  | moves {errand : Errand} {store : StoreName} {call : Call}
      (moves : errand.isPlain = true ∨ errand.partSide?.isSome = true)
      (other : call.isCompletion = false) : Makes operation errand store call

/-- Whether the call that an activity is at fits the operation. -/
def Operation.Backs (operation : Operation) : Activity → Prop
  | .sending _ errand store call | .awaiting _ errand store call =>
      operation.Makes errand store call
  | _ => True

lemma Operation.Makes.gist {operation : Operation} {errand : Errand} {store : StoreName}
    {call : Call} (makes : operation.Makes errand store call) :
    operation.gist.Makes errand.gist store call := by
  cases makes with
  | completes set phase known remote =>
      have kept : operation.gist.upload = some _ := congrArg (Option.map Upload.gist) set
      exact @completes operation.gist _ _ _ _ kept phase known remote
  | creates set other => exact .creates (congrArg (Option.map Upload.gist) set) other
  | aborts set other => exact .aborts (congrArg (Option.map Upload.gist) set) other
  | moves moves other =>
      refine .moves ?_ other
      cases errand <;> exact moves

lemma Operation.Backs.gist {operation : Operation} {activity : Activity}
    (backs : operation.Backs activity) : operation.gist.Backs activity.gist := by
  cases activity
  case sending | awaiting => exact Makes.gist backs
  all_goals trivial

section

variable {shared after : Shared} {surroundings : Surroundings} {activity later : Activity}

lemma isCompletion_of_calls {operation : Operation} {chore : Chore} {errand : Errand}
    {call : Call} (calls : chore.Calls operation errand call) (other : errand ≠ .complete) :
    call.isCompletion = false := by
  have made := calls.makes.1
  cases call
  case completeUpload =>
    cases errand
    case complete => exact absurd rfl other
    all_goals cases made
  all_goals rfl

lemma of_completeCall {operation : Operation} {uploadId : String} {parts : List FinishedPart}
    {call : Call} (made : operation.completeCall uploadId parts = .ok call) :
    ∃ object, operation.objectWritten = .ok object ∧
      call = .completeUpload object uploadId parts := by
  simp only [Operation.completeCall, bind, Except.bind] at made
  split at made
  · cases made
  · next object written => exact ⟨object, written, (Except.ok.inj made).symm⟩

lemma of_toComplete? {upload : Upload} {uploadId : String} {parts : List FinishedPart}
    (completes : upload.toComplete? = some (uploadId, parts)) :
    upload.phase = .completing ∧ upload.uploadId = some uploadId := by
  unfold Upload.toComplete? at completes
  split at completes
  · next phase =>
      obtain ⟨known, set, same⟩ := Option.map_eq_some_iff.1 completes
      obtain ⟨rfl, -⟩ := Prod.mk.inj same
      exact ⟨phase, set⟩
  · cases completes

lemma backs_of_create (inside : 0 < shared.operations.length)
    (work : shared.work surroundings (.starting 0 .createUpload) = some (after, later)) :
    (after.operation 0).Backs later := by
  have started := Option.some.inj work
  simp only [Shared.start, Shared.startCreate] at started
  split at started
  · obtain ⟨rfl, rfl⟩ := Prod.mk.inj started
    trivial
  · split at started
    · obtain ⟨rfl, rfl⟩ := Prod.mk.inj started
      trivial
    · next claimed _ =>
        obtain ⟨rfl, rfl⟩ := Prod.mk.inj started
        split
        · next call made =>
            have set := shared.operation_setUpload inside claimed
            have other := isCompletion_of_calls (.create made) (by simp)
            exact .creates (congrArg Operation.upload set) other
        · trivial

lemma backs_of_complete
    (work : shared.work surroundings (.starting 0 .completeUpload) = some (after, later)) :
    (after.operation 0).Backs later := by
  obtain ⟨rfl, rfl⟩ := Prod.mk.inj (Option.some.inj work)
  simp only [Shared.startComplete]
  split
  · trivial
  · next upload set =>
      split
      · trivial
      · next uploadId parts completes =>
          split
          · next call made =>
              obtain ⟨phase, known⟩ := of_toComplete? completes
              obtain ⟨object, remote, rfl⟩ := of_completeCall made
              exact .completes set phase known remote
          · trivial

lemma backs_of_abort
    (work : shared.work surroundings (.starting 0 .abortUpload) = some (after, later)) :
    (after.operation 0).Backs later := by
  obtain ⟨rfl, rfl⟩ := Prod.mk.inj (Option.some.inj work)
  simp only [Shared.startAbort]
  split
  · trivial
  · next upload set =>
      split
      · trivial
      · next uploadId reason aborts =>
          split
          · next call made =>
              have calls : Chore.Calls (shared.operation 0) .abortUpload (.abort reason) call :=
                .abort made
              exact .aborts set (isCompletion_of_calls calls (by simp))
          · trivial

lemma Operation.backs_afterTransfer (operation other : Operation) (id : OperationId) :
    operation.Backs (Activity.afterTransfer other id) := by
  unfold Activity.afterTransfer
  split <;> trivial

/-- The calls that are made for an operation fit it. -/
lemma backs_of_work (inside : 0 < shared.operations.length) (own : activity.operation? = some 0)
    (backs : (shared.operation 0).Backs activity)
    (work : shared.work surroundings activity = some (after, later)) :
    (after.operation 0).Backs later := by
  cases Shared.follows_of_work own work
  case calls chore errand call store makes =>
    cases makes with
    | create => exact backs_of_create inside work
    | complete => exact backs_of_complete work
    | abort => exact backs_of_abort work
    | put object body => exact .moves (.inl rfl) rfl
    | copyPart made => exact .moves (.inr rfl) (isCompletion_of_calls (.copyPart made) (by simp))
    | fetchPart file made =>
        exact .moves (.inr rfl) (isCompletion_of_calls (.fetchPart file made) (by simp))
    | copy made => exact .moves (.inl rfl) (isCompletion_of_calls (.copy made) (by simp))
    | fetch made => exact .moves (.inl rfl) (isCompletion_of_calls (.fetch made) (by simp))
    | delete made => exact .moves (.inl rfl) (isCompletion_of_calls (.delete made) (by simp))
    | removeBucket made =>
        exact .moves (.inl rfl) (isCompletion_of_calls (.removeBucket made) (by simp))
  case hasRead => exact .moves (.inr rfl) rfl
  case waits =>
    obtain rfl := (Prod.mk.inj (Option.some.inj work)).1
    exact backs
  case stored | transferred | stamped => exact Operation.backs_afterTransfer ..
  case notFollowed followUp error => cases followUp <;> trivial
  case written extent path file offset body spent => cases extent <;> trivial
  case unwritten extent path file offset body cause => cases extent <;> trivial
  all_goals trivial

end

end Pool

namespace Solo

variable {σ : Type} (service : Service σ)

/-- Whether an essence ends with the failure of the operation, after the given calls. -/
def Fails (solo : Solo σ) (called : List (StoreName × Call)) : Prop :=
  ∃ last : Solo σ, solo.Goes service last ∧ last.hand = none ∧
    last.shared.shown = solo.shared.shown.failed called

variable {service} {solo next : Solo σ} {called more : List (StoreName × Call)}

lemma Fails.head (step : solo.next? service = some next)
    (shown : next.shared.shown =
      { solo.shared.shown with calls := solo.shared.calls ++ called })
    (fails : next.Fails service more) : solo.Fails service (called ++ more) := by
  obtain ⟨last, goes, ends, same⟩ := fails
  refine ⟨last, .head step goes, ends, ?_⟩
  rw [same, shown]
  simp [Shown.failed, Shared.shown]

lemma Fails.quiet (step : solo.next? service = some next)
    (shown : next.shared.shown = solo.shared.shown) (fails : next.Fails service more) :
    solo.Fails service more := by
  obtain ⟨last, goes, ends, same⟩ := fails
  exact ⟨last, .head step goes, ends, by rw [same, shown]⟩

/-- How the essence goes on where nothing is asked of a store. -/
lemma next?_of_uncalled {shared after : Shared} {activity later : Activity}
    {stores : List (StoreName × σ)} (uncalled : activity.call? = none)
    (work : shared.work ⟨admittingAll [], .reply .done⟩ activity = some (after, later)) :
    (⟨shared, some activity, stores⟩ : Solo σ).next? service =
      some ⟨after.gist, (later.onward (after.operation 0)).map Activity.gist, stores⟩ := by
  simp [next?, uncalled, answerTo, work]

/-- How the essence goes on where a store is asked. -/
lemma next?_of_awaiting (service : Service σ) (shared : Shared) (errand : Errand)
    (store : StoreName) (call : Call) (stores : List (StoreName × σ)) :
    (⟨shared, some (.awaiting 0 errand store call), stores⟩ : Solo σ).next? service =
      some ⟨(shared.note (.answered store 0 call
          (Shared.seen call (ask service store call stores).1))).gist,
        ((Shared.afterAnswer (shared.operation 0) 0 errand
          (Shared.seen call (ask service store call stores).1)).onward
            (shared.operation 0)).map Activity.gist, (ask service store call stores).2⟩ := rfl

/-- An operation that is settled as failed has failed. -/
lemma fails_of_settling {shared : Shared} {stores : List (StoreName × σ)} {outcome : Outcome}
    (fails : outcome.gist = .failed .queueClosed) :
    (⟨shared, some (.settling 0 outcome), stores⟩ : Solo σ).Fails service [] := by
  have step : (⟨shared, some (.settling 0 outcome), stores⟩ : Solo σ).next? service =
      some ⟨(shared.settle 0 outcome).gist, none, stores⟩ :=
    @next?_of_uncalled _ service shared (shared.settle 0 outcome) (.settling 0 outcome) .idle stores
      rfl rfl
  refine ⟨_, .single step, rfl, ?_⟩
  rw [Shared.shown_gist, Shared.shown_settle shared 0 fails]

variable {shared : Shared} {stores : List (StoreName × σ)} {upload : Upload}
  (inside : 0 < shared.operations.length)
  (set : (shared.operation 0).upload = some upload)
include set

/-- An upload that was not created has failed. -/
lemma fails_of_uncreated (error : Failure) :
    (⟨shared, some (.reporting 0 (.creationFailed error)), stores⟩ : Solo σ).Fails service [] := by
  have step := @next?_of_uncalled _ service shared
    (shared.setUpload 0 (upload.creationFailed error.message))
    (.reporting 0 (.creationFailed error)) (.settling 0 (.failed error)) stores rfl
    (congrArg some (report_of_upload set rfl))
  exact .quiet step (by simp) (fails_of_settling rfl)

/-- An upload that was to be aborted has failed, whether or not that has succeeded. -/
lemma fails_of_abortEnded (aborted : Bool) (reason : String) :
    (⟨shared, some (.reporting 0 (.abortEnded aborted reason)), stores⟩ : Solo σ).Fails service
      [] := by
  have step := @next?_of_uncalled _ service shared (shared.setUpload 0 (upload.abortEnded aborted))
    (.reporting 0 (.abortEnded aborted reason)) (.settling 0 (.undone reason)) stores rfl
    (congrArg some (report_of_upload set rfl))
  exact .quiet step (by simp) (fails_of_settling rfl)

/-- An upload whose abort has been called for has failed, whatever the store answers. -/
lemma fails_of_aborting {reason : String} {store : StoreName} {call : Call}
    (other : call.isCompletion = false) :
    (⟨shared, some (.awaiting 0 (.abort reason) store call), stores⟩ : Solo σ).Fails service
      [] := by
  have known := Shared.upload_gist (shared.note (.answered store 0 call
    (Shared.seen call (ask service store call stores).1))) 0 set
  have step := next?_of_awaiting service shared (.abort reason) store call stores
  refine .quiet step (Shared.shown_answered shared 0 other store _) ?_
  -- No answer to an abort leads to another call.
  generalize Shared.seen call (ask service store call stores).1 = seen at known ⊢
  cases seen with
  | reply reply => exact fails_of_abortEnded known true ""
  | failed error => exact fails_of_abortEnded known false ""
  | panicked message => exact fails_of_settling rfl

/-- An upload that is about to be aborted has failed after that call. -/
lemma fails_of_sending {reason : String} {store : StoreName} {call : Call}
    (other : call.isCompletion = false) :
    (⟨shared, some (.sending 0 (.abort reason) store call), stores⟩ : Solo σ).Fails service
      [(store, call)] := by
  have known := Shared.upload_gist (shared.note (.called store 0 call)) 0 set
  have step := @next?_of_uncalled _ service shared (shared.note (.called store 0 call))
    (.sending 0 (.abort reason) store call) (.awaiting 0 (.abort reason) store call) stores rfl rfl
  rw [← List.append_nil [_]]
  refine .head step ?_ (fails_of_aborting known other)
  rw [Shared.shown_gist, Shared.shown_called]

/-- An upload whose parts are to be thrown away is aborted, and has failed. -/
lemma fails_of_starting {uploadId : String} {object : ObjectName}
    (phase : upload.phase = .aborting) (known : upload.uploadId = some uploadId)
    (remote : (shared.operation 0).objectWritten = .ok object) :
    (⟨shared, some (.starting 0 .abortUpload), stores⟩ : Solo σ).Fails service
      [((shared.operation 0).store, .abortUpload object uploadId)] := by
  have call : (shared.operation 0).abortCall uploadId = .ok (.abortUpload object uploadId) := by
    simp [Operation.abortCall, remote, bind, Except.bind]
  obtain ⟨reason, abort⟩ : ∃ reason, upload.toAbort? = some (uploadId, reason) := by
    refine ⟨upload.progress.failure.getD "multipart transfer failed", ?_⟩
    simp only [Upload.toAbort?, phase, if_true, known, Option.map_some]
  have started : shared.start 0 .abortUpload = (shared,
      .sending 0 (.abort reason) (shared.operation 0).store (.abortUpload object uploadId)) := by
    simp only [Shared.start, Shared.startAbort, set, abort, call]
  have step := @next?_of_uncalled _ service shared shared (.starting 0 .abortUpload) _ stores rfl
    (congrArg some started)
  exact .quiet step (by simp) (fails_of_sending (shared.upload_gist 0 set) rfl)

include inside in
/-- An upload that could not be completed is aborted, and has failed. -/
lemma fails_of_uncompleted {error : Failure} {uploadId : String} {object : ObjectName}
    (phase : upload.phase = .completing) (known : upload.uploadId = some uploadId)
    (remote : (shared.operation 0).objectWritten = .ok object) :
    (⟨shared, some (.reporting 0 (.completionFailed error)), stores⟩ : Solo σ).Fails service
      [((shared.operation 0).store, .abortUpload object uploadId)] := by
  obtain ⟨aborting, failed, isAborting, isKnown⟩ : ∃ aborting,
      upload.completionFailed error.message = (.abort, aborting) ∧ aborting.phase = .aborting ∧
        aborting.uploadId = some uploadId := ⟨_, if_pos phase, rfl, known⟩
  have reported : shared.report 0 (.completionFailed error) =
      (shared.setUpload 0 aborting, .following 0 .abort) := by
    rw [report_of_upload set rfl, Shared.reportUpload, failed]
    rfl
  have step := @next?_of_uncalled _ service shared _ (.reporting 0 (.completionFailed error)) _
    stores rfl (congrArg some reported)
  refine .quiet step (by simp) ?_
  have kept : (shared.setUpload 0 aborting).gist.operation 0 =
      { shared.operation 0 with upload := some aborting }.gist := by
    rw [Shared.operation_gist, Shared.operation_setUpload inside]
  have written := (congrArg Operation.objectWritten kept).trans remote
  have fails := @fails_of_starting _ service _ stores aborting.gist
    (congrArg Operation.upload kept) _ _ isAborting isKnown written
  rw [congrArg Operation.store kept] at fails
  exact fails

include inside in
/-- So has one whose completion has just been answered, if it goes on as one that could not be
completed. -/
lemma fails_of_lostCompletion {error : Failure} {uploadId : String} {object : ObjectName}
    {store : StoreName} {call : Call} (answer : Answer) (phase : upload.phase = .completing)
    (known : upload.uploadId = some uploadId)
    (remote : (shared.operation 0).objectWritten = .ok object) :
    (⟨(shared.note (.answered store 0 call answer)).gist,
      some (.reporting 0 (.completionFailed error)), stores⟩ : Solo σ).Fails service
        [((shared.operation 0).store, .abortUpload object uploadId)] := by
  have own : (shared.note (.answered store 0 call answer)).gist.operation 0 =
      (shared.operation 0).gist := Shared.operation_gist ..
  have there : 0 < (shared.note (.answered store 0 call answer)).gist.operations.length := by
    simpa [Shared.gist, Shared.note] using inside
  have kept := Shared.upload_gist (shared.note (.answered store 0 call answer)) 0 set
  have written := (congrArg Operation.objectWritten own).trans remote
  have fails := @fails_of_uncompleted _ service _ stores upload.gist there kept error _ _ phase
    known written
  rw [congrArg Operation.store own] at fails
  exact fails

omit set

/-- What is known of an essence at any time: the operation is there, whatever is done is done for
it, and the calls that are made fit it. -/
structure Fit (solo : Solo σ) : Prop where
  inside : 0 < solo.shared.operations.length
  own : ∀ hand, solo.hand = some hand → hand.operation? = some 0
  backs : ∀ hand, solo.hand = some hand → (solo.shared.operation 0).Backs hand

lemma Fit.begin (plan : Plan) (disk : Disk) (record : Record) (stores : List (StoreName × σ)) :
    (Solo.begin plan disk record stores).Fit := by
  unfold Solo.begin
  dsimp only
  split
  · refine ⟨Nat.zero_lt_one, fun hand hands => ?_, fun hand hands => ?_⟩
    · obtain rfl := Option.some.inj hands
      rfl
    · obtain rfl := Option.some.inj hands
      trivial
  · refine ⟨Nat.zero_lt_one, fun hand hands => ?_, fun hand hands => ?_⟩
    · cases hands
    · cases hands

/-- What is done onward is done for the same operation. -/
lemma fits_of_onward {operation : Operation} {activity hand : Activity}
    (own : activity.operation? = some 0 ∨ activity = .idle) (backs : operation.Backs activity)
    (hands : (activity.onward operation).map Activity.gist = some hand) :
    hand.operation? = some 0 ∧ operation.gist.Backs hand := by
  obtain ⟨next, onward, rfl⟩ := Option.map_eq_some_iff.1 hands
  have kept (same : activity.onward operation = some activity) :
      next.gist.operation? = some 0 ∧ operation.gist.Backs next.gist := by
    obtain rfl := Option.some.inj (same.symm.trans onward)
    refine ⟨?_, backs.gist⟩
    rcases own with own | rfl
    · rw [← own]
      cases activity <;> rfl
    · cases onward
  cases activity
  case idle | dismissed => cases onward
  case feeding id side =>
    obtain rfl := Option.some.inj onward
    obtain rfl := Option.some.inj (own.resolve_right (by simp))
    exact ⟨rfl, trivial⟩
  case following id followUp =>
    obtain rfl := Option.some.inj onward
    obtain rfl := Option.some.inj (own.resolve_right (by simp))
    exact ⟨rfl, trivial⟩
  all_goals exact kept rfl

lemma Fit.step (fit : solo.Fit) (step : solo.next? service = some next) : next.Fit := by
  obtain ⟨activity, hands, step⟩ := Option.bind_eq_some_iff.1 step
  obtain ⟨⟨after, later⟩, work, rfl⟩ := Option.map_eq_some_iff.1 step
  have own := fit.own activity hands
  have stays := Shared.stays_of_work fit.inside own work
  have backs := backs_of_work fit.inside own (fit.backs activity hands) work
  obtain ⟨⟨operation, notes, queued, changed⟩, goes⟩ := stays
  refine ⟨?_, fun hand hands => (fits_of_onward goes backs hands).1, fun hand hands => ?_⟩
  · have length : after.operations.length = solo.shared.operations.length := by
      rw [changed.operations, List.length_set]
    simpa [Shared.gist, length] using fit.inside
  · rw [Shared.operation_gist]
    exact (fits_of_onward goes backs hands).2

end Solo
end BulkTransfer
