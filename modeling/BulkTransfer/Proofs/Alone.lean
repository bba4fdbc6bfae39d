import BulkTransfer.Proofs.Parts.Queueing

/-!
# Hands that are alone

An operation that is done as a whole has one hand from its first task to its end, and so has one in
parts after its upload is complete or its file is closed. Such a hand makes no call of a multipart
upload, its turn leaves one such hand again, and the last turn settles the operation
(`sole_of_work`).
-/

namespace BulkTransfer

open Pool

/-- Whether a call belongs to no multipart upload. -/
def Call.isPlain : Call → Bool
  | .createUpload .. | .uploadPart .. | .copyPart .. => false
  | .completeUpload .. | .abortUpload .. => false
  | _ => true

namespace Pool

/-- Whether a call is made for a whole operation. -/
def Errand.isPlain : Errand → Bool
  | .put | .copy | .fetch | .delete | .removeBucket => true
  | _ => false

/-- Whether a task is done for a whole operation. -/
def Chore.isPlain : Chore → Bool
  | .singleUpload | .copy | .download | .delete | .removeBucket => true
  | _ => false

/-- Whether a hand does its operation alone. -/
def Activity.isSole : Activity → Bool
  | .starting _ chore => chore.isPlain
  | .sending _ errand _ call | .awaiting _ errand _ call => errand.isPlain && call.isPlain
  | .following _ followUp => followUp = .delete
  | .writing _ extent .. => extent = .whole
  | .saving .. | .stamping .. | .discarding .. | .settling .. => true
  | _ => false

/-- Whether an event is neither the end of an operation nor a call of a multipart upload. -/
def Event.isPlain : Event → Bool
  | .called _ _ call | .answered _ _ call _ => call.isPlain
  | .settled .. => false
  | _ => true

namespace Operation

variable {operation : Operation} {call : Call}

lemma isPlain_of_copyCall (h : operation.copyCall = .ok call) : call.isPlain = true := by
  simp only [copyCall, bind, Except.bind] at h
  repeat' split at h
  all_goals cases h
  rfl

lemma isPlain_of_fetchCall (h : operation.fetchCall = .ok call) : call.isPlain = true := by
  simp only [fetchCall, bind, Except.bind] at h
  repeat' split at h
  all_goals cases h
  rfl

lemma isPlain_of_deleteCall (h : operation.deleteCall = .ok call) : call.isPlain = true := by
  simp only [deleteCall, bind, Except.bind] at h
  split at h
  all_goals cases h
  rfl

lemma isPlain_of_removeBucketCall (h : operation.removeBucketCall = .ok call) :
    call.isPlain = true := by
  simp only [removeBucketCall, bind, Except.bind] at h
  split at h
  all_goals cases h
  rfl

end Operation

namespace Activity

variable {id : OperationId}

/-- No hand that is alone is at work on parts. -/
lemma role?_of_isSole {activity : Activity} (sole : activity.isSole = true) :
    activity.role? = none := by
  cases activity
  case starting chore => cases chore <;> first | rfl | cases sole
  case sending errand _ _ => cases errand <;> first | rfl | cases sole
  case awaiting errand _ _ => cases errand <;> first | rfl | cases sole
  case writing extent _ _ _ _ => cases extent <;> first | rfl | cases sole
  all_goals first | rfl | cases sole

lemma isSole_call {errand : Errand} {store : StoreName} {made : Except Failure Call}
    (plain : errand.isPlain = true) (calls : ∀ call, made = .ok call → call.isPlain = true) :
    (call id errand store made).isSole = true := by
  cases made with
  | error error => rfl
  | ok made => simp [call, isSole, plain, calls made rfl]

lemma isSole_afterTransfer (operation : Operation) (id : OperationId) :
    (afterTransfer operation id).isSole = true := by
  unfold afterTransfer
  split <;> rfl

end Activity

/-- What the turn of a hand that is alone leaves: another such hand and no end of the operation, or
the end and nothing else. -/
inductive SoleTurn (operation : Operation) (tally : Tally) (id : OperationId)
    (activity : Activity) : List Event → Multiset Activity → Prop where
  | on {notes : List Event} {hand : Activity} (sole : hand.isSole = true)
      (plain : ∀ event ∈ notes, event.isPlain = true) :
      SoleTurn operation tally id activity notes {hand}
  | concluded {outcome : Outcome} (settles : activity = .settling id outcome) :
      SoleTurn operation tally id activity
        [.settled id (Shared.verdict operation tally outcome).1] 0

lemma Shared.isSole_afterReply {id : OperationId} {errand : Errand} (operation : Operation)
    (reply : Reply) (plain : errand.isPlain = true) :
    (Shared.afterReply operation id errand reply).isSole = true := by
  cases errand
  case put | copy => exact Activity.isSole_afterTransfer ..
  case fetch =>
    cases reply
    case object body =>
      cases body with
      | none => rfl
      | some body =>
          dsimp only [Shared.afterReply]
          split <;> rfl
    all_goals rfl
  case delete | removeBucket => rfl
  all_goals cases plain

/-- What has happened to an operation since it was left to a hand that is alone: nothing but plain
events while the hand is there, and then its end. -/
inductive SoleCourse (id : OperationId) : Multiset Activity → List Event → Prop where
  | on {hand : Activity} {notes : List Event} (sole : hand.isSole = true)
      (plain : ∀ event ∈ notes, event.isPlain = true) : SoleCourse id {hand} notes
  | concluded {notes : List Event} (message : Notice)
      (plain : ∀ event ∈ notes, event.isPlain = true) :
      SoleCourse id 0 (.settled id message :: notes)

lemma SoleCourse.isSole {id : OperationId} {activity : Activity} {since : List Event}
    (course : SoleCourse id {activity} since) : activity.isSole = true := by
  generalize hands : ({activity} : Multiset Activity) = had at course
  cases course with
  | concluded message plain => exact absurd hands (Multiset.singleton_ne_zero activity)
  | on sole plain => rwa [Multiset.singleton_inj.1 hands]

/-- A hand that is alone leaves plain events and the end of the operation. -/
lemma SoleCourse.isPlain_or_settled {id : OperationId} {hands : Multiset Activity}
    {since : List Event} (course : SoleCourse id hands since) {event : Event}
    (present : event ∈ since) : event.isPlain = true ∨ ∃ message, event = .settled id message := by
  cases course with
  | on sole plain => exact .inl (plain event present)
  | concluded message plain =>
      rcases List.mem_cons.1 present with rfl | old
      · exact .inr ⟨message, rfl⟩
      · exact .inl (plain event old)

/-- Whether an event is the end of an operation. -/
def Event.isSettled : Event → Bool
  | .settled .. => true
  | _ => false

lemma Event.isSettled_of_isPlain (event : Event) (plain : event.isPlain = true) :
    event.isSettled = false := by
  cases event <;> first | rfl | cases plain

/-- Whether an operation has ended once. -/
def SettledOnce (id : OperationId) (history : List Event) : Prop :=
  ∃ message, history.filter Event.isSettled = [.settled id message]

/-- When the hand that was alone has gone, the operation has ended once. -/
lemma SoleCourse.settledOnce {id : OperationId} {hands : Multiset Activity} {since : List Event}
    (course : SoleCourse id hands since) (gone : hands = 0) : SettledOnce id since := by
  cases course with
  | on sole plain => exact absurd gone (Multiset.singleton_ne_zero _)
  | @concluded notes message plain =>
      refine ⟨message, ?_⟩
      have silent : notes.filter Event.isSettled = [] := List.filter_eq_nil_iff.2
        fun event present => by simp [event.isSettled_of_isPlain (plain event present)]
      rw [List.filter_cons_of_pos rfl, silent]

lemma SoleTurn.isPlain_of_called {operation : Operation} {tally : Tally} {id own : OperationId}
    {activity : Activity} {notes : List Event} {left : Multiset Activity}
    (turn : SoleTurn operation tally id activity notes left) {store : StoreName} {call : Call}
    (made : .called store own call ∈ notes) : call.isPlain = true := by
  cases turn with
  | on sole plain => exact plain _ made
  | concluded settles => cases List.mem_singleton.1 made

/-- A turn goes on with the course. -/
lemma SoleCourse.turn {operation : Operation} {tally : Tally} {id : OperationId}
    {activity : Activity} {since notes : List Event} {left : Multiset Activity}
    (course : SoleCourse id {activity} since)
    (turn : SoleTurn operation tally id activity notes left) :
    SoleCourse id left (notes ++ since) := by
  generalize hands : ({activity} : Multiset Activity) = had at course
  cases course with
  | concluded message plain => exact absurd hands (Multiset.singleton_ne_zero activity)
  | on sole plain =>
      cases turn with
      | on soleLater plainNow =>
          refine .on soleLater fun event present => ?_
          exact (List.mem_append.1 present).elim (plainNow event) (plain event)
      | concluded settles => exact .concluded _ plain

/-- What a turn comes to after which another hand is alone, without an end of the operation. -/
def Shared.GoesOnAlone (shared : Shared) (id : OperationId) (result : Shared × Activity) : Prop :=
  ∃ notes hand, shared.Turned result.1 id result.2 (shared.operation id) notes {hand} ∧
    hand.isSole = true ∧ ∀ event ∈ notes, event.isPlain = true

namespace Shared

section

open Activity

variable {shared : Shared} {id : OperationId} (inside : id < shared.operations.length)
include inside

lemma soleTurn_stay {later : Activity} (own : later.operation? = some id)
    (sole : later.isSole = true) :
    GoesOnAlone shared id (shared, later) :=
  ⟨[], later, .stay inside own, sole, List.forall_mem_nil _⟩

/-- Something happens, and the hand goes on. -/
lemma soleTurn_note {later : Activity} {event : Event} (disk : Disk)
    (about : event.operation? = some id) (plain : event.isPlain = true)
    (own : later.operation? = some id) (sole : later.isSole = true) :
    GoesOnAlone shared id ({ shared with disk := disk }.note event, later) := by
  have quiet : ∀ operation message, event ≠ .settled operation message := by
    rintro operation message rfl
    cases plain
  refine ⟨[event], later, .of_changed (.ofNote inside disk about quiet) own, sole, ?_⟩
  intro other present
  rw [List.mem_singleton.1 present]
  exact plain

/-- The file system changes, and the hand goes on. -/
lemma soleTurn_onDisk {later : Activity} (disk : Disk)
    (own : later.operation? = some id) (sole : later.isSole = true) :
    GoesOnAlone shared id ({ shared with disk := disk }, later) :=
  ⟨[], later, .of_changed (.onDisk inside disk) own, sole, List.forall_mem_nil _⟩

lemma soleTurn_start {chore : Chore} (plain : chore.isPlain = true) :
    GoesOnAlone shared id (shared.start id chore) := by
  cases chore
  case singleUpload =>
    simp only [start, startSingleUpload]
    repeat' split
    all_goals exact soleTurn_stay inside rfl rfl
  case copy =>
    exact soleTurn_stay inside (operation?_call ..)
      (isSole_call rfl fun call => Operation.isPlain_of_copyCall)
  case download =>
    exact soleTurn_stay inside (operation?_call ..)
      (isSole_call rfl fun call => Operation.isPlain_of_fetchCall)
  case removeBucket =>
    exact soleTurn_stay inside (operation?_call ..)
      (isSole_call rfl fun call => Operation.isPlain_of_removeBucketCall)
  case delete =>
    simp only [start, startDelete]
    split
    · split
      · exact soleTurn_note inside _ rfl rfl rfl rfl
      · exact soleTurn_stay inside rfl rfl
    · exact soleTurn_stay inside (operation?_call ..)
        (isSole_call rfl fun call => Operation.isPlain_of_deleteCall)
  all_goals cases plain

lemma soleTurn_receive {errand : Errand} {store : StoreName} {call : Call}
    (answer : Answer) (errandPlain : errand.isPlain = true) (callPlain : call.isPlain = true) :
    GoesOnAlone shared id (shared.receive id errand store call answer) := by
  refine soleTurn_note inside shared.disk rfl callPlain ?_ ?_
  · split
    · exact operation?_afterReply ..
    · exact operation?_afterFailure ..
    · exact operation?_afterPanic ..
  · split
    · exact isSole_afterReply _ _ errandPlain
    · cases errand <;> first | rfl | cases errandPlain
    · cases errand <;> first | rfl | cases errandPlain

/-- A follow-up comes into the queue, or what is done about its refusal is. -/
lemma turned_follow (followUp : FollowUp) (surroundings : Surroundings) :
    ∃ hand,
      shared.Turned (shared.follow id followUp surroundings.policy).1 id
          (shared.follow id followUp surroundings.policy).2 (shared.operation id) [] {hand} ∧
        (hand = .starting id followUp.chore ∨ ∃ error, hand = afterRefusal id error followUp ∧
          shared.Bars surroundings ((shared.operation id).followUpEntry id followUp.chore)) := by
  unfold follow
  dsimp only
  split
  · next queue accepted =>
      have pushed := Queue.eq_push_of_insertAnyway accepted
      exact ⟨_, .of_queued_idle (.ofAccept inside pushed), .inl rfl⟩
  · next full => exact absurd full (insertAnyway_ne_full _ _ _)
  · next error refused =>
      have own : (afterRefusal id error followUp).operation? = some id := by
        cases followUp <;> rfl
      exact ⟨_, .stay inside own, .inr ⟨error, rfl, bars_of_insertAnyway refused⟩⟩

lemma soleTurn_follow (surroundings : Surroundings) :
    GoesOnAlone shared id (shared.follow id .delete surroundings.policy) := by
  obtain ⟨hand, turned, rfl | ⟨error, rfl, -⟩⟩ := turned_follow inside .delete surroundings
  · exact ⟨[], _, turned, rfl, List.forall_mem_nil _⟩
  · exact ⟨[], _, turned, rfl, List.forall_mem_nil _⟩

lemma soleTurn_save (path : LocalPath) (body : Reader) :
    GoesOnAlone shared id (shared.save id path body) := by
  unfold save
  split
  · exact soleTurn_note inside _ rfl rfl rfl rfl
  · exact soleTurn_onDisk inside _ rfl rfl

lemma soleTurn_write (path : LocalPath) (file : FileId) (offset : Nat)
    (body : Reader) :
    GoesOnAlone shared id (shared.write id .whole path file offset body) := by
  unfold write
  split
  · exact soleTurn_stay inside rfl rfl
  · exact soleTurn_stay inside rfl rfl
  · exact soleTurn_stay inside rfl rfl
  · split
    · exact soleTurn_stay inside rfl rfl
    · split
      · exact soleTurn_note inside _ rfl rfl rfl rfl
      · exact soleTurn_note inside _ rfl rfl rfl rfl

lemma soleTurn_stamp (path : LocalPath) :
    GoesOnAlone shared id (shared.stamp id path) := by
  have own := operation?_afterTransfer (shared.operation id) id
  have sole := isSole_afterTransfer (shared.operation id) id
  unfold stamp
  dsimp only
  split
  · exact soleTurn_stay inside own sole
  · split
    · exact soleTurn_onDisk inside _ own sole
    · exact soleTurn_stay inside own sole

/-- What a turn of a hand that is alone does. -/
theorem sole_of_work {surroundings : Surroundings} {activity later : Activity} {after : Shared}
    (own : activity.operation? = some id) (sole : activity.isSole = true)
    (work : shared.work surroundings activity = some (after, later)) :
    ∃ notes left, SoleTurn (shared.operation id) shared.tally id activity notes left ∧
      shared.Turned after id later (shared.operation id) notes left := by
  have on (goes : shared.GoesOnAlone id (after, later)) :
      ∃ notes left, SoleTurn (shared.operation id) shared.tally id activity notes left ∧
        shared.Turned after id later (shared.operation id) notes left := by
    obtain ⟨notes, hand, turned, alone, plain⟩ := goes
    exact ⟨notes, {hand}, .on alone plain, turned⟩
  cases activity
  case idle | dismissed => cases own
  case settling outcome =>
    obtain rfl := Option.some.inj own
    obtain ⟨rfl, rfl⟩ := Prod.mk.inj (Option.some.inj work)
    exact ⟨_, 0, .concluded rfl, .of_changed_idle (.ofSettle inside outcome)⟩
  case following followUp =>
    obtain rfl := Option.some.inj own
    obtain rfl : followUp = .delete := of_decide_eq_true sole
    exact on (Option.some.inj work ▸ soleTurn_follow inside surroundings)
  case writing extent path file offset body =>
    obtain rfl := Option.some.inj own
    obtain rfl : extent = .whole := of_decide_eq_true sole
    exact on (Option.some.inj work ▸ soleTurn_write inside path file offset body)
  case reading | reporting | feeding | offering | deferring | forcing => cases sole
  all_goals
    obtain rfl := Option.some.inj own
    refine on (Option.some.inj work ▸ ?_)
  case starting => exact soleTurn_start inside sole
  case sending errand store call =>
    exact soleTurn_note inside shared.disk rfl (Bool.and_eq_true_iff.1 sole).2 rfl sole
  case awaiting =>
    obtain ⟨errandPlain, callPlain⟩ := Bool.and_eq_true_iff.1 sole
    exact soleTurn_receive inside _ errandPlain callPlain
  case saving => exact soleTurn_save inside ..
  case stamping => exact soleTurn_stamp inside _
  case discarding => exact soleTurn_note inside _ rfl rfl rfl rfl

end

end Shared

/-- The course of an operation that is done as a whole, or could not be planned. -/
inductive WholeCourse (id : OperationId) : View → Prop where
  | proposed (operation : Operation) {chore : Chore} (plain : chore.isPlain = true) :
      WholeCourse id ⟨operation, some chore, 0, []⟩
  | alone (operation : Operation) {hands : Multiset Activity} {history : List Event}
      (course : SoleCourse id hands history) : WholeCourse id ⟨operation, none, hands, history⟩

end Pool

/-- Every step of a run goes on with the course of an operation that is done as a whole. -/
lemma Pool.WholeCourse.step {id : OperationId} {run next : Run} {move : Move}
    (course : WholeCourse id (run.view id)) (inside : id < run.shared.operations.length)
    (seen : run.Seen next move id) : WholeCourse id (next.view id) := by
  cases seen with
  | same view other => rw [view]; exact course
  | admitted chore proposed disk view other =>
      rw [view]
      rw [Run.view, proposed] at course
      generalize run.hands id = hands, run.shared.history id = history at course ⊢
      cases course with
      | proposed operation plain => exact .alone _ (.on plain (List.forall_mem_nil _))
  | refused chore error proposed shared view other =>
      rw [view]
      rw [Run.view, proposed] at course
      generalize run.hands id = hands, run.shared.history id = history at course ⊢
      cases course with
      | proposed operation plain => exact .alone _ (.concluded _ (List.forall_mem_nil _))
  | turned activity later rest index actor working own hands work view =>
      have known := course
      rw [Run.view, hands] at known
      generalize had : activity ::ₘ rest = hands', planned : run.proposed id = proposed,
        past : run.shared.history id = history at known
      cases known with
      | proposed => exact absurd had Multiset.cons_ne_zero
      | alone operation alone =>
          have only : rest = 0 := by
            cases alone with
            | on sole plain => exact ((Multiset.singleton_eq_cons_iff rest).1 had.symm).2
            | concluded message plain => exact absurd had Multiset.cons_ne_zero
          subst only
          rw [← had] at alone
          obtain ⟨notes, left, turn, turned⟩ :=
            Shared.sole_of_work inside own (SoleCourse.isSole alone) work
          rw [Run.view_of_turned view turned, planned, past, add_zero]
          exact .alone _ (SoleCourse.turn alone turn)

end BulkTransfer
