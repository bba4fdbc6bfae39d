import BulkTransfer.Proofs.Alone
import BulkTransfer.Proofs.Moves.Transferring
import BulkTransfer.Proofs.Run.Turns

/-!
# Moves that part with their source

Once its transfer has succeeded, one hand leads a move to its end: it brings the deletion of the
source into the queue, makes it, and settles the move by what came of it (`Parting`). Others of its
hands may still look for parts to be queued, and find none (`Parted`). Every step goes on so
(`Parted.step`), so that the source is deleted at most once, nothing is transferred any more, and
the move is said to have succeeded if and only if its source was deleted.
-/

namespace BulkTransfer

open Pool Multipart

namespace Pool

/-- What the attempts to delete the source of a move have come to: how many there were, whether the
source was deleted, and what happened. The entry for the deletion may have been refused. -/
inductive Attempt (record : Record) (id : OperationId) : Nat → Bool → List Event → Prop where
  | barred : Attempt record id 0 false []
  | removed {path : LocalPath} (source : record.source = .file path) :
      Attempt record id 1 true [.removedSource id path]
  | unremoved : Attempt record id 1 false []
  | deleted {object : ObjectName} (source : record.source = .object object) (store : StoreName)
      (reply : Reply) :
      Attempt record id 1 true [.answered store id (.deleteObject object) (.reply reply),
        .called store id (.deleteObject object)]
  | undeleted {object : ObjectName} (source : record.source = .object object) (store : StoreName)
      {answer : Answer} (refuses : ∀ reply, answer ≠ .reply reply) :
      Attempt record id 1 false [.answered store id (.deleteObject object) answer,
        .called store id (.deleteObject object)]

/-- How far a move is whose source was transferred: how often its deletion was begun, the hand that
leads the move, and what has happened since the transfer. -/
inductive Parting (record : Record) (id : OperationId) :
    Nat → Multiset Activity → List Event → Prop where
  | stamping (path : LocalPath) : Parting record id 0 {.stamping id path} []
  | due : Parting record id 0 {.following id .delete} []
  | queued : Parting record id 0 {.starting id .delete} []
  | calling {object : ObjectName} (source : record.source = .object object) (store : StoreName) :
      Parting record id 1 {.sending id .delete store (.deleteObject object)} []
  | called {object : ObjectName} (source : record.source = .object object) (store : StoreName) :
      Parting record id 1 {.awaiting id .delete store (.deleteObject object)}
        [.called store id (.deleteObject object)]
  | attempted {times : Nat} {gone : Bool} {since : List Event} {outcome : Outcome}
      (attempt : Attempt record id times gone since) (tells : outcome = .succeeded ↔ gone = true) :
      Parting record id times {.settling id outcome} since
  | ended {times : Nat} {gone : Bool} {since : List Event} {message : Notice}
      (attempt : Attempt record id times gone since) (tells : message.isSuccess = gone) :
      Parting record id times 0 (.settled id message :: since)

/-- Whether nothing is handed out any more of the parts on a side of an operation. -/
def Operation.HandsOutNothing (operation : Operation) : Side → Prop
  | .upload => ∀ upload, operation.upload = some upload → upload.progress.endClaimed = true
  | .download => ∀ download, operation.download = some download →
      download.progress.endClaimed = true

/-- What holds of a move from when its transfer has succeeded, `earlier` being what had happened
until then. -/
structure Parted (record : Record) (id : OperationId) (times : Nat) (earlier : List Event)
    (view : View) : Prop where
  described : view.operation.record = record
  admitted : view.proposed = none
  led : ∃ lead feeders since, Parting record id times lead since ∧ view.hands = lead + feeders ∧
    view.history = since ++ earlier ∧
      ∀ hand ∈ feeders, ∃ side, hand = .feeding id side ∧ view.operation.HandsOutNothing side

variable {record : Record} {id : OperationId} {times : Nat} {since : List Event}

lemma Parting.of_mem {lead : Multiset Activity} {hand : Activity}
    (parting : Parting record id times lead since) (present : hand ∈ lead) : lead = {hand} := by
  cases parting with
  | ended => exact absurd present (Multiset.notMem_zero hand)
  | _ => rw [Multiset.mem_singleton.1 present]

section

variable {shared after : Shared} {surroundings : Surroundings} {activity later : Activity}

/-- Nothing is brought into the queue of a side on which nothing is handed out. -/
lemma feed_of_handsOutNothing {side : Side}
    (spent : (shared.operation id).HandsOutNothing side) :
    shared.feed id side = (shared, .idle) := by
  cases side with
  | upload =>
      have nothing : (shared.operation id).upload.bind (·.handOutPart?) = none := by
        rw [Option.bind_eq_none_iff]
        intro upload set
        rw [handOutPart?_of_upload (.inr (spent upload set)),
          Progress.handOut?_eq_none_of_endClaimed (spent upload set)]
        rfl
      simp only [Shared.feed, nothing]
  | download =>
      have nothing : (shared.operation id).download.bind (·.handOutPart?) = none := by
        rw [Option.bind_eq_none_iff]
        intro download set
        rw [handOutPart?_of_download (.inr (spent download set)),
          Progress.handOut?_eq_none_of_endClaimed (spent download set)]
        rfl
      simp only [Shared.feed, nothing]

variable (inside : id < shared.operations.length)
  (described : (shared.operation id).record = record)

/-- What a turn of the hand that leads a move to its end comes to. -/
def Shared.Parts (shared after : Shared) (record : Record) (id : OperationId) (times : Nat)
    (since : List Event) (later : Activity) : Prop :=
  ∃ notes left, shared.Turned after id later (shared.operation id) notes left ∧
    Parting record id times left (notes ++ since)

include inside described in
/-- The file was given its time: the deletion is due. -/
lemma parts_of_stamping (moving : record.kind = .move) (path : LocalPath) :
    shared.Parts (shared.stamp id path).1 record id 0 [] (shared.stamp id path).2 := by
  have deletes : Activity.afterTransfer (shared.operation id) id = .following id .delete :=
    if_pos (described ▸ moving)
  unfold Shared.stamp
  dsimp only
  rw [deletes]
  split
  · exact ⟨[], _, .stay inside rfl, .due⟩
  · split
    · exact ⟨[], _, .of_changed (.onDisk inside _) rfl, .due⟩
    · exact ⟨[], _, .stay inside rfl, .due⟩

include inside in
/-- The deletion comes into the queue, or is refused. -/
lemma parts_of_following :
    shared.Parts (shared.follow id .delete surroundings.policy).1 record id 0 []
      (shared.follow id .delete surroundings.policy).2 := by
  obtain ⟨hand, turned, rfl | ⟨error, rfl, -⟩⟩ := Shared.turned_follow inside .delete surroundings
  · exact ⟨[], _, turned, .queued⟩
  · exact ⟨[], _, turned, .attempted .barred (by simp)⟩

include inside described in
/-- The deletion is begun: a file is removed at once, an object by a call. -/
lemma parts_of_queued :
    shared.Parts (shared.start id .delete).1 record id 1 [] (shared.start id .delete).2 := by
  cases source : record.source with
  | file path =>
      simp only [Shared.start, Shared.startDelete, described, source, Location.path?]
      split
      · exact ⟨_, _, .of_changed (.ofNote inside _ rfl (by simp)) rfl,
          .attempted (.removed source) (by simp)⟩
      · exact ⟨[], _, .stay inside rfl, .attempted .unremoved (by simp)⟩
  | object object =>
      have made : (shared.operation id).deleteCall = .ok (.deleteObject object) := by
        simp [Operation.deleteCall, Operation.objectRead, described, source, Location.object?,
          bind, Except.bind]
      simp only [Shared.start, Shared.startDelete, described, source, Location.path?, made]
      exact ⟨[], _, .stay inside rfl, .calling source _⟩

include inside in
/-- The answer to the call says whether the object was deleted. -/
lemma parts_of_called {object : ObjectName} (source : record.source = .object object)
    (store : StoreName) (answer : Answer) :
    shared.Parts (shared.receive id .delete store (.deleteObject object) answer).1 record id 1
      [.called store id (.deleteObject object)]
      (shared.receive id .delete store (.deleteObject object) answer).2 := by
  obtain ⟨turned, goes⟩ := turned_receive inside .delete store (.deleteObject object) answer
  refine ⟨_, _, turned, ?_⟩
  rw [goes]
  cases Shared.seen (.deleteObject object) answer with
  | reply reply => exact .attempted (.deleted source store reply) (by simp)
  | failed error => exact .attempted (.undeleted source store nofun) (by simp)
  | panicked message => exact .attempted (.undeleted source store nofun) (by simp)

include inside described in
/-- A turn of the hand that leads a move to its end goes on so, and begins the deletion if it starts
the task for it. -/
lemma Parting.turn (parting : Parting record id times {activity} since)
    (moving : record.kind = .move)
    (work : shared.work surroundings activity = some (after, later)) :
    shared.Parts after record id (times + [activity].count (.starting id .delete)) since later := by
  generalize hands : ({activity} : Multiset Activity) = lead at parting
  cases parting
  case ended => exact absurd hands (Multiset.singleton_ne_zero activity)
  all_goals
    obtain rfl := Multiset.singleton_inj.1 hands
    have result := Option.some.inj work
  case stamping path =>
    have parts := parts_of_stamping inside described moving path
    rw [result] at parts
    exact parts
  case due =>
    have parts : shared.Parts (shared.follow id .delete surroundings.policy).1 record id 0 []
        (shared.follow id .delete surroundings.policy).2 := parts_of_following inside
    rw [show shared.follow id .delete surroundings.policy = (after, later) from result] at parts
    exact parts
  case queued =>
    have parts := parts_of_queued inside described
    rw [result] at parts
    rw [List.count_singleton_self]
    exact parts
  case calling object source store =>
    obtain ⟨rfl, rfl⟩ := Prod.mk.inj result
    exact ⟨_, _, turned_call inside .., .called source store⟩
  case called object source store =>
    have parts := parts_of_called inside source store surroundings.answer
    rw [result] at parts
    exact parts
  case attempted gone outcome tells attempt =>
    obtain ⟨rfl, rfl⟩ := Prod.mk.inj result
    refine ⟨_, 0, .of_changed_idle (.ofSettle inside outcome), .ended attempt ?_⟩
    rw [Bool.eq_iff_iff, isSuccess_verdict]
    exact tells

end

/-- Every step goes on with a move whose source was transferred. -/
theorem Parted.step {run next : Run} {move : Move} {earlier : List Event}
    (parted : Parted record id times earlier (run.view id)) (moving : record.kind = .move)
    (inside : id < run.shared.operations.length) (seen : run.Seen next move id) :
    Parted record id (times + (run.turn? id move).toList.count (.starting id .delete)) earlier
      (next.view id) := by
  obtain ⟨described, admitted, lead, feeders, since, parting, hands, history, spent⟩ := parted
  have nobody {chore : Chore} (proposed : run.proposed id = some chore) : False := by
    rw [show run.proposed id = none from admitted] at proposed
    cases proposed
  cases seen with
  | same view other =>
      rw [view, Run.turn?_of_other other]
      exact ⟨described, admitted, lead, feeders, since, parting, hands, history, spent⟩
  | admitted chore proposed => exact (nobody proposed).elim
  | refused chore error proposed => exact (nobody proposed).elim
  | turned activity later rest index actor working own present work view =>
      rw [Run.turn?_of_worker actor working own]
      have split : activity ::ₘ rest = lead + feeders := present.symm.trans hands
      rcases Multiset.mem_add.1 (split ▸ Multiset.mem_cons_self activity rest) with leads | feeds
      · obtain rfl := parting.of_mem leads
        obtain rfl : rest = feeders := by
          rwa [Multiset.singleton_add, Multiset.cons_inj_right] at split
        obtain ⟨notes, left, turned, parts⟩ := parting.turn inside described moving work
        rw [Run.view_of_turned view turned]
        refine ⟨described, admitted, left, rest, notes ++ since, parts, rfl, ?_, spent⟩
        rw [List.append_assoc]
        exact congrArg (notes ++ ·) history
      · obtain ⟨side, rfl, nothing⟩ := spent activity feeds
        obtain ⟨others, rfl⟩ := Multiset.exists_cons_of_mem feeds
        obtain rfl : rest = lead + others := by
          rwa [Multiset.add_cons, Multiset.cons_inj_right] at split
        have result := Option.some.inj work
        rw [feed_of_handsOutNothing nothing] at result
        obtain ⟨same, rfl⟩ := Prod.mk.inj result
        have turned : run.shared.Turned next.shared id .idle (run.shared.operation id) [] 0 :=
          same ▸ .rest inside
        rw [Run.view_of_turned view turned, zero_add]
        exact ⟨described, admitted, lead, others, since, parting, rfl, history,
          fun hand stays => spent hand (Multiset.mem_cons_of_mem stays)⟩

end Pool
end BulkTransfer
