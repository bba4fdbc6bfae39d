import BulkTransfer.Proofs.Moves.Transferring
import BulkTransfer.Proofs.Outcome
import BulkTransfer.Proofs.Parts.Splitting
import BulkTransfer.Proofs.Run.ScheduledMoves
import BulkTransfer.Proofs.Run.HandSuccession
import BulkTransfer.Proofs.Upload.PartCalls

/-!
# The size of requests

A request moves the body that it sends, or what it has the store copy. The limits bound what a
single request should move. Every part keeps to that, as the size of the parts does
(`Limits.split_covers`). But whether a record is split at all is decided by the threshold of the
configuration alone, so a request for a whole object moves more than the limit exactly if the size
is above the limit and below the threshold (`Run.size_of_request`), as in `Run.wholeUpload_exceeds`.
-/

namespace BulkTransfer

open Pool

/-- How many bytes a request moves, if its source has `size` of them. -/
def Call.moved (size : Nat) : Call → Nat
  | .putObject _ body _ | .uploadPart _ _ _ body => body.length
  | .copyObject .. => size
  | .copyPart _ _ _ _ header =>
      ((PartSpan.readHeader? header size).map fun range => range.2 - range.1).getD 0
  | _ => 0

/-- Whether a request is one to move bytes to the store or within it. -/
def Call.isMove : Call → Bool
  | .putObject .. | .uploadPart .. | .copyObject .. | .copyPart .. => true
  | _ => false

/-! ## The size of parts -/

/-- A number that is read back is the one that was written. -/
lemma Decimal.eq_of_read64?_digits {n m : Nat} (read : read64? (digits n) = some m) : m = n := by
  rw [read64?, readBelow?, dropPlus_digits, read?_digits] at read
  exact (Option.some.inj (Option.filter_eq_some_iff.1 read).1).symm

/-- What a store reads of the header of a range is no longer than the range. -/
lemma PartSpan.readHeader?_boundedHeader_le {range : PartSpan} {size first stop : Nat}
    (read : readHeader? range.boundedHeader size = some (first, stop)) :
    stop - first ≤ range.length := by
  have body := Text.after?_eq_some.2 range.toList_boundedHeader
  have parts := Text.cut?_append (Decimal.digits range.last) (dash_notMem_digits range.first)
  simp only [readHeader?, body, parts, isEmpty_digits, bind, Option.bind_some,
    Option.bind_eq_some_iff, Option.map_eq_some_iff, Bool.false_eq_true, if_false] at read
  obtain ⟨begins, one, ends, ⟨last, other, rfl⟩, holds⟩ := read
  obtain rfl := Decimal.eq_of_read64?_digits one
  obtain rfl := Decimal.eq_of_read64?_digits other
  split at holds
  · obtain ⟨rfl, rfl⟩ := Prod.mk.inj (Option.some.inj holds)
    rw [length]
    omega
  · cases holds

/-- No part is longer than the size of the parts, whatever its index. -/
lemma PartSpan.length_ofIndex_le (size chunksize index : Nat) :
    (ofIndex size chunksize index).length ≤ max chunksize 1 := by
  have last : (ofIndex size chunksize index).last =
      min (min (index * chunksize + chunksize) Word.largest64) size - 1 := rfl
  rw [length, first_ofIndex, last]
  omega

/-- What is read of a part of a file is no longer than the part. -/
lemma Disk.length_readSlice_le {disk : Disk} {path : LocalPath} {offset length : Nat}
    {body : Bytes} (read : disk.readSlice path offset length = .ok body) :
    body.length ≤ length := by
  unfold readSlice at read
  split at read
  · cases read
  · dsimp only at read
    repeat' split at read
    all_goals cases read
    · exact Nat.zero_le length
    · rw [FileData.slice_eq]
      exact List.length_take_le ..

/-! ## What is about to be moved -/

/-- Whether a request moves all of a source of `size` bytes, as it may if this is done as a whole,
or no more than `limit` of them. -/
def Call.Sized (size limit : Nat) (whole : Prop) : Call → Prop
  | .putObject _ body _ => whole ∧ body.length = size
  | .copyObject .. => whole
  | call => call.moved size ≤ limit

namespace Pool

/-- Whether a task is done as a whole where it may be, or moves a part within the limit. -/
def Chore.Sized (limit : Nat) (whole : Prop) : Chore → Prop
  | .singleUpload | .copy => whole
  | .uploadPart range | .copyPart range => range.length ≤ limit
  | _ => True

/-- Whether what a hand is about to move has the right size. -/
def Activity.Sized (size limit : Nat) (whole : Prop) : Activity → Prop
  | .starting _ chore => chore.Sized limit whole
  | .reading _ range _ => range.length ≤ limit
  | .sending _ _ _ call => call.Sized size limit whole
  | _ => True

/-- Whether an event, if it is a call, is one of the right size. -/
def Event.Sized (size limit : Nat) (whole : Prop) : Event → Prop
  | .called _ _ call => call.Sized size limit whole
  | _ => True

/-- What holds at any time of an operation whose requests have the right size. -/
structure Sized (record : Record) (limit : Nat) (whole : Prop) (id : OperationId) (view : View) :
    Prop where
  described : view.operation.record = record
  cut : view.operation.chunksize .upload ≤ limit
  proposed : ∀ chore, view.proposed = some chore →
    (Activity.starting id chore).Sized record.size limit whole
  hands : ∀ hand ∈ view.hands, hand.Sized record.size limit whole
  history : ∀ event ∈ view.history, event.Sized record.size limit whole

variable {size limit : Nat} {whole : Prop} {id : OperationId}

/-- The first call of a task has the right size, if the whole file that it may send has. -/
lemma Chore.Calls.sized {operation : Operation} {chore : Chore} {errand : Errand} {call : Call}
    (makes : chore.Calls operation errand call) (sized : chore.Sized limit whole)
    (read : ∀ object body attributes, call = .putObject object body attributes →
      body.length = size) : call.Sized size limit whole := by
  have kind := makes.makes.1
  cases makes with
  | put object body => exact ⟨sized, read _ _ _ rfl⟩
  | copy made => cases call <;> first | exact sized | cases kind
  | @copyPart range uploadId call made =>
      simp only [Operation.copyPartCall, bind, Except.bind] at made
      repeat' split at made
      all_goals cases made
      change ((PartSpan.readHeader? range.boundedHeader size).map _).getD 0 ≤ limit
      cases read : PartSpan.readHeader? range.boundedHeader size with
      | none => exact Nat.zero_le limit
      | some asked => exact (PartSpan.readHeader?_boundedHeader_le read).trans sized
  | create | complete | abort | fetch | fetchPart | delete | removeBucket =>
      cases call <;> first | exact Nat.zero_le limit | cases kind

/-- A body that is sent as a whole was read from the source of the record. -/
lemma Shared.sent_whole {shared : Shared} {chore : Chore} {errand : Errand} {store : StoreName}
    {object : ObjectName} {body : Bytes} {attributes : ObjectAttributes}
    (goes : (shared.start id chore).2 =
      .sending id errand store (.putObject object body attributes)) :
    chore = .singleUpload ∧ ∃ path ∈ (shared.operation id).record.source.path?,
      body ∈ (shared.disk.readWhole path).toOption := by
  have follows := @follows_start shared id chore
  rw [goes] at follows
  cases follows with
  | calls store makes =>
      have kind := makes.makes.1
      cases makes with
      | put object body =>
          refine ⟨rfl, ?_⟩
          simp only [start, startSingleUpload] at goes
          split at goes
          · cases goes
          · cases goes
          · next path _ source _ =>
              split at goes
              · cases goes
              · next content read =>
                  obtain ⟨-, rfl, -⟩ := Call.putObject.inj (Activity.sending.inj goes).2.2.2
                  refine ⟨path, ?_, by rw [read]; rfl⟩
                  simp only [Operation.fileRead] at source
                  split at source
                  · next same =>
                      obtain rfl := Except.ok.inj source
                      exact same
                  · cases source
      | _ => cases kind

lemma sized_afterTransfer (operation : Operation) :
    (Activity.afterTransfer operation id).Sized size limit whole := by
  unfold Activity.afterTransfer
  split <;> exact trivial

/-- A hand goes on with requests of the right size, if a file that it reads as a whole has the size
that was recorded. -/
lemma Activity.Sized.turn {shared after : Shared} {surroundings : Surroundings}
    {activity later : Activity} (sized : activity.Sized size limit whole)
    (own : activity.operation? = some id)
    (reads : activity = .starting id .singleUpload →
      ∀ path ∈ (shared.operation id).record.source.path?,
        ∀ content ∈ (shared.disk.readWhole path).toOption, content.length = size)
    (work : shared.work surroundings activity = some (after, later)) :
    later.Sized size limit whole := by
  cases Shared.follows_of_work own work
  case calls chore errand call store makes =>
    refine Chore.Calls.sized makes sized fun object body attributes same => ?_
    subst same
    obtain ⟨rfl, path, source, read⟩ :=
      Shared.sent_whole (congrArg Prod.snd (Option.some.inj work))
    exact reads rfl path source body read
  case reads => exact sized
  case hasRead range uploadId path object body source read store =>
    exact (Disk.length_readSlice_le read).trans sized
  case stored | transferred | stamped => exact sized_afterTransfer ..
  case notFollowed followUp error => cases followUp <;> trivial
  case written extent path file offset body spent => cases extent <;> trivial
  case unwritten extent path file offset body cause => cases extent <;> trivial
  all_goals trivial

/-- What such a hand notes is no call of another size. -/
lemma Activity.Sized.notes {activity : Activity} {event : Event}
    (sized : activity.Sized size limit whole) (notes : activity.Notes event) :
    event.Sized size limit whole := by
  cases event
  case called store own call =>
    obtain ⟨errand, rfl⟩ := notes
    exact sized
  all_goals exact trivial

/-- A task that is brought into the queue moves a part of the size of the parts, if it moves one. -/
lemma Activity.sized_of_queues? {operation : Operation} {hand : Activity} {chore : Chore}
    (cut : operation.chunksize .upload ≤ limit) (filled : 0 < limit)
    (queues : hand.queues? operation = some chore) :
    (Activity.starting id chore).Sized size limit whole := by
  have part (side : Side) (index : Nat) :
      (Activity.partChore operation side (operation.span side index)).Sized limit whole := by
    cases side with
    | download => trivial
    | upload =>
        have short := PartSpan.length_ofIndex_le operation.record.size
          (operation.chunksize .upload) index
        have within : (operation.span .upload index).length ≤ limit :=
          short.trans (Nat.max_le.2 ⟨cut, filled⟩)
        unfold Activity.partChore
        dsimp only
        split <;> exact within
  cases hand
  case offering | forcing =>
    obtain rfl := Option.some.inj queues
    exact part ..
  case following followUp =>
    obtain rfl := Option.some.inj queues
    cases followUp <;> trivial
  all_goals cases queues

/-- A task that may be done as a whole is, and no other is one that moves bytes at first. -/
lemma sized_of_planned {plan : Plan} {record : Record} {operation : Operation} {chore : Chore}
    (planned : Planned plan record operation chore) :
    chore.Sized limit (record.size = 0 ∨ record.size < plan.config.multipartThreshold) := by
  cases planned with
  | upload | download => trivial
  | @whole action isAction small =>
      have below (moves : action = .upload ∨ action = .copy) :
          record.size = 0 ∨ record.size < plan.config.multipartThreshold := by
        rcases moves with rfl | rfl
        all_goals
          simp [Plan.isMultipart] at small
          omega
      cases action
      case upload => exact below (.inl rfl)
      case copy => exact below (.inr rfl)
      all_goals trivial

/-- The parts of an upload are not larger than the limits allow. -/
lemma chunksize_of_planned {plan : Plan} {record : Record} {operation : Operation}
    {chore : Chore} (valid : plan.Valid) (planned : Planned plan record operation chore) :
    operation.chunksize .upload ≤ plan.limits.maxSingleSize := by
  cases planned with
  | whole | download => exact Nat.zero_le _
  | upload remote split sized => exact (Limits.split_covers valid.limits split).1.2

/-- What is not planned as a whole is not below the threshold. -/
lemma threshold_le_of_resolve {plan : Plan} {record : Record} {operation : Operation}
    {chore : Chore} (resolved : plan.resolve record = .ok (operation, chore))
    (parts : chore.isPlain = false) : plan.config.multipartThreshold ≤ record.size := by
  unfold Plan.resolve at resolved
  dsimp only at resolved
  split at resolved
  · cases resolved
  · next action isAction =>
      split at resolved
      · cases resolved
      · split at resolved
        · next large =>
            simp only [Plan.isMultipart, Bool.and_eq_true, decide_eq_true_eq] at large
            exact large.2
        · obtain ⟨rfl, rfl⟩ := Prod.mk.inj (Except.ok.inj resolved)
          cases action <;> cases parts

end Pool

namespace Run

/-- Whether the source of a record, if it is a file, has the recorded size whenever an operation
reads the whole of it. -/
def SizedAs (id : OperationId) (record : Record) (run : Run) (move : Move) : Prop :=
  run.activityOf? move.actor = some (.starting id .singleUpload) →
    ∀ path ∈ record.source.path?, ∀ content ∈ (run.shared.disk.readWhole path).toOption,
      content.length = record.size

instance (id : OperationId) (record : Record) (run : Run) (move : Move) :
    Decidable (run.SizedAs id record move) :=
  inferInstanceAs (Decidable (_ → _))

variable {batch : Batch} {disk : Disk} {records : List Record} {moves : List Move} {run next : Run}
  {move : Move} {id : OperationId} {record : Record} {limit : Nat} {whole : Prop}

/-- Every step goes on with requests of the right size. -/
lemma sized_step (sized : Sized record limit whole id (run.view id))
    (inside : id < run.shared.operations.length) (filled : 0 < limit)
    (reads : run.SizedAs id record move) (seen : run.Seen next move id) :
    Sized record limit whole id (next.view id) := by
  have described : (run.shared.operation id).record = record := sized.described
  have turns (hand later : Activity) (mine : hand.Sized record.size limit whole)
      (working : run.activityOf? move.actor = some hand) (own : hand.operation? = some id)
      (work : run.shared.work move.surroundings hand = some (next.shared, later)) :
      later.Sized record.size limit whole := by
    refine mine.turn own (fun starts => ?_) work
    rw [described]
    exact reads (starts ▸ working)
  obtain ⟨hands, history⟩ := @Seen.each run next move id
    (·.Sized record.size limit whole) (·.Sized record.size limit whole) seen inside
    sized.proposed sized.hands sized.history (fun _ => trivial) turns
    (fun hand chore mine queues => Activity.sized_of_queues? sized.cut filled queues)
    (fun hand event mine notes => mine.notes notes)
  refine ⟨?_, (seen.chunksize_eq inside).le.trans sized.cut,
    fun chore first => sized.proposed chore (seen.proposed_of inside first), hands, history⟩
  rw [seen.operation_eq inside]
  exact described

/-- In every run the requests of a record have the right size. -/
lemma sized_of_steps (valid : batch.plan.Valid) (listed : records[id]? = some record)
    (reached : (batch.start disk records).steps moves = some run)
    (reads : (batch.start disk records).Throughout (SizedAs id record) moves)
    (inside : id < run.shared.operations.length) :
    Sized record batch.limits.maxSingleSize
      (record.size = 0 ∨ record.size < batch.config.multipartThreshold) id (run.view id) := by
  obtain ⟨minimum, order, -⟩ := Limits.of_validate valid.limits
  have filled : 0 < batch.limits.maxSingleSize := minimum.trans_le order
  have begun (run : Run) (begins : Begins batch.plan record id (run.view id)) :
      Sized record batch.limits.maxSingleSize
        (record.size = 0 ∨ record.size < batch.config.multipartThreshold) id (run.view id) := by
    cases begins with
    | proposed operation chore resolved begun =>
        have planned := planned_of_resolve resolved
        rw [begun]
        refine ⟨record_of_resolve resolved, chunksize_of_planned valid planned, ?_, no_hand,
          List.forall_mem_nil _⟩
        intro other first
        obtain rfl := Option.some.inj first
        exact sized_of_planned planned
    | refused error tally resolved begun =>
        rw [begun]
        exact ⟨rfl, Nat.zero_le _, nofun, no_hand, List.forall_mem_singleton.2 trivial⟩
  exact each_step listed begun (fun run move next _ inside sized reads _ seen =>
    sized_step sized inside filled reads seen) reached reads inside

/-- A request of a multipart upload is only made for a record that is not below the threshold. -/
lemma threshold_le_of_called {store : StoreName} {call : Call}
    (listed : records[id]? = some record)
    (reached : (batch.start disk records).steps moves = some run)
    (called : .called store id call ∈ run.shared.history id) (part : call.isPlain = false) :
    batch.config.multipartThreshold ≤ record.size := by
  by_contra below
  have plain (operation : Operation) (chore : Chore)
      (resolved : batch.plan.resolve record = .ok (operation, chore)) : chore.isPlain = true := by
    by_contra parts
    exact below (threshold_le_of_resolve resolved (Bool.eq_false_of_not_eq_true parts))
  have course := whole_course listed plain reached (inside_of_history reached called)
  rw [view] at course
  generalize run.proposed id = proposed, run.hands id = hands, run.shared.history id = history
    at course called
  cases course with
  | proposed operation first => cases called
  | alone operation alone =>
      rcases alone.isPlain_or_settled called with whole | ⟨message, ended⟩
      · cases whole.symm.trans part
      · cases ended

/-- How many bytes a request moves. It is more than the limit of a single request if and only if the
record has more bytes than that and fewer than the threshold. So no request moves more if the
threshold is not above the limit. -/
theorem size_of_request {store : StoreName} {call : Call} (valid : batch.plan.Valid)
    (listed : records[id]? = some record)
    (reached : (batch.start disk records).steps moves = some run)
    (reads : (batch.start disk records).Throughout (SizedAs id record) moves)
    (called : .called store id call ∈ run.shared.history id) :
    (batch.limits.maxSingleSize < call.moved record.size ↔
      call.isMove = true ∧ batch.limits.maxSingleSize < record.size ∧
        record.size < batch.config.multipartThreshold) ∧
    (batch.config.multipartThreshold ≤ batch.limits.maxSingleSize + 1 →
      call.moved record.size ≤ batch.limits.maxSingleSize) := by
  have inside := inside_of_history reached called
  have sized : call.Sized record.size batch.limits.maxSingleSize
      (record.size = 0 ∨ record.size < batch.config.multipartThreshold) :=
    (sized_of_steps valid listed reached reads inside).history _ called
  have exceeds : batch.limits.maxSingleSize < call.moved record.size ↔
      call.isMove = true ∧ batch.limits.maxSingleSize < record.size ∧
        record.size < batch.config.multipartThreshold := by
    have above (part : call.isPlain = false) :=
      threshold_le_of_called listed reached called part
    cases call
    case putObject object body attributes =>
      obtain ⟨whole, length⟩ := sized
      simp only [Call.moved, Call.isMove, true_and, length]
      omega
    case copyObject object source attributes =>
      simp only [Call.Sized] at sized
      simp only [Call.moved, Call.isMove, true_and]
      omega
    case uploadPart | copyPart =>
      have split := above rfl
      simp only [Call.Sized] at sized
      simp only [Call.isMove, true_and]
      omega
    all_goals simp [Call.moved, Call.isMove]
  refine ⟨exceeds, fun low => ?_⟩
  by_contra large
  obtain ⟨-, more, fewer⟩ := exceeds.1 (Nat.lt_of_not_le large)
  omega

/-- The small batch uploads a file of three bytes in parts that are within its limit. -/
theorem smallUpload_size_of_request :
    .called "store" 0 (.uploadPart ⟨"bucket", "target"⟩ "upload-id" 3 [3]) ∈
        (Batch.smallRun { answersAll := true } Batch.smallDisk
          (Batch.smallUpload 3)).shared.history 0 ∧
      (Call.uploadPart ⟨"bucket", "target"⟩ "upload-id" 3 [3]).moved 3 ≤ 4 := by
  have listed : [Batch.smallUpload 3][0]? = some (Batch.smallUpload 3) := rfl
  have reached := Batch.steps_smallMoves { answersAll := true } Batch.smallDisk
    (Batch.smallUpload 3)
  have reads : (Batch.small.start Batch.smallDisk [Batch.smallUpload 3]).Throughout
      (SizedAs 0 (Batch.smallUpload 3)) (Batch.smallMoves { answersAll := true } Batch.smallDisk
        (Batch.smallUpload 3)) := throughout_of_decide (by decide +kernel)
  have called : .called "store" 0 (.uploadPart ⟨"bucket", "target"⟩ "upload-id" 3 [3]) ∈
      (Batch.smallRun { answersAll := true } Batch.smallDisk
        (Batch.smallUpload 3)).shared.history 0 := by
    decide +kernel
  exact ⟨called, (size_of_request Batch.small_valid listed reached reads called).2 (by decide)⟩

end Run

namespace Batch

/-- A batch whose requests should move at most two bytes, with a threshold far above that. -/
def lofty : Batch :=
  { small with
    config := { small.config with multipartThreshold := 100 }
    limits := { small.limits with maxSingleSize := 2 } }

/-- The moves of the schedule when it uploads a file of three bytes with this batch. -/
def loftyMoves : List Move :=
  (lofty.start smallDisk [smallUpload 3]).carriedMoves ⟨Script.answer⟩ (fun _ _ => none)
    (smallWorld { answersAll := true }) (stepBound (lofty.start smallDisk [smallUpload 3])
      [smallUpload 3])

end Batch

namespace Run

/-- A file of three bytes, as many as were recorded, is sent by one request where the limit is two,
although its parts would be allowed. -/
theorem wholeUpload_exceeds :
    Batch.lofty.plan.Valid ∧
      (Batch.lofty.start Batch.smallDisk [Batch.smallUpload 3]).Throughout
        (SizedAs 0 (Batch.smallUpload 3)) Batch.loftyMoves ∧
      ∃ run, (Batch.lofty.start Batch.smallDisk [Batch.smallUpload 3]).steps Batch.loftyMoves =
          some run ∧
        .called "store" 0 (.putObject ⟨"bucket", "target"⟩ [1, 2, 3] ⟨none, none, none⟩) ∈
          run.shared.history 0 ∧
        Batch.lofty.limits.maxSingleSize <
          (Call.putObject ⟨"bucket", "target"⟩ [1, 2, 3] ⟨none, none, none⟩).moved 3 ∧
        Batch.lofty.limits.split 1 3 = .ok (3, 1) := by
  refine ⟨⟨by decide, by decide⟩, throughout_of_decide (by decide +kernel), _,
    steps_carriedMoves .., by decide +kernel, by decide, rfl⟩

end Run
end BulkTransfer
