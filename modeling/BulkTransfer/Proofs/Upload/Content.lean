import BulkTransfer.Proofs.Parts.Spans
import BulkTransfer.Proofs.Run.HandSuccession
import BulkTransfer.Proofs.Run.Turns
import BulkTransfer.Proofs.Upload.PartCalls
import BulkTransfer.Proofs.Upload.Closing

/-!
# What an upload puts together

A store that completes an upload puts its parts together in the order of the completion. Every part
on that list was moved by one call, and that call moved what the source has in its span, so the
parts put together are what the source has from its beginning to the recorded size
(`Run.content_of_completed`). An upload from a file that is too short is never completed.
-/

namespace BulkTransfer

open Pool

namespace Run

/-- Whether the source of an operation, if it is a file, has the given content whenever a part of it
is read. -/
def ReadsFrom (id : OperationId) (source : Location) (content : Bytes) (run : Run) (move : Move) :
    Prop :=
  ∀ range uploadId, run.activityOf? move.actor = some (.reading id range uploadId) →
    ∀ path, source.path? = some path → run.shared.disk.readWhole path = .ok content

instance (id : OperationId) (source : Location) (content : Bytes) (run : Run) (move : Move) :
    Decidable (run.ReadsFrom id source content move) :=
  decidable_of_iff
    ((run.activityOf? move.actor).all (fun activity => match activity with
      | .reading own _ _ => decide (own = id → source.path?.all (fun path =>
          decide (run.shared.disk.readWhole path = .ok content)) = true)
      | _ => true) = true) <| by
    unfold ReadsFrom
    cases run.activityOf? move.actor with
    | none => simp
    | some activity =>
        cases activity
        case reading own range uploadId =>
          simp only [Option.all_some, decide_eq_true_eq, Option.all_eq_true, Option.some.injEq,
            Activity.reading.injEq]
          constructor
          · rintro same _ _ ⟨rfl, rfl, rfl⟩
            exact same rfl
          · rintro same rfl
            exact same range uploadId ⟨rfl, rfl, rfl⟩
        all_goals simp

end Run

namespace Pool

/-- What holds of an upload at any time: its parts are cut in one way, its hands have parts that
were cut so, and its calls for parts have moved such parts. -/
structure Laden (record : Record) (chunksize : Nat) (content : Bytes) (id : OperationId)
    (view : View) : Prop where
  described : view.operation.record = record
  cut : view.operation.chunksize .upload = chunksize
  whole : ∀ chore, view.proposed = some chore → chore.part? = none
  bears : ∀ hand ∈ view.hands,
    hand.Bears (PartSpan.ofIndex record.size chunksize) record.source content
  moved : ∀ store call, .called store id call ∈ view.history → call.partNumber? ≠ none →
    ∃ index, call.Moves record.source content (PartSpan.ofIndex record.size chunksize index)

variable {record : Record} {chunksize : Nat} {content : Bytes} {id : OperationId}

lemma Activity.bears_of_part? {spans : Nat → PartSpan} {source : Location} {chore : Chore}
    (whole : chore.part? = none) : (Activity.starting id chore).Bears spans source content := by
  cases chore <;> trivial

/-- Every step of a run goes on so. -/
lemma Laden.step {run next : Run} {move : Move}
    (laden : Laden record chunksize content id (run.view id))
    (inside : id < run.shared.operations.length)
    (reads : run.ReadsFrom id record.source content move) (seen : run.Seen next move id) :
    Laden record chunksize content id (next.view id) := by
  obtain ⟨described, cut, whole, bears, moved⟩ := laden
  have described : (run.shared.operation id).record = record := described
  have cut : (run.shared.operation id).chunksize .upload = chunksize := cut
  have spans : (run.shared.operation id).span .upload =
      PartSpan.ofIndex record.size chunksize := by
    funext part
    rw [Operation.span, described, cut]
  have turns (hand later : Activity)
      (mine : hand.Bears (PartSpan.ofIndex record.size chunksize) record.source content)
      (working : run.activityOf? move.actor = some hand) (own : hand.operation? = some id)
      (work : run.shared.work move.surroundings hand = some (next.shared, later)) :
      later.Bears (PartSpan.ofIndex record.size chunksize) record.source content := by
    refine (Shared.follows_of_work own work).bears (congrArg Record.source described) mine ?_
    intro range uploadId path same remote
    exact reads range uploadId (same ▸ working) path remote
  obtain ⟨hands, history⟩ := @Run.Seen.each run next move id
    (·.Bears (PartSpan.ofIndex record.size chunksize) record.source content)
    (fun event => ∀ store call, event = .called store id call → call.partNumber? ≠ none →
      ∃ index, call.Moves record.source content (PartSpan.ofIndex record.size chunksize index))
    seen inside (fun chore first => Activity.bears_of_part? (whole chore first)) bears
    (fun event present store call same => moved store call (same ▸ present))
    (fun message store call same => by cases same) turns
    (fun hand chore mine queues => spans ▸ Activity.bears_of_queues? queues)
    (fun hand event mine notes store call same => by
      subst same
      obtain ⟨errand, rfl⟩ := notes
      exact mine)
  refine ⟨?_, (seen.chunksize_eq inside).trans cut,
    fun chore first => whole chore (seen.proposed_of inside first), hands,
    fun store call made => history _ made store call rfl⟩
  rw [seen.operation_eq inside]
  exact described

/-- Laden is an upload whose record has been planned. -/
lemma laden_of_begins {plan : Plan} {operation : Operation} {chore : Chore} {view : View}
    {upload : Multipart.Upload} (planned : plan.resolve record = .ok (operation, chore))
    (split : operation.upload = some upload) (begins : Begins plan record id view) :
    Laden record upload.chunksize content id view := by
  cases begins with
  | refused error tally resolved =>
      rw [planned] at resolved
      cases resolved
  | proposed other first resolved begun =>
      rw [planned] at resolved
      obtain ⟨rfl, rfl⟩ := Prod.mk.inj (Except.ok.inj resolved)
      rw [begun]
      have first : chore.part? = none := by
        cases planned_of_resolve planned with
        | whole => cases split
        | download => cases split
        | upload => rfl
      refine ⟨Run.record_of_resolve planned, ?_, fun other proposed => ?_, no_hand, nofun⟩
      · rw [Operation.chunksize, split]
        rfl
      · obtain rfl := Option.some.inj proposed
        exact first

/-! ## The calls for one part -/

/-- The calls by which a part of an upload was moved, latest first. -/
def partCalls (uploadId : String) (number : Nat) (history : List Event) : List Call :=
  history.filterMap fun
    | .called _ _ call =>
        if call.uploadId? = some uploadId ∧ call.partNumber? = some number then some call else none
    | _ => none

lemma mem_partCalls {uploadId : String} {number : Nat} {history : List Event} {call : Call}
    (present : call ∈ partCalls uploadId number history) :
    (∃ store own, .called store own call ∈ history) ∧ call.partNumber? = some number := by
  obtain ⟨event, inHistory, gives⟩ := List.mem_filterMap.1 present
  cases event
  case called store own made =>
    simp only [Option.ite_none_right_eq_some, Option.some.injEq] at gives
    obtain ⟨⟨-, moves⟩, rfl⟩ := gives
    exact ⟨⟨store, own, inHistory⟩, moves⟩
  all_goals cases gives

/-- A part that was called once, in an upload with one identifier, was moved by one call. -/
lemma partCalls_of_once {uploadId : String} {number : Nat} {history : List Event}
    (known : ∀ store own call, .called store own call ∈ history → call.partNumber? ≠ none →
      call.uploadId? = some uploadId)
    (distinct : (partsCalled history).Nodup) (called : number ∈ partsCalled history) :
    ∃ call, partCalls uploadId number history = [call] := by
  have often : (partCalls uploadId number history).length = (partsCalled history).count number := by
    rw [partCalls, partsCalled, List.length_filterMap_eq_countP, List.count,
      List.countP_filterMap]
    refine List.countP_congr fun event present => ?_
    cases event
    case called store own call =>
      cases moves : call.partNumber? with
      | none => simp [Event.partCalled?, moves]
      | some other =>
          have knows :=
            known store own call present (by rw [moves]; exact Option.some_ne_none other)
          simp [Event.partCalled?, moves, knows]
    all_goals simp [Event.partCalled?]
  rw [List.count_eq_one_of_mem distinct called] at often
  exact List.length_eq_one_iff.1 often

lemma Created.mono {uploadId : String} {earlier history : List Event}
    (created : Created id uploadId earlier) (past : earlier ⊆ history) :
    Created id uploadId history := by
  obtain ⟨store, object, attributes, called, answer, answered, given⟩ := created
  exact ⟨store, object, attributes, past called, answer, past answered, given⟩

/-- What is known of an upload whose completion has been called: the list has all its parts, each of
them was called once, and all in the upload that is completed. -/
lemma UploadCourse.called_of_complete {parts : Nat} {object : ObjectName} {view : View}
    (course : UploadCourse parts record id object view) {store : StoreName} {target : ObjectName}
    {uploadId : String} {finished : List FinishedPart}
    (completed : .called store id (.completeUpload target uploadId finished) ∈ view.history) :
    finished.map (·.number) = List.range' 1 parts ∧ (partsCalled view.history).Nodup ∧
      (∀ number ∈ finished.map (·.number), number ∈ partsCalled view.history) ∧
        ∀ store call, .called store id call ∈ view.history → call.partNumber? ≠ none →
          call.uploadId? = some uploadId := by
  have order := course.order
  cases course.stage with
  | opening set opening =>
      generalize view.proposed = proposed, view.hands = hands, view.history = history
        at opening completed
      cases opening <;> simp at completed
  | uncreated set total admitted alone nameless split =>
      have unnamed := (not_created_of_nameless alone nameless).2
      rw [← split] at unnamed
      cases unnamed store _ completed
  | @going upload given since set admitted going =>
      generalize view.history = history at order going completed
      have known {other : String} {event : Event} {before after : List Event}
          (split : history = after ++ event :: before) (created : Created id other before) :
          other = given := by
        refine going.uploadId_of_created (created.mono fun old past => ?_)
        rw [split]
        exact List.mem_append_right after (.tail event past)
      obtain ⟨later, earlier, split⟩ := List.append_of_mem completed
      obtain ⟨created, numbers, tagged, -, -⟩ := order later store _ earlier split
      obtain rfl := known split created
      refine ⟨numbers, going.log.nodup_called, fun number listed => ?_,
        fun store call made moves => ?_⟩
      · obtain ⟨part, isPart, rfl⟩ := List.mem_map.1 listed
        have answered : (part.number, some part.tag) ∈ partsAnswered history := by
          obtain ⟨event, old, has⟩ := List.mem_filterMap.1 (tagged part isPart)
          refine List.mem_filterMap.2 ⟨event, ?_, has⟩
          rw [split]
          exact List.mem_append_right later (.tail _ old)
        have called : part.number ∈ (partsCalled history : Multiset ℕ) := by
          rw [going.log.answered]
          have mentioned : part.number ∈ (partsAnswered history).map Prod.fst :=
            List.mem_map_of_mem answered
          exact Multiset.mem_add.2 (.inl mentioned)
        exact called
      · obtain ⟨after, before, split⟩ := List.append_of_mem made
        have permitted := order after store call before split
        cases call
        case uploadPart | copyPart => exact congrArg some (known split permitted.1)
        all_goals exact absurd rfl moves

/-- A completion that has succeeded was called. -/
lemma Steering.called_of_completed {object target : ObjectName} {uploadId other : String}
    {phase : Multipart.Phase} {failure : Option String} {finished parts : List FinishedPart}
    {leads : Multiset Activity} {since : List Event}
    (steering : Steering record id object uploadId phase failure finished leads since)
    {store : StoreName} {reply : Reply}
    (answered : .answered store id (.completeUpload target other parts) (.reply reply) ∈ since) :
    .called store id (.completeUpload target other parts) ∈ since := by
  have completed : Completed id since := ⟨store, target, other, parts, reply, answered⟩
  cases steering with
  | parts | completing => cases answered
  | completeCalled => simp at answered
  | completeAnswered =>
      simp at answered
      simp [answered]
  | completed _ _ alone =>
      rcases List.mem_append.1 answered with late | early
      · exact absurd ⟨store, target, other, parts, reply, late⟩ alone.not_ended.1
      · simp at early
        simp [early]
  | completeCrashed _ _ alone =>
      rcases List.mem_append.1 answered with late | early
      · exact absurd ⟨store, target, other, parts, reply, late⟩ alone.not_ended.1
      · simp at early
  | incomplete _ uncompleted | aborting uncompleted =>
      exact absurd completed uncompleted.not_ended.1
  | abortCalled uncompleted | abortAnswered uncompleted | undone uncompleted
  | settled uncompleted =>
      exact absurd (by simpa [Completed] using completed) uncompleted.not_ended.1
  | abortCrashed uncompleted _ _ alone =>
      rcases completed_append.1 completed with late | early
      · exact absurd late alone.not_ended.1
      · exact absurd (by simpa [Completed] using early) uncompleted.not_ended.1

lemma UploadCourse.called_of_completed {parts : Nat} {object target : ObjectName} {view : View}
    (course : UploadCourse parts record id object view) {store : StoreName} {uploadId : String}
    {finished : List FinishedPart} {reply : Reply}
    (answered : .answered store id (.completeUpload target uploadId finished) (.reply reply) ∈
      view.history) :
    .called store id (.completeUpload target uploadId finished) ∈ view.history := by
  have completed : Completed id view.history := ⟨store, target, uploadId, finished, reply, answered⟩
  cases course.stage with
  | opening set opening =>
      generalize view.proposed = proposed, view.hands = hands, view.history = history
        at opening answered
      cases opening <;> simp at answered
  | uncreated set total admitted alone nameless split =>
      rw [split] at completed
      rcases completed_append.1 completed with late | early
      · exact absurd late alone.not_ended.1
      · cases nameless <;> simp [Completed] at early
  | going set admitted going =>
      obtain ⟨at_, attributes, answer, -, steered⟩ := going.steered
      have kept : .answered store id (.completeUpload target uploadId finished) (.reply reply) ∈
          view.history.filter (!·.isPart) := List.mem_filter.2 ⟨answered, rfl⟩
      rw [steered] at kept
      have since := (List.mem_append.1 kept).resolve_right (by simp)
      exact going.mem_history (going.steering.called_of_completed since)

/-- Of every part on the list of a completion that was called, one call has moved just it. -/
lemma Laden.moved_of_complete {parts : Nat} {object : ObjectName} {view : View}
    (laden : Laden record chunksize content id view) (own : ∀ event ∈ view.history,
      event.operation? = some id)
    (course : UploadCourse parts record id object view) {store : StoreName} {target : ObjectName}
    {uploadId : String} {finished : List FinishedPart}
    (completed : .called store id (.completeUpload target uploadId finished) ∈ view.history) :
    ∀ index < parts, ∃ call, partCalls uploadId (index + 1) view.history = [call] ∧
      call.Moves record.source content (PartSpan.ofIndex record.size chunksize index) := by
  intro index inside
  obtain ⟨numbers, distinct, called, known⟩ := course.called_of_complete completed
  have listed : index + 1 ∈ partsCalled view.history := by
    refine called _ ?_
    rw [numbers, List.mem_range'_1]
    omega
  have mine (store : StoreName) (other : OperationId) (call : Call)
      (made : .called store other call ∈ view.history) : id = other := by
    have about := own _ made
    exact (Option.some.inj about).symm
  obtain ⟨call, only⟩ := partCalls_of_once (fun store other call made => by
    obtain rfl := mine store other call made
    exact known store call made) distinct listed
  obtain ⟨⟨at_, other, made⟩, number⟩ :=
    mem_partCalls (only ▸ List.mem_singleton_self call : call ∈ partCalls uploadId _ view.history)
  obtain rfl := mine at_ other call made
  obtain ⟨part, moves⟩ := laden.moved at_ call made (by rw [number]; exact nofun)
  have same := (Call.partNumber?_of_moves moves).symm.trans number
  obtain rfl : part = index := Nat.succ.inj (Option.some.inj same)
  exact ⟨call, only, moves⟩

end Pool

/-- The bytes that a call sends as a part. -/
def Call.partBody : Call → Bytes
  | .uploadPart _ _ _ body => body
  | _ => []

/-- The range of the source that a call copies as a part. -/
def Call.copiedRange? : Call → Option String
  | .copyPart _ _ _ _ range => some range
  | _ => none

lemma Call.partBody_of_moves {source : Location} {content : Bytes} {range : PartSpan}
    {call : Call} (moves : call.Moves source content range) (file : source.isRemote = false) :
    call.partBody = content.slice range.first range.length ∧
      (content.slice range.first range.length).length = range.length := by
  cases call
  case uploadPart =>
    obtain ⟨-, -, rfl, full⟩ := moves
    exact ⟨rfl, full⟩
  case copyPart =>
    obtain ⟨⟨object, rfl, -⟩, -⟩ := moves
    cases file
  all_goals exact False.elim moves

lemma Call.copiedRange?_of_moves {source : Location} {content : Bytes} {range : PartSpan}
    {call : Call} (moves : call.Moves source content range) (remote : source.isRemote = true) :
    call.copiedRange? = some range.boundedHeader := by
  cases call
  case uploadPart =>
    rw [moves.1] at remote
    cases remote
  case copyPart => exact congrArg some moves.2.2
  all_goals exact False.elim moves

/-- One call for each number, if each has one. -/
lemma calls_of_each {of : Nat → List Call} {property : Nat → Call → Prop} {numbers : List Nat}
    (each : ∀ number ∈ numbers, ∃ call, of number = [call] ∧ property number call) :
    ∃ calls : List Call,
      numbers.map of = calls.map ([·]) ∧ List.Forall₂ property numbers calls := by
  induction numbers with
  | nil => exact ⟨[], rfl, .nil⟩
  | cons number numbers ih =>
      obtain ⟨call, only, has⟩ := each number List.mem_cons_self
      obtain ⟨calls, others, have_⟩ := ih fun other present => each other (.tail number present)
      exact ⟨call :: calls, by simp [only, others], .cons has have_⟩

lemma map_of_forall₂ {α : Type} {of : Call → α} {value : Nat → α} {numbers : List Nat}
    {calls : List Call}
    (each : List.Forall₂ (fun number call => of call = value number) numbers calls) :
    calls.map of = numbers.map value := by
  induction each with
  | nil => rfl
  | cons same _ ih => rw [List.map_cons, List.map_cons, same, ih]

namespace Run

variable {batch : Batch} {disk : Disk} {records : List Record} {moves : List Move} {run : Run}
  {id : OperationId} {record : Record} {operation : Operation} {chore : Chore}
  {upload : Multipart.Upload} {content : Bytes}

/-- An upload is planned in the parts that cover its size. -/
lemma total_of_resolve (valid : batch.plan.Valid)
    (planned : batch.plan.resolve record = .ok (operation, chore))
    (split : operation.upload = some upload) :
    upload.progress.total = partsNeeded record.size upload.chunksize ∧ 0 < upload.chunksize := by
  cases planned_of_resolve planned with
  | whole => cases split
  | download => cases split
  | upload remote cut sized =>
      obtain rfl := Option.some.inj split
      obtain ⟨total, positive, -⟩ := Limits.of_split valid.limits sized cut
      exact ⟨total, positive⟩

/-- Whenever the completion of an upload or a copy in parts is called, each part on its list was
moved by one call. If the source is a file that has the given content whenever a part of it is read,
it is no shorter than recorded, and the bodies of the parts, put together in the order of the list,
are its content up to the recorded size; if it is an object, the ranges of the parts in this order
cut the recorded size into pieces that follow each other. A completion that has succeeded was
called. -/
theorem content_of_completed (valid : batch.plan.Valid) (listed : records[id]? = some record)
    (planned : batch.plan.resolve record = .ok (operation, chore))
    (split : operation.upload = some upload) (bounded : record.size < Word.bound64)
    (reached : (batch.start disk records).steps moves = some run)
    (reads : (batch.start disk records).Throughout (ReadsFrom id record.source content) moves) :
    (∀ store object uploadId parts,
      .called store id (.completeUpload object uploadId parts) ∈ run.shared.events →
        ∃ calls : List Call, (parts.map fun part =>
            partCalls uploadId part.number (run.shared.history id)) = calls.map ([·]) ∧
          (record.source.isRemote = false → record.size ≤ content.length ∧
            (calls.map Call.partBody).flatten = content.take record.size) ∧
          (record.source.isRemote = true → ∃ spans, PartSpan.Tiles 0 spans record.size ∧
            calls.map Call.copiedRange? = spans.map (some ·.boundedHeader))) ∧
      ∀ store object uploadId parts reply,
        .answered store id (.completeUpload object uploadId parts) (.reply reply) ∈
            run.shared.events →
          .called store id (.completeUpload object uploadId parts) ∈ run.shared.events := by
  have history := @mem_history run id
  constructor
  · intro store object uploadId parts called
    have called := (history rfl).2 called
    obtain ⟨target, remote, several, course⟩ :=
      upload_course valid listed planned split reached (inside_of_history reached called)
    have laden : Laden record upload.chunksize content id (run.view id) := by
      refine each_step listed (fun run begins => laden_of_begins planned split begins) ?_ reached
        reads (inside_of_history reached called)
      exact fun run move next sound inside laden reads step seen => laden.step inside reads seen
    have own (event : Event) (present : event ∈ run.shared.history id) :
        event.operation? = some id := of_decide_eq_true (List.mem_filter.1 present).2
    obtain ⟨total, cut⟩ := total_of_resolve valid planned split
    have numbers := (course.called_of_complete called).1
    have moved := laden.moved_of_complete own course called
    have once (index : Nat) (inside : index ∈ List.range' 0 upload.progress.total) :=
      moved index (by simpa using inside)
    obtain ⟨calls, once, each⟩ := calls_of_each once
    refine ⟨calls, ?_, fun file => ?_, fun remote => ?_⟩
    · calc (parts.map fun part => partCalls uploadId part.number (run.shared.history id))
          = (parts.map (·.number)).map fun number =>
              partCalls uploadId number (run.shared.history id) := by rw [List.map_map]; rfl
        _ = (List.range' 0 upload.progress.total).map fun index =>
              partCalls uploadId (index + 1) (run.shared.history id) := by
            rw [numbers, List.range'_succ_left, List.map_map]
            rfl
        _ = calls.map ([·]) := once
    · have sent := each.imp fun index call moves => Call.partBody_of_moves moves file
      have tiles := PartSpan.tiles_all cut bounded
      rw [← total] at tiles
      have full : ∀ span ∈ (List.range' 0 upload.progress.total).map
          (PartSpan.ofIndex record.size upload.chunksize),
          (content.slice span.first span.length).length = span.length := by
        intro span present
        obtain ⟨index, isIndex, rfl⟩ := List.mem_map.1 present
        obtain ⟨call, -, moves⟩ := moved index (by simpa using isIndex)
        exact (Call.partBody_of_moves moves file).2
      obtain ⟨-, long, joined⟩ := tiles.assembled full
      have bodies := map_of_forall₂ (sent.imp fun index call same => same.1)
      have length := List.length_take_le record.size content
      rw [List.map_map] at joined
      rw [Nat.sub_zero, Bytes.slice, List.drop_zero] at long joined
      rw [List.length_take] at long
      refine ⟨by omega, ?_⟩
      rw [bodies]
      exact joined
    · have copied := each.imp fun index call moves => Call.copiedRange?_of_moves moves remote
      refine ⟨_, total ▸ PartSpan.tiles_all cut bounded, ?_⟩
      rw [map_of_forall₂ copied, List.map_map]
      rfl
  · intro store object uploadId parts reply answered
    have answered := (history rfl).2 answered
    obtain ⟨target, remote, several, course⟩ :=
      upload_course valid listed planned split reached (inside_of_history reached answered)
    exact (history rfl).1 (course.called_of_completed answered)

/-- An upload of a file of three bytes that was recorded with two puts its first two bytes together,
one that was recorded with four bytes is never completed, and a copy of two bytes has copied two
ranges. -/
theorem smallUpload_content :
    (∃ calls : List Call, ([1, 2].map fun number => partCalls "upload-id" number
        ((Batch.smallRun { answersAll := true } Batch.smallDisk
          (Batch.smallUpload 2)).shared.history 0)) = calls.map ([·]) ∧
      (calls.map Call.partBody).flatten = [1, 2]) ∧
    (∀ store object uploadId parts, .called store 0 (.completeUpload object uploadId parts) ∉
      (Batch.smallRun { answersAll := true } Batch.smallDisk
        (Batch.smallUpload 4)).shared.events) ∧
    (∃ (calls : List Call) (spans : List PartSpan),
      ([1, 2].map fun number => partCalls "upload-id" number
        ((Batch.smallRun { answersAll := true } .empty Batch.smallCopy).shared.history 0)) =
          calls.map ([·]) ∧ PartSpan.Tiles 0 spans 2 ∧
      calls.map Call.copiedRange? = spans.map (some ·.boundedHeader)) := by
  have uploaded (size parts : Nat) (bounded : size < Word.bound64)
      (planned : Batch.small.plan.resolve (Batch.smallUpload size) =
        .ok ({ Batch.small.plan.operationFor (Batch.smallUpload size) with
          upload := some (.ofParts parts 1) }, .createUpload))
      (reads : (Batch.small.start Batch.smallDisk [Batch.smallUpload size]).checks
        (fun state move => decide (ReadsFrom 0 (.file ⟨"file"⟩) [1, 2, 3] state move))
          (Batch.smallMoves { answersAll := true } Batch.smallDisk (Batch.smallUpload size)) =
            true) :=
    have listed : [Batch.smallUpload size][0]? = some (Batch.smallUpload size) := rfl
    content_of_completed Batch.small_valid listed planned rfl bounded
      (Batch.steps_smallMoves { answersAll := true } Batch.smallDisk (Batch.smallUpload size))
      (throughout_of_decide reads)
  have copies : (Batch.small.start .empty [Batch.smallCopy]).Throughout
      (ReadsFrom 0 Batch.smallCopy.source []) (Batch.smallMoves { answersAll := true } .empty
        Batch.smallCopy) := fun _ _ _ _ _ _ _ _ _ path isFile => nomatch isFile
  refine ⟨?_, ?_, ?_⟩
  · have completed : .called "store" 0 (.completeUpload ⟨"bucket", "target"⟩ "upload-id"
        [⟨1, "etag-1"⟩, ⟨2, "etag-2"⟩]) ∈
          (Batch.smallRun { answersAll := true } Batch.smallDisk
            (Batch.smallUpload 2)).shared.events := by
      decide +kernel
    obtain ⟨calls, once, file, -⟩ :=
      (uploaded 2 2 (by decide) rfl (by decide +kernel)).1 _ _ _ _ completed
    exact ⟨calls, once, (file rfl).2⟩
  · intro store object uploadId parts completed
    obtain ⟨calls, -, file, -⟩ :=
      (uploaded 4 4 (by decide) rfl (by decide +kernel)).1 _ _ _ _ completed
    exact absurd (file rfl).1 (by decide)
  · have completed : .called "store" 0 (.completeUpload ⟨"bucket", "target"⟩ "upload-id"
        [⟨1, "etag-1"⟩, ⟨2, "etag-2"⟩]) ∈
          (Batch.smallRun { answersAll := true } .empty Batch.smallCopy).shared.events := by
      decide +kernel
    obtain ⟨calls, once, -, object⟩ :=
      (content_of_completed Batch.small_valid rfl Batch.smallCopy_planned rfl (by decide)
        (Batch.steps_smallMoves ..) copies).1 _ _ _ _ completed
    obtain ⟨spans, tiles, copied⟩ := object rfl
    exact ⟨calls, spans, once, tiles, copied⟩

end Run
end BulkTransfer
