import BulkTransfer.Proofs.Run.Batches
import BulkTransfer.Proofs.Run.Follows
import BulkTransfer.Proofs.Run.TurnEvents
import BulkTransfer.Proofs.Upload.CallOrder

/-!
# What the calls for parts carry

The parts of an upload are cut once and for all: the span of a part follows from its index, the size
of the record and the size of the parts, none of which ever changes. A hand that has a part has one
that was cut in this way, and the call that it makes for it moves just this part
(`Activity.Bears`): it sends the bytes that the source file has in the span, or names the span of
the source object. So does every call for a part in every run (`Run.moves_of_called`).
-/

namespace BulkTransfer

open Pool

/-- Whether a call moves a part from a source: it sends all bytes that a file with the given content
has there, or names the range of an object. -/
def Call.Moves (source : Location) (content : Bytes) (range : PartSpan) : Call → Prop
  | .uploadPart _ _ number body =>
      source.isRemote = false ∧ number = range.number ∧
        body = content.slice range.first range.length ∧ body.length = range.length
  | .copyPart _ _ number name header =>
      (∃ object, source = .object object ∧ name = CopySource.encode object) ∧
        number = range.number ∧ header = range.boundedHeader
  | _ => False

lemma Call.partNumber?_of_moves {source : Location} {content : Bytes} {range : PartSpan}
    {call : Call} (moves : call.Moves source content range) :
    call.partNumber? = some range.number := by
  cases call
  case uploadPart => exact congrArg some moves.2.1
  case copyPart => exact congrArg some moves.2.1
  all_goals exact False.elim moves

lemma Call.partNumber?_of_isPlain {call : Call} (plain : call.isPlain = true) :
    call.partNumber? = none := by
  cases call <;> first | rfl | cases plain

/-- What is read of a part of a file is what the content of the file has there. -/
lemma Disk.readSlice_eq {disk : Disk} {path : LocalPath} {content body : Bytes}
    {offset length : Nat} (whole : disk.readWhole path = .ok content)
    (read : disk.readSlice path offset length = .ok body) :
    body = content.slice offset length ∧ body.length = length := by
  unfold readWhole at whole
  unfold readSlice at read
  cases looked : disk.look path with
  | error cause =>
      rw [looked] at whole
      cases whole
  | ok node =>
      rw [looked] at whole read
      cases node with
      | directory modified => cases whole
      | file id =>
          obtain rfl := Except.ok.inj whole
          dsimp only at read
          repeat' split at read
          all_goals cases read
          next long =>
            have short := List.length_take_le length
              ((((disk.file? id).getD {}).content).drop offset)
            rw [FileData.slice_eq] at long ⊢
            refine ⟨rfl, Nat.le_antisymm short (not_lt.1 long)⟩

namespace Pool

/-- Whether the part that a hand has was cut as it should be, and the call that it is about to make
moves it. -/
def Activity.Bears (spans : Nat → PartSpan) (source : Location) (content : Bytes) :
    Activity → Prop
  | .starting _ (.uploadPart range) | .starting _ (.copyPart range) => ∃ index, range = spans index
  | .reading _ range _ => ∃ index, range = spans index
  | .sending _ _ _ call =>
      call.partNumber? ≠ none → ∃ index, call.Moves source content (spans index)
  | _ => True

variable {spans : Nat → PartSpan} {source : Location} {content : Bytes} {id : OperationId}

/-- The first call of a task that moves a part names its range. -/
lemma Chore.Calls.moves {operation : Operation} {chore : Chore} {errand : Errand} {call : Call}
    (makes : chore.Calls operation errand call) (from_ : operation.record.source = source)
    (bears : (Activity.starting id chore).Bears spans source content)
    (moves : call.partNumber? ≠ none) : ∃ index, call.Moves source content (spans index) := by
  have plain (plain : call.isPlain = true) : False :=
    moves (Call.partNumber?_of_isPlain plain)
  have wrong {build : ObjectName → Call} (none : ∀ object, (build object).partNumber? = Option.none)
      (made : (operation.objectWritten >>= fun object => .ok (build object)) = .ok call) :
      False := by
    cases written : operation.objectWritten with
    | error error =>
        rw [written] at made
        cases made
    | ok object =>
        rw [written] at made
        cases made
        exact moves (none object)
  cases makes with
  | put => exact absurd rfl moves
  | create made => exact (wrong (fun _ => rfl) made).elim
  | complete made => exact (wrong (fun _ => rfl) made).elim
  | abort made => exact (wrong (fun _ => rfl) made).elim
  | copy made => exact (plain (Operation.isPlain_of_copyCall made)).elim
  | fetch made => exact (plain (Operation.isPlain_of_fetchCall made)).elim
  | delete made => exact (plain (Operation.isPlain_of_deleteCall made)).elim
  | removeBucket made => exact (plain (Operation.isPlain_of_removeBucketCall made)).elim
  | @fetchPart range file call made =>
      refine (plain ?_).elim
      simp only [Operation.fetchPartCall, bind, Except.bind] at made
      split at made <;> cases made
      rfl
  | @copyPart range uploadId call made =>
      obtain ⟨index, rfl⟩ := bears
      refine ⟨index, ?_⟩
      simp only [Operation.copyPartCall, Operation.objectRead, from_, bind, Except.bind] at made
      cases source with
      | file path => cases made
      | object object =>
          dsimp only [Location.object?] at made
          split at made
          · cases made
          · cases made
            exact ⟨⟨object, rfl, rfl⟩, rfl, rfl⟩

/-- What follows an activity of the upload bears a part that was cut in the same way, if what is
read of the source is its content. -/
lemma Follows.bears {shared : Shared} {activity later : Activity}
    (follows : Follows shared id activity later)
    (from_ : (shared.operation id).record.source = source)
    (bears : activity.Bears spans source content)
    (reads : ∀ range uploadId path, activity = .reading id range uploadId →
      source.path? = some path → shared.disk.readWhole path = .ok content) :
    later.Bears spans source content := by
  cases follows
  case calls chore errand call store makes => exact makes.moves from_ bears
  case reads => exact bears
  case hasRead range uploadId path object body read sliced store =>
    obtain ⟨index, rfl⟩ := bears
    have local_ : source.path? = some path := by
      simp only [Operation.fileRead, from_] at read
      split at read
      · next path given =>
          obtain rfl := Except.ok.inj read
          exact given
      · cases read
    have remote : source.isRemote = false := by
      cases source with
      | file path => rfl
      | object object => cases local_
    obtain ⟨same, length⟩ := Disk.readSlice_eq (reads _ _ path rfl local_) sliced
    exact fun _ => ⟨index, remote, rfl, same, length⟩
  case stored | transferred | stamped =>
    unfold Activity.afterTransfer
    split <;> trivial
  case notFollowed followUp error => cases followUp <;> trivial
  case written extent _ _ _ _ _ => cases extent <;> trivial
  case unwritten extent _ _ _ _ _ => cases extent <;> trivial
  all_goals trivial

/-- A task that is brought into the queue has a part that is cut in the same way. -/
lemma Activity.bears_of_queues? {operation : Operation} {hand : Activity} {chore : Chore}
    (queues : hand.queues? operation = some chore) :
    (Activity.starting id chore).Bears (operation.span .upload) source content := by
  have part (side : Side) (index : Nat) :
      (Activity.starting id (Activity.partChore operation side (operation.span side index))).Bears
        (operation.span .upload) source content := by
    cases side with
    | download => trivial
    | upload =>
        simp only [Activity.partChore]
        split
        · exact ⟨index, rfl⟩
        · exact ⟨index, rfl⟩
  cases hand
  case offering | forcing =>
    obtain rfl := Option.some.inj queues
    exact part ..
  case following followUp =>
    obtain rfl := Option.some.inj queues
    cases followUp <;> trivial
  all_goals cases queues

end Pool

/-! ## The size of the parts -/

namespace Multipart.Upload

variable {upload next : Upload}

lemma chunksize_advance (upload : Upload) : upload.advance.2.chunksize = upload.chunksize := by
  unfold advance
  repeat' split
  all_goals rfl

lemma chunksize_of_claimCreation? (claimed : upload.claimCreation? = some next) :
    next.chunksize = upload.chunksize := by
  unfold claimCreation? at claimed
  split at claimed
  · obtain rfl := Option.some.inj claimed
    rfl
  · cases claimed

lemma chunksize_of_enterPart? {uploadId : Option String}
    (entered : upload.enterPart? = some (uploadId, next)) : next.chunksize = upload.chunksize := by
  unfold enterPart? at entered
  split at entered
  · obtain ⟨progress, -, same⟩ := Option.map_eq_some_iff.1 entered
    obtain ⟨-, rfl⟩ := Prod.mk.inj same
    rfl
  · cases entered

lemma chunksize_of_handOutPart? {index : Nat}
    (handed : upload.handOutPart? = some (index, next)) :
    next.chunksize = upload.chunksize := by
  unfold handOutPart? at handed
  split at handed
  · obtain ⟨progress, -, same⟩ := Option.map_eq_some_iff.1 handed
    obtain ⟨-, rfl⟩ := Prod.mk.inj same
    rfl
  · cases handed

lemma chunksize_of_putBackPart? {index : Nat} (back : upload.putBackPart? index = some next) :
    next.chunksize = upload.chunksize := by
  obtain ⟨progress, -, rfl⟩ := Option.map_eq_some_iff.1 back
  rfl

end Multipart.Upload

namespace Pool.Shared

variable {shared : Shared} {id : OperationId}

/-- Whether the parts of an upload are cut in the same way. -/
def CutsAlike (before after : Shared) (id : OperationId) : Prop :=
  (after.operation id).chunksize .upload = (before.operation id).chunksize .upload

lemma cutsAlike_of_operations {after : Shared} (same : after.operations = shared.operations) :
    shared.CutsAlike after id := by
  rw [CutsAlike, operation, operation, same]

section

variable (inside : id < shared.operations.length)
include inside

lemma cutsAlike_setUpload {upload next : Multipart.Upload}
    (set : (shared.operation id).upload = some upload)
    (same : next.chunksize = upload.chunksize) :
    shared.CutsAlike (shared.setUpload id next) id := by
  rw [CutsAlike, operation_setUpload inside]
  simp [Operation.chunksize, set, same]

lemma cutsAlike_setDownload (download : Multipart.Download) :
    shared.CutsAlike (shared.setDownload id download) id := by
  rw [CutsAlike, operation_setDownload inside]
  rfl

lemma cutsAlike_start (chore : Chore) : shared.CutsAlike (shared.start id chore).1 id := by
  cases chore
  case createUpload =>
    simp only [start, startCreate]
    split
    · exact rfl
    · next upload set =>
        split
        · exact rfl
        · next claimed =>
            exact cutsAlike_setUpload inside set
              (Multipart.Upload.chunksize_of_claimCreation? claimed)
  case uploadPart | copyPart =>
    simp only [start, startPart]
    split
    · exact rfl
    · next upload set =>
        split
        · exact rfl
        · next entered =>
            exact cutsAlike_setUpload inside set
              (Multipart.Upload.chunksize_of_enterPart? entered)
        · next entered =>
            exact cutsAlike_setUpload inside set
              (Multipart.Upload.chunksize_of_enterPart? entered)
  case createLocalFile | delete =>
    refine cutsAlike_of_operations ?_
    simp only [start, startLocalFile, startDelete]
    repeat' split
    all_goals rfl
  case downloadPart =>
    simp only [start, startDownloadPart]
    repeat' split
    all_goals first | exact rfl | exact cutsAlike_setDownload inside _
  case completeDownload =>
    simp only [start, startFinish]
    repeat' split
    all_goals first | exact rfl | exact cutsAlike_setDownload inside _
  all_goals exact rfl

lemma cutsAlike_report (given : Report) : shared.CutsAlike (shared.report id given).1 id := by
  unfold report
  dsimp only
  split
  · next upload _ set =>
      cases given with
      | partDone => exact cutsAlike_setUpload inside set (Multipart.Upload.chunksize_advance _)
      | partLost side error began =>
          refine cutsAlike_setUpload inside set ?_
          cases began
          · exact Multipart.Upload.chunksize_advance _
          · exact Multipart.Upload.chunksize_advance _
      | completionFailed error =>
          refine cutsAlike_setUpload inside set ?_
          unfold Multipart.Upload.completionFailed
          split <;> rfl
      | opened | partWritten => exact rfl
      | _ => exact cutsAlike_setUpload inside set rfl
  · cases given
    case opened | partWritten | partLost => exact cutsAlike_setDownload inside _
    all_goals exact rfl
  · exact rfl

lemma cutsAlike_feed (side : Side) : shared.CutsAlike (shared.feed id side).1 id := by
  cases side with
  | download =>
      simp only [feed]
      split
      · exact cutsAlike_setDownload inside _
      · exact rfl
  | upload =>
      simp only [feed]
      split
      · next handed =>
          obtain ⟨upload, set, handed⟩ := Option.bind_eq_some_iff.1 handed
          exact cutsAlike_setUpload inside set (Multipart.Upload.chunksize_of_handOutPart? handed)
      · exact rfl

lemma cutsAlike_defer (side : Side) (index : Nat) :
    shared.CutsAlike (shared.defer id side index).1 id := by
  cases side with
  | download =>
      simp only [defer]
      split
      · exact cutsAlike_setDownload inside _
      · exact rfl
  | upload =>
      simp only [defer]
      split
      · next back =>
          obtain ⟨upload, set, back⟩ := Option.bind_eq_some_iff.1 back
          exact cutsAlike_setUpload inside set (Multipart.Upload.chunksize_of_putBackPart? back)
      · exact rfl

/-- No turn of a worker changes how the parts of its upload are cut. -/
lemma cutsAlike_of_work {surroundings : Surroundings} {activity : Activity}
    {result : Shared × Activity} (own : activity.operation? = some id)
    (work : shared.work surroundings activity = some result) : shared.CutsAlike result.1 id := by
  cases activity
  case starting =>
    obtain rfl := Option.some.inj own
    obtain rfl := Option.some.inj work
    exact cutsAlike_start inside _
  case reporting =>
    obtain rfl := Option.some.inj own
    obtain rfl := Option.some.inj work
    exact cutsAlike_report inside _
  case feeding =>
    obtain rfl := Option.some.inj own
    obtain rfl := Option.some.inj work
    exact cutsAlike_feed inside _
  case deferring =>
    obtain rfl := Option.some.inj own
    obtain rfl := Option.some.inj work
    exact cutsAlike_defer inside ..
  all_goals exact cutsAlike_of_operations (operations_of_work rfl work)

end

end Pool.Shared

namespace Run

/-- A step leaves the size of the parts of an upload. -/
lemma Seen.chunksize_eq {run next : Run} {move : Move} {id : OperationId}
    (seen : run.Seen next move id) (inside : id < run.shared.operations.length) :
    (next.view id).operation.chunksize .upload =
      (run.shared.operation id).chunksize .upload := by
  cases seen with
  | same view => rw [view]; rfl
  | admitted chore proposed disk view => rw [view]
  | refused chore error proposed shared view => rw [view]
  | turned activity later rest index actor working own hands work view =>
      exact Shared.cutsAlike_of_work inside own work

end Run
end BulkTransfer
