import BulkTransfer.Proofs.Alone

/-!
# What a worker does next

The work of a worker as a graph: which activity may follow which (`Follows`), with as much of the
reasons as others need. The functions that do the work are opened here once, in
`Shared.follows_of_work`; what holds of every activity of a worker, or goes down with every turn of
one, is read off the edges.
-/

namespace BulkTransfer

open Pool

namespace Pool

/-- The call that a task makes, and what for. -/
inductive Chore.Calls (operation : Operation) : Chore → Errand → Call → Prop where
  | put (object : ObjectName) (body : Bytes) :
      Calls operation .singleUpload .put (.putObject object body operation.attributes)
  | create {call : Call} (made : operation.createCall = .ok call) :
      Calls operation .createUpload .create call
  | copyPart {range : PartSpan} {uploadId : String} {call : Call}
      (made : operation.copyPartCall uploadId range = .ok call) :
      Calls operation (.copyPart range) (.part range) call
  | complete {uploadId : String} {parts : List FinishedPart} {call : Call}
      (made : operation.completeCall uploadId parts = .ok call) :
      Calls operation .completeUpload .complete call
  | abort {uploadId reason : String} {call : Call}
      (made : operation.abortCall uploadId = .ok call) :
      Calls operation .abortUpload (.abort reason) call
  | copy {call : Call} (made : operation.copyCall = .ok call) : Calls operation .copy .copy call
  | fetch {call : Call} (made : operation.fetchCall = .ok call) :
      Calls operation .download .fetch call
  | fetchPart {range : PartSpan} (file : FileId) {call : Call}
      (made : operation.fetchPartCall range = .ok call) :
      Calls operation (.downloadPart range) (.fetchPart range file) call
  | delete {call : Call} (made : operation.deleteCall = .ok call) :
      Calls operation .delete .delete call
  | removeBucket {call : Call} (made : operation.removeBucketCall = .ok call) :
      Calls operation .removeBucket .removeBucket call

/-- Whether a report ends the move of a part, as one that was made or one that was lost. -/
def Report.isPart : Report → Bool
  | .partDone .. | .partWritten _ | .partLost .. => true
  | _ => false

/-- The side of the part that a task moves. -/
def Chore.side? : Chore → Option Side
  | .uploadPart _ | .copyPart _ => some .upload
  | .downloadPart _ => some .download
  | _ => none

lemma Chore.side?_partChore (operation : Operation) (side : Side) (range : PartSpan) :
    (Activity.partChore operation side range).side? = some side := by
  unfold Activity.partChore
  repeat' split
  all_goals rfl

/-- The side whose parts a follow-up closes. -/
def FollowUp.side? : FollowUp → Option Side
  | .complete | .abort => some .upload
  | .finish => some .download
  | .delete => none

end Pool

/-- Whether a reader delivers nothing more. -/
def Reader.isOver : Reader → Bool
  | [] => true
  | .piece bytes :: _ => bytes.isEmpty
  | _ => false

namespace Pool

/-- Which activity may follow which in the work on an operation. -/
inductive Follows (shared : Shared) (id : OperationId) : Activity → Activity → Prop where
  -- A task may find that there is nothing left to do, or that it cannot be done; most make a call.
  | skips {chore : Chore} (inParts : chore.isPlain = false) :
      Follows shared id (.starting id chore) .idle
  | misfits (chore : Chore) (error : Failure) :
      Follows shared id (.starting id chore) (.settling id (.failed error))
  | calls {chore : Chore} {errand : Errand} {call : Call} (store : StoreName)
      (makes : chore.Calls (shared.operation id) errand call) :
      Follows shared id (.starting id chore) (.sending id errand store call)
  | reads (range : PartSpan) (uploadId : String) :
      Follows shared id (.starting id (.uploadPart range)) (.reading id range uploadId)
  | opens (file : FileId) :
      Follows shared id (.starting id .createLocalFile) (.reporting id (.opened file))
  | removes :
      Follows shared id (.starting id .delete) (.settling id .succeeded)
  | keeps {download : Multipart.Download} (path : LocalPath)
      (set : (shared.operation id).download = some download)
      (sound : download.progress.failure = none) :
      Follows shared id (.starting id .completeDownload) (.stamping id path)
  | drops (path : LocalPath) (reason : String) :
      Follows shared id (.starting id .completeDownload) (.discarding id path (.undone reason))
  | unopened (path : LocalPath) (error : Failure) :
      Follows shared id (.starting id .createLocalFile) (.discarding id path (.failed error))
  | uncreated (error : Failure) :
      Follows shared id (.starting id .createUpload) (.reporting id (.creationFailed error))
  | unmoved {chore : Chore} {side : Side} (part : chore.side? = some side) (error : Failure) :
      Follows shared id (.starting id chore) (.reporting id (.partLost side error true))
  | uncompleted (error : Failure) :
      Follows shared id (.starting id .completeUpload) (.reporting id (.completionFailed error))
  | unaborted (reason : String) :
      Follows shared id (.starting id .abortUpload) (.reporting id (.abortEnded false reason))
  | hasRead {range : PartSpan} (uploadId : String) {path : LocalPath} (object : ObjectName)
      {body : Bytes} (source : (shared.operation id).fileRead = .ok path)
      (read : shared.disk.readSlice path range.first range.length = .ok body) (store : StoreName) :
      Follows shared id (.reading id range uploadId)
        (.sending id (.part range) store (.uploadPart object uploadId range.number body))
  | unread (range : PartSpan) (uploadId : String) (error : Failure) :
      Follows shared id (.reading id range uploadId) (.reporting id (.partLost .upload error true))
  | waits (errand : Errand) (store : StoreName) (call : Call) :
      Follows shared id (.sending id errand store call) (.awaiting id errand store call)
  -- What an answer leads to depends on what the call was made for.
  | stored {errand : Errand} (whole : errand = .put ∨ errand = .copy) (store : StoreName)
      (call : Call) :
      Follows shared id (.awaiting id errand store call)
        (Activity.afterTransfer (shared.operation id) id)
  | fetched (store : StoreName) (call : Call) (path : LocalPath) (body : Reader) :
      Follows shared id (.awaiting id .fetch store call) (.saving id path body)
  | created (store : StoreName) (call : Call) (uploadId : String) :
      Follows shared id (.awaiting id .create store call) (.reporting id (.created uploadId))
  | notCreated (store : StoreName) (call : Call) (error : Failure) :
      Follows shared id (.awaiting id .create store call) (.reporting id (.creationFailed error))
  | tagged (range : PartSpan) (store : StoreName) (call : Call) (tag : String) :
      Follows shared id (.awaiting id (.part range) store call)
        (.reporting id (.partDone range tag))
  | loaded (range : PartSpan) (file : FileId) (store : StoreName) (call : Call)
      (path : LocalPath) (body : Reader) :
      Follows shared id (.awaiting id (.fetchPart range file) store call)
        (.writing id (.part range) path file range.first body)
  | lost {errand : Errand} {side : Side} (part : errand.partSide? = some side)
      (store : StoreName) (call : Call) (error : Failure) :
      Follows shared id (.awaiting id errand store call)
        (.reporting id (.partLost side error true))
  | completed (store : StoreName) (call : Call) :
      Follows shared id (.awaiting id .complete store call) (.reporting id .completed)
  | notCompleted (store : StoreName) (call : Call) (error : Failure) :
      Follows shared id (.awaiting id .complete store call)
        (.reporting id (.completionFailed error))
  | aborted (reason : String) (store : StoreName) (call : Call) (succeeded : Bool) :
      Follows shared id (.awaiting id (.abort reason) store call)
        (.reporting id (.abortEnded succeeded reason))
  | removed {errand : Errand} (removes : errand = .delete ∨ errand = .removeBucket)
      (store : StoreName) (call : Call) :
      Follows shared id (.awaiting id errand store call) (.settling id .succeeded)
  | failed {errand : Errand} (noPart : errand.partSide? = none) (store : StoreName) (call : Call)
      (error : Failure) :
      Follows shared id (.awaiting id errand store call) (.settling id (.failed error))
  -- A report is followed by what the state of the operation says is next.
  | rests (report : Report) : Follows shared id (.reporting id report) .idle
  | begins (uploadId : String) :
      Follows shared id (.reporting id (.created uploadId)) (.feeding id .upload)
  | loads (file : FileId) :
      Follows shared id (.reporting id (.opened file)) (.feeding id .download)
  | refills {report : Report} (part : report.isPart = true) :
      Follows shared id (.reporting id report) (.feeding id (Shared.sideOf report))
  | closes {report : Report} (part : report.isPart = true) {followUp : FollowUp}
      (parts : followUp.side? = some (Shared.sideOf report)) :
      Follows shared id (.reporting id report) (.following id followUp)
  | settlesUncreated (error : Failure) :
      Follows shared id (.reporting id (.creationFailed error)) (.settling id (.failed error))
  | transferred :
      Follows shared id (.reporting id .completed) (Activity.afterTransfer (shared.operation id) id)
  | aborts (error : Failure) :
      Follows shared id (.reporting id (.completionFailed error)) (.following id .abort)
  | settlesUndone (succeeded : Bool) (reason : String) :
      Follows shared id (.reporting id (.abortEnded succeeded reason))
        (.settling id (.undone reason))
  -- Parts and follow-ups are brought into the queue.
  | emptied (side : Side) : Follows shared id (.feeding id side) .idle
  | handsOut (side : Side) (index : Nat) :
      Follows shared id (.feeding id side) (.offering id side index)
  | offered (side : Side) (index : Nat) :
      Follows shared id (.offering id side index) (.feeding id side)
  | full (side : Side) (index : Nat) :
      Follows shared id (.offering id side index) (.deferring id side index)
  | refused (side : Side) (index : Nat) (error : Failure) :
      Follows shared id (.offering id side index) (.reporting id (.partLost side error false))
  | defers (side : Side) (index : Nat) : Follows shared id (.deferring id side index) .idle
  | insists (side : Side) (index : Nat) :
      Follows shared id (.deferring id side index) (.forcing id side index)
  | forced (side : Side) (index : Nat) : Follows shared id (.forcing id side index) .idle
  | notForced (side : Side) (index : Nat) (error : Failure) :
      Follows shared id (.forcing id side index) (.reporting id (.partLost side error false))
  | followed (followUp : FollowUp) : Follows shared id (.following id followUp) .idle
  | notFollowed (followUp : FollowUp) (error : Failure) :
      Follows shared id (.following id followUp) (Shared.afterRefusal id error followUp)
  -- Files are written and finished.
  | saves (path : LocalPath) (file : FileId) (body : Reader) :
      Follows shared id (.saving id path body) (.writing id .whole path file 0 body)
  | unsaved (path : LocalPath) (body : Reader) (error : Failure) :
      Follows shared id (.saving id path body) (.discarding id path (.failed error))
  | writes (extent : Extent) (path : LocalPath) (file : FileId) (offset later : Nat)
      (delivery : Delivery) (rest : Reader) :
      Follows shared id (.writing id extent path file offset (delivery :: rest))
        (.writing id extent path file later rest)
  | written (extent : Extent) (path : LocalPath) (file : FileId) (offset : Nat) {body : Reader}
      (spent : body.isOver = true) :
      Follows shared id (.writing id extent path file offset body)
        (Shared.afterWrite id extent path)
  | unwritten (extent : Extent) (path : LocalPath) (file : FileId) (offset : Nat) (body : Reader)
      (cause : IoCause) :
      Follows shared id (.writing id extent path file offset body)
        (Shared.afterWriteFailure id extent path cause)
  | stamped (path : LocalPath) :
      Follows shared id (.stamping id path) (Activity.afterTransfer (shared.operation id) id)
  | discards (path : LocalPath) (outcome : Outcome) :
      Follows shared id (.discarding id path outcome) (.settling id outcome)
  | settles (outcome : Outcome) : Follows shared id (.settling id outcome) .idle

namespace Shared

variable {shared : Shared} {id : OperationId}

lemma follows_call {chore : Chore} {errand : Errand} (store : StoreName)
    {made : Except Failure Call}
    (makes : ∀ call, made = .ok call → chore.Calls (shared.operation id) errand call) :
    Follows shared id (.starting id chore) (Activity.call id errand store made) := by
  cases made with
  | ok call => exact .calls store (makes call rfl)
  | error error => exact .misfits chore error

lemma follows_startPart {chore : Chore} (range : PartSpan) (fromObject : Bool)
    (moves : chore = if fromObject then .copyPart range else .uploadPart range) :
    Follows shared id (.starting id chore) (shared.startPart id range fromObject).2 := by
  have part : chore.side? = some .upload := by rw [moves]; cases fromObject <;> rfl
  have inParts : chore.isPlain = false := by rw [moves]; cases fromObject <;> rfl
  unfold startPart
  dsimp only
  split
  · exact .misfits chore _
  · split
    · exact .skips inParts
    · exact .skips inParts
    · cases fromObject with
      | false =>
          obtain rfl : chore = .uploadPart range := moves
          dsimp only
          rw [if_neg Bool.false_ne_true]
          split
          · exact .unmoved part _
          · exact .unmoved part _
          · exact .reads range _
      | true =>
          obtain rfl : chore = .copyPart range := moves
          dsimp only
          rw [if_pos rfl]
          split
          · next call made => exact .calls _ (.copyPart made)
          · exact .unmoved part _

lemma follows_start (chore : Chore) :
    Follows shared id (.starting id chore) (shared.start id chore).2 := by
  cases chore with
  | singleUpload =>
      simp only [start, startSingleUpload]
      split
      · exact .misfits ..
      · exact .misfits ..
      · split
        · exact .misfits ..
        · exact .calls _ (.put ..)
  | createUpload =>
      simp only [start, startCreate]
      split
      · exact .misfits ..
      · split
        · exact .skips rfl
        · dsimp only
          split
          · next call made => exact .calls _ (.create made)
          · exact .uncreated _
  | uploadPart range => exact follows_startPart range false rfl
  | copyPart range => exact follows_startPart range true rfl
  | completeUpload =>
      simp only [start, startComplete]
      split
      · exact .misfits ..
      · split
        · exact .skips rfl
        · split
          · next call made => exact .calls _ (.complete made)
          · exact .uncompleted _
  | abortUpload =>
      simp only [start, startAbort]
      split
      · exact .misfits ..
      · split
        · exact .skips rfl
        · split
          · next call made => exact .calls _ (.abort made)
          · exact .unaborted _
  | copy => exact follows_call _ fun call => .copy
  | download => exact follows_call _ fun call => .fetch
  | createLocalFile =>
      simp only [start, startLocalFile]
      split
      · exact .misfits ..
      · exact .misfits ..
      · split
        · exact .opens _
        · exact .unopened ..
  | downloadPart range =>
      simp only [start, startDownloadPart]
      split
      · exact .misfits ..
      · split
        · exact .skips rfl
        · dsimp only
          split
          · next call made => exact .calls _ (.fetchPart _ made)
          · exact .unmoved rfl _
  | completeDownload =>
      simp only [start, startFinish]
      split
      · exact .misfits ..
      · exact .misfits ..
      · next download path set written =>
          dsimp only
          split
          · next sound => exact .keeps path set sound
          · exact .drops ..
  | delete =>
      simp only [start, startDelete]
      split
      · split
        · exact .removes
        · exact .misfits ..
      · exact follows_call _ fun call => .delete
  | removeBucket => exact follows_call _ fun call => .removeBucket

lemma follows_readPart (range : PartSpan) (uploadId : String) :
    Follows shared id (.reading id range uploadId) (shared.readPart id range uploadId) := by
  unfold readPart
  dsimp only
  split
  · next path object source written =>
      split
      · next body read => exact .hasRead uploadId object source read _
      · exact .unread ..
  · exact .unread ..
  · exact .unread ..

lemma follows_afterReply (errand : Errand) (store : StoreName) (call : Call) (reply : Reply) :
    Follows shared id (.awaiting id errand store call)
      (afterReply (shared.operation id) id errand reply) := by
  unfold afterReply
  split
  · exact .stored (.inl rfl) ..
  · exact .stored (.inr rfl) ..
  · split
    · exact .fetched ..
    · exact .failed rfl ..
  · exact .failed rfl ..
  · exact .created ..
  · exact .notCreated ..
  · exact .tagged ..
  · exact .tagged ..
  · exact .lost rfl ..
  · exact .lost rfl ..
  · exact .completed ..
  · exact .aborted ..
  · split
    · exact .loaded ..
    · exact .lost rfl ..
  · exact .lost rfl ..
  · exact .removed (.inl rfl) ..
  · exact .removed (.inr rfl) ..

lemma follows_receive (errand : Errand) (store : StoreName) (call : Call) (answer : Answer) :
    Follows shared id (.awaiting id errand store call)
      (shared.receive id errand store call answer).2 := by
  unfold receive
  dsimp only
  split
  · exact follows_afterReply ..
  · cases errand
    case create => exact .notCreated ..
    case part | fetchPart => exact .lost rfl ..
    case complete => exact .notCompleted ..
    case abort => exact .aborted ..
    all_goals exact .failed rfl ..
  · unfold afterPanic
    split
    · next side part => exact .lost part ..
    · next part => exact .failed part ..

lemma follows_report (report : Report) :
    Follows shared id (.reporting id report) (shared.report id report).2 := by
  unfold Shared.report
  dsimp only
  split
  · next upload side set =>
      cases report with
      | created uploadId => exact .begins _
      | creationFailed error => exact .settlesUncreated _
      | opened file => exact .rests _
      | partWritten range => exact .rests _
      | partDone range tag =>
          simp only [reportUpload]
          cases (upload.partFinished range.number tag).1 with
          | wait => exact .refills rfl
          | complete => exact .closes rfl rfl
          | abort => exact .closes rfl rfl
      | partLost at_ error began =>
          obtain rfl : at_ = .upload := side
          simp only [reportUpload]
          cases (if began then upload.partLost error.message
            else upload.partRefused error.message).1 with
          | wait => exact .rests _
          | complete => exact .closes rfl rfl
          | abort => exact .closes rfl rfl
      | completed => exact .transferred
      | completionFailed error =>
          simp only [reportUpload, Multipart.Upload.completionFailed]
          split
          · exact .aborts _
          · exact .rests _
      | abortEnded succeeded reason => exact .settlesUndone ..
  · next download side set =>
      cases report with
      | opened file => exact .loads _
      | partWritten range =>
          simp only [reportDownload]
          split
          · exact .closes rfl rfl
          · exact .refills rfl
      | partLost at_ error began =>
          obtain rfl : at_ = .download := side
          simp only [reportDownload]
          split
          · exact .closes rfl rfl
          · exact .rests _
      | _ => exact .rests _
  · exact .rests _

lemma follows_write (extent : Extent) (path : LocalPath) (file : FileId) (offset : Nat)
    (body : Reader) :
    Follows shared id (.writing id extent path file offset body)
      (shared.write id extent path file offset body).2 := by
  unfold write
  split
  · exact .written _ _ _ _ rfl
  · exact .writes ..
  · exact .unwritten ..
  · split
    · next empty => exact .written _ _ _ _ empty
    · dsimp only
      split
      · exact .unwritten ..
      · exact .writes ..

/-- What a worker does next follows what it did. -/
theorem follows_of_work {surroundings : Surroundings} {activity : Activity}
    {result : Shared × Activity} (own : activity.operation? = some id)
    (work : shared.work surroundings activity = some result) :
    Follows shared id activity result.2 := by
  cases activity
  case idle | dismissed => cases own
  all_goals
    obtain rfl := Option.some.inj own
    obtain rfl := Option.some.inj work
  case starting => exact follows_start _
  case reading => exact follows_readPart ..
  case sending => exact .waits ..
  case awaiting => exact follows_receive ..
  case reporting => exact follows_report _
  case feeding side =>
    cases side
    all_goals
      simp only [feed]
      split
      · exact .handsOut ..
      · exact .emptied _
  case offering =>
    simp only [offer]
    split
    · exact .offered ..
    · exact .full ..
    · exact .refused ..
  case deferring side _ =>
    cases side
    all_goals
      simp only [defer]
      split
      · exact .defers ..
      · exact .insists ..
  case forcing =>
    simp only [force]
    split
    · exact .forced ..
    · exact .forced ..
    · exact .notForced ..
  case following =>
    simp only [follow]
    split
    · exact .followed _
    · exact .followed _
    · exact .notFollowed ..
  case saving =>
    simp only [save]
    split
    · exact .saves ..
    · exact .unsaved ..
  case writing => exact follows_write ..
  case stamping => exact .stamped _
  case discarding => exact .discards ..
  case settling => exact .settles _

end Shared
end Pool
end BulkTransfer
