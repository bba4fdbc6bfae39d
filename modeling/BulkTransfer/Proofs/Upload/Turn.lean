import BulkTransfer.Proofs.Alone

/-!
# Turns at the parts of an upload

What a turn of a hand at the parts of an upload or a copy can do: it brings parts into the queue,
skips or enters a part, makes the call for it, and reports what came of it. The last report to
wait for closes the upload, which is then completed, or aborted if a part has failed.
-/

namespace BulkTransfer

open Pool Multipart

/-- The number of the part that a call moves to a store. -/
def Call.partNumber? : Call → Option Nat
  | .uploadPart _ _ number _ => some number
  | .copyPart _ _ number _ _ => some number
  | _ => none

/-- The tag in the answer to a call that moves a part, if there is one. -/
def Answer.tag? : Answer → Option String
  | .reply (.part tag) => tag
  | .reply (.copiedPart result) => result.join
  | _ => none

namespace Multipart.Upload

variable {upload : Upload} {progress : Progress}

/-- The upload after the end of its parts: it is to be completed, or aborted after a failure. -/
def closing (upload : Upload) (progress : Progress) : Upload :=
  { upload with
    progress := progress
    phase := if progress.failure = none then .completing else .aborting }

/-- The upload with one more part finished, before anything follows from that. -/
def withPart (upload : Upload) (part : FinishedPart) : Upload :=
  { upload with
    parts := insertPart part upload.parts
    progress := upload.progress.partFinished }

lemma advance_of_none (h : upload.progress.claimEnd? = none) :
    upload.advance = (.wait, upload) := by
  rw [advance, h]

lemma advance_of_some (h : upload.progress.claimEnd? = some progress) :
    upload.advance =
      (if progress.failure = none then .complete else .abort, upload.closing progress) := by
  rw [advance, h]
  cases failure : progress.failure <;> simp [closing, failure]

end Multipart.Upload

namespace Pool

/-- The span of the part that a call is made for. -/
def Errand.part? : Errand → Option PartSpan
  | .part range => some range
  | .fetchPart range _ => some range
  | _ => none

/-- Whether a hand is one at the parts of the upload with the given identifier. -/
def Activity.isUploading (id : OperationId) (uploadId : String) : Activity → Prop
  | .feeding own side => own = id ∧ side = .upload
  | .offering own side _ | .deferring own side _ | .forcing own side _ =>
      own = id ∧ side = .upload
  | .starting own (.uploadPart _) | .starting own (.copyPart _) => own = id
  | .reading own _ known => own = id ∧ known = uploadId
  | .sending own (.part range) _ call | .awaiting own (.part range) _ call =>
      own = id ∧ call.partNumber? = some range.number ∧ call.uploadId? = some uploadId
  | .reporting own (.partDone _ _) => own = id
  | .reporting own (.partLost side _ _) => own = id ∧ side = .upload
  | _ => False

/-- What the one who has closed the parts of an upload does next. -/
def closingHand (id : OperationId) (progress : Progress) : Activity :=
  .following id (if progress.failure = none then .complete else .abort)

/-- A turn at the parts of the upload with the given identifier. -/
inductive UploadTurn (operation : Operation) (id : OperationId) (uploadId : String)
    (upload : Upload) : Activity → Upload → List Event → Multiset Activity → Prop where
  | queued {barred : Nat → Prop} {activity : Activity} {progress : Progress}
      {left : Multiset Activity}
      (queueing : Queueing operation id .upload barred upload.progress activity progress left) :
      UploadTurn operation id uploadId upload activity { upload with progress := progress } [] left
  | skipped {chore : Chore} {range : PartSpan} (moves : chore.part? = some range)
      (closed : upload.progress.enter? = none) :
      UploadTurn operation id uploadId upload (.starting id chore) upload [] 0
  | entered {chore : Chore} {range : PartSpan} {progress : Progress} {later : Activity}
      (moves : chore.part? = some range) (entered : upload.progress.enter? = some progress)
      (begins : later = .reading id range uploadId ∨
        (∃ store call, later = .sending id (.part range) store call ∧
          call.partNumber? = some range.number ∧ call.uploadId? = some uploadId) ∨
        ∃ error, later = .reporting id (.partLost .upload error true)) :
      UploadTurn operation id uploadId upload (.starting id chore)
        { upload with progress := progress } [] {later}
  | read {range : PartSpan} {later : Activity}
      (goes : (∃ store call, later = .sending id (.part range) store call ∧
          call.partNumber? = some range.number ∧ call.uploadId? = some uploadId) ∨
        ∃ error, later = .reporting id (.partLost .upload error true)) :
      UploadTurn operation id uploadId upload (.reading id range uploadId) upload [] {later}
  | sent (range : PartSpan) (store : StoreName) (call : Call) :
      UploadTurn operation id uploadId upload (.sending id (.part range) store call) upload
        [.called store id call] {.awaiting id (.part range) store call}
  | tagged {range : PartSpan} {store : StoreName} {call : Call} {answer : Answer} {tag : String}
      (has : answer.tag? = some tag) :
      UploadTurn operation id uploadId upload (.awaiting id (.part range) store call) upload
        [.answered store id call answer] {.reporting id (.partDone range tag)}
  | untagged {range : PartSpan} {store : StoreName} {call : Call} {answer : Answer}
      (error : Failure) (lacks : answer.tag? = none) :
      UploadTurn operation id uploadId upload (.awaiting id (.part range) store call) upload
        [.answered store id call answer] {.reporting id (.partLost .upload error true)}
  | done {range : PartSpan} {tag : String}
      (pending : upload.progress.partFinished.claimEnd? = none) :
      UploadTurn operation id uploadId upload (.reporting id (.partDone range tag))
        (upload.withPart ⟨range.number, tag⟩) [] {.feeding id .upload}
  | doneLast {range : PartSpan} {tag : String} {progress : Progress}
      (last : upload.progress.partFinished.claimEnd? = some progress) :
      UploadTurn operation id uploadId upload (.reporting id (.partDone range tag))
        ((upload.withPart ⟨range.number, tag⟩).closing progress) [] {closingHand id progress}
  | lost {error : Failure} {began : Bool}
      (pending : (upload.progress.partLost error.message began).claimEnd? = none) :
      UploadTurn operation id uploadId upload (.reporting id (.partLost .upload error began))
        { upload with progress := upload.progress.partLost error.message began } [] 0
  | lostLast {error : Failure} {began : Bool} {progress : Progress}
      (last : (upload.progress.partLost error.message began).claimEnd? = some progress) :
      UploadTurn operation id uploadId upload (.reporting id (.partLost .upload error began))
        (upload.closing progress) [] {closingHand id progress}

/-- Whether the step of a hand is a turn at the parts of an upload. -/
def Shared.TurnsUpload (shared after : Shared) (id : OperationId) (uploadId : String)
    (upload : Upload) (activity later : Activity) : Prop :=
  ∃ next notes left,
    UploadTurn (shared.operation id) id uploadId upload activity next notes left ∧
      shared.Turned after id later { shared.operation id with upload := some next } notes left

lemma copyPartCall_spec {operation : Operation} {uploadId : String} {range : PartSpan}
    {call : Call} (h : operation.copyPartCall uploadId range = .ok call) :
    call.partNumber? = some range.number ∧ call.uploadId? = some uploadId := by
  simp only [Operation.copyPartCall, bind, Except.bind] at h
  repeat' split at h
  all_goals cases h
  exact ⟨rfl, rfl⟩

section

open Shared

variable {shared : Shared} {id : OperationId} {uploadId : String} {upload : Upload}
  (inside : id < shared.operations.length) (set : (shared.operation id).upload = some upload)
  (known : upload.uploadId = some uploadId)
  (gate : upload.phase = .partsInFlight ∨ upload.progress.endClaimed = true)

include set in
lemma set_upload_same :
    { shared.operation id with upload := some upload } = shared.operation id := by
  rw [← set]

include inside set in
lemma turned_stayUpload {later : Activity} (own : later.operation? = some id) :
    shared.Turned shared id later { shared.operation id with upload := some upload } []
      {later} := by
  rw [set_upload_same set]
  exact .stay inside own

include known gate in
lemma enterPart?_of_upload :
    upload.enterPart? = upload.progress.enter?.map fun progress =>
      (some uploadId, { upload with progress := progress }) := by
  unfold Upload.enterPart?
  split
  · rw [known]
  · next elsewhere =>
      rw [Progress.enter?_eq_none_of_endClaimed (gate.resolve_left elsewhere)]
      rfl

include inside set known gate in
lemma uploadTurn_start {chore : Chore} {range : PartSpan} {fromObject : Bool}
    (moves : chore.part? = some range) :
    shared.TurnsUpload (shared.startPart id range fromObject).1 id uploadId upload
      (.starting id chore) (shared.startPart id range fromObject).2 := by
  unfold startPart
  simp only [set, enterPart?_of_upload known gate]
  cases entered : upload.progress.enter? with
  | none =>
      refine ⟨upload, [], 0, .skipped moves entered, ?_⟩
      rw [set_upload_same set]
      exact .rest inside
  | some progress =>
      have go {later : Activity} (own : later.operation? = some id)
          (begins : later = .reading id range uploadId ∨
            (∃ store call, later = .sending id (.part range) store call ∧
              call.partNumber? = some range.number ∧ call.uploadId? = some uploadId) ∨
            ∃ error, later = .reporting id (.partLost .upload error true)) :
          shared.TurnsUpload (shared.setUpload id { upload with progress := progress }) id uploadId
            upload (.starting id chore) later :=
        ⟨_, [], {later}, .entered moves entered begins, .of_changed (.ofUpload _) own⟩
      simp only [Option.map_some]
      split
      · split
        · next call made =>
            exact go rfl (.inr (.inl ⟨_, call, rfl, copyPartCall_spec made⟩))
        · exact go rfl (.inr (.inr ⟨_, rfl⟩))
      · split
        · exact go rfl (.inr (.inr ⟨_, rfl⟩))
        · exact go rfl (.inr (.inr ⟨_, rfl⟩))
        · exact go rfl (.inl rfl)

include inside set in
lemma uploadTurn_read (range : PartSpan) :
    shared.TurnsUpload shared id uploadId upload (.reading id range uploadId)
      (shared.readPart id range uploadId) := by
  have lost (error : Failure) :
      shared.TurnsUpload shared id uploadId upload (.reading id range uploadId)
        (.reporting id (.partLost .upload error true)) :=
    ⟨_, _, _, .read (.inr ⟨error, rfl⟩), turned_stayUpload inside set rfl⟩
  unfold readPart
  dsimp only
  split
  · split
    · exact ⟨_, _, _, .read (.inl ⟨_, _, rfl, rfl, rfl⟩), turned_stayUpload inside set rfl⟩
    · exact lost _
  · exact lost _
  · exact lost _

/-- What follows the call for a part is told by whether its answer has a tag. -/
lemma afterPart (operation : Operation) (range : PartSpan) (answer : Answer) :
    (∃ tag, answer.tag? = some tag ∧
        afterAnswer operation id (.part range) answer = .reporting id (.partDone range tag)) ∨
      answer.tag? = none ∧
        ∃ error, afterAnswer operation id (.part range) answer =
          .reporting id (.partLost .upload error true) := by
  cases answer with
  | failed error => exact .inr ⟨rfl, error, rfl⟩
  | panicked message => exact .inr ⟨rfl, .panicked message, rfl⟩
  | reply reply =>
      cases reply
      case part tag =>
        cases tag with
        | none => exact .inr ⟨rfl, _, rfl⟩
        | some tag => exact .inl ⟨tag, rfl, rfl⟩
      case copiedPart result =>
        rcases result with _ | _ | tag
        · exact .inr ⟨rfl, _, rfl⟩
        · exact .inr ⟨rfl, _, rfl⟩
        · exact .inl ⟨tag, rfl, rfl⟩
      all_goals exact .inr ⟨rfl, _, rfl⟩

include inside set in
lemma uploadTurn_receive (range : PartSpan) (store : StoreName) (call : Call) (answer : Answer) :
    shared.TurnsUpload (shared.receive id (.part range) store call answer).1 id uploadId upload
      (.awaiting id (.part range) store call)
      (shared.receive id (.part range) store call answer).2 := by
  obtain ⟨turned, goes⟩ := turned_receive inside (.part range) store call answer
  rw [← set_upload_same set] at turned
  rcases @afterPart id (shared.operation id) range (seen call answer) with
    ⟨tag, has, later⟩ | ⟨lacks, error, later⟩
  · rw [later] at goes
    refine ⟨upload, _, _, .tagged has, ?_⟩
    rw [goes] at turned ⊢
    exact turned
  · rw [later] at goes
    refine ⟨upload, _, _, .untagged error lacks, ?_⟩
    rw [goes] at turned ⊢
    exact turned

/-- The one who has closed the parts of an upload goes on to end it. -/
lemma turned_closing (progress : Progress) :
    shared.Turned (shared.setUpload id (upload.closing progress)) id
      (.afterReport id (if progress.failure = none then .complete else .abort))
      { shared.operation id with upload := some (upload.closing progress) } []
      {closingHand id progress} := by
  cases failure : progress.failure with
  | none =>
      simp only [closingHand, failure, if_true]
      exact .of_changed (.ofUpload _) rfl
  | some reason =>
      simp only [closingHand, failure, reduceCtorEq, if_false]
      exact .of_changed (.ofUpload _) rfl

include set in
lemma uploadTurn_done (range : PartSpan) (tag : String) :
    shared.TurnsUpload (shared.report id (.partDone range tag)).1 id uploadId upload
      (.reporting id (.partDone range tag)) (shared.report id (.partDone range tag)).2 := by
  have split : shared.report id (.partDone range tag) =
      shared.reportUpload id upload (.partDone range tag) := by simp [report, sideOf, set]
  rw [split]
  simp only [reportUpload]
  have finished : upload.partFinished range.number tag =
      (upload.withPart ⟨range.number, tag⟩).advance := rfl
  cases last : upload.progress.partFinished.claimEnd? with
  | none =>
      rw [finished, Upload.advance_of_none last]
      exact ⟨_, _, _, .done last, .of_changed (.ofUpload _) rfl⟩
  | some progress =>
      rw [finished, Upload.advance_of_some last]
      have closing := @turned_closing shared id (upload.withPart ⟨range.number, tag⟩) progress
      refine ⟨_, _, _, .doneLast last, ?_⟩
      by_cases sound : progress.failure = none
      · rw [if_pos sound] at closing ⊢
        exact closing
      · rw [if_neg sound] at closing ⊢
        exact closing

include set in
lemma uploadTurn_lost (error : Failure) (began : Bool) :
    shared.TurnsUpload (shared.report id (.partLost .upload error began)).1 id uploadId upload
      (.reporting id (.partLost .upload error began))
      (shared.report id (.partLost .upload error began)).2 := by
  have split : shared.report id (.partLost .upload error began) =
      shared.reportUpload id upload (.partLost .upload error began) := by
    simp [report, sideOf, set]
  have lost : (if began then upload.partLost error.message else upload.partRefused error.message) =
      Upload.advance { upload with progress := upload.progress.partLost error.message began } := by
    cases began <;> rfl
  rw [split]
  simp only [reportUpload, lost]
  cases last : (upload.progress.partLost error.message began).claimEnd? with
  | none =>
      rw [Upload.advance_of_none last]
      exact ⟨_, _, _, .lost last, .of_changed_idle (.ofUpload _)⟩
  | some progress =>
      rw [Upload.advance_of_some last]
      exact ⟨_, _, _, .lostLast last, turned_closing progress⟩

end

/-- What a turn of a hand at the parts of an upload does. -/
lemma uploadTurn_of_work {shared after : Shared} {id : OperationId} {uploadId : String}
    {upload : Upload} {surroundings : Surroundings} {activity later : Activity}
    (inside : id < shared.operations.length) (set : (shared.operation id).upload = some upload)
    (known : upload.uploadId = some uploadId)
    (gate : upload.phase = .partsInFlight ∨ upload.progress.endClaimed = true)
    (uploading : activity.isUploading id uploadId)
    (work : shared.work surroundings activity = some (after, later)) :
    shared.TurnsUpload after id uploadId upload activity later := by
  have queue (queues : activity.isQueueing id .upload) :
      shared.TurnsUpload after id uploadId upload activity later := by
    have governs : (shared.operation id).Governs upload.progress .upload :=
      ⟨upload, set, rfl, gate⟩
    obtain ⟨progress, left, queueing, turned⟩ := queueing_of_work inside governs queues work
    simp only [Operation.withProgress, set, Option.map_some] at turned
    exact ⟨_, _, left, .queued queueing, turned⟩
  cases activity
  case feeding | offering | deferring | forcing => exact queue uploading
  case starting own chore =>
    cases chore
    case uploadPart range =>
      obtain rfl := uploading
      obtain ⟨rfl, rfl⟩ := Prod.mk.inj (Option.some.inj work)
      exact uploadTurn_start inside set known gate rfl
    case copyPart range =>
      obtain rfl := uploading
      obtain ⟨rfl, rfl⟩ := Prod.mk.inj (Option.some.inj work)
      exact uploadTurn_start inside set known gate rfl
    all_goals cases uploading
  case reading own range known =>
    obtain ⟨rfl, rfl⟩ := uploading
    obtain ⟨rfl, rfl⟩ := Prod.mk.inj (Option.some.inj work)
    exact uploadTurn_read inside set range
  case sending own errand store call =>
    cases errand
    case part range =>
      obtain ⟨rfl, -⟩ := uploading
      obtain ⟨rfl, rfl⟩ := Prod.mk.inj (Option.some.inj work)
      refine ⟨upload, _, _, .sent range store call, ?_⟩
      rw [set_upload_same set]
      exact .of_changed (.ofNote inside shared.disk rfl (by simp)) rfl
    all_goals cases uploading
  case awaiting own errand store call =>
    cases errand
    case part range =>
      obtain ⟨rfl, -⟩ := uploading
      obtain ⟨rfl, rfl⟩ := Prod.mk.inj (Option.some.inj work)
      exact uploadTurn_receive inside set range store call surroundings.answer
    all_goals cases uploading
  case reporting own report =>
    cases report
    case partDone range tag =>
      obtain rfl := uploading
      obtain ⟨rfl, rfl⟩ := Prod.mk.inj (Option.some.inj work)
      exact uploadTurn_done set range tag
    case partLost side error began =>
      obtain ⟨rfl, rfl⟩ := uploading
      obtain ⟨rfl, rfl⟩ := Prod.mk.inj (Option.some.inj work)
      exact uploadTurn_lost set error began
    all_goals cases uploading
  all_goals cases uploading

end Pool
end BulkTransfer
