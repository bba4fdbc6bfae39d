import BulkTransfer.Proofs.Files.Names
import BulkTransfer.Proofs.Run.Follows
import BulkTransfer.Proofs.Run.HandSuccession

/-!
# Tasks that fit their operations

A task needs an operation of the right shape: a file or an object on either side, and the state of
the parts if it works on them (`Pool.Chore.Fits`). The first task of a record that is accepted fits
(`Pool.fits_of_resolve`), and a hand whose task fits goes on so (`Pool.Activity.Fits.turn`), with
calls that name the source or the destination of the record, in a bucket, and go to the store of
that side (`Call.Placed`).
-/

namespace BulkTransfer

open Pool

namespace Record

/-- Whether the locations of a record have a bucket where they need one. -/
def HasBuckets (record : Record) : Prop :=
  lacksBucket record.source = false ∧ record.destination.any lacksBucket = false

/-- Whether the locations of a record are as an action needs them. -/
def Suits (record : Record) : Action → Prop
  | .upload => record.source.path?.isSome ∧ (record.destination.bind Location.object?).isSome
  | .download => record.source.object?.isSome ∧ (record.destination.bind Location.path?).isSome
  | .copy => record.source.object?.isSome ∧ (record.destination.bind Location.object?).isSome
  | .delete => True
  | .removeBucket => record.source.object?.isSome

variable {record : Record} {action : Action}

lemma hasBuckets_of_action (isAction : record.action = .ok action) : record.HasBuckets := by
  unfold Record.action at isAction
  split at isAction
  · cases isAction
  · next bucket =>
      split at isAction
      · cases isAction
      · next target => exact ⟨Bool.eq_false_iff.2 bucket, Bool.eq_false_iff.2 target⟩

lemma suits_of_actionBetween {destination : Location}
    (given : record.destination = some destination)
    (between : actionBetween record.source destination = some action) : record.Suits action := by
  cases source : record.source <;> cases destination <;>
    simp only [source, actionBetween, Location.isRemote] at between <;> cases between
  all_goals
    unfold Suits
    rw [source, given]
    exact ⟨rfl, rfl⟩

/-- A record that is accepted has locations as its action needs them. -/
lemma suits_of_action (isAction : record.action = .ok action) : record.Suits action := by
  unfold Record.action at isAction
  split at isAction
  · cases isAction
  · split at isAction
    · cases isAction
    · split at isAction
      · split at isAction
        · cases isAction
        · split at isAction
          · next remote =>
              cases isAction
              cases source : record.source <;> simp [source, Location.isRemote] at remote
              simp [Suits, source, Location.object?]
          · cases isAction
      · split at isAction
        · cases isAction
        · cases isAction
          trivial
      · split at isAction
        · cases isAction
        · next destination given =>
            split at isAction
            · cases isAction
            · next between =>
                split at isAction
                · cases isAction
                  exact suits_of_actionBetween given between
                · cases isAction

end Record

namespace Pool

namespace Operation

/-- Whether an operation has the state of its parts on a side. -/
def HasParts (operation : Operation) : Side → Prop
  | .upload => operation.upload.isSome
  | .download => operation.download.isSome

@[simp]
lemma isOk_objectRead (operation : Operation) :
    operation.objectRead.isOk = operation.record.source.object?.isSome := by
  unfold objectRead
  split <;> simp_all [Except.isOk, Except.toBool]

@[simp]
lemma isOk_objectWritten (operation : Operation) :
    operation.objectWritten.isOk =
      (operation.record.destination.bind Location.object?).isSome := by
  unfold objectWritten
  split <;> simp_all [Except.isOk, Except.toBool]

@[simp]
lemma isOk_fileRead (operation : Operation) :
    operation.fileRead.isOk = operation.record.source.path?.isSome := by
  unfold fileRead
  split <;> simp_all [Except.isOk, Except.toBool]

@[simp]
lemma isOk_fileWritten (operation : Operation) :
    operation.fileWritten.isOk = (operation.record.destination.bind Location.path?).isSome := by
  unfold fileWritten
  split <;> simp_all [Except.isOk, Except.toBool]

/-- Whether parts of an operation can be moved to a side. -/
def MovesParts (operation : Operation) : Side → Prop
  | .upload => operation.HasParts .upload ∧ operation.objectWritten.isOk
  | .download =>
      operation.HasParts .download ∧ operation.objectRead.isOk ∧ operation.fileWritten.isOk

end Operation

/-- Whether a task finds what it needs: the locations that it reads and writes, and the state of the
parts. -/
def Chore.Fits (operation : Operation) : Chore → Prop
  | .singleUpload => operation.fileRead.isOk ∧ operation.objectWritten.isOk
  | .copy => operation.objectRead.isOk ∧ operation.objectWritten.isOk
  | .download => operation.objectRead.isOk ∧ operation.fileWritten.isOk
  | .uploadPart _ => operation.MovesParts .upload ∧ operation.fileRead.isOk
  | .copyPart _ => operation.MovesParts .upload ∧ operation.objectRead.isOk
  | .createUpload | .completeUpload | .abortUpload => operation.MovesParts .upload
  | .createLocalFile | .downloadPart _ | .completeDownload => operation.MovesParts .download
  | .delete => operation.fileRead.isOk ∨ operation.objectRead.isOk
  | .removeBucket => operation.objectRead.isOk

/-- Whether who waits for the answer to a call finds what it needs afterwards. -/
def Errand.Fits (operation : Operation) : Errand → Prop
  | .create | .part _ | .complete | .abort _ => operation.MovesParts .upload
  | .fetchPart .. => operation.MovesParts .download
  | .fetch => operation.fileWritten.isOk
  | .put | .copy | .delete | .removeBucket => True

end Pool

/-- Whether a call names the source or the destination of the record of an operation, in a bucket,
and goes to the store of that side. A bucket is removed in the store of the operation. -/
def Call.Placed (operation : Operation) (store : StoreName) (call : Call) : Prop :=
  call.bucket ≠ "" ∧
    match call with
    | .getObject object _ | .deleteObject object =>
        operation.record.source = .object object ∧ store = operation.sourceStore
    | .deleteBucket bucket =>
        (∃ key, operation.record.source = .object ⟨bucket, key⟩) ∧ store = operation.store
    | .copyObject object source _ | .copyPart object _ _ source _ =>
        operation.record.destination = some (.object object) ∧ store = operation.store ∧
          ∃ origin, operation.record.source = .object origin ∧ origin.bucket ≠ "" ∧
            source = CopySource.encode origin
    | .putObject object _ _ | .createUpload object _ | .uploadPart object _ _ _ |
        .completeUpload object _ _ | .abortUpload object _ =>
        operation.record.destination = some (.object object) ∧ store = operation.store
    | .headObject _ => False

namespace Pool

/-- Whether a hand has a task that fits the operation, and a call that is in its place. -/
def Activity.Fits (operation : Operation) : Activity → Prop
  | .starting _ chore => chore.Fits operation
  | .reading .. => operation.MovesParts .upload ∧ operation.fileRead.isOk
  | .sending _ errand store call => errand.Fits operation ∧ call.Placed operation store
  | .awaiting _ errand _ _ => errand.Fits operation
  | .reporting _ report => operation.MovesParts (Shared.sideOf report)
  | .feeding _ side | .offering _ side _ | .deferring _ side _ | .forcing _ side _ =>
      operation.MovesParts side
  | .following _ followUp => followUp.chore.Fits operation
  | .writing _ (.part _) .. => operation.MovesParts .download
  | _ => True

/-- Whether an event, if it is a call, is one in its place. -/
def Event.Fits (operation : Operation) : Event → Prop
  | .called store _ call => call.Placed operation store
  | _ => True

/-! ## Calls in their places -/

namespace Operation

variable {operation : Operation} {object : ObjectName} {path : LocalPath}

lemma source_of_objectRead (read : operation.objectRead = .ok object) :
    operation.record.source = .object object := by
  unfold objectRead at read
  cases source : operation.record.source <;> simp [source, Location.object?] at read
  rw [read]

lemma destination_of_objectWritten (written : operation.objectWritten = .ok object) :
    operation.record.destination = some (.object object) := by
  unfold objectWritten at written
  cases given : operation.record.destination with
  | none => simp [given] at written
  | some destination =>
      cases destination <;> simp [given, Location.object?] at written
      rw [written]

lemma bucket_of_objectRead (buckets : operation.record.HasBuckets)
    (read : operation.objectRead = .ok object) : object.bucket ≠ "" := by
  have bucket := buckets.1
  rw [source_of_objectRead read] at bucket
  simpa [Record.lacksBucket] using bucket

lemma bucket_of_objectWritten (buckets : operation.record.HasBuckets)
    (written : operation.objectWritten = .ok object) : object.bucket ≠ "" := by
  have bucket := buckets.2
  rw [destination_of_objectWritten written] at bucket
  simpa [Record.lacksBucket] using bucket

variable {uploadId : String} {range : PartSpan} {parts : List FinishedPart} {call : Call}

lemma placed_of_copyCall (buckets : operation.record.HasBuckets)
    (made : operation.copyCall = .ok call) : call.Placed operation operation.store := by
  obtain ⟨source, read, rest⟩ := of_bind_eq_ok made
  obtain ⟨object, written, ⟨⟩⟩ := of_bind_eq_ok rest
  exact ⟨bucket_of_objectWritten buckets written, destination_of_objectWritten written, rfl,
    source, source_of_objectRead read, bucket_of_objectRead buckets read, rfl⟩

lemma placed_of_copyPartCall (buckets : operation.record.HasBuckets)
    (made : operation.copyPartCall uploadId range = .ok call) :
    call.Placed operation operation.store := by
  obtain ⟨source, read, rest⟩ := of_bind_eq_ok made
  obtain ⟨object, written, ⟨⟩⟩ := of_bind_eq_ok rest
  exact ⟨bucket_of_objectWritten buckets written, destination_of_objectWritten written, rfl,
    source, source_of_objectRead read, bucket_of_objectRead buckets read, rfl⟩

lemma placed_of_fetchCall (buckets : operation.record.HasBuckets)
    (made : operation.fetchCall = .ok call) : call.Placed operation operation.sourceStore := by
  obtain ⟨source, read, rest⟩ := of_bind_eq_ok made
  obtain ⟨path, -, ⟨⟩⟩ := of_bind_eq_ok rest
  exact ⟨bucket_of_objectRead buckets read, source_of_objectRead read, rfl⟩

lemma placed_of_fetchPartCall (buckets : operation.record.HasBuckets)
    (made : operation.fetchPartCall range = .ok call) :
    call.Placed operation operation.sourceStore := by
  obtain ⟨source, read, ⟨⟩⟩ := of_bind_eq_ok made
  exact ⟨bucket_of_objectRead buckets read, source_of_objectRead read, rfl⟩

lemma placed_of_createCall (buckets : operation.record.HasBuckets)
    (made : operation.createCall = .ok call) : call.Placed operation operation.store := by
  obtain ⟨object, written, ⟨⟩⟩ := of_bind_eq_ok made
  exact ⟨bucket_of_objectWritten buckets written, destination_of_objectWritten written, rfl⟩

lemma placed_of_completeCall (buckets : operation.record.HasBuckets)
    (made : operation.completeCall uploadId parts = .ok call) :
    call.Placed operation operation.store := by
  obtain ⟨object, written, ⟨⟩⟩ := of_bind_eq_ok made
  exact ⟨bucket_of_objectWritten buckets written, destination_of_objectWritten written, rfl⟩

lemma placed_of_abortCall (buckets : operation.record.HasBuckets)
    (made : operation.abortCall uploadId = .ok call) : call.Placed operation operation.store := by
  obtain ⟨object, written, ⟨⟩⟩ := of_bind_eq_ok made
  exact ⟨bucket_of_objectWritten buckets written, destination_of_objectWritten written, rfl⟩

lemma placed_of_deleteCall (buckets : operation.record.HasBuckets)
    (made : operation.deleteCall = .ok call) : call.Placed operation operation.sourceStore := by
  obtain ⟨source, read, ⟨⟩⟩ := of_bind_eq_ok made
  exact ⟨bucket_of_objectRead buckets read, source_of_objectRead read, rfl⟩

lemma placed_of_removeBucketCall (buckets : operation.record.HasBuckets)
    (made : operation.removeBucketCall = .ok call) : call.Placed operation operation.store := by
  obtain ⟨source, read, ⟨⟩⟩ := of_bind_eq_ok made
  exact ⟨bucket_of_objectRead buckets read, ⟨source.key, source_of_objectRead read⟩, rfl⟩

end Operation

namespace Shared

variable {shared : Shared} {id : OperationId} {errand : Errand} {store : StoreName} {call : Call}

lemma of_call {own : OperationId} {errand' : Errand} {store' : StoreName}
    {made : Except Failure Call}
    (goes : Activity.call own errand' store' made = .sending id errand store call) :
    made = .ok call ∧ store' = store := by
  unfold Activity.call at goes
  split at goes <;> cases goes
  exact ⟨rfl, rfl⟩

open Operation in
/-- The first call of a task is in its place. -/
lemma placed_start {chore : Chore} (buckets : (shared.operation id).record.HasBuckets)
    (goes : (shared.start id chore).2 = .sending id errand store call) :
    call.Placed (shared.operation id) store := by
  cases chore with
  | singleUpload =>
      simp only [start, startSingleUpload] at goes
      split at goes
      · cases goes
      · cases goes
      · next path object source written =>
          split at goes <;> cases goes
          exact ⟨bucket_of_objectWritten buckets written, destination_of_objectWritten written,
            rfl⟩
  | createUpload =>
      simp only [start, startCreate] at goes
      split at goes
      · cases goes
      · split at goes
        · cases goes
        · split at goes <;> cases goes
          next made => exact placed_of_createCall buckets made
  | uploadPart range | copyPart range =>
      simp only [start, startPart] at goes
      repeat' split at goes
      all_goals cases goes
      next made => exact placed_of_copyPartCall buckets made
  | completeUpload =>
      simp only [start, startComplete] at goes
      repeat' split at goes
      all_goals cases goes
      next made => exact placed_of_completeCall buckets made
  | abortUpload =>
      simp only [start, startAbort] at goes
      repeat' split at goes
      all_goals cases goes
      next made => exact placed_of_abortCall buckets made
  | copy =>
      obtain ⟨made, rfl⟩ := of_call goes
      exact placed_of_copyCall buckets made
  | download =>
      obtain ⟨made, rfl⟩ := of_call goes
      exact placed_of_fetchCall buckets made
  | createLocalFile =>
      simp only [start, startLocalFile] at goes
      repeat' split at goes
      all_goals cases goes
  | downloadPart range =>
      simp only [start, startDownloadPart] at goes
      repeat' split at goes
      all_goals cases goes
      next made => exact placed_of_fetchPartCall buckets made
  | completeDownload =>
      simp only [start, startFinish] at goes
      repeat' split at goes
      all_goals cases goes
  | delete =>
      simp only [start, startDelete] at goes
      split at goes
      · split at goes <;> cases goes
      · obtain ⟨made, rfl⟩ := of_call goes
        exact placed_of_deleteCall buckets made
  | removeBucket =>
      obtain ⟨made, rfl⟩ := of_call goes
      exact placed_of_removeBucketCall buckets made

open Operation in
/-- The call that sends a part which was read is in its place. -/
lemma placed_readPart {range : PartSpan} {uploadId : String}
    (buckets : (shared.operation id).record.HasBuckets)
    (goes : shared.readPart id range uploadId = .sending id errand store call) :
    call.Placed (shared.operation id) store := by
  unfold readPart at goes
  dsimp only at goes
  split at goes
  · next path object source written =>
      split at goes <;> cases goes
      exact ⟨bucket_of_objectWritten buckets written, destination_of_objectWritten written, rfl⟩
  · cases goes
  · cases goes

end Shared

/-! ## Hands that fit -/

/-- Whether an operation is what it was planned as, as far as its tasks ask. -/
structure Operation.Keeps (planned operation : Operation) : Prop where
  record : operation.record = planned.record
  store : operation.store = planned.store
  sourceStore : operation.sourceStore = planned.sourceStore
  parts : ∀ side, planned.HasParts side → operation.HasParts side

variable {planned operation : Operation} {shared : Shared} {id : OperationId}

lemma Operation.Keeps.placed (keeps : planned.Keeps operation) {store : StoreName} {call : Call}
    (placed : call.Placed operation store) : call.Placed planned store := by
  unfold Call.Placed at placed ⊢
  rwa [keeps.record, keeps.store, keeps.sourceStore] at placed

lemma Chore.fits_delete (operation : Operation) : Chore.delete.Fits operation := by
  unfold Chore.Fits
  rw [Operation.isOk_fileRead, Operation.isOk_objectRead]
  cases operation.record.source
  · exact .inl rfl
  · exact .inr rfl

lemma fits_afterTransfer (operation planned : Operation) :
    (Activity.afterTransfer operation id).Fits planned := by
  unfold Activity.afterTransfer
  split
  · exact Chore.fits_delete planned
  · exact trivial

/-- A part goes to its side by a task that reads what the source is. -/
lemma fits_partChore (keeps : planned.Keeps operation) {side : Side}
    (moves : planned.MovesParts side) (range : PartSpan) :
    (Activity.partChore operation side range).Fits planned := by
  cases side with
  | download => exact moves
  | upload =>
      simp only [Activity.partChore, keeps.record]
      cases source : planned.record.source with
      | file path => exact ⟨moves, by simp [source, Location.path?]⟩
      | object object => exact ⟨moves, by simp [source, Location.object?]⟩

/-- What a task that fits calls for fits as well. -/
lemma Chore.Calls.fits {chore : Chore} {errand : Errand} {call : Call}
    (calls : chore.Calls operation errand call) (fits : chore.Fits planned) :
    errand.Fits planned := by
  cases calls
  case put | copy | delete | removeBucket => exact trivial
  case create | complete | abort | fetchPart => exact fits
  case copyPart => exact fits.1
  case fetch => exact fits.2

/-- A hand that fits goes on so. -/
theorem Activity.Fits.turn {surroundings : Surroundings} {activity later : Activity}
    {after : Shared} (own : activity.operation? = some id)
    (keeps : planned.Keeps (shared.operation id)) (buckets : planned.record.HasBuckets)
    (fits : activity.Fits planned)
    (work : shared.work surroundings activity = some (after, later)) : later.Fits planned := by
  have buckets : (shared.operation id).record.HasBuckets := keeps.record ▸ buckets
  cases Shared.follows_of_work own work
  case calls chore errand call store calls =>
    exact ⟨calls.fits fits,
      keeps.placed (Shared.placed_start buckets (congrArg Prod.snd (Option.some.inj work)))⟩
  case hasRead =>
    exact ⟨fits.1, keeps.placed
      (Shared.placed_readPart buckets (congrArg Prod.snd (Option.some.inj work)))⟩
  case stored | transferred | stamped => exact fits_afterTransfer ..
  case unread | waits => exact fits.1
  case unmoved chore side part error =>
    cases chore <;> cases part
    · exact fits.1
    · exact fits.1
    · exact fits
  case lost errand side part store call error =>
    cases errand <;> cases part <;> exact fits
  case closes report part followUp parts =>
    change planned.MovesParts (Shared.sideOf report) at fits
    cases followUp
    case complete | abort | finish =>
      rw [← Option.some.inj parts] at fits
      exact fits
    case delete => cases parts
  case notFollowed followUp error => cases followUp <;> first | exact fits | exact trivial
  case writes extent path file offset later delivery rest => cases extent <;> exact fits
  case written extent path file offset body spent => cases extent <;> exact fits
  case unwritten extent path file offset body cause =>
    cases extent <;> exact fits
  all_goals first | exact fits | exact trivial

/-- What such a hand brings into the queue fits. -/
lemma Activity.Fits.queues {hand : Activity} {chore : Chore} (fits : hand.Fits planned)
    (keeps : planned.Keeps operation) (queues : hand.queues? operation = some chore) :
    (Activity.starting id chore).Fits planned := by
  cases hand
  case offering | forcing =>
    obtain rfl := Option.some.inj queues
    exact fits_partChore keeps fits _
  case following =>
    obtain rfl := Option.some.inj queues
    exact fits
  all_goals cases queues

/-- What such a hand notes is no call out of place. -/
lemma Activity.Fits.notes {hand : Activity} {event : Event} (fits : hand.Fits planned)
    (notes : hand.Notes event) : event.Fits planned := by
  cases event
  case called store own call =>
    obtain ⟨errand, rfl⟩ := notes
    exact fits.2
  all_goals exact trivial

/-- The first task of a record fits the operation that it was planned as. -/
theorem fits_of_resolve {plan : Plan} {record : Record} {chore : Chore}
    (resolved : plan.resolve record = .ok (planned, chore)) : chore.Fits planned := by
  cases planned_of_resolve resolved with
  | @whole action isAction small =>
      have suits := Record.suits_of_action isAction
      have same : (plan.operationFor record).record = record := rfl
      cases action
      case delete => exact Chore.fits_delete _
      all_goals simpa [Plan.wholeTask, Chore.Fits, same, Record.Suits] using suits
  | upload remote split sized =>
      refine ⟨rfl, ?_⟩
      rw [Operation.isOk_objectWritten]
      exact Option.isSome_iff_exists.2 ⟨_, remote⟩
  | download source destination split sized =>
      refine ⟨rfl, ?_, ?_⟩
      · rw [Operation.isOk_objectRead]
        exact Option.isSome_iff_exists.2 ⟨_, congrArg Location.object? source⟩
      · rw [Operation.isOk_fileWritten]
        exact Option.isSome_iff_exists.2 ⟨_, congrArg (·.bind Location.path?) destination⟩

end Pool
end BulkTransfer
