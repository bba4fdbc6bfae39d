import BulkTransfer.Proofs.Parts.Ledger
import BulkTransfer.Proofs.Run.OperationSteps

/-!
# Queueing the parts

The hands of an operation in parts by what they are to its parts (`Activity.role?`), their account
with the progress of the parts (`Accounts`), and the turns by which parts come into the queue,
which are the same for both sides (`queueing_of_work`).
-/

namespace BulkTransfer

open Pool Multipart

namespace Pool

/-- What a hand is to the parts of its operation. -/
inductive Role where
  | feeder
  | holder
  | refused
  | runner
  deriving DecidableEq, Repr

/-- What a hand is to the parts of its operation; a hand that is nothing to them leads the
operation as a whole. -/
def Activity.role? : Activity → Option Role
  | .feeding .. => some .feeder
  | .offering .. | .deferring .. | .forcing .. => some .holder
  | .starting _ (.uploadPart _) | .starting _ (.copyPart _) => some .holder
  | .starting _ (.downloadPart _) => some .holder
  | .reading .. => some .runner
  | .sending _ (.part _) .. | .sending _ (.fetchPart ..) .. => some .runner
  | .awaiting _ (.part _) .. | .awaiting _ (.fetchPart ..) .. => some .runner
  | .writing _ (.part _) .. => some .runner
  | .reporting _ (.partDone ..) | .reporting _ (.partWritten _) => some .runner
  | .reporting _ (.partLost _ _ began) => some (if began then .runner else .refused)
  | _ => none

/-- The span of the part that a task moves. -/
def Chore.part? : Chore → Option PartSpan
  | .uploadPart range | .copyPart range | .downloadPart range => some range
  | _ => none

namespace Activity

variable (id : OperationId) (side : Side) (index : Nat) (error : Failure)

@[simp]
lemma role?_feeding : (feeding id side).role? = some .feeder := rfl

@[simp]
lemma role?_offering : (offering id side index).role? = some .holder := rfl

@[simp]
lemma role?_deferring : (deferring id side index).role? = some .holder := rfl

@[simp]
lemma role?_forcing : (forcing id side index).role? = some .holder := rfl

@[simp]
lemma role?_refused :
    (reporting id (.partLost side error false)).role? = some .refused := rfl

@[simp]
lemma role?_lost : (reporting id (.partLost side error true)).role? = some .runner := rfl

@[simp]
lemma role?_partChore (operation : Operation) (range : PartSpan) :
    (starting id (partChore operation side range)).role? = some .holder := by
  unfold partChore
  repeat' split
  all_goals rfl

@[simp]
lemma part?_partChore (operation : Operation) (range : PartSpan) :
    (partChore operation side range).part? = some range := by
  unfold partChore
  repeat' split
  all_goals rfl

lemma role?_starting {chore : Chore} {range : PartSpan}
    (moves : chore.part? = some range) : (starting id chore).role? = some .holder := by
  cases chore <;> first | rfl | cases moves

end Activity

/-- The number of hands with a role. -/
def playing (role : Role) (hands : Multiset Activity) : Nat :=
  hands.countP fun hand => hand.role? = some role

/-- The hands that lead the operation. -/
def leads (hands : Multiset Activity) : Multiset Activity :=
  hands.filter fun hand => hand.role? = none

/-- Whether the progress of the parts agrees with the hands at work on them. -/
def Accounts (progress : Progress) (hands : Multiset Activity) : Prop :=
  Ledger progress (playing .feeder hands) (playing .holder hands) (playing .refused hands)
    (playing .runner hands)

@[simp]
lemma playing_zero (role : Role) : playing role 0 = 0 := rfl

@[simp]
lemma playing_cons (role : Role) (hand : Activity) (hands : Multiset Activity) :
    playing role (hand ::ₘ hands) =
      playing role hands + if hand.role? = some role then 1 else 0 :=
  Multiset.countP_cons _ hand hands

@[simp]
lemma playing_singleton (role : Role) (hand : Activity) :
    playing role {hand} = if hand.role? = some role then 1 else 0 :=
  (playing_cons role hand 0).trans (Nat.zero_add _)

@[simp]
lemma leads_zero : leads 0 = 0 := rfl

@[simp]
lemma leads_cons (hand : Activity) (hands : Multiset Activity) :
    leads (hand ::ₘ hands) = (if hand.role? = none then {hand} else 0) + leads hands :=
  Multiset.filter_cons hands

/-- A hand that leads an operation does so alone, if at most one does. -/
lemma leads_of_card_le {hand : Activity} {hands : Multiset Activity} (lead : hand.role? = none)
    (few : (leads (hand ::ₘ hands)).card ≤ 1) :
    leads (hand ::ₘ hands) = {hand} ∧ leads hands = 0 := by
  rw [leads_cons, lead, if_pos rfl] at few ⊢
  rw [Multiset.card_add, Multiset.card_singleton] at few
  have alone : leads hands = 0 := Multiset.card_eq_zero.1 (by omega)
  exact ⟨by rw [alone, add_zero], alone⟩

lemma leads_add (hands others : Multiset Activity) :
    leads (hands + others) = leads hands + leads others :=
  Multiset.filter_add ..

lemma playing_add (role : Role) (hands others : Multiset Activity) :
    playing role (hands + others) = playing role hands + playing role others :=
  Multiset.countP_add ..

lemma leads_of_role? {hands : Multiset Activity} (h : ∀ hand ∈ hands, hand.role? = none) :
    leads hands = hands :=
  Multiset.filter_eq_self.2 h

lemma playing_of_role? {hands : Multiset Activity} (role : Role)
    (h : ∀ hand ∈ hands, hand.role? = none) : playing role hands = 0 := by
  refine Multiset.countP_eq_zero.2 fun hand present plays => ?_
  rw [h hand present] at plays
  cases plays

/-- Hands that lead an operation to its end may take the place of another that does. -/
lemma Accounts.lead {progress : Progress} {activity : Activity} {left rest : Multiset Activity}
    (accounts : Accounts progress (activity ::ₘ rest)) (lead : activity.role? = none)
    (newLeads : ∀ hand ∈ left, hand.role? = none) : Accounts progress (left + rest) := by
  have roles (role : Role) : playing role (left + rest) = playing role (activity ::ₘ rest) := by
    rw [playing_add, playing_of_role? role newLeads, zero_add, playing_cons, lead]
    simp
  rw [Accounts, roles, roles, roles, roles]
  exact accounts

/-- While the end of the parts has not been claimed, the operation has a hand. -/
lemma Accounts.ne_zero {progress : Progress} {hands : Multiset Activity}
    (accounts : Accounts progress hands) (unclaimed : progress.endClaimed = false) : hands ≠ 0 := by
  rintro rfl
  have someone := accounts.someone unclaimed
  simp at someone

namespace Operation

/-- The progress of the parts on one side, as far as it alone decides what is handed out and
entered. -/
def Governs (operation : Operation) (progress : Progress) : Side → Prop
  | .upload => ∃ upload, operation.upload = some upload ∧ upload.progress = progress ∧
      (upload.phase = .partsInFlight ∨ progress.endClaimed = true)
  | .download => ∃ download, operation.download = some download ∧ download.progress = progress ∧
      (download.file.isSome ∨ progress.endClaimed = true)

/-- The operation with another progress of its parts. -/
def withProgress (operation : Operation) (progress : Progress) : Side → Operation
  | .upload => { operation with
      upload := operation.upload.map fun upload => { upload with progress := progress } }
  | .download => { operation with
      download := operation.download.map fun download => { download with progress := progress } }

/-- The number of bytes in a part on one side. -/
def chunksize (operation : Operation) : Side → Nat
  | .upload => (operation.upload.map (·.chunksize)).getD 0
  | .download => (operation.download.map (·.chunksize)).getD 0

/-- The span of the part with the given index on one side. -/
def span (operation : Operation) (side : Side) (index : Nat) : PartSpan :=
  .ofIndex operation.record.size (operation.chunksize side) index

lemma Governs.same {operation : Operation} {progress : Progress} {side : Side}
    (governs : operation.Governs progress side) :
    operation.withProgress progress side = operation := by
  cases side
  all_goals
    obtain ⟨state, set, rfl, -⟩ := governs
    cases operation
    simp_all [withProgress]

end Operation

/-- How the shared state changes with a turn after which the worker does `later`: the operation
becomes `operation`, `notes` is what happens to it, and `left` are the hands that the turn
leaves. -/
def Shared.Turned (before after : Shared) (id : OperationId) (later : Activity)
    (operation : Operation) (notes : List Event) (left : Multiset Activity) : Prop :=
  ∃ queued, before.Changed after id operation notes queued ∧ later.leaves id queued = left

/-- Whether an entry does not come into the queue, other than for lack of room. -/
def Shared.Bars (shared : Shared) (surroundings : Surroundings) (entry : Entry Job) : Prop :=
  shared.queue.closed = true ∨ surroundings.policy entry ≠ none

/-- A turn by which a part is claimed, comes into the queue, or does not come into it. -/
inductive Queueing (operation : Operation) (id : OperationId) (side : Side)
    (barred : Nat → Prop) (progress : Progress) :
    Activity → Progress → Multiset Activity → Prop where
  | handedOut {index : Nat} {after : Progress} (handed : progress.handOut? = some (index, after)) :
      Queueing operation id side barred progress (.feeding id side) after
        {.offering id side index}
  | nothingLeft (empty : progress.handOut? = none) :
      Queueing operation id side barred progress (.feeding id side) progress 0
  | accepted (index : Nat) :
      Queueing operation id side barred progress (.offering id side index) progress
        {.feeding id side,
          .starting id (Activity.partChore operation side (operation.span side index))}
  | full (index : Nat) :
      Queueing operation id side barred progress (.offering id side index) progress
        {.deferring id side index}
  | refused (index : Nat) (error : Failure) (bar : barred index) :
      Queueing operation id side barred progress (.offering id side index) progress
        {.reporting id (.partLost side error false)}
  | takenBack {index : Nat} {after : Progress} (back : progress.putBack? index = some after) :
      Queueing operation id side barred progress (.deferring id side index) after 0
  | kept (index : Nat) :
      Queueing operation id side barred progress (.deferring id side index) progress
        {.forcing id side index}
  | forced (index : Nat) :
      Queueing operation id side barred progress (.forcing id side index) progress
        {.starting id (Activity.partChore operation side (operation.span side index))}
  | forceRefused (index : Nat) (error : Failure) (bar : barred index) :
      Queueing operation id side barred progress (.forcing id side index) progress
        {.reporting id (.partLost side error false)}

namespace Shared

variable {shared : Shared} {id : OperationId} {later : Activity}

lemma Turned.of_changed {after : Shared} {operation : Operation} {notes : List Event}
    (changed : shared.Changed after id operation notes none) (own : later.operation? = some id) :
    shared.Turned after id later operation notes {later} := by
  refine ⟨none, changed, ?_⟩
  simp [Activity.leaves, own]

lemma Turned.of_changed_idle {after : Shared} {operation : Operation} {notes : List Event}
    (changed : shared.Changed after id operation notes none) :
    shared.Turned after id .idle operation notes 0 :=
  ⟨none, changed, by simp [Activity.leaves, Activity.operation?]⟩

lemma Turned.of_queued {after : Shared} {operation : Operation} {notes : List Event}
    {chore : Chore} (changed : shared.Changed after id operation notes (some chore))
    (own : later.operation? = some id) :
    shared.Turned after id later operation notes {later, .starting id chore} := by
  refine ⟨some chore, changed, ?_⟩
  simp [Activity.leaves, own]

lemma Turned.of_queued_idle {after : Shared} {operation : Operation} {notes : List Event}
    {chore : Chore} (changed : shared.Changed after id operation notes (some chore)) :
    shared.Turned after id .idle operation notes {.starting id chore} :=
  ⟨some chore, changed, by simp [Activity.leaves, Activity.operation?]⟩

lemma Turned.stay (inside : id < shared.operations.length)
    (own : later.operation? = some id) :
    shared.Turned shared id later (shared.operation id) [] {later} :=
  .of_changed (.refl inside) own

lemma Turned.rest (inside : id < shared.operations.length) :
    shared.Turned shared id .idle (shared.operation id) [] 0 :=
  .of_changed_idle (.refl inside)

lemma Changed.ofUploadProgress {upload : Multipart.Upload}
    (set : (shared.operation id).upload = some upload) (progress : Progress) :
    shared.Changed (shared.setUpload id { upload with progress := progress }) id
      ((shared.operation id).withProgress progress .upload) [] none := by
  rw [Operation.withProgress, set]
  exact .ofUpload _

lemma Changed.ofDownloadProgress {download : Multipart.Download}
    (set : (shared.operation id).download = some download) (progress : Progress) :
    shared.Changed (shared.setDownload id { download with progress := progress }) id
      ((shared.operation id).withProgress progress .download) [] none := by
  rw [Operation.withProgress, set]
  exact .ofDownload _

end Shared

/-- While parts are under way, and when none is begun any more, the progress alone decides what is
handed out. -/
lemma handOutPart?_of_upload {upload : Multipart.Upload}
    (gate : upload.phase = .partsInFlight ∨ upload.progress.endClaimed = true) :
    upload.handOutPart? = upload.progress.handOut?.map fun handed =>
      (handed.1, { upload with progress := handed.2 }) := by
  unfold Upload.handOutPart?
  split
  · rfl
  · next elsewhere =>
      rw [Progress.handOut?_eq_none_of_endClaimed (gate.resolve_left elsewhere)]
      rfl

lemma handOutPart?_of_download {download : Multipart.Download}
    (gate : download.file.isSome ∨ download.progress.endClaimed = true) :
    download.handOutPart? = download.progress.handOut?.map fun handed =>
      (handed.1, { download with progress := handed.2 }) := by
  unfold Download.handOutPart?
  split
  · rfl
  · next closed =>
      rw [Progress.handOut?_eq_none_of_endClaimed (gate.resolve_left closed)]
      rfl

section

variable {shared : Shared} {id : OperationId} {side : Side} {progress : Progress}
  (inside : id < shared.operations.length)
  (governs : (shared.operation id).Governs progress side) (barred : Nat → Prop)
include inside governs

lemma queueing_of_feed :
    ∃ after left,
      Queueing (shared.operation id) id side barred progress (.feeding id side) after left ∧
        shared.Turned (shared.feed id side).1 id (shared.feed id side).2
          ((shared.operation id).withProgress after side) [] left := by
  have same := governs.same
  cases side with
  | upload =>
      obtain ⟨upload, set, rfl, gate⟩ := governs
      simp only [Shared.feed, set, Option.bind_some, handOutPart?_of_upload gate]
      cases handed : upload.progress.handOut? with
      | none =>
          refine ⟨_, _, .nothingLeft handed, ?_⟩
          rw [same]
          exact .rest inside
      | some result => exact ⟨_, _, .handedOut handed, .of_changed (.ofUploadProgress set _) rfl⟩
  | download =>
      obtain ⟨download, set, rfl, gate⟩ := governs
      simp only [Shared.feed, set, Option.bind_some, handOutPart?_of_download gate]
      cases handed : download.progress.handOut? with
      | none =>
          refine ⟨_, _, .nothingLeft handed, ?_⟩
          rw [same]
          exact .rest inside
      | some result => exact ⟨_, _, .handedOut handed, .of_changed (.ofDownloadProgress set _) rfl⟩

lemma queueing_of_defer (index : Nat) :
    ∃ after left,
      Queueing (shared.operation id) id side barred progress (.deferring id side index) after left ∧
        shared.Turned (shared.defer id side index).1 id (shared.defer id side index).2
          ((shared.operation id).withProgress after side) [] left := by
  have same := governs.same
  cases side with
  | upload =>
      obtain ⟨upload, set, rfl, gate⟩ := governs
      simp only [Shared.defer, set, Option.bind_some, Upload.putBackPart?]
      cases back : upload.progress.putBack? index with
      | none =>
          refine ⟨_, _, .kept index, ?_⟩
          rw [same]
          exact .stay inside rfl
      | some after => exact ⟨_, _, .takenBack back, .of_changed_idle (.ofUploadProgress set _)⟩
  | download =>
      obtain ⟨download, set, rfl, gate⟩ := governs
      simp only [Shared.defer, set, Option.bind_some, Download.putBackPart?]
      cases back : download.progress.putBack? index with
      | none =>
          refine ⟨_, _, .kept index, ?_⟩
          rw [same]
          exact .stay inside rfl
      | some after => exact ⟨_, _, .takenBack back, .of_changed_idle (.ofDownloadProgress set _)⟩

end

lemma bars_of_insertAnyway {queue : Queue Job} {entry : Entry Job} {verdict : Option String}
    {error : Failure} (refused : queue.insertAnyway entry verdict = .refused error) :
    queue.closed = true ∨ verdict ≠ none := by
  unfold Queue.insertAnyway at refused
  split at refused
  · exact .inr nofun
  · split at refused
    · next closed => exact .inl closed
    · cases refused

lemma bars_of_insert {queue : Queue Job} {entry : Entry Job} {verdict : Option String}
    {error : Failure} (refused : queue.insert entry verdict = .refused error) :
    queue.closed = true ∨ verdict ≠ none := by
  unfold Queue.insert at refused
  split at refused
  · split at refused <;> cases refused
  · exact bars_of_insertAnyway refused

lemma insertAnyway_ne_full (queue : Queue Job) (entry : Entry Job) (verdict : Option String) :
    queue.insertAnyway entry verdict ≠ .full := by
  unfold Queue.insertAnyway
  split
  · simp
  · split <;> simp

section

variable {shared : Shared} {id : OperationId} {side : Side} {progress : Progress}
  {surroundings : Surroundings} (inside : id < shared.operations.length) (index : Nat)
include inside

lemma queueing_of_offer :
    ∃ left,
      Queueing (shared.operation id) id side
          (fun index => shared.Bars surroundings
            (Activity.partEntry (shared.operation id) id side index))
          progress (.offering id side index) progress left ∧
        shared.Turned (shared.offer id side index surroundings.policy).1 id
          (shared.offer id side index surroundings.policy).2 (shared.operation id) [] left := by
  unfold Shared.offer
  dsimp only
  split
  · next queue accepted =>
      have pushed := Queue.eq_push_of_insert accepted
      exact ⟨_, .accepted index, .of_queued (.ofAccept inside pushed) rfl⟩
  · exact ⟨_, .full index, .stay inside rfl⟩
  · next error refused =>
      exact ⟨_, .refused index error (bars_of_insert refused), .stay inside rfl⟩

lemma queueing_of_force :
    ∃ left,
      Queueing (shared.operation id) id side
          (fun index => shared.Bars surroundings
            (Activity.partEntry (shared.operation id) id side index))
          progress (.forcing id side index) progress left ∧
        shared.Turned (shared.force id side index surroundings.policy).1 id
          (shared.force id side index surroundings.policy).2 (shared.operation id) [] left := by
  unfold Shared.force
  dsimp only
  split
  · next queue accepted =>
      exact ⟨_, .forced index,
        .of_queued_idle (.ofAccept inside (Queue.eq_push_of_insertAnyway accepted))⟩
  · next full => exact absurd full (insertAnyway_ne_full _ _ _)
  · next error refused =>
      exact ⟨_, .forceRefused index error (bars_of_insertAnyway refused), .stay inside rfl⟩

end

/-- How a caller goes on after the answer that it sees. -/
def Shared.afterAnswer (operation : Operation) (id : OperationId) (errand : Errand) :
    Answer → Activity
  | .reply reply => afterReply operation id errand reply
  | .failed error => afterFailure id errand error
  | .panicked message => afterPanic id errand message

section

open Shared

variable {shared : Shared} {id : OperationId} (inside : id < shared.operations.length)
include inside

lemma turned_call (errand : Errand) (store : StoreName) (call : Call) :
    shared.Turned (shared.note (.called store id call)) id (.awaiting id errand store call)
      (shared.operation id) [.called store id call] {.awaiting id errand store call} :=
  .of_changed (.ofNote inside shared.disk rfl (by simp)) rfl

/-- An answer is noted as the caller sees it, and says how the caller goes on. -/
lemma turned_receive (errand : Errand) (store : StoreName) (call : Call) (answer : Answer) :
    shared.Turned (shared.receive id errand store call answer).1 id
        (shared.receive id errand store call answer).2 (shared.operation id)
        [.answered store id call (seen call answer)]
        {(shared.receive id errand store call answer).2} ∧
      (shared.receive id errand store call answer).2 =
        afterAnswer (shared.operation id) id errand (seen call answer) := by
  refine ⟨.of_changed (.ofNote inside shared.disk rfl (by simp)) ?_, rfl⟩
  unfold receive
  dsimp only
  split
  · exact operation?_afterReply ..
  · exact operation?_afterFailure ..
  · exact operation?_afterPanic ..

end

/-- Whether a hand is at work on bringing a part into the queue. -/
def Activity.isQueueing (id : OperationId) (side : Side) : Activity → Prop
  | .feeding own at_ => own = id ∧ at_ = side
  | .offering own at_ _ | .deferring own at_ _ | .forcing own at_ _ => own = id ∧ at_ = side
  | _ => False

/-- What a turn by which parts come into the queue does. -/
theorem queueing_of_work {shared after : Shared} {id : OperationId} {side : Side}
    {progress : Progress} {surroundings : Surroundings} {activity later : Activity}
    (inside : id < shared.operations.length)
    (governs : (shared.operation id).Governs progress side) (queues : activity.isQueueing id side)
    (work : shared.work surroundings activity = some (after, later)) :
    ∃ next left,
      Queueing (shared.operation id) id side
          (fun index => shared.Bars surroundings
            (Activity.partEntry (shared.operation id) id side index))
          progress activity next left ∧
        shared.Turned after id later ((shared.operation id).withProgress next side) [] left := by
  cases activity
  case feeding own at_ =>
    obtain ⟨rfl, rfl⟩ := queues
    obtain ⟨next, left, queueing, turned⟩ := queueing_of_feed inside governs
      fun index => shared.Bars surroundings
        (Activity.partEntry (shared.operation own) own at_ index)
    rw [Option.some.inj work] at turned
    exact ⟨next, left, queueing, turned⟩
  case deferring own at_ index =>
    obtain ⟨rfl, rfl⟩ := queues
    obtain ⟨next, left, queueing, turned⟩ := queueing_of_defer inside governs
      (fun index => shared.Bars surroundings
        (Activity.partEntry (shared.operation own) own at_ index)) index
    rw [Option.some.inj work] at turned
    exact ⟨next, left, queueing, turned⟩
  case offering own at_ index =>
    obtain ⟨rfl, rfl⟩ := queues
    obtain ⟨left, queueing, turned⟩ :=
      @queueing_of_offer shared own at_ progress surroundings inside index
    rw [Option.some.inj work] at turned
    exact ⟨progress, left, queueing, governs.same.symm ▸ turned⟩
  case forcing own at_ index =>
    obtain ⟨rfl, rfl⟩ := queues
    obtain ⟨left, queueing, turned⟩ :=
      @queueing_of_force shared own at_ progress surroundings inside index
    rw [Option.some.inj work] at turned
    exact ⟨progress, left, queueing, governs.same.symm ▸ turned⟩
  all_goals cases queues

/-- Bringing parts into the queue keeps the account. -/
lemma Queueing.accounts {operation : Operation} {id : OperationId} {side : Side}
    {barred : Nat → Prop} {progress after : Progress} {activity : Activity}
    {left rest : Multiset Activity}
    (queueing : Queueing operation id side barred progress activity after left)
    (accounts : Accounts progress (activity ::ₘ rest)) : Accounts after (left + rest) := by
  cases queueing with
  | handedOut handed =>
      simp [Accounts] at accounts ⊢
      exact accounts.handOut handed
  | nothingLeft empty =>
      simp [Accounts] at accounts ⊢
      exact accounts.leave empty
  | accepted index =>
      simp [Accounts] at accounts ⊢
      exact accounts.join
  | full index | kept index =>
      simp [Accounts] at accounts ⊢
      exact accounts
  | refused index error | forceRefused index error =>
      simp [Accounts] at accounts ⊢
      exact accounts.refuse
  | takenBack back =>
      simp [Accounts] at accounts ⊢
      exact accounts.putBack back
  | forced index =>
      simp [Accounts] at accounts ⊢
      exact accounts

lemma Queueing.failure {operation : Operation} {id : OperationId} {side : Side}
    {barred : Nat → Prop} {progress after : Progress} {activity : Activity}
    {left : Multiset Activity}
    (queueing : Queueing operation id side barred progress activity after left) :
    after.failure = progress.failure ∧ after.endClaimed = progress.endClaimed ∧
      after.total = progress.total := by
  cases queueing with
  | handedOut handed =>
      obtain ⟨-, -, ⟨rest, -, rfl⟩ | ⟨-, -, -, rfl⟩⟩ := Progress.of_handOut? handed
      · exact ⟨rfl, rfl, rfl⟩
      · exact ⟨rfl, rfl, rfl⟩
  | takenBack back =>
      obtain ⟨-, rfl⟩ := Progress.of_putBack? back
      exact ⟨rfl, rfl, rfl⟩
  | _ => exact ⟨rfl, rfl, rfl⟩

end Pool

namespace Run

variable {run next : Run} {id : OperationId}

lemma view_of_turned {later : Activity} {left rest : Multiset Activity} {operation : Operation}
    {notes : List Event}
    (view : ∀ operation notes queued,
      run.shared.Changed next.shared id operation notes queued →
        next.view id = ⟨operation, run.proposed id, later.leaves id queued + rest,
          notes ++ run.shared.history id⟩)
    (turned : run.shared.Turned next.shared id later operation notes left) :
    next.view id =
      ⟨operation, run.proposed id, left + rest, notes ++ run.shared.history id⟩ := by
  obtain ⟨queued, changed, rfl⟩ := turned
  exact view operation notes queued changed

end Run
end BulkTransfer
