import BulkTransfer.Proofs.Download.Turn
import BulkTransfer.Proofs.Run.Follows

/-!
# What becomes of a download

The functions that do the work on an operation change its download in a few ways only (`Becomes`):
its file is opened or closed, and parts are handed out and put back, entered, finished and lost.
They are opened here once (`Shared.converts_of_work`), whatever stage the download is at.
-/

namespace BulkTransfer

open Pool Multipart

namespace Multipart

/-- Claiming the end of the parts changes nothing that is counted. -/
lemma Progress.settled_same (progress : Progress) :
    progress.settled.deferred = progress.deferred ∧ progress.settled.next = progress.next ∧
      progress.settled.succeeded = progress.succeeded ∧
      progress.settled.total = progress.total := by
  unfold settled
  cases last : progress.claimEnd? with
  | none => exact ⟨rfl, rfl, rfl, rfl⟩
  | some after =>
      obtain ⟨-, -, rfl⟩ := Progress.of_claimEnd? last
      exact ⟨rfl, rfl, rfl, rfl⟩

lemma Download.progress_advance (download : Download) :
    download.advance.2.progress = download.progress.settled := by
  unfold advance Progress.settled
  cases download.progress.claimEnd? <;> rfl

end Multipart

namespace Pool

/-- The part that a hand is about to report as written. -/
def Activity.written? : Activity → Option PartSpan
  | .reporting _ (.partWritten range) => some range
  | _ => none

/-- What may become of the download of an operation in a turn: it is opened or closed, or a part of
it is handed out, put back, entered, finished or lost. -/
inductive Becomes (id : OperationId) (download : Download) :
    Activity → Activity → Download → Prop where
  | same {activity later : Activity} (silent : activity.written? = none)
      (unissued : ∀ index, later ≠ .offering id .download index) :
      Becomes id download activity later download
  | opened (file : FileId) (later : Activity) :
      Becomes id download (.reporting id (.opened file)) later (download.opened file)
  | entered {range : PartSpan} {file : FileId} {next : Download}
      (entered : download.enterPart? = some (file, next)) (later : Activity) :
      Becomes id download (.starting id (.downloadPart range)) later next
  | handedOut {index : Nat} {next : Download}
      (handed : download.handOutPart? = some (index, next)) :
      Becomes id download (.feeding id .download) (.offering id .download index) next
  | takenBack {index : Nat} {next : Download} (back : download.putBackPart? index = some next) :
      Becomes id download (.deferring id .download index) .idle next
  | finished (range : PartSpan) (later : Activity) :
      Becomes id download (.reporting id (.partWritten range)) later download.partFinished.2
  | lost (error : Failure) (began : Bool) (later : Activity) :
      Becomes id download (.reporting id (.partLost .download error began)) later
        (download.partLost error.message began).2
  | closed (later : Activity) :
      Becomes id download (.starting id .completeDownload) later download.finish.2

/-- A part is offered to the queue by the hand that has just been given it. -/
lemma Follows.of_offering {shared : Shared} {id : OperationId} {activity : Activity} {side : Side}
    {index : Nat} (follows : Follows shared id activity (.offering id side index)) :
    activity = .feeding id side := by
  generalize later : Activity.offering id side index = offers at follows
  cases follows
  case handsOut =>
    obtain ⟨-, rfl, rfl⟩ := Activity.offering.inj later
    rfl
  case stored | transferred | stamped =>
    unfold Activity.afterTransfer at later
    split at later <;> cases later
  case notFollowed followUp _ => cases followUp <;> cases later
  case written extent _ _ _ _ _ => cases extent <;> cases later
  case unwritten extent _ _ _ _ _ => cases extent <;> cases later
  all_goals cases later

namespace Shared

variable {shared after : Shared} {id : OperationId} {download : Download}
  {activity later : Activity} {surroundings : Surroundings}
  (inside : id < shared.operations.length)
  (set : (shared.operation id).download = some download)

/-- What a turn makes of the download of the operation. -/
def Converts (after : Shared) (id : OperationId) (download : Download)
    (activity later : Activity) : Prop :=
  ∃ next, (after.operation id).download = some next ∧ Becomes id download activity later next

include set in
lemma converts_same (silent : activity.written? = none)
    (unissued : ∀ index, later ≠ .offering id .download index)
    (same : (after.operation id).download = (shared.operation id).download) :
    after.Converts id download activity later :=
  ⟨download, same.trans set, .same silent unissued⟩

include inside in
lemma converts_setDownload {next : Download} (becomes : Becomes id download activity later next) :
    Converts (shared.setDownload id next) id download activity later :=
  ⟨next, by rw [operation_setDownload inside], becomes⟩

include inside in
lemma download_setUpload (upload : Upload) :
    ((shared.setUpload id upload).operation id).download = (shared.operation id).download := by
  rw [operation_setUpload inside]

include inside set in
lemma converts_start (chore : Chore)
    (unissued : ∀ index, (shared.start id chore).2 ≠ .offering id .download index) :
    Converts (shared.start id chore).1 id download (.starting id chore)
      (shared.start id chore).2 := by
  cases chore
  case downloadPart range =>
    revert unissued
    simp only [start, startDownloadPart, set]
    intro unissued
    split
    · exact converts_same set rfl (by simp) rfl
    · next entered => exact converts_setDownload inside (.entered entered _)
  case completeDownload =>
    revert unissued
    simp only [start, startFinish, set]
    intro unissued
    split
    · exact converts_same set rfl (by simp [Activity.withoutState]) rfl
    · exact converts_same set rfl (by simp) rfl
    · next download _ same _ =>
        obtain rfl := Option.some.inj same
        exact converts_setDownload inside (.closed _)
  all_goals refine converts_same set rfl unissued ?_
  case createUpload | uploadPart | copyPart =>
    simp only [start, startCreate, startPart]
    repeat' split
    all_goals first | rfl | exact download_setUpload inside _
  case createLocalFile | delete =>
    simp only [start, startLocalFile, startDelete]
    repeat' split
    all_goals rfl
  all_goals rfl

include inside set in
lemma converts_report (given : Report)
    (unissued : ∀ index, (shared.report id given).2 ≠ .offering id .download index) :
    Converts (shared.report id given).1 id download (.reporting id given)
      (shared.report id given).2 := by
  have stays (silent : (Activity.reporting id given).written? = none)
      (same : ((shared.report id given).1.operation id).download =
        (shared.operation id).download) :
      Converts (shared.report id given).1 id download (.reporting id given)
        (shared.report id given).2 :=
    converts_same set silent unissued same
  cases given with
  | opened file =>
      rw [report_of_download set rfl]
      exact converts_setDownload inside (.opened file _)
  | partWritten range =>
      rw [report_of_download set rfl]
      exact converts_setDownload inside (.finished range _)
  | partLost side error began =>
      cases side with
      | download =>
          rw [report_of_download set rfl]
          exact converts_setDownload inside (.lost error began _)
      | upload =>
          refine stays rfl ?_
          unfold report
          dsimp only [sideOf]
          split
          · exact download_setUpload inside _
          · contradiction
          · rfl
  | _ =>
      refine stays rfl ?_
      unfold report
      dsimp only [sideOf]
      split <;> first | rfl | exact download_setUpload inside _

include inside set in
lemma converts_feed (side : Side) :
    Converts (shared.feed id side).1 id download (.feeding id side)
      (shared.feed id side).2 := by
  cases side with
  | upload =>
      simp only [feed]
      split
      · exact converts_same set rfl (by simp) (download_setUpload inside _)
      · exact converts_same set rfl (by simp) rfl
  | download =>
      simp only [feed, set, Option.bind_some]
      split
      · next handed => exact converts_setDownload inside (.handedOut handed)
      · exact converts_same set rfl (by simp) rfl

include inside set in
lemma converts_defer (side : Side) (index : Nat) :
    Converts (shared.defer id side index).1 id download (.deferring id side index)
      (shared.defer id side index).2 := by
  cases side with
  | upload =>
      simp only [defer]
      split
      · exact converts_same set rfl (by simp) (download_setUpload inside _)
      · exact converts_same set rfl (by simp) rfl
  | download =>
      simp only [defer, set, Option.bind_some]
      split
      · next back => exact converts_setDownload inside (.takenBack back)
      · exact converts_same set rfl (by simp) rfl

include inside set in
/-- What every turn makes of the download of its operation. -/
theorem converts_of_work (own : activity.operation? = some id)
    (work : shared.work surroundings activity = some (after, later)) :
    after.Converts id download activity later := by
  have follows := follows_of_work own work
  by_cases frame : activity.revises = false
  · have same : (after.operation id).download = (shared.operation id).download := by
      rw [operation, operations_of_work frame work]
      rfl
    refine converts_same set ?_ ?_ same
    · cases activity <;> first | rfl | cases frame
    · rintro index rfl
      rw [follows.of_offering] at frame
      cases frame
  · have unissued (unfed : ∀ side, activity ≠ .feeding id side) (index : Nat) :
        later ≠ .offering id .download index := by
      rintro rfl
      exact unfed .download follows.of_offering
    cases activity
    case starting own' chore =>
      obtain rfl := Option.some.inj own
      obtain ⟨rfl, rfl⟩ := Prod.mk.inj (Option.some.inj work)
      exact converts_start inside set chore (unissued (by simp))
    case reporting own' given =>
      obtain rfl := Option.some.inj own
      obtain ⟨rfl, rfl⟩ := Prod.mk.inj (Option.some.inj work)
      exact converts_report inside set given (unissued (by simp))
    case feeding own' side =>
      obtain rfl := Option.some.inj own
      obtain ⟨rfl, rfl⟩ := Prod.mk.inj (Option.some.inj work)
      exact converts_feed inside set side
    case deferring own' side index =>
      obtain rfl := Option.some.inj own
      obtain ⟨rfl, rfl⟩ := Prod.mk.inj (Option.some.inj work)
      exact converts_defer inside set side index
    all_goals exact absurd rfl frame

end Shared

/-- A turn leaves the number of the parts and how they are cut. -/
lemma Becomes.same_cut {id : OperationId} {download next : Download} {activity later : Activity}
    (becomes : Becomes id download activity later next) :
    next.chunksize = download.chunksize ∧ next.progress.total = download.progress.total := by
  have advance (download : Download) : download.advance.2.chunksize = download.chunksize := by
    unfold Download.advance
    split <;> rfl
  have total (progress : Progress) := progress.settled_same.2.2.2
  cases becomes with
  | same | opened | closed => exact ⟨rfl, rfl⟩
  | entered entered =>
      obtain ⟨file, -, entered⟩ := Option.bind_eq_some_iff.1 entered
      obtain ⟨progress, enters, same⟩ := Option.map_eq_some_iff.1 entered
      obtain ⟨-, rfl⟩ := Prod.mk.inj same
      obtain ⟨-, -, rfl⟩ := Progress.of_enter? enters
      exact ⟨rfl, rfl⟩
  | handedOut handed =>
      unfold Download.handOutPart? at handed
      split at handed
      · obtain ⟨⟨part, progress⟩, hands, same⟩ := Option.map_eq_some_iff.1 handed
        obtain ⟨rfl, rfl⟩ := Prod.mk.inj same
        obtain ⟨-, -, ⟨rest, -, rfl⟩ | ⟨-, -, -, rfl⟩⟩ := Progress.of_handOut? hands
        · exact ⟨rfl, rfl⟩
        · exact ⟨rfl, rfl⟩
      · cases handed
  | takenBack back =>
      obtain ⟨progress, puts, rfl⟩ := Option.map_eq_some_iff.1 back
      obtain ⟨-, rfl⟩ := Progress.of_putBack? puts
      exact ⟨rfl, rfl⟩
  | finished | lost =>
      refine ⟨advance _, ?_⟩
      exact (congrArg Progress.total (Download.progress_advance _)).trans (total _)

end Pool
end BulkTransfer
