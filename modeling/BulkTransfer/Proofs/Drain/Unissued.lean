import BulkTransfer.Proofs.Download.Conversion
import BulkTransfer.Proofs.Upload.Turn

/-!
# Parts that are not handed out

Of the parts of an operation some have yet to be handed out: those that never were, and those that
were put back. Their number goes down by one when a hand is given a part, up by one when it gives
the part back, and stays as it is in every other turn (`Shared.issues_of_work`).
-/

namespace BulkTransfer

open Pool Multipart

namespace Multipart.Progress

/-- The number of parts that have yet to be handed out. -/
def unissued (progress : Progress) : Nat :=
  progress.total - progress.next + progress.deferred.length

variable {progress after : Progress} {index : Nat}

lemma unissued_settled (progress : Progress) : progress.settled.unissued = progress.unissued := by
  obtain ⟨deferred, next, -, total⟩ := progress.settled_same
  rw [unissued, deferred, next, total, unissued]

lemma unissued_of_enter? (entered : progress.enter? = some after) :
    after.unissued = progress.unissued := by
  obtain ⟨-, -, rfl⟩ := of_enter? entered
  rfl

lemma unissued_of_handOut? (handed : progress.handOut? = some (index, after)) :
    after.unissued + 1 = progress.unissued := by
  obtain ⟨-, -, ⟨rest, deferred, rfl⟩ | ⟨-, -, left, rfl⟩⟩ := of_handOut? handed
  · simp only [unissued, deferred, List.length_cons]
    omega
  · simp only [unissued]
    omega

lemma unissued_of_putBack? (back : progress.putBack? index = some after) :
    after.unissued = progress.unissued + 1 := by
  obtain ⟨-, rfl⟩ := of_putBack? back
  simp only [unissued, List.length_cons]
  omega

end Multipart.Progress

namespace Multipart

lemma Upload.unissued_advance (upload : Upload) :
    upload.advance.2.progress.unissued = upload.progress.unissued := by
  cases last : upload.progress.claimEnd? with
  | none => rw [advance_of_none last]
  | some progress =>
      obtain ⟨-, -, rfl⟩ := Progress.of_claimEnd? last
      rw [advance_of_some last]
      rfl

lemma Upload.unissued_of_enterPart? {upload next : Upload} {uploadId : Option String}
    (entered : upload.enterPart? = some (uploadId, next)) :
    next.progress.unissued = upload.progress.unissued := by
  unfold enterPart? at entered
  split at entered
  · obtain ⟨progress, enters, same⟩ := Option.map_eq_some_iff.1 entered
    obtain ⟨-, rfl⟩ := Prod.mk.inj same
    exact Progress.unissued_of_enter? enters
  · cases entered

lemma Upload.unissued_of_handOutPart? {upload next : Upload} {index : Nat}
    (handed : upload.handOutPart? = some (index, next)) :
    next.progress.unissued + 1 = upload.progress.unissued := by
  unfold handOutPart? at handed
  split at handed
  · obtain ⟨⟨part, progress⟩, hands, same⟩ := Option.map_eq_some_iff.1 handed
    obtain ⟨-, rfl⟩ := Prod.mk.inj same
    exact Progress.unissued_of_handOut? hands
  · cases handed

lemma Upload.unissued_of_putBackPart? {upload next : Upload} {index : Nat}
    (back : upload.putBackPart? index = some next) :
    next.progress.unissued = upload.progress.unissued + 1 := by
  obtain ⟨progress, puts, rfl⟩ := Option.map_eq_some_iff.1 back
  exact Progress.unissued_of_putBack? puts

lemma Download.unissued_advance (download : Download) :
    download.advance.2.progress.unissued = download.progress.unissued := by
  rw [download.progress_advance, Progress.unissued_settled]

lemma Download.unissued_of_enterPart? {download next : Download} {file : Nat}
    (entered : download.enterPart? = some (file, next)) :
    next.progress.unissued = download.progress.unissued := by
  obtain ⟨opened, -, entered⟩ := Option.bind_eq_some_iff.1 entered
  obtain ⟨progress, enters, same⟩ := Option.map_eq_some_iff.1 entered
  obtain ⟨-, rfl⟩ := Prod.mk.inj same
  exact Progress.unissued_of_enter? enters

lemma Download.unissued_of_handOutPart? {download next : Download} {index : Nat}
    (handed : download.handOutPart? = some (index, next)) :
    next.progress.unissued + 1 = download.progress.unissued := by
  unfold handOutPart? at handed
  split at handed
  · obtain ⟨⟨part, progress⟩, hands, same⟩ := Option.map_eq_some_iff.1 handed
    obtain ⟨-, rfl⟩ := Prod.mk.inj same
    exact Progress.unissued_of_handOut? hands
  · cases handed

lemma Download.unissued_of_putBackPart? {download next : Download} {index : Nat}
    (back : download.putBackPart? index = some next) :
    next.progress.unissued = download.progress.unissued + 1 := by
  obtain ⟨progress, puts, rfl⟩ := Option.map_eq_some_iff.1 back
  exact Progress.unissued_of_putBack? puts

end Multipart

namespace Pool

/-- The number of parts of an operation that have yet to be handed out. -/
def Operation.unissued (operation : Operation) : Nat :=
  (operation.upload.map (·.progress.unissued)).getD 0 +
    (operation.download.map (·.progress.unissued)).getD 0

/-- What a turn makes of the parts that have yet to be handed out. -/
inductive Issues (id : OperationId) (before after : Operation) : Activity → Activity → Prop where
  | handedOut (side : Side) (index : Nat) (fewer : after.unissued + 1 = before.unissued) :
      Issues id before after (.feeding id side) (.offering id side index)
  | putBack (side : Side) (index : Nat) (more : after.unissued = before.unissued + 1) :
      Issues id before after (.deferring id side index) .idle
  | same {activity later : Activity} (unissued : ∀ side index, later ≠ .offering id side index)
      (same : after.unissued = before.unissued) : Issues id before after activity later

namespace Shared

variable {shared after : Shared} {id : OperationId} {upload : Upload} {download : Download}
  {activity later : Activity} {surroundings : Surroundings}
  (inside : id < shared.operations.length)

include inside

lemma unissued_setUpload (set : (shared.operation id).upload = some upload) (next : Upload) :
    ((shared.setUpload id next).operation id).unissued + upload.progress.unissued =
      (shared.operation id).unissued + next.progress.unissued := by
  rw [operation_setUpload inside]
  simp only [Operation.unissued, set, Option.map_some, Option.getD_some]
  omega

lemma unissued_setDownload (set : (shared.operation id).download = some download)
    (next : Download) :
    ((shared.setDownload id next).operation id).unissued + download.progress.unissued =
      (shared.operation id).unissued + next.progress.unissued := by
  rw [operation_setDownload inside]
  simp only [Operation.unissued, set, Option.map_some, Option.getD_some]
  omega

lemma issues_setUpload (set : (shared.operation id).upload = some upload) {next : Upload}
    (same : next.progress.unissued = upload.progress.unissued)
    (unissued : ∀ side index, later ≠ .offering id side index) :
    Issues id (shared.operation id) ((shared.setUpload id next).operation id) activity later := by
  refine .same unissued ?_
  have changed := unissued_setUpload inside set next
  omega

lemma issues_setDownload (set : (shared.operation id).download = some download)
    {next : Download} (same : next.progress.unissued = download.progress.unissued)
    (unissued : ∀ side index, later ≠ .offering id side index) :
    Issues id (shared.operation id) ((shared.setDownload id next).operation id) activity later := by
  refine .same unissued ?_
  have changed := unissued_setDownload inside set next
  omega

lemma issues_startPart (range : PartSpan) (fromObject : Bool) (chore : Chore)
    (unissued : ∀ side index, later ≠ .offering id side index) :
    Issues id (shared.operation id) ((shared.startPart id range fromObject).1.operation id)
      (.starting id chore) later := by
  unfold startPart
  dsimp only
  split
  · exact .same unissued rfl
  · next upload set =>
      split
      · exact .same unissued rfl
      · next next entered =>
          exact issues_setUpload inside set (Upload.unissued_of_enterPart? entered) unissued
      · next uploadId next entered =>
          exact issues_setUpload inside set (Upload.unissued_of_enterPart? entered) unissued

lemma issues_start (chore : Chore)
    (unissued : ∀ side index, (shared.start id chore).2 ≠ .offering id side index) :
    Issues id (shared.operation id) ((shared.start id chore).1.operation id)
      (.starting id chore) (shared.start id chore).2 := by
  generalize (shared.start id chore).2 = later at unissued
  cases chore
  case createUpload =>
    simp only [start, startCreate]
    split
    · exact .same unissued rfl
    · next upload set =>
        split
        · exact .same unissued rfl
        · next next claims =>
            unfold Upload.claimCreation? at claims
            split at claims
            · obtain rfl := Option.some.inj claims
              exact issues_setUpload inside set rfl unissued
            · cases claims
  case uploadPart range | copyPart range => exact issues_startPart inside range _ _ unissued
  case downloadPart range =>
    simp only [start, startDownloadPart]
    split
    · exact .same unissued rfl
    · next download set =>
        split
        · exact .same unissued rfl
        · next file next entered =>
            exact issues_setDownload inside set (Download.unissued_of_enterPart? entered) unissued
  case completeDownload =>
    simp only [start, startFinish]
    split
    · exact .same unissued rfl
    · exact .same unissued rfl
    · next download path set written => exact issues_setDownload inside set rfl unissued
  case createLocalFile | delete =>
    simp only [start, startLocalFile, startDelete]
    repeat' split
    all_goals exact .same unissued rfl
  all_goals exact .same unissued rfl

lemma issues_report (given : Report)
    (unissued : ∀ side index, (shared.report id given).2 ≠ .offering id side index) :
    Issues id (shared.operation id) ((shared.report id given).1.operation id)
      (.reporting id given) (shared.report id given).2 := by
  generalize (shared.report id given).2 = later at unissued
  unfold report
  dsimp only
  split
  · next upload _ set =>
      cases given
      case opened | partWritten => exact .same unissued rfl
      all_goals refine issues_setUpload inside set ?_ unissued
      case partDone => exact Upload.unissued_advance _
      case partLost _ _ began _ =>
        cases began with
        | true => exact Upload.unissued_advance _
        | false => exact Upload.unissued_advance _
      case completionFailed =>
        unfold Upload.completionFailed
        split <;> rfl
      all_goals rfl
  · next download _ set =>
      cases given
      case opened => exact issues_setDownload inside set rfl unissued
      case partWritten | partLost =>
        exact issues_setDownload inside set (Download.unissued_advance _) unissued
      all_goals exact .same unissued rfl
  · exact .same unissued rfl

lemma issues_feed (side : Side) :
    Issues id (shared.operation id) ((shared.feed id side).1.operation id) (.feeding id side)
      (shared.feed id side).2 := by
  cases side with
  | upload =>
      simp only [feed]
      split
      · next index next handed =>
          obtain ⟨upload, set, handed⟩ := Option.bind_eq_some_iff.1 handed
          have fewer := Upload.unissued_of_handOutPart? handed
          have changed := unissued_setUpload inside set next
          exact .handedOut .upload index (by dsimp only; omega)
      · exact .same (by simp) rfl
  | download =>
      simp only [feed]
      split
      · next index next handed =>
          obtain ⟨download, set, handed⟩ := Option.bind_eq_some_iff.1 handed
          have fewer := Download.unissued_of_handOutPart? handed
          have changed := unissued_setDownload inside set next
          exact .handedOut .download index (by dsimp only; omega)
      · exact .same (by simp) rfl

lemma issues_defer (side : Side) (index : Nat) :
    Issues id (shared.operation id) ((shared.defer id side index).1.operation id)
      (.deferring id side index) (shared.defer id side index).2 := by
  cases side with
  | upload =>
      simp only [defer]
      split
      · next next back =>
          obtain ⟨upload, set, back⟩ := Option.bind_eq_some_iff.1 back
          have more := Upload.unissued_of_putBackPart? back
          have changed := unissued_setUpload inside set next
          exact .putBack .upload index (by dsimp only; omega)
      · exact .same (by simp) rfl
  | download =>
      simp only [defer]
      split
      · next next back =>
          obtain ⟨download, set, back⟩ := Option.bind_eq_some_iff.1 back
          have more := Download.unissued_of_putBackPart? back
          have changed := unissued_setDownload inside set next
          exact .putBack .download index (by dsimp only; omega)
      · exact .same (by simp) rfl

/-- What every turn makes of the parts of its operation that have yet to be handed out. -/
theorem issues_of_work (own : activity.operation? = some id)
    (work : shared.work surroundings activity = some (after, later)) :
    Issues id (shared.operation id) (after.operation id) activity later := by
  have follows := follows_of_work own work
  have unissued (unfed : ∀ side, activity ≠ .feeding id side) (side : Side) (index : Nat) :
      later ≠ .offering id side index := by
    rintro rfl
    exact unfed side follows.of_offering
  by_cases frame : activity.revises = false
  · refine .same (unissued ?_) ?_
    · rintro side rfl
      cases frame
    · rw [operation, operations_of_work frame work]
      rfl
  · cases activity
    case starting own' chore =>
      obtain rfl := Option.some.inj own
      obtain ⟨rfl, rfl⟩ := Prod.mk.inj (Option.some.inj work)
      exact issues_start inside chore (unissued (by simp))
    case reporting own' given =>
      obtain rfl := Option.some.inj own
      obtain ⟨rfl, rfl⟩ := Prod.mk.inj (Option.some.inj work)
      exact issues_report inside given (unissued (by simp))
    case feeding own' side =>
      obtain rfl := Option.some.inj own
      obtain ⟨rfl, rfl⟩ := Prod.mk.inj (Option.some.inj work)
      exact issues_feed inside side
    case deferring own' side index =>
      obtain rfl := Option.some.inj own
      obtain ⟨rfl, rfl⟩ := Prod.mk.inj (Option.some.inj work)
      exact issues_defer inside side index
    all_goals exact absurd rfl frame

end Shared
end Pool
end BulkTransfer
