import BulkTransfer.Proofs.Alone

/-!
# Turns at the parts of a download

What a turn of a hand at the parts of a download can do, to the parts and to the file system: it
brings parts into the queue, skips or enters a part, fetches it, writes what was fetched piece by
piece, and reports what came of it. The last report to wait for leaves the hand that finishes the
download.
-/

namespace BulkTransfer

open Pool Multipart

namespace Multipart.Download

variable {download : Download} {progress : Progress}

lemma advance_of_none (h : download.progress.claimEnd? = none) :
    download.advance = (false, download) := by
  rw [advance, h]

lemma advance_of_some (h : download.progress.claimEnd? = some progress) :
    download.advance = (true, { download with progress := progress }) := by
  rw [advance, h]

/-- While the file is open, and when no part is begun any more, the progress alone decides what is
entered. -/
lemma enterPart?_of_none (h : download.progress.enter? = none) : download.enterPart? = none := by
  cases file : download.file with
  | none => rw [enterPart?, file]; rfl
  | some file' => rw [enterPart?, file, h]; rfl

lemma enterPart?_of_some {file : FileId} (isOpen : download.file = some file)
    (h : download.progress.enter? = some progress) :
    download.enterPart? = some (file, { download with progress := progress }) := by
  rw [enterPart?, isOpen, h]
  rfl

end Multipart.Download

namespace Pool

/-- Whether a hand is one at the parts of a download. -/
def Activity.isLoading (id : OperationId) : Activity → Prop
  | .feeding own side => own = id ∧ side = .download
  | .offering own side _ | .deferring own side _ | .forcing own side _ =>
      own = id ∧ side = .download
  | .starting own (.downloadPart _) => own = id
  | .sending own (.fetchPart _ _) _ _ | .awaiting own (.fetchPart _ _) _ _ => own = id
  | .writing own (.part _) _ _ _ _ => own = id
  | .reporting own (.partWritten _) => own = id
  | .reporting own (.partLost side _ _) => own = id ∧ side = .download
  | _ => False

/-- A turn at the parts of a download, when the file system is `disk` and a call is answered with
`given`. -/
inductive DownloadTurn (operation : Operation) (id : OperationId) (download : Download)
    (disk : Disk) (barred : Nat → Prop) (given : Answer) :
    Activity → Download → Disk → List Event → Multiset Activity → Prop where
  | queued {activity : Activity} {progress : Progress} {left : Multiset Activity}
      (queueing : Queueing operation id .download barred download.progress activity progress left) :
      DownloadTurn operation id download disk barred given activity
        { download with progress := progress } disk [] left
  | skipped {range : PartSpan} (closed : download.progress.enter? = none) :
      DownloadTurn operation id download disk barred given (.starting id (.downloadPart range))
        download disk [] 0
  | entered {range : PartSpan} {file : FileId} {progress : Progress} {later : Activity}
      (isOpen : download.file = some file) (entered : download.progress.enter? = some progress)
      (begins : (∃ call, operation.fetchPartCall range = .ok call ∧
          later = .sending id (.fetchPart range file) operation.sourceStore call) ∨
        ∃ error, operation.fetchPartCall range = .error error ∧
          later = .reporting id (.partLost .download error true)) :
      DownloadTurn operation id download disk barred given (.starting id (.downloadPart range))
        { download with progress := progress } disk [] {later}
  | sent (range : PartSpan) (file : FileId) (store : StoreName) (call : Call) :
      DownloadTurn operation id download disk barred given
        (.sending id (.fetchPart range file) store call) download disk
        [.called store id call] {.awaiting id (.fetchPart range file) store call}
  | fetched {range : PartSpan} {file : FileId} {store : StoreName} {call : Call} {body : Reader}
      {path : LocalPath} (has : Shared.seen call given = .reply (.object (some body)))
      (written : operation.fileWritten = .ok path) :
      DownloadTurn operation id download disk barred given
        (.awaiting id (.fetchPart range file) store call) download disk
        [.answered store id call (Shared.seen call given)]
        {.writing id (.part range) path file range.first body}
  | unfetched {range : PartSpan} {file : FileId} {store : StoreName} {call : Call}
      (error : Failure) (lacks : ∀ body path,
        Shared.seen call given = .reply (.object (some body)) → operation.fileWritten ≠ .ok path) :
      DownloadTurn operation id download disk barred given
        (.awaiting id (.fetchPart range file) store call) download disk
        [.answered store id call (Shared.seen call given)]
        {.reporting id (.partLost .download error true)}
  | waited (range : PartSpan) (path : LocalPath) (file : FileId) (offset : Nat) (rest : Reader) :
      DownloadTurn operation id download disk barred given
        (.writing id (.part range) path file offset (.interrupted :: rest)) download disk []
        {.writing id (.part range) path file offset rest}
  | wrote {range : PartSpan} {path : LocalPath} {file : FileId} {offset : Nat} {bytes : Bytes}
      {rest : Reader} (filled : bytes ≠ [])
      (fits : disk.format.writeRefusal? offset bytes.length = none) :
      DownloadTurn operation id download disk barred given
        (.writing id (.part range) path file offset (.piece bytes :: rest)) download
        (disk.write file offset bytes) [.wrote id (.part range) file offset bytes]
        {.writing id (.part range) path file (offset + bytes.length) rest}
  | unwritten {range : PartSpan} {path : LocalPath} {file : FileId} {offset : Nat} {bytes : Bytes}
      {rest : Reader} {cause : IoCause} (filled : bytes ≠ [])
      (refused : disk.format.writeRefusal? offset bytes.length = some cause) :
      DownloadTurn operation id download disk barred given
        (.writing id (.part range) path file offset (.piece bytes :: rest)) download
        (disk.write file offset bytes)
        [.wrote id (.part range) file offset (disk.format.fitting offset bytes)]
        {.reporting id (.partLost .download (.io path cause) true)}
  | broken (range : PartSpan) (path : LocalPath) (file : FileId) (offset : Nat)
      (message : String) (rest : Reader) :
      DownloadTurn operation id download disk barred given
        (.writing id (.part range) path file offset (.failure message :: rest)) download disk []
        {.reporting id (.partLost .download (.io path (.stated message)) true)}
  | written {range : PartSpan} {path : LocalPath} {file : FileId} {offset : Nat} {body : Reader}
      (spent : body = [] ∨ ∃ rest, body = .piece [] :: rest) :
      DownloadTurn operation id download disk barred given
        (.writing id (.part range) path file offset body) download disk []
        {.reporting id (.partWritten range)}
  | done {range : PartSpan} (pending : download.progress.partFinished.claimEnd? = none) :
      DownloadTurn operation id download disk barred given (.reporting id (.partWritten range))
        { download with progress := download.progress.partFinished } disk []
        {.feeding id .download}
  | doneLast {range : PartSpan} {progress : Progress}
      (last : download.progress.partFinished.claimEnd? = some progress) :
      DownloadTurn operation id download disk barred given (.reporting id (.partWritten range))
        { download with progress := progress } disk [] {.following id .finish}
  | lost {error : Failure} {began : Bool}
      (pending : (download.progress.partLost error.message began).claimEnd? = none) :
      DownloadTurn operation id download disk barred given
        (.reporting id (.partLost .download error began))
        { download with progress := download.progress.partLost error.message began } disk [] 0
  | lostLast {error : Failure} {began : Bool} {progress : Progress}
      (last : (download.progress.partLost error.message began).claimEnd? = some progress) :
      DownloadTurn operation id download disk barred given
        (.reporting id (.partLost .download error began))
        { download with progress := progress } disk [] {.following id .finish}

/-- Whether the step of a hand is a turn at the parts of a download. -/
def Shared.TurnsDownload (shared after : Shared) (id : OperationId) (download : Download)
    (barred : Nat → Prop) (given : Answer) (activity later : Activity) : Prop :=
  ∃ next notes left,
    DownloadTurn (shared.operation id) id download shared.disk barred given activity next after.disk
        notes left ∧
      shared.Turned after id later { shared.operation id with download := some next } notes left

section

open Shared

variable {shared : Shared} {id : OperationId} {download : Download}
  (inside : id < shared.operations.length)
  (set : (shared.operation id).download = some download)
  (gate : download.file.isSome ∨ download.progress.endClaimed = true) (barred : Nat → Prop)
  (given : Answer)

include set in
lemma set_download_same :
    { shared.operation id with download := some download } = shared.operation id := by
  rw [← set]

include inside set in
lemma turned_stayDownload {later : Activity} (own : later.operation? = some id) :
    shared.Turned shared id later { shared.operation id with download := some download } []
      {later} := by
  rw [set_download_same set]
  exact .stay inside own

include inside set gate in
lemma downloadTurn_start (range : PartSpan) :
    shared.TurnsDownload (shared.startDownloadPart id range).1 id download barred given
      (.starting id (.downloadPart range)) (shared.startDownloadPart id range).2 := by
  unfold startDownloadPart
  simp only [set]
  cases entered : download.progress.enter? with
  | none =>
      rw [Download.enterPart?_of_none entered]
      refine ⟨download, [], 0, .skipped entered, ?_⟩
      rw [set_download_same set]
      exact .rest inside
  | some progress =>
      obtain ⟨-, unclaimed, -⟩ := Progress.of_enter? entered
      have isSome : download.file.isSome := by
        refine gate.resolve_right fun claimed => ?_
        rw [unclaimed] at claimed
        cases claimed
      obtain ⟨file, isOpen⟩ := Option.isSome_iff_exists.1 isSome
      rw [Download.enterPart?_of_some isOpen entered]
      cases made : (shared.operation id).fetchPartCall range with
      | ok call =>
          exact ⟨_, _, _, .entered isOpen entered (.inl ⟨call, made, rfl⟩),
            .of_changed (.ofDownload _) rfl⟩
      | error error =>
          exact ⟨_, _, _, .entered isOpen entered (.inr ⟨error, made, rfl⟩),
            .of_changed (.ofDownload _) rfl⟩

/-- What follows the call for a part is told by whether there is a body, and a path to write to. -/
lemma afterFetch (operation : Operation) (range : PartSpan) (file : FileId) (answer : Answer) :
    (∃ body path, answer = .reply (.object (some body)) ∧ operation.fileWritten = .ok path ∧
        afterAnswer operation id (.fetchPart range file) answer =
          .writing id (.part range) path file range.first body) ∨
      (∀ body path, answer = .reply (.object (some body)) → operation.fileWritten ≠ .ok path) ∧
        ∃ error, afterAnswer operation id (.fetchPart range file) answer =
          .reporting id (.partLost .download error true) := by
  cases answer with
  | failed error => exact .inr ⟨nofun, error, rfl⟩
  | panicked message => exact .inr ⟨nofun, .panicked message, rfl⟩
  | reply reply =>
      cases reply
      case object body =>
        cases body with
        | none => exact .inr ⟨nofun, _, rfl⟩
        | some body =>
            cases destination : operation.fileWritten with
            | ok path =>
                refine .inl ⟨body, path, rfl, rfl, ?_⟩
                simp [afterAnswer, afterReply, destination]
            | error error =>
                refine .inr ⟨fun _ _ _ => nofun, error, ?_⟩
                simp [afterAnswer, afterReply, destination]
      all_goals exact .inr ⟨nofun, _, rfl⟩

include inside set in
lemma downloadTurn_receive (range : PartSpan) (file : FileId) (store : StoreName) (call : Call) :
    shared.TurnsDownload (shared.receive id (.fetchPart range file) store call given).1 id download
      barred given (.awaiting id (.fetchPart range file) store call)
      (shared.receive id (.fetchPart range file) store call given).2 := by
  obtain ⟨turned, goes⟩ := turned_receive inside (.fetchPart range file) store call given
  rw [← set_download_same set] at turned
  rcases @afterFetch id (shared.operation id) range file (seen call given) with
    ⟨body, path, has, written, later⟩ | ⟨lacks, error, later⟩
  · rw [later] at goes
    refine ⟨download, _, _, .fetched has written, ?_⟩
    rw [goes] at turned ⊢
    exact turned
  · rw [later] at goes
    refine ⟨download, _, _, .unfetched error lacks, ?_⟩
    rw [goes] at turned ⊢
    exact turned

include inside set in
lemma downloadTurn_write (range : PartSpan) (path : LocalPath) (file : FileId) (offset : Nat)
    (body : Reader) :
    shared.TurnsDownload (shared.write id (.part range) path file offset body).1 id download barred
      given (.writing id (.part range) path file offset body)
      (shared.write id (.part range) path file offset body).2 := by
  unfold write
  split
  · exact ⟨_, _, _, .written (.inl rfl), turned_stayDownload inside set rfl⟩
  · exact ⟨_, _, _, .waited .., turned_stayDownload inside set rfl⟩
  · exact ⟨_, _, _, .broken .., turned_stayDownload inside set rfl⟩
  · next bytes rest =>
      split
      · next empty =>
          obtain rfl := List.isEmpty_iff.1 empty
          exact ⟨_, _, _, .written (.inr ⟨rest, rfl⟩), turned_stayDownload inside set rfl⟩
      · next filled =>
          have filled : bytes ≠ [] := fun empty => filled (List.isEmpty_iff.2 empty)
          have wrote {bytes : Bytes} {disk : Disk} {later : Activity}
              (own : later.operation? = some id) :
              (shared.Turned (({ shared with disk := disk } : Shared).note
                (.wrote id (.part range) file offset bytes)) id later
                { shared.operation id with download := some download }
                [.wrote id (.part range) file offset bytes] {later}) := by
            rw [set_download_same set]
            exact .of_changed (.ofNote inside disk rfl (by simp)) own
          cases refusal : shared.disk.format.writeRefusal? offset bytes.length with
          | none =>
              rw [DiskFormat.fitting_eq_self _ offset bytes refusal]
              exact ⟨_, _, _, .wrote filled refusal, wrote rfl⟩
          | some cause => exact ⟨_, _, _, .unwritten filled refusal, wrote rfl⟩

include set in
lemma report_of_download {report : Report} (side : sideOf report = .download) :
    shared.report id report = shared.reportDownload id download report := by
  cases report <;> simp_all [Shared.report, sideOf]

include set in
lemma downloadTurn_done (range : PartSpan) :
    shared.TurnsDownload (shared.report id (.partWritten range)).1 id download barred given
      (.reporting id (.partWritten range)) (shared.report id (.partWritten range)).2 := by
  rw [report_of_download set rfl]
  simp only [reportDownload]
  cases last : download.progress.partFinished.claimEnd? with
  | none =>
      have finished : download.partFinished = (false, _) := Download.advance_of_none last
      rw [finished]
      exact ⟨_, _, _, .done last, .of_changed (.ofDownload _) rfl⟩
  | some progress =>
      have finished : download.partFinished = (true, _) := Download.advance_of_some last
      rw [finished]
      exact ⟨_, _, _, .doneLast last, .of_changed (.ofDownload _) rfl⟩

include set in
lemma downloadTurn_lost (error : Failure) (began : Bool) :
    shared.TurnsDownload (shared.report id (.partLost .download error began)).1 id download barred
      given (.reporting id (.partLost .download error began))
      (shared.report id (.partLost .download error began)).2 := by
  rw [report_of_download set rfl]
  simp only [reportDownload]
  cases last : (download.progress.partLost error.message began).claimEnd? with
  | none =>
      have lost : download.partLost error.message began = (false, _) :=
        Download.advance_of_none last
      rw [lost]
      exact ⟨_, _, _, .lost last, .of_changed_idle (.ofDownload _)⟩
  | some progress =>
      have lost : download.partLost error.message began = (true, _) :=
        Download.advance_of_some last
      rw [lost]
      exact ⟨_, _, _, .lostLast last, .of_changed (.ofDownload _) rfl⟩

end

/-- Bringing parts into the queue leaves the file system. -/
lemma disk_of_queueing {shared after : Shared} {id : OperationId} {side : Side}
    {surroundings : Surroundings} {activity later : Activity}
    (queues : activity.isQueueing id side)
    (work : shared.work surroundings activity = some (after, later)) :
    after.disk = shared.disk := by
  cases activity
  case feeding own at_ =>
    obtain rfl := congrArg Prod.fst (Option.some.inj work)
    cases at_ <;> simp only [Shared.feed] <;> split <;> rfl
  case deferring own at_ index =>
    obtain rfl := congrArg Prod.fst (Option.some.inj work)
    cases at_ <;> simp only [Shared.defer] <;> split <;> rfl
  case offering own at_ index =>
    obtain rfl := congrArg Prod.fst (Option.some.inj work)
    simp only [Shared.offer]
    split <;> rfl
  case forcing own at_ index =>
    obtain rfl := congrArg Prod.fst (Option.some.inj work)
    simp only [Shared.force]
    split <;> rfl
  all_goals cases queues

/-- What a turn of a hand at the parts of a download does. -/
lemma downloadTurn_of_work {shared after : Shared} {id : OperationId} {download : Download}
    {surroundings : Surroundings} {activity later : Activity}
    (inside : id < shared.operations.length)
    (set : (shared.operation id).download = some download)
    (gate : download.file.isSome ∨ download.progress.endClaimed = true)
    (loading : activity.isLoading id)
    (work : shared.work surroundings activity = some (after, later)) :
    shared.TurnsDownload after id download
      (fun index => shared.Bars surroundings
        (Activity.partEntry (shared.operation id) id .download index))
      surroundings.answer activity later := by
  have queue (queues : activity.isQueueing id .download) :
      shared.TurnsDownload after id download
        (fun index => shared.Bars surroundings
          (Activity.partEntry (shared.operation id) id .download index))
        surroundings.answer activity later := by
    have governs : (shared.operation id).Governs download.progress .download :=
      ⟨download, set, rfl, gate⟩
    obtain ⟨progress, left, queueing, turned⟩ := queueing_of_work inside governs queues work
    simp only [Operation.withProgress, set, Option.map_some] at turned
    refine ⟨_, _, left, ?_, turned⟩
    rw [disk_of_queueing queues work]
    exact .queued queueing
  cases activity
  case feeding | offering | deferring | forcing => exact queue loading
  case starting own chore =>
    cases chore
    case downloadPart range =>
      obtain rfl := loading
      obtain ⟨rfl, rfl⟩ := Prod.mk.inj (Option.some.inj work)
      exact downloadTurn_start inside set gate _ surroundings.answer range
    all_goals cases loading
  case sending own errand store call =>
    cases errand
    case fetchPart range file =>
      obtain rfl := loading
      obtain ⟨rfl, rfl⟩ := Prod.mk.inj (Option.some.inj work)
      refine ⟨download, _, _, .sent range file store call, ?_⟩
      rw [set_download_same set]
      exact turned_call inside ..
    all_goals cases loading
  case awaiting own errand store call =>
    cases errand
    case fetchPart range file =>
      obtain rfl := loading
      obtain ⟨rfl, rfl⟩ := Prod.mk.inj (Option.some.inj work)
      exact downloadTurn_receive inside set _ surroundings.answer range file store call
    all_goals cases loading
  case writing own extent path file offset body =>
    cases extent
    case part range =>
      obtain rfl := loading
      obtain ⟨rfl, rfl⟩ := Prod.mk.inj (Option.some.inj work)
      exact downloadTurn_write inside set _ surroundings.answer range path file offset body
    all_goals cases loading
  case reporting own report =>
    cases report
    case partWritten range =>
      obtain rfl := loading
      obtain ⟨rfl, rfl⟩ := Prod.mk.inj (Option.some.inj work)
      exact downloadTurn_done set _ surroundings.answer range
    case partLost side error began =>
      obtain ⟨rfl, rfl⟩ := loading
      obtain ⟨rfl, rfl⟩ := Prod.mk.inj (Option.some.inj work)
      exact downloadTurn_lost set _ surroundings.answer error began
    all_goals cases loading
  all_goals cases loading

end Pool
end BulkTransfer
