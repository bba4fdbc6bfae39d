import BulkTransfer.Proofs.Solo.LoneOperation
import BulkTransfer.Proofs.Upload.Turn

/-!
# The parts of a lone operation in order

A single worker brings the parts of an operation into the queue in the order of their indexes, and
one that the queue had no room for is put back in front of those never handed out. So the parts
follow one another wherever they are (`Multipart.Progress.Orderly`), and the next one to be entered
is the first that has not succeeded.
-/

namespace BulkTransfer

open Pool Multipart

namespace Multipart.Progress

/-- Whether the parts of a lone operation are in order: those in the queue, the one that is being
queued, those put back, and those never handed out follow one another from the first that has not
succeeded, or from the one after it while that one runs. -/
structure Orderly (progress : Progress) (busy : Nat) (queued claimed : List Nat) : Prop where
  sound : progress.failure = none
  unclaimed : progress.endClaimed = false
  running : progress.running = busy
  left : progress.succeeded < progress.total
  outstanding : progress.outstanding = queued.length + busy + claimed.length
  order : queued ++ claimed ++ progress.deferred ++
      List.range' progress.next (progress.total - progress.next) =
    List.range' (progress.succeeded + busy) (progress.total - (progress.succeeded + busy))

/-- Progress of one gist has the same parts, and as many of them have succeeded. -/
lemma counts_of_gist {progress other : Progress} (same : other.gist = progress.gist) :
    other.total = progress.total ∧ other.succeeded = progress.succeeded := by
  have total := congrArg Progress.total same
  have succeeded := congrArg Progress.succeeded same
  exact ⟨total, succeeded⟩

/-- A loss closes the parts when no other part runs. -/
lemma claimEnd?_partLost {progress : Progress} {reason : String} {began : Bool}
    (unclaimed : progress.endClaimed = false)
    (idle : (progress.partLost reason began).running = 0) :
    ∃ after, (progress.partLost reason began).claimEnd? = some after ∧
      after.failure ≠ none ∧ after.endClaimed = true := by
  have done : (progress.partLost reason began).isDone = true := by
    rw [isDone_of_failure (failure_partLost began)]
    exact decide_eq_true idle
  have unclaimed : (progress.partLost reason began).endClaimed = false := unclaimed
  refine ⟨{ progress.partLost reason began with endClaimed := true }, ?_, failure_partLost began,
    rfl⟩
  simp [claimEnd?, done, unclaimed]

namespace Orderly

variable {progress after : Progress} {busy index : Nat} {queued claimed : List Nat}
  {reason : String}

/-- The parts before any of them is handed out. -/
lemma fresh {total : Nat} (several : 0 < total) :
    Orderly { total := total } 0 [] [] where
  sound := rfl
  unclaimed := rfl
  running := rfl
  left := several
  outstanding := rfl
  order := rfl

lemma handOut (orderly : progress.Orderly 0 queued [])
    (handed : progress.handOut? = some (index, after)) :
    after.Orderly 0 queued [index] ∧ after.gist = progress.gist := by
  have ⟨sound, unclaimed, running, left, outstanding, order⟩ := orderly
  obtain ⟨-, -, way⟩ := of_handOut? handed
  -- The next part is the first of those put back, or of those never handed out if none was.
  rcases way with ⟨rest, deferred, rfl⟩ | ⟨deferred, rfl, more, rfl⟩
  · refine ⟨⟨sound, unclaimed, running, left, ?_, ?_⟩, rfl⟩
    · simp [outstanding]
    · simpa [deferred] using order
  · refine ⟨⟨sound, unclaimed, running, left, ?_, ?_⟩, rfl⟩
    · simp [outstanding]
    · have head : List.range' progress.next (progress.total - progress.next) =
          progress.next :: List.range' (progress.next + 1)
            (progress.total - (progress.next + 1)) := by
        rw [← List.range'_succ]
        congr 1
        omega
      rw [head] at order
      simpa [deferred] using order

/-- When no part is left to be handed out, one is in the queue. -/
lemma queued_ne_nil (orderly : progress.Orderly 0 queued [])
    (empty : progress.handOut? = none) : queued ≠ [] := by
  obtain ⟨deferred, all⟩ := of_handOut?_eq_none empty orderly.sound orderly.unclaimed
  rintro rfl
  have length := congrArg List.length orderly.order
  have left := orderly.left
  simp [deferred] at length
  omega

/-- A part that comes into the queue is the next one there. -/
lemma enqueue (orderly : progress.Orderly 0 queued [index]) :
    progress.Orderly 0 (queued ++ [index]) [] := by
  have ⟨sound, unclaimed, running, left, outstanding, order⟩ := orderly
  refine ⟨sound, unclaimed, running, left, ?_, ?_⟩
  · simpa using outstanding
  · simpa using order

lemma putBack (orderly : progress.Orderly 0 queued [index])
    (back : progress.putBack? index = some after) :
    after.Orderly 0 queued [] ∧ queued ≠ [] ∧ after.gist = progress.gist := by
  have ⟨sound, unclaimed, running, left, outstanding, order⟩ := orderly
  obtain ⟨several, rfl⟩ := of_putBack? back
  refine ⟨⟨sound, unclaimed, running, left, ?_, ?_⟩, ?_, rfl⟩
  · simp [outstanding]
  · simpa using order
  -- A part is put back only while others are outstanding, and none of them runs.
  · rintro rfl
    simp at outstanding
    omega

/-- The first part in the queue is the first that has not succeeded. -/
lemma head (orderly : progress.Orderly 0 (index :: queued) []) : index = progress.succeeded := by
  have order := orderly.order
  have left := orderly.left
  obtain ⟨more, same⟩ : ∃ more, progress.total - progress.succeeded = more + 1 :=
    ⟨progress.total - progress.succeeded - 1, by omega⟩
  rw [Nat.add_zero, same, List.range'_succ] at order
  exact (List.cons.inj order).1

lemma enter (orderly : progress.Orderly 0 (index :: queued) []) :
    progress.enter? = some { progress with running := progress.running + 1 } ∧
      Orderly { progress with running := progress.running + 1 } 1 queued [] := by
  have head := orderly.head
  have ⟨sound, unclaimed, running, left, outstanding, order⟩ := orderly
  refine ⟨?_, sound, unclaimed, by simp [running], left, ?_, ?_⟩
  · simp [enter?, isClosed, sound, unclaimed]
  · simp [outstanding]
  · obtain ⟨more, same⟩ : ∃ more, progress.total - progress.succeeded = more + 1 :=
      ⟨progress.total - progress.succeeded - 1, by omega⟩
    rw [Nat.add_zero, same, List.range'_succ] at order
    have rest := (List.cons.inj order).2
    have count : progress.total - (progress.succeeded + 1) = more := by omega
    rw [count]
    exact rest

/-- A part has succeeded, and more are left. -/
lemma finish (orderly : progress.Orderly 1 queued [])
    (pending : progress.partFinished.claimEnd? = none) :
    progress.partFinished.Orderly 0 queued [] := by
  have ⟨sound, unclaimed, running, left, outstanding, order⟩ := orderly
  have waiting : progress.partFinished.isDone = false := by
    rcases of_claimEnd?_eq_none pending with claimed | waiting
    · rw [show progress.partFinished.endClaimed = false from unclaimed] at claimed
      cases claimed
    · exact waiting
  rw [isDone_of_no_failure (show progress.partFinished.failure = none from sound)] at waiting
  have waiting : progress.succeeded + 1 ≠ progress.total := of_decide_eq_false waiting
  refine ⟨sound, unclaimed, ?_, ?_, ?_, order⟩
  · simp [partFinished, running]
  · simp only [partFinished]
    omega
  · simp [partFinished, outstanding]

/-- The last part has succeeded: none is in the queue any more. -/
lemma finishLast (orderly : progress.Orderly 1 queued [])
    (last : progress.partFinished.claimEnd? = some after) :
    queued = [] ∧ after.failure = none := by
  obtain ⟨-, done, rfl⟩ := of_claimEnd? last
  have sound : progress.partFinished.failure = none := orderly.sound
  rw [isDone_of_no_failure sound] at done
  have done : progress.succeeded + 1 = progress.total := of_decide_eq_true done
  have length := congrArg List.length orderly.order
  refine ⟨?_, sound⟩
  simp at length
  exact List.eq_nil_of_length_eq_zero (by omega)

/-- A part that fails ends the operation at once: no other part runs. -/
lemma lose (orderly : progress.Orderly 1 queued []) :
    ∃ after, (progress.partLost reason true).claimEnd? = some after ∧
      after.failure ≠ none ∧ after.endClaimed = true :=
  claimEnd?_partLost orderly.unclaimed (by simp [partLost, markFailed, orderly.running])

/-- A part that the queue refuses ends the operation at once. -/
lemma refuse (orderly : progress.Orderly 0 queued claimed) :
    ∃ after, (progress.partLost reason false).claimEnd? = some after ∧
      after.failure ≠ none ∧ after.endClaimed = true :=
  claimEnd?_partLost orderly.unclaimed orderly.running

end Orderly
end Multipart.Progress

namespace Pool

/-- The side of the part that is being moved in an activity. -/
def Activity.moves? : Activity → Option Side
  | .reading .. => some .upload
  | .sending _ errand .. | .awaiting _ errand .. => errand.partSide?
  | .writing _ (.part _) .. => some .download
  | .reporting _ (.partDone ..) => some .upload
  | .reporting _ (.partWritten _) => some .download
  | .reporting _ (.partLost side _ true) => some side
  | _ => none

namespace Operation

/-- Whether the parts on one side are under way, with the given progress. -/
def Flows (operation : Operation) (progress : Progress) : Side → Prop
  | .upload => ∃ upload uploadId, operation.upload = some upload ∧ upload.phase = .partsInFlight ∧
      upload.uploadId = some uploadId ∧ upload.progress = progress
  | .download => ∃ download file, operation.download = some download ∧
      download.file = some file ∧ download.progress = progress

variable {operation : Operation} {progress other : Progress} {side : Side}

lemma Flows.progress? (flows : operation.Flows progress side) :
    operation.progress? side = some progress := by
  cases side with
  | upload =>
      obtain ⟨upload, uploadId, set, -, -, rfl⟩ := flows
      simp [Operation.progress?, set]
  | download =>
      obtain ⟨download, file, set, -, rfl⟩ := flows
      simp [Operation.progress?, set]

lemma Flows.following (flows : operation.Flows progress side) :
    operation.following side = operation.moving side progress.succeeded := by
  rw [Operation.following, flows.progress?]
  rfl

lemma Flows.withProgress (flows : operation.Flows progress side) :
    (operation.withProgress other side).Flows other side := by
  cases side with
  | upload =>
      obtain ⟨upload, uploadId, set, phase, known, rfl⟩ := flows
      exact ⟨{ upload with progress := other }, uploadId, by simp [Operation.withProgress, set],
        phase, known, rfl⟩
  | download =>
      obtain ⟨download, file, set, opened, rfl⟩ := flows
      exact ⟨{ download with progress := other }, file, by simp [Operation.withProgress, set],
        opened, rfl⟩

lemma moving_withProgress :
    (operation.withProgress other side).moving side = operation.moving side := by
  funext index
  cases side with
  | upload =>
      cases set : operation.upload <;>
        simp [moving, Activity.partChore, span, chunksize, Operation.withProgress, set]
  | download =>
      cases set : operation.download <;>
        simp [moving, Activity.partChore, span, chunksize, Operation.withProgress, set]

lemma gist_withProgress (flows : operation.Flows progress side)
    (same : other.gist = progress.gist) :
    (operation.withProgress other side).gist = operation.gist := by
  cases side with
  | upload =>
      obtain ⟨upload, uploadId, set, -, -, rfl⟩ := flows
      simp [Operation.withProgress, gist, set, Upload.gist, same]
  | download =>
      obtain ⟨download, file, set, -, rfl⟩ := flows
      simp [Operation.withProgress, gist, set, Download.gist, same]

end Operation

namespace Shared

/-- The state with the progress of an operation changed on one side. -/
def setProgress (shared : Shared) (id : OperationId) (side : Side) (progress : Progress) : Shared :=
  { shared with
    operations := shared.operations.modify id fun operation =>
      operation.withProgress progress side }

variable {shared : Shared} {id : OperationId} {side : Side} {progress other : Progress}

lemma operation_setProgress (inside : id < shared.operations.length) :
    (shared.setProgress id side progress).operation id =
      (shared.operation id).withProgress progress side := by
  simp [setProgress, operation, List.getD_eq_getElem?_getD, inside]

lemma modify_congr {revise other : Operation → Operation}
    (same : revise (shared.operation id) = other (shared.operation id)) :
    shared.operations.modify id revise = shared.operations.modify id other := by
  refine List.ext_getElem? fun index => ?_
  rw [List.getElem?_modify, List.getElem?_modify]
  rw [operation, List.getD_eq_getElem?_getD] at same
  cases at_ : shared.operations[index]? with
  | none => rfl
  | some found =>
      by_cases own : id = index
      · subst own
        rw [at_, Option.getD_some] at same
        simp [same]
      · simp [own]

lemma setUpload_progress {upload : Upload} (set : (shared.operation id).upload = some upload) :
    shared.setUpload id { upload with progress := progress } =
      shared.setProgress id .upload progress := by
  rw [setUpload, setProgress, modify_congr]
  simp [Operation.withProgress, set]

lemma setDownload_progress {download : Download}
    (set : (shared.operation id).download = some download) :
    shared.setDownload id { download with progress := progress } =
      shared.setProgress id .download progress := by
  rw [setDownload, setProgress, modify_congr]
  simp [Operation.withProgress, set]

/-- Progress of one gist is alike to a lone operation. -/
lemma gist_setProgress (flows : (shared.operation id).Flows progress side)
    (same : other.gist = progress.gist) :
    (shared.setProgress id side other).gist = shared.gist := by
  have kept := Operation.gist_withProgress flows same
  rw [operation, List.getD_eq_getElem?_getD] at kept
  simp only [gist, setProgress, mk.injEq, true_and, and_true]
  refine List.ext_getElem? fun index => ?_
  simp only [List.getElem?_map, List.getElem?_modify]
  cases at_ : shared.operations[index]? with
  | none => rfl
  | some found =>
      by_cases own : id = index
      · subst own
        rw [at_, Option.getD_some] at kept
        simp [kept]
      · simp [own]

lemma feed_of_flows (flows : (shared.operation id).Flows progress side) :
    shared.feed id side =
      match progress.handOut? with
      | some (index, after) => (shared.setProgress id side after, .offering id side index)
      | none => (shared, .idle) := by
  cases side with
  | upload =>
      obtain ⟨upload, uploadId, set, phase, -, rfl⟩ := flows
      simp only [feed, set, Option.bind_some, handOutPart?_of_upload (.inl phase)]
      cases upload.progress.handOut? with
      | none => rfl
      | some handed => simp only [Option.map_some, setUpload_progress set]
  | download =>
      obtain ⟨download, file, set, opened, rfl⟩ := flows
      have gate : download.file.isSome := by rw [opened]; rfl
      simp only [feed, set, Option.bind_some, handOutPart?_of_download (.inl gate)]
      cases download.progress.handOut? with
      | none => rfl
      | some handed => simp only [Option.map_some, setDownload_progress set]

lemma defer_of_flows (flows : (shared.operation id).Flows progress side) (index : Nat) :
    shared.defer id side index =
      match progress.putBack? index with
      | some after => (shared.setProgress id side after, .idle)
      | none => (shared, .forcing id side index) := by
  cases side with
  | upload =>
      obtain ⟨upload, uploadId, set, -, -, rfl⟩ := flows
      simp only [defer, set, Option.bind_some, Upload.putBackPart?]
      cases upload.progress.putBack? index with
      | none => rfl
      | some after => simp only [Option.map_some, setUpload_progress set]
  | download =>
      obtain ⟨download, file, set, -, rfl⟩ := flows
      simp only [defer, set, Option.bind_some, Download.putBackPart?]
      cases download.progress.putBack? index with
      | none => rfl
      | some after => simp only [Option.map_some, setDownload_progress set]

lemma startPart_of_flows (flows : (shared.operation id).Flows progress .upload)
    (enters : progress.enter? = some other) (range : PartSpan) (fromObject : Bool) :
    ∃ later, shared.startPart id range fromObject =
        (shared.setProgress id .upload other, later) ∧
      later.moves? = some .upload ∧ later.operation? = some id := by
  obtain ⟨upload, uploadId, set, phase, known, rfl⟩ := flows
  simp only [startPart, set, enterPart?_of_upload known (.inl phase), enters, Option.map_some,
    setUpload_progress set]
  refine ⟨_, rfl, ?_⟩
  repeat' split
  all_goals exact ⟨rfl, rfl⟩

lemma startDownloadPart_of_flows (flows : (shared.operation id).Flows progress .download)
    (enters : progress.enter? = some other) (range : PartSpan) :
    ∃ later, shared.startDownloadPart id range =
        (shared.setProgress id .download other, later) ∧
      later.moves? = some .download ∧ later.operation? = some id := by
  obtain ⟨download, file, set, opened, rfl⟩ := flows
  simp only [startDownloadPart, set, Download.enterPart?, opened, Option.bind_some, enters,
    Option.map_some]
  rw [← opened, setDownload_progress set]
  refine ⟨_, rfl, ?_⟩
  split
  all_goals exact ⟨rfl, rfl⟩

/-- A part is entered while they are under way. -/
lemma start_of_flows (flows : (shared.operation id).Flows progress side)
    (enters : progress.enter? = some other) (index : Nat) :
    ∃ later, shared.start id ((shared.operation id).moving side index) =
        (shared.setProgress id side other, later) ∧
      later.moves? = some side ∧ later.operation? = some id := by
  unfold Operation.moving Activity.partChore
  cases side with
  | upload =>
      dsimp only
      split
      · exact startPart_of_flows flows enters _ true
      · exact startPart_of_flows flows enters _ false
  | download => exact startDownloadPart_of_flows flows enters _

end Shared
end Pool
end BulkTransfer
