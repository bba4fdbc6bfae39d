import BulkTransfer.Proofs.Download.Dialogue
import BulkTransfer.Proofs.Upload.Dialogue

/-!
# What is told once

The tasks of an operation run on several threads, and whichever of them reports last is told to end
it. Whatever they ask, and in whatever order, the end of a download is told to one of them only, and
so are the completion and the abort of an upload, the completion not after the abort. No part is
given out after that, or after a failure (`told_once`).
-/

namespace BulkTransfer.Multipart

/-- However an upload in any number of parts is asked, the completion is told at most once, the
abort at most once, and the completion not after the abort. No part is given out after a failure has
been recorded or either of them told, and the upload has failed exactly if one was recorded.
Likewise the end of a download is told at most once, and no part is given out after that or after a
failure. -/
theorem told_once (parts chunksize : Nat) :
    (∀ requests : List Upload.Request,
      let held := dialogue Upload.respond (.ofParts parts chunksize) requests
      held.1.countP Upload.tellsCompletion ≤ 1 ∧ held.1.countP Upload.tellsAbort ≤ 1 ∧
        held.1.Pairwise (fun earlier later =>
          ¬(Upload.tellsAbort earlier = true ∧ Upload.tellsCompletion later = true)) ∧
        held.1.Pairwise (fun earlier later =>
          ¬(Upload.closes earlier = true ∧ Upload.passesPart later = true)) ∧
        (held.2.progress.failure ≠ none ↔
          ∃ exchange ∈ held.1, Upload.recordsFailure exchange = true)) ∧
      ∀ requests : List Download.Request,
        let held := dialogue Download.respond (.ofParts parts chunksize) requests
        held.1.countP Download.tellsEnd ≤ 1 ∧
          held.1.Pairwise (fun earlier later =>
            ¬(Download.closes earlier = true ∧ Download.passesPart later = true)) ∧
          (held.2.progress.failure ≠ none ↔
            ∃ exchange ∈ held.1, Download.recordsFailure exchange = true) := by
  constructor
  · intro requests held
    have nears : held.1.Pairwise fun earlier later =>
        Upload.reached earlier ≤ Upload.latest later :=
      pairwise_dialogue (fun upload request => (upload.answers_respond request).nearer) nofun
        requests
    refine ⟨countP_le_one (nears.imp ?_), countP_le_one (nears.imp ?_), nears.imp ?_,
      nears.imp ?_, ?_⟩
    · rintro earlier later order ⟨tells, again⟩
      have leads := Upload.two_le_reached_of_tellsCompletion tells
      have comes := Upload.latest_of_tellsCompletion again
      omega
    · rintro earlier later order ⟨tells, again⟩
      have leads := Upload.reached_of_tellsAbort tells
      have comes := Upload.latest_le_of_tellsAbort again
      omega
    · rintro earlier later order ⟨aborts, completes⟩
      have leads := Upload.reached_of_tellsAbort aborts
      have comes := Upload.latest_of_tellsCompletion completes
      omega
    · rintro earlier later order ⟨closes, passes⟩
      have leads := Upload.one_le_reached_of_closes closes
      have comes := Upload.latest_of_passesPart passes
      omega
    · rw [holds_after_dialogue (fun upload : Upload => upload.progress.failure ≠ none)
        fun upload request => (upload.answers_respond request).failure_iff]
      exact or_iff_right (not_not.2 rfl)
  · intro requests held
    have nears : held.1.Pairwise fun earlier later =>
        Download.reached earlier ≤ Download.latest later :=
      pairwise_dialogue (fun download request _ => (download.answers_respond request).nearer)
        trivial requests
    refine ⟨countP_le_one (nears.imp ?_), nears.imp ?_, ?_⟩
    · rintro earlier later order ⟨tells, again⟩
      have leads := Download.reached_of_tellsEnd tells
      have comes := Download.latest_le_of_tellsEnd again
      omega
    · rintro earlier later order ⟨closes, passes⟩
      have leads := Download.one_le_reached_of_closes closes
      have comes := Download.latest_of_passesPart passes
      omega
    · rw [holds_after_dialogue (fun download : Download => download.progress.failure ≠ none)
        fun download request => (download.answers_respond request).failure_iff]
      exact or_iff_right (not_not.2 rfl)

/-- After the completion has been told the abort can still be, if the upload cannot be completed.
But parts are not given out again, nor is either told once more. -/
example :
    (dialogue Upload.respond (.ofParts 1 8) [.created "id", .partFinished 1 "tag",
      .completionFailed "refused", .created "other", .handOutPart, .partFinished 1 "tag",
        .completionFailed "again"]).1.map Prod.snd =
      [.done, .told .complete, .told .abort, .done, .handedOut none, .told .wait,
        .told .wait] := by
  decide

end BulkTransfer.Multipart
