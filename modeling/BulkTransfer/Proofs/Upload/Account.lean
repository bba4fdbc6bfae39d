import BulkTransfer.Proofs.Upload.Steering

/-!
# What the turns at the parts of an upload keep

A turn at the parts keeps their account, and either leaves hands at the parts and the phase of the
upload, or closes the parts and leaves the hand that leads the upload from then on
(`UploadTurn.kind`). Once the parts are closed, such turns change neither the failure nor the
finished parts (`UploadTurn.of_claimed`).
-/

namespace BulkTransfer

open Pool Multipart

namespace Pool

namespace UploadTurn

variable {operation : Operation} {id : OperationId} {uploadId : String} {upload next : Upload}
  {activity : Activity} {notes : List Event} {left rest : Multiset Activity}

/-- Every turn at the parts keeps their account. -/
lemma accounts (turn : UploadTurn operation id uploadId upload activity next notes left)
    (accounts : Accounts upload.progress (activity ::ₘ rest)) :
    Accounts next.progress (left + rest) := by
  cases turn with
  | queued queueing => exact queueing.accounts accounts
  | skipped moves closed =>
      simp [Accounts, Activity.role?_starting id moves] at accounts ⊢
      exact accounts.skip closed
  | @entered chore range progress later moves entered begins =>
      have runs : later.role? = some .runner := by
        rcases begins with rfl | ⟨store, call, rfl, -⟩ | ⟨error, rfl⟩ <;> rfl
      simp [Accounts, Activity.role?_starting id moves, runs] at accounts ⊢
      exact accounts.enter entered
  | read goes =>
      rcases goes with ⟨store, call, rfl, -⟩ | ⟨error, rfl⟩
      · simp [Accounts, Activity.role?] at accounts ⊢
        exact accounts
      · simp [Accounts, Activity.role?] at accounts ⊢
        exact accounts
  | sent | tagged | untagged =>
      simp [Accounts, Activity.role?] at accounts ⊢
      exact accounts
  | done pending =>
      simp [Accounts, Activity.role?] at accounts ⊢
      exact accounts.finish pending
  | doneLast last =>
      simp [Accounts, Activity.role?, closingHand] at accounts ⊢
      exact accounts.finishLast last
  | @lost error began pending =>
      have settled : (upload.progress.partLost error.message began).settled =
          upload.progress.partLost error.message began := by rw [Progress.settled, pending]; rfl
      cases began with
      | true =>
          simp [Accounts] at accounts ⊢
          rw [← settled]
          exact accounts.lose
      | false =>
          simp [Accounts] at accounts ⊢
          rw [← settled]
          exact accounts.report
  | @lostLast error began progress last =>
      have settled : (upload.progress.partLost error.message began).settled = progress := by
        rw [Progress.settled, last]; rfl
      cases began with
      | true =>
          simp [Accounts, Activity.role?, closingHand] at accounts ⊢
          rw [← settled]
          exact accounts.lose
      | false =>
          simp [Accounts, Activity.role?, closingHand] at accounts ⊢
          rw [← settled]
          exact accounts.report

/-- A turn at the parts leaves the phase and hands at the parts, or closes the parts. -/
theorem kind (turn : UploadTurn operation id uploadId upload activity next notes left)
    (uploading : activity.isUploading id uploadId) :
    (next.phase = upload.phase ∧ next.progress.endClaimed = upload.progress.endClaimed ∧
        ∀ hand ∈ left, hand.isUploading id uploadId) ∨
      upload.progress.endClaimed = false ∧ next.progress.endClaimed = true ∧ notes = [] ∧
        left = {closingHand id next.progress} ∧
          next.phase = if next.progress.failure = none then .completing else .aborting := by
  cases turn with
  | queued queueing =>
      refine .inl ⟨rfl, queueing.failure.2.1, ?_⟩
      have uploads (range : PartSpan) :
          (Activity.starting id (Activity.partChore operation .upload range)).isUploading id
            uploadId := by
        unfold Activity.partChore
        dsimp only
        split <;> exact rfl
      cases queueing with
      | accepted index =>
          simp only [Multiset.insert_eq_cons, Multiset.mem_cons, Multiset.mem_singleton]
          rintro hand (rfl | rfl)
          · exact ⟨rfl, rfl⟩
          · exact uploads _
      | forced index => exact only_hand (uploads _)
      | nothingLeft | takenBack => exact no_hand
      | _ => exact only_hand ⟨rfl, rfl⟩
  | skipped moves closed => exact .inl ⟨rfl, rfl, no_hand⟩
  | entered moves entered begins =>
      obtain ⟨-, -, rfl⟩ := Progress.of_enter? entered
      refine .inl ⟨rfl, rfl, only_hand ?_⟩
      rcases begins with rfl | ⟨store, call, rfl, number, known⟩ | ⟨error, rfl⟩
      · exact ⟨rfl, rfl⟩
      · exact ⟨rfl, number, known⟩
      · exact ⟨rfl, rfl⟩
  | read goes =>
      refine .inl ⟨rfl, rfl, only_hand ?_⟩
      rcases goes with ⟨store, call, rfl, number, known⟩ | ⟨error, rfl⟩
      · exact ⟨rfl, number, known⟩
      · exact ⟨rfl, rfl⟩
  | sent range store call => exact .inl ⟨rfl, rfl, only_hand uploading⟩
  | tagged has | done pending =>
      refine .inl ⟨rfl, rfl, only_hand ?_⟩
      simp [Activity.isUploading]
  | untagged error lacks => exact .inl ⟨rfl, rfl, only_hand ⟨rfl, rfl⟩⟩
  | doneLast last | lostLast last =>
      obtain ⟨unclaimed, -, rfl⟩ := Progress.of_claimEnd? last
      exact .inr ⟨unclaimed, rfl, rfl, rfl, rfl⟩
  | lost pending => exact .inl ⟨rfl, rfl, no_hand⟩

/-- What no turn at the parts changes, and how it changes the failure. -/
lemma same (turn : UploadTurn operation id uploadId upload activity next notes left) :
    next.uploadId = upload.uploadId ∧ next.progress.total = upload.progress.total ∧
      next.progress.failure = upload.progress.failure.or activity.loss? := by
  cases turn with
  | @queued barred activity progress left queueing =>
      obtain ⟨failure, -, total⟩ := queueing.failure
      have silent : activity.loss? = none := by cases queueing <;> rfl
      exact ⟨rfl, total, by rw [silent, Option.or_none]; exact failure⟩
  | entered moves entered begins =>
      obtain ⟨-, -, rfl⟩ := Progress.of_enter? entered
      exact ⟨rfl, rfl, (Option.or_none).symm⟩
  | doneLast last =>
      obtain ⟨-, -, rfl⟩ := Progress.of_claimEnd? last
      exact ⟨rfl, rfl, (Option.or_none).symm⟩
  | lost pending =>
      refine ⟨rfl, rfl, ?_⟩
      cases failure : upload.progress.failure <;>
        simp [Progress.partLost, Progress.markFailed, failure, Activity.loss?]
  | lostLast last =>
      obtain ⟨-, -, rfl⟩ := Progress.of_claimEnd? last
      refine ⟨rfl, rfl, ?_⟩
      cases failure : upload.progress.failure <;>
        simp [Upload.closing, Progress.partLost, Progress.markFailed, failure, Activity.loss?]
  | _ => exact ⟨rfl, rfl, (Option.or_none).symm⟩

/-- Once the parts are closed, the failure and the finished parts stay as they are. -/
theorem of_claimed (turn : UploadTurn operation id uploadId upload activity next notes left)
    (accounts : Accounts upload.progress (activity ::ₘ rest))
    (claimed : upload.progress.endClaimed = true) :
    next.progress.failure = upload.progress.failure ∧ next.parts = upload.parts := by
  have idle := (accounts.claimed claimed).1
  cases turn with
  | queued queueing => exact ⟨queueing.failure.1, rfl⟩
  | entered moves entered begins =>
      obtain ⟨-, unclaimed, -⟩ := Progress.of_enter? entered
      rw [claimed] at unclaimed
      cases unclaimed
  | doneLast last | done pending => simp [Activity.role?] at idle
  | @lost error began pending =>
      refine ⟨?_, rfl⟩
      cases failure : upload.progress.failure with
      | some reason => simp [Progress.partLost, Progress.markFailed, failure]
      | none =>
          have none := (accounts.claimed claimed).2 failure
          cases began
          · simp at none
          · simp at idle
  | lostLast last =>
      obtain ⟨unclaimed, -, -⟩ := Progress.of_claimEnd? last
      rw [show upload.progress.endClaimed = false from unclaimed] at claimed
      cases claimed
  | _ => exact ⟨rfl, rfl⟩

/-- What happens in a turn at the parts is about a part, and a call is for one that has not been
called yet. -/
lemma notes_isPart (turn : UploadTurn operation id uploadId upload activity next notes left)
    (uploading : activity.isUploading id uploadId) :
    (∀ event ∈ notes, event.isPart = true) ∧
      ((∀ store call, .called store id call ∉ notes) ∨
        ∃ store call number, notes = [.called store id call] ∧ call.partNumber? = some number ∧
          call.uploadId? = some uploadId ∧ activity.uncalled? = some number ∧
            activity.role? = some .runner) := by
  cases turn with
  | sent range store call =>
      obtain ⟨-, number, known⟩ := uploading
      refine ⟨?_, .inr ⟨store, call, range.number, rfl, number, known, rfl, rfl⟩⟩
      simp [Event.isPart, Event.partCalled?, number]
  | tagged has | untagged error lacks =>
      obtain ⟨-, number, -⟩ := uploading
      refine ⟨?_, .inl (by simp)⟩
      simp [Event.isPart, Event.partAnswered?, number]
  | _ => exact ⟨List.forall_mem_nil _, .inl (by simp)⟩

end UploadTurn
end Pool
end BulkTransfer
