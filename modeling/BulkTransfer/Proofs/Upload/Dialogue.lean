import BulkTransfer.Proofs.Parts.Stages
import BulkTransfer.Proofs.Upload.Turn

/-!
# Dialogues with an upload

What an upload answers to a request and what becomes of it (`Upload.answers_respond`), whoever asks
and whatever has been asked before. The end of the upload nears with each request
(`Upload.Answers.nearer`): parts are given out and the completion is told only before anything has
failed, the abort only until it has been told, and no request takes back that a part has failed or
that the end has been claimed.
-/

namespace BulkTransfer.Multipart.Upload

/-- What an upload can be asked, whoever asks it and with whatever arguments. -/
inductive Request where
  | look
  | claimCreation
  | created (uploadId : String)
  | creationFailed (reason : String)
  | enterPart
  | partFinished (number : Nat) (tag : String)
  | partLost (reason : String)
  | partRefused (reason : String)
  | toComplete
  | completed
  | completionFailed (reason : String)
  | toAbort
  | abortEnded (aborted : Bool)
  | handOutPart
  | putBackPart (index : Nat)
  deriving DecidableEq, Repr

/-- What an upload answers. -/
inductive Response where
  | done
  | seen (upload : Upload)
  | accepted (accepted : Bool)
  | told (next : NextStep)
  | entered (uploadId : Option String)
  | handedOut (index : Option Nat)
  | toComplete (parts : Option (String × List FinishedPart))
  | toAbort (target : Option (String × String))
  deriving DecidableEq, Repr

/-- What an upload answers to a request, and the upload afterwards. -/
def respond (upload : Upload) : Request → Response × Upload
  | .look => (.seen upload, upload)
  | .claimCreation =>
      match upload.claimCreation? with
      | some after => (.accepted true, after)
      | none => (.accepted false, upload)
  | .created uploadId => (.done, upload.created uploadId)
  | .creationFailed reason => (.done, upload.creationFailed reason)
  | .enterPart =>
      match upload.enterPart? with
      | some (uploadId, after) => (.entered uploadId, after)
      | none => (.entered none, upload)
  | .partFinished number tag => (upload.partFinished number tag).map .told id
  | .partLost reason => (upload.partLost reason).map .told id
  | .partRefused reason => (upload.partRefused reason).map .told id
  | .toComplete => (.toComplete upload.toComplete?, upload)
  | .completed => (.done, upload.completed)
  | .completionFailed reason => (upload.completionFailed reason).map .told id
  | .toAbort => (.toAbort upload.toAbort?, upload)
  | .abortEnded aborted => (.done, upload.abortEnded aborted)
  | .handOutPart =>
      match upload.handOutPart? with
      | some (index, after) => (.handedOut (some index), after)
      | none => (.handedOut none, upload)
  | .putBackPart index =>
      match upload.putBackPart? index with
      | some after => (.accepted true, after)
      | none => (.accepted false, upload)

/-- Whether somebody is told to complete the upload. -/
def tellsCompletion : Request × Response → Bool
  | (_, .told .complete) => true
  | _ => false

/-- Whether somebody is told to abort the upload. -/
def tellsAbort : Request × Response → Bool
  | (_, .told .abort) => true
  | _ => false

/-- Whether a part is entered or handed out. -/
def passesPart : Request × Response → Bool
  | (_, .entered (some _)) | (_, .handedOut (some _)) => true
  | _ => false

/-- Whether a failure is recorded. The failure of a completion is recorded only while the upload is
to be completed, and then the abort is the answer. -/
def recordsFailure : Request × Response → Bool
  | (.creationFailed _, _) | (.partLost _, _) | (.partRefused _, _) => true
  | (.completionFailed _, .told .abort) => true
  | _ => false

/-- Whether parts are no longer given out after an exchange. -/
def closes (exchange : Request × Response) : Bool :=
  recordsFailure exchange || tellsCompletion exchange || tellsAbort exchange

/-- The stage of an upload. Between a failed part (1) and the end (3) it is to be completed (2),
which can still fail. -/
def stage (upload : Upload) : Nat :=
  if upload.phase = .completing then 2 else upload.progress.stage

/-- Whether an upload is to be completed only after its end has been claimed. -/
def Sound (upload : Upload) : Prop :=
  upload.phase = .completing → upload.progress.endClaimed = true

/-- The last stage at which an exchange is possible. -/
def latest (exchange : Request × Response) : Nat :=
  if tellsCompletion exchange || passesPart exchange then 0
  else if tellsAbort exchange then 2 else 3

/-- The stage to which an exchange leads at least. -/
def reached (exchange : Request × Response) : Nat :=
  if tellsAbort exchange then 3
  else if tellsCompletion exchange then 2
  else if recordsFailure exchange then 1 else 0

variable {upload after : Upload}

lemma stage_of_phase (other : upload.phase ≠ .completing) :
    upload.stage = upload.progress.stage :=
  if_neg other

lemma stage_of_completing (completing : upload.phase = .completing) : upload.stage = 2 :=
  if_pos completing

lemma stage_le (upload : Upload) : upload.stage ≤ 3 := by
  unfold stage
  split
  · decide
  · exact Progress.stage_le _

lemma one_le_stage (failed : upload.progress.failure ≠ none) : 1 ≤ upload.stage := by
  unfold stage
  split
  · decide
  · exact Progress.one_le_stage failed

lemma Sound.phase_ne (sound : upload.Sound) (unclaimed : upload.progress.endClaimed = false) :
    upload.phase ≠ .completing := by
  intro completing
  rw [sound completing] at unclaimed
  cases unclaimed

lemma Sound.stage_eq_zero (sound : upload.Sound) (intact : upload.progress.failure = none)
    (unclaimed : upload.progress.endClaimed = false) : upload.stage = 0 := by
  rw [stage_of_phase (sound.phase_ne unclaimed), Progress.stage_eq_zero intact unclaimed]

/-- What does not start the completion leaves the upload sound and its stage where it is or brings
it further, since before the completion the end has been claimed. -/
lemma Sound.keep (sound : upload.Sound)
    (phase : after.phase = .completing → upload.phase = .completing)
    (failed : upload.progress.failure ≠ none → after.progress.failure ≠ none)
    (claimed : upload.progress.endClaimed = true → after.progress.endClaimed = true) :
    after.Sound ∧ upload.stage ≤ after.stage := by
  have still : after.Sound := fun completing => claimed (sound (phase completing))
  refine ⟨still, ?_⟩
  by_cases before : upload.phase = .completing
  · rw [stage_of_completing before]
    by_cases same : after.phase = .completing
    · exact Nat.le_of_eq (stage_of_completing same).symm
    · rw [stage_of_phase same, Progress.stage_of_endClaimed (claimed (sound before))]
      decide
  · have other : after.phase ≠ .completing := fun completing => before (phase completing)
    rw [stage_of_phase before, stage_of_phase other]
    exact Progress.stage_le_stage failed claimed

/-! ### What a request does -/

/-- What an upload can answer and what becomes of it. -/
inductive Answers (upload : Upload) : Request × Response → Upload → Prop
  | quiet {exchange : Request × Response} {after : Upload} (plain : closes exchange = false)
      (keeps : passesPart exchange = false)
      (phase : after.phase = .completing → upload.phase = .completing)
      (failure : after.progress.failure = upload.progress.failure)
      (claimed : after.progress.endClaimed = upload.progress.endClaimed) :
      Answers upload exchange after
  | passed {exchange : Request × Response} {progress : Progress} (plain : closes exchange = false)
      (intact : upload.progress.failure = none) (unclaimed : upload.progress.endClaimed = false)
      (failure : progress.failure = upload.progress.failure) :
      Answers upload exchange { upload with progress := progress }
  | uncreated (reason : String) :
      Answers upload (.creationFailed reason, .done) (upload.creationFailed reason)
  | reported {request : Request} {noted : Upload} {lost : Bool}
      (phase : noted.phase = upload.phase)
      (claimed : noted.progress.endClaimed = upload.progress.endClaimed)
      (failure : noted.progress.failure ≠ none ↔ upload.progress.failure ≠ none ∨ lost = true)
      (loss : ∀ next, recordsFailure (request, .told next) = lost) :
      Answers upload (request, .told noted.advance.1) noted.advance.2
  | incomplete (reason : String) (completing : upload.phase = .completing) :
      Answers upload (.completionFailed reason, .told .abort)
        { upload with phase := .aborting, progress := upload.progress.markFailed reason }

/-- Each request is answered in one of these ways. -/
theorem answers_respond (upload : Upload) (request : Request) :
    Answers upload (request, (respond upload request).1) (respond upload request).2 := by
  cases request with
  | look | toComplete | toAbort => exact .quiet rfl rfl id rfl rfl
  | created | completed => exact .quiet rfl rfl nofun rfl rfl
  | abortEnded aborted => cases aborted <;> exact .quiet rfl rfl nofun rfl rfl
  | creationFailed reason => exact .uncreated reason
  | claimCreation =>
      simp only [respond]
      cases claims : upload.claimCreation? with
      | none => exact .quiet rfl rfl id rfl rfl
      | some after =>
          obtain ⟨-, claimed⟩ := Option.ite_none_right_eq_some.1 claims
          cases claimed
          exact .quiet rfl rfl nofun rfl rfl
  | enterPart =>
      simp only [respond]
      cases enters : upload.enterPart? with
      | none => exact .quiet rfl rfl id rfl rfl
      | some answer =>
          obtain ⟨-, entered⟩ := Option.ite_none_right_eq_some.1 enters
          obtain ⟨progress, begun, rfl⟩ := Option.map_eq_some_iff.1 entered
          obtain ⟨intact, unclaimed, rfl⟩ := Progress.of_enter? begun
          exact .passed rfl intact unclaimed rfl
  | handOutPart =>
      simp only [respond]
      cases hands : upload.handOutPart? with
      | none => exact .quiet rfl rfl id rfl rfl
      | some answer =>
          obtain ⟨-, handed⟩ := Option.ite_none_right_eq_some.1 hands
          obtain ⟨part, taken, rfl⟩ := Option.map_eq_some_iff.1 handed
          obtain ⟨intact, unclaimed, same, -⟩ := Progress.open_of_handOut? taken
          exact .passed rfl intact unclaimed same
  | putBackPart index =>
      simp only [respond]
      cases puts : upload.putBackPart? index with
      | none => exact .quiet rfl rfl id rfl rfl
      | some after =>
          obtain ⟨progress, back, rfl⟩ := Option.map_eq_some_iff.1 puts
          obtain ⟨-, rfl⟩ := Progress.of_putBack? back
          exact .quiet rfl rfl id rfl rfl
  | partFinished number tag =>
      exact .reported rfl rfl (or_iff_left Bool.false_ne_true).symm fun _ => rfl
  | partLost reason =>
      have failed : (upload.progress.partLost reason true).failure ≠ none :=
        Progress.failure_partLost true
      exact .reported rfl rfl (iff_of_true failed (.inr rfl)) fun _ => rfl
  | partRefused reason =>
      have failed : (upload.progress.partLost reason false).failure ≠ none :=
        Progress.failure_partLost false
      exact .reported rfl rfl (iff_of_true failed (.inr rfl)) fun _ => rfl
  | completionFailed reason =>
      simp only [respond, completionFailed]
      by_cases completing : upload.phase = .completing
      · rw [if_pos completing]
        exact .incomplete reason completing
      · rw [if_neg completing]
        exact .quiet rfl rfl id rfl rfl

/-! ### The end nears -/

variable {exchange : Request × Response}

lemma latest_of_plain (plain : closes exchange = false)
    (keeps : passesPart exchange = false) : latest exchange = 3 := by
  simp only [closes, Bool.or_eq_false_iff] at plain
  simp [latest, plain, keeps]

lemma reached_of_plain (plain : closes exchange = false) : reached exchange = 0 := by
  simp only [closes, Bool.or_eq_false_iff] at plain
  simp [reached, plain]

lemma latest_of_tellsCompletion (tells : tellsCompletion exchange = true) :
    latest exchange = 0 := by
  simp [latest, tells]

lemma latest_of_passesPart (passes : passesPart exchange = true) : latest exchange = 0 := by
  simp [latest, passes]

lemma latest_le_of_tellsAbort (tells : tellsAbort exchange = true) : latest exchange ≤ 2 := by
  unfold latest
  rw [if_pos tells]
  split <;> decide

lemma reached_of_tellsAbort (tells : tellsAbort exchange = true) : reached exchange = 3 :=
  if_pos tells

lemma two_le_reached_of_tellsCompletion (tells : tellsCompletion exchange = true) :
    2 ≤ reached exchange := by
  unfold reached
  rw [if_pos tells]
  split <;> decide

lemma one_le_reached_of_closes (closes : closes exchange = true) : 1 ≤ reached exchange := by
  simp only [Upload.closes, Bool.or_eq_true] at closes
  obtain (records | tells) | tells := closes
  · unfold reached
    rw [if_pos records]
    split
    · decide
    · split <;> decide
  · exact Nat.le_of_succ_le (two_le_reached_of_tellsCompletion tells)
  · rw [reached_of_tellsAbort tells]
    decide

/-- The abort is told before the end and leads to it. -/
lemma nearer_abort {request : Request} (other : after.phase ≠ .completing)
    (claimed : after.progress.endClaimed = true) (pending : upload.stage ≤ 2) :
    Nearer Sound stage latest reached upload (request, .told .abort) after := by
  have three : after.stage = 3 := by
    rw [stage_of_phase other, Progress.stage_of_endClaimed claimed]
  refine ⟨fun completing => absurd completing other, ?_, pending, ?_⟩
  · rw [three]
    exact upload.stage_le
  · exact Nat.le_of_eq three.symm

/-- What is told after an event: nothing, or the abort after a failure and the completion before
any, and then nobody has claimed the end. -/
lemma Sound.advance (sound : upload.Sound) {request : Request}
    (lost : ∀ next, recordsFailure (request, .told next) = true → upload.progress.failure ≠ none) :
    Nearer Sound stage latest reached upload (request, .told upload.advance.1)
      upload.advance.2 := by
  cases last : upload.progress.claimEnd? with
  | none =>
      rw [advance_of_none last]
      refine ⟨sound, Nat.le_refl _, upload.stage_le, ?_⟩
      show (if recordsFailure (request, .told .wait) then 1 else 0) ≤ upload.stage
      split
      · next recorded => exact one_le_stage (lost _ recorded)
      · exact Nat.zero_le _
  | some progress =>
      rw [advance_of_some last]
      obtain ⟨unclaimed, -, rfl⟩ := Progress.of_claimEnd? last
      by_cases intact : upload.progress.failure = none
      · have zero := sound.stage_eq_zero intact unclaimed
        have completing : (upload.closing { upload.progress with endClaimed := true }).phase =
            .completing := if_pos intact
        rw [if_pos intact]
        apply Nearer.of_stage_eq_zero (fun _ => rfl) zero
        exact Nat.le_of_eq (stage_of_completing completing).symm
      · have aborting : (upload.closing { upload.progress with endClaimed := true }).phase =
            .aborting := if_neg intact
        rw [if_neg intact]
        apply nearer_abort
        · rw [aborting]
          decide
        · rfl
        · rw [stage_of_phase (sound.phase_ne unclaimed)]
          exact Nat.le_succ_of_le (Progress.stage_le_one unclaimed)

/-- The end of an upload nears with each request. -/
theorem Answers.nearer (answers : Answers upload exchange after) (sound : upload.Sound) :
    Nearer Sound stage latest reached upload exchange after := by
  cases answers with
  | quiet plain keeps phase failure claimed =>
      obtain ⟨still, rises⟩ := sound.keep phase (failure ▸ id) (claimed ▸ id)
      refine ⟨still, rises, ?_, ?_⟩
      · rw [latest_of_plain plain keeps]
        exact upload.stage_le
      · rw [reached_of_plain plain]
        exact Nat.zero_le _
  | @passed exchange progress plain intact unclaimed failure =>
      have zero := sound.stage_eq_zero intact unclaimed
      have other := sound.phase_ne unclaimed
      apply Nearer.of_stage_eq_zero (fun completing => absurd completing other) zero
      rw [reached_of_plain plain]
      exact Nat.zero_le _
  | uncreated reason =>
      have failed : (upload.creationFailed reason).progress.failure ≠ none :=
        Progress.failure_partLost false
      have unfinished : (upload.creationFailed reason).phase ≠ .completing := nofun
      obtain ⟨still, rises⟩ := sound.keep (fun completing => absurd completing unfinished)
        (fun _ => failed) fun _ => rfl
      exact ⟨still, rises, upload.stage_le, one_le_stage failed⟩
  | @reported request noted lost phase claimed failure loss =>
      have failed : upload.progress.failure ≠ none → noted.progress.failure ≠ none :=
        fun failed => failure.2 (.inl failed)
      obtain ⟨still, rises⟩ := sound.keep (phase ▸ id) failed (claimed ▸ id)
      have told := still.advance fun next recorded => failure.2 (.inr (loss next ▸ recorded))
      exact told.of_noted rises
  | incomplete reason completing =>
      exact nearer_abort nofun (sound completing) (Nat.le_of_eq (stage_of_completing completing))

lemma failure_advance (upload : Upload) :
    upload.advance.2.progress.failure = upload.progress.failure := by
  cases last : upload.progress.claimEnd? with
  | none => rw [advance_of_none last]
  | some progress =>
      obtain ⟨-, -, rfl⟩ := Progress.of_claimEnd? last
      rw [advance_of_some last]
      rfl

/-- A failure that an upload has after a request was there before, or the exchange records it. -/
lemma Answers.failure_iff (answers : Answers upload exchange after) :
    after.progress.failure ≠ none ↔
      upload.progress.failure ≠ none ∨ recordsFailure exchange = true := by
  have unrecorded (plain : closes exchange = false) : recordsFailure exchange = false := by
    simp only [closes, Bool.or_eq_false_iff] at plain
    exact plain.1.1
  cases answers with
  | quiet plain _ _ failure _ | passed plain _ _ failure => simp [failure, unrecorded plain]
  | uncreated reason => exact iff_of_true (Progress.failure_partLost false) (.inr rfl)
  | reported _ _ failure loss => rw [failure_advance, failure, loss]
  | incomplete reason completing => exact iff_of_true (Option.some_ne_none _) (.inr rfl)

end BulkTransfer.Multipart.Upload
